import ChartQuery.Chart.Document
import ChartQuery.Proofs.Json.Record
import ChartQuery.Proofs.Sample

/-!
# Charts that are read back

The object of an entry holds two members of its own and, beside them, all of its
options.  It can be taken apart again if no option has the name of one of the
two; `AxisEntry.Separate` says so.  Whatever a document looks like, the entries
that are read from it are of this kind, and a chart of such entries is read as
it was written: its axes are there or not as before, and no option is lost,
moved or taken for something else.
-/

namespace ChartQuery

namespace AxisEntry

/-- No option has the name of a declared member. -/
def Separate (entry : AxisEntry) : Prop :=
  ∀ key ∈ declared, key ∉ Keyed.keys entry.options

/-- The members that an entry is written with, before its options. -/
def members (entry : AxisEntry) : List (String × Json) :=
  ("functionType", .string entry.function) ::
    match entry.field with
    | some field => [("aggregationField", .string field)]
    | none => []

variable {entry : AxisEntry}

theorem members_ordered (entry : AxisEntry) :
    (Keyed.keys entry.members).Sublist declared := by
  rcases entry with ⟨function, field, options, distinct⟩
  cases field <;> simp [members, Keyed.keys, declared]

theorem mem_declared_of_mem_members {member : String × Json}
    (written : member ∈ entry.members) : member.1 ∈ declared :=
  (members_ordered entry).subset (Keyed.mem_keys written)

theorem record?_toJson (separate : entry.Separate) :
    Json.record? declared entry.toJson = some entry.members := by
  have own : entry.members.filter (fun member => member.1 ∈ declared) =
      entry.members := by
    rw [List.filter_eq_self]
    intro member written
    exact decide_eq_true (mem_declared_of_mem_members written)
  -- The options share the object, and their names alone tell them apart.
  have others :
      entry.options.filter (fun member => member.1 ∈ declared) = [] := by
    rw [List.filter_eq_nil_iff]
    intro member written isDeclared
    exact separate member.1 (of_decide_eq_true isDeclared)
      (Keyed.mem_keys written)
  have kept : (entry.members ++ entry.options).filter
      (fun member => member.1 ∈ declared) = entry.members := by
    rw [List.filter_append, own, others, List.append_nil]
  have written : entry.toJson = .object (entry.members ++ entry.options) := rfl
  have apart : declared.Nodup := by decide
  have distinct : Keyed.Distinct entry.members :=
    apart.sublist (members_ordered entry)
  simp only [written, Json.record?, kept]
  exact if_pos distinct

theorem filter_not_declared (separate : entry.Separate) :
    (entry.members ++ entry.options).filter
        (fun member => member.1 ∉ declared) =
      entry.options := by
  have own : entry.members.filter (fun member => member.1 ∉ declared) = [] := by
    rw [List.filter_eq_nil_iff]
    intro member written other
    exact of_decide_eq_true other (mem_declared_of_mem_members written)
  have others : entry.options.filter (fun member => member.1 ∉ declared) =
      entry.options := by
    rw [List.filter_eq_self]
    intro member written
    refine decide_eq_true fun isDeclared => ?_
    exact separate member.1 isDeclared (Keyed.mem_keys written)
  rw [List.filter_append, own, others, List.nil_append]

theorem ofJson?_toJson (separate : entry.Separate) :
    ofJson? entry.toJson = some entry := by
  have function : Json.required? entry.members "functionType"
      Json.asString? = some entry.function := rfl
  have field : Json.optional? entry.members "aggregationField"
      Json.asString? = some entry.field := by
    unfold members
    cases entry.field <;> rfl
  have options : Keyed.ofList ((entry.members ++ entry.options).filter
      (fun member => member.1 ∉ declared)) = entry.options := by
    rw [filter_not_declared separate, Keyed.ofList_of_distinct entry.distinct]
  have declaredMembers := record?_toJson separate
  have written : entry.toJson = .object (entry.members ++ entry.options) := rfl
  rw [written] at declaredMembers ⊢
  simp only [ofJson?, declaredMembers, Option.bind_eq_bind, Option.bind_some,
    function, field, options]
  rfl

/-- An entry that was read has its declared members apart from its options. -/
theorem separate_of_ofJson? {document : Json}
    (read : ofJson? document = some entry) : entry.Separate := by
  cases document with
  | object written =>
      simp only [ofJson?, Option.bind_eq_bind, Option.bind_eq_some_iff] at read
      rcases read with ⟨fields, _, function, _, field, _, made⟩
      cases made
      intro key isDeclared there
      rcases List.mem_map.mp (Keyed.mem_keys_ofList.mp there) with
        ⟨member, kept, rfl⟩
      exact of_decide_eq_true (List.mem_filter.mp kept).2 isDeclared
  | _ => cases read

end AxisEntry

namespace Chart

/-- Every entry of the chart has its declared members apart from its options. -/
def Separate (chart : Chart) : Prop :=
  ∀ axis, ∀ entry ∈ chart.entries axis, entry.Separate

/-- The members that a chart is written with. -/
def members (chart : Chart) : List (String × Json) :=
  [("data_view", .string chart.dataView),
    ("module_type", .string chart.moduleType)] ++
    axisMember .main chart.main ++ axisMember .value chart.value

theorem record?_toJson (chart : Chart) :
    Json.record? declared chart.toJson = some chart.members := by
  have ordered : (Keyed.keys chart.members).Sublist declared := by
    unfold members
    cases chart.main <;> cases chart.value <;>
      simp [axisMember, Axis.name, Keyed.keys, declared]
  exact Json.record?_object (by decide) ordered

/-- The entries of an axis are written so that they are read back. -/
theorem optional?_of_axisMember (axis : Axis) {fields : Keyed String Json}
    {entries? : Option (List AxisEntry)}
    (found : Keyed.get? axis.name fields =
      entries?.map fun entries => .array (entries.map AxisEntry.toJson))
    (separate : ∀ entry ∈ entries?.getD [], entry.Separate) :
    Json.optional? fields axis.name (Json.list? AxisEntry.ofJson?) =
      some entries? := by
  refine Json.optional?_of_written _ found fun entries present => ⟨nofun, ?_⟩
  refine Json.list?_map fun entry there => ?_
  refine AxisEntry.ofJson?_toJson (separate entry ?_)
  rw [present]
  exact there

theorem ofJson?_toJson {chart : Chart} (separate : chart.Separate) :
    ofJson? chart.toJson = some chart := by
  have dataView : Json.defaulted? chart.members "data_view" ""
      Json.asString? = some chart.dataView := rfl
  have moduleType : Json.defaulted? chart.members "module_type" ""
      Json.asString? = some chart.moduleType := rfl
  have main : Json.optional? chart.members "main_axis"
      (Json.list? AxisEntry.ofJson?) = some chart.main := by
    refine optional?_of_axisMember .main ?_ (separate .main)
    unfold members
    cases chart.main <;> cases chart.value <;> rfl
  have value : Json.optional? chart.members "value_axis"
      (Json.list? AxisEntry.ofJson?) = some chart.value := by
    refine optional?_of_axisMember .value ?_ (separate .value)
    unfold members
    cases chart.main <;> cases chart.value <;> rfl
  simp only [ofJson?, record?_toJson, Option.bind_eq_bind, Option.bind_some,
    dataView, moduleType, main, value]
  rfl

theorem separate_of_optional? {fields : Keyed String Json} {name : String}
    {entries? : Option (List AxisEntry)}
    (read : Json.optional? fields name (Json.list? AxisEntry.ofJson?) =
      some entries?) :
    ∀ entry ∈ entries?.getD [], entry.Separate := by
  intro entry there
  cases entries? with
  | none => cases there
  | some entries =>
      rcases Json.exists_of_optional? read with ⟨_, listed⟩
      rcases Json.exists_of_mem_list? listed there with ⟨_, found⟩
      exact AxisEntry.separate_of_ofJson? found

theorem separate_of_ofJson? {document : Json} {chart : Chart}
    (read : ofJson? document = some chart) : chart.Separate := by
  simp only [ofJson?, Option.bind_eq_bind, Option.bind_eq_some_iff] at read
  rcases read with
    ⟨fields, _, dataView, _, moduleType, _, main, mainRead, value, valueRead,
      made⟩
  cases made
  intro axis
  cases axis with
  | main => exact separate_of_optional? mainRead
  | value => exact separate_of_optional? valueRead

/-- Reading a chart leaves nothing to normalise: what is written of it is read
as the same chart, and no declared member is among the options of an entry. -/
theorem normalised_of_ofJson? {document : Json} {chart : Chart}
    (read : ofJson? document = some chart) :
    ofJson? chart.toJson = some chart ∧
      ∀ axis, ∀ entry ∈ chart.entries axis,
        "functionType" ∉ Keyed.keys entry.options ∧
          "aggregationField" ∉ Keyed.keys entry.options := by
  have separate := separate_of_ofJson? read
  refine ⟨ofJson?_toJson separate, fun axis entry there => ?_⟩
  have apart := separate axis entry there
  exact ⟨apart _ (by decide), apart _ (by decide)⟩

/-- An array with options left `null` around what is declared, and no values. -/
theorem normalised_of_ofJson?_respelled :
    ofJson? Sample.respelledArray = some Sample.respelled ∧
      ofJson? Sample.respelled.toJson = some Sample.respelled ∧
      ∀ axis, ∀ entry ∈ Sample.respelled.entries axis,
        "functionType" ∉ Keyed.keys entry.options ∧
          "aggregationField" ∉ Keyed.keys entry.options := by
  have read : ofJson? Sample.respelledArray = some Sample.respelled := by
    decide +kernel
  exact ⟨read, normalised_of_ofJson? read⟩

end Chart

end ChartQuery
