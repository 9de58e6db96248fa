import ChartQuery.Aggregation.Document
import ChartQuery.Proofs.Keyed

/-!
# Typed documents that are read back

Writing a typed document and reading it gives every member its value again, as
long as the document writes its members in declared order.  Members that are
left out when they have no value are read as having none, so such a member must
not have the value `null`.  A table is read back when its keys differ.
-/

namespace ChartQuery.Json

/-! ## Words -/

@[simp]
theorem asUInt64?_ofUInt64 (word : UInt64) :
    (ofUInt64 word).asUInt64? = some word := by
  simp [ofUInt64, asUInt64?, Number.ofUInt64, Number.toUInt64?]

@[simp]
theorem asInt64?_ofInt64 (word : Int64) :
    (ofInt64 word).asInt64? = some word := by
  have fits : word.toInt < 9223372036854775808 := word.toInt_lt
  simp [ofInt64, asInt64?, Number.ofInt64, Number.toInt64?, fits]

/-! ## Members -/

/-- Members that are written in declared order are all read. -/
theorem record?_object {declared : List String}
    {members : List (String × Json)} (apart : declared.Nodup)
    (ordered : (Keyed.keys members).Sublist declared) :
    record? declared (.object members) = some members := by
  have kept :
      members.filter (fun member => member.1 ∈ declared) = members := by
    rw [List.filter_eq_self]
    intro member there
    exact decide_eq_true (ordered.subset (List.mem_map_of_mem there))
  have distinct : Keyed.Distinct members := apart.sublist ordered
  simp only [record?, kept]
  exact if_pos distinct

/-- A member that is left out when it has no value is read as it was. -/
theorem optional?_of_written {α : Type} (write : α → Json)
    {fields : Keyed String Json} {name : String} {read : Json → Option α}
    {value? : Option α}
    (found : Keyed.get? name fields = value?.map write)
    (readBack : ∀ value, value? = some value →
      write value ≠ .null ∧ read (write value) = some value) :
    optional? fields name read = some value? := by
  unfold optional?
  rw [found]
  cases value? with
  | none => rfl
  | some value =>
      rcases readBack value rfl with ⟨proper, same⟩
      simp [same]

/-- A member that has a value has it from something that was read. -/
theorem exists_of_optional? {α : Type} {fields : Keyed String Json}
    {name : String} {read : Json → Option α} {value : α}
    (found : optional? fields name read = some (some value)) :
    ∃ written, read written = some value := by
  unfold optional? at found
  split at found
  · cases found
  · cases found
  · rename_i written _ _
    rcases Option.map_eq_some_iff.mp found with ⟨_, readings, same⟩
    exact ⟨written, Option.some.inj same ▸ readings⟩

/-! ## Lists -/

/-- Elements that are read back alone are read back in a row. -/
theorem list?_map {α : Type} {read : Json → Option α} {write : α → Json}
    {values : List α}
    (readBack : ∀ value ∈ values, read (write value) = some value) :
    list? read (.array (values.map write)) = some values := by
  induction values with
  | nil => rfl
  | cons value rest ih =>
      rcases List.forall_mem_cons.mp readBack with ⟨first, later⟩
      have tail : (rest.map write).mapM read = some rest := ih later
      simp [list?, first, tail]

theorem exists_of_mem_list? {α : Type} {read : Json → Option α}
    {document : Json} {values : List α}
    (found : list? read document = some values) {value : α}
    (member : value ∈ values) :
    ∃ written, read written = some value := by
  cases document with
  | array elements =>
      induction elements generalizing values with
      | nil =>
          cases found
          cases member
      | cons element rest ih =>
          simp only [list?, List.mapM_cons, Option.bind_eq_bind,
            Option.bind_eq_some_iff] at found
          rcases found with ⟨first, here, more, there, made⟩
          cases made
          rcases List.mem_cons.mp member with rfl | later
          · exact ⟨element, here⟩
          · exact ih later there
  | _ => cases found

/-! ## Tables -/

/-- Values that are read back alone are read back in a row. -/
theorem entries?_map {α : Type} {read : Json → Option α} {write : α → Json}
    (readBack : ∀ value, read (write value) = some value)
    (entries : List (String × α)) :
    entries? read (entries.map fun entry => (entry.1, write entry.2)) =
      some entries := by
  induction entries with
  | nil => rfl
  | cons entry rest ih => simp [entries?, readBack, ih]

theorem table?_map {α : Type} {read : Json → Option α} {write : α → Json}
    (readBack : ∀ value, read (write value) = some value)
    {entries : Keyed String α} (distinct : Keyed.Distinct entries) :
    table? read (.object (entries.map fun entry => (entry.1, write entry.2))) =
      some entries := by
  rw [table?, entries?_map readBack, Option.map_some,
    Keyed.ofList_of_distinct distinct]

end ChartQuery.Json
