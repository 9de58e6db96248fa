import ChartQuery.Proofs.Json.Record

/-!
# Requests that are read back

A document of a request is read as the request that was written if it can tell
all of it: no level of the tree and no sort clause repeats a key, and no
stand-in for missing values is `null`, which reads as none at all.  The document
has no tag for the kind of a node, and tells a node with nothing below it from
one without a place for that by its `aggs` member alone.
-/

namespace ChartQuery

/-! ## Bodies -/

theorem Bounds.ofJson?_toJson (bounds : Bounds) :
    Bounds.ofJson? bounds.toJson = some bounds := by
  have written : Json.record? declared bounds.toJson =
      some [("min", .ofInt64 bounds.min), ("max", .ofInt64 bounds.max)] :=
    Json.record?_object (by decide) (List.Sublist.refl declared)
  simp [ofJson?, written, Json.required?, Keyed.get?]

theorem SortDirection.ofJson?_string (direction : SortDirection) :
    SortDirection.ofJson? (.string direction.name) = some direction :=
  ofName?_name direction

namespace TermsBody

/-- The members that a body of top values is written with. -/
def members (body : TermsBody) : List (String × Json) :=
  [("field", .string body.field),
    ("size", .ofUInt64 body.size),
    ("min_doc_count", .ofUInt64 body.minDocCount)] ++
    Json.memberIfAny "missing" id body.missing ++
    [("order", orderToJson body.order)]

theorem record?_toJson (body : TermsBody) :
    Json.record? declared body.toJson = some body.members := by
  have ordered : (Keyed.keys body.members).Sublist declared := by
    unfold members
    cases body.missing <;> simp [Keyed.keys, Json.memberIfAny, declared]
  exact Json.record?_object (by decide) ordered

theorem ofJson?_toJson {body : TermsBody}
    (proper : body.missing ≠ some .null)
    (distinct : Keyed.Distinct body.order) :
    ofJson? body.toJson = some body := by
  have field : Json.required? body.members "field" Json.asString? =
      some body.field := rfl
  have size : Json.required? body.members "size" Json.asUInt64? =
      some body.size :=
    Json.asUInt64?_ofUInt64 body.size
  have minDocCount :
      Json.required? body.members "min_doc_count" Json.asUInt64? =
        some body.minDocCount :=
    Json.asUInt64?_ofUInt64 body.minDocCount
  have missing : Json.optional? body.members "missing" some =
      some body.missing := by
    apply Json.optional?_of_written id
    · unfold members
      cases body.missing <;> rfl
    · intro value present
      exact ⟨fun null => proper (present.trans (congrArg some null)), rfl⟩
  have order :
      Json.required? body.members "order"
          (Json.table? SortDirection.ofJson?) =
        some body.order := by
    have sorted := Json.table?_map SortDirection.ofJson?_string distinct
    unfold members
    cases body.missing <;> exact sorted
  simp [ofJson?, record?_toJson, field, size, minDocCount, missing, order]

end TermsBody

namespace HistogramBody

/-- The members that a body of intervals is written with. -/
def members (body : HistogramBody) : List (String × Json) :=
  [("field", .string body.field),
    ("interval", .number (.float body.interval)),
    ("min_doc_count", .ofUInt64 body.minDocCount)] ++
    Json.memberIfAny "missing" id body.missing

theorem record?_toJson (body : HistogramBody) :
    Json.record? declared body.toJson = some body.members := by
  have ordered : (Keyed.keys body.members).Sublist declared := by
    unfold members
    cases body.missing <;> simp [Keyed.keys, Json.memberIfAny, declared]
  exact Json.record?_object (by decide) ordered

theorem ofJson?_toJson {body : HistogramBody}
    (proper : body.missing ≠ some .null) :
    ofJson? body.toJson = some body := by
  have field : Json.required? body.members "field" Json.asString? =
      some body.field := rfl
  have interval : Json.required? body.members "interval" Json.asBinary64? =
      some body.interval := rfl
  have minDocCount :
      Json.required? body.members "min_doc_count" Json.asUInt64? =
        some body.minDocCount :=
    Json.asUInt64?_ofUInt64 body.minDocCount
  have missing : Json.optional? body.members "missing" some =
      some body.missing := by
    apply Json.optional?_of_written id
    · unfold members
      cases body.missing <;> rfl
    · intro value present
      exact ⟨fun null => proper (present.trans (congrArg some null)), rfl⟩
  simp [ofJson?, record?_toJson, field, interval, minDocCount, missing]

end HistogramBody

namespace DateHistogramBody

/-- The members that a body of intervals of time is written with. -/
def members (body : DateHistogramBody) : List (String × Json) :=
  [("field", .string body.field),
    ("fixed_interval", .string body.fixedInterval),
    ("min_doc_count", .ofUInt64 body.minDocCount)] ++
    Json.memberIfAny "time_zone" .string body.timeZone ++
    Json.memberIfAny "extended_bounds" Bounds.toJson body.extendedBounds

theorem record?_toJson (body : DateHistogramBody) :
    Json.record? declared body.toJson = some body.members := by
  have ordered : (Keyed.keys body.members).Sublist declared := by
    unfold members
    cases body.timeZone <;> cases body.extendedBounds <;>
      simp [Keyed.keys, Json.memberIfAny, declared]
  exact Json.record?_object (by decide) ordered

theorem ofJson?_toJson (body : DateHistogramBody) :
    ofJson? body.toJson = some body := by
  have field : Json.required? body.members "field" Json.asString? =
      some body.field := rfl
  have fixedInterval :
      Json.required? body.members "fixed_interval" Json.asString? =
        some body.fixedInterval := rfl
  have minDocCount :
      Json.required? body.members "min_doc_count" Json.asUInt64? =
        some body.minDocCount :=
    Json.asUInt64?_ofUInt64 body.minDocCount
  have timeZone : Json.optional? body.members "time_zone" Json.asString? =
      some body.timeZone := by
    apply Json.optional?_of_written Json.string
    · unfold members
      cases body.timeZone <;> cases body.extendedBounds <;> rfl
    · intro zone _
      exact ⟨nofun, rfl⟩
  have extendedBounds :
      Json.optional? body.members "extended_bounds" Bounds.ofJson? =
        some body.extendedBounds := by
    apply Json.optional?_of_written Bounds.toJson
    · unfold members
      cases body.timeZone <;> cases body.extendedBounds <;> rfl
    · intro bounds _
      exact ⟨nofun, bounds.ofJson?_toJson⟩
  simp [ofJson?, record?_toJson, field, fixedInterval, minDocCount, timeZone,
    extendedBounds]

end DateHistogramBody

/-! ## Operators -/

@[simp]
theorem BucketKind.ofName?_name (kind : BucketKind) :
    BucketKind.ofName? kind.name = some kind := by
  cases kind <;> decide

@[simp]
theorem MetricKind.ofName?_name (kind : MetricKind) :
    MetricKind.ofName? kind.name = some kind := by
  cases kind <;> decide

/-- No name stands for a grouping and for a metric. -/
@[simp]
theorem MetricKind.ofName?_bucket_name (kind : MetricKind) :
    BucketKind.ofName? kind.name = none := by
  cases kind <;> decide

namespace Operator

/-- An operator that its document can tell. -/
def Storable : Operator → Prop
  | .terms body => body.missing ≠ some .null ∧ Keyed.Distinct body.order
  | .dateHistogram _ => True
  | .histogram body => body.missing ≠ some .null
  | .metric _ _ => True

@[simp]
theorem isName_name (operator : Operator) : isName operator.name = true := by
  cases operator <;> simp [isName, name]

theorem name_ne_aggs (operator : Operator) : operator.name ≠ "aggs" := by
  cases operator with
  | metric kind field => cases kind <;> simp [name, MetricKind.name]
  | _ => simp [name, BucketKind.name]

/-- The body of an operator is read by the name of the operator. -/
theorem ofBody?_name {operator : Operator} (storable : operator.Storable) :
    ofBody? operator.name operator.body = some operator := by
  cases operator with
  | terms body =>
      simp [ofBody?, name, Operator.body,
        TermsBody.ofJson?_toJson storable.1 storable.2]
  | dateHistogram body =>
      simp [ofBody?, name, Operator.body, body.ofJson?_toJson]
  | histogram body =>
      simp [ofBody?, name, Operator.body, HistogramBody.ofJson?_toJson storable]
  | metric kind field? =>
      cases field? <;>
        simp [ofBody?, name, Operator.body, Json.memberIfAny, Json.record?,
          Json.optional?, Json.asString?, Keyed.Distinct, Keyed.keys,
          Keyed.get?]

/-- The operator of a node is its first member. -/
theorem ofMembers?_cons {operator : Operator} (storable : operator.Storable)
    (more : List (String × Json)) :
    ofMembers? ((operator.name, operator.body) :: more) = some operator := by
  simp [ofMembers?, ofBody?_name storable]

end Operator

/-! ## Trees of aggregations -/

namespace Aggregation

mutual
/-- A node that its document can tell. -/
def Storable : Aggregation → Prop
  | .node operator none => operator.Storable
  | .node operator (some below) => operator.Storable ∧ StorableSiblings below

/-- Nodes with different identifiers, each of which its document can tell. -/
def StorableSiblings : List (String × Aggregation) → Prop
  | [] => True
  | (id, sibling) :: rest =>
      id ∉ Keyed.keys rest ∧ sibling.Storable ∧ StorableSiblings rest
end

theorem storableSiblings_iff {siblings : Aggregations} :
    StorableSiblings siblings ↔
      Keyed.Distinct siblings ∧ ∀ entry ∈ siblings, entry.2.Storable := by
  induction siblings with
  | nil => simp [StorableSiblings, Keyed.Distinct, Keyed.keys]
  | cons entry rest ih =>
      have distinct : Keyed.Distinct (entry :: rest) ↔
          entry.1 ∉ Keyed.keys rest ∧ Keyed.Distinct rest :=
        List.nodup_cons
      rw [StorableSiblings, ih, distinct, List.forall_mem_cons]
      tauto

mutual
-- Each function is undone by the reader of the same part of a document.
theorem ofJson?_toJson :
    (node : Aggregation) → node.Storable → ofJson? node.toJson = some node
  | .node operator none, storable => by
      -- The operator is the only member, so nothing is found under `aggs`.
      simp [toJson, ofJson?, Operator.ofMembers?_cons storable, belowOf?,
        operator.name_ne_aggs]
  | .node operator (some below), ⟨storable, stored⟩ => by
      have children := tableOf?_membersToJson below stored
      simp [toJson, ofJson?, Operator.ofMembers?_cons storable, belowOf?,
        operator.name_ne_aggs, Keyed.has, Json.isNull, children]

theorem tableOf?_membersToJson :
    (siblings : List (String × Aggregation)) → StorableSiblings siblings →
      tableOf? (.object (membersToJson siblings)) = some siblings
  | siblings, stored => by
      rw [tableOf?, entriesOf?_membersToJson siblings stored, Option.map_some,
        Keyed.ofList_of_distinct (storableSiblings_iff.mp stored).1]

theorem entriesOf?_membersToJson :
    (siblings : List (String × Aggregation)) → StorableSiblings siblings →
      entriesOf? (membersToJson siblings) = some siblings
  | [], _ => rfl
  | (id, sibling) :: rest, ⟨_, first, later⟩ => by
      simp [membersToJson, entriesOf?, ofJson?_toJson sibling first,
        entriesOf?_membersToJson rest later]
end

end Aggregation

theorem Request.ofJson?_toJson {request : Request}
    (stored : Aggregation.StorableSiblings request.aggregations) :
    Request.ofJson? request.toJson = some request := by
  have written : Json.record? declared request.toJson =
      some
        [("aggs",
            .object (Aggregation.membersToJson request.aggregations)),
          ("size", .ofUInt64 request.size),
          ("query", request.query)] :=
    Json.record?_object (by decide) (List.Sublist.refl declared)
  simp [ofJson?, written, Json.required?, Keyed.get?,
    Aggregation.tableOf?_membersToJson _ stored]

end ChartQuery
