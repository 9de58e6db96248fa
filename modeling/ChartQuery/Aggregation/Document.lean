import ChartQuery.Aggregation.Basic
import ChartQuery.Json.Reader
import ChartQuery.Json.Record

/-!
# Aggregation documents

The JSON form of request trees.  A node is an object: its first member with the
name of an operator is the operator, its `aggs` member holds the aggregations
below it, other members say nothing.  The body of an operator may also be
written as an array.  A repeated identifier keeps its first place and its last
node.
-/

namespace ChartQuery

namespace Bounds

/-- The members of bounds in declared order. -/
def declared : List String := ["min", "max"]

/-- Read bounds. -/
def ofJson? (value : Json) : Option Bounds := do
  let fields ← Json.record? declared value
  let min ← Json.required? fields "min" Json.asInt64?
  let max ← Json.required? fields "max" Json.asInt64?
  return ⟨min, max⟩

/-- Write bounds. -/
def toJson (bounds : Bounds) : Json :=
  .object [("min", .ofInt64 bounds.min), ("max", .ofInt64 bounds.max)]

/-- Only the declared members are read; `true` is the place of the bounds. -/
def plan : Json.Plan Bool where
  member atBounds key := if atBounds ∧ key ∉ declared then none else some false
  element _ _ := false
  isFree _ := false

/-- Read bounds from their text. -/
def read? (text : String) : Option Bounds :=
  (Json.readBy? plan true text).bind ofJson?

end Bounds

/-- A member that is left out when it has no value. -/
def Json.memberIfAny {α : Type} (name : String) (write : α → Json) :
    Option α → List (String × Json)
  | some value => [(name, write value)]
  | none => []

/--
Read a direction: a word, or an object whose only member is the word, holding
`null` or nothing.
-/
def SortDirection.ofJson? : Json → Option SortDirection
  | .object [(name, .object [])] => ofName? name
  | value => Json.choice? ofName? value

namespace TermsBody

/-- The members of the body in declared order. -/
def declared : List String :=
  ["field", "size", "min_doc_count", "missing", "order"]

/-- Read the body. -/
def ofJson? (value : Json) : Option TermsBody := do
  let fields ← Json.record? declared value
  let field ← Json.required? fields "field" Json.asString?
  let size ← Json.required? fields "size" Json.asUInt64?
  let minDocCount ← Json.required? fields "min_doc_count" Json.asUInt64?
  let missing ← Json.optional? fields "missing" some
  let order ← Json.required? fields "order" (Json.table? SortDirection.ofJson?)
  return ⟨field, size, minDocCount, missing, order⟩

/-- Write the sort clause. -/
def orderToJson (order : Keyed String SortDirection) : Json :=
  .object (order.map (fun (key, direction) => (key, .string direction.name)))

/-- Write the body. -/
def toJson (body : TermsBody) : Json :=
  .object
    ([("field", .string body.field),
      ("size", .ofUInt64 body.size),
      ("min_doc_count", .ofUInt64 body.minDocCount)] ++
      Json.memberIfAny "missing" id body.missing ++
      [("order", orderToJson body.order)])

end TermsBody

namespace DateHistogramBody

/-- The members of the body in declared order. -/
def declared : List String :=
  ["field", "fixed_interval", "min_doc_count", "time_zone", "extended_bounds"]

/-- Read the body. -/
def ofJson? (value : Json) : Option DateHistogramBody := do
  let fields ← Json.record? declared value
  let field ← Json.required? fields "field" Json.asString?
  let fixedInterval ← Json.required? fields "fixed_interval" Json.asString?
  let minDocCount ← Json.required? fields "min_doc_count" Json.asUInt64?
  let timeZone ← Json.optional? fields "time_zone" Json.asString?
  let bounds ← Json.optional? fields "extended_bounds" Bounds.ofJson?
  return ⟨field, fixedInterval, minDocCount, timeZone, bounds⟩

/-- Write the body. -/
def toJson (body : DateHistogramBody) : Json :=
  .object
    ([("field", .string body.field),
      ("fixed_interval", .string body.fixedInterval),
      ("min_doc_count", .ofUInt64 body.minDocCount)] ++
      Json.memberIfAny "time_zone" .string body.timeZone ++
      Json.memberIfAny "extended_bounds" Bounds.toJson body.extendedBounds)

end DateHistogramBody

namespace HistogramBody

/-- The members of the body in declared order. -/
def declared : List String := ["field", "interval", "min_doc_count", "missing"]

/-- Read the body. -/
def ofJson? (value : Json) : Option HistogramBody := do
  let fields ← Json.record? declared value
  let field ← Json.required? fields "field" Json.asString?
  let interval ← Json.required? fields "interval" Json.asBinary64?
  let minDocCount ← Json.required? fields "min_doc_count" Json.asUInt64?
  let missing ← Json.optional? fields "missing" some
  return ⟨field, interval, minDocCount, missing⟩

/-- Write the body. -/
def toJson (body : HistogramBody) : Json :=
  .object
    ([("field", .string body.field),
      ("interval", .number (.float body.interval)),
      ("min_doc_count", .ofUInt64 body.minDocCount)] ++
      Json.memberIfAny "missing" id body.missing)

end HistogramBody

namespace Operator

/-- Whether a member of a node is its operator. -/
def isName (name : String) : Bool :=
  (BucketKind.ofName? name).isSome || (MetricKind.ofName? name).isSome

/-- Read the body of the operator of a name. -/
def ofBody? (name : String) (body : Json) : Option Operator :=
  match BucketKind.ofName? name with
  | some .terms => (TermsBody.ofJson? body).map .terms
  | some .dateHistogram => (DateHistogramBody.ofJson? body).map .dateHistogram
  | some .histogram => (HistogramBody.ofJson? body).map .histogram
  | none => do
      let kind ← MetricKind.ofName? name
      let fields ← Json.record? ["field"] body
      let field ← Json.optional? fields "field" Json.asString?
      return .metric kind field

/-- The operator of a node: its first member that has the name of one. -/
def ofMembers? (members : List (String × Json)) : Option Operator :=
  (members.find? (fun member => isName member.1)).bind
    (fun member => ofBody? member.1 member.2)

/-- Write the body of an operator. -/
def body : Operator → Json
  | .terms body => body.toJson
  | .dateHistogram body => body.toJson
  | .histogram body => body.toJson
  | .metric _ field => .object (Json.memberIfAny "field" .string field)

end Operator

namespace Aggregation

mutual
/-- Read a node. -/
def ofJson? : Json → Option Aggregation
  | .object members => do
      let operator ← Operator.ofMembers? members
      let below ← belowOf? members
      return .node operator below
  | _ => none

/-- The aggregations below a node, from its members. -/
def belowOf? : List (String × Json) → Option (Option Aggregations)
  | [] => some none
  | (key, value) :: rest =>
      if key = "aggs" then
        if Keyed.has "aggs" rest then none
        else if value.isNull then some none
        else (tableOf? value).map some
      else belowOf? rest

/-- Read sibling aggregations. -/
def tableOf? : Json → Option Aggregations
  | .object members => (entriesOf? members).map Keyed.ofList
  | _ => none

/-- Read nodes one after the other. -/
def entriesOf? : List (String × Json) → Option (List (String × Aggregation))
  | [] => some []
  | (id, value) :: rest => do
      let node ← ofJson? value
      let more ← entriesOf? rest
      return (id, node) :: more
end

mutual
/-- Write a node. -/
def toJson : Aggregation → Json
  | .node operator none => .object [(operator.name, operator.body)]
  | .node operator (some below) =>
      .object
        [(operator.name, operator.body), ("aggs", .object (membersToJson below))]

/-- Write siblings as the members of an object. -/
def membersToJson : List (String × Aggregation) → List (String × Json)
  | [] => []
  | (id, sibling) :: rest => (id, sibling.toJson) :: membersToJson rest
end

end Aggregation

namespace Request

/-- The members of a request in declared order. -/
def declared : List String := ["aggs", "size", "query"]

/-- Read a request. -/
def ofJson? (value : Json) : Option Request := do
  let fields ← Json.record? declared value
  let aggregations ← Json.required? fields "aggs" Aggregation.tableOf?
  let size ← Json.required? fields "size" Json.asUInt64?
  let query ← Json.required? fields "query" some
  return ⟨aggregations, size, query⟩

/-- Write a request. -/
def toJson (request : Request) : Json :=
  .object
    [("aggs", .object (Aggregation.membersToJson request.aggregations)),
     ("size", .ofUInt64 request.size),
     ("query", request.query)]

/-- Where a walk through the document of a request is. -/
inductive Place where
  | request
  | siblings
  | node
  | body
  /-- A part whose form is fixed. -/
  | typed
  | free
deriving DecidableEq

/-- Of the request itself only declared members are read, below it all. -/
def member (place : Place) (key : String) : Option Place :=
  match place with
  | .request =>
      if key = "aggs" then some .siblings
      else if key = "size" then some .typed
      else if key = "query" then some .free
      else none
  | .siblings => some .node
  | .node => some (if key = "aggs" then .siblings else .body)
  | .body => some (if key = "missing" then .free else .typed)
  | .typed => some .typed
  | .free => some .free

/-- In the array form of every body that has it, `missing` is the fourth element. -/
def element (place : Place) (position : Nat) : Place :=
  match place with
  | .request =>
      if position = 0 then .siblings else if position = 2 then .free else .typed
  | .body => if position = 3 then .free else .typed
  | .free => .free
  | _ => .typed

/-- The plan for the document of a request. -/
def plan : Json.Plan Place where
  member
  element
  isFree place := place = .free

end Request

end ChartQuery
