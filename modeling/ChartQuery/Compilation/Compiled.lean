import ChartQuery.Aggregation.Document
import ChartQuery.Slot.Document

/-!
# Compiled charts

What a chart compiles to: the request to send and the slot map with which the
response is read.  The two are kept apart, so that a compiled chart can be
stored as a document and its response be read later.
-/

namespace ChartQuery

/-- A request and the slot map of its identifiers. -/
structure CompiledChart where
  request : Request
  slots : Slots
deriving DecidableEq

namespace CompiledChart

/-- The members of a compiled chart in declared order. -/
def declared : List String := ["es_query", "mapping"]

/-- Read a compiled chart. -/
def ofJson? (value : Json) : Option CompiledChart := do
  let fields ← Json.record? declared value
  let request ← Json.required? fields "es_query" Request.ofJson?
  let slots ← Json.required? fields "mapping" Slots.ofJson?
  return ⟨request, slots⟩

/-- Write a compiled chart. -/
def toJson (compiled : CompiledChart) : Json :=
  .object
    [("es_query", compiled.request.toJson), ("mapping", compiled.slots.toJson)]

/-- Where a walk through the document of a compiled chart is. -/
inductive Place where
  | top
  | request (place : Request.Place)
  | mapping (place : Slots.Place)
  | typed
deriving DecidableEq

/-- Of the chart itself only the declared members are read. -/
def member (place : Place) (key : String) : Option Place :=
  match place with
  | .top =>
      if key = "es_query" then some (.request .request)
      else if key = "mapping" then some (.mapping .table)
      else none
  | .request place => (Request.member place key).map .request
  | .mapping place => (Slots.member place key).map .mapping
  | .typed => some .typed

/-- In the array form, the request comes first and the slot map second. -/
def element (place : Place) (position : Nat) : Place :=
  match place with
  | .top =>
      if position = 0 then .request .request
      else if position = 1 then .mapping .table
      else .typed
  | .request place => .request (Request.element place position)
  | .mapping place => .mapping (Slots.element place position)
  | .typed => .typed

/-- The free-form parts are those of the request. -/
def isFree : Place → Bool
  | .request place => place = .free
  | _ => false

/-- The plan for the document of a compiled chart. -/
def plan : Json.Plan Place where
  member
  element
  isFree

/-- Read a compiled chart from its text. -/
def read? (text : String) : Option CompiledChart :=
  (Json.readBy? plan .top text).bind ofJson?

end CompiledChart

end ChartQuery
