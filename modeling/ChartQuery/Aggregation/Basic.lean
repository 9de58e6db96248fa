import ChartQuery.Catalog.Basic
import ChartQuery.Chart.Order

/-!
# Aggregation requests

A request holds a tree of aggregations with string identifiers.  A node is an
operator and, usually for groupings only, the aggregations below it; having an
empty list below differs from having none.  The order of siblings is kept.
-/

namespace ChartQuery

/-- A range of time that a date histogram is extended to, in milliseconds. -/
structure Bounds where
  min : Int64
  max : Int64
deriving DecidableEq

/-- A grouping by the values of a field. -/
structure TermsBody where
  field : String
  size : UInt64
  minDocCount : UInt64
  missing : Option Json
  order : Keyed String SortDirection
deriving DecidableEq

/-- A grouping by intervals of time. -/
structure DateHistogramBody where
  field : String
  fixedInterval : String
  minDocCount : UInt64
  timeZone : Option String
  extendedBounds : Option Bounds
deriving DecidableEq

/-- A grouping by intervals of a number. -/
structure HistogramBody where
  field : String
  interval : Binary64
  minDocCount : UInt64
  missing : Option Json
deriving DecidableEq

/-- What one aggregation computes. -/
inductive Operator where
  | terms (body : TermsBody)
  | dateHistogram (body : DateHistogramBody)
  | histogram (body : HistogramBody)
  | metric (kind : MetricKind) (field : Option String)
deriving DecidableEq

namespace Operator

/-- Whether the operator groups documents. -/
def isBucket : Operator → Bool
  | .metric _ _ => false
  | _ => true

/-- The name of an operator in a request. -/
def name : Operator → String
  | .terms _ => BucketKind.terms.name
  | .dateHistogram _ => BucketKind.dateHistogram.name
  | .histogram _ => BucketKind.histogram.name
  | .metric kind _ => kind.name

end Operator

/-- An aggregation and, if it has any place for them, the ones below it. -/
inductive Aggregation where
  | node (operator : Operator) (below : Option (List (String × Aggregation)))

/-- Sibling aggregations by identifier. -/
abbrev Aggregations := Keyed String Aggregation

namespace Aggregation

/-- The operator of a node. -/
def operator : Aggregation → Operator
  | .node operator _ => operator

/-- The aggregations below a node. -/
def children : Aggregation → Option Aggregations
  | .node _ below => below

/-- A grouping with the aggregations below it. -/
def bucket (operator : Operator) (below : Aggregations) : Aggregation :=
  .node operator (some below)

/-- A metric of a field. -/
def metric (kind : MetricKind) (field : Option String) : Aggregation :=
  .node (.metric kind field) none

mutual
/-- Structural equality of aggregations. -/
def decideEqual : (left right : Aggregation) → Decidable (left = right)
  | .node leftOperator none, .node rightOperator none =>
      decidable_of_iff (leftOperator = rightOperator) (by simp)
  | .node _ none, .node _ (some _) => isFalse (by simp)
  | .node _ (some _), .node _ none => isFalse (by simp)
  | .node leftOperator (some left), .node rightOperator (some right) =>
      if operator : leftOperator = rightOperator then
        match decideEqualSiblings left right with
        | isTrue equal => isTrue (by rw [operator, equal])
        | isFalse different => isFalse (fun equal => different (by cases equal; rfl))
      else isFalse (fun equal => operator (by cases equal; rfl))

/-- Structural equality of siblings. -/
def decideEqualSiblings :
    (left right : List (String × Aggregation)) → Decidable (left = right)
  | [], [] => isTrue rfl
  | [], _ :: _ => isFalse (by simp)
  | _ :: _, [] => isFalse (by simp)
  | (leftId, left) :: leftRest, (rightId, right) :: rightRest =>
      if id : leftId = rightId then
        match decideEqual left right, decideEqualSiblings leftRest rightRest with
        | isTrue head, isTrue tail => isTrue (by rw [id, head, tail])
        | isFalse different, _ =>
            isFalse (fun equal => different (by cases equal; rfl))
        | _, isFalse different =>
            isFalse (fun equal => different (by cases equal; rfl))
      else isFalse (fun equal => id (by cases equal; rfl))
end

instance : DecidableEq Aggregation := decideEqual

mutual
/-- The paths below a node, each with whether a grouping stands there. -/
def kindsBelow (path : String) : Aggregation → List (String × Bool)
  | .node _ none => []
  | .node _ (some siblings) => kinds path siblings

/-- The paths of siblings and of all that is below them, parents first. -/
def kinds (path : String) : List (String × Aggregation) → List (String × Bool)
  | [] => []
  | (id, child) :: rest =>
      let here := path ++ "/" ++ id
      (here, child.operator.isBucket) :: kindsBelow here child ++ kinds path rest
end

end Aggregation

/-- The body of a search: aggregations, no hits, and a query clause. -/
structure Request where
  aggregations : Aggregations
  size : UInt64
  query : Json
deriving DecidableEq

/-- The query clause that matches every document. -/
def matchEverything : Json :=
  .object [("bool", .object
    [("must", .array []), ("filter", .array []), ("should", .array []),
     ("must_not", .array [])])]

end ChartQuery
