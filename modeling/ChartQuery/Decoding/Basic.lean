import ChartQuery.Decoding.Error
import ChartQuery.Decoding.Overrides
import ChartQuery.Slot.Levels

/-!
# Decoding responses

A response is walked along the levels of a slot map.  On every level the value
slots give cells; the grouping of the level gives one cell per bucket, and the
walk goes on inside the bucket.  Every chain of buckets down to the innermost
level is one row, with the cells in the order in which the walk meets them.

The first disagreement ends the walk: value slots in order, then the grouping,
then its buckets one after the other, each with all that is inside it.
-/

namespace ChartQuery

/-- A decoded row: cells by column, in the order of the walk. -/
abbrev Row := Keyed String Json

/-- The answers on one level of a response, by identifier. -/
abbrev Answers := Keyed String Json

/-- The answer to an identifier. -/
def Answers.find (answers : Answers) (id : String) (path : ResponsePath) :
    Except DecodeError Json :=
  match Keyed.get? id answers with
  | some answer => .ok answer
  | none => .error (.missingAggregation id path)

/-- The value of a metric. -/
def Answers.metricValue (answers : Answers) (id : String) (path : ResponsePath) :
    Except DecodeError Json := do
  let answer ← answers.find id path
  match answer.member? "value" with
  | some value => return value
  | none => .error (.missingMetricValue id path)

/-- The buckets of a grouping. -/
def Answers.buckets (answers : Answers) (id : String) (path : ResponsePath) :
    Except DecodeError (List Json) := do
  let answer ← answers.find id path
  match (answer.member? "buckets").bind Json.asArray? with
  | some buckets => return buckets
  | none => .error (.notABucketAggregation id path)

/-- A well-formed bucket: its key, its number of documents, and all its members. -/
structure Bucket where
  key : Json
  docCount : Json
  answers : Answers
deriving DecidableEq

/-- Read a bucket. -/
def Bucket.ofJson : Json → Except BucketFault Bucket
  | .object members =>
      match Keyed.get? "key" members with
      | none => .error .noKey
      | some key =>
          match (Keyed.get? "doc_count" members).filter Json.isNumber with
          | none => .error .noDocCount
          | some docCount => .ok ⟨key, docCount, members⟩
  | _ => .error .notAnObject

/-- Put the cells of value slots into a row. -/
def valueCells (overrides : Overrides) (answers : Answers)
    (docCount : Except DecodeError Json) (path : ResponsePath) (row : Row) :
    List (String × Nat) → Except DecodeError Row
  | [] => .ok row
  | (id, position) :: rest => do
      let value ← if id = countId then docCount else answers.metricValue id path
      valueCells overrides answers docCount path
        (Keyed.insert (overrides.column .value position) value row) rest

/-- The rows of numbered buckets, given the rows inside one bucket. -/
def bucketRows (id : String) (path : ResponsePath)
    (inside : ResponsePath → Bucket → Except DecodeError (List Row)) :
    Nat → List Json → Except DecodeError (List Row)
  | _, [] => .ok []
  | number, value :: rest => do
      let here := path ++ [⟨id, number⟩]
      match Bucket.ofJson value with
      | .error fault => .error (.malformedBucket id here fault)
      | .ok bucket =>
          let rows ← inside here bucket
          let more ← bucketRows id path inside (number + 1) rest
          return rows ++ more

/-- The rows of a level and of all levels inside it. -/
def levelRows (overrides : Overrides) : Levels → Answers →
    Except DecodeError Json → ResponsePath → Row → Except DecodeError (List Row)
  | .innermost values, answers, docCount, path, row => do
      let row ← valueCells overrides answers docCount path row values
      return [row]
  | .grouped values id position below, answers, docCount, path, row => do
      let row ← valueCells overrides answers docCount path row values
      let buckets ← answers.buckets id path
      bucketRows id path
        (fun here bucket =>
          levelRows overrides below bucket.answers (.ok bucket.docCount) here
            (Keyed.insert (overrides.column .main position)
              (overrides.keyCell .main position bucket.key) row))
        0 buckets

/-- The number of all documents found: the total itself or its value. -/
def totalHits (response : Json) : Except DecodeError Json :=
  match (response.member? "hits").bind (Json.member? "total") with
  | none => .error .missingTotalHits
  | some total =>
      let value := (total.member? "value").getD total
      if value.isNumber then .ok value else .error .missingTotalHits

/-- The answers on the outermost level of a response. -/
def rootAnswers (response : Json) : Answers :=
  ((response.member? "aggregations").bind Json.asObject?).getD []

/-- Decode a response into rows. -/
def decode (overrides : Overrides) (slots : Slots) (response : Json) :
    Except DecodeError (List Row) :=
  levelRows overrides (Slots.levels slots) (rootAnswers response)
    (totalHits response) [] []

/-- Rows as a document. -/
def rowsToJson (rows : List Row) : Json := .array (rows.map .object)

end ChartQuery
