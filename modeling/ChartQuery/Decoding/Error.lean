/-!
# Failures of decoding

A response and a slot map disagree.  A failure says where: the path leads from
the aggregations of the response through numbered buckets.
-/

namespace ChartQuery

/-- A step into a bucket: the identifier of a grouping and the bucket's number. -/
structure BucketStep where
  id : String
  number : Nat
deriving DecidableEq

/-- A place in a response: steps into buckets, from the root inwards. -/
abbrev ResponsePath := List BucketStep

/-- The text of one step. -/
def BucketStep.text (step : BucketStep) : String :=
  "." ++ step.id ++ "[" ++ step.number.repr ++ "]"

/-- The text of a place. -/
def ResponsePath.text (path : ResponsePath) : String :=
  "aggregations" ++ String.join (path.map BucketStep.text)

/-- What is wrong with a bucket. -/
inductive BucketFault where
  | notAnObject
  | noKey
  | noDocCount
deriving DecidableEq

/-- The words for what is wrong with a bucket. -/
def BucketFault.reason : BucketFault → String
  | .notAnObject => "bucket is not an object"
  | .noKey => "no key"
  | .noDocCount => "no numeric doc_count"

/-- The first disagreement between a response and a slot map. -/
inductive DecodeError where
  | missingAggregation (id : String) (path : ResponsePath)
  | notABucketAggregation (id : String) (path : ResponsePath)
  | missingMetricValue (id : String) (path : ResponsePath)
  | malformedBucket (id : String) (path : ResponsePath) (fault : BucketFault)
  | missingTotalHits
deriving DecidableEq

namespace DecodeError

/-- The stable code of a failure. -/
def code : DecodeError → String
  | .missingAggregation _ _ => "MISSING_AGGREGATION"
  | .notABucketAggregation _ _ => "NOT_A_BUCKET_AGGREGATION"
  | .missingMetricValue _ _ => "MISSING_METRIC_VALUE"
  | .malformedBucket _ _ _ => "MALFORMED_BUCKET"
  | .missingTotalHits => "MISSING_TOTAL_HITS"

/-- The text of a failure. -/
def message : DecodeError → String
  | .missingAggregation id path =>
      "Aggregation '" ++ id ++ "' not found in result at '" ++ path.text ++ "'"
  | .notABucketAggregation id path =>
      "Aggregation '" ++ id ++ "' at '" ++ path.text ++ "' has no buckets"
  | .missingMetricValue id path =>
      "Aggregation '" ++ id ++ "' at '" ++ path.text ++ "' has no value"
  | .malformedBucket id path fault =>
      "Malformed bucket in aggregation '" ++ id ++ "' at '" ++ path.text ++
        "': " ++ fault.reason
  | .missingTotalHits =>
      "Result has no total hit count for a root-level count slot"

end DecodeError

end ChartQuery
