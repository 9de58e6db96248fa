import ChartQuery.Aggregation.Basic
import ChartQuery.Decoding.Basic
import ChartQuery.Proofs.Outcome

/-!
# Conforming responses

A response conforms to a request when every aggregation of the request is
answered: a metric by a value, a grouping by buckets that have a key, a number
of documents and, again, an answer to everything asked for inside them.  The
response as a whole has a number of documents too.  Any further member is
allowed, and a grouping may have no bucket at all.

The documents that answers are about are a scope: all documents found, or those
of one bucket.  A chain of buckets leads from one scope to another.
-/

namespace ChartQuery

/-! ## Scopes -/

/-- The answers about some documents, and the number of these documents. -/
structure Scope where
  answers : Answers
  size? : Option Json

namespace Scope

/-- The documents of a bucket. -/
def ofBucket (bucket : Json) : Scope :=
  ⟨bucket.asObject?.getD [], bucket.member? "doc_count"⟩

/-- The number that a total gives: the value in an object, or the total itself. -/
def totalValue? : Json → Option Json
  | .object members => Keyed.get? "value" members
  | total => some total

/-- The answers of a response: its aggregations if they are an object. -/
def outermost : Json → Answers
  | .object members =>
      match Keyed.get? "aggregations" members with
      | some (.object answers) => answers
      | _ => []
  | _ => []

/-- All documents found. -/
def whole (response : Json) : Scope :=
  ⟨outermost response,
    ((response.member? "hits").bind (Json.member? "total")).bind totalValue?⟩

/-- The scope that a chain of buckets leads to. -/
def reach (scope : Scope) (chain : List Json) : Scope :=
  chain.foldl (fun _ bucket => ofBucket bucket) scope

/-- What a value slot stands for. -/
def cell? (scope : Scope) (id : String) : Option Json :=
  if id = countId then scope.size?
  else (Keyed.get? id scope.answers).bind (Json.member? "value")

/-- The buckets of a grouping, if its answer lists any. -/
def listed? (scope : Scope) (id : String) : Option (List Json) :=
  ((Keyed.get? id scope.answers).bind (Json.member? "buckets")).bind
    Json.asArray?

/-- The buckets that a grouping divides the documents into. -/
def buckets (scope : Scope) (id : String) : List Json :=
  (((Keyed.get? id scope.answers).bind (Json.member? "buckets")).bind
    Json.asArray?).getD []

theorem buckets_of_listed {scope : Scope} {id : String} {buckets : List Json}
    (listed : scope.listed? id = some buckets) : scope.buckets id = buckets := by
  have same : scope.buckets id = (scope.listed? id).getD [] := rfl
  rw [same, listed, Option.getD_some]

/--
All chains of buckets through a number of groupings, depth first; the grouping
at each depth has that depth as its identifier.
-/
def chains (scope : Scope) (depth : Nat) : Nat → List (List Json)
  | 0 => [[]]
  | more + 1 =>
      (scope.buckets depth.repr).flatMap (fun bucket =>
        ((ofBucket bucket).chains (depth + 1) more).map (bucket :: ·))

theorem length_of_mem_chains {scope : Scope} {depth count : Nat}
    {chain : List Json} (member : chain ∈ scope.chains depth count) :
    chain.length = count := by
  induction count generalizing scope depth chain with
  | zero =>
      rw [List.mem_singleton.mp member]
      rfl
  | succ more ih =>
      rcases List.mem_flatMap.mp member with ⟨bucket, _, inside⟩
      rcases List.mem_map.mp inside with ⟨rest, deeper, rfl⟩
      rw [List.length_cons, ih deeper]

end Scope

/-! ## Answers -/

/-- Whether a value is an object with a key and a number of documents. -/
def Json.isBucket (value : Json) : Bool :=
  (value.member? "key").isSome && (value.member? "doc_count").any Json.isNumber

mutual
/-- Whether an answer is one to an aggregation. -/
def Aggregation.isAnsweredBy : Aggregation → Json → Bool
  | .node _ none, answer => (answer.member? "value").isSome
  | .node _ (some below), answer =>
      match (answer.member? "buckets").bind Json.asArray? with
      | some buckets =>
          buckets.all (fun bucket =>
            bucket.isBucket &&
              Aggregation.areAnsweredBy below (Scope.ofBucket bucket).answers)
      | none => false

/-- Whether each of several aggregations has its answer. -/
def Aggregation.areAnsweredBy :
    List (String × Aggregation) → Answers → Bool
  | [], _ => true
  | (id, child) :: rest, answers =>
      (match Keyed.get? id answers with
      | some answer => child.isAnsweredBy answer
      | none => false) &&
        Aggregation.areAnsweredBy rest answers
end

/-- A response that answers a request. -/
structure Conforms (request : Request) (response : Json) : Prop where
  /-- The number of all documents is given. -/
  total : (Scope.whole response).size?.any Json.isNumber = true
  /-- Every aggregation is answered, down to the innermost. -/
  answers : Aggregation.areAnsweredBy request.aggregations
    (Scope.whole response).answers = true

instance (request : Request) (response : Json) :
    Decidable (Conforms request response) :=
  decidable_of_iff
    ((Scope.whole response).size?.any Json.isNumber = true ∧
      Aggregation.areAnsweredBy request.aggregations
        (Scope.whole response).answers = true)
    ⟨fun both => ⟨both.1, both.2⟩, fun conforms => ⟨conforms.1, conforms.2⟩⟩

theorem Aggregation.areAnsweredBy_iff {aggregations : Aggregations}
    {answers : Answers} :
    Aggregation.areAnsweredBy aggregations answers = true ↔
      ∀ id node, (id, node) ∈ aggregations →
        ∃ answer, Keyed.get? id answers = some answer ∧
          node.isAnsweredBy answer = true := by
  induction aggregations with
  | nil => simp [Aggregation.areAnsweredBy]
  | cons entry rest ih =>
      rcases entry with ⟨name, first⟩
      rw [Aggregation.areAnsweredBy, Bool.and_eq_true, ih]
      constructor
      · rintro ⟨here, later⟩ id node member
        rcases List.mem_cons.mp member with head | tail
        · rcases Prod.mk.inj head with ⟨rfl, rfl⟩
          cases found : Keyed.get? id answers with
          | none => simp [found] at here
          | some answer => exact ⟨answer, rfl, by simpa [found] using here⟩
        · exact later id node tail
      · intro each
        constructor
        · rcases each name first List.mem_cons_self with
            ⟨answer, found, answered⟩
          simp [found, answered]
        · exact fun id node member =>
            each id node (List.mem_cons_of_mem _ member)

/-- A metric is answered by a value, which is the cell of its slot. -/
theorem Scope.cell?_of_answered {scope : Scope}
    {aggregations : Aggregations}
    (answered : Aggregation.areAnsweredBy aggregations scope.answers = true)
    {id : String} {kind : MetricKind} {field : Option String}
    (named : id ≠ countId)
    (member : (id, .metric kind field) ∈ aggregations) :
    ∃ value, scope.cell? id = some value := by
  rcases Aggregation.areAnsweredBy_iff.mp answered _ _ member with
    ⟨answer, found, fits⟩
  have present : (answer.member? "value").isSome = true := by
    simpa [Aggregation.metric, Aggregation.isAnsweredBy] using fits
  rcases Option.isSome_iff_exists.mp present with ⟨value, valued⟩
  exact ⟨value, by simp [Scope.cell?, named, found, valued]⟩

/-- A grouping is answered by buckets, and they answer all that is inside. -/
theorem Scope.buckets_of_answered {scope : Scope}
    {aggregations : Aggregations}
    (answered : Aggregation.areAnsweredBy aggregations scope.answers = true)
    {id : String} {operator : Operator} {below : Aggregations}
    (member : (id, .bucket operator below) ∈ aggregations) :
    scope.listed? id = some (scope.buckets id) ∧
      ∀ bucket ∈ scope.buckets id, bucket.isBucket = true ∧
        Aggregation.areAnsweredBy below (Scope.ofBucket bucket).answers =
          true := by
  rcases Aggregation.areAnsweredBy_iff.mp answered _ _ member with
    ⟨answer, found, fits⟩
  cases listed : (answer.member? "buckets").bind Json.asArray? with
  | none =>
      simp [Aggregation.bucket, Aggregation.isAnsweredBy, listed] at fits
  | some buckets =>
      have located : scope.listed? id = some buckets := by
        simp [Scope.listed?, found, listed]
      have same : scope.buckets id = buckets := by
        simp [Scope.buckets, found, listed]
      rw [same]
      refine ⟨located, ?_⟩
      simpa [Aggregation.bucket, Aggregation.isAnsweredBy, listed] using fits

/-- A bucket is read as its key, its number of documents and its answers. -/
theorem Bucket.ofJson_of_isBucket {bucket : Json}
    (fits : bucket.isBucket = true) :
    ∃ key docCount, bucket.member? "key" = some key ∧
      (Scope.ofBucket bucket).size? = some docCount ∧
      Bucket.ofJson bucket =
        .ok ⟨key, docCount, (Scope.ofBucket bucket).answers⟩ := by
  cases bucket with
  | object members =>
      rcases (Bool.and_eq_true _ _).mp fits with ⟨keyed, counted⟩
      rcases Option.isSome_iff_exists.mp keyed with ⟨key, hasKey⟩
      rcases (Option.any_eq_true _ _).mp counted with
        ⟨docCount, hasCount, number⟩
      have key? : Keyed.get? "key" members = some key := hasKey
      have count? : Keyed.get? "doc_count" members = some docCount := hasCount
      refine ⟨key, docCount, hasKey, hasCount, ?_⟩
      simp [Bucket.ofJson, key?, count?, Option.filter, number,
        Scope.ofBucket, Json.asObject?]
  | null => simp [Json.isBucket, Json.member?] at fits
  | bool value => simp [Json.isBucket, Json.member?] at fits
  | number value => simp [Json.isBucket, Json.member?] at fits
  | string text => simp [Json.isBucket, Json.member?] at fits
  | array elements => simp [Json.isBucket, Json.member?] at fits

/-- The decoder starts at the answers of the response. -/
theorem rootAnswers_eq (response : Json) :
    rootAnswers response = Scope.outermost response := by
  unfold rootAnswers Scope.outermost
  cases response with
  | object members =>
      simp only [Json.member?]
      cases Keyed.get? "aggregations" members with
      | none => rfl
      | some answers => cases answers <;> rfl
  | _ => rfl

/-- The decoder finds the number of all documents, if it is a number. -/
theorem totalHits_eq_ok_iff {response total : Json} :
    totalHits response = .ok total ↔
      (Scope.whole response).size? = some total ∧ total.isNumber = true := by
  unfold totalHits Scope.whole
  cases (response.member? "hits").bind (Json.member? "total") with
  | none => simp
  | some found =>
      have inside : ∀ value, value.isNumber = true →
          ((found.member? "value").getD found = value ↔
            Scope.totalValue? found = some value) := by
        intro value number
        cases found with
        | object members =>
            cases valued : Keyed.get? "value" members with
            | some inner => simp [Json.member?, Scope.totalValue?, valued]
            | none =>
                simp only [Json.member?, Scope.totalValue?, valued]
                constructor
                · rintro rfl
                  cases number
                · nofun
        | _ => simp [Json.member?, Scope.totalValue?]
      constructor
      · intro counted
        simp only at counted
        split at counted
        · rename_i number
          cases counted
          exact ⟨(inside _ number).mp rfl, number⟩
        · cases counted
      · rintro ⟨counted, number⟩
        have same := (inside total number).mpr counted
        simp [same, number]

end ChartQuery
