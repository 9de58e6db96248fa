import ChartQuery.Chart.Order
import ChartQuery.Proofs.Outcome
import ChartQuery.Proofs.Text.Decimal

/-!
# The grammar of sort orders

`Order.Targets` and `Order.Directs` say what the two members of an `order`
option may be and what each of them stands for; no other member counts.
`Order.Refuses` says what is reported of anything else.  Parsing follows the
three relations exactly, and it undoes the usual spelling of a position.
-/

namespace ChartQuery.Order

/-- What a `field` member, or its absence, sorts by. -/
inductive Targets : Option Json → OrderTarget → Prop where
  | absent : Targets none .docCount
  | null : Targets (some .null) .docCount
  | count : Targets (some (.string "_count")) .docCount
  /-- The position is written in decimal, and it fits a signed word. -/
  | position {digits : List Char} {position : Int}
      (spelled : Text.Spells digits position)
      (low : -2 ^ 63 ≤ position) (high : position < 2 ^ 63) :
      Targets (some (.string ("value_axis." ++ String.ofList digits)))
        (.valueAxis position)

/-- The direction that a `direction` member, or its absence, stands for. -/
inductive Directs : Option Json → SortDirection → Prop where
  | absent : Directs none .desc
  | null : Directs (some .null) .desc
  | asc : Directs (some (.string "asc")) .asc
  | desc : Directs (some (.string "desc")) .desc

/-- What is reported of a `field` member that sorts by nothing. -/
def fieldError : Json → OrderError
  | .string text => .unknownField text
  | value => .fieldNotAString value

/-- Why a value is no sort order; the direction is not looked at before the field. -/
inductive Refuses : Json → OrderError → Prop where
  | notAnObject {value : Json} (other : ∀ members, value ≠ .object members) :
      Refuses value (.notAnObject value)
  | field {members : Keyed String Json} {value : Json}
      (written : Keyed.get? "field" members = some value)
      (unfit : ∀ target, ¬Targets (some value) target) :
      Refuses (.object members) (fieldError value)
  | direction {members : Keyed String Json} {target : OrderTarget}
      {value : Json}
      (fits : Targets (Keyed.get? "field" members) target)
      (written : Keyed.get? "direction" members = some value)
      (unfit : ∀ direction, ¬Directs (some value) direction) :
      Refuses (.object members) (.unknownDirection value)

/-! ## Positions -/

theorem afterMark?_eq_some_iff {mark chars rest : List Char} :
    afterMark? mark chars = some rest ↔ chars = mark ++ rest := by
  induction mark generalizing chars with
  | nil => simp [afterMark?]
  | cons expected mark ih =>
      cases chars with
      | nil => simp [afterMark?]
      | cons char chars => simp [afterMark?, ih]

theorem toList_eq_append_iff (text mark : String) (chars : List Char) :
    text.toList = mark.toList ++ chars ↔ text = mark ++ String.ofList chars := by
  rw [← String.toList_inj, String.toList_append, String.toList_ofList]

theorem position?_eq_some_iff {field : String} {position : Int} :
    position? field = some position ↔
      ∃ digits, field = "value_axis." ++ String.ofList digits ∧
        Text.Spells digits position ∧
          -2 ^ 63 ≤ position ∧ position < 2 ^ 63 := by
  have marked : ∀ digits, field.toList = axisMark ++ digits ↔
      field = "value_axis." ++ String.ofList digits :=
    toList_eq_append_iff field "value_axis."
  simp only [position?, Option.bind_eq_some_iff, afterMark?_eq_some_iff,
    marked, Text.int64?_eq_some_iff, String.toList_ofList]

/-! ## Members -/

theorem targetOf_eq_ok_iff {member? : Option Json} {target : OrderTarget} :
    targetOf member? = .ok target ↔ Targets member? target := by
  constructor
  · intro read
    unfold targetOf at read
    split at read
    · cases read
      exact .absent
    · cases read
      exact .null
    · split at read
      · rename_i counted
        cases read
        rw [counted]
        exact .count
      · split at read
        · rename_i found
          cases read
          rcases position?_eq_some_iff.mp found with
            ⟨digits, rfl, spelled, low, high⟩
          exact .position spelled low high
        · cases read
    · cases read
  · intro targets
    cases targets with
    | absent => rfl
    | null => rfl
    | count => rfl
    | @position digits position spelled low high =>
        have found := position?_eq_some_iff.mpr
          ⟨digits, rfl, spelled, low, high⟩
        have marked : "value_axis." ++ String.ofList digits ≠ "_count" := by
          rw [← String.toList_inj.ne, String.toList_append]
          simp
        simp only [targetOf, if_neg marked, found]

theorem directionOf_eq_ok_iff {member? : Option Json}
    {direction : SortDirection} :
    directionOf member? = .ok direction ↔ Directs member? direction := by
  constructor
  · intro read
    unfold directionOf SortDirection.ofName? at read
    split at read <;> grind [Directs]
  · intro directs
    cases directs <;> rfl

/--
A member that stands for nothing is reported, once it is known what a member
stands for and what is reported of one that is there.
-/
theorem member_eq_error_iff {α : Type} (read : Option Json → Except OrderError α)
    {stands : Option Json → α → Prop} {report : Json → OrderError}
    (reads : ∀ member? result,
      read member? = .ok result ↔ stands member? result)
    (defaults : ∃ result, read none = .ok result)
    (reports : ∀ value error,
      read (some value) = .error error → error = report value)
    {member? : Option Json} {error : OrderError} :
    read member? = .error error ↔
      ∃ value, member? = some value ∧
        (∀ result, ¬stands (some value) result) ∧ error = report value := by
  constructor
  · intro failed
    cases member? with
    | none =>
        rcases defaults with ⟨result, found⟩
        rw [found] at failed
        cases failed
    | some value =>
        refine ⟨value, rfl, fun result standing => ?_,
          reports value error failed⟩
        rw [(reads _ _).mpr standing] at failed
        cases failed
  · rintro ⟨value, rfl, unfit, rfl⟩
    cases outcome : read (some value) with
    | ok result => exact (unfit result ((reads _ _).mp outcome)).elim
    | error other => rw [reports value other outcome]

theorem targetOf_eq_error_iff {member? : Option Json} {error : OrderError} :
    targetOf member? = .error error ↔
      ∃ value, member? = some value ∧
        (∀ target, ¬Targets (some value) target) ∧
          error = fieldError value := by
  refine member_eq_error_iff targetOf (fun _ _ => targetOf_eq_ok_iff)
    ⟨.docCount, rfl⟩ ?_
  intro value other failed
  unfold targetOf at failed
  split at failed <;> grind [fieldError]

theorem directionOf_eq_error_iff {member? : Option Json}
    {error : OrderError} :
    directionOf member? = .error error ↔
      ∃ value, member? = some value ∧
        (∀ direction, ¬Directs (some value) direction) ∧
          error = .unknownDirection value := by
  refine member_eq_error_iff directionOf (fun _ _ => directionOf_eq_ok_iff)
    ⟨.desc, rfl⟩ ?_
  intro value other failed
  unfold directionOf at failed
  split at failed <;> grind

/-! ## Parsing -/

theorem parse_eq_ok_iff {value : Json} {order : Order} :
    parse value = .ok order ↔
      ∃ members, value = .object members ∧
        Targets (Keyed.get? "field" members) order.target ∧
        Directs (Keyed.get? "direction" members) order.direction := by
  cases value with
  | object members =>
      simp only [parse, Outcome.bind_eq_ok_iff, targetOf_eq_ok_iff,
        directionOf_eq_ok_iff, Json.object.injEq, exists_eq_left']
      constructor
      · rintro ⟨target, targets, direction, directs, made⟩
        cases made
        exact ⟨targets, directs⟩
      · rintro ⟨targets, directs⟩
        exact ⟨order.target, targets, order.direction, directs, rfl⟩
  | _ => simp [parse]

theorem parse_eq_error_iff {value : Json} {error : OrderError} :
    parse value = .error error ↔ Refuses value error := by
  constructor
  · intro failed
    unfold parse at failed
    split at failed
    · rcases Outcome.bind_eq_error_iff.mp failed with
        field | ⟨target, targets, later⟩
      · rcases targetOf_eq_error_iff.mp field with
          ⟨value, written, unfit, rfl⟩
        exact .field written unfit
      · rcases Outcome.bind_eq_error_iff.mp later with
          direction | ⟨_, _, impossible⟩
        · rcases directionOf_eq_error_iff.mp direction with
            ⟨value, written, unfit, rfl⟩
          exact .direction (targetOf_eq_ok_iff.mp targets) written unfit
        · cases impossible
    · rename_i other
      cases failed
      exact .notAnObject other
  · intro refused
    cases refused with
    | notAnObject other =>
        unfold parse
        split
        · exact (other _ rfl).elim
        · rfl
    | field written unfit =>
        have bad := targetOf_eq_error_iff.mpr ⟨_, written, unfit, rfl⟩
        exact Outcome.bind_eq_error_iff.mpr (Or.inl bad)
    | direction fits written unfit =>
        have bad := directionOf_eq_error_iff.mpr ⟨_, written, unfit, rfl⟩
        exact Outcome.bind_eq_error_iff.mpr (Or.inr
          ⟨_, targetOf_eq_ok_iff.mpr fits,
            Outcome.bind_eq_error_iff.mpr (Or.inl bad)⟩)

theorem directs_name (direction : SortDirection) :
    Directs (some (.string direction.name)) direction := by
  cases direction with
  | asc => exact .asc
  | desc => exact .desc

/--
A value is a sort order exactly when both of its members stand for something,
and it is then the order that they stand for; of any other value it is reported
why it is none.  A position that is written out is read as it was.
-/
theorem parse_outcome :
    (∀ value order, parse value = .ok order ↔
      ∃ members, value = .object members ∧
        Targets (Keyed.get? "field" members) order.target ∧
        Directs (Keyed.get? "direction" members) order.direction) ∧
    (∀ value error, parse value = .error error ↔ Refuses value error) ∧
    ∀ (position : Int64) (direction : SortDirection),
      parse (.object
          [("field", .string ("value_axis." ++ position.toInt.repr)),
            ("direction", .string direction.name)]) =
        .ok ⟨.valueAxis position.toInt, direction⟩ := by
  refine ⟨fun _ _ => parse_eq_ok_iff, fun _ _ => parse_eq_error_iff, ?_⟩
  intro position direction
  have targets := Targets.position (Text.spells_repr position.toInt)
    position.le_toInt position.toInt_lt
  rw [String.ofList_toList] at targets
  exact parse_eq_ok_iff.mpr ⟨_, rfl, targets, directs_name direction⟩

/-- A sign, leading zeros and other members make no difference. -/
example :
    parse (.object
        [("size", .null), ("field", .string "value_axis.+007")]) =
      .ok ⟨.valueAxis 7, .desc⟩ := by
  decide +kernel

end ChartQuery.Order
