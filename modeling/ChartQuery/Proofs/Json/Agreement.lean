import ChartQuery.Json.Basic
import ChartQuery.Proofs.Keyed

/-!
# Values that agree on what is read

Two values of a document agree on some members if they are the same, or if both
are objects in which each of these members is related to its counterpart or is
absent on both sides.  Nothing is said about other members.  Agreement can be
nested: the relation for a member may be agreement on members of its own, or a
relation between the elements of arrays.
-/

namespace ChartQuery

/-! ## Values that may be absent -/

namespace Optional

variable {α β : Type} {relation : α → β → Prop}

theorem rel_refl {relation : α → α → Prop}
    (refl : ∀ value, relation value value) (value : Option α) :
    Option.Rel relation value value := by
  cases value with
  | none => exact .none
  | some value => exact .some (refl value)

theorem eq_of_rel {left right : Option α} (same : Option.Rel Eq left right) :
    left = right := by
  cases same with
  | none => rfl
  | some same => rw [same]

theorem rel_cases {left : Option α} {right : Option β}
    (related : Option.Rel relation left right) :
    left = none ∧ right = none ∨
      ∃ first second, left = some first ∧ right = some second ∧
        relation first second := by
  cases related with
  | none => exact Or.inl ⟨rfl, rfl⟩
  | some holds => exact Or.inr ⟨_, _, rfl, rfl, holds⟩

theorem rel_imp {looser : α → β → Prop} {left : Option α} {right : Option β}
    (related : Option.Rel relation left right)
    (loosens : ∀ first second, relation first second → looser first second) :
    Option.Rel looser left right := by
  cases related with
  | none => exact .none
  | some holds => exact .some (loosens _ _ holds)

theorem rel_bind {γ δ : Type} {further : γ → δ → Prop} {left : Option α}
    {right : Option β} {leftNext : α → Option γ} {rightNext : β → Option δ}
    (here : Option.Rel relation left right)
    (later : ∀ first second, relation first second →
      Option.Rel further (leftNext first) (rightNext second)) :
    Option.Rel further (left.bind leftNext) (right.bind rightNext) := by
  cases here with
  | none => exact .none
  | some holds => exact later _ _ holds

instance decidableRel [∀ left right, Decidable (relation left right)] :
    (left : Option α) → (right : Option β) →
      Decidable (Option.Rel relation left right)
  | none, none => isTrue .none
  | some left, some right =>
      decidable_of_iff (relation left right)
        ⟨.some, fun | .some holds => holds⟩
  | none, some _ => isFalse nofun
  | some _, none => isFalse nofun

end Optional

namespace Json

/-! ## Agreement -/

/-- The same value, or objects that agree on the members that are read. -/
inductive AgreeOn (read : String → Prop)
    (inside : String → Json → Json → Prop) : Json → Json → Prop where
  | same (value : Json) : AgreeOn read inside value value
  | objects {left right : Keyed String Json}
      (members : ∀ key, read key →
        Option.Rel (inside key) (Keyed.get? key left) (Keyed.get? key right)) :
      AgreeOn read inside (.object left) (.object right)

/-- The same value, or arrays with related elements. -/
inductive AgreeElements (inside : Json → Json → Prop) : Json → Json → Prop where
  | same (value : Json) : AgreeElements inside value value
  | arrays {left right : List Json}
      (elements : List.Forall₂ inside left right) :
      AgreeElements inside (.array left) (.array right)

/-- A relation for the member under one key; any other member is the same. -/
def RelatedAt (key : String) (relation : Json → Json → Prop) (other : String)
    (left right : Json) : Prop :=
  if other = key then relation left right else left = right

section Agreement

variable {read wanted : String → Prop}
  {inside looser : String → Json → Json → Prop}
  {relation looserRelation : Json → Json → Prop} {left right : Json}

theorem AgreeOn.member? (agree : AgreeOn read inside left right) {key : String}
    (refl : ∀ value, inside key value value) (reads : read key) :
    Option.Rel (inside key) (left.member? key) (right.member? key) := by
  cases agree with
  | same => exact Optional.rel_refl refl _
  | objects members => exact members key reads

theorem AgreeOn.mono (agree : AgreeOn read inside left right)
    (fewer : ∀ key, wanted key → read key)
    (loosens : ∀ key, wanted key → ∀ first second, inside key first second →
      looser key first second) :
    AgreeOn wanted looser left right := by
  cases agree with
  | same => exact .same _
  | objects members =>
      exact .objects fun key asked =>
        Optional.rel_imp (members key (fewer key asked)) (loosens key asked)

theorem AgreeElements.asArray? (agree : AgreeElements relation left right)
    (refl : ∀ value, relation value value) :
    Option.Rel (List.Forall₂ relation) left.asArray? right.asArray? := by
  cases agree with
  | same =>
      exact Optional.rel_refl
        (fun _ => List.forall₂_same.mpr fun value _ => refl value) _
  | arrays elements => exact .some elements

theorem AgreeElements.mono (agree : AgreeElements relation left right)
    (loosens : ∀ first second, relation first second →
      looserRelation first second) :
    AgreeElements looserRelation left right := by
  cases agree with
  | same => exact .same _
  | arrays elements => exact .arrays (elements.imp loosens)

theorem relatedAt_self_iff {key : String} :
    RelatedAt key relation key left right ↔ relation left right := by
  rw [RelatedAt, if_pos rfl]

theorem RelatedAt.eq {key other : String}
    (related : RelatedAt key relation other left right)
    (different : other ≠ key) : left = right := by
  rwa [RelatedAt, if_neg different] at related

/-! ## Deciding agreement -/

theorem asObject?_eq_some_iff {value : Json} {members : Keyed String Json} :
    value.asObject? = some members ↔ value = .object members := by
  cases value <;> simp [asObject?]

theorem asArray?_eq_some_iff {value : Json} {elements : List Json} :
    value.asArray? = some elements ↔ value = .array elements := by
  cases value <;> simp [asArray?]

/-- Only the members of one or the other object need a look. -/
theorem agreeOn_iff :
    AgreeOn read inside left right ↔
      left = right ∨ ∃ first ∈ left.asObject?, ∃ second ∈ right.asObject?,
        ∀ key ∈ Keyed.keys first ++ Keyed.keys second, read key →
          Option.Rel (inside key) (Keyed.get? key first)
            (Keyed.get? key second) := by
  constructor
  · intro agree
    cases agree with
    | same => exact Or.inl rfl
    | objects members =>
        exact Or.inr ⟨_, rfl, _, rfl, fun key _ => members key⟩
  · rintro (rfl | ⟨first, isFirst, second, isSecond, members⟩)
    · exact .same _
    · rw [asObject?_eq_some_iff.mp isFirst, asObject?_eq_some_iff.mp isSecond]
      refine .objects fun key reads => ?_
      by_cases present : key ∈ Keyed.keys first ++ Keyed.keys second
      · exact members key present reads
      · rw [List.mem_append, not_or] at present
        rw [(Keyed.get?_eq_none_iff _ _).mpr present.1,
          (Keyed.get?_eq_none_iff _ _).mpr present.2]
        exact .none

theorem agreeElements_iff :
    AgreeElements relation left right ↔
      left = right ∨ ∃ first ∈ left.asArray?, ∃ second ∈ right.asArray?,
        List.Forall₂ relation first second := by
  constructor
  · intro agree
    cases agree with
    | same => exact Or.inl rfl
    | arrays elements => exact Or.inr ⟨_, rfl, _, rfl, elements⟩
  · rintro (rfl | ⟨first, isFirst, second, isSecond, elements⟩)
    · exact .same _
    · rw [asArray?_eq_some_iff.mp isFirst, asArray?_eq_some_iff.mp isSecond]
      exact .arrays elements

instance [DecidablePred read]
    [∀ key first second, Decidable (inside key first second)] :
    Decidable (AgreeOn read inside left right) :=
  decidable_of_iff _ agreeOn_iff.symm

instance [∀ first second, Decidable (relation first second)] :
    Decidable (AgreeElements relation left right) :=
  decidable_of_iff _ agreeElements_iff.symm

instance {key other : String}
    [∀ first second, Decidable (relation first second)] :
    Decidable (RelatedAt key relation other left right) :=
  inferInstanceAs
    (Decidable (if other = key then relation left right else left = right))

end Agreement

end Json

end ChartQuery
