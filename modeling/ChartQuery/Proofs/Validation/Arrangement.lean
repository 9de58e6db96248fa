import ChartQuery.Proofs.Sample
import ChartQuery.Proofs.Validation.Grammar

/-!
# Arrangements of a chart

Validation stops at the first violation, so the arrangement of a chart decides
which of its violations is reported.  It does not decide whether there is one:
a chart with its entries in another order is accepted or rejected just the same.
With the options inside its entries in another order, it is even rejected with
the same violation, but that an option which is not known or not declared may be
another one of its kind.

Two charts are compared by their lists of violations.  Where the entries of the
charts pair up, so do their violations, with one of the same kind at each place.
-/

namespace ChartQuery

open Outcome (Reports)

/-! ## Charts side by side -/

section Comparison

variable {relation : ValidationError → ValidationError → Prop}
  (reflexive : ∀ violation, relation violation violation)
  {catalog : Catalog} {index : IndexMapping} {axis : Axis}

include reflexive

/-- Entries for which a function takes the same values differ by their keys. -/
theorem FunctionDescriptor.violations_related
    {function : FunctionDescriptor} {left right : AxisEntry}
    (field : left.field = right.field)
    (values : ∀ key, function.value? left key = function.value? right key)
    (unknown : List.Forall₂ relation
      ((left.givenKeys.filter (fun key => !catalog.knowsOption key)).map
        .unknownOption)
      ((right.givenKeys.filter (fun key => !catalog.knowsOption key)).map
        .unknownOption))
    (unmapped : List.Forall₂ relation
      ((left.givenKeys.filter (fun key => !function.declares key)).map
        (.unmappedOption function.id))
      ((right.givenKeys.filter (fun key => !function.declares key)).map
        (.unmappedOption function.id))) :
    List.Forall₂ relation (function.violations catalog index axis left)
      (function.violations catalog index axis right) := by
  have same := Outcome.forall₂_self reflexive
  have required : function.required.flatMap (function.requiredViolations left) =
      function.required.flatMap (function.requiredViolations right) := by
    unfold FunctionDescriptor.requiredViolations
    simp only [values]
  have formats : OptionFormat.checked.flatMap left.formatViolations =
      OptionFormat.checked.flatMap right.formatViolations := by
    refine List.flatMap_congr fun checked member => ?_
    unfold AxisEntry.formatViolations
    rw [← value?_of_checked function left member, values,
      value?_of_checked function right member]
  have types : function.typeViolations index left =
      function.typeViolations index right := by
    unfold FunctionDescriptor.typeViolations
    rw [field]
  unfold FunctionDescriptor.violations
  rw [required, formats, types]
  exact List.rel_append (same _) <| List.rel_append (same _) <|
    List.rel_append unknown <| List.rel_append (same _) <|
      List.rel_append unmapped (same _)

theorem Catalog.violations_related {left right : Chart}
    {alike : AxisEntry → AxisEntry → Prop}
    (view : left.dataView = right.dataView)
    (type : left.moduleType = right.moduleType)
    (pairs : ∀ axis,
      List.Forall₂ alike (left.entries axis) (right.entries axis))
    (each : ∀ index axis entry other, alike entry other →
      List.Forall₂ relation (catalog.entryViolations index axis entry)
        (catalog.entryViolations index axis other)) :
    List.Forall₂ relation (catalog.violations left)
      (catalog.violations right) := by
  have same := Outcome.forall₂_self reflexive
  have long : ∀ axis, (left.entries axis).length =
      (right.entries axis).length := fun axis => (pairs axis).length_eq
  unfold Catalog.violations
  rw [view, type]
  refine List.rel_append (same _) ?_
  cases catalog.moduleType? right.moduleType with
  | none => exact same _
  | some module =>
      have presence : ∀ axis frequency,
          presenceViolations axis frequency (left.entries axis) =
            presenceViolations axis frequency (right.entries axis) := by
        intro axis frequency
        simp only [presenceViolations, ne_eq, ← List.length_eq_zero_iff, long]
      have lengths : ∀ axis frequency,
          lengthViolations axis frequency (left.entries axis) =
            lengthViolations axis frequency (right.entries axis) := by
        intro axis frequency
        simp only [lengthViolations, long]
      dsimp only
      simp only [presence, lengths]
      refine List.rel_append (same _) (List.rel_append (same _) ?_)
      cases catalog.viewIndex? right.dataView with
      -- The data view is a violation already, and no entry is looked at.
      | none => exact .nil
      | some index =>
          exact List.rel_append
            (List.rel_flatMap (pairs .main) fun entry other =>
              each index .main entry other)
            (List.rel_flatMap (pairs .value) fun entry other =>
              each index .value entry other)

end Comparison

/-! ## Order of the entries -/

/-- Whether a chart follows the grammar does not depend on its arrangement. -/
theorem Catalog.Grammatical.perm {catalog : Catalog} {left right : Chart}
    (grammatical : catalog.Grammatical left)
    (view : left.dataView = right.dataView)
    (type : left.moduleType = right.moduleType)
    (perm : ∀ axis, (left.entries axis).Perm (right.entries axis)) :
    catalog.Grammatical right := by
  rcases grammatical with
    ⟨index, module, stands, typed, main, value, entries⟩
  rw [(perm .main).length_eq] at main
  rw [(perm .value).length_eq] at value
  exact ⟨index, module, view ▸ stands, type ▸ typed, main, value,
    fun axis entry member =>
      entries axis entry ((perm axis).mem_iff.mpr member)⟩

theorem Catalog.validate_eq_ok_iff_grammatical {catalog : Catalog}
    {chart : Chart} :
    catalog.validate chart = .ok () ↔ catalog.Grammatical chart := by
  rw [(catalog.reports_validate chart).passes_iff,
    Catalog.violations_eq_nil_iff]

/-! ## Order of the options -/

/-- Entries that differ at most in the order of their options. -/
structure AxisEntry.Rearranged (left right : AxisEntry) : Prop where
  function : left.function = right.function
  field : left.field = right.field
  options : left.options.Perm right.options

/-- Violations that differ at most in the option that they name. -/
inductive ValidationError.Alike : ValidationError → ValidationError → Prop where
  | same (violation : ValidationError) : Alike violation violation
  | unknownOption (left right : String) :
      Alike (.unknownOption left) (.unknownOption right)
  | unmappedOption (function left right : String) :
      Alike (.unmappedOption function left) (.unmappedOption function right)

/-- Outcomes that accept both or reject both, with violations that are alike. -/
structure SameVerdict (left right : Except ValidationError Unit) : Prop where
  accepts : left = .ok () ↔ right = .ok ()
  code : ∀ violation other, left = .error violation → right = .error other →
    violation.code = other.code
  alike : ∀ violation other, left = .error violation → right = .error other →
    violation.Alike other

theorem ValidationError.Alike.code_eq {left right : ValidationError}
    (alike : left.Alike right) : left.code = right.code := by
  cases alike <;> rfl

/-- Checks whose faults are alike one by one end alike. -/
theorem sameVerdict_of_reports {left right : Except ValidationError Unit}
    {violations others : List ValidationError}
    (first : Reports left violations) (second : Reports right others)
    (alike : List.Forall₂ ValidationError.Alike violations others) :
    SameVerdict left right := by
  cases alike with
  | nil =>
      rw [first.passes_iff.mpr rfl, second.passes_iff.mpr rfl]
      refine ⟨Iff.rfl, ?_, ?_⟩
      · intro _ _ rejected
        cases rejected
      · intro _ _ rejected
        cases rejected
  | cons here _ =>
      rw [(first _).mpr rfl, (second _).mpr rfl]
      refine ⟨by simp, ?_, ?_⟩
      · rintro _ _ ⟨⟩ ⟨⟩
        exact here.code_eq
      · rintro _ _ ⟨⟩ ⟨⟩
        exact here

section Options

variable {left right : AxisEntry}

theorem AxisEntry.Rearranged.given? (same : left.Rearranged right)
    (key : String) : left.given? key = right.given? key := by
  unfold AxisEntry.given?
  rw [Keyed.get?_perm left.distinct same.options, same.field]

theorem AxisEntry.Rearranged.givenKeys (same : left.Rearranged right) :
    left.givenKeys.Perm right.givenKeys := by
  unfold AxisEntry.givenKeys
  rw [same.field]
  exact (same.options.map Prod.fst).append_left _

theorem AxisEntry.Rearranged.violations_of_keys (same : left.Rearranged right)
    (fails : String → Bool) (violation : String → ValidationError)
    (alike : ∀ key other, (violation key).Alike (violation other)) :
    List.Forall₂ ValidationError.Alike
      ((left.givenKeys.filter fails).map violation)
      ((right.givenKeys.filter fails).map violation) := by
  rw [List.forall₂_map_left_iff, List.forall₂_map_right_iff]
  exact Outcome.forall₂_of_length_eq alike
    (same.givenKeys.filter fails).length_eq

theorem AxisEntry.Rearranged.entryViolations (same : left.Rearranged right)
    (catalog : Catalog) (index : IndexMapping) (axis : Axis) :
    List.Forall₂ ValidationError.Alike
      (catalog.entryViolations index axis left)
      (catalog.entryViolations index axis right) := by
  unfold Catalog.entryViolations
  rw [same.function]
  cases catalog.function? right.function with
  | none => exact .cons (.same _) .nil
  | some function =>
      refine FunctionDescriptor.violations_related .same same.field
        (fun key => ?_)
        (same.violations_of_keys _ _ .unknownOption)
        (same.violations_of_keys _ _ (.unmappedOption function.id))
      unfold FunctionDescriptor.value?
      rw [same.given?]

end Options

/-! ## Charts -/

/--
Permuting the entries of its axes does not change whether a chart is accepted.
Permuting the options inside its entries does not change the verdict either, and
of the violation it changes at most which unknown or undeclared option is named.
-/
theorem validate_of_rearranged (catalog : Catalog) {left right : Chart}
    (view : left.dataView = right.dataView)
    (type : left.moduleType = right.moduleType) :
    ((∀ axis, (left.entries axis).Perm (right.entries axis)) →
      (catalog.validate left = .ok () ↔ catalog.validate right = .ok ())) ∧
    ((∀ axis, List.Forall₂ AxisEntry.Rearranged (left.entries axis)
        (right.entries axis)) →
      SameVerdict (catalog.validate left) (catalog.validate right)) := by
  constructor
  · intro perm
    rw [Catalog.validate_eq_ok_iff_grammatical,
      Catalog.validate_eq_ok_iff_grammatical]
    exact ⟨fun grammatical => grammatical.perm view type perm,
      fun grammatical => grammatical.perm view.symm type.symm
        fun axis => (perm axis).symm⟩
  · intro pairs
    have alike : List.Forall₂ ValidationError.Alike (catalog.violations left)
        (catalog.violations right) :=
      Catalog.violations_related .same view type pairs
        fun index axis _ _ same => same.entryViolations catalog index axis
    exact sameVerdict_of_reports (catalog.reports_validate left)
      (catalog.reports_validate right) alike

/--
The entries of a chart the other way round, and two options that are not known
the other way round: there the violation names the other one.
-/
theorem validate_of_rearranged_samples :
    Sample.catalog.validate Sample.ordered = .ok () ∧
      Sample.catalog.validate Sample.reversed = .ok () ∧
      SameVerdict (Sample.catalog.validate Sample.misnamed)
        (Sample.catalog.validate Sample.misnamedReversed) ∧
      (Sample.catalog.violations Sample.misnamed).head? =
        some (.unknownOption "colour") ∧
      (Sample.catalog.violations Sample.misnamedReversed).head? =
        some (.unknownOption "shade") := by
  have accepted : (Sample.catalog.validate Sample.ordered).toBool = true := by
    decide +kernel
  have view : Sample.ordered.dataView = Sample.reversed.dataView := rfl
  have perm : ∀ axis, (Sample.ordered.entries axis).Perm
      (Sample.reversed.entries axis) := by
    intro axis
    cases axis <;> exact (List.reverse_perm _).symm
  have sameView : Sample.misnamed.dataView = Sample.misnamedReversed.dataView :=
    rfl
  have pairs : ∀ axis, List.Forall₂ AxisEntry.Rearranged
      (Sample.misnamed.entries axis) (Sample.misnamedReversed.entries axis) := by
    intro axis
    cases axis with
    | main => exact .cons ⟨rfl, rfl, .refl _⟩ .nil
    | value => exact .cons ⟨rfl, rfl, .swap _ _ _⟩ .nil
  rcases Outcome.exists_ok_of_toBool accepted with ⟨_, valid⟩
  exact ⟨valid, ((validate_of_rearranged _ view rfl).1 perm).mp valid,
    (validate_of_rearranged _ sameView rfl).2 pairs, by decide +kernel,
    by decide +kernel⟩

end ChartQuery
