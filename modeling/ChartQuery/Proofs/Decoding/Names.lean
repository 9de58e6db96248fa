import Mathlib
import ChartQuery.Decoding.Overrides

/-!
# Names of columns and replacements of keys

What overrides say of a position is told here by their two tables alone.  A
title is what the one table holds for an axis and a position; without one, the
name of a column is made of the two.  A replacement is what the other table
holds for the text of a key, and it holds for the keys of groupings only.

The decoder looks all of this up while it writes a row.  `names_iff`,
`replaces_iff` and `writes_iff` compare the two.
-/

namespace ChartQuery

/-! ## Names without a title -/

/-- The name of a column without a title: the axis, a point and the position. -/
def Axis.label : Axis → Nat → String
  | .main, position => "main_axis." ++ position.repr
  | .value, position => "value_axis." ++ position.repr

theorem Axis.column_eq_label (axis : Axis) (position : Nat) :
    axis.column position = axis.label position := by
  cases axis with
  | main => exact congrArg (· ++ position.repr) (by decide)
  | value => exact congrArg (· ++ position.repr) (by decide)

theorem Axis.label_inj {axis : Axis} {left right : Nat} :
    axis.label left = axis.label right ↔ left = right := by
  have prefixed : ∃ start : String, axis.label = (start ++ ·.repr) := by
    cases axis with
    | main => exact ⟨"main_axis.", rfl⟩
    | value => exact ⟨"value_axis.", rfl⟩
  rcases prefixed with ⟨start, label⟩
  constructor
  · intro equal
    have letters := congrArg String.toList equal
    simp only [label, String.toList_append, List.append_cancel_left_eq,
      String.toList_inj] at letters
    exact Nat.repr_inj.mp letters
  · exact congrArg axis.label

theorem Axis.label_main_ne_value (depth position : Nat) :
    Axis.main.label depth ≠ Axis.value.label position := by
  intro equal
  have letters := congrArg (fun text => text.toList.head?) equal
  simp [Axis.label] at letters

/-- A name without a title tells its axis and its position. -/
theorem Axis.label_eq_iff {left right : Axis} {position other : Nat} :
    left.label position = right.label other ↔
      left = right ∧ position = other := by
  cases left <;> cases right
  · simp [Axis.label_inj]
  · simp [Axis.label_main_ne_value]
  · simp [Ne.symm (Axis.label_main_ne_value other position)]
  · simp [Axis.label_inj]

/-! ## Texts of keys -/

/--
The text that a key is known by: a string is its own text, a float that is a
whole number below `10^15` is written like an integer, and all else as JSON.
-/
inductive Json.KnownBy : Json → String → Prop where
  | string (text : String) : KnownBy (.string text) text
  | whole {value : Binary64} {magnitude : Nat}
      (exact : value.numerator = magnitude * value.denominator)
      (small : magnitude < 10 ^ 15) :
      KnownBy (.number (.float value))
        ((if value.negative = true ∧ magnitude ≠ 0 then "-" else "") ++
          magnitude.repr)
  | other {key : Json} (noString : ∀ text, key ≠ .string text)
      (notWhole : ∀ value magnitude, key = .number (.float value) →
        value.numerator = magnitude * value.denominator →
          10 ^ 15 ≤ magnitude) :
      KnownBy key key.compact

/-- A whole number as an integer with the sign of the float. -/
def Binary64.signed (value : Binary64) (magnitude : Nat) : Int :=
  if value.negative = true then -magnitude else magnitude

theorem Binary64.toInt?_of_exact {value : Binary64} {magnitude : Nat}
    (exact : value.numerator = magnitude * value.denominator) :
    value.toInt? = some (value.signed magnitude) := by
  have positive : 0 < value.denominator := Nat.pow_pos (by decide)
  have whole : value.numerator / value.denominator = magnitude := by
    rw [exact, Nat.mul_div_cancel _ positive]
  have divides : value.numerator % value.denominator = 0 := by
    rw [exact, Nat.mul_mod_left]
  rw [toInt?, if_pos divides, whole, signed]

theorem Binary64.exists_exact {value : Binary64} {whole : Int}
    (found : value.toInt? = some whole) :
    ∃ magnitude, value.numerator = magnitude * value.denominator := by
  unfold toInt? at found
  split at found
  · rename_i divides
    exact ⟨_, (Nat.div_mul_cancel (Nat.dvd_of_mod_eq_zero divides)).symm⟩
  · cases found

/-- The sign of a zero is not written. -/
theorem Binary64.integerText_signed (value : Binary64) (magnitude : Nat) :
    Json.Number.integerText (value.signed magnitude) =
      (if value.negative = true ∧ magnitude ≠ 0 then "-" else "") ++
        magnitude.repr := by
  unfold Json.Number.integerText signed
  cases value.negative with
  | false => simp
  | true => simp [Nat.pos_iff_ne_zero]

section Keys

variable {value : Binary64} {magnitude : Nat}

theorem Json.keyText_of_exact
    (exact : value.numerator = magnitude * value.denominator) :
    Json.keyText (.number (.float value)) =
      if magnitude < 10 ^ 15 then
        (if value.negative = true ∧ magnitude ≠ 0 then "-" else "") ++
          magnitude.repr
      else Json.compact (.number (.float value)) := by
  have size : (value.signed magnitude).natAbs = magnitude := by
    unfold Binary64.signed
    split <;> simp
  simp only [Json.keyText, Binary64.toInt?_of_exact exact, size,
    Binary64.integerText_signed]
  rfl

/-- A float with a fraction, or a large one, is known by its JSON text. -/
theorem Json.keyText_of_not_small
    (notSmall : ∀ magnitude,
      value.numerator = magnitude * value.denominator → 10 ^ 15 ≤ magnitude) :
    Json.keyText (.number (.float value)) =
      Json.compact (.number (.float value)) := by
  cases found : value.toInt? with
  | none =>
      simp only [Json.keyText, found]
      rfl
  | some whole =>
      rcases Binary64.exists_exact found with ⟨magnitude, exact⟩
      have large := notSmall magnitude exact
      rw [Json.keyText_of_exact exact, if_neg (Nat.not_lt.mpr large)]

/-- A key is known by the text that it is looked up by, and by no other. -/
theorem Json.knownBy_iff {key : Json} {text : String} :
    key.KnownBy text ↔ text = key.keyText := by
  constructor
  · intro known
    cases known with
    | string text => rfl
    | whole exact small => rw [Json.keyText_of_exact exact, if_pos small]
    | other noString notSmall =>
        cases key with
        | string text => exact (noString text rfl).elim
        | number number =>
            cases number with
            | integer value fits => rfl
            | float value =>
                exact (Json.keyText_of_not_small fun magnitude =>
                  notSmall value magnitude rfl).symm
        | _ => rfl
  · rintro rfl
    cases key with
    | string text => exact .string text
    | number number =>
        cases number with
        | integer value fits => exact .other nofun nofun
        | float value =>
            by_cases small : ∃ magnitude,
                value.numerator = magnitude * value.denominator ∧
                  magnitude < 10 ^ 15
            · rcases small with ⟨magnitude, exact, below⟩
              rw [Json.keyText_of_exact exact, if_pos below]
              exact .whole exact below
            · have notSmall : ∀ magnitude,
                  value.numerator = magnitude * value.denominator →
                    10 ^ 15 ≤ magnitude := by
                intro magnitude exact
                by_contra below
                exact small ⟨magnitude, exact, Nat.not_le.mp below⟩
              rw [Json.keyText_of_not_small notSmall]
              refine .other nofun fun other magnitude same => ?_
              cases same
              exact notSmall magnitude
    | _ => exact .other nofun nofun

end Keys

/-! ## What the tables say -/

/-- A cell as a response gives it: where it belongs, and what it holds. -/
structure RawCell where
  axis : Axis
  position : Nat
  raw : Json

namespace RawCell

/-- The position that a cell belongs to. -/
def place (cell : RawCell) : Axis × Nat := (cell.axis, cell.position)

/-- The cell as it stands in a row without overrides. -/
def plain (cell : RawCell) : String × Json :=
  (cell.axis.label cell.position, cell.raw)

end RawCell

namespace Overrides

/-- The table of titles has a title for a position of an axis. -/
def Titles (overrides : Overrides) (axis : Axis) (position : Nat)
    (title : String) : Prop :=
  ∃ byPosition, Keyed.get? axis overrides.titles = some byPosition ∧
    Keyed.get? position byPosition = some title

/-- The name of a column: its title, or else the axis and the position. -/
inductive Names (overrides : Overrides) (axis : Axis) (position : Nat) :
    String → Prop where
  | titled {title : String} (given : overrides.Titles axis position title) :
      Names overrides axis position title
  | untitled (free : ∀ title, ¬overrides.Titles axis position title) :
      Names overrides axis position (axis.label position)

/-- The table of replacements has one for a key at a position. -/
def Replaces (overrides : Overrides) (position : Nat)
    (key replacement : Json) : Prop :=
  ∃ byPosition byText text,
    Keyed.get? .main overrides.values = some byPosition ∧
      Keyed.get? position byPosition = some byText ∧
      key.KnownBy text ∧ Keyed.get? text byText = some replacement

/-- A cell under the name of its column; of a key, the replacement if any. -/
inductive Writes (overrides : Overrides) : RawCell → String × Json → Prop where
  | replaced {position : Nat} {key replacement : Json} {name : String}
      (named : overrides.Names .main position name)
      (given : overrides.Replaces position key replacement) :
      Writes overrides ⟨.main, position, key⟩ (name, replacement)
  | kept {position : Nat} {key : Json} {name : String}
      (named : overrides.Names .main position name)
      (free : ∀ replacement, ¬overrides.Replaces position key replacement) :
      Writes overrides ⟨.main, position, key⟩ (name, key)
  | value {position : Nat} {raw : Json} {name : String}
      (named : overrides.Names .value position name) :
      Writes overrides ⟨.value, position, raw⟩ (name, raw)

/-! ## What is looked up -/

variable {overrides : Overrides} {axis : Axis} {position : Nat}

theorem titles_iff {title : String} :
    overrides.Titles axis position title ↔
      lookup? axis position overrides.titles = some title := by
  rw [lookup?, Option.bind_eq_some_iff, Titles]

theorem names_iff {name : String} :
    overrides.Names axis position name ↔
      name = overrides.column axis position := by
  unfold column
  cases given : lookup? axis position overrides.titles with
  | some title =>
      have titled := titles_iff.mpr given
      constructor
      · rintro (given' | free)
        · exact Option.some.inj ((titles_iff.mp given').symm.trans given)
        · exact (free title titled).elim
      · rintro rfl
        exact .titled titled
  | none =>
      have free : ∀ title, ¬overrides.Titles axis position title := by
        intro title titled
        rw [titles_iff, given] at titled
        cases titled
      rw [Option.getD_none, Axis.column_eq_label]
      constructor
      · rintro (given' | _)
        · exact (free _ given').elim
        · rfl
      · rintro rfl
        exact .untitled free

theorem replaces_iff {key replacement : Json} :
    overrides.Replaces position key replacement ↔
      (lookup? .main position overrides.values).bind
        (Keyed.get? key.keyText) = some replacement := by
  simp only [Replaces, Json.knownBy_iff, lookup?, Option.bind_eq_some_iff]
  constructor
  · rintro ⟨byPosition, byText, text, onAxis, there, rfl, found⟩
    exact ⟨byText, ⟨byPosition, onAxis, there⟩, found⟩
  · rintro ⟨byText, ⟨byPosition, onAxis, there⟩, found⟩
    exact ⟨byPosition, byText, _, onAxis, there, rfl, found⟩

theorem keyCell_of_replaces {key replacement : Json}
    (given : overrides.Replaces position key replacement) :
    overrides.keyCell .main position key = replacement := by
  rw [keyCell, replaces_iff.mp given, Option.getD_some]

theorem keyCell_of_free {key : Json}
    (free : ∀ replacement, ¬overrides.Replaces position key replacement) :
    overrides.keyCell .main position key = key := by
  unfold keyCell
  cases given : (lookup? .main position overrides.values).bind
      (Keyed.get? key.keyText) with
  | some replacement => exact (free _ (replaces_iff.mpr given)).elim
  | none => rfl

@[simp]
theorem column_none (axis : Axis) (position : Nat) :
    Overrides.none.column axis position = axis.label position :=
  Axis.column_eq_label axis position

@[simp]
theorem keyCell_none (axis : Axis) (position : Nat) (key : Json) :
    Overrides.none.keyCell axis position key = key :=
  rfl

/-- A cell as the decoder writes it. -/
def write (overrides : Overrides) : RawCell → String × Json
  | ⟨.main, position, key⟩ =>
      (overrides.column .main position, overrides.keyCell .main position key)
  | ⟨.value, position, cell⟩ => (overrides.column .value position, cell)

theorem write_fst (overrides : Overrides) (cell : RawCell) :
    (overrides.write cell).1 = overrides.column cell.axis cell.position := by
  rcases cell with ⟨_ | _, position, raw⟩ <;> rfl

theorem write_none (cell : RawCell) :
    Overrides.none.write cell = cell.plain := by
  rcases cell with ⟨_ | _, position, raw⟩
  · exact congrArg (·, raw) (column_none .main position)
  · exact congrArg (·, raw) (column_none .value position)

theorem writes_iff {cell : RawCell} {written : String × Json} :
    overrides.Writes cell written ↔ written = overrides.write cell := by
  constructor
  · intro writes
    cases writes with
    | replaced named given =>
        rw [names_iff.mp named, write, keyCell_of_replaces given]
    | kept named free => rw [names_iff.mp named, write, keyCell_of_free free]
    | value named => rw [names_iff.mp named, write]
  · rintro rfl
    rcases cell with ⟨_ | _, position, raw⟩
    · rw [write]
      by_cases given : ∃ replacement,
          overrides.Replaces position raw replacement
      · rcases given with ⟨replacement, given⟩
        rw [keyCell_of_replaces given]
        exact .replaced (names_iff.mpr rfl) given
      · have free := not_exists.mp given
        rw [keyCell_of_free free]
        exact .kept (names_iff.mpr rfl) free
    · exact .value (names_iff.mpr rfl)

end Overrides

end ChartQuery
