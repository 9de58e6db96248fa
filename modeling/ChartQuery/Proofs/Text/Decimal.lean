import Mathlib
import ChartQuery.Text.Digit

/-!
# Decimal integers

An integer is written as one or more ASCII digits behind at most one sign.
`Spells` relates such a text to the integer that it stands for, with leading
zeros and a sign in front of zero as they come.  The readers of
`ChartQuery.Text` find an integer exactly where there is one, and in the text
that an integer is printed as they find that integer.
-/

namespace ChartQuery.Text

/-- One or more ASCII digits. -/
def IsDigits (chars : List Char) : Prop :=
  chars ≠ [] ∧ ∀ char ∈ chars, char.isDigit = true

/-- The texts of an integer. -/
inductive Spells : List Char → Int → Prop where
  | plain {digits : List Char} (digital : IsDigits digits) :
      Spells digits (Nat.ofDigitChars 10 digits 0)
  | plus {digits : List Char} (digital : IsDigits digits) :
      Spells ('+' :: digits) (Nat.ofDigitChars 10 digits 0)
  | minus {digits : List Char} (digital : IsDigits digits) :
      Spells ('-' :: digits) (-(Nat.ofDigitChars 10 digits 0 : Int))

/-! ## Readers -/

theorem digit?_eq_some_iff {char : Char} {value : Nat} :
    digit? char = some value ↔
      char.isDigit = true ∧ value = char.toNat - '0'.toNat := by
  have bounds : ('0' ≤ char ∧ char ≤ '9') ↔ char.isDigit = true := by
    simp [Char.isDigit, Char.le_def]
  simp only [digit?, bounds, Option.ite_none_right_eq_some, Option.some.injEq,
    @eq_comm _ value]

/-- All digits are read, and each as its own value. -/
theorem mapM_digit?_eq_some_iff {chars : List Char} {values : List Nat} :
    chars.mapM digit? = some values ↔
      (∀ char ∈ chars, char.isDigit = true) ∧
        values = chars.map fun char => char.toNat - '0'.toNat := by
  induction chars generalizing values with
  | nil => cases values <;> simp
  | cons char rest ih =>
      simp only [List.mapM_cons, Option.bind_eq_bind, Option.bind_eq_some_iff,
        digit?_eq_some_iff, ih, List.forall_mem_cons, List.map_cons]
      constructor
      · rintro ⟨_, ⟨here, rfl⟩, _, ⟨later, rfl⟩, made⟩
        cases made
        exact ⟨⟨here, later⟩, rfl⟩
      · rintro ⟨⟨here, later⟩, rfl⟩
        exact ⟨_, ⟨here, rfl⟩, _, ⟨later, rfl⟩, rfl⟩

theorem natural?_eq_some_iff {chars : List Char} {value : Nat} :
    natural? chars = some value ↔
      IsDigits chars ∧ value = Nat.ofDigitChars 10 chars 0 := by
  cases chars with
  | nil => simp [natural?, IsDigits]
  | cons char rest =>
      have positional :
          ((char :: rest).map fun char => char.toNat - '0'.toNat).foldl
              (fun value digit => 10 * value + digit) 0 =
            Nat.ofDigitChars 10 (char :: rest) 0 := by
        rw [List.foldl_map, Nat.ofDigitChars_eq_foldl]
      simp only [natural?, Option.map_eq_some_iff, mapM_digit?_eq_some_iff]
      constructor
      · rintro ⟨_, ⟨digital, rfl⟩, rfl⟩
        exact ⟨⟨List.cons_ne_nil _ _, digital⟩, positional⟩
      · rintro ⟨⟨_, digital⟩, rfl⟩
        exact ⟨_, ⟨digital, rfl⟩, positional⟩

theorem integer?_eq_some_iff {chars : List Char} {value : Int} :
    integer? chars = some value ↔ Spells chars value := by
  constructor
  · intro read
    unfold integer? at read
    split at read
    · rcases Option.map_eq_some_iff.mp read with ⟨natural, found, rfl⟩
      rcases natural?_eq_some_iff.mp found with ⟨digital, rfl⟩
      exact .plus digital
    · rcases Option.map_eq_some_iff.mp read with ⟨_, lifted, rfl⟩
      rcases Option.bind_eq_some_iff.mp lifted with ⟨natural, found, made⟩
      rcases natural?_eq_some_iff.mp found with ⟨digital, rfl⟩
      cases made
      exact .minus digital
    · rcases Option.map_eq_some_iff.mp read with ⟨natural, found, rfl⟩
      rcases natural?_eq_some_iff.mp found with ⟨digital, rfl⟩
      exact .plain digital
  · intro spelled
    cases spelled with
    | plain digital =>
        have found := natural?_eq_some_iff.mpr ⟨digital, rfl⟩
        unfold integer?
        -- Neither sign is a digit, so the text is read as it stands.
        split
        · exact absurd (digital.2 '+' List.mem_cons_self) (by decide)
        · exact absurd (digital.2 '-' List.mem_cons_self) (by decide)
        · rw [found]
          rfl
    | plus digital =>
        simp [integer?, natural?_eq_some_iff.mpr ⟨digital, rfl⟩]
    | minus digital =>
        simp [integer?, natural?_eq_some_iff.mpr ⟨digital, rfl⟩]

/-- What is read as a word is an integer that fits one. -/
theorem int64?_eq_some_iff {text : String} {value : Int} :
    int64? text = some value ↔
      Spells text.toList value ∧ -2 ^ 63 ≤ value ∧ value < 2 ^ 63 := by
  unfold int64?
  cases read : integer? text.toList with
  | none =>
      have unspelled : ¬Spells text.toList value := fun spelled => by
        rw [integer?_eq_some_iff.mpr spelled] at read
        cases read
      simp [unspelled]
  | some other =>
      have spells : ∀ {value}, Spells text.toList value ↔ other = value := by
        intro value
        rw [← integer?_eq_some_iff, read, Option.some.injEq]
      simp only [spells, Option.ite_none_right_eq_some, Option.some.injEq]
      constructor
      · rintro ⟨⟨low, high⟩, rfl⟩
        exact ⟨rfl, by omega, by omega⟩
      · rintro ⟨rfl, low, high⟩
        exact ⟨⟨by omega, by omega⟩, rfl⟩

/-! ## Printed integers -/

theorem isDigits_repr (number : Nat) : IsDigits number.repr.toList := by
  rw [Nat.toList_repr]
  exact ⟨Nat.toDigits_ne_nil,
    fun _ member => Nat.isDigit_of_mem_toDigits (by decide) (by decide) member⟩

theorem ofDigitChars_repr (number : Nat) :
    Nat.ofDigitChars 10 number.repr.toList 0 = number := by
  rw [Nat.toList_repr, Nat.ofDigitChars_ten_toDigits]

/-- An integer is spelled by the text that it is printed as. -/
theorem spells_repr (value : Int) : Spells value.repr.toList value := by
  rw [Int.repr_eq_if]
  split
  · rename_i nonnegative
    have spelled := Spells.plain (isDigits_repr value.toNat)
    rwa [ofDigitChars_repr, Int.toNat_of_nonneg nonnegative] at spelled
  · rename_i negative
    have spelled := Spells.minus (isDigits_repr (-value).toNat)
    rw [ofDigitChars_repr, Int.toNat_of_nonneg (by omega), neg_neg] at spelled
    rwa [String.toList_append]

end ChartQuery.Text
