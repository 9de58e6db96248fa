import ChartQuery.Proofs.Text.Decimal
import ChartQuery.Proofs.Validation.Entries

/-!
# The literals of well-known options

`Admits` describes the values that each form takes, over a class of digits.  The
checks follow it exactly with the decimal digits of all scripts, and report the
first option of the list that is badly formed.

An offset or an interval is meant to be written in ASCII.  Those that have a
digit of another script in them are the only values that pass all the same;
without them the checks follow the forms over ASCII digits as well.
-/

namespace ChartQuery

/-! ## Digits -/

theorem Text.isDecimalDigit_of_isDigit {char : Char}
    (digit : char.isDigit = true) : isDecimalDigit char = true :=
  isDecimalDigit_of_digit? (digit?_eq_some_iff.mpr ⟨digit, rfl⟩)

/-- All digits but those of ASCII lie above ASCII. -/
theorem Text.isDecimalDigit_eq_isDigit {char : Char}
    (ascii : char.toNat < 128) : isDecimalDigit char = char.isDigit := by
  have digits : char.isDigit = true ↔ 48 ≤ char.toNat ∧ char.toNat ≤ 57 := by
    simp only [Char.isDigit, Bool.and_eq_true, decide_eq_true_eq]
    exact Iff.rfl
  -- The runs of ten start at a zero each; only the first of them starts low.
  have above : ∀ first ∈ zeros, first = 48 ∨ 128 ≤ first := by decide
  rw [Bool.eq_iff_iff, digits, isDecimalDigit, List.any_eq_true]
  simp only [Bool.and_eq_true, decide_eq_true_eq]
  constructor
  · rintro ⟨first, member, low, high⟩
    rcases above first member with rfl | other
    · omega
    · omega
  · rintro ⟨low, high⟩
    exact ⟨48, by decide, by omega, by omega⟩

namespace OptionFormat

/-- The values of a form, where `digit` tells what a digit is. -/
inductive Admits (digit : Char → Bool) : OptionFormat → Json → Prop where
  | timeZone {sign hourTens hourOnes minuteTens minuteOnes : Char}
      (signed : sign = '+' ∨ sign = '-')
      (digital : ∀ char ∈ [hourTens, hourOnes, minuteTens, minuteOnes],
        digit char = true) :
      Admits digit .timeZone (.string (String.ofList
        [sign, hourTens, hourOnes, ':', minuteTens, minuteOnes]))
  | fixedInterval {digits : List Char} {unit : Char}
      (nonempty : digits ≠ []) (digital : ∀ char ∈ digits, digit char = true)
      (named : unit ∈ ['s', 'm', 'h', 'd', 'w', 'M', 'y']) :
      Admits digit .fixedInterval (.string (String.ofList (digits ++ [unit])))
  | count {value : Int}
      {fits : -9223372036854775808 ≤ value ∧ value < 18446744073709551616}
      (low : 0 ≤ value) (high : value < 2 ^ 64) :
      Admits digit .count (.number (.integer value fits))
  | number (number : Json.Number) : Admits digit .number (.number number)
  | text (text : String) : Admits digit .text (.string text)
  | order {value : Json} {order : Order} (parsed : Order.parse value = .ok order) :
      Admits digit .order value

/-- An offset or an interval with a digit of another script than ASCII in it. -/
def HasForeignDigit (format : OptionFormat) (value : Json) : Prop :=
  (format = .timeZone ∨ format = .fixedInterval) ∧
    ∃ text, value = .string text ∧
      ∃ char ∈ text.toList,
        Text.isDecimalDigit char = true ∧ char.isDigit = false

/-! ## Patterns -/

theorem isTimeZone_iff {chars : List Char} :
    isTimeZone chars = true ↔
      ∃ sign hourTens hourOnes minuteTens minuteOnes,
        chars = [sign, hourTens, hourOnes, ':', minuteTens, minuteOnes] ∧
          (sign = '+' ∨ sign = '-') ∧
          ∀ char ∈ [hourTens, hourOnes, minuteTens, minuteOnes],
            Text.isDecimalDigit char = true := by
  constructor
  · intro matched
    unfold isTimeZone at matched
    split at matched
    · simp only [Bool.and_eq_true, Bool.or_eq_true, decide_eq_true_eq] at matched
      rcases matched with ⟨⟨⟨⟨⟨signed, first⟩, second⟩, rfl⟩, third⟩, fourth⟩
      exact ⟨_, _, _, _, _, rfl, signed, by simp [first, second, third, fourth]⟩
    · cases matched
  · rintro ⟨sign, _, _, _, _, rfl, signed, digital⟩
    simp only [List.forall_mem_cons] at digital
    simp [isTimeZone, signed, digital]

theorem isFixedInterval_iff {chars : List Char} :
    isFixedInterval chars = true ↔
      ∃ digits unit, chars = digits ++ [unit] ∧ digits ≠ [] ∧
        (∀ char ∈ digits, Text.isDecimalDigit char = true) ∧ unit ∈ units := by
  constructor
  · intro matched
    unfold isFixedInterval at matched
    split at matched
    · rename_i unit digits turned
      simp only [Bool.and_eq_true, decide_eq_true_eq, Bool.not_eq_true',
        List.isEmpty_eq_false_iff, List.all_eq_true] at matched
      rcases matched with ⟨⟨named, nonempty⟩, digital⟩
      refine ⟨digits.reverse, unit, ?_, by simpa using nonempty,
        by simpa using digital, named⟩
      rw [← List.reverse_reverse chars, turned, List.reverse_cons]
    · cases matched
  · rintro ⟨digits, unit, rfl, nonempty, digital, named⟩
    simpa [isFixedInterval, named, nonempty] using digital

/-! ## Forms -/

variable {format : OptionFormat} {value : Json}

theorem accepts_iff_admits :
    format.accepts value = true ↔
      Admits Text.isDecimalDigit format value := by
  constructor
  · intro accepted
    cases format with
    | timeZone =>
        rcases exists_text_of_accepts rfl accepted with ⟨text, rfl⟩
        rcases isTimeZone_iff.mp accepted with
          ⟨_, _, _, _, _, spelled, signed, digital⟩
        rw [← String.ofList_toList (s := text), spelled]
        exact .timeZone signed digital
    | fixedInterval =>
        rcases exists_text_of_accepts rfl accepted with ⟨text, rfl⟩
        rcases isFixedInterval_iff.mp accepted with
          ⟨_, _, spelled, nonempty, digital, named⟩
        rw [← String.ofList_toList (s := text), spelled]
        exact .fixedInterval nonempty digital named
    | count =>
        rcases exists_word_of_accepts accepted with ⟨word, rfl⟩
        have bound := word.toNat_lt
        exact .count (by omega) (by omega)
    | number =>
        rcases exists_number_of_accepts accepted with ⟨number, rfl⟩
        exact .number number
    | text =>
        rcases exists_text_of_accepts rfl accepted with ⟨text, rfl⟩
        exact .text text
    | order =>
        rcases Outcome.exists_ok_of_toBool accepted with ⟨order, parsed⟩
        exact .order parsed
  · intro admitted
    cases admitted with
    | timeZone signed digital =>
        refine isTimeZone_iff.mpr ⟨_, _, _, _, _, ?_, signed, digital⟩
        exact String.toList_ofList
    | fixedInterval nonempty digital named =>
        refine isFixedInterval_iff.mpr ⟨_, _, ?_, nonempty, digital, named⟩
        exact String.toList_ofList
    | count low high => simp [accepts, Json.asUInt64?, Json.Number.toUInt64?, low]
    | number number => rfl
    | text text => rfl
    | order parsed => simp [accepts, parsed, Except.toBool]

theorem Admits.mono {digit other : Char → Bool}
    (wider : ∀ char, digit char = true → other char = true)
    (admitted : Admits digit format value) : Admits other format value := by
  cases admitted with
  | timeZone signed digital =>
      exact .timeZone signed fun char member => wider char (digital char member)
  | fixedInterval nonempty digital named =>
      exact .fixedInterval nonempty
        (fun char member => wider char (digital char member)) named
  | count low high => exact .count low high
  | number number => exact .number number
  | text text => exact .text text
  | order parsed => exact .order parsed

/-- What stands in an offset or an interval besides its digits. -/
def marks : List Char := ['+', '-', ':', 's', 'm', 'h', 'd', 'w', 'M', 'y']

theorem isDecimalDigit_of_mem_marks {char : Char} (mark : char ∈ marks) :
    Text.isDecimalDigit char = false := by
  have plain : ∀ mark ∈ marks, mark.toNat < 128 ∧ mark.isDigit = false := by
    simp [marks]
  rcases plain char mark with ⟨ascii, other⟩
  rw [Text.isDecimalDigit_eq_isDigit ascii, other]

theorem Admits.digit_or_mark {digit : Char → Bool} {text : String}
    (literal : format = .timeZone ∨ format = .fixedInterval)
    (admitted : Admits digit format (.string text)) {char : Char}
    (member : char ∈ text.toList) : digit char = true ∨ char ∈ marks := by
  cases admitted with
  | timeZone signed digital =>
      rw [String.toList_ofList] at member
      simp only [List.mem_cons, List.not_mem_nil, or_false] at member
      simp only [List.forall_mem_cons] at digital
      rcases digital with ⟨hourTens, hourOnes, minuteTens, minuteOnes, _⟩
      rcases member with rfl | rfl | rfl | rfl | rfl | rfl
      · rcases signed with rfl | rfl
        · exact .inr (by decide)
        · exact .inr (by decide)
      · exact .inl hourTens
      · exact .inl hourOnes
      · exact .inr (by decide)
      · exact .inl minuteTens
      · exact .inl minuteOnes
  | fixedInterval nonempty digital named =>
      rw [String.toList_ofList, List.mem_append, List.mem_singleton] at member
      rcases member with listed | rfl
      · exact .inl (digital char listed)
      · have units : ['s', 'm', 'h', 'd', 'w', 'M', 'y'] ⊆ marks := by decide
        exact .inr (units named)
  | text text => simp at literal
  | order parsed => simp at literal

/-- A digit of another script is neither an ASCII digit nor a mark. -/
theorem Admits.not_hasForeignDigit (admitted : Admits Char.isDigit format value) :
    ¬HasForeignDigit format value := by
  rintro ⟨literal, text, rfl, char, member, decimal, foreign⟩
  rcases admitted.digit_or_mark literal member with digit | mark
  · rw [digit] at foreign
    cases foreign
  · rw [isDecimalDigit_of_mem_marks mark] at decimal
    cases decimal

theorem not_hasForeignDigit_of_ascii {text : String}
    (ascii : ∀ char ∈ text.toList, char.toNat < 128) :
    ¬HasForeignDigit format (.string text) := by
  rintro ⟨_, other, same, char, member, decimal, foreign⟩
  cases same
  rw [Text.isDecimalDigit_eq_isDigit (ascii char member), foreign] at decimal
  cases decimal

/-- The forms over ASCII digits take what passes and has no other digit in it. -/
theorem admits_isDigit_iff :
    Admits Char.isDigit format value ↔
      Admits Text.isDecimalDigit format value ∧
        ¬HasForeignDigit format value := by
  constructor
  · intro admitted
    exact ⟨admitted.mono fun _ => Text.isDecimalDigit_of_isDigit,
      admitted.not_hasForeignDigit⟩
  · rintro ⟨admitted, native⟩
    -- A digit that passes in a literal is an ASCII digit, or it would be foreign.
    have narrow : ∀ {text : String}, value = .string text →
        (format = .timeZone ∨ format = .fixedInterval) →
        ∀ char ∈ text.toList, Text.isDecimalDigit char = true →
          char.isDigit = true := by
      intro text same literal char member decimal
      by_contra other
      exact native ⟨literal, text, same, char, member, decimal,
        Bool.eq_false_iff.mpr other⟩
    cases admitted with
    | timeZone signed digital =>
        refine .timeZone signed fun char member => ?_
        apply narrow rfl (.inl rfl) char _ (digital char member)
        rw [String.toList_ofList]
        grind
    | fixedInterval nonempty digital named =>
        refine .fixedInterval nonempty (fun char member => ?_) named
        apply narrow rfl (.inr rfl) char _ (digital char member)
        rw [String.toList_ofList]
        exact List.mem_append_left _ member
    | count low high => exact .count low high
    | number number => exact .number number
    | text text => exact .text text
    | order parsed => exact .order parsed

end OptionFormat

/-! ## Options -/

/-- Every well-known option that is there is admitted by a form. -/
def WellFormed (form : OptionFormat → Json → Prop)
    (options : Keyed String Json) : Prop :=
  ∀ checked ∈ OptionFormat.checked, ∀ value,
    Keyed.get? checked.1 options = some value → form checked.2 value

/--
The option that is reported is there without being admitted by its form, and it
is the first such option in the order of the list.
-/
def FirstMisfit (form : OptionFormat → Json → Prop)
    (options : Keyed String Json) (failure : FormatError) : Prop :=
  ∃ earlier later value,
    OptionFormat.checked =
        earlier ++ (failure.option, failure.format) :: later ∧
      (∀ checked ∈ earlier, ∀ value,
        Keyed.get? checked.1 options = some value → form checked.2 value) ∧
      Keyed.get? failure.option options = some value ∧
      ¬form failure.format value ∧ failure.value = value.display

/-- No well-known option has a digit of another script where digits are meant. -/
def WithoutForeignDigits (options : Keyed String Json) : Prop :=
  WellFormed (fun format value => ¬format.HasForeignDigit value) options

variable {options : Keyed String Json}

theorem withoutForeignDigits_of_ascii
    (ascii : ∀ entry ∈ options, ∀ text, entry.2 = .string text →
      ∀ char ∈ text.toList, char.toNat < 128) :
    WithoutForeignDigits options := by
  rintro checked _ value found foreign
  have there := Keyed.mem_of_get? found
  rcases foreign with ⟨literal, text, rfl, digit⟩
  exact OptionFormat.not_hasForeignDigit_of_ascii (ascii _ there text rfl)
    ⟨literal, text, rfl, digit⟩

theorem checkFormat_eq_ok_iff_admits {checked : String × OptionFormat} :
    checkFormat options checked = .ok () ↔
      ∀ value, Keyed.get? checked.1 options = some value →
        checked.2.Admits Text.isDecimalDigit value := by
  simp only [checkFormat_eq_ok_iff, OptionFormat.accepts_iff_admits]

theorem checkFormat_eq_error_iff {checked : String × OptionFormat}
    {failure : FormatError} :
    checkFormat options checked = .error failure ↔
      checked = (failure.option, failure.format) ∧
        ∃ value, Keyed.get? failure.option options = some value ∧
          ¬failure.format.Admits Text.isDecimalDigit value ∧
          failure.value = value.display := by
  rcases checked with ⟨option, format⟩
  rcases failure with ⟨reported, display, expected⟩
  simp only [← OptionFormat.accepts_iff_admits, Prod.mk.injEq, checkFormat]
  constructor
  · intro failed
    split at failed
    · cases failed
    · rename_i value found
      split at failed
      · cases failed
      · rename_i misfit
        cases failed
        exact ⟨⟨rfl, rfl⟩, value, found, misfit, rfl⟩
  · rintro ⟨⟨rfl, rfl⟩, value, found, misfit, rfl⟩
    simp [found, misfit]

/-- Forms that agree on all that is written have the same first misfit. -/
theorem FirstMisfit.congr {form other : OptionFormat → Json → Prop}
    {failure : FormatError}
    (same : ∀ checked ∈ OptionFormat.checked, ∀ value,
      Keyed.get? checked.1 options = some value →
        (form checked.2 value ↔ other checked.2 value)) :
    FirstMisfit form options failure ↔ FirstMisfit other options failure := by
  unfold FirstMisfit
  refine exists₃_congr fun earlier later value =>
    and_congr_right fun split => ?_
  have listed : (failure.option, failure.format) ∈ OptionFormat.checked := by
    rw [split]
    exact List.mem_append_right _ List.mem_cons_self
  have before : ∀ checked ∈ earlier, checked ∈ OptionFormat.checked := by
    intro checked member
    rw [split]
    exact List.mem_append_left _ member
  refine and_congr ?_ (and_congr_right fun found => ?_)
  · exact forall₄_congr fun checked member value found =>
      same checked (before checked member) value found
  · exact and_congr_left' (not_congr (same _ listed value found))

theorem checkFormats_eq_ok_iff_wellFormed :
    checkFormats options = .ok () ↔
      WellFormed (OptionFormat.Admits Text.isDecimalDigit) options := by
  simp only [checkFormats_eq_ok_iff, OptionFormat.accepts_iff_admits]
  rfl

theorem checkFormats_eq_error_iff_firstMisfit {failure : FormatError} :
    checkFormats options = .error failure ↔
      FirstMisfit (OptionFormat.Admits Text.isDecimalDigit) options failure := by
  rw [checkFormats, Outcome.forM_eq_error_iff]
  constructor
  · rintro ⟨earlier, checked, later, split, pass, failed⟩
    rcases checkFormat_eq_error_iff.mp failed with
      ⟨rfl, value, found, misfit, shown⟩
    exact ⟨earlier, later, value, split,
      fun other member => checkFormat_eq_ok_iff_admits.mp (pass other member),
      found, misfit, shown⟩
  · rintro ⟨earlier, later, value, split, fit, found, misfit, shown⟩
    exact ⟨earlier, _, later, split,
      fun other member => checkFormat_eq_ok_iff_admits.mpr (fit other member),
      checkFormat_eq_error_iff.mpr ⟨rfl, value, found, misfit, shown⟩⟩

theorem wellFormed_isDigit_iff :
    WellFormed (OptionFormat.Admits Char.isDigit) options ↔
      WellFormed (OptionFormat.Admits Text.isDecimalDigit) options ∧
        WithoutForeignDigits options := by
  constructor
  · intro formed
    have parts := fun checked member value found =>
      OptionFormat.admits_isDigit_iff.mp (formed checked member value found)
    exact ⟨fun checked member value found => (parts checked member value found).1,
      fun checked member value found => (parts checked member value found).2⟩
  · rintro ⟨formed, without⟩ checked member value found
    exact OptionFormat.admits_isDigit_iff.mpr
      ⟨formed checked member value found, without checked member value found⟩

theorem firstMisfit_isDigit_iff {failure : FormatError}
    (without : WithoutForeignDigits options) :
    FirstMisfit (OptionFormat.Admits Char.isDigit) options failure ↔
      FirstMisfit (OptionFormat.Admits Text.isDecimalDigit) options failure := by
  refine FirstMisfit.congr fun checked member value found => ?_
  rw [OptionFormat.admits_isDigit_iff]
  exact and_iff_left (without checked member value found)

/-- Nothing but the well-known options is looked at, in an order of its own. -/
theorem checkFormats_congr {others : Keyed String Json}
    (same : ∀ checked ∈ OptionFormat.checked,
      Keyed.get? checked.1 others = Keyed.get? checked.1 options) :
    checkFormats others = checkFormats options := by
  refine Outcome.forM_congr fun checked member => ?_
  unfold checkFormat
  rw [same checked member]

/--
The checks pass exactly when every well-known option that is there has its form,
and report the first one in the order of the list that has not.  Digits of all
scripts pass for digits; options without foreign ones are checked by the forms
over ASCII digits.  Only what stands under the well-known options matters.
-/
theorem checkFormats_outcome (options : Keyed String Json) :
    (checkFormats options = .ok () ↔
      WellFormed (OptionFormat.Admits Text.isDecimalDigit) options) ∧
    (∀ failure, checkFormats options = .error failure ↔
      FirstMisfit (OptionFormat.Admits Text.isDecimalDigit) options failure) ∧
    (WellFormed (OptionFormat.Admits Char.isDigit) options ↔
      checkFormats options = .ok () ∧ WithoutForeignDigits options) ∧
    (WithoutForeignDigits options → ∀ failure,
      checkFormats options = .error failure ↔
        FirstMisfit (OptionFormat.Admits Char.isDigit) options failure) ∧
    ∀ others : Keyed String Json,
      (∀ checked ∈ OptionFormat.checked,
        Keyed.get? checked.1 others = Keyed.get? checked.1 options) →
      checkFormats others = checkFormats options := by
  refine ⟨checkFormats_eq_ok_iff_wellFormed,
    fun failure => checkFormats_eq_error_iff_firstMisfit, ?_, ?_, ?_⟩
  · rw [checkFormats_eq_ok_iff_wellFormed]
    exact wellFormed_isDigit_iff
  · intro without failure
    rw [checkFormats_eq_error_iff_firstMisfit]
    exact (firstMisfit_isDigit_iff without).symm
  · exact fun others same => checkFormats_congr same

/-- Of two options that are badly formed the one that is checked first is named. -/
theorem checkFormats_outcome_unordered :
    let options : Keyed String Json :=
      [("terms_size", .null), ("label", .null), ("size", .ofInt64 (-3)),
        ("fixed_interval", .string "12h"), ("timeZone", .string "+05:30")]
    WithoutForeignDigits options ∧
      checkFormats options = .error ⟨"size", "-3", .count⟩ ∧
      FirstMisfit (OptionFormat.Admits Char.isDigit) options
        ⟨"size", "-3", .count⟩ := by
  intro options
  have without : WithoutForeignDigits options :=
    withoutForeignDigits_of_ascii (by simp [options, Json.ofInt64])
  have reported : checkFormats options = .error ⟨"size", "-3", .count⟩ := rfl
  exact ⟨without, reported,
    ((checkFormats_outcome options).2.2.2.1 without _).mp reported⟩

/-- An offset in the digits of another script passes, and is no ASCII offset. -/
theorem checkFormats_otherScript :
    let offset := Json.string "+\u0660\u0665:\u0663\u0660"
    checkFormats [("timeZone", offset)] = .ok () ∧
      ¬WellFormed (OptionFormat.Admits Char.isDigit) [("timeZone", offset)] := by
  intro offset
  refine ⟨rfl, fun formed => ?_⟩
  have admitted := formed ("timeZone", .timeZone) (by decide) offset rfl
  exact admitted.not_hasForeignDigit
    ⟨.inl rfl, _, rfl, '\u0660', by decide, rfl, by decide⟩

end ChartQuery
