import ChartQuery.Chart.Order

/-!
# Formats of well-known options

Eight options have a fixed form, whatever function carries them: an offset from
UTC, a calendar interval, counts, a number, a string and a sort order.  They
are checked in a fixed order, whatever the order of the options, and the first
one that is badly formed is reported.  A `null` option is present here.

A digit of an offset or an interval is a decimal digit of any script.
-/

namespace ChartQuery

/-- The form that an option has to have. -/
inductive OptionFormat where
  | timeZone
  | fixedInterval
  | count
  | number
  | text
  | order
deriving DecidableEq

/-- An option whose value is badly formed, with the value's text. -/
structure FormatError where
  option : String
  value : String
  format : OptionFormat
deriving DecidableEq

namespace OptionFormat

/-- What an option of this form should have been. -/
def expectation : OptionFormat → String
  | .timeZone => "Expected a signed HH:mm offset such as +05:30."
  | .fixedInterval => "Expected a number followed by one of s, m, h, d, w, M, y."
  | .number => "Must be a number."
  | .count => "Must be a non-negative integer."
  | .text => "Must be a string."
  | .order =>
      "Expected \x7b\"field\": \"_count\" | \"value_axis.<index>\", " ++
        "\"direction\": \"asc\" | \"desc\"\x7d."

/-- A sign, two digits, a colon and two digits. -/
def isTimeZone : List Char → Bool
  | [sign, hourTens, hourOnes, colon, minuteTens, minuteOnes] =>
      (sign = '+' || sign = '-') &&
        Text.isDecimalDigit hourTens && Text.isDecimalDigit hourOnes &&
        colon = ':' &&
        Text.isDecimalDigit minuteTens && Text.isDecimalDigit minuteOnes
  | _ => false

/-- The units of an interval. -/
def units : List Char := ['s', 'm', 'h', 'd', 'w', 'M', 'y']

/-- One or more digits and a unit. -/
def isFixedInterval (chars : List Char) : Bool :=
  match chars.reverse with
  | unit :: digits =>
      unit ∈ units && !digits.isEmpty && digits.all Text.isDecimalDigit
  | [] => false

/-- Whether a value has the form. -/
def accepts : OptionFormat → Json → Bool
  | .timeZone, .string written => isTimeZone written.toList
  | .fixedInterval, .string written => isFixedInterval written.toList
  | .count, value => value.asUInt64?.isSome
  | .number, value => value.isNumber
  | .text, value => value.isString
  | .order, value => (Order.parse value).toBool
  | _, _ => false

/-- The options that have a form, in the order in which they are checked. -/
def checked : List (String × OptionFormat) :=
  [("timeZone", .timeZone), ("fixed_interval", .fixedInterval),
   ("size", .count), ("interval", .number), ("min_doc_count", .count),
   ("terms_size", .count), ("missing", .text), ("order", .order)]

end OptionFormat

/-- The text of a value in messages: a string as it is, else its JSON text. -/
def Json.display : Json → String
  | .string text => text
  | value => value.compact

/-- Check one well-known option, if it is there. -/
def checkFormat (options : Keyed String Json)
    (checked : String × OptionFormat) : Except FormatError Unit :=
  match Keyed.get? checked.1 options with
  | none => .ok ()
  | some value =>
      if checked.2.accepts value then .ok ()
      else .error ⟨checked.1, value.display, checked.2⟩

/-- Check every well-known option that is there. -/
def checkFormats (options : Keyed String Json) : Except FormatError Unit :=
  OptionFormat.checked.forM (checkFormat options)

end ChartQuery
