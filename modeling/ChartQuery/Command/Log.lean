import ChartQuery.Json.Printer
import ChartQuery.Text.Digit

/-!
# Log lines

A run can write down what it does.  The configured level is a list of rules with
commas between them: a level alone holds for everything, a level behind an
equals sign holds for what comes from sources that start with the name in front
of it, and a name alone lets everything from there through.  The longest name
that fits decides, and of equal rules the last one.  A rule that cannot be
understood is left out.
-/

namespace ChartQuery.Command

/-- The names of the levels; each lets those before it through, the first nothing. -/
def levelNames : List String := ["off", "error", "warn", "info", "debug", "trace"]

/-- Something that can be logged. -/
inductive LogEvent where
  | catalogLoaded
  | catalogReady
deriving DecidableEq

/-- The place of an event's level among the levels. -/
def LogEvent.level : LogEvent → Nat
  | .catalogLoaded => 3
  | .catalogReady => 4

/-- Where an event comes from. -/
def LogEvent.source : LogEvent → String
  | .catalogLoaded => "dashagg::catalog::loader"
  | .catalogReady => "dashagg"

/-- What an event says. -/
def LogEvent.message : LogEvent → String
  | .catalogLoaded => "Loaded catalog"
  | .catalogReady => "Catalog ready"

/-! ## Rules -/

/-- A rule: the level that holds for sources with a common start. -/
structure LogRule where
  start : List Char
  level : Nat
deriving DecidableEq

/-- The number of a level that is written as a digit. -/
def levelNumber? (text : List Char) : Option Nat :=
  let digits := match text with
    | '+' :: digits => digits
    | digits => digits
  (Text.natural? digits).filter (· < levelNames.length)

/-- The level of a digit or a name in either case. -/
def level? (text : List Char) : Option Nat :=
  (levelNumber? text).or (levelNames.idxOf? (String.ofList text).toLower)

/-- The level that lets everything through. -/
def highestLevel : Nat := levelNames.length - 1

/-- Read a rule. -/
def LogRule.ofChars? (text : List Char) : Option LogRule :=
  let start := text.takeWhile (· ≠ '=')
  match text.drop start.length with
  | [] => some (match level? text with
      | some level => ⟨[], level⟩
      | none => ⟨text, highestLevel⟩)
  | [_] => if start.isEmpty then none else some ⟨start, highestLevel⟩
  | _ :: level =>
      if start.isEmpty then none else (level? level).map (fun level => ⟨start, level⟩)

/-- The rules of a configured level. -/
def LogRule.all (text : String) : List LogRule :=
  (text.toList.splitOn ',').filterMap (fun part =>
    if part.isEmpty ∨ '[' ∈ part then none else LogRule.ofChars? part)

/-- Whether a rule holds for an event. -/
def LogRule.holds (rule : LogRule) (event : LogEvent) : Bool :=
  rule.start.isPrefixOf event.source.toList

/-- The level that holds for an event; without a rule nothing is let through. -/
def levelFor (event : LogEvent) (rules : List LogRule) : Nat :=
  ((rules.filter (·.holds event)).foldl
    (fun best rule => if best.start.length ≤ rule.start.length then rule else best)
    ⟨[], 0⟩).level

/-- Whether an event is logged at a configured level. -/
def LogEvent.isLogged (event : LogEvent) (level : String) : Bool :=
  event.level ≤ levelFor event (LogRule.all level)

/-! ## Lines -/

/-- The level of an event in a log line. -/
def LogEvent.levelName (event : LogEvent) : String :=
  ((levelNames[event.level]?).getD "").toUpper

/-- The log line of an event in a format: JSON if it is called so, else plain text. -/
def LogEvent.line (format : String) (event : LogEvent) : String :=
  (if format = "json" then
    (Json.object
      [("level", .string event.levelName),
       ("fields", .object [("message", .string event.message)]),
       ("target", .string event.source)]).compact
  else event.levelName ++ " " ++ event.source ++ ": " ++ event.message) ++ "\n"

end ChartQuery.Command
