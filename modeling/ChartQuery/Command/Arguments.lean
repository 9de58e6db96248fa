import ChartQuery.Aggregation.Basic
import ChartQuery.Text.Digit

/-!
# Command line arguments

A call names a command, its files and its options.  An option takes one value,
behind it or after `=`, and is given once at most on each side of the command's
name; the two common options may stand on both sides, where the one behind the
name counts.  A value that follows its option does not start with a dash, and
behind `--` nothing is an option.  Arguments are checked in order, so what is
wrong in front of a request for help counts and what is wrong behind it does
not.
-/

namespace ChartQuery.Command

/-- A part of the catalog that can be listed. -/
inductive Listing where
  | functions
  | moduleTypes
  | dataViews
deriving DecidableEq

/-- All parts of the catalog in the order in which they are listed. -/
def Listing.all : List Listing := [.functions, .moduleTypes, .dataViews]

/-- The word for a part of the catalog. -/
def Listing.name : Listing → String
  | .functions => "functions"
  | .moduleTypes => "module-types"
  | .dataViews => "data-views"

/-- The files of a decoding. -/
structure DecodeFiles where
  result : String
  mapping : String
  titles : Option String
  values : Option String
deriving DecidableEq

/-- What is to be done. -/
inductive Task where
  | validate (chart : String)
  | compile (chart : String) (bounds : Option Bounds) (query : Option String)
  | decode (files : DecodeFiles)
  | catalog (listings : List Listing)
deriving DecidableEq

/-- A call: the files of its configuration and catalog, and the task. -/
structure Call where
  config : Option String
  catalog : Option String
  task : Task
deriving DecidableEq

/-- Why nothing is to be done. -/
inductive Stop where
  | usage
  | help
  | version
deriving DecidableEq

/-! ## Options -/

/-- What the value of an option is. -/
inductive ValueKind where
  | path
  | integer
deriving DecidableEq

/-- Whether a text is a value of a kind; a path is not empty. -/
def ValueKind.admits (kind : ValueKind) (text : String) : Bool :=
  match kind with
  | .path => !text.isEmpty
  | .integer => (Text.int64? text).isSome

/-- An option by its long name and, if it has one, its letter. -/
structure OptionName where
  long : String
  short : Option Char
  kind : ValueKind := .path
deriving DecidableEq

/-- The options that every command takes. -/
def commonOptions : List OptionName :=
  [{ long := "config", short := some 'c' }, { long := "catalog", short := none }]

/-- A command by its name, and the options of its own. -/
inductive Verb where
  | validate
  | compile
  | decode
  | catalog
deriving DecidableEq

/-- All commands. -/
def Verb.all : List Verb := [.validate, .compile, .decode, .catalog]

/-- The name of a command. -/
def Verb.name : Verb → String
  | .validate => "validate"
  | .compile => "compile"
  | .decode => "decode"
  | .catalog => "catalog"

/-- The options of a command's own. -/
def Verb.options : Verb → List OptionName
  | .validate => []
  | .compile =>
      [{ long := "bounds-min", short := none, kind := .integer },
       { long := "bounds-max", short := none, kind := .integer },
       { long := "query", short := none }]
  | .decode =>
      [{ long := "result", short := some 'r' }, { long := "mapping", short := some 'm' },
       { long := "titles", short := none }, { long := "values", short := none }]
  | .catalog => []

/-- The options and the other arguments of one side of the command's name. -/
structure Given where
  options : List (String × String)
  others : List String
deriving DecidableEq

/-- The value of an option. -/
def Given.option? (given : Given) (long : String) : Option String :=
  (given.options.find? (fun option => option.1 = long)).map Prod.snd

/-- What an argument is. -/
inductive Argument where
  /-- `--`: everything behind it is no option. -/
  | separator
  /-- A long option, and its value if it is attached. -/
  | long (name : String) (value : Option String)
  /-- An option letter and what is attached to it. -/
  | short (letter : Char) (attached : List Char)
  | other (text : String)
deriving DecidableEq

/-- Split characters at the first equals sign. -/
def splitEquals : List Char → List Char × Option (List Char)
  | [] => ([], none)
  | '=' :: rest => ([], some rest)
  | char :: rest =>
      let (name, value) := splitEquals rest
      (char :: name, value)

/-- Tell what an argument is; a lone dash is no option. -/
def Argument.ofText (text : String) : Argument :=
  match text.toList with
  | ['-', '-'] => .separator
  | '-' :: '-' :: rest =>
      let (name, value) := splitEquals rest
      .long (String.ofList name) (value.map String.ofList)
  | '-' :: letter :: attached => .short letter attached
  | _ => .other text

/-- The value that is attached to an option letter, an equals sign aside. -/
def attachedValue? : List Char → Option String
  | [] => none
  | '=' :: rest => some (String.ofList rest)
  | chars => some (String.ofList chars)

/-- The option that an argument names, with its value if it is attached. -/
def optionOf (options : List OptionName) :
    Argument → Except Stop (OptionName × Option String)
  | .long name value =>
      match options.find? (fun option => option.long = name) with
      | some option => .ok (option, value)
      | none => .error .usage
  | .short letter attached =>
      match options.find? (fun option => option.short = some letter) with
      | some option => .ok (option, attachedValue? attached)
      | none => .error .usage
  | _ => .error .usage

/-- Add an option that has not been given yet. -/
def Given.add (given : Given) (option : OptionName) (value : String) :
    Except Stop Given :=
  if (given.option? option.long).isSome ∨ !option.kind.admits value then
    .error .usage
  else .ok { given with options := given.options ++ [(option.long, value)] }

/-- Whether a command takes a text as its only other argument. -/
def Verb.admits (verb : Verb) (text : String) : Bool :=
  match verb with
  | .validate => !text.isEmpty
  | .compile => !text.isEmpty
  | .decode => false
  | .catalog => Listing.all.any (fun listing => listing.name = text)

/-- Add an argument that is no option; a command takes one at most. -/
def Given.addOther (given : Given) (verb : Verb) (text : String) :
    Except Stop Given :=
  if given.others.isEmpty ∧ verb.admits text then .ok { given with others := [text] }
  else .error .usage

/-- The text of an argument that is no option. -/
def plainText? (text : String) : Option String :=
  match Argument.ofText text with
  | .other text => some text
  | _ => none

/-- Whether an argument asks for help or, before the command, for the version. -/
def isInformation (beforeCommand : Bool) : Argument → Option Stop
  | .long "help" none => some .help
  | .short 'h' _ => some .help
  | .long "version" none => if beforeCommand then some .version else none
  | .short 'V' _ => if beforeCommand then some .version else none
  | _ => none

/-- The command of a name. -/
def Verb.ofName? (text : String) : Option Verb :=
  all.find? (fun verb => verb.name = text)

/-- The command that gives help on another one. -/
def helpName : String := "help"

/-- What is done about the arguments behind `help`: at most the name of a command. -/
def Stop.ofHelp : List String → Stop
  | [] => .help
  | [name] =>
      if name = helpName ∨ (Verb.ofName? name).isSome then .help else .usage
  | _ => .usage

/-- Read the arguments behind the command's name. -/
def readBehind (verb : Verb) (given : Given) : List String → Except Stop Given
  | [] => .ok given
  | text :: rest =>
      match Argument.ofText text with
      | .separator => rest.foldlM (fun given text => given.addOther verb text) given
      | .other text => do
          let given ← given.addOther verb text
          readBehind verb given rest
      | argument =>
          match isInformation false argument with
          | some stop => .error stop
          | none => do
              let (option, attached) ← optionOf (commonOptions ++ verb.options) argument
              match attached, rest with
              | some value, rest =>
                  let given ← given.add option value
                  readBehind verb given rest
              | none, [] => .error .usage
              | none, next :: rest =>
                  match plainText? next with
                  | none => .error .usage
                  | some value =>
                      let given ← given.add option value
                      readBehind verb given rest

/-- The arguments in front of the command's name, as far as they are read. -/
structure Front where
  given : Given
  /-- The last option, if its value was not attached: it is checked with what follows. -/
  pending : Option (OptionName × String)

/-- Check the last option. -/
def Front.check (front : Front) : Except Stop Given :=
  match front.pending with
  | none => .ok front.given
  | some (option, value) => front.given.add option value

/--
Read the arguments up to the command's name; the rest stands behind it.  Help on
a command leaves the last option unchecked.
-/
def readBefore (front : Front) :
    List String → Except Stop (Given × Verb × List String)
  | [] => .error .usage
  | text :: rest =>
      match Argument.ofText text with
      | .separator => .error .usage
      | .other name =>
          match Verb.ofName? name with
          | some verb => do return (← front.check, verb, rest)
          | none => .error (if name = helpName then .ofHelp rest else .usage)
      | argument => do
          let given ← front.check
          match isInformation true argument with
          | some stop => .error stop
          | none =>
              let (option, attached) ← optionOf commonOptions argument
              match attached, rest with
              | some value, rest =>
                  let given ← given.add option value
                  readBefore ⟨given, none⟩ rest
              | none, [] => .error .usage
              | none, next :: rest =>
                  match plainText? next with
                  | none => .error .usage
                  | some value => readBefore ⟨given, some (option, value)⟩ rest

/-! ## Tasks -/

/-- The only other argument. -/
def theFile : List String → Except Stop String
  | [path] => .ok path
  | _ => .error .usage

/-- A bound, if it is given. -/
def boundOf (given : Given) (name : String) : Except Stop (Option Int64) :=
  match given.option? name with
  | none => .ok none
  | some text =>
      match Text.int64? text with
      | some value => .ok (some (Int64.ofInt value))
      | none => .error .usage

/-- Both bounds or none. -/
def boundsOf (given : Given) : Except Stop (Option Bounds) := do
  let min ← boundOf given "bounds-min"
  let max ← boundOf given "bounds-max"
  match min, max with
  | none, none => return none
  | some min, some max => return some ⟨min, max⟩
  | _, _ => .error .usage

/-- The value of an option that has to be given. -/
def requiredOption (given : Given) (name : String) : Except Stop String :=
  match given.option? name with
  | some value => .ok value
  | none => .error .usage

/-- The parts of the catalog that are asked for; all if none is named. -/
def listingsOf : List String → Except Stop (List Listing)
  | [] => .ok Listing.all
  | [name] =>
      match Listing.all.find? (fun listing => listing.name = name) with
      | some listing => .ok [listing]
      | none => .error .usage
  | _ => .error .usage

/-- The task of a command and the arguments behind its name. -/
def taskOf (given : Given) : Verb → Except Stop Task
  | .validate => (theFile given.others).map .validate
  | .compile => do
      let bounds ← boundsOf given
      let chart ← theFile given.others
      return .compile chart bounds (given.option? "query")
  | .decode => do
      let result ← requiredOption given "result"
      let mapping ← requiredOption given "mapping"
      return .decode
        ⟨result, mapping, given.option? "titles", given.option? "values"⟩
  | .catalog => (listingsOf given.others).map .catalog

/-- Read the arguments of a call. -/
def Call.ofArguments (arguments : List String) : Except Stop Call := do
  let (before, verb, rest) ← readBefore ⟨⟨[], []⟩, none⟩ arguments
  let behind ← readBehind verb ⟨[], []⟩ rest
  let task ← taskOf behind verb
  let common (name : String) : Option String :=
    (behind.option? name).or (before.option? name)
  return ⟨common "config", common "catalog", task⟩

end ChartQuery.Command
