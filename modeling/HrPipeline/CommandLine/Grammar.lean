import HrPipeline.CommandLine.Value

/-!
# Command lines

A program takes flags with one value each, and perhaps a command at the end. The arguments are read
from left to right, and the first problem is the one that is reported; a flag that still waits for
its value is dealt with when the next flag or the end is reached. A flag beats the environment.
What is missing is noticed last.
-/

namespace HrPipeline.CommandLine

/-- A flag of a program. -/
structure Flag where
  /-- The name without the hyphens in front. -/
  name : String
  /-- The variable of the environment that stands in for the flag. -/
  variableName : String
  kind : ValueKind
  required : Bool
deriving DecidableEq

/-- What a program takes on its command line. -/
structure Program where
  flags : List Flag
  /-- The commands, one of which must be given unless there are none. -/
  commands : List String
deriving DecidableEq

/-- Why a command line is refused. -/
inductive UsageError where
  | unknownArgument
  /-- A flag lacks its value. -/
  | invalidValue
  /-- A flag is given twice. -/
  | argumentConflict
  /-- A value is not of its flag's kind. -/
  | valueValidation
  /-- A flag without values is given one. -/
  | tooManyValues
  | missingRequiredArgument
  | missingSubcommand
  | invalidSubcommand
  /-- The user asks for help. -/
  | displayHelp
  /-- Nothing at all is given where something must be. -/
  | displayHelpOnMissingArgumentOrSubcommand
deriving DecidableEq

/-- The name of a refusal. -/
def UsageError.name : UsageError → String
  | .unknownArgument => "UnknownArgument"
  | .invalidValue => "InvalidValue"
  | .argumentConflict => "ArgumentConflict"
  | .valueValidation => "ValueValidation"
  | .tooManyValues => "TooManyValues"
  | .missingRequiredArgument => "MissingRequiredArgument"
  | .missingSubcommand => "MissingSubcommand"
  | .invalidSubcommand => "InvalidSubcommand"
  | .displayHelp => "DisplayHelp"
  | .displayHelpOnMissingArgumentOrSubcommand => "DisplayHelpOnMissingArgumentOrSubcommand"

/-- An argument as it looks. -/
inductive Argument where
  /-- Two hyphens alone: everything after them is plain. -/
  | escape
  /-- A name after two hyphens, perhaps with a value after an equals sign. -/
  | long (name : String) (value? : Option String)
  /-- Letters after one hyphen. -/
  | short (letters : List Char)
  | plain (text : String)
deriving DecidableEq

/-- The look of an argument. -/
def Argument.of (s : String) : Argument :=
  match s.toList with
  | ['-', '-'] => .escape
  | '-' :: '-' :: cs =>
    let name := cs.takeWhile (· ≠ '=')
    match cs.drop name.length with
    | [] => .long (String.ofList name) none
    | _ :: value => .long (String.ofList name) (some (String.ofList value))
  | '-' :: c :: cs => .short (c :: cs)
  | _ => .plain s

/-- What was read so far. -/
structure Scan where
  given : List (String × Value)
  /-- The last flag that was given by its name alone, with the value that followed it. -/
  pending : Option (Flag × Option String)
deriving DecidableEq

/-- Gives a flag its value. -/
def assign (flag : Flag) (s : String) (given : List (String × Value)) :
    Except UsageError (List (String × Value)) :=
  if (given.lookup flag.name).isSome then .error .argumentConflict
  else
    match flag.kind.read? s with
    | some value => .ok ((flag.name, value) :: given)
    | none => .error .valueValidation

/-- Deals with the pending flag; gives all values. -/
def Scan.settle (scan : Scan) : Except UsageError (List (String × Value)) :=
  match scan.pending with
  | none => .ok scan.given
  | some (_, none) => .error .invalidValue
  | some (flag, some s) => assign flag s scan.given

/-- Answers a request for help, once the pending flag is dealt with. -/
def Scan.help {α : Type} (scan : Scan) : Except UsageError α := do
  let _ ← scan.settle
  .error .displayHelp

/-- What a command line gives: values of flags, and the command. -/
structure Matched where
  values : List (String × Value)
  command? : Option String
deriving DecidableEq

/-- Refuses every argument after a command, since commands take none. -/
def checkNone : List String → Except UsageError Unit
  | [] => .ok ()
  | s :: rest =>
    match Argument.of s with
    | .escape => if rest.isEmpty then .ok () else .error .unknownArgument
    | .long "help" none | .short ('h' :: _) => .error .displayHelp
    | .long "help" (some _) => .error .tooManyValues
    | .long _ _ | .short _ | .plain _ => .error .unknownArgument

namespace Program

/-- Whether a name is that of a command, the one for help included. -/
def hasCommand (program : Program) (name : String) : Bool :=
  !program.commands.isEmpty && (name = "help" || program.commands.contains name)

/-- Refuses an argument that has no place. -/
def refuseStray (program : Program) : UsageError :=
  if program.commands.isEmpty then .unknownArgument else .invalidSubcommand

/-- Answers the command for help, which may name one command. -/
def helpFor (program : Program) : List String → UsageError
  | [] => .displayHelp
  | [name] => if program.hasCommand name then .displayHelp else .invalidSubcommand
  | _ => .invalidSubcommand

/-- Reads a plain argument that is no value, and what follows it. -/
def readCommand (program : Program) (name : String) (rest : List String) (scan : Scan) :
    Except UsageError Matched :=
  if ¬ program.hasCommand name then .error program.refuseStray
  else if name = "help" then .error (program.helpFor rest)
  else do
    checkNone rest
    let values ← scan.settle
    .ok ⟨values, some name⟩

/-- Reads what follows two hyphens. -/
def readEscaped (program : Program) (rest : List String) (scan : Scan) :
    Except UsageError Matched :=
  match rest with
  | [] => scan.settle.map fun values => ⟨values, none⟩
  | name :: _ =>
    .error (if program.hasCommand name then .unknownArgument else program.refuseStray)

/-- The flag with a name. -/
def flag? (program : Program) (name : String) : Option Flag :=
  program.flags.find? (·.name = name)

/-- Reads the arguments from left to right. -/
def scan (program : Program) : List String → Scan → Except UsageError Matched
  | [], state => state.settle.map fun values => ⟨values, none⟩
  | s :: rest, state =>
    match Argument.of s with
    | .escape => program.readEscaped rest state
    | .long "help" none | .short ('h' :: _) => state.help
    | .long "help" (some _) => .error .tooManyValues
    | .short _ => .error .unknownArgument
    | .long name value? =>
      match program.flag? name with
      | none => .error .unknownArgument
      | some flag => do
        let values ← state.settle
        match value? with
        | none => scan program rest ⟨values, some (flag, none)⟩
        | some value =>
          let values ← assign flag value values
          scan program rest ⟨values, none⟩
    | .plain value =>
      match state.pending with
      | some (flag, none) => scan program rest { state with pending := some (flag, some value) }
      | _ => program.readCommand value rest state

/-- The values that the environment gives. -/
def fromEnvironment (environment : List (String × String)) :
    List Flag → Except UsageError (List (String × Value))
  | [] => .ok []
  | flag :: flags => do
    let values ← fromEnvironment environment flags
    match environment.lookup flag.variableName with
    | none => .ok values
    | some s =>
      match flag.kind.read? s with
      | some value => .ok ((flag.name, value) :: values)
      | none => .error .valueValidation

/-- Refuses a command line that lacks something. -/
def checkComplete (program : Program) (matched : Matched) : Except UsageError Unit :=
  if matched.command?.isNone && !program.commands.isEmpty then
    .error (if matched.values.isEmpty then .displayHelpOnMissingArgumentOrSubcommand
      else .missingSubcommand)
  else if program.flags.any fun flag =>
      flag.required && (matched.values.lookup flag.name).isNone then
    .error .missingRequiredArgument
  else .ok ()

/-- What the arguments and the environment give together. -/
def parse (program : Program) (environment : List (String × String)) (arguments : List String) :
    Except UsageError Matched := do
  let scanned ← program.scan arguments ⟨[], none⟩
  let fallbacks ← fromEnvironment environment program.flags
  let matched : Matched := ⟨scanned.values ++ fallbacks, scanned.command?⟩
  program.checkComplete matched
  .ok matched

end Program

namespace Matched

/-- The text of a flag. -/
def text? (matched : Matched) (name : String) : Option String :=
  match matched.values.lookup name with
  | some (.text value) => some value
  | _ => none

/-- The number of a flag. -/
def number? (matched : Matched) (name : String) : Option Int :=
  match matched.values.lookup name with
  | some (.number value) => some value
  | _ => none

/-- The natural number of a flag. -/
def natural? (matched : Matched) (name : String) : Option Nat :=
  (matched.number? name).map Int.toNat

end Matched
end HrPipeline.CommandLine
