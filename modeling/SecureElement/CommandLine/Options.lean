import SecureElement.CommandLine.Value
/-!
# Options

A command line has two levels, one before the name of a command and one after it, and each has options of its
own. This module reads the arguments of one level from left to right.

The value of an option may be attached to it or be the next argument, unless that looks like an option. A value
that stands apart is examined only when the next option or the end of the level is reached, so a mistake in
between is reported first.

Two dashes end the options of a level. No command can be named after them, and there is nothing else to name.
-/

namespace SecureElement.CommandLine

/-- Why arguments do not lead to a command. Being asked for help is one reason. -/
inductive UsageError where
  | help
  /-- There were no arguments at all. -/
  | helpOnMissing
  | version
  | invalidSubcommand
  | missingSubcommand
  | unknownArgument
  | missingRequired
  /-- An option has no value where it needs one. -/
  | invalidValue
  /-- A flag was given a value. -/
  | tooManyValues
  /-- An option was given twice, or with one that excludes it. -/
  | conflict
  | badValue (error : ValueError)
  deriving DecidableEq, Repr

inductive ValueKind where
  | text
  /-- A path is a text that is not empty. -/
  | path
  | address
  | byte
  | slot
  | count
  deriving DecidableEq, Repr

inductive OptionKind where
  | flag
  | value (kind : ValueKind)
  | help
  | version
  deriving DecidableEq, Repr

structure OptionSpec where
  long : String
  short : Option Char := none
  kind : OptionKind
  deriving DecidableEq, Repr

inductive OptionValue where
  | set
  | text (text : String)
  | number (value : Nat)
  deriving DecidableEq, Repr

def ValueKind.read (kind : ValueKind) (text : String) : Except UsageError OptionValue :=
  let number {α : Type} (toNat : α → Nat) (value : Except ValueError α) :=
    (value.map fun value => OptionValue.number (toNat value)).mapError UsageError.badValue
  match kind with
  | .text => .ok (.text text)
  | .path => if text = "" then .error .invalidValue else .ok (.text text)
  | .address => number UInt16.toNat (parseAddress text)
  | .byte => number UInt8.toNat (parseByte text)
  | .slot => number UInt8.toNat (parseSlot text)
  | .count => number id (parseCount text)

/-- The options that were given, by their long names. -/
abbrev Given := List (String × OptionValue)

namespace Given

def get? (given : Given) (name : String) : Option OptionValue :=
  (List.find? (·.1 == name) given).map (·.2)

def has (given : Given) (name : String) : Bool :=
  (given.get? name).isSome

def text? (given : Given) (name : String) : Option String :=
  match given.get? name with
  | some (.text text) => some text
  | _ => none

def number? (given : Given) (name : String) : Option Nat :=
  match given.get? name with
  | some (.number value) => some value
  | _ => none

def byte? (given : Given) (name : String) : Option UInt8 :=
  (given.number? name).map UInt8.ofNat

end Given

def required {α : Type} : Option α → Except UsageError α
  | some value => .ok value
  | none => .error .missingRequired

/-- An option whose value stands apart or is still to come. -/
structure Pending where
  name : String
  kind : ValueKind
  text : Option String := none
  deriving DecidableEq, Repr

/-- What has been read of a level. -/
structure Scan where
  given : Given := []
  pending : Option Pending := none
  deriving DecidableEq, Repr

namespace Scan

/-- Takes an option in that was not given before. -/
def record (scan : Scan) (name : String) (value : Except UsageError OptionValue) :
    Except UsageError Scan := do
  if scan.given.has name then throw .conflict
  return { scan with given := scan.given ++ [(name, ← value)] }

def settle (scan : Scan) : Except UsageError Scan :=
  match scan.pending with
  | none => .ok scan
  | some { text := none, .. } => .error .invalidValue
  | some { name, kind, text := some text } =>
    { scan with pending := none }.record name (kind.read text)

def takeFlag (scan : Scan) (option : OptionSpec) : Except UsageError Scan := do
  let scan ← scan.settle
  match option.kind with
  | .help => throw .help
  | .version => throw .version
  | _ => scan.record option.long (.ok .set)

def takeValue (scan : Scan) (name : String) (kind : ValueKind) (attached : Option String) :
    Except UsageError Scan := do
  let scan ← scan.settle
  match attached with
  | some text => scan.record name (kind.read text)
  | none => return { scan with pending := some { name, kind } }

def awaitsValue (scan : Scan) : Bool :=
  scan.pending.any (·.text.isNone)

/-- Reads an option by its long name, with which a value may come after an equals sign. -/
def readLong (scan : Scan) (options : List OptionSpec) (text : List Char) : Except UsageError Scan :=
  let name := String.ofList (text.takeWhile (· ≠ '='))
  let attached :=
    match text.dropWhile (· ≠ '=') with
    | [] => none
    | _ :: value => some (String.ofList value)
  match options.find? (·.long == name) with
  | none => .error .unknownArgument
  | some { kind := .value kind, .. } => scan.takeValue name kind attached
  | some option => if attached.isSome then .error .tooManyValues else scan.takeFlag option

/-- Reads options by their letters; what follows the letter of an option with a value is its value. -/
def readLetters (scan : Scan) (options : List OptionSpec) : List Char → Except UsageError Scan
  | [] => .ok scan
  | c :: rest => do
    match options.find? (·.short == some c) with
    | none => throw .unknownArgument
    | some { long := name, kind := .value kind, .. } =>
      let attached :=
        match rest with
        | [] => none
        | '=' :: value => some (String.ofList value)
        | value => some (String.ofList value)
      scan.takeValue name kind attached
    | some option => (← scan.takeFlag option).readLetters options rest

/-- A word that is neither an option nor a value can only be meant as a command, where there are commands. -/
def strayWord (commands : List String) : UsageError :=
  if commands.isEmpty then .unknownArgument else .invalidSubcommand

/-- Reads a level up to the name of a command, if there is one, and gives what follows the name. -/
def read (options : List OptionSpec) (commands : List String) (scan : Scan) :
    List String → Except UsageError (Scan × Option (String × List String))
  | [] => .ok (scan, none)
  | argument :: rest => do
    if !scan.awaitsValue && commands.contains argument then return (scan, some (argument, rest))
    match argument.toList with
    | ['-', '-'] =>
      match rest with
      | [] => return (scan, none)
      | next :: _ => throw (if commands.contains next then .unknownArgument else strayWord commands)
    | '-' :: '-' :: text => read options commands (← scan.readLong options text) rest
    | '-' :: c :: letters => read options commands (← scan.readLetters options (c :: letters)) rest
    | _ =>
      match scan.pending with
      | some { name, kind, text := none } =>
        read options commands { scan with pending := some { name, kind, text := some argument } } rest
      | _ => throw (strayWord commands)

end Scan

end SecureElement.CommandLine
