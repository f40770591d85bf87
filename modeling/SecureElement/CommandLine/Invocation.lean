import SecureElement.CommandLine.Options
import SecureElement.Mode
/-!
# Invocations

What the arguments of the program ask for. The level after the name of a command is checked before the level
in front of it; output options may stand on either.
-/

namespace SecureElement.CommandLine

/-- Commands that need no device. A file is read in place of the standard input. -/
inductive HostJob where
  | hash (file : Option String)
  | verifyMac (slot mode : UInt8) (challenge response : String) (key : Option String)
  | verifyHmac (slot : UInt8) (challenge response : String) (key : Option String)
  deriving DecidableEq, Repr

/-- Commands for a session. Byte strings are still in hexadecimal digits. -/
inductive DeviceJob where
  | random (updateSeed : Bool) (count : Nat)
  | serialNumber
  | lifecycle
  | configZone
  | otpZone
  | revision
  | slotConfig (slot : UInt8)
  /-- The keys come from a key store, or else from the device. -/
  | provision (source : Option String)
  | mac (slot : UInt8) (mode : MacMode) (file : Option String)
  | checkMac (slot mode : UInt8) (challenge response otherData : String)
  | hmac (slot : UInt8) (file : Option String)
  | nonce (random : Bool) (file : Option String)
  | readKeySlot (slot : UInt8)
  /-- With the current key, the write is encrypted. -/
  | writeKeySlot (slot : UInt8) (key : String) (currentKey : Option String)
  deriving DecidableEq, Repr

inductive Job where
  | host (job : HostJob)
  | device (job : DeviceJob)
  deriving DecidableEq, Repr

structure Settings where
  bus : Option String := none
  address : Option UInt16 := none
  config : Option String := none
  quiet : Bool := false
  output : Option String := none
  deriving DecidableEq, Repr

structure Invocation where
  settings : Settings
  job : Job
  deriving DecidableEq, Repr

namespace OptionSpec

def help : OptionSpec := ⟨"help", some 'h', .help⟩

def file : OptionSpec := ⟨"file", some 'f', .value .path⟩

def keySlot : OptionSpec := ⟨"key-slot", some 'k', .value .slot⟩

def flag (long : String) : OptionSpec := ⟨long, none, .flag⟩

def text (long : String) : OptionSpec := ⟨long, none, .value .text⟩

/-- The options that both levels have. -/
def shared : List OptionSpec :=
  [⟨"verbose", some 'v', .flag⟩, ⟨"quiet", some 'q', .flag⟩, ⟨"output", some 'o', .value .path⟩, help]

/-- The options in front of the name of a command. -/
def leading : List OptionSpec :=
  shared ++
    [text "bus", ⟨"address", none, .value .address⟩, ⟨"config", none, .value .path⟩,
     ⟨"version", some 'V', .version⟩]

end OptionSpec

/-- A command with its own options, and how they make a job. -/
structure Subcommand where
  name : String
  options : List OptionSpec := []
  job : Given → Except UsageError Job

namespace Subcommand

def plain (name : String) (job : DeviceJob) : Subcommand :=
  { name, job := fun _ => .ok (.device job) }

def modeOf (given : Given) : MacMode where
  useSerial := given.has "use-serial-num"
  useOtpLow := given.has "use-otp-0-7"
  useOtpHigh := given.has "use-otp-0-10"

def byteMode : OptionSpec := ⟨"mode", none, .value .byte⟩

def all : List Subcommand :=
  [{ name := "random", options := [.flag "update-seed", ⟨"count", none, .value .count⟩],
     job := fun given =>
       .ok (.device (.random (given.has "update-seed") ((given.number? "count").getD 32))) },
   plain "serial-num" .serialNumber,
   plain "state" .lifecycle,
   plain "get-config" .configZone,
   plain "get-otp" .otpZone,
   { name := "slot-config", options := [.keySlot],
     job := fun given => do return .device (.slotConfig (← required (given.byte? "key-slot"))) },
   { name := "personalize", options := [⟨"import", none, .value .path⟩],
     job := fun given => .ok (.device (.provision (given.text? "import"))) },
   { name := "mac",
     options := [.keySlot, .flag "use-serial-num", .flag "use-otp-0-7", .flag "use-otp-0-10", .file],
     job := fun given =>
       .ok (.device (.mac ((given.byte? "key-slot").getD 0) (modeOf given) (given.text? "file"))) },
   { name := "check-mac",
     options := [.keySlot, byteMode, .text "challenge", .text "response", .text "meta"],
     job := fun given => do
       return .device (.checkMac ((given.byte? "key-slot").getD 0) ((given.byte? "mode").getD 0)
         (← required (given.text? "challenge")) (← required (given.text? "response"))
         (← required (given.text? "meta"))) },
   { name := "offline-verify",
     options := [.keySlot, byteMode, .text "challenge", .text "response", .text "key"],
     job := fun given => do
       return .host (.verifyMac ((given.byte? "key-slot").getD 0) ((given.byte? "mode").getD 0)
         (← required (given.text? "challenge")) (← required (given.text? "response"))
         (given.text? "key")) },
   { name := "hmac", options := [.keySlot, .file],
     job := fun given =>
       .ok (.device (.hmac ((given.byte? "key-slot").getD 1) (given.text? "file"))) },
   { name := "offline-hmac-verify",
     options := [.keySlot, .text "challenge", .text "response", .text "key"],
     job := fun given => do
       return .host (.verifyHmac ((given.byte? "key-slot").getD 1)
         (← required (given.text? "challenge")) (← required (given.text? "response"))
         (given.text? "key")) },
   { name := "nonce", options := [.flag "random", .file],
     job := fun given => .ok (.device (.nonce (given.has "random") (given.text? "file"))) },
   { name := "read-key-slot", options := [.keySlot],
     job := fun given => do return .device (.readKeySlot (← required (given.byte? "key-slot"))) },
   { name := "write-key-slot", options := [.keySlot, .text "key", .text "current-key"],
     job := fun given => do
       return .device (.writeKeySlot (← required (given.byte? "key-slot"))
         (← required (given.text? "key")) (given.text? "current-key")) },
   { name := "hash", options := [.file], job := fun given => .ok (.host (.hash (given.text? "file"))) },
   plain "dev-rev" .revision]

def names : List String :=
  "help" :: all.map (·.name)

end Subcommand

/-- Being quiet excludes being verbose on the same level. -/
def checkExclusions (given : Given) : Except UsageError Unit :=
  if given.has "quiet" && given.has "verbose" then .error .conflict else .ok ()

/-- Help on a command is there for each name that stands where a command is expected. -/
def helpOn (names : List String) : UsageError :=
  match names with
  | [] => .help
  | [name] => if Subcommand.names.contains name then .help else .invalidSubcommand
  | _ => .invalidSubcommand

def readCommand (name : String) (arguments : List String) : Except UsageError (Given × Job) := do
  if name = "help" then throw (helpOn arguments)
  match Subcommand.all.find? (·.name == name) with
  | none => throw .invalidSubcommand
  | some command =>
    let (scan, _) ← Scan.read (OptionSpec.shared ++ command.options) [] {} arguments
    let scan ← scan.settle
    checkExclusions scan.given
    return (scan.given, ← command.job scan.given)

namespace Settings

/-- The settings of both levels; an output after the name of the command counts more. -/
def ofGiven (leading own : Given) : Settings where
  bus := leading.text? "bus"
  address := (leading.number? "address").map UInt16.ofNat
  config := leading.text? "config"
  quiet := leading.has "quiet" || own.has "quiet"
  output := own.text? "output" <|> leading.text? "output"

end Settings

namespace Invocation

def ofArguments (arguments : List String) : Except UsageError Invocation := do
  let (scan, command) ← Scan.read OptionSpec.leading Subcommand.names {} arguments
  match command with
  | none =>
    let scan ← scan.settle
    throw (if scan.given.isEmpty then .helpOnMissing else .missingSubcommand)
  | some (name, rest) =>
    let (own, job) ← readCommand name rest
    let scan ← scan.settle
    checkExclusions scan.given
    return { settings := .ofGiven scan.given own, job }

end Invocation

end SecureElement.CommandLine
