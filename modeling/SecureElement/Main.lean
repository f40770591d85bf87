import SecureElement.Chip.Bus
import SecureElement.CommandLine.Run
/-!
# The program

Runs one command against a simulated chip fresh from the factory. The files that the command may touch are read
first, and those that it has changed are written back.
-/

namespace SecureElement.CommandLine

def UsageError.hint : UsageError → String
  | .help => "commands: " ++ ", ".intercalate Subcommand.names
  | .helpOnMissing => "commands: " ++ ", ".intercalate Subcommand.names
  | .version => SecureElement.version
  | .invalidSubcommand => "error: no such command"
  | .missingSubcommand => "error: a command is missing"
  | .unknownArgument => "error: unexpected argument"
  | .missingRequired => "error: a required option is missing"
  | .invalidValue => "error: an option needs a value"
  | .tooManyValues => "error: a flag takes no value"
  | .conflict => "error: these options exclude each other"
  | .badValue error => s!"error: {error.message}"

def UsageError.exitCode : UsageError → UInt32
  | .help => 0
  | .version => 0
  | _ => 2

def Invocation.paths (invocation : Invocation) : List String :=
  let inputs :=
    match invocation.job with
    | .host (.hash file) => file.toList
    | .device (.provision source) => source.toList
    | .device (.mac _ _ file) => file.toList
    | .device (.hmac _ file) => file.toList
    | .device (.nonce _ file) => file.toList
    | _ => []
  invocation.settings.config.toList ++ invocation.settings.output.toList ++ inputs

def Job.readsInput : Job → Bool
  | .host (.hash file) => file.isNone
  | .device (.mac _ _ file) => file.isNone
  | .device (.hmac _ file) => file.isNone
  | .device (.nonce _ file) => file.isNone
  | _ => false

/-- The path of the key store that a command uses, if its configuration can be read. -/
def Invocation.keyStorePath? (invocation : Invocation) (files : FileSystem) (home : Option String) :
    Option String := do
  let config ← match invocation.settings.config with
    | none => some {}
    | some path => (SessionConfig.load files path).toOption
  (config.keyStorePath home).toOption

/-- Looks a path and the directories on the way to it up. -/
def observe (files : FileSystem) (path : String) : IO FileSystem := do
  let path := Path.ofText path
  let mut files := files
  let mut location := Location.start path
  for step in path.steps do
    location := location.enter step
    try
      let found ← IO.FS.realPath location.toText
      if ← found.isDir then files := files.put location (.directory 0o755)
      else if (FileSystem.fixed? location).isNone then
        files := files.put location (.file (← IO.FS.readBinFile found).toList 0o644)
    catch _ => pure ()
  return files

/-- Writes a file back if it is not what it was. -/
def store (before : FileSystem) (location : Location) (node : Node) : IO Unit := do
  match node with
  | .directory _ => return
  | .null => return
  | .file content mode =>
    if before.find? location = some node then return
    let name := location.toText
    let isNew := (before.find? location).isNone
    IO.FS.writeBinFile name ⟨content.toArray⟩
    if isNew then
      let owner : IO.AccessRight := { read := true, write := true }
      let others : IO.AccessRight := { read := mode % 8 = 4 }
      IO.setAccessRights name { user := owner, group := others, other := others }

partial def readAll (stream : IO.FS.Stream) : IO (List UInt8) := do
  let bytes ← stream.read 65536
  if bytes.isEmpty then return []
  return bytes.toList ++ (← readAll stream)

def execute (invocation : Invocation) : IO UInt32 := do
  let home ← IO.getEnv "HOME"
  let mut files : FileSystem := {}
  for path in invocation.paths do
    files ← observe files path
  match invocation.keyStorePath? files home with
  | some path => files ← observe files path
  | none => pure ()
  let input ← if invocation.job.readsInput then readAll (← IO.getStdin) else pure []
  let before := files
  let chip : Chip := {}
  let outcome := invocation.run { device := .ofBus chip, files, home, input }
  for (location, node) in outcome.host.files.nodes do
    store before location node
  IO.print outcome.output
  match outcome.result with
  | .error failure => IO.eprintln ("Error: " ++ ": ".intercalate failure.chain)
  | .ok _ => pure ()
  return outcome.exitCode.toUInt32

end SecureElement.CommandLine

def main (arguments : List String) : IO UInt32 := do
  match SecureElement.CommandLine.Invocation.ofArguments arguments with
  | .ok invocation => SecureElement.CommandLine.execute invocation
  | .error error =>
    let hint := SecureElement.CommandLine.UsageError.hint error
    if error.exitCode = 0 then IO.println hint else IO.eprintln hint
    return error.exitCode
