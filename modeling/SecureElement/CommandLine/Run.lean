import SecureElement.CommandLine.Invocation
import SecureElement.Device.Authentication
import SecureElement.Provisioning
import SecureElement.Session
/-!
# Running a command

What a command reads, writes and prints. The configuration is loaded first, then the output is opened, and only
then does the command start; its lines are written out at the end, even after a failure.
-/

namespace SecureElement.CommandLine

inductive Failure where
  | config (error : ConfigError)
  | creating (path : String) (error : IoError)
  | reading (path : String) (error : IoError)
  | hex (error : HexError)
  | noKey (slot : UInt8) (path : String)
  | nonceTooShort (length : Nat)
  | digest (error : DigestError)
  | keyStore (error : KeyStoreError)
  | device (error : DeviceError)
  | provision (error : ProvisionError)
  | session (error : SessionError)
  deriving DecidableEq, Repr

/-- What was being done, followed by its causes, the innermost last. -/
def Failure.chain : Failure → List String
  | .config error => error.chain
  | .creating path error => [s!"creating {path}", error.message]
  | .reading path error => [s!"reading {path}", error.message]
  | .hex error => error.chain
  | .noKey slot path => [s!"no key for slot {slot} in {path}"]
  | .nonceTooShort length => [s!"nonce input must hold at least {nonceInputSize} bytes, got {length}"]
  | .digest error => [error.message]
  | .keyStore error => error.chain
  | .device error => error.chain
  | .provision error => error.chain
  | .session error => error.chain

structure Host (σ : Type) where
  device : Device σ
  files : FileSystem := {}
  /-- The home directory, if there is one. -/
  home : Option String := none
  /-- The standard input. -/
  input : List UInt8 := []
  /-- The lines printed so far. -/
  printed : String := ""

abbrev RunM (σ : Type) := EStateM Failure (Host σ)

inductive Sink where
  | standard
  | file (path : String)
  | nowhere
  deriving DecidableEq, Repr

/-- An output file is not even opened when nothing is to be printed. -/
def Settings.sink (settings : Settings) : Sink :=
  if settings.quiet then .nowhere else settings.output.elim .standard .file

namespace Run

variable {σ : Type}

def lift {ε α : Type} (failure : ε → Failure) : Except ε α → RunM σ α
  | .ok value => pure value
  | .error error => throw (failure error)

def onHandle {ε α : Type} (failure : ε → Failure) (action : EStateM ε (Device σ) α) : RunM σ α :=
  fun host =>
    match action host.device with
    | .ok value device => .ok value { host with device }
    | .error error device => .error (failure error) { host with device }

def onDevice {α : Type} (action : DeviceM σ α) : RunM σ α :=
  onHandle .device action

def printLine (line : String) : RunM σ Unit :=
  modify fun host => { host with printed := host.printed ++ line ++ "\n" }

def printHex (bytes : List UInt8) : RunM σ Unit :=
  printLine (Hex.encodeUpper bytes)

def printVerdict (holds : Bool) : RunM σ Bool := do
  printLine (if holds then "Verified" else "Mismatch")
  return holds

def readInput (file : Option String) : RunM σ (List UInt8) := do
  let host ← get
  match file with
  | none => return host.input
  | some path => lift (.reading path) (host.files.read path)

def loadConfig (settings : Settings) : RunM σ SessionConfig := do
  let config ← match settings.config with
    | none => pure {}
    | some path => lift .config (SessionConfig.load (← get).files path)
  return { config with
    bus := settings.bus.getD config.bus, address := settings.address.getD config.address }

/-- Opens the output, which empties a file at once. -/
def openSink (sink : Sink) : RunM σ Unit := do
  match sink with
  | .file path =>
    let files ← lift (.creating path) ((← get).files.create path 0o644)
    modify fun host => { host with files }
  | .standard => return
  | .nowhere => return

def keyStore (config : SessionConfig) : RunM σ FileStore := do
  let host ← get
  let path ← lift .keyStore (config.keyStorePath host.home)
  return { path, files := host.files }

/-- The key that was given, or else the one recorded for the slot. -/
def resolveKey (config : SessionConfig) (slot : UInt8) (key : Option String) : RunM σ Block := do
  match key with
  | some text => lift .hex (parseBlock "key" text)
  | none =>
    let store ← keyStore config
    match ← lift .keyStore (store.find? slot) with
    | some text => lift .hex (parseBlock "stored key" text)
    | none => throw (.noKey slot store.path)

/-- A key for a check that is left out when there is none. -/
def optionalKey (config : SessionConfig) (slot : UInt8) : RunM σ (Option Block) :=
  tryCatch (do return some (← resolveKey config slot none)) fun _ => return none

def hostJob (config : SessionConfig) : HostJob → RunM σ Bool
  | .hash file => do
    printHex (sha256 (← readInput file)).toList
    return true
  | .verifyMac slot mode challenge response key => do
    let challenge ← lift .hex (parseHex "challenge" challenge)
    let response ← lift .hex (parseHex "response" response)
    let key ← resolveKey config slot key
    printVerdict (← lift .digest (verifyMac challenge response key.toList mode slot.toUInt16))
  | .verifyHmac slot challenge response key => do
    let challenge ← lift .hex (parseHex "challenge" challenge)
    let response ← lift .hex (parseHex "response" response)
    let key ← resolveKey config slot key
    printVerdict (← lift .digest (verifyHmac challenge response key.toList slot.toUInt16))

variable [Bus σ]

/-- Provisions the device. The key store is chosen before the keys are looked for. -/
def provision (config : SessionConfig) (source : Option String) : RunM σ Lifecycle := do
  let store ← keyStore config
  let keys ← match source with
    | none => pure none
    | some path => do
      let keySet ← lift .keyStore (KeySet.ofStore { store with path })
      pure (some keySet)
  fun host =>
    match Provisioning.run .personalized keys host.device store with
    | .ok state run => .ok state { host with device := run.device, files := run.store.files }
    | .error error run =>
      .error (.provision error) { host with device := run.device, files := run.store.files }

def deviceJob (config : SessionConfig) : DeviceJob → RunM σ Bool
  | .random updateSeed count => do
    printHex (← onDevice (Device.randomBytes count updateSeed))
    return true
  | .serialNumber => do
    printHex (← onDevice Device.serialNumber).toList
    return true
  | .lifecycle => do
    printLine (← onDevice Device.lifecycle).name
    return true
  | .configZone => do
    printHex (← onDevice Device.configZone)
    return true
  | .otpZone => do
    printHex (← onDevice Device.otpZone).toList
    return true
  | .revision => do
    printHex (← onDevice Device.revision).toList
    return true
  | .slotConfig slot => do
    printLine (← onDevice (Device.slotConfig slot)).describe
    return true
  | .provision source => do
    let state ← provision config source
    printLine state.name
    return state = .personalized
  | .mac slot mode file => do
    let challenge := sha256 (← readInput file)
    let result ← onDevice (Device.mac mode slot challenge.toList)
    printHex challenge.toList
    printHex result.mac.toList
    printHex result.otherData.toList
    return result.verified
  | .checkMac slot mode challenge response otherData => do
    let challenge ← lift .hex (parseHex "challenge" challenge)
    let response ← lift .hex (parseHex "response" response)
    let otherData ← lift .hex (parseHex "meta" otherData)
    printVerdict (← onDevice (Device.checkMac (.ofByte mode) slot challenge response otherData))
  | .hmac slot file => do
    let challenge := sha256 (← readInput file)
    let key ← optionalKey config slot
    let result ← onDevice (Device.hmac slot challenge.toList (key.map (·.toList)))
    printHex challenge.toList
    printHex result.mac.toList
    if key.isSome then printVerdict result.verified else return true
  | .nonce random file => do
    let input ← readInput file
    let input ←
      if !random then pure (sha256 input).toList
      else if input.length < nonceInputSize then throw (.nonceTooShort input.length)
      else pure (input.take nonceInputSize)
    printHex (← onDevice (Device.nonce input))
    return true
  | .readKeySlot slot => do
    printHex (← onDevice (Device.readKeySlot slot)).toList
    return true
  | .writeKeySlot slot key currentKey => do
    let key ← lift .hex (parseBlock "key" key)
    match currentKey with
    | some text =>
      let currentKey ← lift .hex (parseBlock "current key" text)
      onDevice (Device.writeKeySlotEncrypted slot key currentKey)
    | none => onDevice (Device.writeKeySlot slot key)
    return true

/-- Runs a command of either kind; one that needs the device gets a session. -/
def job (config : SessionConfig) : Job → RunM σ Bool
  | .host job => hostJob config job
  | .device job => do
    modify fun host => { host with device := config.handle host.device.bus }
    Session.run (onHandle .session) (deviceJob config job)

def invocation (invocation : Invocation) : RunM σ Bool := do
  let config ← loadConfig invocation.settings
  openSink invocation.settings.sink
  job config invocation.job

end Run

/-- What a run came to: whether all was well or how it failed, what it wrote to the standard output, and the
host as it left it. -/
structure Outcome (σ : Type) where
  result : Except Failure Bool
  output : String
  host : Host σ

/-- A failure and a verdict that does not hold end the program alike, but for a panic. -/
def Outcome.exitCode {σ : Type} (outcome : Outcome σ) : Nat :=
  match outcome.result with
  | .ok true => 0
  | .ok false => 1
  | .error (.device (.panicked _)) => 101
  | .error _ => 1

def Sink.deliver {σ : Type} (sink : Sink) (result : Except Failure Bool) (host : Host σ) : Outcome σ :=
  match sink with
  | .standard => { result, output := host.printed, host }
  | .file path =>
    let files := host.files.overwrite path (Text.utf8Bytes host.printed)
    { result, output := "", host := { host with files } }
  | .nowhere => { result, output := "", host }

def Invocation.run {σ : Type} [Bus σ] (invocation : Invocation) (host : Host σ) : Outcome σ :=
  match Run.invocation invocation host with
  | .ok verdict host => invocation.settings.sink.deliver (.ok verdict) host
  | .error failure host => invocation.settings.sink.deliver (.error failure) host

end SecureElement.CommandLine
