import SecureElement.KeyStore.Basic
/-!
# Provisioning

Takes a device from the factory to a personalized one. Each run starts from the lock bytes, so a run that was
interrupted is taken up by the next. The keys are recorded before the Data zone is locked for good.
-/

namespace SecureElement

def otpBanner : String := "CRYPTOTRONIX HASHLET REV: A"

/-- The OTP zone of a provisioned device: the banner in the first block, the version in the second. Each
starts its block, and a text that is too long is cut at the end of the block. -/
def otpImage (version : String) : Bytes 64 :=
  let banner := Text.utf8Bytes otpBanner
  let line := (Text.utf8Bytes ("SOFTWARE VERSION: " ++ version)).take 32
  Bytes.overwrite (Bytes.overwrite (Bytes.zero 64) 0 banner) 32 line

inductive ProvisionError where
  | device (error : DeviceError)
  | keyStore (error : KeyStoreError)
  | stateMismatch (phase : Phase) (expected actual : Lifecycle)
  deriving DecidableEq, Repr

namespace ProvisionError

def message : ProvisionError → String
  | device error => error.message
  | keyStore error => error.message
  | stateMismatch phase expected actual =>
    s!"Expected device state {expected.name} after {phase.name}, found {actual.name}"

def chain : ProvisionError → List String
  | device error => error.chain
  | keyStore error => error.chain
  | error => [message error]

end ProvisionError

/-- A provisioning run: the device, where its keys are recorded, and how far the run has come. -/
structure Provisioning (σ κ : Type) where
  device : Device σ
  store : κ
  phase : Phase := .idle

abbrev ProvisionM (σ κ : Type) := EStateM ProvisionError (Provisioning σ κ)

namespace Provisioning

variable {σ κ : Type}

def onDevice {α : Type} (action : DeviceM σ α) : ProvisionM σ κ α := fun run =>
  match action run.device with
  | .ok value device => .ok value { run with device }
  | .error error device => .error (.device error) { run with device }

def onStore {α : Type} (action : EStateM KeyStoreError κ α) : ProvisionM σ κ α := fun run =>
  match action run.store with
  | .ok value store => .ok value { run with store }
  | .error error store => .error (.keyStore error) { run with store }

def enter (phase : Phase) : ProvisionM σ κ Unit := do
  let run ← get
  onDevice (Device.emit (.phaseChanged run.phase phase))
  modify fun run => { run with phase }

/-- Even slots hold secrets for CheckMac alone. -/
def evenSlotConfig : SlotConfig := { checkOnly := true, isSecret := true }

/-- Odd slots hold secrets for MAC and HMAC. -/
def oddSlotConfig : SlotConfig := { isSecret := true }

/-- Bus address 0xC8, OTP zone read-only. -/
def otpModeWord : Word := Bytes.quad 0xC8 0x00 0xAA 0x00

variable [Bus σ]

/-- Reads the state back and compares it with the one that was meant to be reached. -/
def confirm (expected : Lifecycle) : ProvisionM σ κ Lifecycle := do
  let actual ← onDevice Device.lifecycle
  if actual ≠ expected then throw (.stateMismatch (← get).phase expected actual)
  return actual

def writeConfigZone : DeviceM σ Unit := do
  [0, 2, 4, 6, 8, 10, 12, 14].forM fun slot =>
    Device.writeSlotConfigs slot evenSlotConfig oddSlotConfig
  Device.writeWord .config Device.otpModeAddress otpModeWord

def lockConfigZone : DeviceM σ Unit := do
  let config ← Device.configZone
  Device.lock .config (some (Crc16.compute config))

def writeOtpBlock (block : UInt8) (data : Block) : DeviceM σ Unit := do
  Device.writeBlock .otp (← Device.require (Zone.otp.blockAddress block)) data none

/-- Blanks both OTP blocks and then writes the identification. -/
def writeOtpZone : DeviceM σ Unit := do
  if !(← Device.isOtpReadOnly) then throw (.precondition .otpNotReadOnly)
  writeOtpBlock 0 (Bytes.zero 32)
  writeOtpBlock 1 (Bytes.zero 32)
  let image := otpImage version
  writeOtpBlock 0 (image.take 32)
  writeOtpBlock 1 (image.drop 32)

def writeKeys (keySet : KeySet) : DeviceM σ Unit :=
  keySet.keys.toList.zipIdx.forM fun (key, slot) => Device.writeKeySlot (UInt8.ofNat slot) key

/-- What the Data zone is locked against: the keys in slot order and the identification. -/
def dataImage (keySet : KeySet) : List UInt8 :=
  keySet.toBytes ++ (otpImage version).toList

def reachInitialized : ProvisionM σ κ Lifecycle := do
  enter .configWrite
  onDevice writeConfigZone
  enter .configLock
  onDevice lockConfigZone
  confirm .initialized

variable [KeyStore κ]

/-- From a locked Config zone to a locked device. Without given keys, the device draws them. -/
def reachPersonalized (keys : Option KeySet) : ProvisionM σ κ Lifecycle := do
  enter .otpWrite
  onDevice writeOtpZone
  enter .keyWrite
  let keySet ← match keys with
    | some keySet => pure keySet
    | none => onDevice KeySet.generate
  onDevice (writeKeys keySet)
  onStore (KeyStore.record keySet)
  enter .dataLock
  onDevice (Device.lock .data (some (Crc16.compute (dataImage keySet))))
  confirm .personalized

/-- Takes the device to at least the state `goal` and returns the state it is in. -/
def provision (goal : Lifecycle) (keys : Option KeySet) : ProvisionM σ κ Lifecycle := do
  let state ← onDevice Device.lifecycle
  if goal ≤ state then return state
  let state ← if state = .factory then reachInitialized else pure state
  let state ← if goal = .initialized then pure state else reachPersonalized keys
  enter .complete
  return state

def run (goal : Lifecycle) (keys : Option KeySet) (device : Device σ) (store : κ) :
    EStateM.Result ProvisionError (Provisioning σ κ) Lifecycle :=
  provision goal keys { device, store }

end Provisioning

end SecureElement
