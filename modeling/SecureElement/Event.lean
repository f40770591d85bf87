import SecureElement.Bus
import SecureElement.Lifecycle
import SecureElement.Opcode
/-!
# Events

What a device handle reports while it works.
-/

namespace SecureElement

inductive Phase where
  | idle
  /-- Slot policies and the OTP mode word are written. -/
  | configWrite
  | configLock
  /-- The identification text is written. -/
  | otpWrite
  | keyWrite
  | dataLock
  | complete
  deriving DecidableEq, Repr

def Phase.name : Phase → String
  | .idle => "Idle"
  | .configWrite => "Config Write"
  | .configLock => "Config Lock"
  | .otpWrite => "OTP Write"
  | .keyWrite => "Key Write"
  | .dataLock => "Data Lock"
  | .complete => "Complete"

inductive RetryReason where
  | status (status : Status)
  | frame (error : FrameError)
  | bus (error : BusError)
  deriving DecidableEq, Repr

def RetryReason.message : RetryReason → String
  | .status answer => answer.message
  | .frame error => error.message
  | .bus error => error.message

inductive Direction where
  /-- From the host to the device. -/
  | sent
  /-- From the device to the host. -/
  | received
  deriving DecidableEq, Repr

inductive Event where
  | awake
  | asleep
  | stateObserved (state : Lifecycle)
  | phaseChanged (source target : Phase)
  | retry (opcode : Opcode) (attempt : Nat) (reason : RetryReason)
  /-- A packet of `length` bytes that starts with `head`. -/
  | packet (direction : Direction) (opcode : Opcode) (length : Nat) (head : List UInt8)
  deriving DecidableEq, Repr

/-- A report of a packet shows its first 40 bytes. -/
def Event.ofPacket (direction : Direction) (opcode : Opcode) (bytes : List UInt8) : Event :=
  .packet direction opcode bytes.length (bytes.take 40)

end SecureElement
