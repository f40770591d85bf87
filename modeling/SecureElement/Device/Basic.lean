import SecureElement.Digest.Message
import SecureElement.Event
/-!
# Device handles

A handle owns the bus of one device. An operation is a state transformer of the handle that may fail; a failed
operation keeps what it has done so far.
-/

namespace SecureElement

inductive DeviceError where
  | bus (error : BusError)
  | frame (error : FrameError)
  /-- The device answered with a status instead of a result. -/
  | status (opcode : Opcode) (status : Status)
  | retryExhausted (opcode : Opcode) (attempts : Nat)
  | precondition (error : PreconditionError)
  | digest (error : DigestError)
  | unexpectedResponse (opcode : Opcode) (expected actual : Nat)
  /-- Not an answer to the caller: the program ends with a panic. -/
  | panicked (reason : String)
  deriving DecidableEq, Repr

namespace DeviceError

def message : DeviceError → String
  | bus error => error.message
  | frame error => s!"Frame error: {error.message}"
  | status opcode answer => s!"{opcode.name} returned status: {answer.message}"
  | retryExhausted opcode attempts => s!"{opcode.name} failed after {attempts} attempts"
  | precondition error => error.message
  | digest error => s!"Crypto error: {error.message}"
  | unexpectedResponse opcode expected actual =>
    s!"Unexpected {opcode.name} response: expected {expected} bytes, got {actual}"
  | panicked reason => reason

/-- The message, followed by those of the causes it wraps. -/
def chain : DeviceError → List String
  | frame error => [message (frame error), error.message]
  | digest error => [message (digest error), error.message]
  | error => [message error]

def status? : DeviceError → Option Status
  | status _ answer => some answer
  | _ => none

end DeviceError

def defaultRetryBudget : Nat := 10

structure Device (σ : Type) where
  bus : σ
  /-- How many attempts a command gets. -/
  retryBudget : Nat := defaultRetryBudget
  retryBudget_pos : 0 < retryBudget := by decide
  pacing : Pacing := .typical
  /-- The events so far, the oldest first. -/
  events : Array Event := #[]

namespace Device

variable {σ : Type}

def ofBus (bus : σ) : Device σ := { bus }

/-- A budget of no attempts counts as one. -/
def withRetryBudget (device : Device σ) (budget : Nat) : Device σ :=
  { device with retryBudget := max budget 1, retryBudget_pos := by omega }

end Device

abbrev DeviceM (σ : Type) := EStateM DeviceError (Device σ)

namespace Device

variable {σ : Type}

def emit {ε : Type} (event : Event) : EStateM ε (Device σ) Unit :=
  modify fun device => { device with events := device.events.push event }

def onBus {α : Type} (action : EStateM BusError σ α) : DeviceM σ α := fun device =>
  match action device.bus with
  | .ok value bus => .ok value { device with bus }
  | .error error bus => .error (.bus error) { device with bus }

def require {α : Type} : Except PreconditionError α → DeviceM σ α
  | .ok value => pure value
  | .error error => throw (.precondition error)

def compute {α : Type} : Except DigestError α → DeviceM σ α
  | .ok value => pure value
  | .error error => throw (.digest error)

variable [Bus σ]

def wake : DeviceM σ Unit := do
  onBus Bus.wake
  emit .awake

def sleep : DeviceM σ Unit := do
  onBus Bus.sleep
  emit .asleep

def idle : DeviceM σ Unit :=
  onBus Bus.idle

end Device

end SecureElement
