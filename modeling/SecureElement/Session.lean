import SecureElement.Device.Basic
import SecureElement.Session.Config
/-!
# Sessions

A session is a handle on a device that is awake. Whatever the job of a session comes to, the device is put back
to sleep after it.
-/

namespace SecureElement

inductive SessionError where
  | opening (bus : String) (error : BusError)
  | waking (error : DeviceError)
  deriving DecidableEq, Repr

namespace SessionError

def message : SessionError → String
  | opening bus _ => s!"opening {bus}"
  | waking _ => "waking device"

def chain : SessionError → List String
  | opening bus error => [message (opening bus error), error.message]
  | waking error => message (waking error) :: error.chain

end SessionError

def SessionConfig.handle {σ : Type} (config : SessionConfig) (bus : σ) : Device σ :=
  { Device.ofBus bus with pacing := config.pacing }.withRetryBudget config.retryBudget.toNat

namespace Session

variable {σ : Type} [Bus σ]

/-- Puts the device to sleep. It does not matter whether it hears that. -/
def finish {ε : Type} : EStateM ε (Device σ) Unit := fun device =>
  match Device.sleep device with
  | .ok _ device => .ok () device
  | .error _ device => .ok () device

/-- Wakes the device up. A device that has heard the wake pulse without answering it is left awake. -/
def start : EStateM SessionError (Device σ) Unit :=
  EStateM.adaptExcept .waking Device.wake

/-- Runs a job between the start and the end of a session; `onDevice` says where in the state of the job the
device is. -/
def run {ε τ α : Type} (onDevice : EStateM SessionError (Device σ) Unit → EStateM ε τ Unit)
    (job : EStateM ε τ α) : EStateM ε τ α := do
  onDevice start
  tryFinally job (onDevice finish)

end Session

end SecureElement
