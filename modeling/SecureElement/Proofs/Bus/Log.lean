import SecureElement.Device.Exchange
import SecureElement.Proofs.Runs
/-!
# Buses with a log

A bus that keeps, beside whatever answers on it, every access and what came of it. What an operation does on the
wire is stated about the log, whatever the answers are.
-/

namespace SecureElement

inductive Access where
  | wrote (bytes : List UInt8) (outcome : Except BusError Nat)
  | read (len : Nat) (outcome : Except BusError (List UInt8))

structure Logged (σ : Type) where
  bus : σ
  /-- The accesses so far, the oldest first. -/
  log : List Access := []

namespace Logged

variable {σ α : Type}

def enter (entry : Except BusError α → Access) (action : EStateM BusError σ α) :
    EStateM BusError (Logged σ) α := fun logged =>
  match action logged.bus with
  | .ok value bus => .ok value ⟨bus, logged.log ++ [entry (.ok value)]⟩
  | .error error bus => .error error ⟨bus, logged.log ++ [entry (.error error)]⟩

instance [Bus σ] : Bus (Logged σ) where
  write bytes := enter (.wrote bytes) (Bus.write bytes)
  read len := enter (.read len) (Bus.read len)
  wait micros logged := { logged with bus := Bus.wait micros logged.bus }

end Logged

namespace Device

variable {σ : Type}

def log (device : Device (Logged σ)) : List Access :=
  device.bus.log

def unlogged (device : Device (Logged σ)) : Device σ :=
  { device with bus := device.bus.bus }

def logged (device : Device σ) : Device (Logged σ) :=
  { device with bus := { bus := device.bus } }

@[simp] theorem unlogged_logged (device : Device σ) : device.logged.unlogged = device := rfl

@[simp] theorem log_logged (device : Device σ) : device.logged.log = [] := rfl

end Device

end SecureElement
