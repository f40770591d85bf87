import SecureElement.Device.Basic
import SecureElement.Frame
/-!
# Exchanges

The only way a command reaches the bus. A command is sent again, unchanged, when the device has only just woken
up or its answer is damaged; while the device is busy the answer is merely asked for again. Both count against
one budget of attempts.
-/

namespace SecureElement

inductive Verdict where
  | answered (payload : List UInt8)
  | refused (status : Status)
  /-- Another attempt is needed, for which the command is sent again or not. -/
  | inconclusive (resend : Bool) (reason : RetryReason)
  deriving DecidableEq, Repr

/-- Judges what was read for a payload of `expected` bytes. A payload of one byte arrives as a status, and
success stands for a zero byte. -/
def Verdict.ofBuffer (expected : Nat) (buffer : List UInt8) : Verdict :=
  match Response.parse buffer expected with
  | .ok (.payload payload) => .answered payload
  | .ok (.status status) =>
    if status = .success ∧ expected = 1 then .answered [Status.success.toByte]
    else if status.isRetryable then .inconclusive true (.status status)
    else .refused status
  | .error error => .inconclusive true (.frame error)

namespace Device

variable {σ : Type} [Bus σ]

/-- Writes the command. A write of only the word address means that nobody listens. -/
def transmit (command : Command) : DeviceM σ Unit := do
  let written ← onBus (Bus.write command.encode)
  if written ≤ 1 then throw (.bus (.shortWrite written command.encode.length))
  emit (.ofPacket .sent command.opcode command.encode)

def pause (opcode : Opcode) : DeviceM σ Unit :=
  modify fun device => { device with bus := Bus.wait (device.pacing.delay opcode) device.bus }

def receive (opcode : Opcode) (expected : Nat) : DeviceM σ Verdict := fun device =>
  match Bus.read (Response.size expected) device.bus with
  | .ok buffer bus =>
    .ok (.ofBuffer expected buffer)
      { device with bus, events := device.events.push (.ofPacket .received opcode buffer) }
  | .error error bus =>
    if error.isBusy then .ok (.inconclusive false (.bus error)) { device with bus }
    else .error (.bus error) { device with bus }

/-- Makes at most `left` attempts, of which the first is number `attempt`. -/
def attempts (command : Command) (expected : Nat) :
    (left attempt : Nat) → (resend : Bool) → DeviceM σ (List UInt8)
  | 0, attempt, _ => throw (.retryExhausted command.opcode (attempt - 1))
  | left + 1, attempt, resend => do
    if resend then transmit command
    pause command.opcode
    match ← receive command.opcode expected with
    | .answered payload => return payload
    | .refused status => throw (.status command.opcode status)
    | .inconclusive resend reason =>
      if 0 < left then emit (.retry command.opcode attempt reason)
      attempts command expected left (attempt + 1) resend

def exchange (command : Command) (expected : Nat) : DeviceM σ (List UInt8) := do
  attempts command expected (← get).retryBudget 1 true

def exchangeBytes (n : Nat) (command : Command) : DeviceM σ (Bytes n) := do
  let payload ← exchange command n
  match Bytes.ofList? n payload with
  | some bytes => return bytes
  | none => throw (.unexpectedResponse command.opcode n payload.length)

/-- Exchanges a command that is answered by a status alone. -/
def exchangeAck (command : Command) : DeviceM σ Unit := do
  let _ ← exchange command 1

end Device

end SecureElement
