import SecureElement.Frame
/-!
# Buses

A bus carries bytes to and from one device. It is given by what a write and a read do to the state of whatever
answers, so a program over a bus is a pure function of that state.
-/

namespace SecureElement

inductive BusError where
  | openFailed (path reason : String)
  | addressSelectFailed (address : UInt16) (reason : String)
  | writeFailed (reason : String)
  | readFailed (reason : String)
  | shortWrite (written expected : Nat)
  | wakeFailed (response : List UInt8)
  | disconnected
  | timeout (millis : Nat)
  | io (reason : String)
  deriving DecidableEq, Repr

namespace BusError

def message : BusError → String
  | openFailed path reason => s!"Failed to open I2C bus {path}: {reason}"
  | addressSelectFailed address reason =>
    let digits := ((Nat.toDigits 16 address.toNat).map Char.toUpper).leftpad 2 '0'
    s!"Failed to select I2C address 0x{String.ofList digits}: {reason}"
  | writeFailed reason => s!"Write failed: {reason}"
  | readFailed reason => s!"Read failed: {reason}"
  | shortWrite written expected => s!"Short write: {written} of {expected} bytes"
  | wakeFailed response =>
    let bytes := ", ".intercalate (response.map fun byte => Hex.encodeUpper [byte])
    s!"Wake failed: unexpected response [{bytes}]"
  | disconnected => "Device disconnected"
  | timeout millis => s!"Timeout after {millis}ms"
  | io reason => s!"IO error: {reason}"

/-- Whether a read failed the way it does while the device is still executing. -/
def isBusy : BusError → Bool
  | readFailed _ => true
  | timeout _ => true
  | _ => false

end BusError

class Bus (σ : Type) where
  /-- Writes bytes, word address included, and tells how many were taken. -/
  write : List UInt8 → EStateM BusError σ Nat
  /-- Reads up to so many bytes. -/
  read : Nat → EStateM BusError σ (List UInt8)
  /-- Lets so many microseconds pass. -/
  wait : Nat → σ → σ := fun _ bus => bus

namespace Bus

variable {σ : Type} [Bus σ]

def wakeLowMicros : Nat := 60

def wakeDelayMicros : Nat := 2500

/-- Holds the line low for four bytes, waits, and reads the answer to it. Any intact frame of four bytes
will do: a device that was awake already may answer with another status. -/
def wake : EStateM BusError σ Unit := do
  let written ← write (List.replicate 4 0)
  if written ≤ 1 then throw (.shortWrite written 4)
  modify (wait wakeDelayMicros)
  let response ← read 4
  if response.length < 4 ∨ Crc16.isValid (response.take 4) = false then
    throw (.wakeFailed response)

def sleep : EStateM BusError σ Unit := do
  let _ ← write [0x01]

/-- Puts the device into its idle mode, in which it keeps TempKey. -/
def idle : EStateM BusError σ Unit := do
  let _ ← write [0x02]

end Bus

end SecureElement
