import SecureElement.Bus
/-!
# Scripted buses

A bus that answers reads from a prepared queue of frames and keeps every write.
-/

namespace SecureElement

structure Script where
  /-- The frames still to be read. -/
  answers : List (List UInt8) := []
  /-- The writes taken so far, the oldest first. -/
  writes : List (List UInt8) := []
  /-- The most bytes a write reports as taken. -/
  writeLimit : Option Nat := none
  /-- How many reads are still to be refused. -/
  busyReads : Nat := 0
  connected : Bool := true
  deriving DecidableEq, Repr

namespace Script

def queue (script : Script) (frame : List UInt8) : Script :=
  { script with answers := script.answers ++ [frame] }

def write (bytes : List UInt8) : EStateM BusError Script Nat := do
  let script ← get
  if script.connected = false then throw .disconnected
  set { script with writes := script.writes ++ [bytes] }
  match script.writeLimit with
  | some limit => return min bytes.length limit
  | none => return bytes.length

/-- An answer shorter than the read is filled up with the level of an idle line. -/
def read (len : Nat) : EStateM BusError Script (List UInt8) := do
  let script ← get
  if script.connected = false then throw .disconnected
  match script.busyReads with
  | reads + 1 =>
    set { script with busyReads := reads }
    throw (.readFailed "NACK")
  | 0 =>
    match script.answers with
    | [] => throw (.timeout 0)
    | frame :: rest =>
      set { script with answers := rest }
      return padTo len 0xFF frame

instance : Bus Script where
  write := write
  read := read

end Script

end SecureElement
