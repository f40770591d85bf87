import SecureElement.Bus
import SecureElement.Chip.Execute
/-!
# The chip on the bus

The first byte of a write is a word address: it wakes the chip, puts it to sleep, makes it idle, or brings it a
command. One answer at a time waits to be read, and any write drops it.
-/

namespace SecureElement.Chip

/-- What a frame is answered with and what it leaves behind. A fault that is due comes first. -/
def answer (chip : Chip) (frame : List UInt8) : List UInt8 × Chip :=
  match chip.faults with
  | .awake :: faults => (Response.awakeFrame, { chip with faults })
  | .badCrc :: faults => ([0x04, 0x00, 0xDE, 0xAD], { chip with faults })
  | [] =>
    match Command.ofFrame frame with
    | .error status => (Response.encodeStatus status, chip)
    | .ok command =>
      match run command { chip with executed := chip.executed.push command.opcode } with
      | .ok [] chip => (Response.encodeStatus .success, chip)
      | .ok payload chip => (Response.encode payload, chip)
      | .error status chip => (Response.encodeStatus status, chip)

def receive (chip : Chip) (bytes : List UInt8) : Chip :=
  match bytes with
  | [] => { chip with pending := none }
  | address :: rest =>
    if address = 0x00 ∧ rest.all (· == 0) then
      { chip with awake := true, pending := some Response.awakeFrame }
    else if address = 0x01 then
      { chip with awake := false, tempKey := none, pending := none }
    else if address = 0x02 then
      { chip with awake := false, pending := none }
    else if address = 0x03 ∧ chip.awake then
      let (reply, chip) := { chip with frames := chip.frames + 1 }.answer rest
      { chip with pending := some reply }
    else { chip with pending := none }

/-- Takes the waiting answer, filled up with the level of an idle line. -/
def send (len : Nat) : EStateM BusError Chip (List UInt8) := do
  let chip ← get
  match chip.stalls with
  | stalls + 1 =>
    set { chip with stalls }
    throw (.readFailed "Remote I/O error (os error 121)")
  | 0 =>
    match chip.pending with
    | none => throw (.timeout 0)
    | some frame =>
      set { chip with pending := none }
      return padTo len 0xFF frame

instance : Bus Chip where
  write bytes := fun chip => .ok bytes.length (chip.receive bytes)
  read := send

end SecureElement.Chip
