import SecureElement.Chip.Memory
import SecureElement.Digest.TempKey
/-!
# Chip state

A simulated chip: its memory, its volatile state, the faults that are to come, and a record of what it ran.
-/

namespace SecureElement

structure TempKey where
  value : Block
  /-- Whether the last nonce was passed through by the host, not drawn by the chip. -/
  source : Bool
  deriving DecidableEq

/-- A disturbance of one command, which the chip then does not run. -/
inductive Fault where
  /-- It answers as if it had only just woken up. -/
  | awake
  /-- Its answer is damaged. -/
  | badCrc
  deriving DecidableEq, Repr

structure Chip where
  memory : Memory := .factory
  tempKey : Option TempKey := none
  /-- How many random numbers have been drawn. -/
  draws : UInt64 := 0
  awake : Bool := false
  /-- The answer that has not been read yet. -/
  pending : Option (List UInt8) := none
  /-- The faults of the next commands. -/
  faults : List Fault := []
  /-- How many reads are still to be refused. -/
  stalls : Nat := 0
  /-- The commands run so far, the oldest first. -/
  executed : Array Opcode := #[]
  /-- How many command frames have arrived. -/
  frames : Nat := 0
  deriving DecidableEq

namespace Chip

/-- Changes the OTP mode byte as an earlier write of the Config zone could have. -/
def setOtpMode (chip : Chip) (mode : UInt8) : Chip :=
  { chip with memory := chip.memory.writeConfig 18 [mode] }

/-- Changes the policy of a slot as an earlier write of the Config zone could have. -/
def setSlotConfig (chip : Chip) (slot : Fin 16) (config : SlotConfig) : Chip :=
  { chip with memory := chip.memory.writeConfig (20 + 2 * slot.val) config.encode.toList }

def inject (chip : Chip) (fault : Fault) : Chip :=
  { chip with faults := chip.faults ++ [fault] }

def otpReadOnly (chip : Chip) : Bool :=
  chip.memory.config.byte 18 == 0xAA

end Chip

end SecureElement
