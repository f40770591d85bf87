import SecureElement.Proofs.Frame
/-!
# What commands act on

A command reads and changes the memory of the chip, TempKey and the count of drawn random numbers, and nothing
else. `Performs command k answer k'` says what it makes of them.
-/

namespace SecureElement

/-- The part of a chip that commands act on. -/
@[ext]
structure Core where
  memory : Memory
  tempKey : Option TempKey
  draws : UInt64

namespace Chip

def core (chip : Chip) : Core :=
  ⟨chip.memory, chip.tempKey, chip.draws⟩

def withCore (chip : Chip) (core : Core) : Chip :=
  { chip with memory := core.memory, tempKey := core.tempKey, draws := core.draws }

@[simp] theorem core_withCore (chip : Chip) (k : Core) : (chip.withCore k).core = k := rfl

@[simp] theorem withCore_core (chip : Chip) : chip.withCore chip.core = chip := rfl

def reply : Except Status (List UInt8) → List UInt8
  | .ok [] => Response.encodeStatus .success
  | .ok payload => Response.encode payload
  | .error status => Response.encodeStatus status

end Chip

/-- On every chip with core `k`, the command ends with `answer` and leaves core `k'`. -/
def Command.Performs (command : Command) (k : Core) (answer : Except Status (List UInt8))
    (k' : Core) : Prop :=
  ∀ chip : Chip, chip.core = k →
    Chip.run command chip = match answer with
      | .ok payload => .ok payload (chip.withCore k')
      | .error status => .error status (chip.withCore k')

namespace Chip

theorem answer_frame (chip : Chip) {command : Command} {answer : Except Status (List UInt8)} {k' : Core}
    (hfaults : chip.faults = []) (hlength : command.data.length ≤ maxCommandData)
    (hperforms : command.Performs chip.core answer k') :
    chip.answer command.frame =
      (reply answer, { chip.withCore k' with executed := chip.executed.push command.opcode }) := by
  have hrun := hperforms { chip with executed := chip.executed.push command.opcode } rfl
  unfold Chip.answer
  split
  · simp_all
  · simp_all
  · rw [Command.ofFrame_frame command hlength]
    dsimp only
    rw [hrun]
    match answer with
    | .ok [] => rfl
    | .ok (_ :: _) => rfl
    | .error _ => rfl

theorem answer_fault (chip : Chip) {fault : Fault} {faults : List Fault}
    (hfaults : chip.faults = fault :: faults) (frame : List UInt8) :
    chip.answer frame = (fault.frame, { chip with faults }) := by
  cases fault <;> simp [Chip.answer, hfaults, Fault.frame]

theorem receive_encode {chip : Chip} (hawake : chip.awake = true) (command : Command) :
    chip.receive command.encode =
      let (reply, chip) := { chip with frames := chip.frames + 1 }.answer command.frame
      { chip with pending := some reply } := by
  simp [Command.encode, receive, hawake]

theorem receive_fault {chip : Chip} {fault : Fault} {faults : List Fault} (hawake : chip.awake = true)
    (hfaults : chip.faults = fault :: faults) (command : Command) :
    chip.receive command.encode =
      { chip with faults, frames := chip.frames + 1, pending := some fault.frame } := by
  rw [receive_encode hawake, answer_fault { chip with frames := chip.frames + 1 } hfaults]

theorem receive_command {chip : Chip} {command : Command} {answer : Except Status (List UInt8)}
    {k' : Core} (hawake : chip.awake = true) (hfaults : chip.faults = [])
    (hlength : command.data.length ≤ maxCommandData)
    (hperforms : command.Performs chip.core answer k') :
    chip.receive command.encode = { chip.withCore k' with
      executed := chip.executed.push command.opcode
      frames := chip.frames + 1
      pending := some (reply answer) } := by
  rw [receive_encode hawake,
    answer_frame { chip with frames := chip.frames + 1 } hfaults hlength hperforms]
  rfl

theorem receive_asleep {chip : Chip} (hasleep : chip.awake = false) (command : Command) :
    chip.receive command.encode = { chip with pending := none } := by
  simp [Command.encode, receive, hasleep]

end Chip

end SecureElement
