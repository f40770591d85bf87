import SecureElement.Proofs.Device.Retries
/-!
# Commands on their way to the chip

A command whose length fits the count byte arrives as it was meant. The count byte of a longer one wraps around, so
the chip sees that the frame has another length and runs nothing.
-/

namespace SecureElement

namespace Command

theorem encode_injective {a b : Command} (ha : a.data.length ≤ maxCommandData) (hb : b.data.length ≤ maxCommandData)
    (h : a.encode = b.encode) : a = b := by
  have hframe : a.frame = b.frame := List.tail_eq_of_cons_eq h
  have hread := ofFrame_frame a ha
  rw [hframe, ofFrame_frame b hb] at hread
  injection hread with hread
  exact hread.symm

theorem ofFrame_too_long {command : Command} (h : maxCommandData < command.data.length) :
    ofFrame command.frame = .error .commError := by
  have hlength := length_frame command
  have hcount : command.count.toNat ≠ command.frame.length := by
    have hbyte := command.count.toNat_lt
    unfold maxCommandData at h
    omega
  generalize hframe : command.frame = frame at hcount
  rw [frame_eq] at hframe
  subst hframe
  exact if_pos (.inr (.inl hcount))

theorem ofData_eq (command : Command) :
    ofData command.opcode command.param1 command.param2 command.data =
      if command.data.length ≤ maxCommandData then .ok command else .error (.dataTooLong command.data.length) := by
  unfold ofData
  by_cases h : command.data.length ≤ maxCommandData
  · rw [if_neg (Nat.not_lt.2 h), if_pos h]
  · rw [if_pos (Nat.lt_of_not_le h), if_neg h]

end Command

namespace Chip

theorem answer_refused {chip : Chip} {frame : List UInt8} {status : Status} (hfaults : chip.faults = [])
    (h : Command.ofFrame frame = .error status) : chip.answer frame = (Response.encodeStatus status, chip) := by
  rw [answer, hfaults]
  dsimp only
  rw [h]

theorem executed_receive {chip : Chip} {command : Command} (hawake : chip.awake = true) (hfaults : chip.faults = [])
    (hlength : command.data.length ≤ maxCommandData) :
    (chip.receive command.encode).executed = chip.executed.push command.opcode := by
  obtain ⟨_, _, hperforms, _⟩ := command.exists_performs chip
  rw [receive_command hawake hfaults hlength hperforms]

theorem receive_too_long {chip : Chip} {command : Command} (hawake : chip.awake = true) (hfaults : chip.faults = [])
    (hlength : maxCommandData < command.data.length) :
    chip.receive command.encode =
      { chip with frames := chip.frames + 1, pending := some (Response.encodeStatus .commError) } := by
  have hcounted : { chip with frames := chip.frames + 1 }.faults = [] := hfaults
  rw [receive_encode hawake, answer_refused hcounted (Command.ofFrame_too_long hlength)]

end Chip

namespace Command

/-- What arrives is what was meant. A command of at most 248 data bytes is taken apart into itself, no other such
command has its frame, and an undisturbed chip runs it. A longer one, which only a literal command can be, is
answered as a communication error, and nothing of the chip changes but the count of its frames. -/
theorem frames_arrive (command : Command) :
    (command.data.length ≤ 248 →
      ofFrame (command.encode.drop 1) = .ok command ∧
      (∀ other : Command, other.data.length ≤ 248 → other.encode = command.encode → other = command) ∧
      ∀ chip : Chip, chip.awake = true → chip.faults = [] →
        (chip.receive command.encode).executed = chip.executed.push command.opcode) ∧
    (248 < command.data.length → ∀ chip : Chip, chip.awake = true → chip.faults = [] →
      chip.receive command.encode =
        { chip with frames := chip.frames + 1, pending := some (Response.encodeStatus .commError) }) ∧
    ofData command.opcode command.param1 command.param2 command.data =
      if command.data.length ≤ 248 then .ok command else .error (.dataTooLong command.data.length) := by
  refine ⟨fun hlength => ⟨ofFrame_frame command hlength, ?_, ?_⟩, ?_, ofData_eq command⟩
  · exact fun _ hother hencode => encode_injective hother hlength hencode
  · exact fun _ hawake hfaults => Chip.executed_receive hawake hfaults hlength
  · exact fun hlength _ hawake hfaults => Chip.receive_too_long hawake hfaults hlength

/-- The longest command that fits, and the shortest that does not. -/
theorem frames_arrive_limit :
    let fitting : Command := ⟨.write, 0, Bytes.zero 2, List.replicate 248 0⟩
    let long : Command := ⟨.write, 0, Bytes.zero 2, List.replicate 249 0⟩
    let chip : Chip := { awake := true }
    (fitting.data.length = 248 ∧ ofFrame (fitting.encode.drop 1) = .ok fitting ∧
      (chip.receive fitting.encode).executed = #[.write]) ∧
    long.data.length = 249 ∧
      chip.receive long.encode =
        { chip with frames := 1, pending := some (Response.encodeStatus .commError) } := by
  intro fitting long chip
  have hfitting : fitting.data.length = 248 := List.length_replicate
  have hlong : long.data.length = 249 := List.length_replicate
  obtain ⟨hread, _, hrun⟩ := (frames_arrive fitting).1 (Nat.le_of_eq hfitting)
  exact ⟨⟨hfitting, hread, hrun chip rfl rfl⟩, hlong,
    (frames_arrive long).2.1 (by rw [hlong]; decide) chip rfl rfl⟩

end Command

end SecureElement
