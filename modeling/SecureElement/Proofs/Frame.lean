import Mathlib
import SecureElement.Chip.Bus
import SecureElement.Device.Exchange
/-!
# Frames on the wire

A command is taken apart into itself, and the answer to it is judged by what the chip meant: a payload of the
expected length is delivered, a success stands for one zero byte, and a refusal is reported as such. What a
disturbed chip sends instead settles nothing.
-/

namespace SecureElement

namespace Bytes

theorem toList_two (bytes : Bytes 2) : bytes.toList = [bytes.byte 0, bytes.byte 1] := by
  apply List.ext_getElem
  · simp
  · intro i hi _
    have hcases : i = 0 ∨ i = 1 := by
      rw [Vector.length_toList] at hi
      omega
    rcases hcases with rfl | rfl <;> simp [byte]

theorem pair_byte (bytes : Bytes 2) : pair (bytes.byte 0) (bytes.byte 1) = bytes := by
  rw [← Vector.toList_inj, toList_pair, ← toList_two]

end Bytes

namespace Command

theorem toNat_count (command : Command) (h : command.data.length ≤ maxCommandData) :
    command.count.toNat = command.data.length + 7 := by
  unfold maxCommandData at h
  simp only [count, UInt8.toNat_ofNat']
  omega

@[simp] theorem length_frame (command : Command) :
    command.frame.length = command.data.length + 7 := by
  simp only [frame, body, Crc16.length_attach, List.length_cons, List.length_append, Vector.length_toList]
  omega

theorem frame_eq (command : Command) :
    command.frame = command.count :: command.opcode.code :: command.param1 :: command.param2.byte 0 ::
      command.param2.byte 1 :: (command.data ++ (Crc16.trailer command.body).toList) := by
  unfold frame
  rw [Crc16.attach]
  nth_rewrite 1 [body]
  rw [Bytes.toList_two]
  rfl

/-- The device sees the command that was sent, if its count byte can announce it. -/
theorem ofFrame_frame (command : Command) (h : command.data.length ≤ maxCommandData) :
    ofFrame command.frame = .ok command := by
  have hvalid : Crc16.isValid command.frame = true := Crc16.isValid_attach _
  have hcount : command.count.toNat = command.frame.length := by
    rw [toNat_count command h, length_frame]
  generalize hframe : command.frame = frame at hvalid hcount ⊢
  rw [frame_eq] at hframe
  subst hframe
  rw [ofFrame, if_neg (by simp [hvalid, hcount]), Opcode.ofCode?_code]
  simp [Bytes.pair_byte]

end Command

namespace Response

@[simp] theorem length_encode (payload : List UInt8) : (encode payload).length = payload.length + 3 := by
  simp [encode]

theorem encode_eq (payload : List UInt8) :
    encode payload = UInt8.ofNat (payload.length + 3) :: (payload ++
      (Crc16.trailer (UInt8.ofNat (payload.length + 3) :: payload)).toList) := by
  unfold encode
  rw [Crc16.attach, List.cons_append]

theorem isValid_encode (payload : List UInt8) : Crc16.isValid (encode payload) = true :=
  Crc16.isValid_attach _

/-- The first byte of a buffer, which announces how long its frame is. -/
def announced (buffer : List UInt8) : Nat :=
  (buffer.headD 0).toNat

theorem frameLength_of_lt {expected : Nat} (h : expected + 3 < UInt64.size) : frameLength expected = expected + 3 :=
  Nat.mod_eq_of_lt h

theorem frameLength_of_le {expected : Nat} (h : expected ≤ 252) : frameLength expected = expected + 3 :=
  frameLength_of_lt (lt_of_le_of_lt (Nat.add_le_add_right h 3) (by decide))

theorem parse_eq {buffer : List UInt8} (expected : Nat) (h : 4 ≤ buffer.length) :
    parse buffer expected =
      if announced buffer = 4 then
        if Crc16.isValid (buffer.take 4) then .ok (.status (.ofByte (buffer.getD 1 0)))
        else .error .invalidCrc
      else if announced buffer ≠ frameLength expected then
        .error (.unexpectedLength (frameLength expected) (announced buffer))
      else if buffer.length < announced buffer then .error (.tooShort (announced buffer) buffer.length)
      else if Crc16.isValid (buffer.take (announced buffer)) then
        .ok (.payload ((buffer.drop 1).take (announced buffer - 3)))
      else .error .invalidCrc := by
  match buffer, h with
  | count :: _ :: _ :: _ :: _, _ =>
    have hstatus : count = 4 ↔ count.toNat = 4 := UInt8.toNat_inj.symm
    unfold parse announced
    simp only [List.headD_cons, hstatus]
    rfl

theorem announced_encode {payload : List UInt8} (rest : List UInt8) (h : payload.length ≤ 252) :
    announced (encode payload ++ rest) = payload.length + 3 := by
  rw [announced, encode_eq, List.cons_append, List.headD_cons, UInt8.toNat_ofNat']
  omega

theorem parse_encodeStatus (status : Status) (rest : List UInt8) (expected : Nat)
    (h : Status.ofByte status.toByte = status) :
    parse (encodeStatus status ++ rest) expected = .ok (.status status) := by
  have hlength : (encodeStatus status).length = 4 := length_encode [status.toByte]
  have hlong : 4 ≤ (encodeStatus status ++ rest).length := by
    rw [List.length_append, hlength]
    exact Nat.le_add_right 4 rest.length
  have hcount : announced (encodeStatus status ++ rest) = 4 := announced_encode rest (Nat.le_add_left 1 251)
  have hframe : (encodeStatus status ++ rest).take 4 = encode [status.toByte] := List.take_left' hlength
  have hsecond : (encodeStatus status ++ rest).getD 1 0 = status.toByte := by
    rw [encodeStatus, encode_eq]
    rfl
  rw [parse_eq expected hlong, if_pos hcount, hframe, isValid_encode, if_pos rfl, hsecond, h]

/-- A frame is read back whatever follows it, if the buffer could hold a status. -/
theorem parse_encode_append {payload rest : List UInt8} (hone : payload.length ≠ 1) (hmax : payload.length ≤ 252)
    (hlong : 4 ≤ (encode payload ++ rest).length) :
    parse (encode payload ++ rest) payload.length = .ok (.payload payload) := by
  have hlength : (encode payload).length = payload.length + 3 := length_encode payload
  have hframe : (encode payload ++ rest).take (payload.length + 3) = encode payload := List.take_left' hlength
  have hpayload : ((encode payload ++ rest).drop 1).take payload.length = payload := by
    rw [encode_eq, List.cons_append, List.drop_one, List.tail_cons, List.append_assoc, List.take_left]
  rw [parse_eq _ hlong, announced_encode rest hmax, frameLength_of_le hmax, if_neg (by omega), if_neg (not_not.2 rfl),
    if_neg (by rw [List.length_append]; omega), hframe, isValid_encode, if_pos rfl, Nat.add_sub_cancel, hpayload]

end Response

def Fault.frame : Fault → List UInt8
  | .awake => Response.awakeFrame
  | .badCrc => [0x04, 0x00, 0xDE, 0xAD]

namespace Verdict

theorem ofBuffer_encodeStatus (status : Status) (expected : Nat)
    (h : Status.ofByte status.toByte = status) :
    ofBuffer expected (padTo (Response.size expected) 0xFF (Response.encodeStatus status)) =
      if status = .success ∧ expected = 1 then .answered [0]
      else if status.isRetryable then .inconclusive true (.status status)
      else .refused status := by
  unfold ofBuffer padTo
  rw [Response.parse_encodeStatus status _ expected h]
  rfl

theorem ofBuffer_encode (payload : List UInt8) (hmin : 2 ≤ payload.length)
    (hmax : payload.length ≤ 252) :
    ofBuffer payload.length (padTo (Response.size payload.length) 0xFF (Response.encode payload)) =
      .answered payload := by
  unfold ofBuffer padTo
  rw [Response.parse_encode_append (by omega) hmax (by rw [List.length_append, Response.length_encode]; omega)]

theorem ofBuffer_fault (fault : Fault) (expected : Nat) :
    ∃ reason, ofBuffer expected (padTo (Response.size expected) 0xFF fault.frame) =
      .inconclusive true reason := by
  cases fault with
  | awake =>
    have hframe : Fault.awake.frame = Response.encodeStatus .awake := by decide +kernel
    rw [hframe, ofBuffer_encodeStatus .awake expected rfl]
    exact ⟨_, rfl⟩
  | badCrc =>
    have hcrc : Crc16.isValid [0x04, 0x00, 0xDE, 0xAD] = false := by decide +kernel
    refine ⟨.frame .invalidCrc, ?_⟩
    simp [ofBuffer, Response.parse, padTo, Fault.frame, hcrc]

end Verdict

end SecureElement
