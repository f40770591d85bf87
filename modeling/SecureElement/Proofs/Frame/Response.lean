import SecureElement.Proofs.Frame
/-!
# Reading a response

A buffer is read as a payload or as a status exactly if it starts with the frame that is written for it. Every
other buffer is refused for the first of four reasons, and no access ever leaves the buffer.
-/

namespace SecureElement

namespace Response

theorem parse_short {buffer : List UInt8} (expected : Nat) (h : buffer.length < 4) :
    parse buffer expected = .error (.tooShort 4 buffer.length) := by
  match buffer, h with
  | [], _ => rfl
  | [_], _ => rfl
  | [_, _], _ => rfl
  | [_, _, _], _ => rfl

/-! ## What is accepted -/

theorem parse_eq_ok {buffer : List UInt8} {expected : Nat} {response : Response}
    (h : parse buffer expected = .ok response) :
    4 ≤ buffer.length ∧
      (announced buffer = 4 ∧ Crc16.isValid (buffer.take 4) = true ∧
          response = .status (.ofByte (buffer.getD 1 0)) ∨
        announced buffer ≠ 4 ∧ announced buffer = frameLength expected ∧ announced buffer ≤ buffer.length ∧
          Crc16.isValid (buffer.take (announced buffer)) = true ∧
          response = .payload ((buffer.drop 1).take (announced buffer - 3))) := by
  by_cases hlong : 4 ≤ buffer.length
  · refine ⟨hlong, ?_⟩
    rw [parse_eq expected hlong] at h
    split_ifs at h with hstatus hvalid hcount hfits hvalid
    · injection h with h
      exact .inl ⟨hstatus, hvalid, h.symm⟩
    · injection h with h
      exact .inr ⟨hstatus, not_not.1 hcount, Nat.not_lt.1 hfits, hvalid, h.symm⟩
  · rw [parse_short expected (by omega)] at h
    cases h

/-- A checked frame has room for more than its checksum: two bytes that begin with their own number are not the
checksum of nothing. -/
theorem exists_announced_eq {buffer : List UInt8} (hfits : announced buffer ≤ buffer.length)
    (hvalid : Crc16.isValid (buffer.take (announced buffer)) = true) : ∃ length, announced buffer = length + 3 := by
  obtain ⟨body, hframe⟩ := Crc16.isValid_iff.1 hvalid
  have hlength := congrArg List.length hframe
  rw [List.length_take_of_le hfits, Crc16.length_attach] at hlength
  cases body with
  | nil =>
    have hcount : announced (buffer.take (announced buffer)) = 0 := by
      rw [hframe]
      decide
    rw [hlength] at hcount
    cases buffer with
    | nil => cases hlength
    | cons count rest => exact absurd (hcount.symm.trans hlength) (by decide)
  | cons _ body => exact ⟨body.length, hlength⟩

theorem encode_prefix_of_isValid {buffer : List UInt8} {length : Nat} (hcount : announced buffer = length + 3)
    (hfits : length + 3 ≤ buffer.length) (hvalid : Crc16.isValid (buffer.take (length + 3)) = true) :
    encode ((buffer.drop 1).take length) <+: buffer := by
  obtain ⟨body, hframe⟩ := Crc16.isValid_iff.1 hvalid
  have hlength : body.length = length + 1 := by
    have hlength := congrArg List.length hframe
    rw [List.length_take_of_le hfits, Crc16.length_attach] at hlength
    omega
  have hbody : buffer.take (length + 1) = body := by
    have htake := congrArg (List.take (length + 1)) hframe
    rwa [List.take_take, min_eq_left (by omega), Crc16.attach, List.take_left' hlength] at htake
  have hhead : UInt8.ofNat (((buffer.drop 1).take length).length + 3) :: (buffer.drop 1).take length =
      buffer.take (length + 1) := by
    rw [List.length_take_of_le (by rw [List.length_drop]; omega), ← hcount]
    cases buffer with
    | nil => simp at hfits
    | cons count rest =>
      rw [List.take_succ_cons, List.drop_one, List.tail_cons]
      exact congrArg (· :: rest.take length) UInt8.ofNat_toNat
  rw [encode, hhead, hbody, ← hframe]
  exact List.take_prefix _ _

/-- A payload is read from a buffer that starts with its frame, and its length is the one that was expected as far as
a machine word can tell. -/
theorem frame_of_parse_eq_payload {buffer payload : List UInt8} {expected : Nat}
    (h : parse buffer expected = .ok (.payload payload)) :
    expected ≠ 1 ∧ payload.length ≤ 252 ∧ frameLength expected = payload.length + 3 ∧
      max 4 (payload.length + 3) ≤ buffer.length ∧ encode payload <+: buffer := by
  obtain ⟨hlong, ⟨_, _, hresponse⟩ | ⟨hstatus, hcount, hfits, hvalid, hresponse⟩⟩ := parse_eq_ok h
  · cases hresponse
  · obtain ⟨length, hlength⟩ := exists_announced_eq hfits hvalid
    have hbyte : announced buffer < 256 := (buffer.headD 0).toNat_lt
    rw [hlength] at hstatus hcount hfits hvalid hbyte hresponse
    injection hresponse with hpayload
    rw [Nat.add_sub_cancel] at hpayload
    have hprefix := encode_prefix_of_isValid hlength hfits hvalid
    have hcarried : payload.length = length := by
      rw [hpayload, List.length_take, List.length_drop]
      omega
    rw [← hpayload] at hprefix
    refine ⟨?_, by omega, by rw [hcarried, hcount], by omega, hprefix⟩
    rintro rfl
    exact hstatus hcount

theorem parse_eq_payload_iff {buffer payload : List UInt8} {expected : Nat} (h : expected < UInt64.size) :
    parse buffer expected = .ok (.payload payload) ↔
      expected ≠ 1 ∧ expected ≤ 252 ∧ payload.length = expected ∧ max 4 (expected + 3) ≤ buffer.length ∧
        encode payload <+: buffer := by
  constructor
  · intro hparse
    obtain ⟨hone, hmax, hlength, hlong, hprefix⟩ := frame_of_parse_eq_payload hparse
    -- a sum that wraps around is shorter than any frame
    have hexact : payload.length = expected := by
      unfold frameLength UInt64.size at hlength
      unfold UInt64.size at h
      omega
    rw [hexact] at hmax hlong
    exact ⟨hone, hmax, hexact, hlong, hprefix⟩
  · rintro ⟨hone, hmax, rfl, hlong, rest, rfl⟩
    exact parse_encode_append hone hmax (le_trans (le_max_left _ _) hlong)

theorem parse_eq_status_iff {buffer : List UInt8} {expected : Nat} {status : Status} :
    parse buffer expected = .ok (.status status) ↔
      4 ≤ buffer.length ∧ (buffer[1]?).map Status.ofByte = some status ∧ encodeStatus status <+: buffer := by
  constructor
  · intro h
    obtain ⟨hlong, ⟨hcount, hvalid, hresponse⟩ | ⟨_, _, _, _, hresponse⟩⟩ := parse_eq_ok h
    · injection hresponse with hstatus
      have hprefix : encode ((buffer.drop 1).take 1) <+: buffer := encode_prefix_of_isValid hcount hlong hvalid
      match buffer, hlong with
      | count :: second :: rest, hlong =>
        have hbyte : status.toByte = second := by
          rw [hstatus]
          exact Status.toByte_ofByte second
        refine ⟨hlong, by rw [hstatus]; rfl, ?_⟩
        rw [encodeStatus, hbyte]
        exact hprefix
    · cases hresponse
  · rintro ⟨hlong, hsecond, rest, rfl⟩
    refine parse_encodeStatus status rest expected ?_
    have hbyte : (encodeStatus status ++ rest)[1]? = some status.toByte := by
      rw [encodeStatus, encode_eq]
      rfl
    rw [hbyte] at hsecond
    exact Option.some.inj hsecond

/-! ## What is refused -/

def rejection (buffer : List UInt8) (expected : Nat) : FrameError :=
  if buffer.length < 4 then .tooShort 4 buffer.length
  else if announced buffer ≠ 4 ∧ announced buffer ≠ expected + 3 then
    .unexpectedLength (expected + 3) (announced buffer)
  else if buffer.length < announced buffer then .tooShort (announced buffer) buffer.length
  else .invalidCrc

theorem parse_eq_ok_or_rejection (buffer : List UInt8) {expected : Nat} (h : expected + 3 < UInt64.size) :
    (∃ response, parse buffer expected = .ok response) ∨
      parse buffer expected = .error (rejection buffer expected) := by
  unfold rejection
  by_cases hlong : 4 ≤ buffer.length
  · rw [parse_eq expected hlong, frameLength_of_lt h, if_neg (Nat.not_lt.2 hlong)]
    by_cases hstatus : announced buffer = 4
    · have hcount : ¬ (announced buffer ≠ 4 ∧ announced buffer ≠ expected + 3) := fun h => h.1 hstatus
      have hfits : ¬ buffer.length < announced buffer := by omega
      rw [if_pos hstatus, if_neg hcount, if_neg hfits]
      split
      · exact .inl ⟨_, rfl⟩
      · exact .inr rfl
    · rw [if_neg hstatus]
      by_cases hcount : announced buffer = expected + 3
      · have hcount' : ¬ (announced buffer ≠ 4 ∧ announced buffer ≠ expected + 3) := fun h => h.2 hcount
        rw [if_neg (not_not.2 hcount), if_neg hcount']
        by_cases hfits : buffer.length < announced buffer
        · rw [if_pos hfits, if_pos hfits]
          exact .inr rfl
        · rw [if_neg hfits, if_neg hfits]
          split
          · exact .inl ⟨_, rfl⟩
          · exact .inr rfl
      · rw [if_pos hcount, if_pos ⟨hstatus, hcount⟩]
        exact .inr rfl
  · have hshort : buffer.length < 4 := Nat.lt_of_not_le hlong
    rw [parse_short expected hshort, if_pos hshort]
    exact .inr rfl

theorem parse_append_congr {frame rest rest' : List UInt8} (expected : Nat) (hne : frame ≠ [])
    (hframe : announced frame ≤ frame.length) (hlong : 4 ≤ (frame ++ rest).length)
    (hlong' : 4 ≤ (frame ++ rest').length) :
    parse (frame ++ rest) expected = parse (frame ++ rest') expected := by
  have hhead (rest : List UInt8) : announced (frame ++ rest) = announced frame := by
    obtain ⟨count, frame, rfl⟩ := List.exists_cons_of_ne_nil hne
    rfl
  have htake (rest : List UInt8) : (frame ++ rest).take (announced frame) = frame.take (announced frame) :=
    List.take_append_of_le_length hframe
  have hfits (rest : List UInt8) : ¬ (frame ++ rest).length < announced frame := by
    rw [List.length_append]
    omega
  rw [parse_eq expected hlong, parse_eq expected hlong', hhead, hhead, htake, htake, if_neg (hfits rest),
    if_neg (hfits rest')]
  by_cases hstatus : announced frame = 4
  · have hsecond (rest : List UInt8) : (frame ++ rest).getD 1 0 = frame.getD 1 0 :=
      List.getD_append frame rest 0 1 (by omega)
    rw [hstatus] at htake
    rw [if_pos hstatus, if_pos hstatus, htake, htake, hsecond, hsecond]
  · rw [if_neg hstatus, if_neg hstatus]
    have hcarried (rest : List UInt8) : ((frame ++ rest).drop 1).take (announced frame - 3) =
        (frame.drop 1).take (announced frame - 3) := by
      rw [List.drop_append_of_le_length (List.length_pos_iff.2 hne),
        List.take_append_of_le_length (by rw [List.length_drop]; omega)]
    rw [hcarried, hcarried]

/-! ## Accesses to the buffer -/

def range? (buffer : List UInt8) (start stop : Nat) : Option (List UInt8) :=
  if start ≤ stop ∧ stop ≤ buffer.length then some ((buffer.take stop).drop start) else none

def isValidGuarded (frame : List UInt8) : Option Bool :=
  if frame.length < 2 then some false
  else do
    let body ← range? frame 0 (frame.length - 2)
    let crc ← range? frame (frame.length - 2) frame.length
    return (Crc16.trailer body).toList == [← crc[0]?, ← crc[1]?]

/-- The reading of a buffer, where nothing comes of an access out of range. -/
def parseGuarded (buffer : List UInt8) (expected : Nat) : Option (Except FrameError Response) :=
  if buffer.length < 4 then some (.error (.tooShort 4 buffer.length))
  else do
    let count ← (buffer[0]?).map UInt8.toNat
    if count = 4 then
      let frame ← range? buffer 0 4
      if ← isValidGuarded frame then return .ok (.status (.ofByte (← frame[1]?)))
      else return .error .invalidCrc
    else if count ≠ frameLength expected then return .error (.unexpectedLength (frameLength expected) count)
    else if buffer.length < count then return .error (.tooShort count buffer.length)
    else
      let frame ← range? buffer 0 count
      if ← isValidGuarded frame then return .ok (.payload (← range? frame 1 (count - 2)))
      else return .error .invalidCrc

theorem range?_eq {buffer : List UInt8} {start stop : Nat} (hstart : start ≤ stop) (hstop : stop ≤ buffer.length) :
    range? buffer start stop = some ((buffer.take stop).drop start) :=
  if_pos ⟨hstart, hstop⟩

theorem isValidGuarded_eq (frame : List UInt8) : isValidGuarded frame = some (Crc16.isValid frame) := by
  unfold isValidGuarded Crc16.isValid
  split
  · next hshort => simp [Nat.not_le.2 hshort]
  · next hlong =>
    have htwo : (frame.drop (frame.length - 2)).length = 2 := by
      rw [List.length_drop]
      omega
    obtain ⟨low, high, hcrc⟩ := List.length_eq_two.1 htwo
    rw [range?_eq (Nat.zero_le _) (Nat.sub_le _ _), range?_eq (Nat.sub_le _ _) le_rfl, List.take_length,
      List.drop_zero, hcrc, decide_eq_true (Nat.not_lt.1 hlong), Bool.true_and]
    rfl

/-- Every access is in range. -/
theorem parseGuarded_eq (buffer : List UInt8) (expected : Nat) :
    parseGuarded buffer expected = some (parse buffer expected) := by
  unfold parseGuarded
  split
  · next hshort => rw [parse_short expected hshort]
  next hlong =>
  rw [Nat.not_lt] at hlong
  have hfirst : (buffer[0]?).map UInt8.toNat = some (announced buffer) := by
    cases buffer with
    | nil => cases hlong
    | cons count rest => rfl
  have hsecond : (buffer.take 4)[1]? = some (buffer.getD 1 0) := by
    rw [List.getElem?_take_of_lt (by decide), List.getD_eq_getElem?_getD, List.getElem?_eq_getElem (by omega)]
    rfl
  have hframe {stop : Nat} (hstop : stop ≤ buffer.length) : range? buffer 0 stop = some (buffer.take stop) :=
    range?_eq (Nat.zero_le _) hstop
  rw [parse_eq expected hlong, hfirst]
  simp only [Option.bind_eq_bind, Option.bind_some]
  by_cases hstatus : announced buffer = 4
  · rw [if_pos hstatus, if_pos hstatus, hframe hlong]
    simp only [Option.bind_some, isValidGuarded_eq, hsecond]
    split <;> rfl
  rw [if_neg hstatus, if_neg hstatus]
  by_cases hcount : announced buffer = frameLength expected
  · rw [if_neg (not_not.2 hcount), if_neg (not_not.2 hcount)]
    by_cases hfits : buffer.length < announced buffer
    · rw [if_pos hfits, if_pos hfits]
      rfl
    rw [if_neg hfits, if_neg hfits, hframe (Nat.not_lt.1 hfits)]
    simp only [Option.bind_some, isValidGuarded_eq]
    split
    · next hvalid =>
      obtain ⟨length, hlength⟩ := exists_announced_eq (Nat.not_lt.1 hfits) hvalid
      have hcarried : range? (buffer.take (announced buffer)) 1 (announced buffer - 2) =
          some ((buffer.drop 1).take (announced buffer - 3)) := by
        rw [range?_eq (by omega) (by rw [List.length_take_of_le (by omega)]; omega), List.take_take,
          min_eq_left (by omega), hlength, List.drop_take]
        rfl
      rw [hcarried]
      rfl
    · rfl
  · rw [if_pos hcount, if_pos hcount]
    rfl

/-! ## The format -/

/-- Reading accepts exactly the format. A buffer is read as a payload of the expected length or as a status if and
only if it starts with the frame that is written for it; what follows the frame plays no part; every other buffer is
refused, for the first reason that applies; and no access leaves the buffer. So every payload that fits a frame and
cannot be taken for a status is read back, filled up as the bus fills it up. -/
theorem parse_exact (buffer : List UInt8) (expected : Nat) (h : expected + 3 < UInt64.size) :
    (∀ payload, parse buffer expected = .ok (.payload payload) ↔
      expected ≠ 1 ∧ expected ≤ 252 ∧ payload.length = expected ∧ max 4 (expected + 3) ≤ buffer.length ∧
        encode payload <+: buffer) ∧
    (∀ status, parse buffer expected = .ok (.status status) ↔
      4 ≤ buffer.length ∧ (buffer[1]?).map Status.ofByte = some status ∧ encodeStatus status <+: buffer) ∧
    ((∃ response, parse buffer expected = .ok response) ∨
      parse buffer expected = .error (rejection buffer expected)) ∧
    (∀ frame rest rest', buffer = frame ++ rest → frame ≠ [] → announced frame ≤ frame.length →
      4 ≤ buffer.length → 4 ≤ (frame ++ rest').length →
      parse (frame ++ rest') expected = parse buffer expected) ∧
    parseGuarded buffer expected = some (parse buffer expected) ∧
    ∀ payload padding, payload.length = 0 ∨ 2 ≤ payload.length ∧ payload.length ≤ 252 →
      (encode payload ++ padding).length = size payload.length →
      parse (encode payload ++ padding) payload.length = .ok (.payload payload) := by
  refine ⟨fun _ => parse_eq_payload_iff (by omega), fun _ => parse_eq_status_iff, parse_eq_ok_or_rejection buffer h, ?_,
    parseGuarded_eq buffer expected, ?_⟩
  · rintro frame rest rest' rfl hne hframe hlong hlong'
    exact parse_append_congr expected hne hframe hlong' hlong
  · intro payload padding hpayload hsize
    have hlong : 4 ≤ (encode payload ++ padding).length := by
      rw [hsize]
      exact le_max_right _ _
    exact parse_encode_append (by omega) (by omega) hlong

/-- The frame of the empty payload is shorter than a status, and is read back once it is filled up. -/
theorem parse_exact_empty :
    let buffer := encode [] ++ [0xFF]
    0 + 3 < UInt64.size ∧ buffer.length = size 0 ∧ parse buffer 0 = .ok (.payload []) ∧
      parseGuarded buffer 0 = some (.ok (.payload [])) := by
  intro buffer
  have hsize : buffer.length = size 0 := rfl
  have hlength : 0 + 3 < UInt64.size := by decide
  obtain ⟨_, _, _, _, hguarded, hfilled⟩ := parse_exact buffer 0 hlength
  have hread := hfilled [] [0xFF] (.inl rfl) hsize
  exact ⟨hlength, hsize, hread, hguarded.trans (congrArg some hread)⟩

/-- The count byte of a payload of 253 bytes wraps around, so its frame is not read back; and the length of the frame
around as many bytes as a machine word can count wraps around, so a buffer that announces two bytes is not refused for
its length. -/
theorem parse_encode_wrapped :
    let payload : List UInt8 := List.replicate 253 0
    let buffer := encode payload
    ((253 ≠ 1 ∧ payload.length = 253 ∧ max 4 (253 + 3) ≤ buffer.length ∧ encode payload <+: buffer) ∧
      parse buffer 253 = .error (.unexpectedLength 256 0)) ∧
    (announced [2, 0, 0, 0] ≠ 4 ∧ announced [2, 0, 0, 0] ≠ UInt64.size - 1 + 3 ∧
      parse [2, 0, 0, 0] (UInt64.size - 1) = .error .invalidCrc) := by
  intro payload buffer
  have hpayload : payload.length = 253 := List.length_replicate
  have hlength : buffer.length = 256 := by
    rw [length_encode, hpayload]
  have hcount : announced buffer = 0 := by
    have hframe := encode_eq payload
    rw [hpayload] at hframe
    exact congrArg announced hframe
  refine ⟨⟨⟨by decide, hpayload, by rw [hlength]; decide, List.prefix_refl _⟩, ?_⟩, by decide, by decide, rfl⟩
  rw [parse_eq 253 (by rw [hlength]; decide), hcount]
  rfl

end Response

end SecureElement
