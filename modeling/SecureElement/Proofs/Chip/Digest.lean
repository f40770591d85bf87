import SecureElement.Proofs.Chip.Commands
/-!
# Challenge digests on the chip

The chip lays a MAC message out by hand, and lays it out again for CheckMac from the bytes that the host sends
back. Both layouts are the one of the host.
-/

namespace SecureElement

namespace Bytes

theorem toList_ofUInt16_toUInt16 (value : UInt8) : (ofUInt16 value.toUInt16).toList = [value, 0] := by
  revert value
  decide +kernel

theorem toList_take_slice {n : Nat} (bytes : Bytes n) {len : Nat} (h : len ≤ n) :
    bytes.toList.take len = (bytes.slice 0 len).toList := by
  rw [toList_slice bytes (by omega), List.drop_zero]

end Bytes

namespace Core

/-- What TempKey contributes to a message that asks for it with a source flag; a blank if it is not used. -/
def tempBlock (k : Core) (used source : Bool) : Option Block :=
  if used then (k.tempKey.filter (·.source = source)).map TempKey.value else some (Bytes.zero 32)

theorem tempBlock_used {k : Core} {source : Bool} {temp : Block} (h : k.tempBlock true source = some temp) :
    ∃ key, k.tempKey = some key ∧ key.source = source ∧ key.value = temp := by
  rw [tempBlock, if_pos rfl] at h
  obtain ⟨key, hkey, hvalue⟩ := Option.map_eq_some_iff.1 h
  obtain ⟨hsome, hsource⟩ := Option.filter_eq_some_iff.1 hkey
  exact ⟨key, hsome, by simpa using hsource, hvalue⟩

end Core

namespace Chip

variable {k : Core} {slot : UInt8} {mode : MacMode}

theorem tempKeyFor_apply (used source : Bool) (chip : Chip) :
    tempKeyFor used source chip = match chip.core.tempBlock used source with
      | some temp => .ok temp chip
      | none => .error .executionError chip := by
  have hcore : chip.core.tempKey = chip.tempKey := rfl
  cases used with
  | false => rfl
  | true =>
    unfold tempKeyFor Core.tempBlock
    rw [if_pos rfl, if_pos rfl, bind_apply, get_apply, hcore]
    dsimp only
    cases chip.tempKey with
    | none => rfl
    | some key =>
      dsimp only
      by_cases hsource : key.source = source
      · rw [if_pos hsource, Option.filter_some_pos (by simpa using hsource)]
        rfl
      · rw [if_neg hsource, Option.filter_some_neg (by simpa using hsource)]
        rfl

theorem digestSlot_apply (hslot : slot.toNat < 16) (chip : Chip) :
    digestSlot slot chip =
      if (chip.memory.slotConfig ⟨slot.toNat, hslot⟩).checkOnly then .error .executionError chip
      else .ok ⟨slot.toNat, hslot⟩ chip := by
  unfold digestSlot
  rw [slotOfParam?_eq hslot, bind_apply, orStatus_some]
  dsimp only
  rw [bind_apply, get_apply]
  dsimp only
  split
  · rfl
  · rfl

/-- What the chip lays out by hand is the layout of the host. -/
theorem challengeMessage_eq (opcode : Opcode) (modeByte : UInt8) (first second : Block) (other : OtherData) :
    first.toList ++ second.toList ++ [opcode.code, modeByte, slot, 0x00] ++ other.otp8.toList ++
      other.otp3.toList ++ [0xEE] ++ other.sn4.toList ++ [0x01, 0x23] ++ other.sn23.toList =
      challengeMessage first second opcode modeByte slot.toUInt16 other := by
  have hslot := Bytes.toList_ofUInt16_toUInt16 slot
  simp only [challengeMessage, challengeFields, Message.encode_cons, Message.encode_nil, Message.Field.encode, hslot,
    serialTail, serialHead, List.append_assoc, List.cons_append, List.nil_append, List.append_nil]

/-! ## MAC -/

def macFirst (k : Core) (mode : MacMode) (slot : Fin 16) (temp : Block) : Block :=
  if mode.firstTempKey then temp else k.memory.key slot

theorem performs_mac {challenge : List UInt8} {temp second : Block} (hslot : slot.toNat < 16)
    (hpolicy : (k.memory.slotConfig ⟨slot.toNat, hslot⟩).checkOnly = false)
    (hlength : mode.needsChallenge = decide (challenge.length = 32))
    (htemp : k.tempBlock (mode.firstTempKey || mode.secondTempKey) mode.sourceFlag = some temp)
    (hsecond : second.toList = if mode.secondTempKey then temp.toList else challenge) :
    (Command.mk .mac mode.toByte (Bytes.pair slot 0) challenge).Performs k
      (.ok (sha256 (challengeMessage (macFirst k mode ⟨slot.toNat, hslot⟩ temp) second .mac mode.toByte
        slot.toUInt16 (otherData k.memory mode))).toList) k := by
  intro chip hcore
  subst hcore
  have hparam : (Bytes.pair slot 0).byte 0 = slot := rfl
  have hcheck : (chip.memory.slotConfig ⟨slot.toNat, hslot⟩).checkOnly = false := hpolicy
  have hmatch : ¬ mode.needsChallenge ≠ decide (challenge.length = 32) := not_not.2 hlength
  rw [← challengeMessage_eq, hsecond]
  simp only [Chip.run, hparam, Chip.mac, MacMode.ofByte_toByte, bind_apply, digestSlot_apply hslot, hcheck,
    Bool.false_eq_true, if_false, if_neg hmatch, tempKeyFor_apply, htemp, get_apply]
  rfl

theorem performs_mac_refused {challenge : List UInt8} (hslot : slot.toNat < 16)
    (hlength : mode.needsChallenge = decide (challenge.length = 32))
    (hrefused : (k.memory.slotConfig ⟨slot.toNat, hslot⟩).checkOnly = true ∨
      k.tempBlock (mode.firstTempKey || mode.secondTempKey) mode.sourceFlag = none) :
    (Command.mk .mac mode.toByte (Bytes.pair slot 0) challenge).Performs k (.error .executionError) k := by
  intro chip hcore
  subst hcore
  have hparam : (Bytes.pair slot 0).byte 0 = slot := rfl
  have hmatch : ¬ mode.needsChallenge ≠ decide (challenge.length = 32) := not_not.2 hlength
  cases hcheck : (chip.memory.slotConfig ⟨slot.toNat, hslot⟩).checkOnly with
  | true =>
    simp only [Chip.run, hparam, Chip.mac, MacMode.ofByte_toByte, bind_apply, digestSlot_apply hslot, hcheck,
      if_true]
    rfl
  | false =>
    have hnone := hrefused.resolve_left fun h => Bool.noConfusion (h.symm.trans hcheck)
    simp only [Chip.run, hparam, Chip.mac, MacMode.ofByte_toByte, bind_apply, digestSlot_apply hslot, hcheck,
      Bool.false_eq_true, if_false, if_neg hmatch, tempKeyFor_apply, hnone]
    rfl

/-! ## HMAC -/

theorem performs_hmac (mode : MacMode) {temp : Block} (hslot : slot.toNat < 16)
    (hpolicy : (k.memory.slotConfig ⟨slot.toNat, hslot⟩).checkOnly = false)
    (htemp : k.tempBlock true mode.sourceFlag = some temp) :
    (Command.simple .hmac mode.toByte slot.toUInt16).Performs k
      (.ok (hmacSha256 (k.memory.key ⟨slot.toNat, hslot⟩).toList (challengeMessage (Bytes.zero 32) temp .hmac
        mode.toByte slot.toUInt16 (otherData k.memory mode))).toList) k := by
  intro chip hcore
  subst hcore
  have hcheck : (chip.memory.slotConfig ⟨slot.toNat, hslot⟩).checkOnly = false := hpolicy
  rw [← challengeMessage_eq, Bytes.toList_zero]
  simp only [Chip.run, Command.simple, Bytes.byte_ofUInt16_toUInt16, Chip.hmac, MacMode.ofByte_toByte, bind_apply,
    digestSlot_apply hslot, hcheck, Bool.false_eq_true, if_false, tempKeyFor_apply, htemp, get_apply]
  rfl

theorem performs_hmac_refused (mode : MacMode) (hslot : slot.toNat < 16)
    (hpolicy : (k.memory.slotConfig ⟨slot.toNat, hslot⟩).checkOnly = true) :
    (Command.simple .hmac mode.toByte slot.toUInt16).Performs k (.error .executionError) k := by
  intro chip hcore
  subst hcore
  have hcheck : (chip.memory.slotConfig ⟨slot.toNat, hslot⟩).checkOnly = true := hpolicy
  simp only [Chip.run, Command.simple, Bytes.byte_ofUInt16_toUInt16, Chip.hmac, bind_apply, digestSlot_apply hslot,
    hcheck, if_true]
  rfl

/-! ## CheckMac -/

def checkMessage (k : Core) (mode : CheckMacMode) (slot : Fin 16) (temp : Block) (challenge : List UInt8)
    (other : Bytes 13) : List UInt8 :=
  let first := if mode.firstTempKey then temp else k.memory.key slot
  let second := if mode.secondTempKey then temp.toList else challenge
  let otp8 := if mode.useOtpLow then k.memory.otp.toList.take 8 else List.replicate 8 0
  first.toList ++ second ++ other.toList.take 4 ++ otp8 ++ (other.toList.drop 4).take 3 ++ [0xEE] ++
    (other.toList.drop 7).take 4 ++ [0x01, 0x23] ++ (other.toList.drop 11).take 2

theorem performs_checkMac (mode : CheckMacMode) {challenge : List UInt8} (response : Block) {temp : Block}
    (other : Bytes 13) (hslot : slot.toNat < 16) (hchallenge : challenge.length = 32)
    (htemp : k.tempBlock (mode.firstTempKey || mode.secondTempKey) mode.sourceFlag = some temp) :
    (Command.mk .checkMac mode.toByte (Bytes.pair slot 0)
        (challenge ++ response.toList ++ other.toList)).Performs k
      (if sha256 (checkMessage k mode ⟨slot.toNat, hslot⟩ temp challenge other) = response then .ok []
        else .error .checkMacMiscompare) k := by
  intro chip hcore
  subst hcore
  have hparam : (Bytes.pair slot 0).byte 0 = slot := rfl
  have hlength : ¬ (challenge ++ response.toList ++ other.toList).length ≠ 77 := by
    simp [hchallenge]
  have htake : (challenge ++ response.toList ++ other.toList).take 32 = challenge := by
    rw [List.append_assoc, List.take_left' hchallenge]
  have hmid : ((challenge ++ response.toList ++ other.toList).drop 32).take 32 = response.toList := by
    rw [List.append_assoc, List.drop_left' hchallenge, List.take_left' (by simp)]
  have hdrop : (challenge ++ response.toList ++ other.toList).drop 64 = other.toList :=
    List.drop_left' (by simp [hchallenge])
  have hmode := CheckMacMode.ofByte_toByte mode
  have hfirst : Flag.decode 0x02 mode.toByte = mode.firstTempKey := congrArg CheckMacMode.firstTempKey hmode
  have hsecond : Flag.decode 0x01 mode.toByte = mode.secondTempKey := congrArg CheckMacMode.secondTempKey hmode
  have hsource : Flag.decode 0x04 mode.toByte = mode.sourceFlag := congrArg CheckMacMode.sourceFlag hmode
  have hotp : Flag.decode 0x20 mode.toByte = mode.useOtpLow := congrArg CheckMacMode.useOtpLow hmode
  simp only [Chip.run, hparam, Chip.checkMac, bind_apply, if_neg hlength, slotOfParam?_eq hslot, orStatus_some,
    htake, hmid, hdrop, hfirst, hsecond, hsource, hotp, tempKeyFor_apply, htemp, get_apply]
  by_cases hmatch : sha256 (checkMessage chip.core mode ⟨slot.toNat, hslot⟩ temp challenge other) = response
  · have hlist : ¬ (sha256 (checkMessage chip.core mode ⟨slot.toNat, hslot⟩ temp challenge other)).toList ≠
        response.toList := not_not.2 (congrArg Vector.toList hmatch)
    rw [if_pos hmatch]
    exact (congrFun (if_neg hlist) chip).trans rfl
  · have hlist : (sha256 (checkMessage chip.core mode ⟨slot.toNat, hslot⟩ temp challenge other)).toList ≠
        response.toList := fun h => hmatch (Vector.toList_inj.1 h)
    rw [if_neg hmatch]
    exact (congrFun (if_pos hlist) chip).trans rfl

theorem toList_checkMacData (mode : MacMode) (slot : UInt8) (other : OtherData) :
    (checkMacData mode slot other).toList =
      [0x08, mode.toByte, slot, 0x00] ++ (other.otp3.toList ++ (other.sn4.toList ++ other.sn23.toList)) := by
  let head : Bytes 4 := Bytes.quad Opcode.mac.code mode.toByte slot 0
  have hjoin : (checkMacData mode slot other).toList =
      head.toList ++ other.otp3.toList ++ other.sn4.toList ++ other.sn23.toList := by
    change (head ++ other.otp3 ++ other.sn4 ++ other.sn23).toList = _
    rw [Vector.toList_append, Vector.toList_append, Vector.toList_append]
  rw [hjoin, List.append_assoc, List.append_assoc]
  rfl

/-- The layout that the chip rebuilds from the bytes that the host sends is the one that it digested. -/
theorem checkMessage_ofMac (k : Core) (mode : MacMode) (slot : UInt8) (hslot : slot.toNat < 16)
    {temp second : Block} {challenge : List UInt8}
    (hsecond : second.toList = if mode.secondTempKey then temp.toList else challenge) :
    checkMessage k (.ofMac mode) ⟨slot.toNat, hslot⟩ temp challenge
        (checkMacData mode slot (otherData k.memory mode)) =
      challengeMessage (macFirst k mode ⟨slot.toNat, hslot⟩ temp) second .mac mode.toByte slot.toUInt16
        (otherData k.memory mode) := by
  have hotp : (if mode.useOtpLow then k.memory.otp.toList.take 8 else List.replicate 8 0) =
      (otherData k.memory mode).otp8.toList := by
    cases h : mode.useOtpLow with
    | true => simp [otherData, h, Bytes.toList_take_slice]
    | false => simp [otherData, h]
  generalize hother : otherData k.memory mode = other at hotp
  have hdata := toList_checkMacData mode slot other
  have hhead : (checkMacData mode slot other).toList.take 4 = [0x08, mode.toByte, slot, 0x00] := by
    rw [hdata, List.take_left' (by rfl)]
  have hotp3 : ((checkMacData mode slot other).toList.drop 4).take 3 = other.otp3.toList := by
    rw [hdata, List.drop_left' (by rfl), List.take_left' (by simp)]
  have hsn4 : ((checkMacData mode slot other).toList.drop 7).take 4 = other.sn4.toList := by
    rw [hdata, ← List.append_assoc, List.drop_left' (by simp), List.take_left' (by simp)]
  have hsn23 : ((checkMacData mode slot other).toList.drop 11).take 2 = other.sn23.toList := by
    rw [hdata, ← List.append_assoc, ← List.append_assoc, List.drop_left' (by simp),
      List.take_of_length_le (by simp)]
  rw [← challengeMessage_eq, hsecond, checkMessage, hhead, hotp3, hsn4, hsn23]
  change (macFirst k mode ⟨slot.toNat, hslot⟩ temp).toList ++ (if mode.secondTempKey then temp.toList
    else challenge) ++ _ ++ (if mode.useOtpLow then k.memory.otp.toList.take 8 else List.replicate 8 0) ++
    _ ++ _ ++ _ ++ _ ++ _ = _
  rw [hotp]
  rfl

end Chip

end SecureElement
