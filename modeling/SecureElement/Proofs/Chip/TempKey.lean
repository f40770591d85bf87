import SecureElement.Proofs.Chip.Digest
/-!
# TempKey and encrypted writes on the chip

The chip makes a session key out of a random number, the OTP zone and the contents of a slot. An encrypted write
is accepted if it is authenticated under that key, and uses it up either way.
-/

namespace SecureElement

namespace Bytes

theorem ofUInt16_toUInt16 (value : UInt8) : ofUInt16 value.toUInt16 = pair value 0 := by
  apply Vector.toList_inj.1
  rw [toList_ofUInt16_toUInt16, toList_pair]

theorem xor_xor_cancel {n : Nat} (plain key : Bytes n) : xor (xor plain key) key = plain := by
  apply Vector.ext
  intro i hi
  unfold xor
  rw [Vector.getElem_zipWith, Vector.getElem_zipWith, UInt8.xor_assoc, UInt8.xor_self,
    UInt8.xor_zero]

end Bytes

/-! ## Session keys -/

/-- TempKey after a Nonce that answered `random` to the first bytes of the OTP zone. -/
def nonceKey (random : Block) (otp : Bytes 64) : Block :=
  sha256 (random.toList ++ otp.toList.take nonceInputSize ++ [0x16, 0x00, 0x00])

/-- TempKey after a GenDig over a slot that holds `key`, which follows such a Nonce. -/
def sessionKey (random : Block) (otp : Bytes 64) (slot : UInt8) (key : Block) : Block :=
  sha256 (sessionMessage key Opcode.genDig.code Zone.data.bits (Bytes.pair slot 0) (nonceKey random otp))

def writeMessage (tempKey : Block) (slot : UInt8) (data : Block) : List UInt8 :=
  sessionMessage tempKey Opcode.write.code Zone.data.blockParam (Bytes.pair (slot <<< 3) 0) data

theorem writeMessage_tempKey {a b plain plain' : Block} {slot : UInt8}
    (h : writeMessage a slot plain = writeMessage b slot plain') : a = b := by
  have htake (key data : Block) : (writeMessage key slot data).take 32 = key.toList := by
    unfold writeMessage sessionMessage sessionFields
    rw [Message.encode_cons]
    exact List.take_left' Vector.length_toList
  apply Vector.toList_inj.1
  rw [← htake a plain, ← htake b plain', h]

namespace Core

def withTempKey (k : Core) (value : Option Block) : Core :=
  { k with tempKey := value.map fun value => ⟨value, false⟩ }

@[simp] theorem withTempKey_memory (k : Core) (value : Option Block) :
    (k.withTempKey value).memory = k.memory := rfl

/-- The core once the host has passed a value through to TempKey. -/
def passed (k : Core) (value : Block) : Core :=
  { k with tempKey := some ⟨value, true⟩ }

@[simp] theorem passed_memory (k : Core) (value : Block) : (k.passed value).memory = k.memory := rfl

end Core

namespace Chip

variable {k : Core} {slot : UInt8}

theorem loadTempKey_apply (value : Block) (source : Bool) (chip : Chip) :
    loadTempKey value source chip = .ok () { chip with tempKey := some ⟨value, source⟩ } := rfl

theorem performs_nonce {input : List UInt8} (hlength : input.length = nonceInputSize) :
    (Command.mk .nonce 0x00 (Bytes.pair 0 0) input).Performs k (.ok k.nextRandom.toList)
      (k.draw.withTempKey (some (sha256 (k.nextRandom.toList ++ input ++ [0x16, 0x00, 0x00])))) := by
  intro chip hcore
  subst hcore
  have hthrough : ¬ (0x00 : UInt8) = 0x03 := by
    decide
  have hmode : ((0x00 : UInt8) = 0x00 ∨ (0x00 : UInt8) = 0x01) ∧ input.length = nonceInputSize :=
    ⟨.inl rfl, hlength⟩
  change Chip.nonce 0x00 input chip = _
  unfold Chip.nonce
  rw [if_neg hthrough, if_pos hmode, bind_apply, drawRandom_apply]
  rfl

theorem performs_nonce_passed (value : Block) :
    (Command.mk .nonce 0x03 (Bytes.pair 0 0) value.toList).Performs k (.ok []) (k.passed value) := by
  intro chip hcore
  subst hcore
  change Chip.nonce 0x03 value.toList chip = _
  unfold Chip.nonce
  rw [if_pos rfl, bind_apply, Bytes.ofList?_toList, orStatus_some]
  rfl

theorem performs_genDig {temp : Block} (hslot : slot.toNat < 16) (hconfig : k.memory.configLocked = true)
    (htemp : k.tempKey = some ⟨temp, false⟩) :
    (Command.simple .genDig Zone.data.bits slot.toUInt16).Performs k (.ok [])
      (k.withTempKey (some (sha256 (sessionMessage (k.memory.key ⟨slot.toNat, hslot⟩) Opcode.genDig.code
        Zone.data.bits (Bytes.pair slot 0) temp)))) := by
  intro chip hcore
  subst hcore
  have hallowed : ¬ (Zone.data.bits ≠ 0x02 ∨ chip.memory.configLocked = false) := by
    have hclosed : chip.memory.configLocked = true := hconfig
    simp [hclosed, Zone.bits]
  have hkey : chip.tempKey = some ⟨temp, false⟩ := htemp
  simp only [Chip.run, Command.simple, Bytes.byte_ofUInt16_toUInt16, Chip.genDig, bind_apply, get_apply,
    if_neg hallowed, slotOfParam?_eq hslot, orStatus_some, hkey, loadTempKey_apply]
  rfl

theorem performs_genDig_refused (hslot : slot.toNat < 16) (htemp : k.tempKey = none) :
    (Command.simple .genDig Zone.data.bits slot.toUInt16).Performs k (.error .executionError) k := by
  intro chip hcore
  subst hcore
  have hnone : chip.tempKey = none := htemp
  simp only [Chip.run, Command.simple, Bytes.byte_ofUInt16_toUInt16, Chip.genDig, bind_apply, get_apply,
    slotOfParam?_eq hslot, hnone]
  by_cases hrefused : Zone.data.bits ≠ 0x02 ∨ chip.memory.configLocked = false
  · rw [if_pos hrefused]
    rfl
  · rw [if_neg hrefused]
    rfl

/-! ## Encrypted writes -/

section EncryptedWrite

variable {temp ciphertext mac : Block} (hslot : slot.toNat < 16)
  (hconfig : k.memory.configLocked = true) (hdata : k.memory.dataLocked = true)
  (hpolicy : (k.memory.slotConfig ⟨slot.toNat, hslot⟩).writePolicy ≠ .never)
  (htemp : k.tempKey = some ⟨temp, false⟩)

include hconfig hdata hpolicy htemp

theorem run_encrypted_write {chip : Chip} (hcore : chip.core = k) :
    Chip.run ⟨.write, Zone.data.blockParam, Bytes.pair (slot <<< 3) 0, ciphertext.toList ++ mac.toList⟩ chip =
      if sha256 (writeMessage temp slot (Bytes.xor ciphertext temp)) = mac then
        .ok [] (chip.withCore ((k.withMemory (k.memory.writeSlot ⟨slot.toNat, hslot⟩
          (Bytes.xor ciphertext temp))).withTempKey none))
      else .error .executionError (chip.withCore (k.withTempKey none)) := by
  subst hcore
  have hclosed : ¬ chip.memory.configLocked = false := by
    rw [show chip.memory.configLocked = true from hconfig]
    decide
  have hsealed : chip.memory.dataLocked = true ∧ (ciphertext.toList ++ mac.toList).length = 64 :=
    ⟨hdata, by simp⟩
  have hwritable : ¬ (chip.memory.slotConfig ⟨slot.toNat, hslot⟩).writePolicy = .never := hpolicy
  have hkey : chip.tempKey = some ⟨temp, false⟩ := htemp
  have haddress : (Bytes.pair (slot <<< 3) 0).byte 0 = slot <<< 3 := rfl
  have htake : (ciphertext.toList ++ mac.toList).take 32 = ciphertext.toList :=
    List.take_left' Vector.length_toList
  have hdrop : (ciphertext.toList ++ mac.toList).drop 32 = mac.toList :=
    List.drop_left' Vector.length_toList
  simp only [Chip.run, Chip.write, Chip.writeEncrypted, bind_apply, get_apply, set_apply, haddress,
    Zone.ofParam?_blockParam, if_neg hclosed, slotOfAddress?_shift hslot, orStatus_some, if_pos hsealed,
    if_neg hwritable, hkey, htake, hdrop, Bytes.ofList?_toList]
  by_cases hmatch : sha256 (writeMessage temp slot (Bytes.xor ciphertext temp)) = mac
  · have hlist : ¬ (sha256 (writeMessage temp slot (Bytes.xor ciphertext temp))).toList ≠ mac.toList :=
      not_not.2 (congrArg Vector.toList hmatch)
    rw [if_pos hmatch]
    exact (congrFun (if_neg hlist) _).trans rfl
  · have hlist : (sha256 (writeMessage temp slot (Bytes.xor ciphertext temp))).toList ≠ mac.toList :=
      fun h => hmatch (Vector.toList_inj.1 h)
    rw [if_neg hmatch]
    exact (congrFun (if_pos hlist) _).trans rfl

theorem performs_encrypted_write
    (hmatch : sha256 (writeMessage temp slot (Bytes.xor ciphertext temp)) = mac) :
    (Command.mk .write Zone.data.blockParam (Bytes.pair (slot <<< 3) 0)
        (ciphertext.toList ++ mac.toList)).Performs k (.ok [])
      ((k.withMemory (k.memory.writeSlot ⟨slot.toNat, hslot⟩
        (Bytes.xor ciphertext temp))).withTempKey none) := by
  intro chip hcore
  rw [run_encrypted_write hslot hconfig hdata hpolicy htemp hcore, if_pos hmatch]

theorem performs_encrypted_write_refused
    (hwrong : sha256 (writeMessage temp slot (Bytes.xor ciphertext temp)) ≠ mac) :
    (Command.mk .write Zone.data.blockParam (Bytes.pair (slot <<< 3) 0)
        (ciphertext.toList ++ mac.toList)).Performs k (.error .executionError) (k.withTempKey none) := by
  intro chip hcore
  rw [run_encrypted_write hslot hconfig hdata hpolicy htemp hcore, if_neg hwrong]

end EncryptedWrite

end Chip

end SecureElement
