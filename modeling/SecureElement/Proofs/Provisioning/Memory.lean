import SecureElement.Proofs.Chip.Memory
import SecureElement.Provisioning
/-!
# What provisioning writes

The memory that each stage is to leave, and how the writes of a stage add up to it. Before the Config zone is
locked, nothing but slot policies and the OTP mode can have been written, and both are written again by the
next run.
-/

namespace SecureElement

namespace Bytes

variable {n : Nat}

theorem overwrite_overwrite_before (bytes : Bytes n) (start : Nat) (first second : List UInt8) :
    overwrite (overwrite bytes (start + first.length) second) start first =
      overwrite bytes start (first ++ second) := by
  apply ext_byte
  intro i hi
  rw [byte_overwrite _ _ _ hi, byte_overwrite _ _ _ hi, byte_overwrite _ _ _ hi]
  by_cases hstart : start ≤ i
  · by_cases hfirst : start + first.length ≤ i
    · rw [if_pos hstart, if_pos hstart, if_pos hfirst, List.getD_append_right _ _ _ _ (by omega),
        List.getD_eq_default first _ (by omega), Nat.sub_add_eq]
    · rw [if_pos hstart, if_pos hstart, if_neg hfirst, List.getD_append _ _ _ _ (by omega)]
  · rw [if_neg hstart, if_neg hstart, if_neg (by omega)]

theorem overwrite_toList (bytes new : Bytes n) : overwrite bytes 0 new.toList = new := by
  apply ext_byte
  intro i hi
  rw [byte_overwrite _ _ _ hi, if_pos (Nat.zero_le i), Nat.sub_zero,
    List.getD_eq_getElem _ _ (by simpa using hi), Vector.getElem_toList, byte_eq_getElem _ hi]

end Bytes

namespace Provisioning

def policyWord : Word :=
  SlotConfig.pairToWord evenSlotConfig oddSlotConfig

/-- What provisioning writes from config word 4 on: the OTP mode and the policies of all slots. -/
def policyImage : List UInt8 :=
  otpModeWord.toList ++ (List.replicate 8 policyWord.toList).flatten

theorem length_policyImage : policyImage.length = 36 := by
  decide

end Provisioning

namespace Memory

open Provisioning

structure SameButPolicies (a b : Memory) : Prop where
  config : ∀ i, i < 16 ∨ 52 ≤ i → a.config.byte i = b.config.byte i
  otp : a.otp = b.otp
  data : a.data = b.data

namespace SameButPolicies

variable {a b c : Memory}

theorem refl (a : Memory) : SameButPolicies a a :=
  ⟨fun _ _ => rfl, rfl, rfl⟩

theorem trans (hab : SameButPolicies a b) (hbc : SameButPolicies b c) : SameButPolicies a c :=
  ⟨fun i hi => (hab.config i hi).trans (hbc.config i hi), hab.otp.trans hbc.otp,
    hab.data.trans hbc.data⟩

theorem configLocked_eq (h : SameButPolicies a b) : a.configLocked = b.configLocked := by
  unfold configLocked
  rw [h.config 87 (by omega)]

theorem dataLocked_eq (h : SameButPolicies a b) : a.dataLocked = b.dataLocked := by
  unfold dataLocked
  rw [h.config 86 (by omega)]

end SameButPolicies

theorem sameButPolicies_writeConfig (memory : Memory) {start : Nat} {bytes : List UInt8}
    (hstart : 16 ≤ start) (hend : start + bytes.length ≤ 52) :
    SameButPolicies memory (memory.writeConfig start bytes) := by
  refine ⟨fun i hi => ?_, (memory.writeConfig_otp start bytes).symm,
    (memory.writeConfig_data start bytes).symm⟩
  rcases hi with hlow | hhigh
  · unfold writeConfig
    rw [Bytes.byte_overwrite_of_lt _ _ (by omega)]
  · unfold writeConfig
    rw [Bytes.byte_overwrite_of_le _ (by omega)]

def configured (memory : Memory) : Memory :=
  memory.writeConfig 16 policyImage

theorem sameButPolicies_configured (memory : Memory) : SameButPolicies memory memory.configured :=
  sameButPolicies_writeConfig memory (by omega) (by rw [length_policyImage])

@[simp] theorem configLocked_configured (memory : Memory) :
    memory.configured.configLocked = memory.configLocked :=
  memory.sameButPolicies_configured.configLocked_eq.symm

@[simp] theorem dataLocked_configured (memory : Memory) :
    memory.configured.dataLocked = memory.dataLocked :=
  memory.sameButPolicies_configured.dataLocked_eq.symm

theorem SameButPolicies.configured_eq {a b : Memory} (h : SameButPolicies a b) :
    a.configured = b.configured := by
  have hconfig : Bytes.overwrite a.config 16 policyImage = Bytes.overwrite b.config 16 policyImage :=
    Bytes.overwrite_congr _ fun i hi => h.config i (by rwa [length_policyImage] at hi)
  unfold configured writeConfig
  rw [hconfig, h.otp, h.data]

theorem byte_otpMode_lockConfig_configured (memory : Memory) :
    memory.configured.lockConfig.config.byte 18 = 0xAA := by
  unfold lockConfig writeConfig
  rw [Bytes.byte_overwrite_of_lt _ _ (by decide), configured, writeConfig,
    Bytes.byte_overwrite _ _ _ (by decide)]
  rfl

theorem writeConfig_writeConfig (memory : Memory) (start : Nat) (first second : List UInt8) :
    (memory.writeConfig start first).writeConfig (start + first.length) second =
      memory.writeConfig start (first ++ second) := by
  unfold writeConfig
  rw [Bytes.overwrite_overwrite]

theorem writeConfig_otpModeWord (memory : Memory) :
    (memory.writeConfig 20 (List.replicate 8 policyWord.toList).flatten).writeConfig 16
      otpModeWord.toList = memory.configured := by
  rw [configured, policyImage, writeConfig, writeConfig, writeConfig,
    ← Bytes.overwrite_overwrite_before]
  rfl

/-! ## The OTP zone -/

def withOtp (memory : Memory) (otp : Bytes 64) : Memory :=
  { memory with otp }

theorem withOtp_writeOtp (memory : Memory) (start : Nat) (bytes : List UInt8) (otp : Bytes 64) :
    (memory.writeOtp start bytes).withOtp otp = memory.withOtp otp := by
  rw [writeOtp, withOtp, withOtp]

theorem writeOtp_writeOtp (memory : Memory) (image : Bytes 64) :
    (memory.writeOtp 0 (image.toList.take 32)).writeOtp 32 (image.toList.drop 32) =
      memory.withOtp image := by
  have hlength : (image.toList.take 32).length = 32 := by
    simp
  have hjoin := Bytes.overwrite_overwrite memory.otp 0 (image.toList.take 32) (image.toList.drop 32)
  rw [hlength, List.take_append_drop, Bytes.overwrite_toList, Nat.zero_add] at hjoin
  simp only [writeOtp, withOtp, hjoin]

/-! ## The keys -/

/-- The memory after the first `count` keys have been written. -/
def withKeys (memory : Memory) (keys : Vector Block 16) (count : Nat) : Memory :=
  { memory with data := Vector.ofFn fun i => if i.val < count then keys.get i else memory.key i }

theorem withKeys_zero (memory : Memory) (keys : Vector Block 16) : memory.withKeys keys 0 = memory := by
  have hdata : (Vector.ofFn fun i : Fin 16 => if i.val < 0 then keys.get i else memory.key i) = memory.data := by
    apply Vector.ext
    intro i hi
    rw [Vector.getElem_ofFn, if_neg (Nat.not_lt_zero i)]
    rfl
  unfold withKeys
  rw [hdata]

theorem withKeys_all (memory : Memory) (keys : Vector Block 16) :
    memory.withKeys keys 16 = { memory with data := keys } := by
  have hdata : (Vector.ofFn fun i : Fin 16 => if i.val < 16 then keys.get i else memory.key i) = keys := by
    apply Vector.ext
    intro i hi
    rw [Vector.getElem_ofFn, if_pos hi]
    rfl
  unfold withKeys
  rw [hdata]

theorem writeSlot_withKeys (memory : Memory) (keys : Vector Block 16) {slot : Nat} (h : slot < 16) :
    (memory.withKeys keys slot).writeSlot ⟨slot, h⟩ keys[slot] = memory.withKeys keys (slot + 1) := by
  have hdata : (memory.withKeys keys slot).data.setIfInBounds slot keys[slot] =
      (memory.withKeys keys (slot + 1)).data := by
    apply Vector.ext
    intro i hi
    by_cases hslot : slot = i
    · subst hslot
      rw [Vector.getElem_setIfInBounds_self, withKeys, Vector.getElem_ofFn, if_pos (Nat.lt_succ_self slot)]
      rfl
    · have hstep : i ≤ slot ↔ i < slot := by
        omega
      rw [Vector.getElem_setIfInBounds_ne hi hslot]
      simp [withKeys, hstep]
  unfold writeSlot
  rw [hdata, withKeys, withKeys]

/-! ## Locked memories -/

def personalized (memory : Memory) (keySet : KeySet) : Memory :=
  { memory with otp := otpImage version, data := keySet.keys }.lockData

@[simp] theorem configLocked_personalized (memory : Memory) (keySet : KeySet) :
    (memory.personalized keySet).configLocked = memory.configLocked := by
  unfold personalized
  rw [configLocked_lockData]
  exact configLocked_congr rfl

@[simp] theorem dataLocked_personalized (memory : Memory) (keySet : KeySet) :
    (memory.personalized keySet).dataLocked = true := by
  unfold personalized
  rw [dataLocked_lockData]

@[simp] theorem personalized_otp (memory : Memory) (keySet : KeySet) :
    (memory.personalized keySet).otp = otpImage version := by
  unfold personalized
  rw [lockData_otp]

@[simp] theorem personalized_data (memory : Memory) (keySet : KeySet) :
    (memory.personalized keySet).data = keySet.keys := by
  unfold personalized
  rw [lockData_data]

/-- The checksum of the host is that of what the chip holds. -/
theorem dataImage_eq (memory : Memory) (keySet : KeySet) :
    { memory with otp := otpImage version, data := keySet.keys }.dataImage =
      Provisioning.dataImage keySet := rfl

end Memory

end SecureElement
