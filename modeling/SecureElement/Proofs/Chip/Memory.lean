import Mathlib
import SecureElement.Chip.Memory
import SecureElement.Crc16
import SecureElement.Provisioning
/-!
# Writes to the memory of the chip

Where a write lands and what it leaves alone, byte by byte, and with it how the lock bytes and the lock state
move.
-/

namespace SecureElement

namespace Bytes

variable {n : Nat}

theorem ext_byte {a b : Bytes n} (h : ∀ i < n, a.byte i = b.byte i) : a = b := by
  apply Vector.ext
  intro i hi
  rw [← byte_eq_getElem a hi, ← byte_eq_getElem b hi]
  exact h i hi

theorem byte_overwrite (bytes : Bytes n) (start : Nat) (new : List UInt8) {i : Nat} (h : i < n) :
    (overwrite bytes start new).byte i =
      if start ≤ i then new.getD (i - start) (bytes.byte i) else bytes.byte i := by
  rw [byte_eq_getElem _ h, getElem_overwrite, byte_eq_getElem _ h]

theorem byte_overwrite_of_lt (bytes : Bytes n) {start : Nat} (new : List UInt8) {i : Nat}
    (h : i < start) : (overwrite bytes start new).byte i = bytes.byte i := by
  by_cases hi : i < n
  · rw [byte_overwrite bytes start new hi, if_neg (by omega)]
  · rw [byte_eq_zero _ (by omega), byte_eq_zero _ (by omega)]

theorem byte_overwrite_of_le (bytes : Bytes n) {start : Nat} {new : List UInt8} {i : Nat}
    (h : start + new.length ≤ i) : (overwrite bytes start new).byte i = bytes.byte i := by
  by_cases hi : i < n
  · rw [byte_overwrite bytes start new hi, if_pos (by omega), List.getD_eq_default _ _ (by omega)]
  · rw [byte_eq_zero _ (by omega), byte_eq_zero _ (by omega)]

theorem overwrite_nil (bytes : Bytes n) (start : Nat) : overwrite bytes start [] = bytes := by
  apply ext_byte
  intro i hi
  rw [byte_overwrite _ _ _ hi, List.getD_nil, ite_self]

theorem byte_overwrite_singleton (bytes : Bytes n) {start i : Nat} (value : UInt8) (h : i ≠ start) :
    (overwrite bytes start [value]).byte i = bytes.byte i := by
  rcases Nat.lt_or_gt_of_ne h with hlt | hgt
  · exact byte_overwrite_of_lt bytes [value] hlt
  · exact byte_overwrite_of_le bytes hgt

theorem overwrite_overwrite (bytes : Bytes n) (start : Nat) (first second : List UInt8) :
    overwrite (overwrite bytes start first) (start + first.length) second =
      overwrite bytes start (first ++ second) := by
  apply ext_byte
  intro i hi
  rw [byte_overwrite _ _ _ hi, byte_overwrite _ _ _ hi, byte_overwrite _ _ _ hi]
  by_cases hstart : start ≤ i
  · by_cases hfirst : start + first.length ≤ i
    · rw [if_pos hfirst, if_pos hstart, if_pos hstart, List.getD_append_right _ _ _ _ (by omega),
        List.getD_eq_default first _ (by omega), Nat.sub_add_eq]
    · rw [if_neg hfirst, if_pos hstart, if_pos hstart, List.getD_append _ _ _ _ (by omega)]
  · rw [if_neg (by omega), if_neg hstart, if_neg hstart]

theorem overwrite_congr {a b : Bytes n} {start : Nat} (new : List UInt8)
    (h : ∀ i, i < start ∨ start + new.length ≤ i → a.byte i = b.byte i) :
    overwrite a start new = overwrite b start new := by
  apply ext_byte
  intro i hi
  rw [byte_overwrite _ _ _ hi, byte_overwrite _ _ _ hi]
  by_cases hinside : start ≤ i ∧ i - start < new.length
  · rw [if_pos hinside.1, if_pos hinside.1, List.getD_eq_getElem _ _ hinside.2,
      List.getD_eq_getElem _ _ hinside.2]
  · rw [h i (by omega)]

end Bytes

namespace Lifecycle

theorem ofLocks_eq_ok_iff {configLocked dataLocked : Bool} {state : Lifecycle} :
    ofLocks configLocked dataLocked = .ok state ↔
      configLocked = decide (initialized ≤ state) ∧ dataLocked = decide (personalized ≤ state) := by
  revert configLocked dataLocked
  cases state <;> decide

end Lifecycle

namespace Memory

/-! ## Zones that a write leaves alone -/

@[simp] theorem writeConfig_otp (memory : Memory) (start : Nat) (bytes : List UInt8) :
    (memory.writeConfig start bytes).otp = memory.otp := by
  rw [writeConfig]

@[simp] theorem writeConfig_data (memory : Memory) (start : Nat) (bytes : List UInt8) :
    (memory.writeConfig start bytes).data = memory.data := by
  rw [writeConfig]

theorem writeConfig_nil (memory : Memory) (start : Nat) : memory.writeConfig start [] = memory := by
  unfold writeConfig
  rw [Bytes.overwrite_nil]

@[simp] theorem writeOtp_config (memory : Memory) (start : Nat) (bytes : List UInt8) :
    (memory.writeOtp start bytes).config = memory.config := by
  rw [writeOtp]

@[simp] theorem writeOtp_data (memory : Memory) (start : Nat) (bytes : List UInt8) :
    (memory.writeOtp start bytes).data = memory.data := by
  rw [writeOtp]

@[simp] theorem writeSlot_config (memory : Memory) (slot : Fin 16) (key : Block) :
    (memory.writeSlot slot key).config = memory.config := by
  rw [writeSlot]

@[simp] theorem writeSlot_otp (memory : Memory) (slot : Fin 16) (key : Block) :
    (memory.writeSlot slot key).otp = memory.otp := by
  rw [writeSlot]

theorem key_congr {a b : Memory} (h : a.data = b.data) (slot : Fin 16) : a.key slot = b.key slot := by
  unfold key
  rw [h]

@[simp] theorem key_writeSlot (memory : Memory) (slot : Fin 16) (key : Block) :
    (memory.writeSlot slot key).key slot = key := by
  unfold Memory.key
  rw [writeSlot]
  exact Vector.getElem_setIfInBounds_self slot.isLt

theorem key_writeSlot_of_ne (memory : Memory) {slot other : Fin 16} (key : Block) (h : other ≠ slot) :
    (memory.writeSlot slot key).key other = memory.key other := by
  unfold Memory.key
  rw [writeSlot]
  exact Vector.getElem_setIfInBounds_ne other.isLt fun heq => h (Fin.ext heq.symm)

theorem lockConfig_config (memory : Memory) :
    memory.lockConfig.config = Bytes.overwrite memory.config 87 [0x00] := by
  unfold lockConfig
  rw [writeConfig]

theorem lockData_config (memory : Memory) :
    memory.lockData.config = Bytes.overwrite memory.config 86 [0x00] := by
  unfold lockData
  rw [writeConfig]

@[simp] theorem lockData_otp (memory : Memory) : memory.lockData.otp = memory.otp :=
  memory.writeConfig_otp 86 [0x00]

@[simp] theorem lockData_data (memory : Memory) : memory.lockData.data = memory.data :=
  memory.writeConfig_data 86 [0x00]

structure SameButSlot (slot : Fin 16) (a b : Memory) : Prop where
  key : ∀ other, other ≠ slot → b.key other = a.key other
  otp : b.otp = a.otp
  config : b.config = a.config

theorem SameButSlot.refl (slot : Fin 16) (memory : Memory) : SameButSlot slot memory memory :=
  ⟨fun _ _ => rfl, rfl, rfl⟩

theorem sameButSlot_writeSlot (memory : Memory) (slot : Fin 16) (key : Block) :
    SameButSlot slot memory (memory.writeSlot slot key) :=
  ⟨fun _ h => key_writeSlot_of_ne memory key h, writeSlot_otp _ _ _, writeSlot_config _ _ _⟩

/-! ## Lock bytes -/

theorem configLocked_congr {a b : Memory} (h : a.config = b.config) :
    a.configLocked = b.configLocked := by
  unfold configLocked
  rw [h]

theorem dataLocked_congr {a b : Memory} (h : a.config = b.config) : a.dataLocked = b.dataLocked := by
  unfold dataLocked
  rw [h]

theorem byte_lockWord (memory : Memory) {i : Nat} (h : i < 4) :
    memory.lockWord.byte i = memory.config.byte (84 + i) := by
  unfold lockWord
  rw [Bytes.byte_eq_getElem _ h, Bytes.getElem_slice]

theorem configLocked_factory : factory.configLocked = false := by
  decide +kernel

theorem dataLocked_factory : factory.dataLocked = false := by
  decide +kernel

@[simp] theorem isLockByteClosed_config (memory : Memory) :
    isLockByteClosed (memory.lockWord.byte configLockIndex) = memory.configLocked := by
  unfold configLocked
  rw [byte_lockWord memory (by decide)]
  rfl

@[simp] theorem isLockByteClosed_data (memory : Memory) :
    isLockByteClosed (memory.lockWord.byte dataLockIndex) = memory.dataLocked := by
  unfold dataLocked
  rw [byte_lockWord memory (by decide)]
  rfl

theorem ofLockWord_lockWord (memory : Memory) :
    Lifecycle.ofLockWord memory.lockWord = Lifecycle.ofLocks memory.configLocked memory.dataLocked := by
  unfold Lifecycle.ofLockWord
  rw [isLockByteClosed_config, isLockByteClosed_data]

theorem configLocked_writeConfig (memory : Memory) {start : Nat} {bytes : List UInt8}
    (h : start + bytes.length ≤ 87) :
    (memory.writeConfig start bytes).configLocked = memory.configLocked := by
  unfold configLocked writeConfig
  rw [Bytes.byte_overwrite_of_le _ h]

@[simp] theorem configLocked_lockConfig (memory : Memory) : memory.lockConfig.configLocked = true := by
  unfold configLocked lockConfig writeConfig
  rw [Bytes.byte_overwrite _ _ _ (by decide)]
  rfl

@[simp] theorem dataLocked_lockConfig (memory : Memory) :
    memory.lockConfig.dataLocked = memory.dataLocked := by
  unfold dataLocked lockConfig writeConfig
  rw [Bytes.byte_overwrite_of_lt _ _ (by decide)]

@[simp] theorem configLocked_lockData (memory : Memory) :
    memory.lockData.configLocked = memory.configLocked :=
  configLocked_writeConfig memory (by decide)

@[simp] theorem dataLocked_lockData (memory : Memory) : memory.lockData.dataLocked = true := by
  unfold dataLocked lockData writeConfig
  rw [Bytes.byte_overwrite _ _ _ (by decide)]
  rfl

/-! ## Locks of the zones -/

/-- The OTP and Data zones have one lock in common. -/
def isClosed (memory : Memory) (zone : Zone) : Bool :=
  if zone = .config then memory.configLocked else memory.dataLocked

def image (memory : Memory) (zone : Zone) : List UInt8 :=
  if zone = .config then memory.config.toList else memory.dataImage

def close (memory : Memory) (zone : Zone) : Memory :=
  if zone = .config then memory.lockConfig else memory.lockData

/-- The zone is open, its turn has come, and a checksum, if one is given, is that of what it holds. -/
structure Lockable (memory : Memory) (zone : Zone) (crc : Option UInt16) : Prop where
  opened : memory.isClosed zone = false
  ordered : zone ≠ .config → memory.configLocked = true
  checked : ∀ sum ∈ crc, sum = Crc16.compute (memory.image zone)

variable {memory : Memory} {zone : Zone} {crc : Option UInt16}

theorem checked_iff {image : List UInt8} : (∀ sum ∈ crc, sum = Crc16.compute image) ↔
    ¬ (crc.isNone = false ∧ Crc16.compute image ≠ crc.getD 0) := by
  cases crc with
  | none => simp
  | some sum => simp [eq_comm]

theorem lockable_config_iff : memory.Lockable .config crc ↔ memory.configLocked = false ∧
    ¬ (crc.isNone = false ∧ Crc16.compute memory.config.toList ≠ crc.getD 0) := by
  rw [← checked_iff]
  constructor
  · intro h
    exact ⟨h.opened, h.checked⟩
  · rintro ⟨hopen, hchecked⟩
    exact ⟨hopen, fun hzone => absurd rfl hzone, hchecked⟩

theorem lockable_iff (hzone : zone ≠ .config) : memory.Lockable zone crc ↔
    ¬ (memory.configLocked = false ∨ memory.dataLocked = true) ∧
      ¬ (crc.isNone = false ∧ Crc16.compute memory.dataImage ≠ crc.getD 0) := by
  rw [← checked_iff, not_or, Bool.not_eq_false, Bool.not_eq_true]
  have hclosed : memory.isClosed zone = memory.dataLocked := if_neg hzone
  have himage : memory.image zone = memory.dataImage := if_neg hzone
  constructor
  · intro h
    exact ⟨⟨h.ordered hzone, hclosed ▸ h.opened⟩, himage ▸ h.checked⟩
  · rintro ⟨⟨hconfig, hopen⟩, hchecked⟩
    exact ⟨hclosed ▸ hopen, fun _ => hconfig, himage ▸ hchecked⟩

end Memory

end SecureElement
