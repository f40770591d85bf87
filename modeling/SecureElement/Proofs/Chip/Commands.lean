import SecureElement.Proofs.Chip.Bench
import SecureElement.Proofs.Chip.Memory
/-!
# Single commands

What each command makes of the core of the chip, where the chip carries it out.
-/

namespace SecureElement

namespace Bytes

theorem byte_ofUInt16_toUInt16 (value : UInt8) : (ofUInt16 value.toUInt16).byte 0 = value := by
  simp [ofUInt16, pair, byte]

theorem toUInt16_ofUInt16 (value : UInt16) : toUInt16 (ofUInt16 value) = value := by
  have hlow : (ofUInt16 value).byte 0 = value.toUInt8 := rfl
  have hhigh : (ofUInt16 value).byte 1 = (value >>> 8).toUInt8 := rfl
  rw [toUInt16, hlow, hhigh]
  apply UInt16.toNat_inj.1
  simp only [UInt16.toNat_or, UInt8.toNat_toUInt16, UInt16.toNat_toUInt8, UInt16.toNat_shiftLeft,
    UInt16.toNat_shiftRight]
  have hbound := value.toNat_lt
  have height : (8 : UInt16).toNat % 16 = 8 := rfl
  rw [height, Nat.shiftRight_eq_div_pow, Nat.shiftLeft_eq]
  have hdiv : value.toNat / 2 ^ 8 % 2 ^ 8 * 2 ^ 8 % 2 ^ 16 = 2 ^ 8 * (value.toNat / 2 ^ 8) := by
    omega
  rw [hdiv, Nat.or_comm, ← Nat.two_pow_add_eq_or_of_lt (Nat.mod_lt _ (by decide))]
  omega

theorem exists_toList {n : Nat} {bytes : List UInt8} (h : bytes.length = n) :
    ∃ b : Bytes n, b.toList = bytes :=
  ⟨⟨bytes.toArray, by simpa using h⟩, rfl⟩

theorem toList_slice {n : Nat} (bytes : Bytes n) {start len : Nat} (h : start + len ≤ n) :
    (bytes.slice start len).toList = (bytes.toList.drop start).take len := by
  apply List.ext_getElem
  · simp
    omega
  · intro i hi _
    have hlen : i < len := by
      simpa using hi
    simp [getElem_slice, byte_eq_getElem bytes (show start + i < n by omega)]

theorem slice_slice {n : Nat} (bytes : Bytes n) {start len start' len' : Nat} (h : start' + len' ≤ len) :
    (bytes.slice start len).slice start' len' = bytes.slice (start + start') len' := by
  apply Bytes.ext_byte
  intro i hi
  rw [byte_eq_getElem _ hi, byte_eq_getElem _ hi, getElem_slice, getElem_slice,
    byte_eq_getElem _ (show start' + i < len by omega), getElem_slice, Nat.add_assoc]

theorem slice_append_slice {m n : Nat} (bytes : Bytes (m + n)) :
    bytes.slice 0 m ++ bytes.slice m n = bytes := by
  rw [← Vector.toList_inj, Vector.toList_append, toList_slice bytes (by omega),
    toList_slice bytes (by omega), List.drop_zero, List.take_of_length_le (l := bytes.toList.drop m) (by simp)]
  exact List.take_append_drop m bytes.toList

theorem slice?_eq {n : Nat} (bytes : Bytes n) {start len : Nat} (h : start + len ≤ n) :
    bytes.slice? start len = some (bytes.slice start len).toList := by
  unfold slice?
  rw [if_pos h, toList_slice bytes h]

end Bytes

namespace Zone

@[simp] theorem ofParam?_bits (zone : Zone) : ofParam? zone.bits = some zone := by
  cases zone <;> decide

@[simp] theorem ofParam?_blockParam (zone : Zone) : ofParam? zone.blockParam = some zone := by
  cases zone <;> decide

@[simp] theorem decode_bits (zone : Zone) : Flag.decode 0x80 zone.bits = false := by
  cases zone <;> decide

@[simp] theorem decode_blockParam (zone : Zone) : Flag.decode 0x80 zone.blockParam = true := by
  cases zone <;> decide

end Zone

namespace Core

def withMemory (k : Core) (memory : Memory) : Core :=
  { k with memory }

@[simp] theorem withMemory_memory (k : Core) (memory : Memory) : (k.withMemory memory).memory = memory := rfl

theorem memory_of_eq {k l : Core} {memory : Memory} (h : l = k.withMemory memory) : l.memory = memory := by
  rw [h, withMemory_memory]

end Core

namespace Chip

theorem orStatus_some {α : Type} (status : Status) (a : α) (chip : Chip) :
    orStatus status (some a) chip = .ok a chip := rfl

theorem slotOfAddress?_shift {slot : UInt8} (h : slot.toNat < 16) :
    slotOfAddress? (slot <<< 3) = some ⟨slot.toNat, h⟩ := by
  have hshift : (slot <<< 3 >>> 3).toNat = slot.toNat := by
    simp only [UInt8.toNat_shiftRight, UInt8.toNat_shiftLeft, Nat.shiftLeft_eq, Nat.shiftRight_eq_div_pow]
    have hthree : (3 : UInt8).toNat % 8 = 3 := rfl
    rw [hthree]
    omega
  simp [slotOfAddress?, hshift, h]

theorem slotOfParam?_eq {slot : UInt8} (h : slot.toNat < 16) :
    slotOfParam? slot = some ⟨slot.toNat, h⟩ := by
  unfold slotOfParam?
  rw [dif_pos h]

variable {k : Core}

theorem performs_read_config (address : UInt8) (h : address.toNat * 4 + 4 ≤ 88) :
    (Command.simple .read Zone.config.bits address.toUInt16).Performs k
      (.ok (k.memory.config.slice (address.toNat * 4) 4).toList) k := by
  intro chip hcore
  subst hcore
  have hslice := Bytes.slice?_eq chip.memory.config h
  simp [Chip.run, Command.simple, Chip.read, bind_apply, get_apply, Bytes.byte_ofUInt16_toUInt16, hslice,
    orStatus_some]
  rfl

theorem performs_read_otp (address : UInt8) (h : address.toNat * 4 + 32 ≤ 64) :
    (Command.simple .read Zone.otp.blockParam address.toUInt16).Performs k
      (.ok (k.memory.otp.slice (address.toNat * 4) 32).toList) k := by
  intro chip hcore
  subst hcore
  have hslice := Bytes.slice?_eq chip.memory.otp h
  simp [Chip.run, Command.simple, Chip.read, bind_apply, get_apply, Bytes.byte_ofUInt16_toUInt16, hslice,
    orStatus_some]
  rfl

theorem modifyMemory_apply (change : Memory → Memory) (chip : Chip) :
    modifyMemory change chip = .ok () { chip with memory := change chip.memory } := rfl

theorem performs_write_config {address : UInt8} (data : Word) (hopen : k.memory.configLocked = false)
    (hlow : 4 ≤ address) (hhigh : address < lockWordAddress) :
    (Command.mk .write Zone.config.bits (Bytes.pair address 0) data.toList).Performs k (.ok [])
      (k.withMemory (k.memory.writeConfig (address.toNat * 4) data.toList)) := by
  intro chip hcore
  subst hcore
  have hallowed : ¬ (chip.memory.configLocked = true ∨ data.toList.length ≠ 4 ∨ address < 4 ∨
      lockWordAddress ≤ address) := by
    have hconfig : chip.memory.configLocked = false := hopen
    simp [hconfig, hlow, hhigh]
  have haddress : (Bytes.pair address 0).byte 0 = address := rfl
  simp only [Chip.run, Chip.write, bind_apply, get_apply, haddress, Zone.ofParam?_bits, if_neg hallowed,
    modifyMemory_apply]
  rfl

theorem performs_write_otp {address : UInt8} (data : Block) (hconfig : k.memory.configLocked = true)
    (hopen : k.memory.dataLocked = false) (h : address.toNat * 4 + 32 ≤ 64) :
    (Command.mk .write Zone.otp.blockParam (Bytes.pair address 0) data.toList).Performs k (.ok [])
      (k.withMemory (k.memory.writeOtp (address.toNat * 4) data.toList)) := by
  intro chip hcore
  subst hcore
  have hallowed : ¬ (chip.memory.configLocked = false ∨ chip.memory.dataLocked = true ∨
      data.toList.length ≠ 32 ∨ 64 < address.toNat * 4 + 32) := by
    have hclosed : chip.memory.configLocked = true := hconfig
    have hdata : chip.memory.dataLocked = false := hopen
    simp [hclosed, hdata, h]
  have haddress : (Bytes.pair address 0).byte 0 = address := rfl
  simp only [Chip.run, Chip.write, bind_apply, get_apply, haddress, Zone.ofParam?_blockParam,
    if_neg hallowed, modifyMemory_apply]
  rfl

theorem performs_write_slot {slot : UInt8} (hslot : slot.toNat < 16) (key : Block)
    (hconfig : k.memory.configLocked = true) (hopen : k.memory.dataLocked = false) :
    (Command.mk .write Zone.data.blockParam (Bytes.pair (slot <<< 3) 0) key.toList).Performs k (.ok [])
      (k.withMemory (k.memory.writeSlot ⟨slot.toNat, hslot⟩ key)) := by
  intro chip hcore
  subst hcore
  have hclosed : chip.memory.configLocked = true := hconfig
  have hdata : chip.memory.dataLocked = false := hopen
  have haddress : (Bytes.pair (slot <<< 3) 0).byte 0 = slot <<< 3 := rfl
  simp only [Chip.run, Chip.write, bind_apply, get_apply, haddress, Zone.ofParam?_blockParam, hclosed, hdata,
    slotOfAddress?_shift hslot, orStatus_some, Bytes.ofList?_toList, Bool.true_eq_false, Bool.false_eq_true,
    false_and, if_false, modifyMemory_apply]
  rfl

section Lock

/-! The parameter of a Lock names the lock to close and says whether there is no checksum. -/

variable {zone : Zone} {param1 : UInt8} {crc : Option UInt16}
variable (htarget : Flag.decode 0x01 param1 = decide (zone ≠ .config))
variable (hskips : Flag.decode 0x80 param1 = crc.isNone)
include htarget hskips

theorem performs_lock (h : k.memory.Lockable zone crc) :
    (Command.simple .lock param1 (crc.getD 0)).Performs k (.ok []) (k.withMemory (k.memory.close zone)) := by
  intro chip hcore
  subst hcore
  change chip.memory.Lockable zone crc at h
  simp only [Chip.run, Command.simple, Chip.lock, bind_apply, get_apply, Bytes.toUInt16_ofUInt16, htarget, hskips]
  by_cases hzone : zone = .config
  · subst hzone
    obtain ⟨hopen, hmatch⟩ := Memory.lockable_config_iff.1 h
    simp only [ne_eq, not_true, decide_false, Bool.false_eq_true, if_false, hopen, if_neg hmatch]
    rfl
  · obtain ⟨hallowed, hmatch⟩ := (Memory.lockable_iff hzone).1 h
    simp only [ne_eq, hzone, not_false_eq_true, decide_true, if_true, if_neg hallowed, if_neg hmatch,
      Memory.close, if_false]
    rfl

theorem performs_lock_refused (h : ¬ k.memory.Lockable zone crc) :
    (Command.simple .lock param1 (crc.getD 0)).Performs k (.error .executionError) k := by
  intro chip hcore
  subst hcore
  change ¬ chip.memory.Lockable zone crc at h
  simp only [Chip.run, Command.simple, Chip.lock, bind_apply, get_apply, Bytes.toUInt16_ofUInt16, htarget, hskips]
  by_cases hzone : zone = .config
  · subst hzone
    simp only [ne_eq, not_true, decide_false, Bool.false_eq_true, if_false]
    by_cases hopen : chip.memory.configLocked = true
    · rw [if_pos hopen]
      rfl
    · have hmismatch := not_not.1 fun hmatch =>
        h (Memory.lockable_config_iff.2 ⟨Bool.eq_false_of_not_eq_true hopen, hmatch⟩)
      rw [if_neg hopen, if_pos hmismatch]
      rfl
  · simp only [ne_eq, hzone, not_false_eq_true, decide_true, if_true]
    by_cases hdenied : chip.memory.configLocked = false ∨ chip.memory.dataLocked = true
    · rw [if_pos hdenied]
      rfl
    · have hmismatch := not_not.1 fun hmatch => h ((Memory.lockable_iff hzone).2 ⟨hdenied, hmatch⟩)
      rw [if_neg hdenied, if_pos hmismatch]
      rfl

end Lock

end Chip

namespace Core

def nextRandom (k : Core) : Block :=
  sha256 (Chip.counterBytes (k.draws + 1))

def draw (k : Core) : Core :=
  { k with draws := k.draws + 1 }

@[simp] theorem draw_memory (k : Core) : k.draw.memory = k.memory := rfl

end Core

namespace Chip

variable {k : Core}

theorem drawRandom_apply (chip : Chip) :
    drawRandom chip = .ok chip.core.nextRandom (chip.withCore chip.core.draw) := rfl

theorem performs_random (param1 : UInt8) :
    (Command.simple .random param1 0).Performs k (.ok k.nextRandom.toList) k.draw := by
  intro chip hcore
  subst hcore
  rfl

end Chip

end SecureElement
