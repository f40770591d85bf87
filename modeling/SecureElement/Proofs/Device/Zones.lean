import SecureElement.KeySet
import SecureElement.Proofs.Chip.Commands
import SecureElement.Proofs.Chip.Memory
import SecureElement.Proofs.Device.Exchange
/-!
# Zone access to a chip

What the host's operations on the three zones come to on an awake chip: their results are what the memory of
the chip holds, and a failed one was cut off by a disturbance.
-/

namespace SecureElement

variable {σ : Type} [ChipBus σ] {calm : Prop} {k k' : Core} {command : Command}

theorem checkKeySlot_eq {slot : UInt8} (h : slot.toNat < 16) : checkKeySlot slot = .ok () := by
  unfold checkKeySlot
  rw [if_neg]
  rw [UInt8.not_le, UInt8.lt_iff_toNat_lt]
  exact h

theorem checkKeySlot_eq_error {slot : UInt8} (h : ¬ slot.toNat < 16) :
    checkKeySlot slot = .error (.invalidKeySlot slot) := by
  unfold checkKeySlot
  rw [if_pos]
  rw [UInt8.le_iff_toNat_le]
  exact Nat.le_of_not_lt h

theorem checkLength_eq (what : String) {expected : Nat} {bytes : List UInt8} (h : bytes.length = expected) :
    checkLength what expected bytes = .ok () := by
  unfold checkLength
  rw [if_pos h]

def DeviceError.IsExhausted (error : DeviceError) : Prop :=
  ∃ opcode attempts, error = .retryExhausted opcode attempts

namespace Device

/-- A command that would take `k` to `k'` was cut off by a disturbance. -/
def Cut (calm : Prop) (k k' : Core) (error : DeviceError) (l : Core) : Prop :=
  ¬calm ∧ error.status? = none ∧ (l = k ∨ l = k')

theorem Cut.unchanged {error : DeviceError} {l : Core} (h : Cut calm k k error l) : l = k :=
  or_self_iff.1 h.2.2

theorem Cut.widen {error : DeviceError} {l : Core} (h : Cut calm k k error l) : Cut calm k k' error l :=
  ⟨h.1, h.2.1, .inl h.unchanged⟩

theorem Cut.kept {error : DeviceError} {l : Core} (h : Cut calm k k' error l) (hk : k'.memory = k.memory) :
    l.memory = k.memory := by
  rcases h.2.2 with hl | hl
  · rw [hl]
  · rw [hl, hk]

theorem Cut.memory {error : DeviceError} {l : Core} {memory : Memory}
    (h : Cut calm k (k.withMemory memory) error l) :
    ¬calm ∧ (l.memory = k.memory ∨ l.memory = memory) := by
  obtain ⟨hrough, _, hl⟩ := h
  exact ⟨hrough, hl.imp (congrArg Core.memory) Core.memory_of_eq⟩

theorem exchange_answered_runs {expected : Nat} {answer : Except Status (List UInt8)} {payload : List UInt8}
    (hlength : command.data.length ≤ maxCommandData) (hperforms : command.Performs k answer k')
    (houtcome : command.outcome? expected answer = some (.ok payload)) :
    Runs (Serves (σ := σ) calm) (exchange command expected) k (fun result l => result = payload ∧ l = k')
      (Cut calm k k') := by
  refine (exchange_runs hlength hperforms houtcome).mono ?_ ?_
  · intro result l hdone
    exact ⟨(Except.ok.inj hdone.1).symm, hdone.2⟩
  · intro error l hl
    obtain ⟨hwrong, _⟩ | ⟨hrough, ⟨n, rfl⟩, hl⟩ := hl
    · cases hwrong
    · exact ⟨hrough, rfl, hl⟩

theorem exchange_payload_runs {n : Nat} (payload : Bytes n) (hmin : 2 ≤ n) (hmax : n ≤ 252)
    (hlength : command.data.length ≤ maxCommandData)
    (hperforms : command.Performs k (.ok payload.toList) k') :
    Runs (Serves (σ := σ) calm) (exchange command n) k
      (fun result l => result = payload.toList ∧ l = k') (Cut calm k k') := by
  have hlen : payload.toList.length = n := Vector.length_toList
  have houtcome : command.outcome? payload.toList.length (.ok payload.toList) = some (.ok payload.toList) :=
    command.outcome?_payload (by omega) (by omega)
  rw [hlen] at houtcome
  exact exchange_answered_runs hlength hperforms houtcome

theorem exchangeBytes_runs {n : Nat} (bytes : Bytes n) (hmin : 2 ≤ n) (hmax : n ≤ 252)
    (hlength : command.data.length ≤ maxCommandData)
    (hperforms : command.Performs k (.ok bytes.toList) k') :
    Runs (Serves (σ := σ) calm) (exchangeBytes n command) k
      (fun answer l => answer = bytes ∧ l = k') (Cut calm k k') := by
  refine (exchange_payload_runs bytes hmin hmax hlength hperforms).bind ?_
  intro answer l hdone
  obtain ⟨rfl, rfl⟩ := hdone
  rw [Bytes.ofList?_toList]
  exact Runs.pure ⟨rfl, rfl⟩

theorem exchange_refused_runs (expected : Nat) {status : Status}
    (hstatus : status = .executionError ∨ status = .parseError ∨ status = .checkMacMiscompare)
    (hlength : command.data.length ≤ maxCommandData)
    (hperforms : command.Performs k (.error status) k') :
    Runs (Serves (σ := σ) calm) (exchange command expected) k (fun _ _ => False)
      (fun error l => (error = .status command.opcode status ∧ l = k') ∨ Cut calm k k' error l) := by
  refine (exchange_runs hlength hperforms (command.outcome?_refused expected hstatus)).mono ?_ ?_
  · intro payload l hl
    cases hl.1
  · intro error l hl
    rcases hl with ⟨houtcome, hl⟩ | ⟨hrough, ⟨n, rfl⟩, hl⟩
    · exact .inl ⟨(Except.error.inj houtcome).symm, hl⟩
    · exact .inr ⟨hrough, rfl, hl⟩

theorem exchangeAck_runs (hlength : command.data.length ≤ maxCommandData)
    (hperforms : command.Performs k (.ok []) k') :
    Runs (Serves (σ := σ) calm) (exchangeAck command) k (fun _ l => l = k') (Cut calm k k') := by
  refine (exchange_answered_runs hlength hperforms command.outcome?_done).bind ?_
  intro _ l hdone
  exact Runs.pure hdone.2

theorem emit_runs (event : Event) (fail : DeviceError → Core → Prop) :
    Runs (Serves (σ := σ) calm) (emit event) k (fun _ l => l = k) fail := by
  intro device hserves
  exact ⟨k, ⟨hserves.awake, hserves.core, hserves.undisturbed⟩, rfl⟩

theorem require_ok_runs {α : Type} {a : α} (fail : DeviceError → Core → Prop) :
    Runs (Serves (σ := σ) calm) (require (.ok a)) k (fun b l => b = a ∧ l = k) fail :=
  Runs.pure ⟨rfl, rfl⟩

/-! ## Reading -/

theorem readWord_runs {address : UInt8} (h : address.toNat * 4 + 4 ≤ 88) :
    Runs (Serves (σ := σ) calm) (readWord .config address) k
      (fun word l => word = k.memory.config.slice (address.toNat * 4) 4 ∧ l = k) (Cut calm k k) :=
  exchangeBytes_runs _ (by decide) (by decide) (Nat.zero_le _) (Chip.performs_read_config address h)

theorem readBlock_otp_runs {address : UInt8} (h : address.toNat * 4 + 32 ≤ 64) :
    Runs (Serves (σ := σ) calm) (readBlock .otp address) k
      (fun block l => block = k.memory.otp.slice (address.toNat * 4) 32 ∧ l = k) (Cut calm k k) :=
  exchangeBytes_runs _ (by decide) (by decide) (Nat.zero_le _) (Chip.performs_read_otp address h)

theorem readWords_runs (address : UInt8) (count : Nat) (h : address.toNat * 4 + 4 * count ≤ 88) :
    Runs (Serves (σ := σ) calm) (readWords .config address count) k
      (fun bytes l => bytes = (k.memory.config.toList.drop (address.toNat * 4)).take (4 * count) ∧ l = k)
      (Cut calm k k) := by
  induction count generalizing address with
  | zero => exact Runs.pure ⟨by simp, rfl⟩
  | succ count ih =>
    have hnext : (address + 1).toNat = address.toNat + 1 := by
      rw [UInt8.toNat_add]
      have : (1 : UInt8).toNat = 1 := rfl
      omega
    refine (readWord_runs (by omega)).bind ?_
    intro word l hl
    obtain ⟨rfl, rfl⟩ := hl
    refine (ih (address + 1) (by omega)).bind ?_
    intro rest l' hl'
    obtain ⟨rfl, rfl⟩ := hl'
    refine Runs.pure ⟨?_, rfl⟩
    have hcount : 4 * (count + 1) = 4 + 4 * count := by
      omega
    have haddress : (address.toNat + 1) * 4 = address.toNat * 4 + 4 := by
      omega
    rw [Bytes.toList_slice _ (by omega), hnext, hcount, haddress, List.take_add, List.drop_drop]

theorem configZone_runs :
    Runs (Serves (σ := σ) calm) configZone k
      (fun bytes l => bytes = k.memory.config.toList ∧ l = k) (Cut calm k k) := by
  refine (readWords_runs 0 22 (by decide)).mono ?_ fun _ _ h => h
  intro bytes l hl
  obtain ⟨rfl, rfl⟩ := hl
  refine ⟨?_, rfl⟩
  rw [show (0 : UInt8).toNat * 4 = 0 from rfl, List.drop_zero,
    List.take_of_length_le (by simp)]

theorem otpZone_runs :
    Runs (Serves (σ := σ) calm) otpZone k (fun otp l => otp = k.memory.otp ∧ l = k) (Cut calm k k) := by
  refine (require_ok_runs (a := 0) _).bind ?_
  intro _ _ hend
  obtain ⟨rfl, rfl⟩ := hend
  refine (readBlock_otp_runs (by decide)).bind ?_
  intro first _ hend
  obtain ⟨rfl, rfl⟩ := hend
  refine (require_ok_runs (a := 8) _).bind ?_
  intro _ _ hend
  obtain ⟨rfl, rfl⟩ := hend
  refine (readBlock_otp_runs (by decide)).bind ?_
  intro second l hl
  obtain ⟨rfl, rfl⟩ := hl
  refine Runs.pure ⟨?_, rfl⟩
  exact Bytes.slice_append_slice (m := 32) (n := 32) l.memory.otp

theorem serial_eq (memory : Memory) :
    memory.config.slice 0 4 ++ memory.config.slice 8 4 ++ (memory.config.slice 12 4).slice 0 1 =
      memory.serial := by
  have htail : (memory.config.slice 12 4).slice 0 1 = memory.config.slice 12 1 := by
    apply Bytes.ext_byte
    intro i hi
    obtain rfl : i = 0 := by
      omega
    simp [Bytes.byte_eq_getElem _ hi, Bytes.byte_eq_getElem (memory.config.slice 12 4)]
  have hjoin : (memory.config.slice 8 4).toList ++ (memory.config.slice 12 1).toList =
      (memory.config.slice 8 5).toList := by
    rw [Bytes.toList_slice _ (by decide), Bytes.toList_slice _ (by decide), Bytes.toList_slice _ (by decide),
      show 5 = 4 + 1 from rfl, List.take_add, List.drop_drop]
  apply Vector.toList_inj.1
  change (memory.config.slice 0 4 ++ memory.config.slice 8 4 ++ (memory.config.slice 12 4).slice 0 1).toList =
    (memory.config.slice 0 4 ++ memory.config.slice 8 5).toList
  rw [Vector.toList_append, Vector.toList_append, Vector.toList_append, htail, List.append_assoc, hjoin]

theorem serialNumber_runs :
    Runs (Serves (σ := σ) calm) serialNumber k (fun serial l => serial = k.memory.serial ∧ l = k)
      (Cut calm k k) := by
  refine (readWord_runs (by decide)).bind ?_
  intro first _ hend
  obtain ⟨rfl, rfl⟩ := hend
  refine (readWord_runs (by decide)).bind ?_
  intro second _ hend
  obtain ⟨rfl, rfl⟩ := hend
  refine (readWord_runs (by decide)).bind ?_
  intro third l hl
  obtain ⟨rfl, rfl⟩ := hl
  exact Runs.pure ⟨serial_eq l.memory, rfl⟩

/-! ## The lock word and the OTP mode -/

theorem lockWord_runs :
    Runs (Serves (σ := σ) calm) lockWord k (fun word l => word = k.memory.lockWord ∧ l = k)
      (Cut calm k k) :=
  readWord_runs (by decide)

@[simp] theorem isLockByteClosed_lockByte (memory : Memory) (zone : Zone) :
    isLockByteClosed (lockByte memory.lockWord zone) = memory.isClosed zone := by
  cases zone with
  | config => exact memory.isLockByteClosed_config
  | otp => exact memory.isLockByteClosed_data
  | data => exact memory.isLockByteClosed_data

theorem isLocked_runs (zone : Zone) :
    Runs (Serves (σ := σ) calm) (isLocked zone) k
      (fun locked l => locked = k.memory.isClosed zone ∧ l = k) (Cut calm k k) := by
  refine lockWord_runs.bind ?_
  rintro _ l ⟨rfl, rfl⟩
  exact Runs.pure ⟨isLockByteClosed_lockByte l.memory zone, rfl⟩

theorem lifecycle_runs :
    Runs (Serves (σ := σ) calm) lifecycle k
      (fun state l => Lifecycle.ofLocks k.memory.configLocked k.memory.dataLocked = .ok state ∧ l = k)
      (fun _ l => l = k ∧ (calm → k.memory.configLocked = false ∧ k.memory.dataLocked = true)) := by
  refine (lockWord_runs.mono (fun _ _ h => h) fun _ _ h => ⟨h.unchanged, fun c => absurd c h.1⟩).bind ?_
  intro word l hl
  obtain ⟨rfl, rfl⟩ := hl
  rw [Memory.ofLockWord_lockWord]
  cases hlocks : Lifecycle.ofLocks l.memory.configLocked l.memory.dataLocked with
  | error error =>
    refine Runs.bind_never (Runs.throw ⟨rfl, fun _ => ?_⟩)
    revert hlocks
    cases l.memory.configLocked <;> cases l.memory.dataLocked <;> simp [Lifecycle.ofLocks]
  | ok state =>
    refine (require_ok_runs _).bind ?_
    intro _ l hl
    obtain ⟨rfl, rfl⟩ := hl
    refine (emit_runs _ _).bind ?_
    intro _ l hl
    subst hl
    exact Runs.pure ⟨rfl, rfl⟩

theorem lifecycle_asleep_runs :
    Runs (Asleep (σ := σ)) lifecycle k (fun _ _ => False) (fun _ l => l = k) := by
  have hread : Runs (Asleep (σ := σ)) lockWord k (fun _ _ => False) (fun _ l => l = k) :=
    Runs.bind_never (exchange_asleep_runs _ _)
  exact Runs.bind_never hread

theorem isOtpReadOnly_runs :
    Runs (Serves (σ := σ) calm) isOtpReadOnly k
      (fun readOnly l => readOnly = (k.memory.config.byte 18 == 0xAA) ∧ l = k) (Cut calm k k) := by
  refine (readWord_runs (by decide)).bind ?_
  intro word l hl
  obtain ⟨rfl, rfl⟩ := hl
  refine Runs.pure ⟨?_, rfl⟩
  rw [Bytes.byte_eq_getElem _ (by decide), Bytes.getElem_slice]
  rfl

/-! ## Writing -/

theorem writeWord_runs (address : UInt8) (data : Word) (hopen : k.memory.configLocked = false)
    (hlow : 4 ≤ address) (hhigh : address < lockWordAddress) :
    Runs (Serves (σ := σ) calm) (writeWord .config address data) k
      (fun _ l => l = k.withMemory (k.memory.writeConfig (address.toNat * 4) data.toList))
      (Cut calm k (k.withMemory (k.memory.writeConfig (address.toNat * 4) data.toList))) :=
  exchangeAck_runs (by simp [maxCommandData]) (Chip.performs_write_config data hopen hlow hhigh)

section Policies

/-! Two slots share a config word, which holds the policy of the even one first. -/

variable {slot : UInt8}

theorem slotConfigAddress_eq (h : slot.toNat < 16) : slotConfigAddress slot = .ok (0x05 + slot / 2) := by
  unfold slotConfigAddress
  rw [checkKeySlot_eq h]
  rfl

theorem toNat_slotConfigAddress (h : slot.toNat < 16) : (0x05 + slot / 2).toNat = 5 + slot.toNat / 2 := by
  rw [UInt8.toNat_add, UInt8.toNat_div]
  change (5 + slot.toNat / 2) % 256 = 5 + slot.toNat / 2
  omega

theorem even_iff_toNat : slot % 2 = 0 ↔ slot.toNat % 2 = 0 := by
  rw [← UInt8.toNat_inj, UInt8.toNat_mod]
  rfl

theorem slotConfigAddress_pair (heven : slot % 2 = 0) (h : slot.toNat < 16) :
    (0x05 + slot / 2).toNat * 4 = 20 + 2 * slot.toNat := by
  rw [even_iff_toNat] at heven
  rw [toNat_slotConfigAddress h]
  omega

theorem ofWord_slice (memory : Memory) (h : slot.toNat < 16) :
    SlotConfig.ofWord (memory.config.slice ((0x05 + slot / 2).toNat * 4) 4) slot =
      memory.slotConfig ⟨slot.toNat, h⟩ := by
  rw [SlotConfig.ofWord, Memory.slotConfig, toNat_slotConfigAddress h]
  by_cases heven : slot.toNat % 2 = 0
  · have hplace : (5 + slot.toNat / 2) * 4 + 0 = 20 + 2 * slot.toNat := by omega
    rw [if_pos (even_iff_toNat.2 heven), Bytes.slice_slice _ (by decide), hplace]
  · have hplace : (5 + slot.toNat / 2) * 4 + 2 = 20 + 2 * slot.toNat := by omega
    rw [if_neg (mt even_iff_toNat.1 heven), Bytes.slice_slice _ (by decide), hplace]

theorem slotConfig_runs (h : slot.toNat < 16) :
    Runs (Serves (σ := σ) calm) (slotConfig slot) k
      (fun config l => config = k.memory.slotConfig ⟨slot.toNat, h⟩ ∧ l = k) (Cut calm k k) := by
  have hfits : (0x05 + slot / 2).toNat * 4 + 4 ≤ 88 := by
    rw [toNat_slotConfigAddress h]
    omega
  unfold slotConfig
  rw [slotConfigAddress_eq h]
  refine (require_ok_runs _).bind ?_
  rintro _ _ ⟨rfl, rfl⟩
  refine (readWord_runs hfits).bind ?_
  rintro _ l ⟨rfl, rfl⟩
  exact Runs.pure ⟨ofWord_slice l.memory h, rfl⟩

theorem writeSlotConfigs_eq (heven : slot % 2 = 0) (h : slot.toNat < 16) (even odd : SlotConfig) :
    writeSlotConfigs (σ := σ) slot even odd =
      writeWord .config (0x05 + slot / 2) (SlotConfig.pairToWord even odd) := by
  unfold writeSlotConfigs
  rw [if_neg (not_not.2 heven), slotConfigAddress_eq h]
  rfl

theorem slotConfigAddress_writable (h : slot.toNat < 16) :
    4 ≤ 0x05 + slot / 2 ∧ 0x05 + slot / 2 < lockWordAddress := by
  have haddress := toNat_slotConfigAddress h
  have hlow : (4 : UInt8).toNat = 4 := rfl
  have hlock : lockWordAddress.toNat = 21 := rfl
  rw [UInt8.le_iff_toNat_le, UInt8.lt_iff_toNat_lt, haddress, hlow, hlock]
  omega

theorem writeSlotConfigs_runs (heven : slot % 2 = 0) (h : slot.toNat < 16) (even odd : SlotConfig)
    (hopen : k.memory.configLocked = false) :
    let written := k.memory.writeConfig (20 + 2 * slot.toNat) (SlotConfig.pairToWord even odd).toList
    Runs (Serves (σ := σ) calm) (writeSlotConfigs slot even odd) k (fun _ l => l = k.withMemory written)
      (Cut calm k (k.withMemory written)) := by
  intro written
  obtain ⟨hlow, hhigh⟩ := slotConfigAddress_writable h
  have hwrite : Runs (Serves (σ := σ) calm) _ k _ _ :=
    writeWord_runs (0x05 + slot / 2) (SlotConfig.pairToWord even odd) hopen hlow hhigh
  rw [slotConfigAddress_pair heven h] at hwrite
  rw [writeSlotConfigs_eq heven h]
  exact hwrite

end Policies

theorem writeBlock_none (zone : Zone) (address : UInt8) (data : Block) :
    writeBlock (σ := σ) zone address data none =
      exchangeAck ⟨.write, zone.blockParam, Bytes.pair address 0, data.toList⟩ := by
  rw [writeBlock, Option.elim_none, List.append_nil]

theorem writeBlock_otp_runs {address : UInt8} (data : Block) (hconfig : k.memory.configLocked = true)
    (hopen : k.memory.dataLocked = false) (h : address.toNat * 4 + 32 ≤ 64) :
    Runs (Serves (σ := σ) calm) (writeBlock .otp address data none) k
      (fun _ l => l = k.withMemory (k.memory.writeOtp (address.toNat * 4) data.toList))
      (Cut calm k (k.withMemory (k.memory.writeOtp (address.toNat * 4) data.toList))) := by
  rw [writeBlock_none]
  exact exchangeAck_runs (by simp [maxCommandData]) (Chip.performs_write_otp data hconfig hopen h)

theorem blockAddress_data {slot : UInt8} (hslot : slot.toNat < 16) :
    Zone.data.blockAddress slot = .ok (slot <<< 3) := by
  unfold Zone.blockAddress
  rw [if_neg]
  change ¬ (15 : UInt8) < slot
  rw [UInt8.not_lt, UInt8.le_iff_toNat_le]
  exact Nat.le_of_lt_succ hslot

theorem writeKeySlot_runs (slot : UInt8) (hslot : slot.toNat < 16) (key : Block)
    (hconfig : k.memory.configLocked = true) (hopen : k.memory.dataLocked = false) :
    Runs (Serves (σ := σ) calm) (writeKeySlot slot key) k
      (fun _ l => l = k.withMemory (k.memory.writeSlot ⟨slot.toNat, hslot⟩ key))
      (Cut calm k (k.withMemory (k.memory.writeSlot ⟨slot.toNat, hslot⟩ key))) := by
  unfold writeKeySlot
  rw [blockAddress_data hslot]
  refine (require_ok_runs _).bind ?_
  intro _ _ hend
  obtain ⟨rfl, rfl⟩ := hend
  rw [writeBlock_none]
  exact exchangeAck_runs (by simp [maxCommandData]) (Chip.performs_write_slot hslot key hconfig hopen)

/-! ## Locking -/

theorem decode_lockParam_target (zone : Zone) (crc : Option UInt16) :
    Flag.decode 0x01 (lockParam zone crc) = decide (zone ≠ .config) := by
  unfold lockParam
  generalize crc.isNone = skips
  cases zone <;> cases skips <;> decide

theorem decode_lockParam_skips (zone : Zone) (crc : Option UInt16) :
    Flag.decode 0x80 (lockParam zone crc) = crc.isNone := by
  unfold lockParam
  generalize crc.isNone = skips
  cases zone <;> cases skips <;> decide

inductive LockFails (calm : Prop) (k : Core) (zone : Zone) (crc : Option UInt16) : DeviceError → Core → Prop where
  /-- The host sees that the zone is locked already. -/
  | closed (h : k.memory.isClosed zone = true) : LockFails calm k zone crc (.precondition (.zoneLocked zone)) k
  | refused (hopen : k.memory.isClosed zone = false) (h : ¬ k.memory.Lockable zone crc) :
      LockFails calm k zone crc (.status .lock .executionError) k
  | cut {error : DeviceError} {l : Core} (h : Cut calm k (k.withMemory (k.memory.close zone)) error l) :
      LockFails calm k zone crc error l

theorem lock_runs (zone : Zone) (crc : Option UInt16) :
    Runs (Serves (σ := σ) calm) (lock zone crc) k
      (fun _ l => k.memory.Lockable zone crc ∧ l = k.withMemory (k.memory.close zone))
      (LockFails calm k zone crc) := by
  refine ((isLocked_runs zone).mono (fun _ _ h => h) fun _ _ h => .cut h.widen).bind ?_
  rintro _ l ⟨rfl, rfl⟩
  cases hclosed : l.memory.isClosed zone with
  | true => exact Runs.bind_never (Runs.throw (.closed hclosed))
  | false =>
    have htarget := decode_lockParam_target zone crc
    have hskips := decode_lockParam_skips zone crc
    by_cases hlockable : l.memory.Lockable zone crc
    · exact (exchangeAck_runs (Nat.zero_le _) (Chip.performs_lock htarget hskips hlockable)).mono
        (fun _ _ h => ⟨hlockable, h⟩) fun _ _ h => .cut h
    · refine Runs.bind_never ((exchange_refused_runs 1 (.inl rfl) (Nat.zero_le _)
        (Chip.performs_lock_refused htarget hskips hlockable)).mono (fun _ _ h => h) ?_)
      rintro error l' (⟨rfl, rfl⟩ | hcut)
      · exact .refused hclosed hlockable
      · exact .cut hcut.widen

/-- A zone that can be locked is locked, unless a disturbance cuts the operation off. -/
theorem lock_lockable_runs {zone : Zone} {crc : Option UInt16} (h : k.memory.Lockable zone crc) :
    Runs (Serves (σ := σ) calm) (lock zone crc) k (fun _ l => l = k.withMemory (k.memory.close zone))
      (Cut calm k (k.withMemory (k.memory.close zone))) := by
  refine (lock_runs zone crc).mono (fun _ _ hdone => hdone.2) ?_
  intro error l hfails
  cases hfails with
  | closed hclosed => exact Bool.noConfusion (h.opened.symm.trans hclosed)
  | refused _ hrefused => exact absurd h hrefused
  | cut hcut => exact hcut

theorem lock_config_runs (hopen : k.memory.configLocked = false) :
    Runs (Serves (σ := σ) calm) (lock .config (some (Crc16.compute k.memory.config.toList))) k
      (fun _ l => l = k.withMemory k.memory.lockConfig)
      (Cut calm k (k.withMemory k.memory.lockConfig)) :=
  lock_lockable_runs ⟨hopen, fun hzone => absurd rfl hzone, fun _ hsum => (Option.some.inj hsum).symm⟩

theorem lock_data_runs (hconfig : k.memory.configLocked = true) (hopen : k.memory.dataLocked = false) :
    Runs (Serves (σ := σ) calm) (lock .data (some (Crc16.compute k.memory.dataImage))) k
      (fun _ l => l = k.withMemory k.memory.lockData)
      (Cut calm k (k.withMemory k.memory.lockData)) :=
  lock_lockable_runs ⟨hopen, fun _ => hconfig, fun _ hsum => (Option.some.inj hsum).symm⟩

/-! ## Random numbers -/

theorem random_runs :
    Runs (Serves (σ := σ) calm) (random false) k (fun block l => block = k.nextRandom ∧ l = k.draw)
      (Cut calm k k.draw) :=
  exchangeBytes_runs _ (by decide) (by decide) (Nat.zero_le _) (Chip.performs_random _)

theorem randomBlocks_runs (count : Nat) :
    Runs (Serves (σ := σ) calm) (randomBlocks false count) k
      (fun _ l => l.memory = k.memory ∧ l.tempKey = k.tempKey)
      (fun _ l => ¬calm ∧ l.memory = k.memory) := by
  induction count with
  | zero => exact Runs.pure ⟨rfl, rfl⟩
  | succ count ih =>
    refine ih.bind ?_
    intro blocks l hl
    obtain ⟨hmemory, htemp⟩ := hl
    refine (random_runs.mono (fun _ _ h => h) ?_).bind ?_
    · intro error l' hl'
      obtain ⟨hrough, _, rfl | rfl⟩ := hl'
      · exact ⟨hrough, hmemory⟩
      · exact ⟨hrough, hmemory⟩
    · intro block l' hl'
      obtain ⟨rfl, rfl⟩ := hl'
      exact Runs.pure ⟨hmemory, htemp⟩

end Device

theorem KeySet.generate_runs :
    Runs (Device.Serves (σ := σ) calm) KeySet.generate k (fun _ l => l.memory = k.memory)
      (fun _ l => ¬calm ∧ l.memory = k.memory) := by
  refine (Device.randomBlocks_runs 16).bind ?_
  intro blocks l hl
  obtain ⟨hmemory, _⟩ := hl
  exact Runs.pure hmemory

end SecureElement
