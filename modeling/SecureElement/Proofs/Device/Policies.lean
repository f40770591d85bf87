import SecureElement.Proofs.Chip.ZoneAccess
import SecureElement.Proofs.Device.Retries
import SecureElement.Proofs.Device.Zones
import SecureElement.Proofs.SlotConfig
/-!
# Slot policies

The policies that the host writes for a pair of slots are the ones the chip goes by from then on and the ones it
tells. Those of all other slots are what they were, and so is every byte outside the word of the pair.
-/

namespace SecureElement

/-! ## The word of a pair -/

theorem Bytes.slice_overwrite {n len : Nat} (old : Bytes n) (part : Bytes len) {start : Nat}
    {before after : List UInt8} (hfits : start + (before ++ part.toList ++ after).length ≤ n) :
    (overwrite old start (before ++ part.toList ++ after)).slice (start + before.length) len = part := by
  apply ext_byte
  intro i hi
  have hpart : i < part.toList.length := by
    rwa [Vector.length_toList]
  have hinside : before.length + i < (before ++ part.toList ++ after).length := by
    simp only [List.length_append]
    omega
  calc ((overwrite old start (before ++ part.toList ++ after)).slice (start + before.length) len).byte i
      _ = (overwrite old start (before ++ part.toList ++ after)).byte (start + (before.length + i)) := by
        rw [byte_eq_getElem _ hi, getElem_slice, Nat.add_assoc]
      _ = (before ++ part.toList ++ after).getD (before.length + i) 0 :=
        Memory.byte_overwrite_inside old hfits hinside
      _ = part.toList.getD i 0 := by
        rw [List.append_assoc, List.getD_append_right _ _ _ _ (by omega), Nat.add_sub_cancel_left,
          List.getD_append _ _ _ _ hpart]
      _ = part.byte i := getD_toList part hi

def withPolicies (policies : Fin 16 → SlotConfig) (slot : Nat) (even odd : SlotConfig) : Fin 16 → SlotConfig :=
  fun other => if other.val = slot then even else if other.val = slot + 1 then odd else policies other

namespace Memory

variable {a b : Memory}

theorem slotConfig_congr {slot : Fin 16}
    (h : ∀ i, 20 + 2 * slot.val ≤ i → i < 22 + 2 * slot.val → a.config.byte i = b.config.byte i) :
    a.slotConfig slot = b.slotConfig slot := by
  have hbytes : a.config.slice (20 + 2 * slot.val) 2 = b.config.slice (20 + 2 * slot.val) 2 := by
    apply Bytes.ext_byte
    intro i hi
    rw [Bytes.byte_eq_getElem _ hi, Bytes.byte_eq_getElem _ hi, Bytes.getElem_slice, Bytes.getElem_slice]
    exact h _ (by omega) (by omega)
  rw [slotConfig, slotConfig, hbytes]

def withPair (memory : Memory) (slot : Nat) (even odd : SlotConfig) : Memory :=
  memory.writeConfig (20 + 2 * slot) (SlotConfig.pairToWord even odd).toList

variable (memory : Memory) {slot : Nat} {even odd : SlotConfig}

theorem slotConfig_withPair_even (hslot : slot < 15) (heven : SlotConfig.decode even.encode = even) :
    (memory.withPair slot even odd).slotConfig ⟨slot, by omega⟩ = even := by
  have hword : (SlotConfig.pairToWord even odd).toList = [] ++ even.encode.toList ++ odd.encode.toList :=
    Vector.toList_append ..
  have hfits : 20 + 2 * slot + ([] ++ even.encode.toList ++ odd.encode.toList).length ≤ 88 := by
    simp
    omega
  have hhalf := Bytes.slice_overwrite memory.config even.encode hfits
  rw [slotConfig, withPair, writeConfig, hword]
  exact (congrArg SlotConfig.decode hhalf).trans heven

theorem slotConfig_withPair_odd (hslot : slot < 15) (hodd : SlotConfig.decode odd.encode = odd) :
    (memory.withPair slot even odd).slotConfig ⟨slot + 1, by omega⟩ = odd := by
  have hword : (SlotConfig.pairToWord even odd).toList = even.encode.toList ++ odd.encode.toList ++ [] := by
    rw [List.append_nil]
    exact Vector.toList_append ..
  have hfits : 20 + 2 * slot + (even.encode.toList ++ odd.encode.toList ++ []).length ≤ 88 := by
    simp
    omega
  have hhalf := Bytes.slice_overwrite memory.config odd.encode hfits
  rw [slotConfig, withPair, writeConfig, hword]
  exact (congrArg SlotConfig.decode hhalf).trans hodd

theorem slotConfig_withPair (hslot : slot < 15) (heven : SlotConfig.decode even.encode = even)
    (hodd : SlotConfig.decode odd.encode = odd) :
    (memory.withPair slot even odd).slotConfig = withPolicies memory.slotConfig slot even odd := by
  funext other
  unfold withPolicies
  split
  · next h =>
    subst h
    exact memory.slotConfig_withPair_even hslot heven
  · next hne =>
    split
    · next h =>
      have hother : other = ⟨slot + 1, by omega⟩ := Fin.ext h
      rw [hother]
      exact memory.slotConfig_withPair_odd hslot hodd
    · next hne' =>
      apply slotConfig_congr
      intro i hlow hhigh
      apply byte_overwrite_outside
      rw [Vector.length_toList]
      omega

theorem byteAt_withPair (hslot : slot < 15) (zone : Zone) (i : Nat)
    (h : zone = .config → i < 20 + 2 * slot ∨ 24 + 2 * slot ≤ i) :
    (memory.withPair slot even odd).byteAt zone i = memory.byteAt zone i := by
  have hwritten : Written memory (memory.withPair slot even odd) .config (20 + 2 * slot)
      (SlotConfig.pairToWord even odd).toList := memory.written_writeConfig Vector.length_toList (by omega)
  apply hwritten.outside
  rw [Vector.length_toList]
  by_cases hzone : zone = .config
  · right
    have := h hzone
    omega
  · exact .inl hzone

end Memory

theorem SlotConfig.decode_encode_of_checked {config : SlotConfig} (h : config.checked = .ok config) :
    decode config.encode = config := by
  by_cases hread : config.readKey.toNat < 16
  · by_cases hwrite : config.writeKey.toNat < 16
    · exact decode_encode hread hwrite
    · simp [checked, checkKeySlot_eq hread, checkKeySlot_eq_error hwrite, bind, Except.bind] at h
  · simp [checked, checkKeySlot_eq_error hread, bind, Except.bind] at h

namespace Device

variable {device : Device Chip} {slot : UInt8} {even odd : SlotConfig}

/-! ## Writing the pair -/

theorem writeSlotConfigs_succeeds (hpair : slot % 2 = 0) (hslot : slot.toNat < 16) (even odd : SlotConfig)
    (hawake : device.bus.awake = true) (hopen : device.bus.memory.configLocked = false)
    (hcalm : device.Undisturbed device.retryBudget) :
    ∃ device', writeSlotConfigs slot even odd device = .ok () device' ∧
      Serves True (device.bus.core.withMemory (device.bus.memory.withPair slot.toNat even odd)) device' := by
  have hserves : Serves True device.bus.core device := ⟨hawake, rfl, fun _ => hcalm⟩
  obtain ⟨_, device', _, hrun, hserves', rfl⟩ :=
    (writeSlotConfigs_runs hpair hslot even odd hopen).exists_ok hserves fun _ _ hcut => hcut.1 trivial
  exact ⟨device', hrun, hserves'⟩

/-- The chip takes the word although the host gives up waiting for it to say so. -/
theorem writeSlotConfigs_unanswered (hpair : slot % 2 = 0) (hslot : slot.toNat < 16) (even odd : SlotConfig)
    (hawake : device.bus.awake = true) (hopen : device.bus.memory.configLocked = false)
    (hfaults : device.bus.faults = []) (hleft : device.retryBudget ≤ device.bus.stalls) :
    ∃ device', writeSlotConfigs slot even odd device = .error (.retryExhausted .write device.retryBudget) device' ∧
      device'.bus.memory = device.bus.memory.withPair slot.toNat even odd := by
  let command : Command :=
    ⟨.write, Zone.config.bits, Bytes.pair (0x05 + slot / 2) 0, (SlotConfig.pairToWord even odd).toList⟩
  have hlength : command.data.length ≤ maxCommandData := by
    simp [command, maxCommandData]
  obtain ⟨hlow, hhigh⟩ := slotConfigAddress_writable hslot
  have hperforms : command.Performs device.bus.core _ _ :=
    Chip.performs_write_config (SlotConfig.pairToWord even odd) hopen hlow hhigh
  rw [slotConfigAddress_pair hpair hslot] at hperforms
  obtain ⟨device', hexchange, hcore, _⟩ := exchange_unanswered hlength hawake hfaults hleft
  have hperformed : (Chip.performed command device.bus).core =
      device.bus.core.withMemory (device.bus.memory.withPair slot.toNat even odd) := by
    unfold Chip.performed
    rw [hperforms device.bus rfl]
    rfl
  refine ⟨device', ?_, ?_⟩
  · rw [writeSlotConfigs_eq hpair hslot]
    change (exchange command 1 >>= _) device = _
    change exchange command 1 device = _ at hexchange
    rw [bind_apply, hexchange]
  · rw [hperformed] at hcore
    exact congrArg Core.memory hcore

/-! ## Reading the policies -/

/-- Whatever slots the host asks about, one after the other, it is told these policies. -/
def TellsPolicies (device : Device Chip) (policies : Fin 16 → SlotConfig) : Prop :=
  ∀ slots : List (Fin 16), ∃ device',
    slots.mapM (fun slot => slotConfig (UInt8.ofNat slot.val)) device = .ok (slots.map policies) device'

theorem Serves.tellsPolicies {k : Core} (h : Serves True k device) : TellsPolicies device k.memory.slotConfig := by
  intro slots
  have hruns : Runs (Serves (σ := Chip) True) (slots.mapM fun slot => slotConfig (UInt8.ofNat slot.val)) k
      (fun policies l => policies = slots.map k.memory.slotConfig ∧ l = k) (Cut True k k) := by
    apply Runs.mapM_each
    intro slot _
    have hslot : (UInt8.ofNat slot.val).toNat = slot.val := by
      rw [UInt8.toNat_ofNat']
      omega
    refine (slotConfig_runs (by omega)).mono ?_ fun _ _ h => h
    rintro _ l ⟨rfl, rfl⟩
    refine ⟨?_, rfl⟩
    congr 1
    exact Fin.ext hslot
  obtain ⟨_, device', _, hrun, _, rfl, _⟩ := hruns.exists_ok h fun _ _ hcut => hcut.1 trivial
  exact ⟨device', hrun⟩

/-- Without faults, and while the Config zone is open, the policies that are written for a pair of slots are the ones
that the chip goes by afterwards; nothing else in it changes. Those that the host is told are the ones that the chip
goes by, before and after, while there are attempts left to wait for it. -/
theorem writeSlotConfigs_enforced (device : Device Chip) (slot : UInt8) (even odd : SlotConfig)
    (hpair : slot % 2 = 0) (hslot : slot.toNat < 16) (heven : even.checked = .ok even) (hodd : odd.checked = .ok odd)
    (hawake : device.bus.awake = true) (hopen : device.bus.memory.configLocked = false)
    (hfaults : device.bus.faults = []) :
    let memory := device.bus.memory
    let policies := withPolicies memory.slotConfig slot.toNat even odd
    let ended := writeSlotConfigs slot even odd device
    let device' := finalState ended
    device'.bus.memory.slotConfig = policies ∧
    (∀ zone i, (zone = .config → i < 20 + 2 * slot.toNat ∨ 24 + 2 * slot.toNat ≤ i) →
      device'.bus.memory.byteAt zone i = memory.byteAt zone i) ∧
    (device.bus.stalls < device.retryBudget →
      ended = .ok () device' ∧ TellsPolicies device memory.slotConfig ∧ TellsPolicies device' policies) ∧
    (device.retryBudget ≤ device.bus.stalls →
      ended = .error (.retryExhausted .write device.retryBudget) device') := by
  intro memory policies ended device'
  have hslot' : slot.toNat < 15 := by
    have hparity := even_iff_toNat.1 hpair
    omega
  have hpolicies : (memory.withPair slot.toNat even odd).slotConfig = policies :=
    memory.slotConfig_withPair hslot' (SlotConfig.decode_encode_of_checked heven)
      (SlotConfig.decode_encode_of_checked hodd)
  by_cases hstalls : device.bus.stalls < device.retryBudget
  · have hcalm : device.Undisturbed device.retryBudget := ⟨rfl, hfaults, hstalls⟩
    obtain ⟨written, hrun, hserves⟩ := writeSlotConfigs_succeeds hpair hslot even odd hawake hopen hcalm
    have hended : ended = .ok () written := hrun
    have hmemory : written.bus.memory = memory.withPair slot.toNat even odd := congrArg Core.memory hserves.core
    have hbefore : Serves True device.bus.core device := ⟨hawake, rfl, fun _ => hcalm⟩
    have hafter := hserves.tellsPolicies
    rw [Core.withMemory_memory, hpolicies] at hafter
    simp only [device', hended, finalState, hmemory]
    exact ⟨hpolicies, memory.byteAt_withPair hslot', fun _ => ⟨trivial, hbefore.tellsPolicies, hafter⟩,
      fun hleft => absurd hstalls (Nat.not_lt.2 hleft)⟩
  · obtain ⟨written, hrun, hmemory⟩ :=
      writeSlotConfigs_unanswered hpair hslot even odd hawake hopen hfaults (Nat.le_of_not_lt hstalls)
    have hended : ended = .error (.retryExhausted .write device.retryBudget) written := hrun
    simp only [device', hended, finalState, hmemory]
    exact ⟨hpolicies, memory.byteAt_withPair hslot', fun h => absurd h hstalls, fun _ => trivial⟩

/-- A new chip takes an encrypted slot next to one that only checks. -/
theorem writeSlotConfigs_enforced_factory :
    let device : Device Chip := ofBus { awake := true }
    let sealing : SlotConfig := { readKey := 1, isSecret := true, writeKey := 3, writePolicy := .encrypt }
    let checking : SlotConfig := { checkOnly := true, singleUse := true, deriveKey := true, writePolicy := .never }
    ∃ device', writeSlotConfigs 2 sealing checking device = .ok () device' ∧
      device'.bus.memory.slotConfig 2 = sealing ∧ device'.bus.memory.slotConfig 3 = checking := by
  intro device sealing checking
  have hstalls : device.bus.stalls < device.retryBudget := by decide
  obtain ⟨hpolicies, _, hready, _⟩ := writeSlotConfigs_enforced device 2 sealing checking rfl (by decide) rfl rfl rfl
    Memory.configLocked_factory rfl
  refine ⟨_, (hready hstalls).1, ?_, ?_⟩
  · rw [hpolicies]
    rfl
  · rw [hpolicies]
    rfl

/-- A chip that stays busy for a whole budget of attempts has the host fail, although no fault is due. -/
theorem writeSlotConfigs_fails_busy :
    let chip : Chip := { awake := true, stalls := defaultRetryBudget }
    let config : SlotConfig := {}
    chip.faults = [] ∧ chip.memory.configLocked = false ∧ config.checked = .ok config ∧
      ¬ ∃ device', writeSlotConfigs 0 config config (ofBus chip) = .ok () device' := by
  intro chip config
  refine ⟨rfl, Memory.configLocked_factory, rfl, ?_⟩
  rintro ⟨device', hrun⟩
  have hpair : (0 : UInt8) % 2 = 0 := rfl
  have hawake : (ofBus chip).bus.awake = true := rfl
  obtain ⟨failed, hfailed, _⟩ := writeSlotConfigs_unanswered hpair (by decide) config config hawake
    Memory.configLocked_factory rfl (Nat.le_refl defaultRetryBudget)
  cases hfailed.symm.trans hrun

end Device

end SecureElement
