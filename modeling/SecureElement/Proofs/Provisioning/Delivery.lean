import SecureElement.Proofs.Provisioning.Recovery
/-!
# Delivered chips

What an undisturbed run makes of a new chip: one memory for each key set, with the same policies whatever the keys
are, and a handle that goes on serving it.
-/

namespace SecureElement

variable {σ κ : Type} [ChipBus σ]

namespace Device

/-- The chip is awake and holds the memory, and nothing that happens to it can exhaust a command. -/
structure Ready (memory : Memory) (device : Device σ) : Prop where
  awake : device.bench.chip.awake = true
  holds : device.bench.chip.memory = memory
  undisturbed : device.Undisturbed device.retryBudget

variable {memory : Memory} {device : Device σ}

theorem Ready.serves (h : device.Ready memory) : ∃ k : Core, k.memory = memory ∧ Serves True k device :=
  ⟨device.bench.chip.core, h.holds, h.awake, rfl, fun _ => h.undisturbed⟩

theorem Serves.ready {k : Core} (h : Serves True k device) : device.Ready k.memory :=
  ⟨h.awake, congrArg Core.memory h.core, h.undisturbed trivial⟩

def newChip : Device Chip :=
  ofBus { awake := true }

theorem ready_newChip : newChip.Ready .factory :=
  ⟨rfl, rfl, rfl, rfl, by decide⟩

end Device

namespace Memory

def delivered (keySet : KeySet) : Memory :=
  factory.configured.lockConfig.personalized keySet

def deliveredPolicy (slot : Fin 16) : SlotConfig :=
  if slot.val % 2 = 0 then Provisioning.evenSlotConfig else Provisioning.oddSlotConfig

variable {keySet : KeySet}

theorem delivered_config (keySet : KeySet) :
    (delivered keySet).config = factory.configured.lockConfig.lockData.config := by
  unfold delivered personalized
  rw [lockData_config, lockData_config]

theorem delivered_otp (keySet : KeySet) : (delivered keySet).otp = otpImage version :=
  personalized_otp _ _

theorem delivered_data (keySet : KeySet) : (delivered keySet).data = keySet.keys :=
  personalized_data _ _

theorem delivered_key (keySet : KeySet) (slot : Fin 16) : (delivered keySet).key slot = keySet.keys.get slot := by
  rw [key, delivered_data]

theorem delivered_slotConfig (keySet : KeySet) (slot : Fin 16) :
    (delivered keySet).slotConfig slot = deliveredPolicy slot := by
  have hall : ∀ slot : Fin 16,
      SlotConfig.decode (factory.configured.lockConfig.lockData.config.slice (20 + 2 * slot.val) 2) =
        deliveredPolicy slot := by
    decide +kernel
  unfold slotConfig
  rw [delivered_config]
  exact hall slot

theorem Resumable.eq_delivered {memory : Memory} (h : Resumable memory) (hlocked : memory.dataLocked = true)
    (hdata : memory.data = keySet.keys) : memory = delivered keySet := by
  obtain ⟨hconfig, hotp⟩ := h.of_locked hlocked
  calc memory = ⟨memory.config, memory.otp, memory.data⟩ := rfl
    _ = ⟨(delivered keySet).config, (delivered keySet).otp, (delivered keySet).data⟩ := by
      rw [hconfig, hotp, hdata, delivered_config, delivered_otp, delivered_data]
    _ = delivered keySet := rfl

end Memory

namespace Provisioning

variable [KeyStore κ] {device : Device σ} {store : κ}

/-- An undisturbed run on a new chip that succeeds has written the keys that it recorded. -/
theorem run_delivers {keys : Option KeySet} {state : Lifecycle} {final : Provisioning σ κ}
    (hnew : device.Ready .factory)
    (hrun : run .personalized keys device store = .ok state final) :
    ∃ keySet, Suits keys keySet ∧ KeyStore.record keySet store = .ok () final.store ∧
      final.device.Ready (.delivered keySet) := by
  have hstands := stands_awake True store hnew.awake fun _ => hnew.undisturbed
  obtain ⟨⟨m, s⟩, ⟨⟨k, hk, hserves⟩, hs⟩, hsteps, hstate, hgoal, hkeys⟩ :=
    (provision_runs .personalized keys).of_ok hstands hrun
  obtain rfl : k.memory = m := hk
  obtain rfl := hs
  rw [hnew.holds] at hsteps hkeys
  obtain rfl : state = .personalized := by
    revert hgoal
    cases state <;> decide
  have hlocked := (Lifecycle.ofLocks_eq_ok_iff.1 hstate).2
  obtain ⟨keySet, hsuits, hrecord, hdata⟩ := hkeys Memory.dataLocked_factory rfl
  have hresumable := Memory.Resumable.reflTransGen hsteps Memory.resumable_factory
  refine ⟨keySet, hsuits, hrecord, ?_⟩
  rw [← hresumable.eq_delivered hlocked hdata]
  exact hserves.ready

theorem run_succeeds_new (keys : Option KeySet) (hnew : device.Ready .factory) (hstore : ¬ Refuses keys store) :
    ∃ final keySet, run .personalized keys device store = .ok .personalized final ∧ Suits keys keySet ∧
      final.device.Ready (.delivered keySet) := by
  have hconfig : device.bench.chip.memory.configLocked = false := by
    rw [hnew.holds, Memory.configLocked_factory]
  have hdata : device.bench.chip.memory.dataLocked = false := by
    rw [hnew.holds, Memory.dataLocked_factory]
  obtain ⟨final, hrun, _⟩ := run_succeeds keys device store hnew.awake hnew.undisturbed
    (fun hwrong => absurd (hdata.symm.trans hwrong.2) (by decide))
    (fun hwrong => absurd (hconfig.symm.trans hwrong) (by decide)) fun _ => hstore
  obtain ⟨keySet, hsuits, _, hready⟩ := run_delivers hnew hrun
  exact ⟨final, keySet, hrun, hsuits, hready⟩

end Provisioning

end SecureElement
