import SecureElement.Proofs.Device.Lockstep
import SecureElement.Proofs.Provisioning.Progress
/-!
# Provisioning in lockstep

A provisioning run reaches the device through its operations alone, so it keeps alike what they keep alike.
-/

namespace SecureElement

open Device (Lockstep)

theorem KeySet.generate_alike {σ τ : Type} [Bus σ] [Bus τ] {R : Device σ → Device τ → Prop}
    (hdraw : Alike R (Device.random false) (Device.random false)) : Alike R generate generate :=
  (Lockstep.randomBlocks_of_random hdraw 16).bind fun _ => Alike.pure _

theorem Device.lifecycle_unlogged {σ : Type} [Bus σ] :
    Alike (fun (device : Device (Logged σ)) (other : Device σ) => device.unlogged = other) lifecycle lifecycle := by
  apply lockstep_unlogged.reads.lifecycle
  rintro state device _ rfl
  rfl

namespace Provisioning

variable {σ τ κ α : Type}

/-- Two runs with related devices that are otherwise the same. -/
structure Abreast (R : Device σ → Device τ → Prop) (run : Provisioning σ κ) (other : Provisioning τ κ) :
    Prop where
  device : R run.device other.device
  store : run.store = other.store
  phase : run.phase = other.phase

section

variable {R : Device σ → Device τ → Prop}

theorem onDevice_alike {op : DeviceM σ α} {op' : DeviceM τ α} (h : Alike R op op') :
    Alike (Abreast (κ := κ) R) (onDevice op) (onDevice op') := by
  intro run other habreast
  have hagree := h run.device other.device habreast.device
  unfold onDevice
  generalize op run.device = result, op' other.device = result' at hagree ⊢
  cases hagree with
  | ok h' => exact .ok ⟨h', habreast.store, habreast.phase⟩
  | error h' => exact .error ⟨h', habreast.store, habreast.phase⟩

theorem onStore_alike (action : EStateM KeyStoreError κ α) :
    Alike (Abreast R) (onStore action) (onStore action) := by
  intro run other habreast
  unfold onStore
  rw [← habreast.store]
  cases action run.store with
  | ok value store => exact .ok ⟨habreast.device, rfl, habreast.phase⟩
  | error error store => exact .error ⟨habreast.device, rfl, habreast.phase⟩

variable [Bus σ] [Bus τ]

/-! ### The jobs of the device

Each needs no more of the relation than that the exchanges it makes keep it. -/

theorem writeConfigZone_alike
    (hwrite : ∀ address data,
      Alike R (Device.writeWord .config address data) (Device.writeWord .config address data)) :
    Alike R writeConfigZone writeConfigZone := by
  apply (Alike.forM (fun _ => Lockstep.writeSlotConfigs_of_writeWord hwrite) _).bind
  intro _
  exact hwrite _ _

theorem lockConfigZone_alike (hreads : Device.ReadsAlike R)
    (hlock : ∀ crc, Alike R (Device.lock .config (some crc)) (Device.lock .config (some crc))) :
    Alike R lockConfigZone lockConfigZone :=
  hreads.configZone.bind fun _ => hlock _

section

variable (hwrite : ∀ address data,
  Alike R (Device.writeBlock .otp address data none) (Device.writeBlock .otp address data none))
include hwrite

theorem writeOtpBlock_alike (block : UInt8) (data : Block) :
    Alike R (writeOtpBlock block data) (writeOtpBlock block data) :=
  (Lockstep.require _).bind fun _ => hwrite _ _

theorem writeOtpZone_alike (hreads : Device.ReadsAlike R) : Alike R writeOtpZone writeOtpZone := by
  apply hreads.isOtpReadOnly.bind
  intro readOnly
  apply Alike.guarded
  apply (writeOtpBlock_alike hwrite _ _).bind
  intro _
  apply (writeOtpBlock_alike hwrite _ _).bind
  intro _
  apply (writeOtpBlock_alike hwrite _ _).bind
  intro _
  exact writeOtpBlock_alike hwrite _ _

end

theorem writeKeys_alike (keySet : KeySet)
    (hwrite : ∀ address data,
      Alike R (Device.writeBlock .data address data none) (Device.writeBlock .data address data none)) :
    Alike R (writeKeys keySet) (writeKeys keySet) :=
  Alike.forM (fun _ => (Lockstep.require _).bind fun _ => hwrite _ _) _

/-! ### Runs -/

variable (h : Lockstep R)
include h

theorem enter_alike (phase : Phase) : Alike (Abreast (κ := κ) R) (enter phase) (enter phase) := by
  intro run other habreast
  have hevent : R { run.device with events := run.device.events.push (.phaseChanged run.phase phase) }
      { other.device with events := other.device.events.push (.phaseChanged other.phase phase) } := by
    rw [habreast.phase]
    exact h.emit rfl habreast.device
  exact .ok ⟨hevent, habreast.store, rfl⟩

variable (hlifecycle : Alike R Device.lifecycle Device.lifecycle)
include hlifecycle

omit h in
theorem confirm_alike (expected : Lifecycle) :
    Alike (Abreast (κ := κ) R) (confirm expected) (confirm expected) := by
  apply (onDevice_alike hlifecycle).bind
  intro actual
  dsimp only
  split
  · intro run other habreast
    rw [bind_apply, bind_apply, get_apply, get_apply]
    dsimp only
    rw [habreast.phase]
    exact .error habreast
  · exact Alike.pure _

theorem reachInitialized_alike :
    Alike (Abreast (κ := κ) R) reachInitialized reachInitialized := by
  apply (enter_alike h _).bind
  intro _
  apply (onDevice_alike (writeConfigZone_alike fun _ _ => h.writeWord _ _ _)).bind
  intro _
  apply (enter_alike h _).bind
  intro _
  apply (onDevice_alike (lockConfigZone_alike h.reads fun _ => h.lock _ _)).bind
  intro _
  exact confirm_alike hlifecycle _

variable [KeyStore κ]

omit hlifecycle [KeyStore κ] in
theorem chooseKeys_alike (keys : Option KeySet) :
    Alike (Abreast (κ := κ) R) (chooseKeys keys) (chooseKeys keys) := by
  cases keys with
  | some keySet => exact Alike.pure _
  | none => exact onDevice_alike (KeySet.generate_alike (h.random _))

theorem reachPersonalized_alike (keys : Option KeySet) :
    Alike (Abreast (κ := κ) R) (reachPersonalized keys) (reachPersonalized keys) := by
  rw [reachPersonalized_eq, reachPersonalized_eq]
  apply (enter_alike h _).bind
  intro _
  apply (onDevice_alike (writeOtpZone_alike (fun _ _ => h.writeBlock _ _ _ _) h.reads)).bind
  intro _
  apply (enter_alike h _).bind
  intro _
  apply (chooseKeys_alike h _).bind
  intro keySet
  apply (onDevice_alike (writeKeys_alike keySet fun _ _ => h.writeBlock _ _ _ _)).bind
  intro _
  apply (onStore_alike _).bind
  intro _
  apply (enter_alike h _).bind
  intro _
  apply (onDevice_alike (h.lock _ _)).bind
  intro _
  exact confirm_alike hlifecycle _

theorem provision_alike (goal : Lifecycle) (keys : Option KeySet) :
    Alike (Abreast (κ := κ) R) (provision goal keys) (provision goal keys) := by
  rw [provision_eq, provision_eq]
  apply (onDevice_alike hlifecycle).bind
  intro state
  apply Alike.ite (Alike.pure _)
  apply Alike.bind (Alike.ite (reachInitialized_alike h hlifecycle) (Alike.pure _))
  intro state
  apply Alike.bind (Alike.ite (Alike.pure _) (reachPersonalized_alike h hlifecycle keys))
  intro state
  apply (enter_alike h _).bind
  intro _
  exact Alike.pure _

end

/-! ## What can be kept -/

variable [Bus σ] [KeyStore κ]

/-- An invariant of the device that every access and every report of the state keep is kept by a whole run. -/
theorem provision_invariant {I : Device σ → Prop} (h : Lockstep fun device other => device = other ∧ I device)
    (hlifecycle : ∀ device, I device → I (finalState (Device.lifecycle device))) (goal : Lifecycle)
    (keys : Option KeySet) (run : Provisioning σ κ) (hI : I run.device) :
    I (finalState (provision goal keys run)).device := by
  have hagree := provision_alike h (Alike.invariant hlifecycle) goal keys run run ⟨⟨rfl, hI⟩, rfl, rfl⟩
  cases hrun : provision goal keys run with
  | ok state run' =>
    rw [hrun] at hagree
    cases hagree with
    | ok h' => exact h'.device.2
  | error error run' =>
    rw [hrun] at hagree
    cases hagree with
    | error h' => exact h'.device.2

def unlogged (run : Provisioning (Logged σ) κ) : Provisioning σ κ where
  device := run.device.unlogged
  store := run.store
  phase := run.phase

theorem provision_unlogged (goal : Lifecycle) (keys : Option KeySet) (run : Provisioning (Logged σ) κ) :
    viewed unlogged (provision goal keys run) = provision goal keys run.unlogged := by
  have hagree := provision_alike Device.lockstep_unlogged Device.lifecycle_unlogged goal keys run run.unlogged
    ⟨rfl, rfl, rfl⟩
  have heq {start : Provisioning (Logged σ) κ} {other : Provisioning σ κ}
      (h : Abreast (fun device other => device.unlogged = other) start other) : start.unlogged = other := by
    obtain ⟨device, store, phase⟩ := other
    obtain ⟨rfl, rfl, rfl⟩ := h
    rfl
  generalize provision goal keys run = result, provision goal keys run.unlogged = result' at hagree ⊢
  cases hagree with
  | ok h => exact congrArg _ (heq h)
  | error h => exact congrArg _ (heq h)

end Provisioning

end SecureElement
