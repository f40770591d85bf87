import SecureElement.Proofs.Device.Power
import SecureElement.Proofs.KeyStore.Text
import SecureElement.Proofs.Provisioning.Progress
/-!
# Custody of the keys

A host provisions a chip again and again, wakes it and puts it to sleep, and may be disturbed at every access to
the bus. Once the Data zone is locked, the key store holds the keys that the chip holds, as long as the host does not
put another store in its place.
-/

namespace SecureElement

structure Workplace where
  bench : Bench
  store : MemoryStore

inductive HostStep where
  | provision (goal : Lifecycle) (keys : Option KeySet) (budget : Nat) (pacing : Pacing)
  | wake
  | sleep
  | idle
  /-- Another store takes the place of the one in use. -/
  | replaceStore (store : MemoryStore)

namespace Workplace

def afterwards {α : Type} (place : Workplace) (operation : DeviceM Bench α) : Workplace :=
  { place with bench := (finalState (operation (Device.ofBus place.bench))).bus }

def step (place : Workplace) : HostStep → Workplace
  | .provision goal keys budget pacing =>
    let run := finalState (Provisioning.run goal keys (Device.handle place.bench budget pacing) place.store)
    ⟨run.device.bus, run.store⟩
  | .wake => place.afterwards Device.wake
  | .sleep => place.afterwards Device.sleep
  | .idle => place.afterwards Device.idle
  | .replaceStore store => { place with store }

def replay (place : Workplace) (steps : List HostStep) : Workplace :=
  steps.foldl step place

theorem replay_cons (place : Workplace) (step : HostStep) (steps : List HostStep) :
    place.replay (step :: steps) = (place.step step).replay steps := by
  unfold replay
  rw [List.foldl_cons]

theorem replay_singleton (place : Workplace) (step : HostStep) : place.replay [step] = place.step step := by
  rw [replay_cons]
  rfl

end Workplace

/-! ## The invariant -/

/-- If the Data zone is locked, the store gives the keys back, and the OTP zone bears the identification. -/
def Secured (state : Memory × MemoryStore) : Prop :=
  state.1.dataLocked = true →
    KeySet.ofStore state.2 = .ok ⟨state.1.data⟩ ∧ state.1.otp = otpImage version

open Provisioning (Advance Stands)

theorem secured_of_advance {state state' : Memory × MemoryStore} (hstep : Advance state state')
    (h : Secured state) : Secured state' := by
  cases hstep with
  | drafted _ hsame =>
    intro hlocked
    obtain ⟨hstore, hotp⟩ := h (hsame.dataLocked_eq.trans hlocked)
    refine ⟨?_, hsame.otp ▸ hotp⟩
    rw [hstore, hsame.data]
  | @configured memory store _ =>
    intro hlocked
    rw [Memory.dataLocked_lockConfig, Memory.dataLocked_configured] at hlocked
    obtain ⟨hstore, hotp⟩ := h hlocked
    have hdata : memory.configured.lockConfig.data = memory.data := by
      unfold Memory.lockConfig
      rw [Memory.writeConfig_data, Memory.configured, Memory.writeConfig_data]
    have hotp' : memory.configured.lockConfig.otp = memory.otp := by
      unfold Memory.lockConfig
      rw [Memory.writeConfig_otp, Memory.configured, Memory.writeConfig_otp]
    exact ⟨by rw [hstore, hdata], hotp'.trans hotp⟩
  | filled _ hopen hsame =>
    intro hlocked
    rw [Memory.dataLocked_congr hsame, hopen] at hlocked
    cases hlocked
  | personalized _ _ _ hrecord =>
    intro _
    rw [Memory.personalized_data, Memory.personalized_otp]
    exact ⟨MemoryStore.ofStore_record hrecord, rfl⟩

theorem secured_of_reflTransGen {state state' : Memory × MemoryStore}
    (hsteps : Relation.ReflTransGen Advance state state') (h : Secured state) : Secured state' := by
  induction hsteps with
  | refl => exact h
  | tail _ hstep ih => exact secured_of_advance hstep ih

namespace Workplace

def state (place : Workplace) : Memory × MemoryStore :=
  (place.bench.chip.memory, place.store)

theorem provision_advances (place : Workplace) (goal : Lifecycle) (keys : Option KeySet) (budget : Nat)
    (pacing : Pacing) :
    Relation.ReflTransGen Advance place.state (place.step (.provision goal keys budget pacing)).state := by
  cases hawake : place.bench.chip.awake with
  | true =>
    exact (Provisioning.run_advances goal keys (Device.handle place.bench budget pacing) place.store hawake).1
  | false =>
    -- the first read of such a run fails, so neither the memory nor the store moves
    let device := Device.handle place.bench budget pacing
    have hstands : Stands Device.Asleep place.state
        ({ device, store := place.store } : Provisioning Bench MemoryStore) :=
      ⟨⟨place.bench.chip.core, rfl, hawake, rfl⟩, rfl⟩
    obtain ⟨state, ⟨⟨k, hk, hasleep⟩, hstore⟩, hsame⟩ := Runs.finalState
      ((Provisioning.provision_asleep_runs goal keys).mono (fun _ _ h => h.elim) (fun _ _ h => h)) hstands
    have hstate : (place.step (.provision goal keys budget pacing)).state = state :=
      Prod.ext ((congrArg Core.memory hasleep.core).trans hk) hstore
    rw [hstate, hsame]
    exact .refl

theorem secured_afterwards {α : Type} {operation : DeviceM Bench α} (place : Workplace)
    (hruns : Runs Device.Holds operation place.bench.chip.memory
      (fun _ m => m = place.bench.chip.memory) (fun _ m => m = place.bench.chip.memory))
    (h : Secured place.state) : Secured (place.afterwards operation).state := by
  obtain ⟨memory, hholds, rfl⟩ := Runs.finalState (s := Device.ofBus place.bench) hruns rfl
  have hstate : (place.afterwards operation).state = place.state := Prod.ext hholds rfl
  rw [hstate]
  exact h

theorem secured_step (place : Workplace) {step : HostStep} (h : Secured place.state)
    (hopen : ∀ store, step = .replaceStore store → place.bench.chip.memory.dataLocked = false) :
    Secured (place.step step).state := by
  cases step with
  | provision goal keys budget pacing =>
    exact secured_of_reflTransGen (place.provision_advances goal keys budget pacing) h
  | wake => exact place.secured_afterwards Device.wake_runs h
  | sleep => exact place.secured_afterwards Device.sleep_runs h
  | idle => exact place.secured_afterwards Device.idle_runs h
  | replaceStore store => exact fun hlocked => absurd ((hopen store rfl).symm.trans hlocked) (by decide)

theorem secured_replay (place : Workplace) (steps : List HostStep) (h : Secured place.state)
    (hstores : ∀ before store after, steps = before ++ .replaceStore store :: after →
      (place.replay before).bench.chip.memory.dataLocked = false) :
    Secured (place.replay steps).state := by
  induction steps generalizing place with
  | nil => exact h
  | cons step steps ih =>
    rw [replay_cons]
    refine ih (place.step step) (place.secured_step h fun store hstep => ?_) fun before store after hsteps => ?_
    · exact hstores [] store steps (congrArg (· :: steps) hstep)
    · exact hstores (step :: before) store after (congrArg (step :: ·) hsteps)

/-- Whatever the host does to a chip whose Data zone is open, and however it is disturbed, once the zone is
locked the store gives back the very keys that the chip holds, if no other store has been put in its place since. -/
theorem locked_keys_recorded (place : Workplace) (steps : List HostStep)
    (hopen : place.bench.chip.memory.dataLocked = false)
    (hstores : ∀ before store after, steps = before ++ .replaceStore store :: after →
      (place.replay before).bench.chip.memory.dataLocked = false)
    (hlocked : (place.replay steps).bench.chip.memory.dataLocked = true) :
    KeySet.ofStore (place.replay steps).store = .ok ⟨(place.replay steps).bench.chip.memory.data⟩ ∧
      (place.replay steps).bench.chip.memory.otp = otpImage version := by
  refine place.secured_replay steps ?_ hstores hlocked
  intro hstart
  exact absurd (hopen.symm.trans hstart) (by decide)

theorem dataLocked_provision (place : Workplace) (keys : Option KeySet) (budget : Nat) (pacing : Pacing)
    (hawake : place.bench.chip.awake = true) (hscript : place.bench.script = [])
    (hfaults : place.bench.chip.faults = []) (hstalls : place.bench.chip.stalls = 0)
    (hnew : place.bench.chip.memory.configLocked = false) (hopen : place.bench.chip.memory.dataLocked = false) :
    (place.step (.provision .personalized keys budget pacing)).bench.chip.memory.dataLocked = true := by
  let device := Device.handle place.bench budget pacing
  have hcalm : device.Undisturbed device.retryBudget := by
    refine ⟨hscript, hfaults, ?_⟩
    change place.bench.chip.stalls < _
    rw [hstalls]
    exact device.retryBudget_pos
  obtain ⟨final, hrun, _, _, hlocked, _⟩ := Provisioning.run_succeeds keys device place.store hawake hcalm
    (fun hwrong => absurd (hopen.symm.trans hwrong.2) (by decide))
    (fun hwrong => absurd (hnew.symm.trans hwrong) (by decide)) fun _ =>
      Provisioning.not_refuses_memoryStore keys place.store
  rw [Workplace.step, hrun]
  exact hlocked

def unused : Workplace :=
  ⟨{ chip := { awake := true } }, {}⟩

theorem locked_keys_recorded_unused :
    (∀ before store after, [.provision .personalized none 1 .typical] = before ++ .replaceStore store :: after →
      (unused.replay before).bench.chip.memory.dataLocked = false) ∧
    (unused.replay [.provision .personalized none 1 .typical]).bench.chip.memory.dataLocked = true ∧
      KeySet.ofStore (unused.replay [.provision .personalized none 1 .typical]).store =
        .ok ⟨(unused.replay [.provision .personalized none 1 .typical]).bench.chip.memory.data⟩ ∧
      (unused.replay [.provision .personalized none 1 .typical]).bench.chip.memory.otp =
        otpImage version := by
  have hlocked := unused.dataLocked_provision none 1 .typical rfl rfl rfl rfl Memory.configLocked_factory
    Memory.dataLocked_factory
  rw [← replay_singleton] at hlocked
  have hstores : ∀ before store after,
      [.provision .personalized none 1 .typical] = before ++ HostStep.replaceStore store :: after →
      (unused.replay before).bench.chip.memory.dataLocked = false := by
    intro before store after hsteps
    have hmem : HostStep.replaceStore store ∈ [HostStep.provision .personalized none 1 .typical] := by
      rw [hsteps]
      exact List.mem_append_right before List.mem_cons_self
    cases List.mem_singleton.1 hmem
  exact ⟨hstores, hlocked, unused.locked_keys_recorded _ Memory.dataLocked_factory hstores hlocked⟩

/-! ## Stores that are put in place too late -/

theorem store_of_advance {state state' : Memory × MemoryStore} (hstep : Advance state state')
    (hlocked : state.1.dataLocked = true) : state'.1.dataLocked = true ∧ state'.2 = state.2 := by
  cases hstep with
  | drafted _ hsame => exact ⟨hsame.dataLocked_eq.symm.trans hlocked, rfl⟩
  | @configured memory store _ =>
    rw [Memory.dataLocked_lockConfig, Memory.dataLocked_configured]
    exact ⟨hlocked, rfl⟩
  | filled _ hopen => exact absurd (hopen.symm.trans hlocked) (by decide)
  | personalized _ hopen => exact absurd (hopen.symm.trans hlocked) (by decide)

theorem store_of_reflTransGen {state state' : Memory × MemoryStore}
    (hsteps : Relation.ReflTransGen Advance state state') (hlocked : state.1.dataLocked = true) :
    state'.1.dataLocked = true ∧ state'.2 = state.2 := by
  induction hsteps with
  | refl => exact ⟨hlocked, rfl⟩
  | tail _ hstep ih =>
    obtain ⟨hlocked', hstore⟩ := store_of_advance hstep ih.1
    exact ⟨hlocked', hstore.trans ih.2⟩

/-- Nothing is recorded any more once the Data zone is locked, whatever store is put in place. -/
theorem store_replaced {place : Workplace} (hlocked : place.bench.chip.memory.dataLocked = true) (store : MemoryStore)
    (goal : Lifecycle) (keys : Option KeySet) (budget : Nat) (pacing : Pacing) :
    let place' := place.replay [.replaceStore store, .provision goal keys budget pacing]
    place'.bench.chip.memory.dataLocked = true ∧ place'.store = store := by
  have hsteps := (place.step (.replaceStore store)).provision_advances goal keys budget pacing
  have hkept := store_of_reflTransGen hsteps hlocked
  dsimp only
  rw [replay_cons, replay_singleton]
  exact hkept

/-- So the keys of a chip that has been locked are not found in a new store. -/
theorem locked_keys_unrecorded :
    let place := unused.replay
      [.provision .personalized none 1 .typical, .replaceStore {}, .provision .personalized none 1 .typical]
    place.bench.chip.memory.dataLocked = true ∧ KeySet.ofStore place.store = .error (.missingKey 0) := by
  have hlocked := unused.dataLocked_provision none 1 .typical rfl rfl rfl rfl Memory.configLocked_factory
    Memory.dataLocked_factory
  dsimp only
  rw [replay_cons]
  obtain ⟨hlocked', hstore⟩ := store_replaced hlocked {} .personalized none 1 .typical
  rw [hstore]
  exact ⟨hlocked', MemoryStore.ofStore_empty⟩

end Workplace

end SecureElement
