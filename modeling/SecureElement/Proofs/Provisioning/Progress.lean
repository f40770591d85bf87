import SecureElement.KeyStore.Stores
import SecureElement.Proofs.Provisioning.Stages
/-!
# Progress of provisioning

A run moves the memory of the chip and the key store along a few steps, whether it ends well or badly. The keys
are in the store before the last of them is taken.
-/

namespace SecureElement

def Device.handle {σ : Type} (bus : σ) (budget : Nat) (pacing : Pacing) : Device σ :=
  { Device.ofBus bus with pacing }.withRetryBudget budget

namespace Provisioning

variable {σ κ : Type} {rep : Core → Device σ → Prop} {memory : Memory} {store : κ}

/-! ## The program of a run -/

section

variable [Bus σ]

def chooseKeys (keys : Option KeySet) : ProvisionM σ κ KeySet :=
  match keys with
  | some keySet => pure keySet
  | none => onDevice KeySet.generate

variable [KeyStore κ]

theorem reachPersonalized_eq (keys : Option KeySet) :
    reachPersonalized (σ := σ) (κ := κ) keys = (do
      enter .otpWrite
      onDevice writeOtpZone
      enter .keyWrite
      let keySet ← chooseKeys keys
      onDevice (writeKeys keySet)
      onStore (KeyStore.record keySet)
      enter .dataLock
      onDevice (Device.lock .data (some (Crc16.compute (dataImage keySet))))
      confirm .personalized) := by
  cases keys <;> rfl

def firstHalf (state : Lifecycle) : ProvisionM σ κ Lifecycle :=
  if state = .factory then reachInitialized else pure state

def secondHalf (goal : Lifecycle) (keys : Option KeySet) (state : Lifecycle) : ProvisionM σ κ Lifecycle :=
  if goal = .initialized then pure state else reachPersonalized keys

theorem provision_eq (goal : Lifecycle) (keys : Option KeySet) :
    provision (σ := σ) (κ := κ) goal keys = (do
      let state ← onDevice Device.lifecycle
      if goal ≤ state then pure state else do
        let state ← firstHalf state
        let state ← secondHalf goal keys state
        enter .complete
        pure state) := by
  rw [provision]
  refine congrArg _ (funext fun state => ?_)
  by_cases hreached : goal ≤ state
  · rw [if_pos hreached, if_pos hreached]
  · rw [if_neg hreached, if_neg hreached]
    by_cases hfactory : state = .factory
    · by_cases hgoal : goal = .initialized
      · simp only [firstHalf, secondHalf, if_pos hfactory, if_pos hgoal]
      · simp only [firstHalf, secondHalf, if_pos hfactory, if_neg hgoal]
    · by_cases hgoal : goal = .initialized
      · simp only [firstHalf, secondHalf, if_neg hfactory, if_pos hgoal]
      · simp only [firstHalf, secondHalf, if_neg hfactory, if_neg hgoal]

end

/-! ## Memory and store -/

/-- The chip of a run is as `rep` says, and the state tells its memory and the store. -/
def Stands (rep : Core → Device σ → Prop) (state : Memory × κ) (run : Provisioning σ κ) : Prop :=
  (∃ k : Core, k.memory = state.1 ∧ rep k run.device) ∧ run.store = state.2

theorem onDevice_runs {α : Type} {action : DeviceM σ α} (ok : α → Memory → Prop)
    (fail : DeviceError → Memory → Prop)
    (h : ∀ k : Core, k.memory = memory →
      Runs rep action k (fun a l => ok a l.memory) (fun error l => fail error l.memory)) :
    Runs (Stands rep) (onDevice action) (memory, store) (fun a s => ok a s.1 ∧ s.2 = store)
      (fun _ s => (∃ error, fail error s.1) ∧ s.2 = store) := by
  intro run hstands
  obtain ⟨⟨k, hk, hrep⟩, hstore⟩ := hstands
  have haction := h k hk run.device hrep
  rw [onDevice]
  cases hrun : action run.device with
  | ok a device =>
    rw [hrun] at haction
    obtain ⟨l, hl, ha⟩ := haction
    exact ⟨(l.memory, store), ⟨⟨l, rfl, hl⟩, hstore⟩, ha, rfl⟩
  | error error device =>
    rw [hrun] at haction
    obtain ⟨l, hl, herror⟩ := haction
    exact ⟨(l.memory, store), ⟨⟨l, rfl, hl⟩, hstore⟩, ⟨error, herror⟩, rfl⟩

theorem onDevice_bind_runs {α β : Type} {action : DeviceM σ α} {f : α → ProvisionM σ κ β} (ok : α → Memory → Prop)
    (bad : Memory → Prop) {post : β → Memory × κ → Prop} {fail : ProvisionError → Memory × κ → Prop}
    (haction : ∀ k : Core, k.memory = memory →
      Runs rep action k (fun a l => ok a l.memory) (fun _ l => bad l.memory))
    (hfail : ∀ error m, bad m → fail error (m, store))
    (hnext : ∀ a m, ok a m → Runs (Stands rep) (f a) (m, store) post fail) :
    Runs (Stands rep) (onDevice action >>= f) (memory, store) post fail := by
  refine ((onDevice_runs ok (fun _ m => bad m) haction).mono (fun _ _ h => h) ?_).bind ?_
  · intro error state hend
    obtain ⟨m, s⟩ := state
    obtain ⟨⟨_, hbad⟩, rfl⟩ := hend
    exact hfail error m hbad
  · intro a state hend
    obtain ⟨m, s⟩ := state
    obtain ⟨hok, rfl⟩ := hend
    exact hnext a m hok

theorem onStore_runs {α : Type} {action : EStateM KeyStoreError κ α} :
    Runs (Stands rep) (onStore action) (memory, store)
      (fun a s => s.1 = memory ∧ action store = .ok a s.2)
      (fun _ s => s.1 = memory ∧ ∃ error store', action store = .error error store') := by
  intro run hstands
  obtain ⟨hmemory, hstore⟩ := hstands
  unfold onStore
  rw [hstore]
  cases haction : action store with
  | ok a store' => exact ⟨(memory, store'), ⟨hmemory, rfl⟩, rfl, rfl⟩
  | error error store' => exact ⟨(memory, store'), ⟨hmemory, rfl⟩, rfl, error, store', rfl⟩

variable [ChipBus σ] {calm : Prop}

theorem stands_awake (calm : Prop) {device : Device σ} (store : κ) (hawake : device.bench.chip.awake = true)
    (hcalm : calm → device.Undisturbed device.retryBudget) :
    Stands (Device.Serves calm) (device.bench.chip.memory, store) { device, store } :=
  ⟨⟨device.bench.chip.core, rfl, hawake, rfl, hcalm⟩, rfl⟩

theorem enter_runs (phase : Phase) (fail : ProvisionError → Memory × κ → Prop) :
    Runs (Stands (Device.Serves (σ := σ) calm)) (enter phase) (memory, store)
      (fun _ s => s = (memory, store)) fail := by
  intro run hstands
  obtain ⟨⟨k, hk, hserves⟩, hstore⟩ := hstands
  exact ⟨(memory, store), ⟨⟨k, hk, hserves.awake, hserves.core, hserves.undisturbed⟩, hstore⟩, rfl⟩

theorem enter_bind_runs {β : Type} {phase : Phase} {f : Unit → ProvisionM σ κ β}
    {post : β → Memory × κ → Prop} {fail : ProvisionError → Memory × κ → Prop}
    (hnext : Runs (Stands (Device.Serves (σ := σ) calm)) (f ()) (memory, store) post fail) :
    Runs (Stands (Device.Serves (σ := σ) calm)) (enter phase >>= f) (memory, store) post fail := by
  refine (enter_runs phase fail).bind ?_
  intro _ _ hend
  subst hend
  exact hnext

theorem lifecycle_runs :
    Runs (Stands (Device.Serves (σ := σ) calm)) (onDevice Device.lifecycle) (memory, store)
      (fun state s => Lifecycle.ofLocks memory.configLocked memory.dataLocked = .ok state ∧
        s = (memory, store))
      (fun _ s => s = (memory, store) ∧
        (calm → memory.configLocked = false ∧ memory.dataLocked = true)) := by
  refine (onDevice_runs
    (fun state m => Lifecycle.ofLocks memory.configLocked memory.dataLocked = .ok state ∧ m = memory)
    (fun _ m => m = memory ∧ (calm → memory.configLocked = false ∧ memory.dataLocked = true))
    ?_).mono ?_ ?_
  · intro k hk
    subst hk
    exact Device.lifecycle_runs.mono (fun _ _ h => ⟨h.1, congrArg Core.memory h.2⟩)
      fun _ _ h => ⟨congrArg Core.memory h.1, h.2⟩
  · intro state s hs
    obtain ⟨⟨hlocks, hmemory⟩, hstore⟩ := hs
    exact ⟨hlocks, Prod.ext hmemory hstore⟩
  · intro error s hs
    obtain ⟨⟨_, hmemory, hcalm⟩, hstore⟩ := hs
    exact ⟨Prod.ext hmemory hstore, hcalm⟩

theorem confirm_runs {expected : Lifecycle}
    (hlocks : Lifecycle.ofLocks memory.configLocked memory.dataLocked = .ok expected) :
    Runs (Stands (Device.Serves (σ := σ) calm)) (confirm expected) (memory, store)
      (fun state s => state = expected ∧ s = (memory, store))
      (fun _ s => ¬calm ∧ s = (memory, store)) := by
  refine (lifecycle_runs.mono (fun _ _ h => h) ?_).bind ?_
  · intro _ s hs
    refine ⟨fun c => ?_, hs.1⟩
    obtain ⟨hconfig, hdata⟩ := hs.2 c
    rw [hconfig, hdata] at hlocks
    cases hlocks
  · intro actual s hs
    obtain ⟨hactual, rfl⟩ := hs
    rw [hlocks] at hactual
    obtain rfl := Except.ok.inj hactual
    rw [if_neg (not_not.2 rfl)]
    exact Runs.pure ⟨rfl, rfl⟩

/-- The keys are those that were given, if any were. -/
def Suits (keys : Option KeySet) (keySet : KeySet) : Prop :=
  ∀ given, keys = some given → keySet = given

theorem chooseKeys_runs (keys : Option KeySet) :
    Runs (Stands (Device.Serves (σ := σ) calm)) (chooseKeys keys) (memory, store)
      (fun keySet s => Suits keys keySet ∧ s = (memory, store))
      (fun _ s => ¬calm ∧ s = (memory, store)) := by
  cases keys with
  | some keySet => exact Runs.pure ⟨fun _ h => Option.some.inj h, rfl⟩
  | none =>
    refine (onDevice_runs (fun _ m => m = memory) (fun _ m => ¬calm ∧ m = memory)
      ?_).mono ?_ ?_
    · intro k hk
      subst hk
      exact KeySet.generate_runs
    · intro keySet s hs
      exact ⟨fun _ h => (nomatch h), Prod.ext hs.1 hs.2⟩
    · intro _ s hs
      obtain ⟨⟨_, hrough, hmemory⟩, hstore⟩ := hs
      exact ⟨hrough, Prod.ext hmemory hstore⟩

theorem dataLock_runs (keySet : KeySet) (hconfig : memory.configLocked = true) (hopen : memory.dataLocked = false) :
    let filled : Memory := { memory with otp := otpImage version, data := keySet.keys }
    Runs (Stands (Device.Serves (σ := σ) calm)) (do
        enter .dataLock
        onDevice (Device.lock .data (some (Crc16.compute (dataImage keySet))))
        confirm .personalized)
      (filled, store)
      (fun state s => state = .personalized ∧ s = (memory.personalized keySet, store))
      (fun _ s => ¬calm ∧ (s = (filled, store) ∨ s = (memory.personalized keySet, store))) := by
  intro filled
  apply enter_bind_runs
  apply onDevice_bind_runs (fun _ m => m = memory.personalized keySet)
    (fun m => ¬calm ∧ (m = filled ∨ m = memory.personalized keySet))
  · intro k hk
    have hlock : Runs (Device.Serves (σ := σ) calm) _ k _ _ :=
      Device.lock_data_runs (by rw [hk]; exact hconfig) (by rw [hk]; exact hopen)
    rw [hk, Memory.dataImage_eq] at hlock
    exact hlock.mono (fun _ _ hl => Core.memory_of_eq hl) fun _ _ hcut => hk ▸ hcut.memory
  · intro _ m hbad
    exact ⟨hbad.1, hbad.2.imp (congrArg (·, store)) (congrArg (·, store))⟩
  intro _ m hm
  subst hm
  refine (confirm_runs ?_).mono (fun _ _ h => h) fun _ _ h => ⟨h.1, .inr h.2⟩
  rw [Memory.configLocked_personalized, Memory.dataLocked_personalized, hconfig]
  rfl

/-! ## Steps of memory and store -/

variable [KeyStore κ]

/-- One step of the memory of a chip and of the key store beside it. -/
inductive Advance : Memory × κ → Memory × κ → Prop where
  /-- Some of the policies or the OTP mode are written. -/
  | drafted {memory memory' : Memory} {store : κ} (hopen : memory.configLocked = false)
      (hsame : Memory.SameButPolicies memory memory') : Advance (memory, store) (memory', store)
  | configured {memory : Memory} {store : κ} (hopen : memory.configLocked = false) :
      Advance (memory, store) (memory.configured.lockConfig, store)
  /-- Some of the OTP zone and the keys are written, and keys may be recorded. -/
  | filled {memory memory' : Memory} {store store' : κ} (hconfig : memory.configLocked = true)
      (hopen : memory.dataLocked = false) (hsame : memory'.config = memory.config) :
      Advance (memory, store) (memory', store')
  /-- The chip is locked over the keys that the store has just recorded. -/
  | personalized {memory : Memory} {store store' : κ} {keySet : KeySet}
      (hconfig : memory.configLocked = true) (hopen : memory.dataLocked = false)
      (hmode : memory.config.byte 18 = 0xAA) (hrecord : KeyStore.record keySet store = .ok () store') :
      Advance (memory, store) (memory.personalized keySet, store')

theorem reachInitialized_runs (hconfig : memory.configLocked = false)
    (hdata : memory.dataLocked = false) :
    Runs (Stands (Device.Serves (σ := σ) calm)) reachInitialized (memory, store)
      (fun state s => state = .initialized ∧ s = (memory.configured.lockConfig, store))
      (fun _ s => ¬calm ∧ Advance (memory, store) s) := by
  have hconfigured : memory.configured.configLocked = false := by
    rw [Memory.configLocked_configured, hconfig]
  apply enter_bind_runs
  apply onDevice_bind_runs (fun _ m => m = memory.configured) (fun m => ¬calm ∧ Memory.SameButPolicies memory m)
  · intro k hk
    subst hk
    exact writeConfigZone_runs hconfig
  · intro _ m hbad
    exact ⟨hbad.1, .drafted hconfig hbad.2⟩
  intro _ m hm
  subst hm
  apply enter_bind_runs
  apply onDevice_bind_runs (fun _ m => m = memory.configured.lockConfig)
    (fun m => ¬calm ∧ (m = memory.configured ∨ m = memory.configured.lockConfig))
  · intro k hk
    have hlock : Runs (Device.Serves (σ := σ) calm) _ k _ _ :=
      lockConfigZone_runs (by rw [hk, hconfigured])
    rwa [hk] at hlock
  · intro _ m hbad
    obtain ⟨hrough, rfl | rfl⟩ := hbad
    · exact ⟨hrough, .drafted hconfig memory.sameButPolicies_configured⟩
    · exact ⟨hrough, .configured hconfig⟩
  intro _ m hm
  subst hm
  refine (confirm_runs ?_).mono (fun _ _ h => h) ?_
  · rw [Memory.configLocked_lockConfig, Memory.dataLocked_lockConfig, Memory.dataLocked_configured, hdata]
    rfl
  · intro _ _ hend
    obtain ⟨hrough, rfl⟩ := hend
    exact ⟨hrough, .configured hconfig⟩

def Refuses (keys : Option KeySet) (store : κ) : Prop :=
  ∃ keySet error store', Suits keys keySet ∧ KeyStore.record keySet store = .error error store'

theorem not_refuses_memoryStore (keys : Option KeySet) (store : MemoryStore) : ¬ Refuses keys store := by
  intro h
  obtain ⟨_, _, _, _, hrecord⟩ := h
  cases hrecord

theorem reachPersonalized_runs (keys : Option KeySet) (hconfig : memory.configLocked = true)
    (hopen : memory.dataLocked = false) :
    Runs (Stands (Device.Serves (σ := σ) calm)) (reachPersonalized keys) (memory, store)
      (fun state s => state = .personalized ∧ memory.config.byte 18 = 0xAA ∧
        ∃ keySet, Suits keys keySet ∧
          KeyStore.record keySet store = .ok () s.2 ∧ s.1 = memory.personalized keySet)
      (fun _ s => Advance (memory, store) s ∧
        (calm → memory.config.byte 18 ≠ 0xAA ∨ Refuses keys store)) := by
  -- until the lock, every failure leaves the Config zone as it was
  have hfilled {m : Memory} {s : κ} (hsame : m.config = memory.config) : Advance (memory, store) (m, s) :=
    .filled hconfig hopen hsame
  rw [reachPersonalized_eq]
  apply enter_bind_runs
  apply onDevice_bind_runs (fun _ m => memory.config.byte 18 = 0xAA ∧ m = memory.withOtp (otpImage version))
    (fun m => m.config = memory.config ∧ (calm → memory.config.byte 18 ≠ 0xAA))
  · intro k hk
    subst hk
    exact writeOtpZone_runs hconfig hopen
  · intro _ m hbad
    exact ⟨hfilled hbad.1, fun c => .inl (hbad.2 c)⟩
  intro _ m hm
  obtain ⟨hmode, rfl⟩ := hm
  apply enter_bind_runs
  refine ((chooseKeys_runs keys).mono (fun _ _ h => h) ?_).bind ?_
  · intro _ _ hend
    obtain ⟨hrough, rfl⟩ := hend
    exact ⟨hfilled rfl, fun c => absurd c hrough⟩
  intro keySet _ hend
  obtain ⟨hgiven, rfl⟩ := hend
  apply onDevice_bind_runs (fun _ m => m = { memory with otp := otpImage version, data := keySet.keys })
    (fun m => ¬calm ∧ m.config = memory.config)
  · intro k hk
    have hkeys : Runs (Device.Serves (σ := σ) calm) _ k _ _ :=
      writeKeys_runs keySet (by rw [hk]; exact hconfig) (by rw [hk]; exact hopen)
    rwa [hk] at hkeys
  · intro _ m hbad
    exact ⟨hfilled hbad.2, fun c => absurd c hbad.1⟩
  intro _ m hm
  subst hm
  refine (onStore_runs.mono (fun _ _ h => h) ?_).bind ?_
  · intro _ state hend
    obtain ⟨_, s⟩ := state
    obtain ⟨rfl, error, store', hrecord⟩ := hend
    exact ⟨hfilled rfl, fun _ => .inr ⟨keySet, error, store', hgiven, hrecord⟩⟩
  intro _ state hend
  obtain ⟨_, s⟩ := state
  obtain ⟨rfl, hrecord⟩ := hend
  refine (dataLock_runs keySet hconfig hopen).mono ?_ ?_
  · intro state _ hend
    obtain ⟨rfl, rfl⟩ := hend
    exact ⟨rfl, hmode, keySet, hgiven, hrecord, rfl⟩
  · intro _ _ hend
    obtain ⟨hrough, rfl | rfl⟩ := hend
    · exact ⟨hfilled rfl, fun c => absurd c hrough⟩
    · exact ⟨.personalized hconfig hopen hmode hrecord, fun c => absurd c hrough⟩

/-! ## Whole runs -/

theorem firstHalf_runs {state : Lifecycle}
    (hstate : Lifecycle.ofLocks memory.configLocked memory.dataLocked = .ok state)
    (hlow : ¬ Lifecycle.personalized ≤ state) :
    Runs (Stands (Device.Serves (σ := σ) calm)) (firstHalf state) (memory, store)
      (fun state' s => state' = .initialized ∧ Relation.ReflTransGen Advance (memory, store) s ∧
        s.2 = store ∧ s.1.configLocked = true ∧ s.1.dataLocked = false ∧
        (s.1.config.byte 18 = 0xAA ∨ (memory.configLocked = true ∧ s.1 = memory)))
      (fun _ s => ¬calm ∧ Relation.ReflTransGen Advance (memory, store) s) := by
  obtain ⟨hconfig, hdata⟩ := Lifecycle.ofLocks_eq_ok_iff.1 hstate
  rw [decide_eq_false hlow] at hdata
  cases state with
  | factory =>
    refine (reachInitialized_runs hconfig hdata).mono ?_ ?_
    · intro _ _ hend
      obtain ⟨rfl, rfl⟩ := hend
      refine ⟨rfl, .single (.configured hconfig), rfl, memory.configured.configLocked_lockConfig, ?_,
        .inl memory.byte_otpMode_lockConfig_configured⟩
      rw [Memory.dataLocked_lockConfig, Memory.dataLocked_configured, hdata]
    · intro _ s hs
      exact ⟨hs.1, .single hs.2⟩
  | initialized => exact Runs.pure ⟨rfl, .refl, rfl, hconfig, hdata, .inr ⟨hconfig, rfl⟩⟩
  | personalized => exact absurd (by decide) hlow

theorem secondHalf_runs {goal : Lifecycle} (keys : Option KeySet) (hgoal : Lifecycle.initialized ≤ goal)
    (hconfig : memory.configLocked = true) (hopen : memory.dataLocked = false) :
    Runs (Stands (Device.Serves (σ := σ) calm)) (secondHalf goal keys .initialized) (memory, store)
      (fun state s => Relation.ReflTransGen Advance (memory, store) s ∧
        Lifecycle.ofLocks s.1.configLocked s.1.dataLocked = .ok state ∧ goal ≤ state ∧
        (state = .personalized → ∃ keySet, Suits keys keySet ∧
          KeyStore.record keySet store = .ok () s.2 ∧ s.1.data = keySet.keys))
      (fun _ s => Relation.ReflTransGen Advance (memory, store) s ∧
        (calm → memory.config.byte 18 ≠ 0xAA ∨ Refuses keys store)) := by
  cases goal with
  | factory => exact absurd hgoal (by decide)
  | initialized =>
    refine Runs.pure ⟨.refl, ?_, by decide, fun h => (nomatch h)⟩
    rw [hconfig, hopen]
    rfl
  | personalized =>
    refine (reachPersonalized_runs keys hconfig hopen).mono ?_ ?_
    · intro _ state hend
      obtain ⟨m, s⟩ := state
      obtain ⟨rfl, hmode, keySet, hgiven, hrecord, rfl⟩ := hend
      refine ⟨.single (.personalized hconfig hopen hmode hrecord), ?_, by decide, fun _ => ?_⟩
      · rw [Memory.configLocked_personalized, Memory.dataLocked_personalized, hconfig]
        rfl
      · exact ⟨keySet, hgiven, hrecord, memory.personalized_data keySet⟩
    · intro _ s hs
      exact ⟨.single hs.1, hs.2⟩

/-- A run advances, and where it ends well the chip is in the state that it reports. Nothing but locks that
contradict each other, the OTP mode or the key store can make it fail on a calm chip. -/
theorem provision_runs (goal : Lifecycle) (keys : Option KeySet) :
    Runs (Stands (Device.Serves (σ := σ) calm)) (provision goal keys) (memory, store)
      (fun state s => Relation.ReflTransGen Advance (memory, store) s ∧
        Lifecycle.ofLocks s.1.configLocked s.1.dataLocked = .ok state ∧ goal ≤ state ∧
        (memory.dataLocked = false → state = .personalized →
          ∃ keySet, Suits keys keySet ∧
            KeyStore.record keySet store = .ok () s.2 ∧ s.1.data = keySet.keys))
      (fun _ s => Relation.ReflTransGen Advance (memory, store) s ∧
        (calm → (memory.configLocked = false ∧ memory.dataLocked = true) ∨
          (memory.configLocked = true ∧ memory.config.byte 18 ≠ 0xAA) ∨
          (memory.dataLocked = false ∧ Refuses keys store))) := by
  rw [provision_eq]
  refine (lifecycle_runs.mono (fun _ _ h => h) ?_).bind ?_
  · intro _ _ hend
    obtain ⟨rfl, hcalm⟩ := hend
    exact ⟨.refl, fun c => .inl (hcalm c)⟩
  intro state _ hend
  obtain ⟨hstate, rfl⟩ := hend
  by_cases hreached : goal ≤ state
  · rw [if_pos hreached]
    refine Runs.pure ⟨.refl, hstate, hreached, ?_⟩
    intro hopen hend
    subst hend
    have hdata := (Lifecycle.ofLocks_eq_ok_iff.1 hstate).2
    rw [hopen] at hdata
    exact absurd hdata (by decide)
  rw [if_neg hreached]
  have hlow : ¬ Lifecycle.personalized ≤ state ∧ Lifecycle.initialized ≤ goal := by
    revert hreached
    cases goal <;> cases state <;> decide
  refine ((firstHalf_runs hstate hlow.1).mono (fun _ _ h => h) ?_).bind ?_
  · intro _ s hs
    exact ⟨hs.2, fun c => absurd c hs.1⟩
  intro _ state hend
  obtain ⟨m, s⟩ := state
  obtain ⟨rfl, hfirst, rfl, hconfig, hopen, hmode⟩ := hend
  refine ((secondHalf_runs keys hlow.2 hconfig hopen).mono (fun _ _ h => h) ?_).bind ?_
  · intro _ s hs
    obtain ⟨hsecond, hcalm⟩ := hs
    refine ⟨hfirst.trans hsecond, fun c => .inr ?_⟩
    rcases hcalm c with hwrong | hrefuses
    · obtain ⟨hlocked, rfl⟩ := hmode.resolve_left hwrong
      exact .inl ⟨hlocked, hwrong⟩
    · refine .inr ⟨?_, hrefuses⟩
      rw [(Lifecycle.ofLocks_eq_ok_iff.1 hstate).2, decide_eq_false hlow.1]
  intro state' s hs
  obtain ⟨hsecond, hstate', hgoal, hkeys⟩ := hs
  refine (enter_runs _ _).bind ?_
  intro _ _ hend
  subst hend
  exact Runs.pure ⟨hfirst.trans hsecond, hstate', hgoal, fun _ => hkeys⟩

/-- Whatever disturbs it, a run on an awake chip advances and leaves the chip awake. -/
theorem run_advances (goal : Lifecycle) (keys : Option KeySet) (device : Device σ) (store : κ)
    (hawake : device.bench.chip.awake = true) :
    let final := finalState (run goal keys device store)
    Relation.ReflTransGen Advance (device.bench.chip.memory, store)
      (final.device.bench.chip.memory, final.store) ∧ final.device.bench.chip.awake = true := by
  have hstands := stands_awake False store hawake False.elim
  obtain ⟨⟨m, s⟩, ⟨⟨k, hk, hserves⟩, hstore⟩, hsteps⟩ := Runs.finalState
    ((provision_runs goal keys).mono (fun _ _ h => h.1) (fun _ _ h => h.1)) hstands
  obtain rfl : k.memory = m := hk
  obtain rfl := hserves.core
  obtain rfl := hstore
  exact ⟨hsteps, hserves.awake⟩

/-- A calm run to the end succeeds, unless it finds locks that contradict each other, an OTP mode that it did
not choose or a store that refuses the keys. -/
theorem run_succeeds (keys : Option KeySet) (device : Device σ) (store : κ)
    (hawake : device.bench.chip.awake = true) (hcalm : device.Undisturbed device.retryBudget)
    (hlocks : ¬ (device.bench.chip.memory.configLocked = false ∧ device.bench.chip.memory.dataLocked = true))
    (hmode : device.bench.chip.memory.configLocked = true → device.bench.chip.memory.config.byte 18 = 0xAA)
    (hstore : device.bench.chip.memory.dataLocked = false → ¬ Refuses keys store) :
    ∃ final, run .personalized keys device store = .ok .personalized final ∧
      Relation.ReflTransGen Advance (device.bench.chip.memory, store)
        (final.device.bench.chip.memory, final.store) ∧
      final.device.bench.chip.memory.configLocked = true ∧
      final.device.bench.chip.memory.dataLocked = true ∧
      (device.bench.chip.memory.dataLocked = false →
        ∃ keySet, Suits keys keySet ∧ KeyStore.record keySet store = .ok () final.store ∧
          final.device.bench.chip.memory.data = keySet.keys) := by
  have hstands := stands_awake True store hawake fun _ => hcalm
  obtain ⟨state, final, ⟨m, s⟩, hrun, ⟨⟨k, hk, hserves⟩, hs⟩, hsteps, hstate, hgoal, hkeys⟩ :=
    (provision_runs .personalized keys).exists_ok hstands (by
      intro _ _ hend
      obtain ⟨_, hfail⟩ := hend
      rcases hfail trivial with hwrong | ⟨hlocked, hwrong⟩ | ⟨hopen, hrefuses⟩
      · exact hlocks hwrong
      · exact hwrong (hmode hlocked)
      · exact hstore hopen hrefuses)
  obtain rfl : k.memory = m := hk
  obtain rfl := hserves.core
  obtain rfl := hs
  obtain ⟨hconfig, hdata⟩ := Lifecycle.ofLocks_eq_ok_iff.1 hstate
  obtain rfl : state = .personalized := by
    revert hgoal
    cases state <;> decide
  exact ⟨final, hrun, hsteps, hconfig, hdata, fun hopen => hkeys hopen rfl⟩

theorem run_fails_of_not_recorded (keys : Option KeySet) {device : Device σ} {store : κ}
    (hawake : device.bench.chip.awake = true) (hopen : device.bench.chip.memory.dataLocked = false)
    (hstore : ∀ keySet store', KeyStore.record keySet store ≠ .ok () store') :
    ¬ ∃ final, run .personalized keys device store = .ok .personalized final := by
  intro h
  obtain ⟨final, hrun⟩ := h
  have hstands := stands_awake False store hawake False.elim
  obtain ⟨state, _, _, _, _, hkeys⟩ := (provision_runs .personalized keys).of_ok hstands hrun
  obtain ⟨keySet, _, hrecord, _⟩ := hkeys hopen rfl
  exact hstore keySet state.2 hrecord

theorem provision_asleep_runs (goal : Lifecycle) (keys : Option KeySet) :
    Runs (Stands (Device.Asleep (σ := σ))) (provision goal keys) (memory, store) (fun _ _ => False)
      (fun _ s => s = (memory, store)) := by
  refine Runs.bind_never ((onDevice_runs (fun _ _ => False) (fun _ m => m = memory) ?_).mono
    (fun _ _ h => h.1) ?_)
  · intro k hk
    subst hk
    exact Device.lifecycle_asleep_runs.mono (fun _ _ h => h) fun _ _ h => congrArg Core.memory h
  · intro _ s hs
    obtain ⟨⟨_, hmemory⟩, hstore⟩ := hs
    exact Prod.ext hmemory hstore

end Provisioning

end SecureElement
