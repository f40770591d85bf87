import SecureElement.Proofs.Device.Dialogue
import SecureElement.Proofs.Device.Events
import SecureElement.Proofs.Device.Locking
import SecureElement.Proofs.Provisioning.LockFrames
import SecureElement.Proofs.Provisioning.Reports
/-!
# The goal of a run

A run ends well only in a state that it has read from the device last of all and that is no less than its goal.
It does nothing but read where the goal is reached already, so it can be repeated.
-/

namespace SecureElement

namespace Device

variable {σ : Type}

/-- The last that has passed is a read of the lock word, which tells the state, and the state was reported last. -/
def Seen (state : Lifecycle) (device : Device (Logged σ)) : Prop :=
  (∃ word before talk, device.log = before ++ talk ∧
    Conversation [.readWord .config lockWordAddress word] talk ∧ Lifecycle.ofLockWord word = .ok state) ∧
  device.reports.getLast? = some state

variable [Bus σ]

theorem seen_lifecycle {state : Lifecycle} {device device' : Device (Logged σ)}
    (h : lifecycle device = .ok state device') : Seen state device' := by
  obtain ⟨talk, hlog, _, hturns⟩ := lifecycle_converses.final device
  obtain ⟨_, htalk, word, hword, rfl⟩ := hturns state device' h
  rw [h] at hlog
  refine ⟨⟨word, device.log, talk, hlog, htalk, hword⟩, ?_⟩
  rw [reports_lifecycle h, List.getLast?_concat]

theorem lifecycle_conducts :
    Conducts (lifecycle : DeviceM (Logged σ) Lifecycle)
      (fun _ transactions => ∃ result, transactions = [⟨lockWordCommand, 4, result⟩])
      (fun _ transactions => ∃ result, transactions = [⟨lockWordCommand, 4, result⟩]) := by
  refine ((exchangeBytes_conducts (by decide) lockWordCommand).mono (fun _ _ h => h) fun error _ h => ⟨.error error, h⟩).bind ?_
  rintro word _ rfl
  cases Lifecycle.ofLockWord word with
  | error error => exact Conducts.throw ⟨_, rfl⟩
  | ok state =>
    refine Conducts.bind (Conducts.pure rfl : Conducts _ (fun _ transactions => transactions = []) _) ?_
    rintro _ _ rfl
    refine Conducts.bind (emit_conducts _ _) ?_
    rintro _ _ rfl
    exact Conducts.pure ⟨_, rfl⟩

theorem lifecycle_events (device : Device σ) :
    ∃ more, (finalState (lifecycle device)).events.toList = device.events.toList ++ more ∧
      ∀ event ∈ more, ∀ source target, event ≠ .phaseChanged source target := by
  have hquiet {event : Event} (hevent : event.isTraffic = true) (source target : Phase) :
      event ≠ .phaseChanged source target := by
    rintro rfl
    cases hevent
  have hword : Chatters device.events.toList (finalState (lockWord device)) := exchangeBytes_events 4 _ device
  rw [lifecycle_eq]
  cases hrun : lockWord device with
  | error error middle =>
    rw [hrun] at hword
    obtain ⟨more, hmore, htraffic⟩ := hword
    exact ⟨more, hmore, fun event hmem => hquiet (htraffic event hmem)⟩
  | ok word middle =>
    rw [hrun] at hword
    obtain ⟨more, hmore, htraffic⟩ := hword
    dsimp only
    cases Lifecycle.ofLockWord word with
    | error error => exact ⟨more, hmore, fun event hmem => hquiet (htraffic event hmem)⟩
    | ok state =>
      refine ⟨more ++ [.stateObserved state], ?_, ?_⟩
      · change (middle.events.push (.stateObserved state)).toList = _
        change middle.events.toList = _ at hmore
        rw [Array.toList_push, hmore, List.append_assoc]
      · refine List.forall_mem_append.2 ⟨fun event hmem => hquiet (htraffic event hmem), ?_⟩
        exact List.forall_mem_singleton.2 fun _ _ => nofun

end Device

namespace Provisioning

variable {σ κ α : Type}

/-! ## What a run ends with -/

/-- The run has seen the device in a state last, or nothing is known of that. -/
def Latest (seen : Option Lifecycle) (run : Provisioning (Logged σ) κ) : Prop :=
  ∀ state ∈ seen, run.device.Seen state

variable {seen : Option Lifecycle}

theorem latest_bind {β : Type} {op : ProvisionM (Logged σ) κ α} {f : α → ProvisionM (Logged σ) κ β}
    {ok : β → Option Lifecycle → Prop} (hf : ∀ a seen', Runs Latest (f a) seen' ok fun _ _ => True) :
    Runs Latest (op >>= f) seen ok fun _ _ => True := by
  have hop : Runs Latest op seen (fun _ _ => True) fun _ _ => True := by
    intro run _
    cases op run with
    | ok a run' => exact ⟨none, nofun, trivial⟩
    | error e run' => exact ⟨none, nofun, trivial⟩
  exact hop.bind fun a seen' _ => hf a seen'

theorem enter_latest (phase : Phase) :
    Runs Latest (enter phase : ProvisionM (Logged σ) κ Unit) seen (fun _ seen' => seen' = seen)
      fun _ _ => True := by
  intro run hlatest
  refine ⟨seen, ?_, rfl⟩
  intro state hstate
  obtain ⟨htalk, hreports⟩ := hlatest state hstate
  refine ⟨htalk, ?_⟩
  rw [← hreports]
  exact congrArg List.getLast? ((Device.reports_push run.device _).trans (List.append_nil _))

variable [Bus σ]

theorem lifecycle_latest :
    Runs Latest (onDevice Device.lifecycle : ProvisionM (Logged σ) κ Lifecycle) seen
      (fun state seen' => seen' = some state) fun _ _ => True := by
  intro run _
  unfold onDevice
  cases hrun : Device.lifecycle run.device with
  | error error device => exact ⟨none, nofun, trivial⟩
  | ok state device =>
    refine ⟨some state, ?_, rfl⟩
    rintro _ ⟨⟩
    exact Device.seen_lifecycle hrun

theorem confirm_latest (expected : Lifecycle) :
    Runs Latest (confirm expected : ProvisionM (Logged σ) κ Lifecycle) seen
      (fun state seen' => state = expected ∧ seen' = some state) fun _ _ => True := by
  refine lifecycle_latest.bind ?_
  rintro actual _ rfl
  by_cases hexpected : actual = expected
  · rw [if_neg (not_not.2 hexpected)]
    exact Runs.pure ⟨hexpected, rfl⟩
  · rw [if_pos hexpected]
    exact fun _ _ => ⟨none, nofun, trivial⟩

theorem firstHalf_latest (state : Lifecycle) :
    Runs Latest (firstHalf state : ProvisionM (Logged σ) κ Lifecycle) (some state)
      (fun state' seen' => .initialized ≤ state' ∧ seen' = some state') fun _ _ => True := by
  unfold firstHalf
  by_cases hfactory : state = .factory
  · rw [if_pos hfactory]
    have hconfirm (seen : Option Lifecycle) :
        Runs Latest (confirm .initialized : ProvisionM (Logged σ) κ Lifecycle) seen _ _ := confirm_latest _
    refine Runs.mono (latest_bind fun _ _ => latest_bind fun _ _ => latest_bind fun _ _ => latest_bind fun _ _ =>
      hconfirm _) ?_ fun _ _ h => h
    rintro _ _ ⟨rfl, rfl⟩
    exact ⟨by decide, rfl⟩
  · rw [if_neg hfactory]
    refine Runs.pure ⟨?_, rfl⟩
    revert hfactory
    cases state <;> decide

variable [KeyStore κ]

theorem secondHalf_latest (goal : Lifecycle) (keys : Option KeySet) {state : Lifecycle}
    (hstate : .initialized ≤ state) :
    Runs Latest (secondHalf goal keys state : ProvisionM (Logged σ) κ Lifecycle) (some state)
      (fun state' seen' => goal ≤ state' ∧ seen' = some state') fun _ _ => True := by
  unfold secondHalf
  by_cases hgoal : goal = .initialized
  · rw [if_pos hgoal]
    exact Runs.pure ⟨hgoal ▸ hstate, rfl⟩
  · rw [if_neg hgoal, reachPersonalized_eq]
    have hconfirm (seen : Option Lifecycle) :
        Runs Latest (confirm .personalized : ProvisionM (Logged σ) κ Lifecycle) seen _ _ := confirm_latest _
    refine Runs.mono (latest_bind fun _ _ => latest_bind fun _ _ => latest_bind fun _ _ => latest_bind fun _ _ =>
      latest_bind fun _ _ => latest_bind fun _ _ => latest_bind fun _ _ => latest_bind fun _ _ => hconfirm _)
      ?_ fun _ _ h => h
    rintro _ _ ⟨rfl, rfl⟩
    exact ⟨by cases goal <;> decide, rfl⟩

/-- A run that ends well has seen the device in the state that it returns last, and that state reaches the goal. -/
theorem provision_latest (goal : Lifecycle) (keys : Option KeySet) :
    Runs Latest (provision goal keys : ProvisionM (Logged σ) κ Lifecycle) seen
      (fun state seen' => goal ≤ state ∧ seen' = some state) fun _ _ => True := by
  rw [provision_eq]
  refine lifecycle_latest.bind ?_
  rintro state _ rfl
  by_cases hreached : goal ≤ state
  · rw [if_pos hreached]
    exact Runs.pure ⟨hreached, rfl⟩
  rw [if_neg hreached]
  refine (firstHalf_latest state).bind ?_
  rintro middle _ ⟨hmiddle, rfl⟩
  refine (secondHalf_latest goal keys hmiddle).bind ?_
  rintro final _ ⟨hgoal, rfl⟩
  refine (enter_latest _).bind ?_
  rintro _ _ rfl
  exact Runs.pure ⟨hgoal, rfl⟩

/-! ## Runs that stop at once -/

/-- Where the goal is reached already, or the state cannot be read, a run comes down to that reading. -/
theorem provision_stops {goal : Lifecycle} (keys : Option KeySet) {run : Provisioning σ κ}
    (hfirst : ∀ first, conclusion (Device.lifecycle run.device) = .ok first → goal ≤ first) :
    finalState (provision goal keys run) = { run with device := finalState (Device.lifecycle run.device) } := by
  rw [provision_eq, bind_apply, onDevice]
  cases hrun : Device.lifecycle run.device with
  | error error device => rfl
  | ok first device =>
    rw [hrun] at hfirst
    dsimp only
    rw [if_pos (hfirst first rfl)]
    rfl

/-- A run that has done no more than read the lock word. -/
structure Untouched (device : Device σ) (store : κ) (final : Provisioning (Logged σ) κ) : Prop where
  frames : ∀ bytes ∈ written final.device.log, bytes = Device.lockWordCommand.encode
  store : final.store = store
  /-- No phase was reported to begin. -/
  events : ∃ more, final.device.events.toList = device.events.toList ++ more ∧
    ∀ event ∈ more, ∀ source target, event ≠ .phaseChanged source target

omit [KeyStore κ] in
theorem untouched_lifecycle (device : Device σ) (store : κ) :
    Untouched device store
      { device := finalState (Device.lifecycle device.logged), store, phase := .idle } where
  frames := by
    obtain ⟨transactions, hdialogue, hok, hfail⟩ := Device.lifecycle_conducts.dialogue device
    obtain ⟨result, rfl⟩ : ∃ result, transactions = [⟨Device.lockWordCommand, 4, result⟩] := by
      cases hend : conclusion (Device.lifecycle device.logged) with
      | ok state => exact hok state hend
      | error error => exact hfail error hend
    obtain ⟨again, hwritten⟩ := hdialogue.takes_of_singleton.written
    intro bytes hbytes
    rw [hwritten] at hbytes
    exact List.eq_of_mem_replicate hbytes
  store := rfl
  events := Device.lifecycle_events device.logged

/-! ## Repeated runs -/

def again (goal : Lifecycle) (keys : Option KeySet) :
    EStateM ProvisionError (Provisioning σ κ) Lifecycle :=
  fun run => Provisioning.run goal keys run.device run.store

end Provisioning

namespace Provisioning

variable {σ κ : Type} [ChipBus σ] [KeyStore κ] {calm : Prop} {memory : Memory} {store : κ}

theorem again_reached_runs {goal state : Lifecycle} (keys : Option KeySet) (hgoal : goal ≤ state)
    (hstate : Lifecycle.ofLocks memory.configLocked memory.dataLocked = .ok state) :
    Runs (Stands (Device.Serves (σ := σ) calm)) (again goal keys) (memory, store)
      (fun state' s => state' = state ∧ s = (memory, store)) (fun _ _ => ¬calm) := by
  have hprovision : Runs (Stands (Device.Serves (σ := σ) calm)) (provision goal keys) (memory, store)
      (fun state' s => state' = state ∧ s = (memory, store)) (fun _ _ => ¬calm) := by
    rw [provision_eq]
    refine (lifecycle_runs.mono (fun _ _ h => h) ?_).bind ?_
    · rintro _ _ ⟨_, hcalm⟩ c
      obtain ⟨hconfig, hdata⟩ := hcalm c
      rw [hconfig, hdata] at hstate
      cases hstate
    · rintro first _ ⟨hfirst, rfl⟩
      obtain rfl := Except.ok.inj (hstate.symm.trans hfirst)
      rw [if_pos hgoal]
      exact Runs.pure ⟨rfl, rfl⟩
  -- the phase in which the run before ended does not matter
  exact fun run hstands => hprovision { run with phase := .idle } hstands

omit [ChipBus σ] in
theorem stalls_lt_of_run {goal state : Lifecycle} {keys : Option KeySet} {device : Device Chip} {store : κ}
    {final : Provisioning Chip κ} (hawake : device.bus.awake = true) (hfaults : device.bus.faults = [])
    (hrun : run goal keys device store = .ok state final) : device.bus.stalls < device.retryBudget := by
  by_contra hstalls
  obtain ⟨device', hword, _⟩ := Device.lockWord_unanswered hawake hfaults (Nat.le_of_not_lt hstalls)
  have hlifecycle : Device.lifecycle device = .error (.retryExhausted .read device.retryBudget) device' := by
    rw [Device.lifecycle_eq, hword]
  rw [run, provision_eq, bind_apply, onDevice] at hrun
  dsimp only at hrun
  rw [hlifecycle] at hrun
  cases hrun

/-- A run reaches its goal or fails, and it leaves alone what is settled already: on every bus, if the first state
that it sees reaches the goal, and on an awake chip without faults whenever a run before it has reached it. -/
theorem goal_honoured (goal : Lifecycle) (keys : Option KeySet) :
    (∀ {σ : Type} [Bus σ] (device : Device σ) (store : κ),
      let ended := run goal keys device.logged store
      viewed unlogged ended = run goal keys device store ∧
      (∀ state final, ended = .ok state final → goal ≤ state ∧ final.device.Seen state) ∧
      ((∀ first, conclusion (Device.lifecycle device.logged) = .ok first → goal ≤ first) →
        Untouched device store (finalState ended))) ∧
    ∀ (device : Device Chip) (store : κ), device.bus.awake = true → device.bus.faults = [] →
      ∀ state final, run goal keys device store = .ok state final →
        ∀ calls : List (Lifecycle × Option KeySet), (∀ call ∈ calls, call.1 ≤ state) →
          ∃ final', calls.mapM (fun call => again call.1 call.2) final =
              .ok (List.replicate calls.length state) final' ∧
            final'.device.bus.memory = final.device.bus.memory ∧ final'.store = final.store := by
  refine ⟨?_, ?_⟩
  · intro σ _ device store ended
    refine ⟨provision_unlogged goal keys _, ?_, ?_⟩
    · intro state final hrun
      have hlatest : Latest none (⟨device.logged, store, .idle⟩ : Provisioning (Logged σ) κ) := nofun
      obtain ⟨_, hfinal, hgoal, rfl⟩ := (provision_latest goal keys).of_ok hlatest hrun
      exact ⟨hgoal, hfinal state rfl⟩
    · intro hfirst
      let start : Provisioning (Logged σ) κ := ⟨device.logged, store, .idle⟩
      have hreached : ∀ first, conclusion (Device.lifecycle start.device) = .ok first → goal ≤ first := hfirst
      have hstops : finalState ended = _ := provision_stops keys hreached
      rw [hstops]
      exact untouched_lifecycle device store
  · intro device store hawake hfaults state final hrun calls hcalls
    have hcalm : device.Undisturbed device.retryBudget :=
      ⟨rfl, hfaults, stalls_lt_of_run hawake hfaults hrun⟩
    have hstands : Stands (Device.Serves True) (_, store) ⟨device, store, .idle⟩ :=
      stands_awake True store hawake fun _ => hcalm
    obtain ⟨⟨m, s⟩, hend, _, hstate, _⟩ := (provision_runs goal keys).of_ok hstands hrun
    have hruns : Runs (Stands (Device.Serves True))
        (calls.mapM fun call => again (σ := Chip) (κ := κ) call.1 call.2) (m, s) _ _ :=
      Runs.mapM calls fun call hcall => again_reached_runs call.2 (hcalls call hcall) hstate
    obtain ⟨_, final', _, hagain, hend', rfl, rfl⟩ := hruns.exists_ok hend fun _ _ hrough => hrough trivial
    obtain ⟨⟨k, hk, hserves⟩, hstore⟩ := hend
    obtain ⟨⟨k', hk', hserves'⟩, hstore'⟩ := hend'
    refine ⟨final', hagain, ?_, hstore'.trans hstore.symm⟩
    have hbefore : final.device.bus.memory = m := (congrArg Core.memory hserves.core).trans hk
    have hafter : final'.device.bus.memory = m := (congrArg Core.memory hserves'.core).trans hk'
    rw [hbefore, hafter]

/-- A new chip that is personalized stays as it is, whether fewer or other keys are asked for later. -/
theorem goal_honoured_again :
    let device : Device Chip := Device.ofBus { awake := true }
    let other : KeySet := ⟨Vector.replicate 16 (Bytes.zero 32)⟩
    ∃ final final', run .personalized none device ({} : MemoryStore) = .ok .personalized final ∧
      [(Lifecycle.initialized, none), (.personalized, some other)].mapM
        (fun call => again call.1 call.2) final = .ok [.personalized, .personalized] final' ∧
      final'.device.bus.memory = final.device.bus.memory ∧ final'.store = final.store := by
  intro device other
  have hopen : device.bench.chip.memory.configLocked = false ∧ device.bench.chip.memory.dataLocked = false := by
    decide +kernel
  obtain ⟨final, hrun, _⟩ := run_succeeds none device ({} : MemoryStore) rfl ⟨rfl, rfl, by decide⟩
    (fun hlocks => Bool.noConfusion (hopen.2.symm.trans hlocks.2))
    (fun hlocked => Bool.noConfusion (hopen.1.symm.trans hlocked)) fun _ => not_refuses_memoryStore _ _
  obtain ⟨final', hagain, hmemory, hstore⟩ := (goal_honoured .personalized none).2 device ({} : MemoryStore) rfl
    rfl .personalized final hrun [(.initialized, none), (.personalized, some other)] (by decide)
  exact ⟨final, final', hrun, hagain, hmemory, hstore⟩

end Provisioning

end SecureElement
