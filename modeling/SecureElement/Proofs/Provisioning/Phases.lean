import SecureElement.Proofs.Device.Events
import SecureElement.Proofs.Device.Protocol
import SecureElement.Proofs.Provisioning.Lockstep
/-!
# The phases of a run

A run reports each phase before it writes anything that belongs to it. The phases lie on the route from the state
that the run finds to its goal, on every bus and wherever the run breaks off.
-/

namespace SecureElement

/-! ## Phases and frames -/

namespace Phase

def steps (source : Phase) : List Phase → List (Phase × Phase)
  | [] => []
  | target :: rest => (source, target) :: steps target rest

theorem steps_concat (source target : Phase) (visited : List Phase) :
    steps source (visited ++ [target]) = steps source visited ++ [(visited.getLastD source, target)] := by
  induction visited generalizing source with
  | nil => rfl
  | cons first rest ih =>
    rw [List.cons_append, steps, ih, steps, List.cons_append, List.getLastD_cons]

def ofZone : Zone → Phase
  | .config => .configWrite
  | .otp => .otpWrite
  | .data => .keyWrite

def ofLock : Zone → Phase
  | .config => .configLock
  | .otp => .dataLock
  | .data => .dataLock

/-- The phase that a Write or a Lock belongs to. No other command belongs to one. -/
def ofFrame? (opcode : Opcode) (param1 : UInt8) : Option Phase :=
  match opcode with
  | .write => some ((Zone.ofParam? param1).elim .keyWrite ofZone)
  | .lock => some (if Flag.decode 0x01 param1 then .dataLock else .configLock)
  | _ => none

end Phase

def Command.phase? (command : Command) : Option Phase :=
  Phase.ofFrame? command.opcode command.param1

/-- The phase of the Write or Lock that the access writes, if it writes one. -/
def Access.phase? : Access → Option Phase
  | wrote (address :: _ :: code :: param1 :: _) _ =>
    if address = 0x03 then (Opcode.ofCode? code).bind (Phase.ofFrame? · param1) else none
  | _ => none

theorem Access.phase?_encode (command : Command) (outcome : Except BusError Nat) :
    (wrote command.encode outcome).phase? = command.phase? := by
  unfold Command.encode
  rw [Command.frame_eq]
  simp [phase?, Command.phase?, Opcode.ofCode?_code]

theorem Access.Serves.phase?_eq_some {command : Command} {expected : Nat} {access : Access} {phase : Phase}
    (h : access.Serves command expected) (hphase : access.phase? = some phase) : command.phase? = some phase := by
  rcases h with ⟨outcome, rfl⟩ | ⟨outcome, rfl⟩
  · rwa [phase?_encode] at hphase
  · cases hphase

theorem Command.phase?_write_word (zone : Zone) (param2 : Bytes 2) (data : List UInt8) :
    (Command.mk .write zone.bits param2 data).phase? = some (.ofZone zone) := by
  simp [phase?, Phase.ofFrame?]

theorem Command.phase?_write_block (zone : Zone) (param2 : Bytes 2) (data : List UInt8) :
    (Command.mk .write zone.blockParam param2 data).phase? = some (.ofZone zone) := by
  simp [phase?, Phase.ofFrame?]

theorem Command.phase?_lock (zone : Zone) (crc : Option UInt16) (param2 : UInt16) :
    (Command.simple .lock (Device.lockParam zone crc) param2).phase? = some (.ofLock zone) := by
  cases zone <;> simp [phase?, simple, Phase.ofFrame?, Phase.ofLock, Device.decode_lockParam_target]

def Event.phaseChange? : Event → Option (Phase × Phase)
  | .phaseChanged source target => some (source, target)
  | _ => none

theorem Event.phaseChange?_of_isTraffic {event : Event} (h : event.isTraffic = true) :
    event.phaseChange? = none := by
  cases event <;> first | rfl | cases h

/-! ## Handles on their way -/

namespace Device

variable {σ : Type} {before : List Event} {visited : List Phase}

/-- Since `before`, the handle has reported that it went from idle through the phases in `visited`, and every Write or
Lock in its log belongs to one of them. -/
structure Visits (before : List Event) (visited : List Phase) (device : Device (Logged σ)) : Prop where
  events : ∃ told, device.events.toList = before ++ told ∧
    told.filterMap Event.phaseChange? = Phase.steps .idle visited
  frames : ∀ access ∈ device.log, ∀ phase, access.phase? = some phase → phase ∈ visited

theorem Visits.extend {device device' : Device (Logged σ)} {more : List Event} {trace : List Access}
    (h : Visits before visited device) (hevents : device'.events.toList = device.events.toList ++ more)
    (hmore : ∀ event ∈ more, event.phaseChange? = none) (hlog : device'.log = device.log ++ trace)
    (htrace : ∀ access ∈ trace, ∀ phase, access.phase? = some phase → phase ∈ visited) :
    Visits before visited device' := by
  obtain ⟨told, htold, hsteps⟩ := h.events
  refine ⟨⟨told ++ more, ?_, ?_⟩, ?_⟩
  · rw [hevents, htold, List.append_assoc]
  · rw [List.filterMap_append, hsteps, List.filterMap_eq_nil_iff.2 hmore, List.append_nil]
  · rw [hlog]
    exact List.forall_mem_append.2 ⟨h.frames, htrace⟩

abbrev Within (before : List Event) (visited : List Phase) (device other : Device (Logged σ)) : Prop :=
  device = other ∧ Visits before visited device

variable [Bus σ]

theorem exchange_within {command : Command} (expected : Nat)
    (h : ∀ phase, command.phase? = some phase → phase ∈ visited) :
    Alike (Within (σ := σ) before visited) (exchange command expected) (exchange command expected) := by
  apply Alike.invariant
  intro device hvisits
  obtain ⟨more, hmore, htraffic⟩ := exchange_events command expected device
  obtain ⟨trace, htrace, hcourse⟩ := exchange_course command expected device
  apply hvisits.extend hmore _ htrace
  · intro access haccess phase hphase
    exact h phase ((hcourse.serves access haccess).phase?_eq_some hphase)
  · exact fun event hevent => Event.phaseChange?_of_isTraffic (htraffic event hevent)

theorem exchangeBytes_within {command : Command} (n : Nat)
    (h : ∀ phase, command.phase? = some phase → phase ∈ visited) :
    Alike (Within (σ := σ) before visited) (exchangeBytes n command) (exchangeBytes n command) := by
  apply (exchange_within n h).bind
  intro payload
  cases Bytes.ofList? n payload with
  | none => exact Alike.throw _
  | some bytes => exact Alike.pure _

theorem exchangeAck_within {command : Command} (h : ∀ phase, command.phase? = some phase → phase ∈ visited) :
    Alike (Within (σ := σ) before visited) (exchangeAck command) (exchangeAck command) :=
  (exchange_within 1 h).bind fun _ => Alike.pure _

theorem reads_within : ReadsAlike (Within (σ := σ) before visited) where
  readWord _ _ := exchangeBytes_within 4 nofun
  readBlock _ _ := exchangeBytes_within 32 nofun

theorem lifecycle_within : Alike (Within (σ := σ) before visited) lifecycle lifecycle := by
  apply reads_within.lifecycle
  rintro state device _ ⟨rfl, hvisits⟩
  have hreport : ∀ event ∈ [Event.stateObserved state], event.phaseChange? = none :=
    List.forall_mem_singleton.2 rfl
  exact ⟨rfl, hvisits.extend Array.toList_push hreport (List.append_nil _).symm nofun⟩

theorem writeWord_within {zone : Zone} (h : .ofZone zone ∈ visited) (address : UInt8) (data : Word) :
    Alike (Within (σ := σ) before visited) (writeWord zone address data) (writeWord zone address data) := by
  apply exchangeAck_within
  rw [Command.phase?_write_word]
  rintro _ ⟨⟩
  exact h

theorem writeBlock_within {zone : Zone} (h : .ofZone zone ∈ visited) (address : UInt8) (data : Block)
    (mac : Option Block) :
    Alike (Within (σ := σ) before visited) (writeBlock zone address data mac) (writeBlock zone address data mac) := by
  apply exchangeAck_within
  rw [Command.phase?_write_block]
  rintro _ ⟨⟩
  exact h

theorem lock_within {zone : Zone} (h : .ofLock zone ∈ visited) (crc : Option UInt16) :
    Alike (Within (σ := σ) before visited) (lock zone crc) (lock zone crc) := by
  apply reads_within.lock
  apply exchangeAck_within
  rw [Command.phase?_lock]
  rintro _ ⟨⟩
  exact h

end Device

/-! ## Runs on their way -/

namespace Provisioning

open Device (Within Visits)

/-- The phases that a run goes through to its goal when it finds the device in the state `first`. -/
def route (goal first : Lifecycle) : List Phase :=
  (if first = .factory then [Phase.configWrite, .configLock] else []) ++
    (if goal = .initialized then [] else [Phase.otpWrite, .keyWrite, .dataLock]) ++ [Phase.complete]

variable {σ κ α β : Type} {before : List Event} {visited : List Phase}

/-- The run has gone through the phases in `visited` and is in the last of them. -/
structure Walks (before : List Event) (visited : List Phase) (run : Provisioning (Logged σ) κ) : Prop where
  phase : run.phase = visited.getLastD .idle
  visits : Visits before visited run.device

theorem walks_nil (device : Device σ) (store : κ) :
    Walks device.events.toList [] { device := device.logged, store } :=
  ⟨rfl, ⟨[], (List.append_nil _).symm, rfl⟩, nofun⟩

section

variable {ok : β → List Phase → Prop} {fail : ProvisionError → List Phase → Prop}

theorem enter_bind_walks {phase : Phase} {f : Unit → ProvisionM (Logged σ) κ β}
    (h : Runs (Walks before) (f ()) (visited ++ [phase]) ok fail) :
    Runs (Walks before) (enter phase >>= f) visited ok fail := by
  have henter : Runs (Walks before) (enter phase : ProvisionM (Logged σ) κ Unit) visited
      (fun _ visited' => visited' = visited ++ [phase]) fail := by
    intro run hwalks
    obtain ⟨told, htold, hsteps⟩ := hwalks.visits.events
    refine ⟨visited ++ [phase], ⟨List.getLastD_concat.symm, ?_, ?_⟩, rfl⟩
    · refine ⟨told ++ [.phaseChanged run.phase phase], ?_, ?_⟩
      · exact Array.toList_push.trans (by rw [htold, List.append_assoc])
      · rw [List.filterMap_append, hsteps, Phase.steps_concat, ← hwalks.phase]
        rfl
    · intro access haccess phase' hphase
      exact List.mem_append_left _ (hwalks.visits.frames access haccess phase' hphase)
  apply henter.bind
  rintro _ _ rfl
  exact h

theorem within_bind_walks {op : ProvisionM (Logged σ) κ α} {f : α → ProvisionM (Logged σ) κ β}
    (hop : Runs (Walks before) op visited (fun _ visited' => visited' = visited) fun _ visited' => visited' = visited)
    (hfail : ∀ error, fail error visited) (h : ∀ a, Runs (Walks before) (f a) visited ok fail) :
    Runs (Walks before) (op >>= f) visited ok fail := by
  apply (hop.mono (fun _ _ hkept => hkept) _).bind
  · rintro a _ rfl
    exact h a
  · rintro error _ rfl
    exact hfail error

end

theorem onDevice_walks {action : DeviceM (Logged σ) α} (h : Alike (Within before visited) action action) :
    Runs (Walks before) (onDevice action : ProvisionM (Logged σ) κ α) visited (fun _ visited' => visited' = visited)
      fun _ visited' => visited' = visited := by
  intro run hwalks
  have hvisits := h.finalState hwalks.visits
  unfold onDevice
  cases haction : action run.device with
  | ok a device =>
    rw [haction] at hvisits
    exact ⟨visited, ⟨hwalks.phase, hvisits⟩, rfl⟩
  | error error device =>
    rw [haction] at hvisits
    exact ⟨visited, ⟨hwalks.phase, hvisits⟩, rfl⟩

theorem onStore_walks (action : EStateM KeyStoreError κ α) :
    Runs (Walks before) (onStore action : ProvisionM (Logged σ) κ α) visited (fun _ visited' => visited' = visited)
      fun _ visited' => visited' = visited := by
  intro run hwalks
  unfold onStore
  cases action run.store with
  | ok a store => exact ⟨visited, ⟨hwalks.phase, hwalks.visits⟩, rfl⟩
  | error error store => exact ⟨visited, ⟨hwalks.phase, hwalks.visits⟩, rfl⟩

variable [Bus σ]

theorem confirm_walks (expected : Lifecycle) :
    Runs (Walks before) (confirm expected : ProvisionM (Logged σ) κ Lifecycle) visited
      (fun _ visited' => visited' = visited) fun _ visited' => visited' = visited := by
  apply within_bind_walks (onDevice_walks Device.lifecycle_within)
  · exact fun _ => rfl
  intro actual
  dsimp only
  split
  · exact fun run hwalks => ⟨visited, hwalks, rfl⟩
  · exact Runs.pure rfl

theorem firstHalf_walks (first : Lifecycle) :
    let phases : List Phase := if first = .factory then [.configWrite, .configLock] else []
    Runs (Walks before) (firstHalf first : ProvisionM (Logged σ) κ Lifecycle) []
      (fun _ visited => visited = phases) fun _ visited => visited <+: phases := by
  unfold firstHalf
  by_cases hfactory : first = .factory
  · simp only [if_pos hfactory]
    apply enter_bind_walks
    apply within_bind_walks
    · exact onDevice_walks (writeConfigZone_alike (Device.writeWord_within (by decide)))
    · intro _
      decide
    intro _
    apply enter_bind_walks
    apply within_bind_walks
    · exact onDevice_walks (lockConfigZone_alike Device.reads_within fun _ => Device.lock_within (by decide) _)
    · intro _
      decide
    intro _
    exact (confirm_walks _).mono (fun _ _ h => h) fun _ _ h => h ▸ by decide
  · simp only [if_neg hfactory]
    exact Runs.pure rfl

theorem chooseKeys_walks (keys : Option KeySet) :
    Runs (Walks before) (chooseKeys keys : ProvisionM (Logged σ) κ KeySet) visited
      (fun _ visited' => visited' = visited) fun _ visited' => visited' = visited := by
  cases keys with
  | some keySet => exact Runs.pure rfl
  | none => exact onDevice_walks (KeySet.generate_alike (Device.exchangeBytes_within 32 nofun))

variable [KeyStore κ]

theorem secondHalf_walks (goal : Lifecycle) (keys : Option KeySet) (state : Lifecycle) :
    let phases : List Phase := if goal = .initialized then [] else [.otpWrite, .keyWrite, .dataLock]
    Runs (Walks before) (secondHalf goal keys state : ProvisionM (Logged σ) κ Lifecycle) visited
      (fun _ visited' => visited' = visited ++ phases) fun _ visited' => visited' <+: visited ++ phases := by
  unfold secondHalf
  by_cases hgoal : goal = .initialized
  · simp only [if_pos hgoal, List.append_nil]
    exact Runs.pure rfl
  simp only [if_neg hgoal]
  rw [reachPersonalized_eq]
  apply enter_bind_walks
  apply within_bind_walks
  · exact onDevice_walks (writeOtpZone_alike (fun _ _ => Device.writeBlock_within (by simp [Phase.ofZone]) _ _ _)
      Device.reads_within)
  · simp
  intro _
  apply enter_bind_walks
  apply within_bind_walks (chooseKeys_walks keys)
  · simp
  intro keySet
  apply within_bind_walks
  · exact onDevice_walks (writeKeys_alike keySet fun _ _ => Device.writeBlock_within (by simp [Phase.ofZone]) _ _ _)
  · simp
  intro _
  apply within_bind_walks (onStore_walks _)
  · simp
  intro _
  apply enter_bind_walks
  apply within_bind_walks
  · exact onDevice_walks (Device.lock_within (by simp [Phase.ofLock]) _)
  · simp
  intro _
  apply (confirm_walks _).mono
  · rintro _ _ rfl
    simp
  · rintro _ _ rfl
    simp

theorem route_eq_concat (goal first : Lifecycle) :
    ∃ phases, route goal first = phases ++ [.complete] ∧ Phase.complete ∉ phases := by
  refine ⟨_, rfl, ?_⟩
  by_cases hfactory : first = .factory <;> by_cases hgoal : goal = .initialized <;> simp [hfactory, hgoal]

/-- What follows the first look at the device, if there is something left to do: it goes the whole route or breaks
off before the end. -/
theorem halves_walk (goal first : Lifecycle) (keys : Option KeySet) :
    Runs (Walks before) (do
        let state ← firstHalf first
        let state ← secondHalf goal keys state
        enter .complete
        pure state : ProvisionM (Logged σ) κ Lifecycle) []
      (fun _ visited => visited = route goal first) fun _ visited => visited <+: (route goal first).dropLast := by
  have hroute : (route goal first).dropLast = _ := List.dropLast_concat
  rw [hroute]
  refine ((firstHalf_walks first).mono (fun _ _ h => h) ?_).bind ?_
  · intro _ visited hvisited
    exact hvisited.trans (List.prefix_append _ _)
  rintro state _ rfl
  refine (secondHalf_walks goal keys state).bind ?_
  rintro state _ rfl
  apply enter_bind_walks
  exact Runs.pure rfl

def Begins (goal : Lifecycle) (device : Device σ) (first : Lifecycle) : Prop :=
  conclusion (Device.lifecycle device) = .ok first ∧ ¬ goal ≤ first

theorem provision_walks (goal : Lifecycle) (keys : Option KeySet) {run : Provisioning (Logged σ) κ}
    (h : Walks before [] run) :
    let ended := provision goal keys run
    ∃ visited, Walks before visited (finalState ended) ∧
      (visited ≠ [] → ∃ first, Begins goal run.device first ∧ visited <+: route goal first) ∧
      (.complete ∈ visited ↔ (∃ state, conclusion ended = .ok state) ∧ ∃ first, Begins goal run.device first) := by
  have hlook : Runs (Walks before) (onDevice Device.lifecycle : ProvisionM (Logged σ) κ Lifecycle) [] _ _ :=
    onDevice_walks Device.lifecycle_within
  have hlooked := hlook run h
  dsimp only
  rw [provision_eq, bind_apply]
  unfold onDevice at hlooked ⊢
  unfold Begins
  cases hfirst : Device.lifecycle run.device with
  | error error device =>
    rw [hfirst] at hlooked
    obtain ⟨_, hwalks, rfl⟩ := hlooked
    exact ⟨[], hwalks, fun hne => absurd rfl hne, by simp [conclusion]⟩
  | ok first device =>
    rw [hfirst] at hlooked
    obtain ⟨_, hwalks, rfl⟩ := hlooked
    dsimp only at hwalks ⊢
    by_cases hreached : goal ≤ first
    · rw [if_pos hreached]
      exact ⟨[], hwalks, fun hne => absurd rfl hne, by simp [conclusion, hreached]⟩
    rw [if_neg hreached]
    have hrest := halves_walk goal first keys _ hwalks
    obtain ⟨phases, hroute, hbefore⟩ := route_eq_concat goal first
    rw [hroute, List.dropLast_concat] at hrest
    cases hrun : (do
        let state ← firstHalf first
        let state ← secondHalf goal keys state
        enter .complete
        pure state : ProvisionM (Logged σ) κ Lifecycle) { run with device } with
    | ok state final =>
      rw [hrun] at hrest
      obtain ⟨_, hfinal, rfl⟩ := hrest
      have hmem : .complete ∈ phases ++ [.complete] := List.mem_append_right phases List.mem_cons_self
      exact ⟨_, hfinal, fun _ => ⟨first, ⟨rfl, hreached⟩, hroute ▸ List.prefix_rfl⟩,
        iff_of_true hmem ⟨⟨state, rfl⟩, first, rfl, hreached⟩⟩
    | error error final =>
      rw [hrun] at hrest
      obtain ⟨visited, hfinal, hpart⟩ := hrest
      refine ⟨visited, hfinal, fun _ => ⟨first, ⟨rfl, hreached⟩, ?_⟩, ?_⟩
      · exact hroute ▸ hpart.trans (List.prefix_append _ _)
      · have habsent : .complete ∉ visited := fun hmem => hbefore (hpart.mem hmem)
        simp [conclusion, habsent]

/-- On every bus, a run reports that it goes from idle through phases on its route, in their order, as far as it comes,
and the last of the route exactly if it had something to do and succeeded. Whatever it has written or locked by then
belongs to a phase that it has reported. -/
theorem phases_in_order (goal : Lifecycle) (keys : Option KeySet) (device : Device σ) (store : κ) :
    let ended := run goal keys device.logged store
    viewed unlogged ended = run goal keys device store ∧
    ∃ visited told,
      (finalState ended).device.events.toList = device.events.toList ++ told ∧
      told.filterMap Event.phaseChange? = Phase.steps .idle visited ∧
      (visited ≠ [] → ∃ first, Begins goal device first ∧ visited <+: route goal first) ∧
      (.complete ∈ visited ↔ (∃ state, conclusion ended = .ok state) ∧ ∃ first, Begins goal device first) ∧
      ∀ access ∈ (finalState ended).device.log, ∀ phase, access.phase? = some phase → phase ∈ visited := by
  have hview : viewed Device.unlogged (Device.lifecycle device.logged) = Device.lifecycle device :=
    Device.lifecycle_unlogged.viewed_eq device.logged
  have hbegins (first : Lifecycle) : Begins goal device.logged first ↔ Begins goal device first := by
    unfold Begins
    rw [← hview, conclusion_viewed]
  obtain ⟨visited, hwalks, hroute, hcomplete⟩ := provision_walks goal keys (walks_nil device store)
  simp only [hbegins] at hroute hcomplete
  obtain ⟨told, htold, hsteps⟩ := hwalks.visits.events
  exact ⟨provision_unlogged goal keys _, visited, told, htold, hsteps, hroute, hcomplete, hwalks.visits.frames⟩

end Provisioning

end SecureElement
