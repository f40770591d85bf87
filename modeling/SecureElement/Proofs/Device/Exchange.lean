import SecureElement.Proofs.Chip.Bench
/-!
# Exchanges with a chip

On a disturbed chip a command is run at most once. Either its answer reaches the host, or the attempts run out,
and then the command may have been run or not. Attempts cannot run out while fewer reads are to be refused than
there are attempts and nothing else is in the way.
-/

namespace SecureElement

/-- What a verdict that needs no further attempt makes of the command. -/
def Verdict.outcome? (opcode : Opcode) : Verdict → Option (Except DeviceError (List UInt8))
  | .answered payload => some (.ok payload)
  | .refused status => some (.error (.status opcode status))
  | .inconclusive _ _ => none

/-- What the host makes of an answer that arrives undamaged, if that settles the command. -/
def Command.outcome? (command : Command) (expected : Nat) (answer : Except Status (List UInt8)) :
    Option (Except DeviceError (List UInt8)) :=
  (Verdict.ofBuffer expected (padTo (Response.size expected) 0xFF (Chip.reply answer))).outcome?
    command.opcode

namespace Command

theorem outcome?_payload (command : Command) {payload : List UInt8} (hmin : 2 ≤ payload.length)
    (hmax : payload.length ≤ 252) :
    command.outcome? payload.length (.ok payload) = some (.ok payload) := by
  have hreply : Chip.reply (.ok payload) = Response.encode payload := by
    match payload, hmin with
    | _ :: _, _ => rfl
  unfold outcome?
  rw [hreply, Verdict.ofBuffer_encode payload hmin hmax]
  rfl

theorem outcome?_done (command : Command) : command.outcome? 1 (.ok []) = some (.ok [0]) := by
  unfold outcome? Chip.reply
  rw [Verdict.ofBuffer_encodeStatus .success 1 rfl]
  rfl

theorem outcome?_refused (command : Command) (expected : Nat) {status : Status}
    (h : status = .executionError ∨ status = .parseError ∨ status = .checkMacMiscompare) :
    command.outcome? expected (.error status) = some (.error (.status command.opcode status)) := by
  rcases h with rfl | rfl | rfl
  all_goals
    unfold outcome? Chip.reply
    rw [Verdict.ofBuffer_encodeStatus _ expected rfl]
    rfl

end Command

/-! ## One attempt -/

namespace Device

section

variable {σ : Type} [Bus σ] {command : Command} {expected : Nat} {device : Device σ}

theorem attempts_resend (command : Command) (expected left attempt : Nat) :
    attempts (σ := σ) command expected (left + 1) attempt true = (do
      transmit command
      attempts command expected (left + 1) attempt false) := rfl

theorem attempts_polling (left attempt : Nat) {paused received : Device σ} {verdict : Verdict}
    (hpaused : pause command.opcode device = .ok () paused)
    (hreceive : receive command.opcode expected paused = .ok verdict received) :
    ∃ events, attempts command expected (left + 1) attempt false device = match verdict with
      | .answered payload => .ok payload received
      | .refused status => .error (.status command.opcode status) received
      | .inconclusive resend _ =>
        attempts command expected left (attempt + 1) resend { received with events } := by
  simp only [attempts, bind_apply, Bool.false_eq_true, if_false, hpaused, hreceive]
  cases verdict with
  | answered payload => exact ⟨#[], rfl⟩
  | refused status => exact ⟨#[], rfl⟩
  | inconclusive resend reason =>
    by_cases hleft : 0 < left
    · exact ⟨_, by simp only [if_pos hleft]; rfl⟩
    · exact ⟨received.events, by simp only [if_neg hleft]⟩

theorem attempts_succ (left attempt : Nat) {resend : Bool} {sent paused received : Device σ}
    {verdict : Verdict} (hsent : (if resend then transmit command else pure ()) device = .ok () sent)
    (hpaused : pause command.opcode sent = .ok () paused)
    (hreceive : receive command.opcode expected paused = .ok verdict received) :
    ∃ events, attempts command expected (left + 1) attempt resend device = match verdict with
      | .answered payload => .ok payload received
      | .refused status => .error (.status command.opcode status) received
      | .inconclusive resend _ =>
        attempts command expected left (attempt + 1) resend { received with events } := by
  cases resend with
  | true =>
    rw [if_pos rfl] at hsent
    rw [attempts_resend, bind_apply, hsent]
    exact attempts_polling left attempt hpaused hreceive
  | false =>
    injection hsent with _ hdevice
    rw [hdevice]
    exact attempts_polling left attempt hpaused hreceive

end

end Device

variable {σ : Type} [ChipBus σ]

namespace Device

def bench (device : Device σ) : Bench :=
  ChipBus.bench device.bus

/-- Nobody disturbs the chip any more, and what was done before costs fewer than `left` attempts. -/
def Undisturbed (left : Nat) (device : Device σ) : Prop :=
  device.bench.script = [] ∧ device.bench.chip.faults = [] ∧ device.bench.chip.stalls < left

/-- The chip is awake and has core `k`, and nothing that happens to it can exhaust a command, if `calm`. -/
structure Serves (calm : Prop) (k : Core) (device : Device σ) : Prop where
  awake : device.bench.chip.awake = true
  core : device.bench.chip.core = k
  undisturbed : calm → device.Undisturbed device.retryBudget

/-- Between two attempts at a command that takes core `k` to `k'` with `reply`. A command that is to be sent
again has not been run, and one that is not was lost or run. -/
structure InFlight (calm : Prop) (left : Nat) (k k' : Core) (reply : List UInt8) (resend : Bool)
    (device : Device σ) : Prop where
  awake : device.bench.chip.awake = true
  undisturbed : calm → device.Undisturbed left
  stage : if resend then device.bench.chip.core = k else
    (device.bench.chip.core = k ∧ ¬calm ∧
      ∃ fault : Fault, device.bench.chip.pending = some fault.frame) ∨
    (device.bench.chip.core = k' ∧ device.bench.chip.pending = some reply)

variable {calm : Prop} {left : Nat} {k k' : Core} {answer : Except Status (List UInt8)}
variable {device : Device σ} {command : Command}

theorem Serves.inFlight (h : Serves calm k device) (k' : Core) (reply : List UInt8) :
    InFlight calm device.retryBudget k k' reply true device :=
  ⟨h.awake, h.undisturbed, h.core⟩

theorem transmit_eq (command : Command) (device : Device σ) :
    ∃ device', transmit command device = .ok () device' ∧ device'.bench =
      { device.bench.advance with chip := device.bench.advance.chip.receive command.encode } := by
  obtain ⟨bus', hwrite, hbench⟩ := ChipBus.write_eq command.encode device.bus
  have hlong : ¬ command.encode.length ≤ 1 := by
    simp [Command.encode]
  refine ⟨{ device with
    bus := bus', events := device.events.push (.ofPacket .sent command.opcode command.encode) }, ?_, hbench⟩
  simp only [transmit, bind_apply, onBus, hwrite, if_neg hlong]
  rfl

theorem transmit_inFlight (hlength : command.data.length ≤ maxCommandData)
    (hperforms : command.Performs k answer k')
    (h : InFlight calm left k k' (Chip.reply answer) true device) :
    ∃ device', transmit command device = .ok () device' ∧
      InFlight calm left k k' (Chip.reply answer) false device' := by
  obtain ⟨device', htransmit, hbench⟩ := transmit_eq command device
  refine ⟨device', htransmit, ?_⟩
  have hawake : device.bench.advance.chip.awake = true := by
    rw [Bench.awake_advance, h.awake]
  have hcore : device.bench.advance.chip.core = k := by
    rw [Bench.core_advance]
    exact h.stage
  cases hfaults : device.bench.advance.chip.faults with
  | cons fault faults =>
    rw [Chip.receive_fault hawake hfaults] at hbench
    -- the next fault was there from the start or was injected just now
    have hrough : ¬calm := by
      intro hcalm
      obtain ⟨hscript, hnone, _⟩ := h.undisturbed hcalm
      rw [Bench.advance_of_script_nil hscript, hnone] at hfaults
      exact absurd hfaults (by simp)
    refine ⟨?_, fun hcalm => absurd hcalm hrough, .inl ⟨?_, hrough, fault, ?_⟩⟩
    · rw [hbench]
      exact hawake
    · rw [hbench]
      exact hcore
    · rw [hbench]
  | nil =>
    rw [Chip.receive_command hawake hfaults hlength (hcore ▸ hperforms)] at hbench
    refine ⟨?_, fun hcalm => ?_, .inr ⟨?_, ?_⟩⟩
    · rw [hbench]
      exact hawake
    · obtain ⟨hscript, _, hstalls⟩ := h.undisturbed hcalm
      rw [Bench.advance_of_script_nil hscript] at hbench hfaults
      unfold Undisturbed
      rw [hbench]
      exact ⟨hscript, hfaults, hstalls⟩
    · rw [hbench]
      rfl
    · rw [hbench]

theorem pause_eq (opcode : Opcode) (device : Device σ) :
    ∃ device', pause opcode device = .ok () device' ∧ device'.bench = device.bench :=
  ⟨_, rfl, ChipBus.bench_wait _ _⟩

theorem receive_eq_busy {stalls : Nat} (opcode : Opcode) (expected : Nat)
    (hstalls : device.bench.advance.chip.stalls = stalls + 1) :
    ∃ reason device', receive opcode expected device = .ok (.inconclusive false reason) device' ∧
      device'.bench =
        { device.bench.advance with chip := { device.bench.advance.chip with stalls } } := by
  obtain ⟨error, hsend, hbusy⟩ := Chip.send_stalled (Response.size expected) hstalls
  obtain ⟨bus', hread, hbench⟩ := ChipBus.read_eq_error hsend
  refine ⟨.bus error, { device with bus := bus' }, ?_, hbench⟩
  simp only [receive, hread, hbusy, if_true]

theorem receive_eq_frame {frame : List UInt8} (opcode : Opcode) (expected : Nat)
    (hstalls : device.bench.advance.chip.stalls = 0) (hpending : device.bench.chip.pending = some frame) :
    ∃ device', receive opcode expected device =
        .ok (.ofBuffer expected (padTo (Response.size expected) 0xFF frame)) device' ∧
      device'.bench =
        { device.bench.advance with chip := { device.bench.advance.chip with pending := none } } := by
  have hadvance : device.bench.advance.chip.pending = some frame := by
    rw [Bench.pending_advance, hpending]
  obtain ⟨bus', hread, hbench⟩ := ChipBus.read_eq_ok
    (Chip.send_pending (Response.size expected) hstalls hadvance)
  let packet := Event.ofPacket .received opcode (padTo (Response.size expected) 0xFF frame)
  refine ⟨{ device with bus := bus', events := device.events.push packet }, ?_, hbench⟩
  simp only [receive, hread, packet]

theorem receive_inFlight {reply : List UInt8} (opcode : Opcode) (expected : Nat)
    (h : InFlight calm (left + 1) k k' reply false device) :
    (∃ device', receive opcode expected device =
        .ok (.ofBuffer expected (padTo (Response.size expected) 0xFF reply)) device' ∧
      Serves calm k' device') ∨
    ∃ resend reason device', receive opcode expected device = .ok (.inconclusive resend reason) device' ∧
      InFlight calm left k k' reply resend device' := by
  have hawake : device.bench.advance.chip.awake = true := by
    rw [Bench.awake_advance, h.awake]
  have hcore : device.bench.advance.chip.core = device.bench.chip.core := Bench.core_advance _
  have hcalm (c : calm) : device.bench.advance = device.bench :=
    Bench.advance_of_script_nil (h.undisturbed c).1
  cases hstalls : device.bench.advance.chip.stalls with
  | succ stalls =>
    right
    obtain ⟨reason, device', hreceive, hbench⟩ := receive_eq_busy opcode expected hstalls
    refine ⟨false, reason, device', hreceive, ?_, fun c => ?_, ?_⟩
    · rw [hbench]
      exact hawake
    · obtain ⟨hscript, hfaults, hleft⟩ := h.undisturbed c
      rw [hcalm c] at hstalls hbench
      unfold Undisturbed
      rw [hbench]
      exact ⟨hscript, hfaults, by rw [hstalls] at hleft; exact Nat.lt_of_succ_lt_succ hleft⟩
    · have hstage := h.stage
      rw [← hcore, ← Bench.pending_advance] at hstage
      rw [hbench]
      exact hstage
  | zero =>
    rcases h.stage with ⟨hk, hrough, fault, hfault⟩ | ⟨hk', hreply⟩
    · right
      obtain ⟨device', hreceive, hbench⟩ := receive_eq_frame opcode expected hstalls hfault
      obtain ⟨reason, hverdict⟩ := Verdict.ofBuffer_fault fault expected
      rw [hverdict] at hreceive
      refine ⟨true, reason, device', hreceive, ?_, fun c => absurd c hrough, ?_⟩
      · rw [hbench]
        exact hawake
      · rw [hbench]
        exact hcore.trans hk
    · left
      obtain ⟨device', hreceive, hbench⟩ := receive_eq_frame opcode expected hstalls hreply
      refine ⟨device', hreceive, ?_, ?_, fun c => ?_⟩
      · rw [hbench]
        exact hawake
      · rw [hbench]
        exact hcore.trans hk'
      · obtain ⟨hscript, hfaults, _⟩ := h.undisturbed c
        rw [hcalm c] at hstalls hbench
        unfold Undisturbed
        rw [hbench]
        exact ⟨hscript, hfaults, by rw [hstalls]; exact device'.retryBudget_pos⟩

theorem InFlight.of_bench_eq {reply : List UInt8} {resend : Bool} {device' : Device σ}
    (h : InFlight calm left k k' reply resend device) (hbench : device'.bench = device.bench) :
    InFlight calm left k k' reply resend device' := by
  obtain ⟨hawake, hundisturbed, hstage⟩ := h
  rw [← hbench] at hawake hstage
  refine ⟨hawake, fun c => ?_, hstage⟩
  unfold Undisturbed
  rw [hbench]
  exact hundisturbed c

/-- What the attempts at a command come to. They run out only if something disturbed them, and then it is
open whether the command was run. -/
theorem attempts_inFlight {expected : Nat} {outcome : Except DeviceError (List UInt8)}
    (hlength : command.data.length ≤ maxCommandData) (hperforms : command.Performs k answer k')
    (houtcome : command.outcome? expected answer = some outcome) {resend : Bool} (attempt : Nat)
    (h : InFlight calm left k k' (Chip.reply answer) resend device) :
    match attempts command expected left attempt resend device with
    | .ok payload device' => Serves calm k' device' ∧ outcome = .ok payload
    | .error error device' =>
      (Serves calm k' device' ∧ outcome = .error error) ∨
      (¬calm ∧ (∃ n, error = .retryExhausted command.opcode n) ∧
        (Serves calm k device' ∨ Serves calm k' device')) := by
  -- on the attempts that are left; `InFlight` is what one attempt hands to the next
  induction left generalizing device resend attempt with
  | zero =>
    -- a calm chip has fewer reads left to refuse than there are attempts, so it does not get here
    have hrough : ¬calm := fun c => absurd (h.undisturbed c).2.2 (Nat.not_lt_zero _)
    unfold attempts
    rw [throw_apply]
    refine .inr ⟨hrough, ⟨_, rfl⟩, ?_⟩
    have hstage := h.stage
    split at hstage
    · exact .inl ⟨h.awake, hstage, fun c => absurd c hrough⟩
    · rcases hstage with ⟨hk, _⟩ | ⟨hk', _⟩
      · exact .inl ⟨h.awake, hk, fun c => absurd c hrough⟩
      · exact .inr ⟨h.awake, hk', fun c => absurd c hrough⟩
  | succ left ih =>
    obtain ⟨sent, hsent, hflight⟩ : ∃ sent,
        (if resend then transmit command else pure ()) device = .ok () sent ∧
          InFlight calm (left + 1) k k' (Chip.reply answer) false sent := by
      cases resend with
      | true => exact transmit_inFlight hlength hperforms h
      | false => exact ⟨device, rfl, h⟩
    obtain ⟨paused, hpaused, hbench⟩ := pause_eq command.opcode sent
    rcases receive_inFlight command.opcode expected (hflight.of_bench_eq hbench) with
      ⟨received, hreceive, hserves⟩ | ⟨resend', reason, received, hreceive, hflight'⟩
    · obtain ⟨_, hattempts⟩ := attempts_succ left attempt hsent hpaused hreceive
      rw [hattempts]
      rw [Command.outcome?] at houtcome
      generalize Verdict.ofBuffer expected (padTo (Response.size expected) 0xFF (Chip.reply answer)) =
        verdict at houtcome
      cases verdict with
      | answered payload => exact ⟨hserves, (Option.some.inj houtcome).symm⟩
      | refused status => exact .inl ⟨hserves, (Option.some.inj houtcome).symm⟩
      | inconclusive _ _ => cases houtcome
    · obtain ⟨events, hattempts⟩ := attempts_succ left attempt hsent hpaused hreceive
      rw [hattempts]
      exact ih (attempt + 1) (hflight'.of_bench_eq rfl)

theorem exchange_eq (command : Command) (expected : Nat) (device : Device σ) :
    exchange command expected device =
      attempts command expected device.retryBudget 1 true device := rfl

/-- An exchange with an awake chip ends as the chip meant it, or its attempts run out. -/
theorem exchange_runs {expected : Nat} {outcome : Except DeviceError (List UInt8)}
    (hlength : command.data.length ≤ maxCommandData) (hperforms : command.Performs k answer k')
    (houtcome : command.outcome? expected answer = some outcome) :
    Runs (Serves (σ := σ) calm) (exchange command expected) k
      (fun payload l => outcome = .ok payload ∧ l = k')
      (fun error l => (outcome = .error error ∧ l = k') ∨
        (¬calm ∧ (∃ n, error = .retryExhausted command.opcode n) ∧ (l = k ∨ l = k'))) := by
  intro device hserves
  have hattempts := attempts_inFlight hlength hperforms houtcome 1
    (hserves.inFlight k' (Chip.reply answer))
  rw [exchange_eq]
  split at hattempts
  · next payload device' hrun =>
    rw [hrun]
    exact ⟨k', hattempts.1, hattempts.2, rfl⟩
  · next error device' hrun =>
    rw [hrun]
    rcases hattempts with ⟨hserves', herror⟩ | ⟨hrough, hexhausted, hserves' | hserves'⟩
    · exact ⟨k', hserves', .inl ⟨herror, rfl⟩⟩
    · exact ⟨k, hserves', .inr ⟨hrough, hexhausted, .inl rfl⟩⟩
    · exact ⟨k', hserves', .inr ⟨hrough, hexhausted, .inr rfl⟩⟩

/-! ## Chips that are not awake -/

structure Asleep (k : Core) (device : Device σ) : Prop where
  asleep : device.bench.chip.awake = false
  core : device.bench.chip.core = k

theorem Asleep.of_chip_eq {device' : Device σ} (h : Asleep k device)
    (hawake : device'.bench.chip.awake = device.bench.advance.chip.awake)
    (hcore : device'.bench.chip.core = device.bench.advance.chip.core) : Asleep k device' :=
  ⟨by rw [hawake, Bench.awake_advance, h.asleep], by rw [hcore, Bench.core_advance, h.core]⟩

theorem transmit_asleep (command : Command) (h : Asleep k device) :
    ∃ device', transmit command device = .ok () device' ∧ Asleep k device' ∧
      device'.bench.chip.pending = none := by
  obtain ⟨device', htransmit, hbench⟩ := transmit_eq command device
  have hasleep : device.bench.advance.chip.awake = false := by
    rw [Bench.awake_advance, h.asleep]
  rw [Chip.receive_asleep hasleep] at hbench
  refine ⟨device', htransmit, h.of_chip_eq ?_ ?_, ?_⟩
  all_goals
    rw [hbench]
  rfl

theorem receive_asleep (opcode : Opcode) (expected : Nat) (h : Asleep k device)
    (hpending : device.bench.chip.pending = none) :
    ∃ reason device', receive opcode expected device = .ok (.inconclusive false reason) device' ∧
      Asleep k device' ∧ device'.bench.chip.pending = none := by
  have hadvance : device.bench.advance.chip.pending = none := by
    rw [Bench.pending_advance, hpending]
  cases hstalls : device.bench.advance.chip.stalls with
  | succ stalls =>
    obtain ⟨reason, device', hreceive, hbench⟩ := receive_eq_busy opcode expected hstalls
    refine ⟨reason, device', hreceive, h.of_chip_eq ?_ ?_, ?_⟩
    · rw [hbench]
    · rw [hbench]
      rfl
    · rw [hbench]
      exact hadvance
  | zero =>
    obtain ⟨error, hsend, hbusy⟩ := Chip.send_nothing (Response.size expected) hstalls hadvance
    obtain ⟨bus', hread, hbench⟩ := ChipBus.read_eq_error hsend
    refine ⟨.bus error, { device with bus := bus' }, ?_, h.of_chip_eq ?_ ?_, ?_⟩
    · simp only [receive, hread, hbusy, if_true]
    all_goals
      rw [bench, hbench]
    exact hadvance

theorem attempts_asleep (command : Command) (expected left attempt : Nat) (resend : Bool)
    (h : Asleep k device) (hpending : resend = false → device.bench.chip.pending = none) :
    ∃ error device', attempts command expected left attempt resend device = .error error device' ∧
      Asleep k device' := by
  induction left generalizing device resend attempt with
  | zero => exact ⟨_, device, rfl, h⟩
  | succ left ih =>
    obtain ⟨sent, hsent, hasleep, hnone⟩ : ∃ sent,
        (if resend then transmit command else pure ()) device = .ok () sent ∧ Asleep k sent ∧
          sent.bench.chip.pending = none := by
      cases resend with
      | true => exact transmit_asleep command h
      | false => exact ⟨device, rfl, h, hpending rfl⟩
    obtain ⟨paused, hpaused, hbench⟩ := pause_eq command.opcode sent
    rw [← hbench] at hnone
    have hasleep' : Asleep k paused :=
      ⟨by rw [hbench, hasleep.asleep], by rw [hbench, hasleep.core]⟩
    obtain ⟨reason, received, hreceive, hreceived, hnone'⟩ :=
      receive_asleep command.opcode expected hasleep' hnone
    obtain ⟨events, hattempts⟩ := attempts_succ left attempt hsent hpaused hreceive
    rw [hattempts]
    exact ih (attempt + 1) false ⟨hreceived.asleep, hreceived.core⟩ fun _ => hnone'

theorem exchange_asleep_runs (command : Command) (expected : Nat) :
    Runs (Asleep (σ := σ)) (exchange command expected) k (fun _ _ => False) (fun _ l => l = k) := by
  intro device hasleep
  obtain ⟨error, device', hattempts, hasleep'⟩ :=
    attempts_asleep command expected device.retryBudget 1 true hasleep fun hresend => nomatch hresend
  rw [exchange_eq, hattempts]
  exact ⟨k, hasleep', rfl⟩

end Device

end SecureElement
