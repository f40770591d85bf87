import SecureElement.Proofs.Device.Protocol
/-!
# What an exchange reports

The events of an exchange tell, attempt by attempt, what happened on the bus: the packets that were moved, and after
an attempt that settled nothing, that another follows. Only the last attempt of the budget is not followed by one.
-/

namespace SecureElement

/-! ## Attempts and their reports -/

namespace Access

def isTaken : Access → Bool
  | wrote _ (.ok written) => 1 < written
  | _ => false

def buffer? : Access → Option (List UInt8)
  | read _ (.ok buffer) => some buffer
  | _ => none

end Access

inductive Attempt where
  /-- The command was not taken, and nothing was read. -/
  | unsent (outcome : Except BusError Nat)
  | sent (written : Nat) (answer : Except BusError (List UInt8))
  /-- The command had been taken before, and its answer was asked for again. -/
  | polled (answer : Except BusError (List UInt8))

namespace Attempt

def accesses (command : Command) (expected : Nat) : Attempt → List Access
  | unsent outcome => [.wrote command.encode outcome]
  | sent written answer => [.wrote command.encode (.ok written), .read (Response.size expected) answer]
  | polled answer => [.read (Response.size expected) answer]

/-- A command is taken from its second byte on. -/
def Apt : Attempt → Prop
  | unsent outcome => ∀ written, outcome = .ok written → written ≤ 1
  | sent written _ => 1 < written
  | polled _ => True

def reason? (expected : Nat) : Attempt → Option RetryReason
  | unsent _ => none
  | sent _ answer => RetryReason.ofAnswer? expected answer
  | polled answer => RetryReason.ofAnswer? expected answer

/-- The report that attempt `number` out of `budget` settled nothing and is followed by another. -/
def retry (command : Command) (expected budget number : Nat) (attempt : Attempt) : List Event :=
  match attempt.reason? expected with
  | some reason => if number = budget then [] else [.retry command.opcode number reason]
  | none => []

def events (command : Command) (expected budget number : Nat) (attempt : Attempt) : List Event :=
  (attempt.accesses command expected).filterMap (Access.packet? command.opcode) ++
    attempt.retry command expected budget number

/-- What is reported of attempts of which the first is number `number`. -/
def reports (command : Command) (expected budget : Nat) : (number : Nat) → List Attempt → List Event
  | _, [] => []
  | number, attempt :: rest =>
    attempt.events command expected budget number ++ reports command expected budget (number + 1) rest

section Lemmas

variable {command : Command} {expected budget number : Nat} {attempt : Attempt}

theorem retry_of_settled (h : attempt.reason? expected = none) :
    attempt.retry command expected budget number = [] := by
  rw [retry, h]

theorem retry_of_reason {reason : RetryReason} (h : attempt.reason? expected = some reason) :
    attempt.retry command expected budget number =
      if number = budget then [] else [.retry command.opcode number reason] := by
  rw [retry, h]

theorem events_polled (answer : Except BusError (List UInt8)) :
    (polled answer).events command expected budget number =
      ((Access.read (Response.size expected) answer).packet? command.opcode).toList ++
        (polled answer).retry command expected budget number := by
  rw [events, accesses, List.filterMap_cons, List.filterMap_nil]
  cases (Access.read (Response.size expected) answer).packet? command.opcode <;> rfl

theorem events_unsent (outcome : Except BusError Nat) :
    (unsent outcome).events command expected budget number =
      ((Access.wrote command.encode outcome).packet? command.opcode).toList := by
  rw [events, accesses, List.filterMap_cons, List.filterMap_nil, retry_of_settled rfl, List.append_nil]
  cases (Access.wrote command.encode outcome).packet? command.opcode <;> rfl

theorem events_sent (written : Nat) (answer : Except BusError (List UInt8)) :
    (sent written answer).events command expected budget number =
      ((Access.wrote command.encode (.ok written)).packet? command.opcode).toList ++
        (polled answer).events command expected budget number := by
  rw [events, events, accesses, accesses, List.filterMap_cons]
  cases (Access.wrote command.encode (.ok written)).packet? command.opcode <;> rfl

end Lemmas

end Attempt

/-- The attempts that are made at a command while `left` are left of the budget: each but the last settles nothing,
and the last does, unless it has used the budget up. -/
inductive Succession (expected : Nat) : (left : Nat) → List Attempt → Prop where
  | spent : Succession expected 0 []
  | settled {left : Nat} {attempt : Attempt} (hapt : attempt.Apt) (h : attempt.reason? expected = none) :
      Succession expected (left + 1) [attempt]
  | again {left : Nat} {attempt : Attempt} {rest : List Attempt} {reason : RetryReason} (hapt : attempt.Apt)
      (h : attempt.reason? expected = some reason) (hrest : Succession expected left rest) :
      Succession expected (left + 1) (attempt :: rest)

/-! ## What the reports show -/

namespace Event

def retried? : Event → Option Nat
  | retry _ number _ => some number
  | _ => none

def isSent : Event → Bool
  | packet .sent _ _ _ => true
  | _ => false

def isReceived : Event → Bool
  | packet .received _ _ _ => true
  | _ => false

end Event

namespace Access

variable {command : Command} {expected : Nat}

theorem filter_isSent_packets {accesses : List Access} (h : ∀ access ∈ accesses, access.Serves command expected) :
    (accesses.filterMap (packet? command.opcode)).filter Event.isSent =
      List.replicate (accesses.countP isTaken)
        (.packet .sent command.opcode command.encode.length (command.encode.take 40)) := by
  induction accesses with
  | nil => rfl
  | cons access accesses ih =>
    obtain ⟨hfirst, hrest⟩ := List.forall_mem_cons.1 h
    rw [List.filterMap_cons, List.countP_cons]
    rcases hfirst with ⟨outcome, rfl⟩ | ⟨outcome, rfl⟩
    · cases outcome with
      | error error => exact ih hrest
      | ok written =>
        by_cases htaken : 1 < written
        · have hpacket : (wrote command.encode (.ok written)).packet? command.opcode =
              some (.ofPacket .sent command.opcode command.encode) := if_pos htaken
          have hcount : (wrote command.encode (.ok written)).isTaken = true := decide_eq_true htaken
          rw [hpacket, if_pos hcount, List.replicate_succ]
          exact congrArg (_ :: ·) (ih hrest)
        · simp [packet?, isTaken, htaken, ih hrest]
    · cases outcome with
      | error error => exact ih hrest
      | ok buffer => exact ih hrest

theorem filter_isReceived_packets (opcode : Opcode) (accesses : List Access) :
    (accesses.filterMap (packet? opcode)).filter Event.isReceived =
      (accesses.filterMap buffer?).map fun buffer => .packet .received opcode buffer.length (buffer.take 40) := by
  induction accesses with
  | nil => rfl
  | cons access accesses ih =>
    rw [List.filterMap_cons, List.filterMap_cons]
    cases access with
    | wrote bytes outcome =>
      cases outcome with
      | error error => exact ih
      | ok written =>
        by_cases htaken : 1 < written
        · simpa [packet?, buffer?, htaken, Event.ofPacket, Event.isReceived] using ih
        · simpa [packet?, buffer?, htaken] using ih
    | read len outcome =>
      cases outcome with
      | error error => exact ih
      | ok buffer => exact congrArg (_ :: ·) ih

theorem filterMap_retried?_packets (opcode : Opcode) (accesses : List Access) :
    (accesses.filterMap (packet? opcode)).filterMap Event.retried? = [] := by
  induction accesses with
  | nil => rfl
  | cons access accesses ih =>
    rw [List.filterMap_cons]
    cases access with
    | wrote bytes outcome =>
      cases outcome with
      | error error => exact ih
      | ok written => by_cases htaken : 1 < written <;> simpa [packet?, htaken, Event.ofPacket, Event.retried?] using ih
    | read len outcome => cases outcome <;> exact ih

end Access

namespace Attempt

variable {command : Command} {expected budget : Nat}

theorem serves_accesses (attempt : Attempt) :
    ∀ access ∈ attempt.accesses command expected, access.Serves command expected := by
  cases attempt with
  | unsent outcome => exact List.forall_mem_singleton.2 (.inl ⟨_, rfl⟩)
  | sent written answer => exact List.forall_mem_cons.2 ⟨.inl ⟨_, rfl⟩, List.forall_mem_singleton.2 (.inr ⟨_, rfl⟩)⟩
  | polled answer => exact List.forall_mem_singleton.2 (.inr ⟨_, rfl⟩)

theorem filter_reports {p : Event → Bool} (hp : ∀ opcode number reason, p (.retry opcode number reason) = false)
    (number : Nat) (made : List Attempt) :
    (reports command expected budget number made).filter p =
      ((made.flatMap (accesses command expected)).filterMap (Access.packet? command.opcode)).filter p := by
  induction made generalizing number with
  | nil => rfl
  | cons attempt made ih =>
    have hretry : (attempt.retry command expected budget number).filter p = [] := by
      unfold retry
      split
      · split
        · rfl
        · simp [hp]
      · rfl
    rw [reports, events, List.filter_append, List.filter_append, hretry, List.append_nil, ih, List.flatMap_cons,
      List.filterMap_append, List.filter_append]

end Attempt

namespace Succession

variable {command : Command} {expected budget left number : Nat} {made : List Attempt}

theorem length_le (h : Succession expected left made) : made.length ≤ left := by
  induction h with
  | spent => exact Nat.le_refl 0
  | settled _ _ => exact Nat.succ_le_succ (Nat.zero_le _)
  | again _ _ _ ih => exact Nat.succ_le_succ ih

theorem filterMap_retried? (h : Succession expected left made) (hnumber : number + left = budget + 1) :
    (Attempt.reports command expected budget number made).filterMap Event.retried? =
      List.range' number (made.length - 1) := by
  induction h generalizing number with
  | spent => rfl
  | settled _ hnone =>
    rw [Attempt.reports, Attempt.reports, Attempt.events, Attempt.retry_of_settled hnone, List.append_nil, List.append_nil,
      Access.filterMap_retried?_packets]
    rfl
  | @again left attempt rest reason _ hreason hrest ih =>
    have hlength := hrest.length_le
    rw [Attempt.reports, Attempt.events, Attempt.retry_of_reason hreason, List.filterMap_append, List.filterMap_append,
      Access.filterMap_retried?_packets, List.nil_append, ih (by omega), List.length_cons, Nat.add_sub_cancel]
    by_cases hlast : number = budget
    · have hnil : rest.length = 0 := by omega
      rw [if_pos hlast, hnil]
      rfl
    · obtain ⟨count, hcount⟩ : ∃ count, rest.length = count + 1 := by
        cases hrest with
        | spent => omega
        | settled _ _ => exact ⟨_, rfl⟩
        | again _ _ _ => exact ⟨_, rfl⟩
      rw [if_neg hlast, hcount, Nat.add_sub_cancel, List.range'_succ]
      rfl

end Succession

/-! ## Steps of an exchange on a logged bus -/

namespace Device

variable {σ : Type} [Bus σ] {command : Command} {expected budget : Nat}

theorem attempts_inconclusive (left attempt : Nat) {device paused received : Device σ} {resend : Bool}
    {reason : RetryReason} (hpaused : pause command.opcode device = .ok () paused)
    (hreceive : receive command.opcode expected paused = .ok (.inconclusive resend reason) received) :
    ∃ device', attempts command expected (left + 1) attempt false device =
        attempts command expected left (attempt + 1) resend device' ∧ device'.bus = received.bus ∧
      device'.events.toList = received.events.toList ++
        if left = 0 then [] else [.retry command.opcode attempt reason] := by
  simp only [attempts, bind_apply, Bool.false_eq_true, if_false, hpaused, hreceive]
  by_cases hleft : left = 0
  · subst hleft
    exact ⟨received, rfl, rfl, (List.append_nil _).symm⟩
  · refine ⟨{ received with events := received.events.push (.retry command.opcode attempt reason) }, ?_, rfl, ?_⟩
    · rw [if_pos (Nat.pos_of_ne_zero hleft)]
      rfl
    · rw [if_neg hleft]
      exact Array.toList_push

theorem attempts_settled_by (left attempt : Nat) {device paused received : Device σ} {verdict : Verdict}
    (hpaused : pause command.opcode device = .ok () paused)
    (hreceive : receive command.opcode expected paused = .ok verdict received) (h : verdict.reason? = none) :
    finalState (attempts command expected (left + 1) attempt false device) = received := by
  obtain ⟨_, hattempts⟩ := attempts_polling left attempt hpaused hreceive
  rw [hattempts]
  cases verdict with
  | answered payload => rfl
  | refused status => rfl
  | inconclusive resend reason => cases h

/-- One attempt: it settles the command, or the attempts that are left go on where it ends. -/
structure Steps (command : Command) (expected budget left number : Nat) (resend : Bool) (made : Attempt)
    (device device' : Device (Logged σ)) : Prop where
  apt : made.Apt
  log : device'.log = device.log ++ made.accesses command expected
  events : device'.events.toList = device.events.toList ++ made.events command expected budget number
  settled : made.reason? expected = none →
    finalState (attempts command expected (left + 1) number resend device) = device'
  again : ∀ reason, made.reason? expected = some reason →
    ∃ resend', attempts command expected (left + 1) number resend device =
      attempts command expected left (number + 1) resend' device'

theorem polled_steps {left number : Nat} (hnumber : number + left = budget) (device : Device (Logged σ)) :
    ∃ answer device', Steps command expected budget left number false (.polled answer) device device' := by
  obtain ⟨paused, hpaused, hpausedLog, hpausedEvents⟩ : ∃ paused, pause command.opcode device = .ok () paused ∧
      paused.log = device.log ∧ paused.events = device.events := ⟨_, rfl, rfl, rfl⟩
  obtain ⟨answer, received, hlog, hevents, hreceive⟩ := receive_logged command expected paused
  rw [hpausedLog] at hlog
  rw [hpausedEvents] at hevents
  have hreason : (Attempt.polled answer).reason? expected = RetryReason.ofAnswer? expected answer := rfl
  cases hanswer : RetryReason.ofAnswer? expected answer with
  | none =>
    refine ⟨answer, received, trivial, hlog, ?_, fun _ => ?_, fun reason h => ?_⟩
    · rw [hevents, Attempt.events_polled, Attempt.retry_of_settled (hreason.trans hanswer), List.append_nil]
    · rcases hreceive with ⟨verdict, hverdict, _, hsettled, _⟩ | ⟨error, herror, _⟩
      · exact attempts_settled_by left number hpaused hverdict (hsettled.trans hanswer)
      · rw [attempts_broken left number hpaused herror]
        rfl
    · rw [hreason, hanswer] at h
      cases h
  | some reason =>
    obtain ⟨verdict, hverdict, _, hsome, _⟩ := hreceive.resolve_right fun h => by
      obtain ⟨_, _, _, hnone⟩ := h
      cases hanswer.symm.trans hnone
    rw [hanswer] at hsome
    obtain ⟨resend, rfl⟩ : ∃ resend, verdict = .inconclusive resend reason := by
      cases verdict with
      | inconclusive resend reason' =>
        injection hsome with hsame
        exact ⟨resend, by rw [hsame]⟩
      | answered _ => cases hsome
      | refused _ => cases hsome
    obtain ⟨device', hattempts, hbus, hreported⟩ := attempts_inconclusive left number hpaused hverdict
    refine ⟨answer, device', trivial, ?_, ?_, fun h => ?_, fun _ _ => ⟨resend, hattempts⟩⟩
    · rw [Device.log, hbus]
      exact hlog
    · have hlast : number = budget ↔ left = 0 := by omega
      rw [hreported, hevents, Attempt.events_polled, Attempt.retry_of_reason (hreason.trans hanswer), List.append_assoc]
      simp only [hlast]
    · rw [hreason, hanswer] at h
      cases h

theorem attempt_steps {left number : Nat} (hnumber : number + left = budget) (resend : Bool)
    (device : Device (Logged σ)) :
    ∃ made device', Steps command expected budget left number resend made device device' := by
  cases resend with
  | false =>
    obtain ⟨answer, device', hsteps⟩ := polled_steps hnumber device
    exact ⟨.polled answer, device', hsteps⟩
  | true =>
    obtain ⟨outcome, sent, hlog, hevents, ⟨written, rfl, htaken, hsent⟩ | ⟨hshort, error, herror, _⟩⟩ :=
      transmit_logged command expected device
    · obtain ⟨answer, device', hsteps⟩ : ∃ answer device',
          Steps command expected budget left number false (.polled answer) sent device' := polled_steps hnumber sent
      have hgoes : attempts command expected (left + 1) number true device =
          attempts command expected (left + 1) number false sent := by
        rw [attempts_resend, bind_apply, hsent]
      refine ⟨.sent written answer, device', htaken, ?_, ?_, fun h => ?_, fun reason h => ?_⟩
      · rw [hsteps.log, hlog, List.append_assoc]
        rfl
      · rw [hsteps.events, hevents, List.append_assoc, Attempt.events_sent]
      · rw [hgoes]
        exact hsteps.settled h
      · rw [hgoes]
        exact hsteps.again reason h
    · refine ⟨.unsent outcome, sent, hshort, hlog, ?_, fun _ => ?_, nofun⟩
      · rw [hevents, Attempt.events_unsent]
      · rw [attempts_resend, bind_apply, herror]
        rfl

/-- The attempts that are left, and what they leave. -/
theorem attempts_told (left number : Nat) (hnumber : number + left = budget + 1) (resend : Bool)
    (device : Device (Logged σ)) :
    let device' := finalState (attempts command expected left number resend device)
    ∃ made, Succession expected left made ∧
      device'.log = device.log ++ made.flatMap (Attempt.accesses command expected) ∧
      device'.events.toList = device.events.toList ++ Attempt.reports command expected budget number made := by
  induction left generalizing number resend device with
  | zero => exact ⟨[], .spent, (List.append_nil _).symm, (List.append_nil _).symm⟩
  | succ left ih =>
    obtain ⟨first, next, hsteps⟩ : ∃ made next, Steps command expected budget left number resend made device next :=
      attempt_steps (by omega) resend device
    dsimp only
    cases hreason : first.reason? expected with
    | none =>
      rw [hsteps.settled hreason]
      refine ⟨[first], .settled hsteps.apt hreason, ?_, ?_⟩
      · rw [hsteps.log, List.flatMap_singleton]
      · rw [hsteps.events, Attempt.reports, Attempt.reports, List.append_nil]
    | some reason =>
      obtain ⟨resend', hattempts⟩ := hsteps.again reason hreason
      obtain ⟨rest, hrest, hlog, hevents⟩ := ih (number + 1) (by omega) resend' next
      rw [hattempts]
      refine ⟨first :: rest, .again hsteps.apt hreason hrest, ?_, ?_⟩
      · rw [hlog, hsteps.log, List.append_assoc, List.flatMap_cons]
      · rw [hevents, hsteps.events, List.append_assoc, Attempt.reports]

/-- On every bus the events of an exchange tell what happened on it, attempt by attempt: the packets that moved, in
their order and with their lengths and first bytes, and every attempt that is followed by another. -/
theorem exchange_told (command : Command) (expected : UInt64) (device : Device σ) :
    let ended := exchange command expected.toNat device.logged
    let trace := (finalState ended).log
    viewed unlogged ended = exchange command expected.toNat device ∧
    ∃ made told, Succession expected.toNat device.retryBudget made ∧
      trace = made.flatMap (Attempt.accesses command expected.toNat) ∧
      (finalState (exchange command expected.toNat device)).events.toList = device.events.toList ++ told ∧
      told = Attempt.reports command expected.toNat device.retryBudget 1 made ∧
      told.filterMap Event.retried? = List.range' 1 (made.length - 1) ∧
      told.filter Event.isSent = List.replicate (trace.countP Access.isTaken)
        (.packet .sent command.opcode command.encode.length (command.encode.take 40)) ∧
      told.filter Event.isReceived =
        (trace.filterMap Access.buffer?).map fun buffer =>
          .packet .received command.opcode buffer.length (buffer.take 40) := by
  intro ended trace
  have hview : viewed unlogged ended = exchange command expected.toNat device :=
    exchange_unlogged command expected.toNat device.logged
  have hevents : (finalState (exchange command expected.toNat device)).events = (finalState ended).events := by
    rw [← hview]
    cases ended <;> rfl
  obtain ⟨made, hmade, hlog, htold⟩ : ∃ made, Succession expected.toNat device.retryBudget made ∧
      trace = [] ++ made.flatMap (Attempt.accesses command expected.toNat) ∧
      (finalState ended).events.toList =
        device.events.toList ++ Attempt.reports command expected.toNat device.retryBudget 1 made :=
    attempts_told device.retryBudget 1 (Nat.add_comm 1 _) true device.logged
  rw [List.nil_append] at hlog
  have hserves : ∀ access ∈ trace, access.Serves command expected.toNat := by
    rw [hlog]
    intro access hmem
    obtain ⟨attempt, _, haccess⟩ := List.mem_flatMap.1 hmem
    exact attempt.serves_accesses access haccess
  refine ⟨hview, made, _, hmade, hlog, hevents ▸ htold, rfl, hmade.filterMap_retried? (Nat.add_comm 1 _), ?_, ?_⟩
  · rw [Attempt.filter_reports fun _ _ _ => rfl, ← hlog, Access.filter_isSent_packets hserves]
  · rw [Attempt.filter_reports fun _ _ _ => rfl, ← hlog, Access.filter_isReceived_packets]

end Device

end SecureElement
