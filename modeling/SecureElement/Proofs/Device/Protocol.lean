import SecureElement.Proofs.Device.Exchange
import SecureElement.Proofs.Device.Lockstep
import SecureElement.Proofs.Frame.Response
/-!
# The protocol of an exchange

Which accesses an exchange makes and when it stops, on every bus and whatever the accesses come to. A command is
written before the first read and again after every read that brought an answer, and only then.
-/

namespace SecureElement

namespace Access

def isRead : Access → Bool
  | wrote _ _ => false
  | read _ _ => true

def delivers : Access → Bool
  | read _ (.ok _) => true
  | _ => false

/-- An access that an exchange of the command can make: a write of its frame or a read of an answer to it. -/
def Serves (command : Command) (expected : Nat) (access : Access) : Prop :=
  (∃ outcome, access = wrote command.encode outcome) ∨ ∃ outcome, access = read (Response.size expected) outcome

/-- What an exchange comes to if it stops at the access, and nothing if it goes on. -/
def settles? (command : Command) (expected : Nat) : Access → Option (Except DeviceError (List UInt8))
  | wrote bytes (.ok written) =>
    if written ≤ 1 then some (.error (.bus (.shortWrite written bytes.length))) else none
  | wrote _ (.error error) => some (.error (.bus error))
  | read _ (.error error) => if error.isBusy then none else some (.error (.bus error))
  | read _ (.ok buffer) =>
    match Response.parse buffer expected with
    | .ok (.payload payload) => some (.ok payload)
    | .ok (.status status) =>
      if status = .success ∧ expected = 1 then some (.ok [0])
      else if status = .awake then none
      else some (.error (.status command.opcode status))
    | .error _ => none

/-- The report of the packet that an access moved, if it moved one. A write that takes no more than the word address
moves none. -/
def packet? (opcode : Opcode) : Access → Option Event
  | wrote bytes (.ok written) => if 1 < written then some (.ofPacket .sent opcode bytes) else none
  | wrote _ (.error _) => none
  | read _ (.ok buffer) => some (.ofPacket .received opcode buffer)
  | read _ (.error _) => none

theorem settles?_buffer (command : Command) (expected len : Nat) (buffer : List UInt8) :
    (read len (.ok buffer)).settles? command expected =
      (Verdict.ofBuffer expected buffer).outcome? command.opcode := by
  unfold settles? Verdict.ofBuffer
  dsimp only
  cases Response.parse buffer expected with
  | error error => rfl
  | ok response =>
    cases response with
    | payload payload => rfl
    | status status =>
      dsimp only
      by_cases hdone : status = .success ∧ expected = 1
      · rw [if_pos hdone, if_pos hdone]
        rfl
      · rw [if_neg hdone, if_neg hdone]
        by_cases hawake : status = .awake
        · rw [if_pos hawake, hawake]
          rfl
        · have hretryable : status.isRetryable = false := by simpa [Status.isRetryable] using hawake
          rw [if_neg hawake, hretryable]
          rfl

end Access

/-- Why the answer to a command settles nothing: the device has only just woken up, its answer is damaged, or it is
still busy. -/
def RetryReason.ofAnswer? (expected : Nat) : Except BusError (List UInt8) → Option RetryReason
  | .ok buffer =>
    match Response.parse buffer expected with
    | .ok (.payload _) => none
    | .ok (.status answer) => if answer = .awake then some (.status answer) else none
    | .error error => some (.frame error)
  | .error error => if error.isBusy then some (.bus error) else none

def Verdict.reason? : Verdict → Option RetryReason
  | answered _ => none
  | refused _ => none
  | inconclusive _ reason => some reason

theorem Verdict.reason?_ofBuffer (expected : Nat) (buffer : List UInt8) :
    (ofBuffer expected buffer).reason? = RetryReason.ofAnswer? expected (.ok buffer) := by
  unfold ofBuffer RetryReason.ofAnswer?
  dsimp only
  cases Response.parse buffer expected with
  | error error => rfl
  | ok response =>
    cases response with
    | payload payload => rfl
    | status status =>
      dsimp only
      by_cases hawake : status = .awake
      · rw [hawake]
        rfl
      · have hretryable : status.isRetryable = false := by simpa [Status.isRetryable] using hawake
        rw [hretryable, if_neg hawake]
        split <;> rfl

theorem Verdict.resend_of_buffer {expected : Nat} {buffer : List UInt8} {resend : Bool} {reason : RetryReason}
    (h : ofBuffer expected buffer = .inconclusive resend reason) : resend = true := by
  unfold ofBuffer at h
  split at h
  · cases h
  · split at h
    · cases h
    · split at h
      · injection h with hresend
        exact hresend.symm
      · cases h
  · injection h with hresend
    exact hresend.symm

theorem Access.length_of_settles? {command : Command} {expected : Nat} {access : Access} {payload : List UInt8}
    (hword : expected < UInt64.size) (h : access.settles? command expected = some (.ok payload)) :
    payload.length = expected := by
  unfold settles? at h
  split at h
  · split at h <;> cases h
  · cases h
  · split at h <;> cases h
  · split at h
    · next hparse =>
      injection h with hpayload
      injection hpayload with hpayload
      rw [← hpayload]
      exact ((Response.parse_eq_payload_iff hword).1 hparse).2.2.1
    · split at h
      · next hdone =>
        injection h with hpayload
        injection hpayload with hpayload
        rw [← hpayload, hdone.2]
        rfl
      · split at h <;> cases h
    · cases h

/-! ## The course of an exchange -/

/-- How the accesses of an exchange can follow each other when `left` attempts are left of `budget`, and what they
come to. The command is to be written next, if `resend`. -/
inductive Course (command : Command) (expected budget : Nat) :
    (left : Nat) → (resend : Bool) → List Access → Except DeviceError (List UInt8) → Prop where
  | exhausted {resend : Bool} :
      Course command expected budget 0 resend [] (.error (.retryExhausted command.opcode budget))
  | unsent {left : Nat} {outcome : Except BusError Nat} {result : Except DeviceError (List UInt8)}
      (h : (Access.wrote command.encode outcome).settles? command expected = some result) :
      Course command expected budget (left + 1) true [.wrote command.encode outcome] result
  | sent {left : Nat} {outcome : Except BusError Nat} {trace : List Access}
      {result : Except DeviceError (List UInt8)}
      (h : (Access.wrote command.encode outcome).settles? command expected = none)
      (rest : Course command expected budget (left + 1) false trace result) :
      Course command expected budget (left + 1) true (.wrote command.encode outcome :: trace) result
  | settled {left : Nat} {outcome : Except BusError (List UInt8)} {result : Except DeviceError (List UInt8)}
      (h : (Access.read (Response.size expected) outcome).settles? command expected = some result) :
      Course command expected budget (left + 1) false [.read (Response.size expected) outcome] result
  | again {left : Nat} {outcome : Except BusError (List UInt8)} {trace : List Access}
      {result : Except DeviceError (List UInt8)}
      (h : (Access.read (Response.size expected) outcome).settles? command expected = none)
      (rest : Course command expected budget left (Access.read (Response.size expected) outcome).delivers trace
        result) :
      Course command expected budget (left + 1) false (.read (Response.size expected) outcome :: trace) result

namespace Course

variable {command : Command} {expected budget left : Nat} {resend : Bool} {trace : List Access}
variable {result : Except DeviceError (List UInt8)}

theorem countP_isRead_le (h : Course command expected budget left resend trace result) :
    trace.countP Access.isRead ≤ left := by
  induction h with
  | exhausted => exact Nat.le_refl 0
  | unsent _ => exact Nat.zero_le _
  | sent _ _ ih =>
    rw [List.countP_cons_of_neg Bool.false_ne_true]
    exact ih
  | settled _ =>
    rw [List.countP_cons_of_pos rfl, List.countP_nil]
    omega
  | again _ _ ih =>
    rw [List.countP_cons_of_pos rfl]
    exact Nat.succ_le_succ ih

theorem serves (h : Course command expected budget left resend trace result) :
    ∀ access ∈ trace, access.Serves command expected := by
  induction h with
  | exhausted => exact nofun
  | unsent _ => exact List.forall_mem_singleton.2 (.inl ⟨_, rfl⟩)
  | sent _ _ ih => exact List.forall_mem_cons.2 ⟨.inl ⟨_, rfl⟩, ih⟩
  | settled _ => exact List.forall_mem_singleton.2 (.inr ⟨_, rfl⟩)
  | again _ _ ih => exact List.forall_mem_cons.2 ⟨.inr ⟨_, rfl⟩, ih⟩

theorem head_isRead (h : Course command expected budget left resend trace result) :
    ∀ access ∈ trace.head?, access.isRead = !resend := by
  cases h with
  | exhausted => exact nofun
  | unsent _ => exact fun _ hmem => Option.some.inj hmem ▸ rfl
  | sent _ _ => exact fun _ hmem => Option.some.inj hmem ▸ rfl
  | settled _ => exact fun _ hmem => Option.some.inj hmem ▸ rfl
  | again _ _ => exact fun _ hmem => Option.some.inj hmem ▸ rfl

theorem isChain (h : Course command expected budget left resend trace result) :
    trace.IsChain fun access next => next.isRead = !access.delivers := by
  induction h with
  | exhausted => exact List.isChain_nil
  | unsent _ => exact List.isChain_singleton _
  | sent _ rest ih => exact List.isChain_cons.2 ⟨rest.head_isRead, ih⟩
  | settled _ => exact List.isChain_singleton _
  | again _ rest ih => exact List.isChain_cons.2 ⟨rest.head_isRead, ih⟩

theorem exists_written (h : Course command expected budget (left + 1) true trace result) :
    ∃ outcome rest, trace = .wrote command.encode outcome :: rest := by
  cases h with
  | unsent _ => exact ⟨_, [], rfl⟩
  | sent _ _ => exact ⟨_, _, rfl⟩

theorem ends (h : Course command expected budget left resend trace result) :
    (∃ init last, trace = init ++ [last] ∧ last.settles? command expected = some result ∧
      ∀ access ∈ init, access.settles? command expected = none) ∨
    (result = .error (.retryExhausted command.opcode budget) ∧ trace.countP Access.isRead = left ∧
      ∀ access ∈ trace, access.settles? command expected = none) := by
  induction h with
  | exhausted => exact .inr ⟨rfl, rfl, nofun⟩
  | unsent h => exact .inl ⟨[], _, rfl, h, nofun⟩
  | settled h => exact .inl ⟨[], _, rfl, h, nofun⟩
  | sent h _ ih =>
    rcases ih with ⟨init, last, rfl, hlast, hinit⟩ | ⟨hresult, hreads, hnone⟩
    · exact .inl ⟨_ :: init, last, rfl, hlast, List.forall_mem_cons.2 ⟨h, hinit⟩⟩
    · refine .inr ⟨hresult, ?_, List.forall_mem_cons.2 ⟨h, hnone⟩⟩
      rw [List.countP_cons_of_neg Bool.false_ne_true]
      exact hreads
  | again h _ ih =>
    rcases ih with ⟨init, last, rfl, hlast, hinit⟩ | ⟨hresult, hreads, hnone⟩
    · exact .inl ⟨_ :: init, last, rfl, hlast, List.forall_mem_cons.2 ⟨h, hinit⟩⟩
    · refine .inr ⟨hresult, ?_, List.forall_mem_cons.2 ⟨h, hnone⟩⟩
      rw [List.countP_cons_of_pos rfl, hreads]

end Course

/-! ## Exchanges on a logged bus -/

namespace Device

variable {σ : Type} [Bus σ]

theorem transmit_logged (command : Command) (expected : Nat) (device : Device (Logged σ)) :
    ∃ outcome device', device'.log = device.log ++ [.wrote command.encode outcome] ∧
      device'.events.toList =
        device.events.toList ++ ((Access.wrote command.encode outcome).packet? command.opcode).toList ∧
      ((∃ written, outcome = .ok written ∧ 1 < written ∧ transmit command device = .ok () device') ∨
      ((∀ written, outcome = .ok written → written ≤ 1) ∧
        ∃ error, transmit command device = .error error device' ∧
          (Access.wrote command.encode outcome).settles? command expected = some (.error error))) := by
  have hbus : Bus.write command.encode device.bus =
      Logged.enter (.wrote command.encode) (Bus.write command.encode) device.bus := rfl
  unfold Logged.enter at hbus
  cases hwrite : Bus.write command.encode device.bus.bus with
  | error error bus =>
    rw [hwrite] at hbus
    refine ⟨.error error, { device with bus := ⟨bus, _⟩ }, rfl, (List.append_nil _).symm,
      .inr ⟨nofun, .bus error, ?_, rfl⟩⟩
    simp only [transmit, bind_apply, onBus, hbus]
    rfl
  | ok written bus =>
    rw [hwrite] at hbus
    by_cases hshort : written ≤ 1
    · have hpacket : (Access.wrote command.encode (.ok written)).packet? command.opcode = none :=
        if_neg (Nat.not_lt.2 hshort)
      refine ⟨.ok written, { device with bus := ⟨bus, _⟩ }, rfl, ?_,
        .inr ⟨?_, .bus (.shortWrite written command.encode.length), ?_, if_pos hshort⟩⟩
      · rw [hpacket]
        exact (List.append_nil _).symm
      · rintro _ ⟨⟩
        exact hshort
      · simp only [transmit, bind_apply, onBus, hbus, if_pos hshort]
        rfl
    · have htaken : 1 < written := Nat.lt_of_not_le hshort
      have hpacket : (Access.wrote command.encode (.ok written)).packet? command.opcode =
          some (.ofPacket .sent command.opcode command.encode) := if_pos htaken
      refine ⟨.ok written, { device with
        bus := ⟨bus, _⟩, events := device.events.push (.ofPacket .sent command.opcode command.encode) }, rfl, ?_,
        .inl ⟨written, rfl, htaken, ?_⟩⟩
      · rw [hpacket]
        exact Array.toList_push
      · simp only [transmit, bind_apply, onBus, hbus, if_neg hshort]
        rfl

theorem receive_logged (command : Command) (expected : Nat) (device : Device (Logged σ)) :
    ∃ outcome device', device'.log = device.log ++ [.read (Response.size expected) outcome] ∧
      device'.events.toList =
        device.events.toList ++ ((Access.read (Response.size expected) outcome).packet? command.opcode).toList ∧
      let access := Access.read (Response.size expected) outcome
      ((∃ verdict, receive command.opcode expected device = .ok verdict device' ∧
        access.settles? command expected = verdict.outcome? command.opcode ∧
        verdict.reason? = RetryReason.ofAnswer? expected outcome ∧
        ∀ resend reason, verdict = .inconclusive resend reason → resend = access.delivers) ∨
      ∃ error, receive command.opcode expected device = .error error device' ∧
        access.settles? command expected = some (.error error) ∧ RetryReason.ofAnswer? expected outcome = none) := by
  have hbus : Bus.read (Response.size expected) device.bus =
      Logged.enter (.read (Response.size expected)) (Bus.read (Response.size expected)) device.bus := rfl
  unfold Logged.enter at hbus
  cases hread : Bus.read (Response.size expected) device.bus.bus with
  | error error bus =>
    rw [hread] at hbus
    refine ⟨.error error, { device with bus := ⟨bus, _⟩ }, rfl, (List.append_nil _).symm, ?_⟩
    by_cases hbusy : error.isBusy = true
    · refine .inl ⟨.inconclusive false (.bus error), ?_, if_pos hbusy, (if_pos hbusy).symm, ?_⟩
      · simp only [receive, hbus, if_pos hbusy]
        rfl
      · intro resend reason hverdict
        injection hverdict with hresend
        exact hresend.symm
    · refine .inr ⟨.bus error, ?_, if_neg hbusy, if_neg hbusy⟩
      simp only [receive, hbus, if_neg hbusy]
      rfl
  | ok buffer bus =>
    rw [hread] at hbus
    refine ⟨.ok buffer, { device with
      bus := ⟨bus, _⟩, events := device.events.push (.ofPacket .received command.opcode buffer) }, rfl,
      Array.toList_push, .inl ⟨.ofBuffer expected buffer, ?_, Access.settles?_buffer _ _ _ _,
        Verdict.reason?_ofBuffer expected buffer, ?_⟩⟩
    · simp only [receive, hbus]
      rfl
    · intro resend reason hverdict
      exact Verdict.resend_of_buffer hverdict

theorem attempts_broken {command : Command} {expected : Nat} {device paused broken : Device σ}
    {error : DeviceError} (left attempt : Nat) (hpaused : pause command.opcode device = .ok () paused)
    (hreceive : receive command.opcode expected paused = .error error broken) :
    attempts command expected (left + 1) attempt false device = .error error broken := by
  simp only [attempts, bind_apply, Bool.false_eq_true, if_false, hpaused, hreceive]

theorem attempts_course (command : Command) (expected budget left attempt : Nat) (resend : Bool)
    (device : Device (Logged σ)) (hattempt : attempt + left = budget + 1) :
    let ended := attempts command expected left attempt resend device
    ∃ trace, (finalState ended).log = device.log ++ trace ∧
      Course command expected budget left resend trace (conclusion ended) := by
  induction left generalizing attempt resend device with
  | zero =>
    have hspent : attempt - 1 = budget := by omega
    refine ⟨[], (List.append_nil _).symm, ?_⟩
    rw [attempts, throw_apply, hspent]
    exact .exhausted
  | succ left ih =>
    have hpoll (device : Device (Logged σ)) :
        let ended := attempts command expected (left + 1) attempt false device
        ∃ trace, (finalState ended).log = device.log ++ trace ∧
          Course command expected budget (left + 1) false trace (conclusion ended) := by
      obtain ⟨paused, hpaused, hpausedLog⟩ : ∃ paused, pause command.opcode device = .ok () paused ∧
          paused.log = device.log := ⟨_, rfl, rfl⟩
      obtain ⟨outcome, received, hlog, _, hreceive⟩ := receive_logged command expected paused
      rw [hpausedLog] at hlog
      rcases hreceive with ⟨verdict, hverdict, hsettles, _, hresend⟩ | ⟨error, herror, hsettled, _⟩
      · obtain ⟨events, hattempts⟩ := attempts_polling left attempt hpaused hverdict
        dsimp only
        rw [hattempts]
        cases verdict with
        | answered payload => exact ⟨_, hlog, .settled hsettles⟩
        | refused status => exact ⟨_, hlog, .settled hsettles⟩
        | inconclusive resend reason =>
          obtain ⟨trace, htrace, hcourse⟩ :=
            ih (attempt + 1) resend { received with events } (by omega)
          rw [hresend resend reason rfl] at htrace hcourse ⊢
          refine ⟨_ :: trace, ?_, .again hsettles hcourse⟩
          have hevents : ({ received with events } : Device (Logged σ)).log = received.log := rfl
          rw [htrace, hevents, hlog, List.append_assoc, List.singleton_append]
      · dsimp only
        rw [attempts_broken left attempt hpaused herror]
        exact ⟨_, hlog, .settled hsettled⟩
    cases resend with
    | false => exact hpoll device
    | true =>
      dsimp only
      rw [attempts_resend, bind_apply]
      obtain ⟨outcome, sent, hlog, _, ⟨written, rfl, htaken, hsent⟩ | ⟨_, error, herror, hsettled⟩⟩ :=
        transmit_logged command expected device
      · rw [hsent]
        have hnone : (Access.wrote command.encode (.ok written)).settles? command expected = none :=
          if_neg (Nat.not_le.2 htaken)
        obtain ⟨trace, htrace, hcourse⟩ := hpoll sent
        refine ⟨_ :: trace, ?_, .sent hnone hcourse⟩
        rw [htrace, hlog, List.append_assoc, List.singleton_append]
      · rw [herror]
        exact ⟨_, hlog, .unsent hsettled⟩

theorem exchange_course (command : Command) (expected : Nat) (device : Device (Logged σ)) :
    let ended := exchange command expected device
    ∃ trace, (finalState ended).log = device.log ++ trace ∧
      Course command expected device.retryBudget device.retryBudget true trace (conclusion ended) :=
  attempts_course command expected device.retryBudget device.retryBudget 1 true device (Nat.add_comm 1 _)

end Device

/-! ## The protocol -/

/-- What an exchange with `budget` attempts does on the wire, and how that gives its result. -/
structure Protocol (command : Command) (expected budget : Nat) (trace : List Access)
    (result : Except DeviceError (List UInt8)) : Prop where
  /-- Every write brings the same frame, and every read asks for the same number of bytes. -/
  serves : ∀ access ∈ trace, access.Serves command expected
  reads : trace.countP Access.isRead ≤ budget
  first : ∃ outcome rest, trace = .wrote command.encode outcome :: rest
  /-- A write is followed by a read, and a read by a write exactly if it brought bytes. -/
  next : trace.IsChain fun access next => next.isRead = !access.delivers
  /-- It stops at the first access that settles it; else it makes all its reads. -/
  ends : (∃ init last, trace = init ++ [last] ∧ last.settles? command expected = some result ∧
      ∀ access ∈ init, access.settles? command expected = none) ∨
    (result = .error (.retryExhausted command.opcode budget) ∧ trace.countP Access.isRead = budget ∧
      ∀ access ∈ trace, access.settles? command expected = none)
  length : ∀ payload, result = .ok payload → payload.length = expected

theorem Course.protocol {command : Command} {expected budget : Nat} {trace : List Access}
    {result : Except DeviceError (List UInt8)} (hword : expected < UInt64.size) (hbudget : 0 < budget)
    (h : Course command expected budget budget true trace result) :
    Protocol command expected budget trace result where
  serves := h.serves
  reads := h.countP_isRead_le
  first := by
    obtain ⟨left, rfl⟩ := Nat.exists_eq_succ_of_ne_zero (Nat.ne_of_gt hbudget)
    exact h.exists_written
  next := h.isChain
  ends := h.ends
  length payload hpayload := by
    subst hpayload
    rcases h.ends with ⟨init, last, _, hlast, _⟩ | ⟨hresult, _, _⟩
    · exact Access.length_of_settles? hword hlast
    · cases hresult

theorem Access.settles?_ne_unexpected {command : Command} {expected : Nat} {access : Access}
    (opcode : Opcode) (wanted actual : Nat) :
    access.settles? command expected ≠ some (.error (.unexpectedResponse opcode wanted actual)) := by
  intro h
  unfold settles? at h
  split at h
  · split at h <;> cases h
  · cases h
  · split at h <;> cases h
  · split at h
    · cases h
    · split at h
      · cases h
      · split at h <;> cases h
    · cases h

namespace Device

variable {σ : Type} [Bus σ]

theorem exchange_unlogged (command : Command) (expected : Nat) (device : Device (Logged σ)) :
    viewed unlogged (exchange command expected device) = exchange command expected device.unlogged :=
  (lockstep_unlogged.exchange command expected).viewed_eq device

theorem conclusion_exchange_logged (command : Command) (expected : Nat) (device : Device σ) :
    conclusion (exchange command expected device.logged) = conclusion (exchange command expected device) := by
  rw [← conclusion_viewed unlogged, exchange_unlogged, unlogged_logged]

theorem exchangeBytes_expected {n : Nat} (hword : n < UInt64.size) (command : Command) (device : Device σ)
    (opcode : Opcode) (wanted actual : Nat) :
    conclusion (exchangeBytes n command device) ≠ .error (.unexpectedResponse opcode wanted actual) := by
  obtain ⟨trace, _, hcourse⟩ := exchange_course command n device.logged
  have hprotocol := hcourse.protocol hword device.retryBudget_pos
  rw [conclusion_exchange_logged] at hprotocol
  unfold exchangeBytes
  rw [bind_apply]
  cases hrun : exchange command n device with
  | ok payload device' =>
    rw [hrun] at hprotocol
    have hlength := hprotocol.length payload rfl
    cases hbytes : Bytes.ofList? n payload with
    | none => exact absurd hlength (Bytes.ofList?_eq_none_iff.1 hbytes)
    | some bytes =>
      simp only [hbytes]
      exact nofun
  | error error device' =>
    rw [hrun] at hprotocol
    rcases hprotocol.ends with ⟨_, last, _, hlast, _⟩ | ⟨hresult, _, _⟩
    · rintro heq
      injection heq with herror
      rw [conclusion, herror] at hlast
      exact Access.settles?_ne_unexpected opcode wanted actual hlast
    · injection hresult with herror
      rw [herror]
      exact nofun

/-- On every bus an exchange keeps to the protocol, and its payload has the length that was asked for, which is any
that a machine word can hold. -/
theorem exchange_protocol (command : Command) (expected : UInt64) (device : Device σ) :
    let ended := exchange command expected.toNat device.logged
    viewed unlogged ended = exchange command expected.toNat device ∧
    Protocol command expected.toNat device.retryBudget (finalState ended).log
      (conclusion (exchange command expected.toNat device)) ∧
    ∀ opcode wanted actual,
      conclusion (exchangeBytes expected.toNat command device) ≠
        .error (.unexpectedResponse opcode wanted actual) := by
  have hword : expected.toNat < UInt64.size := expected.toNat_lt_size
  obtain ⟨trace, htrace, hcourse⟩ := exchange_course command expected.toNat device.logged
  rw [conclusion_exchange_logged] at hcourse
  rw [log_logged, List.nil_append] at htrace
  refine ⟨exchange_unlogged command expected.toNat device.logged, ?_, exchangeBytes_expected hword command device⟩
  rw [htrace]
  exact hcourse.protocol hword device.retryBudget_pos

end Device

end SecureElement
