import SecureElement.Proofs.Device.Protocol
/-!
# Dialogues

What passes between host and device, also where it goes wrong: exchanges with their results, one after the other.
Most operations rely on their exchanges. They end well only if every one was answered, and else they stop at the
first that was not and fail as it did.
-/

namespace SecureElement

/-- A command, how many bytes are to answer it, and what its exchange came to. -/
structure Transaction where
  command : Command
  expected : Nat
  result : Except DeviceError (List UInt8)

namespace Transaction

def Takes (budget : Nat) (transaction : Transaction) (trace : List Access) : Prop :=
  Protocol transaction.command transaction.expected budget trace transaction.result

def Answered (transaction : Transaction) : Prop :=
  ∃ payload, transaction.result = .ok payload

end Transaction

/-- The trace is that of the transactions, one exchange after the other. -/
inductive Dialogue (budget : Nat) : List Transaction → List Access → Prop where
  | nil : Dialogue budget [] []
  | cons {transaction : Transaction} {transactions : List Transaction} {trace traces : List Access}
      (h : transaction.Takes budget trace) (rest : Dialogue budget transactions traces) :
      Dialogue budget (transaction :: transactions) (trace ++ traces)

namespace Dialogue

variable {budget : Nat} {transactions transactions' : List Transaction} {trace trace' : List Access}

theorem append (h : Dialogue budget transactions trace) (h' : Dialogue budget transactions' trace') :
    Dialogue budget (transactions ++ transactions') (trace ++ trace') := by
  induction h with
  | nil => exact h'
  | cons hfirst _ ih =>
    rw [List.cons_append, List.append_assoc]
    exact .cons hfirst ih

theorem singleton {transaction : Transaction} (h : transaction.Takes budget trace) :
    Dialogue budget [transaction] trace := by
  rw [← List.append_nil trace]
  exact .cons h .nil

theorem exists_append (h : Dialogue budget (transactions ++ transactions') trace) :
    ∃ first second, trace = first ++ second ∧ Dialogue budget transactions first ∧
      Dialogue budget transactions' second := by
  induction transactions generalizing trace with
  | nil => exact ⟨[], trace, rfl, .nil, h⟩
  | cons transaction transactions ih =>
    cases h with
    | cons hfirst rest =>
      obtain ⟨first, second, rfl, hdialogue, hdialogue'⟩ := ih rest
      exact ⟨_ ++ first, second, (List.append_assoc _ _ _).symm, .cons hfirst hdialogue, hdialogue'⟩

theorem exists_takes {transaction : Transaction} (h : Dialogue budget transactions trace)
    (hmem : transaction ∈ transactions) : ∃ trace, transaction.Takes budget trace := by
  induction h with
  | nil => cases hmem
  | cons hfirst _ ih =>
    rcases List.mem_cons.1 hmem with rfl | hmem
    · exact ⟨_, hfirst⟩
    · exact ih hmem

theorem takes_of_singleton {transaction : Transaction} (h : Dialogue budget [transaction] trace) :
    transaction.Takes budget trace := by
  cases h with
  | cons hfirst rest =>
    cases rest
    rw [List.append_nil]
    exact hfirst

end Dialogue

/-! ## On the wire -/

def Access.written? : Access → Option (List UInt8)
  | wrote bytes _ => some bytes
  | read _ _ => none

def written (trace : List Access) : List (List UInt8) :=
  trace.filterMap Access.written?

theorem written_append (trace trace' : List Access) :
    written (trace ++ trace') = written trace ++ written trace' :=
  List.filterMap_append

theorem Protocol.written {command : Command} {expected budget : Nat} {trace : List Access}
    {result : Except DeviceError (List UInt8)} (h : Protocol command expected budget trace result) :
    ∃ again, written trace = List.replicate (again + 1) command.encode := by
  obtain ⟨outcome, rest, rfl⟩ := h.first
  refine ⟨(SecureElement.written rest).length, congrArg (command.encode :: ·) (List.eq_replicate_of_mem ?_)⟩
  intro bytes hbytes
  obtain ⟨access, haccess, hwritten⟩ := List.mem_filterMap.1 hbytes
  rcases h.serves access (List.mem_cons_of_mem _ haccess) with ⟨_, rfl⟩ | ⟨_, rfl⟩
  · exact (Option.some.inj hwritten).symm
  · cases hwritten

theorem Dialogue.exists_encode {budget : Nat} {transactions : List Transaction} {trace : List Access}
    {bytes : List UInt8} (h : Dialogue budget transactions trace) (hbytes : bytes ∈ SecureElement.written trace) :
    ∃ transaction ∈ transactions, bytes = transaction.command.encode := by
  induction h with
  | nil => cases hbytes
  | cons hfirst _ ih =>
    rw [written_append] at hbytes
    rcases List.mem_append.1 hbytes with hbytes | hbytes
    · obtain ⟨again, hwritten⟩ := Protocol.written hfirst
      rw [hwritten] at hbytes
      exact ⟨_, List.mem_cons_self, List.eq_of_mem_replicate hbytes⟩
    · obtain ⟨transaction, hmem, heq⟩ := ih hbytes
      exact ⟨transaction, List.mem_cons_of_mem _ hmem, heq⟩

/-- The frame that the device gave its answer in, if the exchange came to an answer. -/
def Transaction.reply? (transaction : Transaction) : Option (List UInt8) :=
  match transaction.result with
  | .ok payload =>
    some (if transaction.expected = 1 then Response.encodeStatus .success else Response.encode payload)
  | .error (.status _ status) => some (Response.encodeStatus status)
  | .error _ => none

namespace Access

variable {command : Command} {expected : Nat} {access : Access} {result : Except DeviceError (List UInt8)}

theorem exists_buffer_of_settles? {frame : List UInt8} (h : access.settles? command expected = some result)
    (hreply : (Transaction.mk command expected result).reply? = some frame) :
    ∃ len buffer, access = .read len (.ok buffer) ∧ frame <+: buffer := by
  unfold settles? at h
  split at h
  · split at h
    · cases h
      cases hreply
    · cases h
  · cases h
    cases hreply
  · split at h
    · cases h
    · cases h
      cases hreply
  · next len buffer =>
    refine ⟨len, buffer, rfl, ?_⟩
    split at h
    · next payload hparse =>
      cases h
      obtain ⟨hexpected, _, _, _, hframe⟩ := Response.frame_of_parse_eq_payload hparse
      change some (if expected = 1 then _ else Response.encode payload) = some frame at hreply
      rw [if_neg hexpected] at hreply
      exact Option.some.inj hreply ▸ hframe
    · next status hparse =>
      have hframe := (Response.parse_eq_status_iff.1 hparse).2.2
      split at h
      · next hdone =>
        cases h
        change some (if expected = 1 then Response.encodeStatus .success else _) = some frame at hreply
        rw [if_pos hdone.2, ← hdone.1] at hreply
        exact Option.some.inj hreply ▸ hframe
      · split at h
        · cases h
        · cases h
          exact Option.some.inj hreply ▸ hframe
    · cases h

theorem opcode_of_settles? {opcode : Opcode} {status : Status}
    (h : access.settles? command expected = some (.error (.status opcode status))) : opcode = command.opcode := by
  unfold settles? at h
  split at h
  · split at h <;> cases h
  · cases h
  · split at h <;> cases h
  · split at h
    · cases h
    · split at h
      · cases h
      · split at h
        · cases h
        · cases h
          rfl
    · cases h

end Access

namespace Transaction.Takes

variable {budget : Nat} {transaction : Transaction} {trace : List Access}

/-- An answered exchange ends with the read of its answer, and nothing before could have settled it. -/
theorem exists_reply {frame : List UInt8} (h : transaction.Takes budget trace)
    (hreply : transaction.reply? = some frame) :
    ∃ polls buffer, trace = polls ++ [.read (Response.size transaction.expected) (.ok buffer)] ∧
      frame <+: buffer ∧
      ∀ access ∈ polls, access.Serves transaction.command transaction.expected ∧
        access.settles? transaction.command transaction.expected = none := by
  have hserves := h.serves
  rcases h.ends with ⟨polls, last, rfl, hlast, hpolls⟩ | ⟨hresult, _⟩
  · obtain ⟨len, buffer, rfl, hframe⟩ := Access.exists_buffer_of_settles? hlast hreply
    obtain ⟨hserved, hread⟩ := List.forall_mem_append.1 hserves
    obtain ⟨_, hwrote⟩ | ⟨outcome, hlen⟩ := List.forall_mem_singleton.1 hread
    · cases hwrote
    · cases hlen
      exact ⟨polls, buffer, rfl, hframe, fun access hmem => ⟨hserved access hmem, hpolls access hmem⟩⟩
  · rw [reply?, hresult] at hreply
    cases hreply

theorem opcode_of_status {opcode : Opcode} {status : Status} (h : transaction.Takes budget trace)
    (hresult : transaction.result = .error (.status opcode status)) : opcode = transaction.command.opcode := by
  rcases h.ends with ⟨_, _, _, hlast, _⟩ | ⟨hexhausted, _⟩
  · rw [hresult] at hlast
    exact Access.opcode_of_settles? hlast
  · rw [hresult] at hexhausted
    cases hexhausted

end Transaction.Takes

/-! ## Operations in dialogue -/

/-- The transactions up to the first that was not answered, and how that one failed. If all were answered, it was
the host that gave up. -/
def Broken (error : DeviceError) (transactions : List Transaction) : Prop :=
  (∀ transaction ∈ transactions, transaction.Answered) ∨
    ∃ before last, transactions = before ++ [last] ∧ (∀ transaction ∈ before, transaction.Answered) ∧
      last.result = .error error

theorem Broken.append {error : DeviceError} {before transactions : List Transaction}
    (h : Broken error transactions) (hbefore : ∀ transaction ∈ before, transaction.Answered) :
    Broken error (before ++ transactions) := by
  rcases h with h | ⟨middle, last, rfl, hmiddle, hlast⟩
  · exact .inl (List.forall_mem_append.2 ⟨hbefore, h⟩)
  · refine .inr ⟨before ++ middle, last, (List.append_assoc _ _ _).symm, ?_, hlast⟩
    exact List.forall_mem_append.2 ⟨hbefore, hmiddle⟩

theorem Broken.result {error error' : DeviceError} {transactions : List Transaction} {transaction : Transaction}
    (h : Broken error transactions) (hmem : transaction ∈ transactions)
    (hresult : transaction.result = .error error') : error' = error := by
  have hunanswered : ¬ transaction.Answered := by
    rintro ⟨payload, hpayload⟩
    cases hresult.symm.trans hpayload
  rcases h with h | ⟨before, last, rfl, hbefore, hlast⟩
  · exact absurd (h _ hmem) hunanswered
  · rcases List.mem_append.1 hmem with hmem | hmem
    · exact absurd (hbefore _ hmem) hunanswered
    · cases List.mem_singleton.1 hmem
      cases hresult.symm.trans hlast
      rfl

namespace Device

variable {σ α β : Type}

/-- The handle has made the accesses of the log and gives a command `budget` attempts. -/
structure Traced (budget : Nat) (log : List Access) (device : Device (Logged σ)) : Prop where
  log : device.log = log
  retryBudget : device.retryBudget = budget

/-- What the operation does on the bus is a dialogue, as `ok` or `fail` has it for its end. -/
def Conducts (op : DeviceM (Logged σ) α) (ok : α → List Transaction → Prop)
    (fail : DeviceError → List Transaction → Prop) : Prop :=
  ∀ budget log, Runs (Traced budget) op log
    (fun a log' => ∃ transactions trace, log' = log ++ trace ∧ Dialogue budget transactions trace ∧
      ok a transactions)
    (fun e log' => ∃ transactions trace, log' = log ++ trace ∧ Dialogue budget transactions trace ∧
      fail e transactions)

namespace Conducts

variable {ok ok' : α → List Transaction → Prop} {fail fail' : DeviceError → List Transaction → Prop}

theorem pure {a : α} (h : ok a []) : Conducts (Pure.pure a : DeviceM (Logged σ) α) ok fail :=
  fun _ log => Runs.pure ⟨[], [], (List.append_nil log).symm, .nil, h⟩

theorem throw {e : DeviceError} (h : fail e []) : Conducts (throw e : DeviceM (Logged σ) α) ok fail :=
  fun _ log => Runs.throw ⟨[], [], (List.append_nil log).symm, .nil, h⟩

theorem mono {op : DeviceM (Logged σ) α} (h : Conducts op ok fail)
    (hok : ∀ a transactions, ok a transactions → ok' a transactions)
    (hfail : ∀ e transactions, fail e transactions → fail' e transactions) : Conducts op ok' fail' := by
  intro budget log
  refine (h budget log).mono ?_ ?_
  · rintro a _ ⟨transactions, trace, rfl, hdialogue, ha⟩
    exact ⟨transactions, trace, rfl, hdialogue, hok a transactions ha⟩
  · rintro e _ ⟨transactions, trace, rfl, hdialogue, he⟩
    exact ⟨transactions, trace, rfl, hdialogue, hfail e transactions he⟩

theorem resume {op : DeviceM (Logged σ) α} {budget : Nat} {log trace : List Access}
    {transactions : List Transaction} (hdialogue : Dialogue budget transactions trace)
    (h : Conducts op (fun a transactions' => ok a (transactions ++ transactions'))
      fun e transactions' => fail e (transactions ++ transactions')) :
    Runs (Traced budget) op (log ++ trace)
      (fun a log' => ∃ transactions trace, log' = log ++ trace ∧ Dialogue budget transactions trace ∧
        ok a transactions)
      (fun e log' => ∃ transactions trace, log' = log ++ trace ∧ Dialogue budget transactions trace ∧
        fail e transactions) := by
  refine (h budget (log ++ trace)).mono ?_ ?_
  · rintro a _ ⟨transactions', trace', rfl, hdialogue', ha⟩
    exact ⟨_, trace ++ trace', List.append_assoc _ _ _, hdialogue.append hdialogue', ha⟩
  · rintro e _ ⟨transactions', trace', rfl, hdialogue', he⟩
    exact ⟨_, trace ++ trace', List.append_assoc _ _ _, hdialogue.append hdialogue', he⟩

theorem bind {op : DeviceM (Logged σ) α} {f : α → DeviceM (Logged σ) β}
    {ok' : β → List Transaction → Prop} (h : Conducts op ok fail)
    (hf : ∀ a transactions, ok a transactions → Conducts (f a)
      (fun b transactions' => ok' b (transactions ++ transactions'))
      fun e transactions' => fail e (transactions ++ transactions')) :
    Conducts (op >>= f) ok' fail := by
  intro budget log
  refine (h budget log).bind ?_
  rintro a _ ⟨transactions, trace, rfl, hdialogue, ha⟩
  exact resume hdialogue (hf a transactions ha)

theorem tryCatch {op : DeviceM (Logged σ) α} {handler : DeviceError → DeviceM (Logged σ) α}
    {mid : DeviceError → List Transaction → Prop} (h : Conducts op ok mid)
    (hhandler : ∀ e transactions, mid e transactions → Conducts (handler e)
      (fun a transactions' => ok a (transactions ++ transactions'))
      fun e transactions' => fail e (transactions ++ transactions')) :
    Conducts (MonadExcept.tryCatch op handler) ok fail := by
  intro budget log
  refine (h budget log).tryCatch ?_
  rintro e _ ⟨transactions, trace, rfl, hdialogue, he⟩
  exact resume hdialogue (hhandler e transactions he)

/-- All that an operation does on the bus of a handle is one dialogue. -/
theorem dialogue {op : DeviceM (Logged σ) α} (h : Conducts op ok fail) (device : Device σ) :
    let ended := op device.logged
    ∃ transactions, Dialogue device.retryBudget transactions (finalState ended).log ∧
      (∀ a, conclusion ended = .ok a → ok a transactions) ∧
      ∀ e, conclusion ended = .error e → fail e transactions := by
  have hop := h device.retryBudget [] device.logged ⟨rfl, rfl⟩
  intro ended
  cases hrun : ended with
  | ok a device' =>
    rw [show op device.logged = .ok a device' from hrun] at hop
    obtain ⟨_, htraced, transactions, trace, rfl, hdialogue, ha⟩ := hop
    refine ⟨transactions, ?_, ?_, nofun⟩
    · rw [finalState, htraced.log]
      exact hdialogue
    · rintro _ ⟨⟩
      exact ha
  | error e device' =>
    rw [show op device.logged = .error e device' from hrun] at hop
    obtain ⟨_, htraced, transactions, trace, rfl, hdialogue, he⟩ := hop
    refine ⟨transactions, ?_, nofun, ?_⟩
    · rw [finalState, htraced.log]
      exact hdialogue
    · rintro _ ⟨⟩
      exact he

end Conducts

/-- If the operation ends well, all its exchanges were answered; if it fails, it stops at the first that was not,
with its error. -/
def Relies (op : DeviceM (Logged σ) α) (tells : α → List Transaction → Prop) : Prop :=
  Conducts op
    (fun a transactions => (∀ transaction ∈ transactions, transaction.Answered) ∧ tells a transactions) Broken

namespace Relies

variable {tells tells' : α → List Transaction → Prop}

theorem pure {a : α} (h : tells a []) : Relies (Pure.pure a : DeviceM (Logged σ) α) tells :=
  Conducts.pure ⟨List.forall_mem_nil _, h⟩

theorem throw {e : DeviceError} : Relies (throw e : DeviceM (Logged σ) α) tells :=
  Conducts.throw (.inl (List.forall_mem_nil _))

theorem mono {op : DeviceM (Logged σ) α} (h : Relies op tells)
    (htells : ∀ a transactions, tells a transactions → tells' a transactions) : Relies op tells' :=
  Conducts.mono h (fun a transactions ha => ⟨ha.1, htells a transactions ha.2⟩) fun _ _ he => he

theorem bind {op : DeviceM (Logged σ) α} {f : α → DeviceM (Logged σ) β}
    {tells' : β → List Transaction → Prop} (h : Relies op tells)
    (hf : ∀ a transactions, tells a transactions →
      Relies (f a) fun b transactions' => tells' b (transactions ++ transactions')) :
    Relies (op >>= f) tells' := by
  refine Conducts.bind h ?_
  rintro a transactions ⟨hanswered, ha⟩
  refine Conducts.mono (hf a transactions ha) ?_ ?_
  · rintro b transactions' ⟨hanswered', hb⟩
    exact ⟨List.forall_mem_append.2 ⟨hanswered, hanswered'⟩, hb⟩
  · intro e transactions' he
    exact he.append hanswered

end Relies

theorem Conducts.relies {op : DeviceM (Logged σ) α} {command : Command} {expected : Nat} {payload : α → List UInt8}
    (h : Conducts op (fun a transactions => transactions = [⟨command, expected, .ok (payload a)⟩])
      fun error transactions => transactions = [⟨command, expected, .error error⟩]) :
    Relies op fun a transactions => transactions = [⟨command, expected, .ok (payload a)⟩] := by
  apply h.mono
  · rintro a _ rfl
    exact ⟨List.forall_mem_singleton.2 ⟨payload a, rfl⟩, rfl⟩
  · rintro error _ rfl
    exact .inr ⟨[], _, rfl, List.forall_mem_nil _, rfl⟩

theorem require_relies (value : Except PreconditionError α) :
    Relies (require value : DeviceM (Logged σ) α) fun a transactions => value = .ok a ∧ transactions = [] := by
  cases value with
  | ok value => exact Relies.pure ⟨rfl, rfl⟩
  | error error => exact Relies.throw

theorem compute_relies (value : Except DigestError α) :
    Relies (compute value : DeviceM (Logged σ) α) fun a transactions => value = .ok a ∧ transactions = [] := by
  cases value with
  | ok value => exact Relies.pure ⟨rfl, rfl⟩
  | error error => exact Relies.throw

theorem emit_conducts (event : Event) (fail : DeviceError → List Transaction → Prop) :
    Conducts (emit event : DeviceM (Logged σ) Unit) (fun _ transactions => transactions = []) fail := by
  rintro budget log device ⟨hlog, hbudget⟩
  exact ⟨log, ⟨hlog, hbudget⟩, [], [], (List.append_nil log).symm, .nil, rfl⟩

theorem retryBudget_onBus (action : EStateM BusError σ α) (device : Device σ) :
    (finalState (onBus action device)).retryBudget = device.retryBudget := by
  unfold onBus
  cases action device.bus <;> rfl

variable [Bus σ]

theorem lockstep_retryBudget (budget : Nat) :
    Lockstep fun device other : Device σ => device = other ∧ device.retryBudget = budget := by
  apply lockstep_invariant
  · intro bytes device h
    rw [retryBudget_onBus, h]
  · intro len device h
    rw [retryBudget_onBus, h]
  · intro micros device h
    exact h
  · intro event device _ h
    exact h

theorem exchange_conducts (command : Command) {expected : Nat} (hword : expected < UInt64.size) :
    Conducts (exchange command expected : DeviceM (Logged σ) (List UInt8))
      (fun payload transactions => payload.length = expected ∧ transactions = [⟨command, expected, .ok payload⟩])
      (fun error transactions => transactions = [⟨command, expected, .error error⟩]) := by
  rintro budget log device ⟨rfl, rfl⟩
  obtain ⟨trace, htrace, hcourse⟩ := exchange_course command expected device
  have hprotocol := hcourse.protocol hword device.retryBudget_pos
  have hbudget := ((lockstep_retryBudget device.retryBudget).exchange command expected).finalState rfl
  cases hrun : exchange command expected device with
  | ok payload device' =>
    rw [hrun] at htrace hprotocol hbudget
    have htakes : Transaction.Takes device.retryBudget ⟨command, expected, .ok payload⟩ trace := hprotocol
    exact ⟨_, ⟨htrace, hbudget⟩, _, trace, rfl, .singleton htakes, hprotocol.length payload rfl, rfl⟩
  | error error device' =>
    rw [hrun] at htrace hprotocol hbudget
    have htakes : Transaction.Takes device.retryBudget ⟨command, expected, .error error⟩ trace := hprotocol
    exact ⟨_, ⟨htrace, hbudget⟩, _, trace, rfl, .singleton htakes, rfl⟩

theorem exchangeAck_conducts (command : Command) :
    Conducts (exchangeAck command : DeviceM (Logged σ) Unit)
      (fun _ transactions => ∃ payload, transactions = [⟨command, 1, .ok payload⟩])
      (fun error transactions => transactions = [⟨command, 1, .error error⟩]) := by
  refine (exchange_conducts command (by decide)).bind ?_
  rintro payload _ ⟨-, rfl⟩
  exact Conducts.pure ⟨payload, rfl⟩

theorem exchangeBytes_conducts {n : Nat} (hword : n < UInt64.size) (command : Command) :
    Conducts (exchangeBytes n command : DeviceM (Logged σ) (Bytes n))
      (fun bytes transactions => transactions = [⟨command, n, .ok bytes.toList⟩])
      (fun error transactions => transactions = [⟨command, n, .error error⟩]) := by
  refine (exchange_conducts command hword).bind ?_
  rintro payload _ ⟨hlength, rfl⟩
  cases hbytes : Bytes.ofList? n payload with
  | none => exact absurd hlength (Bytes.ofList?_eq_none_iff.1 hbytes)
  | some bytes =>
    rw [← Bytes.ofList?_eq_some_iff.1 hbytes]
    exact Conducts.pure rfl

theorem exchangeBytes_relies {n : Nat} (hword : n < UInt64.size) (command : Command) :
    Relies (exchangeBytes n command : DeviceM (Logged σ) (Bytes n)) fun bytes transactions =>
      transactions = [⟨command, n, .ok bytes.toList⟩] :=
  (exchangeBytes_conducts hword command).relies

end Device

end SecureElement
