import SecureElement.Proofs.Chip.Effects
import SecureElement.Proofs.Device.Exchange
/-!
# Retries

A fault keeps one transmission of a command from the chip, and a stalled read keeps one answer from the host; each
costs an attempt. While attempts are left, an exchange comes to what it would have come to without them.
-/

namespace SecureElement

/-- What is seen of an exchange: its result, what commands act on, and the commands that the chip has run. -/
structure Exchanged where
  result : Except DeviceError (List UInt8)
  core : Core
  executed : Array Opcode

def Exchanged.ofResult : EStateM.Result DeviceError (Device Chip) (List UInt8) → Exchanged
  | .ok payload device => ⟨.ok payload, device.bus.core, device.bus.executed⟩
  | .error error device => ⟨.error error, device.bus.core, device.bus.executed⟩

theorem Exchanged.ofResult_eq_ok {run : EStateM.Result DeviceError (Device Chip) (List UInt8)}
    {payload : List UInt8} {k : Core} {executed : Array Opcode} (h : ofResult run = ⟨.ok payload, k, executed⟩) :
    ∃ device, run = .ok payload device ∧ device.bus.core = k ∧ device.bus.executed = executed := by
  cases run with
  | error _ _ => cases h
  | ok _ device =>
    cases h
    exact ⟨device, rfl, rfl, rfl⟩

theorem Exchanged.ofResult_eq_error {run : EStateM.Result DeviceError (Device Chip) (List UInt8)}
    {error : DeviceError} {k : Core} {executed : Array Opcode} (h : ofResult run = ⟨.error error, k, executed⟩) :
    ∃ device, run = .error error device ∧ device.bus.core = k ∧ device.bus.executed = executed := by
  cases run with
  | ok _ _ => cases h
  | error _ device =>
    cases h
    exact ⟨device, rfl, rfl, rfl⟩

/-- An exchange for as many bytes as the operations of the host ask for. -/
def Device.exchanged (command : Command) (device : Device Chip) : Exchanged :=
  .ofResult (exchange command command.answerLength device)

def Chip.performed (command : Command) (chip : Chip) : Exchanged :=
  match run command chip with
  | .ok payload chip' =>
    ⟨.ok (if payload = [] then [0] else payload), chip'.core, chip.executed.push command.opcode⟩
  | .error status chip' =>
    ⟨.error (.status command.opcode status), chip'.core, chip.executed.push command.opcode⟩

namespace Command

theorem answerLength_cases (command : Command) :
    command.answerLength = 1 ∨ command.answerLength = 4 ∨ command.answerLength = 32 := by
  unfold answerLength
  cases command.opcode with
  | read =>
    dsimp only
    split
    · exact .inr (.inr rfl)
    · exact .inr (.inl rfl)
  | nonce =>
    dsimp only
    split
    · exact .inl rfl
    · exact .inr (.inr rfl)
  | devRev => exact .inr (.inl rfl)
  | random => exact .inr (.inr rfl)
  | mac => exact .inr (.inr rfl)
  | hmac => exact .inr (.inr rfl)
  | _ => exact .inl rfl

theorem outcome?_arrived (command : Command) {payload : List UInt8}
    (h : Chip.ArrivesAs command.answerLength payload) :
    command.outcome? command.answerLength (.ok payload) =
      some (.ok (if payload = [] then [0] else payload)) := by
  have hcases := command.answerLength_cases
  unfold Chip.ArrivesAs at h
  by_cases hone : command.answerLength = 1
  · rw [if_pos hone] at h
    subst h
    rw [hone, outcome?_done, if_pos rfl]
  · rw [if_neg hone] at h
    have hne : payload ≠ [] := by
      rintro rfl
      rw [List.length_nil] at h
      omega
    rw [if_neg hne, ← h]
    exact command.outcome?_payload (by omega) (by omega)

theorem exists_performs (command : Command) (chip : Chip) :
    ∃ answer k', command.Performs chip.core answer k' ∧ (Chip.performed command chip).core = k' ∧
      command.outcome? command.answerLength answer = some (Chip.performed command chip).result := by
  have hruns := Chip.run_runs (k := chip.core) command chip rfl
  unfold Chip.performed
  cases hrun : Chip.run command chip with
  | ok payload chip' =>
    rw [hrun] at hruns
    obtain ⟨_, _, harrives, _⟩ := hruns
    exact ⟨.ok payload, chip'.core, performs_answer hrun, rfl, command.outcome?_arrived harrives⟩
  | error status chip' =>
    rw [hrun] at hruns
    obtain ⟨_, _, hrefusal, _⟩ := hruns
    exact ⟨.error status, chip'.core, performs_refusal hrun, rfl, command.outcome?_refused _ hrefusal⟩

end Command

theorem Chip.executed_performed (command : Command) (chip : Chip) :
    (performed command chip).executed = chip.executed.push command.opcode := by
  unfold performed
  split <;> rfl

theorem Chip.performed_congr (command : Command) {chip chip' : Chip} (hcore : chip'.core = chip.core)
    (hexecuted : chip'.executed = chip.executed) : performed command chip' = performed command chip := by
  have hlocal := Local.run command chip chip'
  rw [← hcore, withCore_core] at hlocal
  unfold performed
  rw [hlocal, hexecuted]
  cases run command chip <;> rfl

namespace Device

/-- An awake chip with core `k` that has run `ran`, and what is to disturb the next accesses. -/
structure Poised (k : Core) (ran : Array Opcode) (faults : List Fault) (stalls : Nat) (device : Device Chip) :
    Prop where
  awake : device.bus.awake = true
  core : device.bus.core = k
  executed : device.bus.executed = ran
  faults : device.bus.faults = faults
  stalls : device.bus.stalls = stalls

variable {device : Device Chip} {k k' : Core} {ran : Array Opcode} {faults : List Fault} {stalls : Nat}
variable {answer : Except Status (List UInt8)}

theorem Poised.here (h : device.bus.awake = true) :
    Poised device.bus.core device.bus.executed device.bus.faults device.bus.stalls device :=
  ⟨h, rfl, rfl, rfl, rfl⟩

theorem Poised.of_bus {chip : Chip} (hbus : device.bus = chip) (hawake : chip.awake = true)
    (hcore : chip.core = k) (hexecuted : chip.executed = ran) (hfaults : chip.faults = faults)
    (hstalls : chip.stalls = stalls) : Poised k ran faults stalls device := by
  subst hbus
  exact ⟨hawake, hcore, hexecuted, hfaults, hstalls⟩

/-! ## Single attempts -/

theorem transmit_bus (command : Command) (device : Device Chip) :
    ∃ sent, transmit command device = .ok () sent ∧ sent.bus = device.bus.receive command.encode := by
  obtain ⟨sent, hsent, hbench⟩ := transmit_eq command device
  have hcalm : device.bench.advance = device.bench := Bench.advance_of_script_nil rfl
  rw [hcalm] at hbench
  exact ⟨sent, hsent, congrArg Bench.chip hbench⟩

theorem transmit_faulted (command : Command) {fault : Fault}
    (h : Poised k ran (fault :: faults) stalls device) :
    ∃ sent, transmit command device = .ok () sent ∧ Poised k ran faults stalls sent ∧
      sent.bus.pending = some fault.frame := by
  obtain ⟨sent, hsent, hbus⟩ := transmit_bus command device
  rw [Chip.receive_fault h.awake h.faults] at hbus
  have hpoised : Poised k ran faults stalls sent := .of_bus hbus h.awake h.core h.executed rfl h.stalls
  exact ⟨sent, hsent, hpoised, congrArg Chip.pending hbus⟩

theorem transmit_performed {command : Command} (hlength : command.data.length ≤ maxCommandData)
    (hperforms : command.Performs k answer k') (h : Poised k ran [] stalls device) :
    ∃ sent, transmit command device = .ok () sent ∧
      Poised k' (ran.push command.opcode) [] stalls sent ∧ sent.bus.pending = some (Chip.reply answer) := by
  obtain ⟨sent, hsent, hbus⟩ := transmit_bus command device
  rw [← h.core] at hperforms
  rw [Chip.receive_command h.awake h.faults hlength hperforms] at hbus
  have hran : device.bus.executed.push command.opcode = ran.push command.opcode := by rw [h.executed]
  have hpoised : Poised k' (ran.push command.opcode) [] stalls sent :=
    .of_bus hbus h.awake rfl hran h.faults h.stalls
  exact ⟨sent, hsent, hpoised, congrArg Chip.pending hbus⟩

variable (command : Command) (expected left attempt : Nat)

theorem attempts_transmitted {sent : Device Chip} (h : transmit command device = .ok () sent) :
    attempts command expected (left + 1) attempt true device =
      attempts command expected (left + 1) attempt false sent := by
  rw [attempts_resend, bind_apply, h]

theorem attempts_stall (h : Poised k ran faults (stalls + 1) device) :
    ∃ polled, attempts command expected (left + 1) attempt false device =
        attempts command expected left (attempt + 1) false polled ∧
      Poised k ran faults stalls polled ∧ polled.bus.pending = device.bus.pending := by
  obtain ⟨paused, hpaused, hbench⟩ := pause_eq command.opcode device
  have hcalm : paused.bench.advance = device.bench := by
    rw [hbench]
    exact Bench.advance_of_script_nil rfl
  have hrefused : paused.bench.advance.chip.stalls = stalls + 1 := by
    rw [hcalm]
    exact h.stalls
  obtain ⟨reason, polled, hreceive, hpolled⟩ := receive_eq_busy command.opcode expected hrefused
  rw [hcalm] at hpolled
  have hbus : polled.bus = { device.bus with stalls } := congrArg Bench.chip hpolled
  obtain ⟨events, hattempts⟩ := attempts_polling left attempt hpaused hreceive
  have hpoised : Poised k ran faults stalls { polled with events } :=
    .of_bus hbus h.awake h.core h.executed h.faults rfl
  have hpending : polled.bus.pending = device.bus.pending := by rw [hbus]
  exact ⟨{ polled with events }, hattempts, hpoised, hpending⟩

theorem receive_frame {frame : List UInt8} (h : Poised k ran faults 0 device)
    (hpending : device.bus.pending = some frame) :
    ∃ paused taken, pause command.opcode device = .ok () paused ∧
      receive command.opcode expected paused =
        .ok (.ofBuffer expected (padTo (Response.size expected) 0xFF frame)) taken ∧
      Poised k ran faults 0 taken := by
  obtain ⟨paused, hpaused, hbench⟩ := pause_eq command.opcode device
  have hcalm : paused.bench.advance = device.bench := by
    rw [hbench]
    exact Bench.advance_of_script_nil rfl
  have hready : paused.bench.advance.chip.stalls = 0 := by
    rw [hcalm]
    exact h.stalls
  have hwaiting : paused.bench.chip.pending = some frame := by
    rw [hbench]
    exact hpending
  obtain ⟨taken, hreceive, htaken⟩ := receive_eq_frame command.opcode expected hready hwaiting
  rw [hcalm] at htaken
  have hbus : taken.bus = { device.bus with pending := none } := congrArg Bench.chip htaken
  exact ⟨paused, taken, hpaused, hreceive, .of_bus hbus h.awake h.core h.executed h.faults h.stalls⟩

theorem attempts_fault {fault : Fault} (h : Poised k ran faults 0 device)
    (hpending : device.bus.pending = some fault.frame) :
    ∃ taken, attempts command expected (left + 1) attempt false device =
        attempts command expected left (attempt + 1) true taken ∧ Poised k ran faults 0 taken := by
  obtain ⟨paused, taken, hpaused, hreceive, htaken⟩ := receive_frame command expected h hpending
  obtain ⟨reason, hverdict⟩ := Verdict.ofBuffer_fault fault expected
  rw [hverdict] at hreceive
  obtain ⟨events, hattempts⟩ := attempts_polling left attempt hpaused hreceive
  exact ⟨{ taken with events }, hattempts, htaken.awake, htaken.core, htaken.executed, htaken.faults,
    htaken.stalls⟩

variable {command expected left} {result : Except DeviceError (List UInt8)}

theorem attempts_answered (hresult : command.outcome? expected answer = some result)
    (h : Poised k ran faults 0 device) (hpending : device.bus.pending = some (Chip.reply answer)) :
    Exchanged.ofResult (attempts command expected (left + 1) attempt false device) = ⟨result, k, ran⟩ := by
  obtain ⟨paused, taken, hpaused, hreceive, htaken⟩ := receive_frame command expected h hpending
  obtain ⟨events, hattempts⟩ := attempts_polling left attempt hpaused hreceive
  rw [hattempts, ← htaken.core, ← htaken.executed]
  rw [Command.outcome?] at hresult
  generalize Verdict.ofBuffer expected (padTo (Response.size expected) 0xFF (Chip.reply answer)) = verdict
    at hresult
  cases verdict with
  | answered payload =>
    obtain rfl := Option.some.inj hresult
    rfl
  | refused status =>
    obtain rfl := Option.some.inj hresult
    rfl
  | inconclusive _ _ => cases hresult

/-! ## Runs of attempts -/

variable (command expected left)

theorem attempts_exhausted {resend : Bool} (h : Poised k ran faults stalls device) :
    Exchanged.ofResult (attempts command expected 0 (attempt + 1) resend device) =
      ⟨.error (.retryExhausted command.opcode attempt), k, ran⟩ := by
  rw [← h.core, ← h.executed]
  rfl

theorem attempts_stalled (n : Nat) (h : Poised k ran faults (stalls + n) device) :
    ∃ polled, attempts command expected (left + n) attempt false device =
        attempts command expected left (attempt + n) false polled ∧
      Poised k ran faults stalls polled ∧ polled.bus.pending = device.bus.pending := by
  induction n generalizing device attempt with
  | zero => exact ⟨device, rfl, h, rfl⟩
  | succ n ih =>
    obtain ⟨first, hfirst, hpoised, hpending⟩ := attempts_stall command expected (left + n) attempt h
    obtain ⟨polled, hpolled, hpoised', hpending'⟩ := ih (attempt + 1) hpoised
    have hattempt : attempt + (n + 1) = attempt + 1 + n := by omega
    rw [hattempt]
    exact ⟨polled, hfirst.trans hpolled, hpoised', hpending'.trans hpending⟩

theorem attempts_unread (h : Poised k ran faults stalls device) (hleft : left ≤ stalls) :
    Exchanged.ofResult (attempts command expected left 1 false device) =
      ⟨.error (.retryExhausted command.opcode left), k, ran⟩ := by
  have hstalls : stalls = stalls - left + left := by omega
  rw [hstalls] at h
  obtain ⟨polled, hpolled, hpoised, _⟩ := attempts_stalled command expected 0 1 left h
  rw [Nat.zero_add, Nat.add_comm 1] at hpolled
  rw [hpolled, attempts_exhausted command expected left hpoised]

theorem attempts_faulted (lost : List Fault) (h : Poised k ran (lost ++ faults) 0 device) :
    ∃ device', attempts command expected (left + lost.length) attempt true device =
        attempts command expected left (attempt + lost.length) true device' ∧
      Poised k ran faults 0 device' := by
  induction lost generalizing device attempt with
  | nil => exact ⟨device, rfl, h⟩
  | cons fault lost ih =>
    obtain ⟨sent, hsent, hpoised, hpending⟩ := transmit_faulted command h
    obtain ⟨taken, htaken, hpoised'⟩ :=
      attempts_fault command expected (left + lost.length) attempt hpoised hpending
    obtain ⟨device', hdevice, hdone⟩ := ih (attempt + 1) hpoised'
    have hattempt : attempt + (fault :: lost).length = attempt + 1 + lost.length := by
      rw [List.length_cons]
      omega
    have hfirst := attempts_transmitted command expected (left + lost.length) attempt hsent
    rw [hattempt]
    exact ⟨device', hfirst.trans (htaken.trans hdevice), hdone⟩

/-- Attempts at a command that faults stand before: the first outlasts the stalls as well. -/
theorem attempts_delayed (fault : Fault) (lost : List Fault)
    (h : Poised k ran (fault :: (lost ++ faults)) stalls device) :
    ∃ device', attempts command expected (left + lost.length + 1 + stalls) attempt true device =
        attempts command expected left (attempt + stalls + 1 + lost.length) true device' ∧
      Poised k ran faults 0 device' := by
  obtain ⟨sent, hsent, hpoised, hpending⟩ := transmit_faulted command h
  rw [← Nat.zero_add stalls] at hpoised
  obtain ⟨polled, hpolled, hpolledPoised, hwaiting⟩ :=
    attempts_stalled command expected (left + lost.length + 1) attempt stalls hpoised
  obtain ⟨taken, htaken, htakenPoised⟩ := attempts_fault command expected (left + lost.length)
    (attempt + stalls) hpolledPoised (hwaiting.trans hpending)
  obtain ⟨device', hdevice, hdone⟩ :=
    attempts_faulted command expected left (attempt + stalls + 1) lost htakenPoised
  have hfirst : left + lost.length + 1 + stalls = left + lost.length + stalls + 1 := by omega
  refine ⟨device', ?_, hdone⟩
  calc attempts command expected (left + lost.length + 1 + stalls) attempt true device
      _ = attempts command expected (left + lost.length + 1 + stalls) attempt false sent := by
        rw [hfirst, attempts_transmitted command expected _ attempt hsent]
      _ = attempts command expected (left + lost.length + 1) (attempt + stalls) false polled := hpolled
      _ = attempts command expected (left + lost.length) (attempt + stalls + 1) true taken := htaken
      _ = attempts command expected left (attempt + stalls + 1 + lost.length) true device' := hdevice

variable {command expected left}

/-- Attempts at a command that no fault stands before: they outlast the stalls. -/
theorem attempts_settled (hlength : command.data.length ≤ maxCommandData)
    (hperforms : command.Performs k answer k') (hresult : command.outcome? expected answer = some result)
    (h : Poised k ran [] stalls device) (hleft : stalls < left) :
    Exchanged.ofResult (attempts command expected left attempt true device) =
      ⟨result, k', ran.push command.opcode⟩ := by
  obtain ⟨sent, hsent, hpoised, hpending⟩ := transmit_performed hlength hperforms h
  rw [← Nat.zero_add stalls] at hpoised
  obtain ⟨spare, rfl⟩ : ∃ spare, left = spare + 1 + stalls := ⟨left - 1 - stalls, by omega⟩
  obtain ⟨polled, hpolled, hpolledPoised, hwaiting⟩ :=
    attempts_stalled command expected (spare + 1) attempt stalls hpoised
  have hfirst : spare + 1 + stalls = spare + stalls + 1 := by omega
  rw [hfirst, attempts_transmitted command expected _ attempt hsent, ← hfirst, hpolled]
  exact attempts_answered _ hresult hpolledPoised (hwaiting.trans hpending)

/-! ## Exchanges -/

theorem exchanged_settled (hlength : command.data.length ≤ maxCommandData)
    (hawake : device.bus.awake = true)
    (hleft : device.bus.faults.length + device.bus.stalls < device.retryBudget) :
    exchanged command device = Chip.performed command device.bus := by
  obtain ⟨answer, k', hperforms, hcore, hresult⟩ := command.exists_performs device.bus
  have hperformed : Chip.performed command device.bus =
      ⟨(Chip.performed command device.bus).result, k', device.bus.executed.push command.opcode⟩ := by
    rw [← hcore, ← Chip.executed_performed]
  have hpoised := Poised.here hawake
  rw [hperformed, exchanged, exchange_eq]
  cases hfaults : device.bus.faults with
  | nil =>
    rw [hfaults] at hpoised hleft
    rw [List.length_nil, Nat.zero_add] at hleft
    exact attempts_settled 1 hlength hperforms hresult hpoised hleft
  | cons fault lost =>
    rw [hfaults] at hpoised hleft
    rw [← List.append_nil lost] at hpoised
    rw [List.length_cons] at hleft
    obtain ⟨spare, hspare⟩ : ∃ spare,
        device.retryBudget = spare + 1 + lost.length + 1 + device.bus.stalls :=
      ⟨device.retryBudget - 2 - lost.length - device.bus.stalls, by omega⟩
    obtain ⟨device', hdevice, hdone⟩ :=
      attempts_delayed command command.answerLength (spare + 1) 1 fault lost hpoised
    rw [hspare, hdevice]
    exact attempts_settled _ hlength hperforms hresult hdone (Nat.zero_lt_succ spare)

theorem exists_retryBudget (device : Device Chip) : ∃ budget, device.retryBudget = budget + 1 :=
  Nat.exists_eq_succ_of_ne_zero (Nat.ne_of_gt device.retryBudget_pos)

theorem exchanged_unanswered (hlength : command.data.length ≤ maxCommandData)
    (hawake : device.bus.awake = true) (hfaults : device.bus.faults = [])
    (hleft : device.retryBudget ≤ device.bus.stalls) :
    exchanged command device = ⟨.error (.retryExhausted command.opcode device.retryBudget),
      (Chip.performed command device.bus).core, device.bus.executed.push command.opcode⟩ := by
  obtain ⟨answer, k', hperforms, hcore, _⟩ := command.exists_performs device.bus
  have hpoised := Poised.here hawake
  rw [hfaults] at hpoised
  obtain ⟨sent, hsent, hsentPoised, _⟩ := transmit_performed hlength hperforms hpoised
  obtain ⟨budget, hbudget⟩ := exists_retryBudget device
  rw [hbudget] at hleft
  rw [exchanged, exchange_eq, hbudget, attempts_transmitted _ _ _ _ hsent, hcore]
  exact attempts_unread _ _ _ hsentPoised hleft

/-- Where every read of the budget is refused, the host never learns what the chip made of the command. -/
theorem exchange_unanswered (hlength : command.data.length ≤ maxCommandData)
    (hawake : device.bus.awake = true) (hfaults : device.bus.faults = [])
    (hleft : device.retryBudget ≤ device.bus.stalls) :
    ∃ device', exchange command command.answerLength device =
        .error (.retryExhausted command.opcode device.retryBudget) device' ∧
      device'.bus.core = (Chip.performed command device.bus).core ∧
      device'.bus.executed = device.bus.executed.push command.opcode :=
  Exchanged.ofResult_eq_error (exchanged_unanswered hlength hawake hfaults hleft)

theorem exchanged_undelivered {fault : Fault} (hawake : device.bus.awake = true)
    (hfaults : device.bus.faults = fault :: faults)
    (hleft : device.retryBudget ≤ (fault :: faults).length + device.bus.stalls) :
    exchanged command device = ⟨.error (.retryExhausted command.opcode device.retryBudget), device.bus.core,
      device.bus.executed⟩ := by
  have hpoised := Poised.here hawake
  rw [hfaults] at hpoised
  rw [List.length_cons] at hleft
  obtain ⟨budget, hbudget⟩ := exists_retryBudget device
  rw [exchanged, exchange_eq]
  by_cases hstalls : device.retryBudget ≤ device.bus.stalls
  · obtain ⟨sent, hsent, hsentPoised, _⟩ := transmit_faulted command hpoised
    rw [hbudget] at hstalls
    rw [hbudget, attempts_transmitted _ _ _ _ hsent]
    exact attempts_unread _ _ _ hsentPoised hstalls
  · -- the attempts that the stalls leave are used up by as many of the faults
    let count := device.retryBudget - 1 - device.bus.stalls
    have htaken : (faults.take count).length = count := List.length_take_of_le (by omega)
    rw [← List.take_append_drop count faults] at hpoised
    obtain ⟨device', hdevice, hdone⟩ :=
      attempts_delayed command command.answerLength 0 1 fault (faults.take count) hpoised
    have hattempts : 0 + (faults.take count).length + 1 + device.bus.stalls = device.retryBudget := by omega
    have hattempt : 1 + device.bus.stalls + 1 + (faults.take count).length = device.retryBudget + 1 := by
      omega
    rw [hattempts, hattempt] at hdevice
    rw [hdevice]
    exact attempts_exhausted _ _ _ hdone

/-- The same device with nothing to disturb it, and with `pending` left unread. -/
def calmed (pending : Option (List UInt8)) (device : Device Chip) : Device Chip :=
  { device with bus := { device.bus with faults := [], stalls := 0, pending } }

/-- While the budget covers the faults and stalls, an exchange comes to one run of the command, just as it does
without them and whatever was left unread before. When it does not, the command has still been run once, unless
a fault stood before it. -/
theorem exchange_transparent (command : Command) (device : Device Chip) (hawake : device.bus.awake = true)
    (hlength : command.data.length ≤ maxCommandData) :
    let cost := device.bus.faults.length + device.bus.stalls
    let exhausted : Except DeviceError (List UInt8) :=
      .error (.retryExhausted command.opcode device.retryBudget)
    let ran := device.bus.executed.push command.opcode
    (cost < device.retryBudget →
      exchanged command device = Chip.performed command device.bus ∧
      (Chip.performed command device.bus).executed = ran ∧
      ∀ pending, exchanged command (device.calmed pending) = exchanged command device) ∧
    (device.retryBudget ≤ cost → device.bus.faults = [] →
      exchanged command device = ⟨exhausted, (Chip.performed command device.bus).core, ran⟩) ∧
    (device.retryBudget ≤ cost → device.bus.faults ≠ [] →
      exchanged command device = ⟨exhausted, device.bus.core, device.bus.executed⟩) := by
  refine ⟨?_, ?_, ?_⟩
  · intro hleft
    have hsettled := exchanged_settled hlength hawake hleft
    refine ⟨hsettled, Chip.executed_performed command device.bus, fun pending => ?_⟩
    have hcalm : exchanged command (device.calmed pending) =
        Chip.performed command (device.calmed pending).bus :=
      exchanged_settled hlength hawake device.retryBudget_pos
    rw [hsettled, hcalm]
    exact Chip.performed_congr command rfl rfl
  · intro hleft hfaults
    rw [hfaults, List.length_nil, Nat.zero_add] at hleft
    exact exchanged_unanswered hlength hawake hfaults hleft
  · intro hleft hfaults
    obtain ⟨fault, faults, hcons⟩ := List.exists_cons_of_ne_nil hfaults
    rw [hcons] at hleft
    exact exchanged_undelivered hawake hcons hleft

/-- Two faults and three stalls are well within the usual ten attempts. -/
theorem exchange_transparent_disturbed :
    let device := ofBus { awake := true, faults := [.awake, .badCrc], stalls := 3 : Chip }
    let command := Command.simple .devRev 0 0
    device.bus.awake = true ∧ command.data.length ≤ maxCommandData ∧
      exchanged command device = Chip.performed command device.bus := by
  intro device command
  have hleft : device.bus.faults.length + device.bus.stalls < device.retryBudget := by decide
  have hlength : command.data.length ≤ maxCommandData := by decide
  exact ⟨rfl, hlength, ((exchange_transparent command device rfl hlength).1 hleft).1⟩

end Device

end SecureElement
