import SecureElement.CommandLine.Run
import SecureElement.Proofs.Device.Exchange
/-!
# Sessions with a chip

A session that has been opened puts the chip to sleep at its end, whatever its job comes to. A session that is not
opened, because the answer to the wake pulse is late, leaves the chip as the pulse made it: awake, with TempKey as
it was and its answer unread.
-/

namespace SecureElement

namespace Chip

/-- Nothing of a session is left in the chip. -/
structure Released (chip : Chip) : Prop where
  asleep : chip.awake = false
  tempKey : chip.tempKey = none
  pending : chip.pending = none

/-- The chip is awake, and its memory and TempKey are what they were before. -/
structure Roused (before chip : Chip) : Prop where
  awake : chip.awake = true
  core : chip.core = before.core

theorem receive_wake (chip : Chip) : chip.receive (List.replicate 4 0x00) =
    { chip with awake := true, pending := some Response.awakeFrame } := by
  have hzero : (0x00 : UInt8) = 0x00 ∧ (List.replicate 3 (0x00 : UInt8)).all (· == 0) = true := by decide
  unfold receive
  exact if_pos hzero

theorem released_receive_sleep (chip : Chip) : (chip.receive [0x01]).Released :=
  ⟨rfl, rfl, rfl⟩

end Chip

namespace Bench

/-- The reads are stalled by the time that the answer to a wake pulse is asked for, which is at the access after
the next one. -/
def WakesLate (bench : Bench) : Prop :=
  0 < bench.advance.advance.chip.stalls

theorem stalls_advance_congr {a b : Bench} (hchip : a.chip.stalls = b.chip.stalls)
    (hscript : a.script = b.script) : a.advance.chip.stalls = b.advance.chip.stalls := by
  obtain ⟨chip, script⟩ := a
  obtain ⟨chip', script'⟩ := b
  change script = script' at hscript
  subst hscript
  cases script with
  | nil => exact hchip
  | cons disturbance script => exact congrArg disturbance.stalls.getD hchip

end Bench

namespace Session

variable {σ ε τ : Type}

/-- A program works on the device inside its own state, and on nothing else there. -/
structure Reaches {ε τ : Type} (onDevice : EStateM SessionError (Device σ) Unit → EStateM ε τ Unit)
    (device : τ → Device σ) (put : Device σ → τ → τ) (failure : SessionError → ε) : Prop where
  device_put (handle : Device σ) (state : τ) : device (put handle state) = handle
  onDevice_eq (op : EStateM SessionError (Device σ) Unit) (state : τ) :
    onDevice op state = match op (device state) with
      | .ok _ handle => .ok () (put handle state)
      | .error error handle => .error (failure error) (put handle state)

theorem reaches_adaptExcept (failure : SessionError → ε) :
    Reaches (σ := σ) (EStateM.adaptExcept failure) id (fun handle _ => handle) failure where
  device_put _ _ := rfl
  onDevice_eq op device := by
    unfold EStateM.adaptExcept id
    cases op device with
    | ok _ handle => rfl
    | error error handle => rfl

theorem reaches_onHandle :
    Reaches (σ := σ) (CommandLine.Run.onHandle .session) CommandLine.Host.device
      (fun device host => { host with device }) CommandLine.Failure.session where
  device_put _ _ := rfl
  onDevice_eq op host := by
    unfold CommandLine.Run.onHandle
    cases op host.device with
    | ok _ handle => rfl
    | error error handle => rfl

end Session

variable {σ : Type} [ChipBus σ]

namespace ChipBus

/-- The pulse is always heard. What is to be read after it is the greeting of the chip. -/
theorem exists_pulsed (bus : σ) :
    ∃ bus', Bus.write (List.replicate 4 0) bus = .ok 4 bus' ∧
      (bench bus').advance.chip.awake = true ∧ (bench bus').advance.chip.core = (bench bus).chip.core ∧
      (bench bus').advance.chip.pending = some Response.awakeFrame ∧
      (bench bus').advance.chip.stalls = (bench bus).advance.advance.chip.stalls := by
  obtain ⟨bus', hwrite, hbench⟩ := write_eq (List.replicate 4 0) bus
  rw [Chip.receive_wake] at hbench
  refine ⟨bus', hwrite, ?_, ?_, ?_, ?_⟩
  · rw [Bench.awake_advance, hbench]
  · rw [Bench.core_advance, hbench]
    exact Bench.core_advance _
  · rw [Bench.pending_advance, hbench]
  · apply Bench.stalls_advance_congr
    · rw [hbench]
    · rw [hbench]

theorem wake_eq {bus pulsed : σ} (hwrite : Bus.write (List.replicate 4 0) bus = .ok 4 pulsed) :
    Bus.wake bus = match Bus.read 4 (Bus.wait Bus.wakeDelayMicros pulsed) with
      | .ok response woken =>
        if response.length < 4 ∨ Crc16.isValid (response.take 4) = false then
          .error (.wakeFailed response) woken
        else .ok () woken
      | .error error left => .error error left := by
  have hheard : ¬ 4 ≤ 1 := by decide
  have hwait : (modify (Bus.wait Bus.wakeDelayMicros) : EStateM BusError σ PUnit) pulsed =
      .ok ⟨⟩ (Bus.wait Bus.wakeDelayMicros pulsed) := rfl
  unfold Bus.wake
  simp only [bind_apply, hwrite, if_neg hheard, hwait]
  cases Bus.read 4 (Bus.wait Bus.wakeDelayMicros pulsed) with
  | error error left => rfl
  | ok response woken =>
    dsimp only
    split
    · rfl
    · rfl

theorem wake_on_time {bus : σ} (h : ¬ (bench bus).WakesLate) :
    ∃ woken, Bus.wake bus = .ok () woken ∧ (bench bus).chip.Roused (bench woken).chip := by
  obtain ⟨pulsed, hwrite, hawake, hcore, hpending, hstalls⟩ := exists_pulsed bus
  rw [Nat.eq_zero_of_not_pos h] at hstalls
  rw [← bench_wait Bus.wakeDelayMicros] at hawake hcore hpending hstalls
  obtain ⟨woken, hread, hbench⟩ := read_eq_ok (Chip.send_pending 4 hstalls hpending)
  have hintact : ¬ ((padTo 4 0xFF Response.awakeFrame).length < 4 ∨
      Crc16.isValid ((padTo 4 0xFF Response.awakeFrame).take 4) = false) := by
    decide +kernel
  refine ⟨woken, ?_, ?_, ?_⟩
  · rw [wake_eq hwrite, hread]
    exact if_neg hintact
  · rw [hbench]
    exact hawake
  · rw [hbench]
    exact hcore

theorem wake_late {bus : σ} (h : (bench bus).WakesLate) :
    ∃ error left, Bus.wake bus = .error error left ∧ (bench bus).chip.Roused (bench left).chip ∧
      (bench left).chip.pending = some Response.awakeFrame := by
  obtain ⟨pulsed, hwrite, hawake, hcore, hpending, hstalls⟩ := exists_pulsed bus
  obtain ⟨stalls, hlate⟩ := Nat.exists_eq_succ_of_ne_zero (Nat.ne_of_gt h)
  rw [hlate] at hstalls
  rw [← bench_wait Bus.wakeDelayMicros] at hawake hcore hpending hstalls
  obtain ⟨error, hsend, _⟩ := Chip.send_stalled 4 hstalls
  obtain ⟨left, hread, hbench⟩ := read_eq_error hsend
  refine ⟨error, left, ?_, ⟨?_, ?_⟩, ?_⟩
  · rw [wake_eq hwrite, hread]
  · rw [hbench]
    exact hawake
  · rw [hbench]
    exact hcore
  · rw [hbench]
    exact hpending

end ChipBus

namespace Session

theorem start_on_time {device : Device σ} (h : ¬ device.bench.WakesLate) :
    ∃ opened, start device = .ok () opened ∧ device.bench.chip.Roused opened.bench.chip := by
  obtain ⟨woken, hwake, hroused⟩ := ChipBus.wake_on_time h
  refine ⟨{ device with bus := woken, events := device.events.push .awake }, ?_, hroused⟩
  simp only [start, EStateM.adaptExcept, Device.wake, bind_apply, Device.onBus, hwake]
  rfl

theorem start_late {device : Device σ} (h : device.bench.WakesLate) :
    ∃ error left, start device = .error (.waking error) left ∧ device.bench.chip.Roused left.bench.chip ∧
      left.bench.chip.pending = some Response.awakeFrame := by
  obtain ⟨error, left, hwake, hroused, hpending⟩ := ChipBus.wake_late h
  refine ⟨.bus error, { device with bus := left }, ?_, hroused, hpending⟩
  simp only [start, EStateM.adaptExcept, Device.wake, bind_apply, Device.onBus, hwake]

theorem finish_releases {ε : Type} (device : Device σ) :
    ∃ closed, (finish : EStateM ε (Device σ) Unit) device = .ok () closed ∧ closed.bench.chip.Released := by
  obtain ⟨bus', hwrite, hbench⟩ := ChipBus.write_eq [0x01] device.bus
  refine ⟨{ device with bus := bus', events := device.events.push .asleep }, ?_, ?_⟩
  · simp only [finish, Device.sleep, bind_apply, Device.onBus, Bus.sleep, hwrite]
    rfl
  · unfold Device.bench
    rw [hbench]
    exact Chip.released_receive_sleep _

/-! ## Jobs -/

variable {ε τ α : Type} {onDevice : EStateM SessionError (Device σ) Unit → EStateM ε τ Unit}
variable {device : τ → Device σ} {put : Device σ → τ → τ} {failure : SessionError → ε}

theorem tryFinally_apply (job : EStateM ε τ α) (finalizer : EStateM ε τ Unit) (state : τ) :
    tryFinally job finalizer state = match job state with
      | .ok a ended => match finalizer ended with
        | .ok _ closed => .ok a closed
        | .error error closed => .error error closed
      | .error error ended => match finalizer ended with
        | .ok _ closed => .error error closed
        | .error error' closed => .error error' closed := by
  simp only [tryFinally, tryFinally', Functor.map, EStateM.map]
  cases job state with
  | ok a ended =>
    dsimp only
    cases finalizer ended <;> rfl
  | error error ended =>
    dsimp only
    cases finalizer ended <;> rfl

def close (device : τ → Device σ) (put : Device σ → τ → τ) (state : τ) : τ :=
  put (finalState (finish (ε := SessionError) (device state))) state

/-- A session that has been opened ends as its job does, with the device put to sleep. -/
theorem run_eq (hreaches : Reaches onDevice device put failure) (job : EStateM ε τ α) (state : τ) :
    run onDevice job state = match start (device state) with
      | .ok _ opened => viewed (close device put) (job (put opened state))
      | .error error left => .error (failure error) (put left state) := by
  have hfinish (ended : τ) : onDevice finish ended = .ok () (close device put ended) := by
    obtain ⟨closed, hclosed, _⟩ := finish_releases (ε := SessionError) (device ended)
    rw [hreaches.onDevice_eq, close, hclosed]
    rfl
  unfold run
  rw [bind_apply, hreaches.onDevice_eq]
  cases start (device state) with
  | error error left => rfl
  | ok _ opened =>
    dsimp only
    rw [tryFinally_apply]
    cases job (put opened state) with
    | ok a ended =>
      dsimp only
      rw [hfinish]
      rfl
    | error error ended =>
      dsimp only
      rw [hfinish]
      rfl

theorem released_close (hreaches : Reaches onDevice device put failure) (state : τ) :
    (device (close device put state)).bench.chip.Released := by
  obtain ⟨closed, hclosed, hreleased⟩ := finish_releases (ε := SessionError) (device state)
  rw [close, hclosed, hreaches.device_put]
  exact hreleased

theorem run_on_time (hreaches : Reaches onDevice device put failure) (job : EStateM ε τ α) {state : τ}
    (h : ¬ (device state).bench.WakesLate) :
    (device (finalState (run onDevice job state))).bench.chip.Released ∧
      ∃ opened, start (device state) = .ok () opened ∧
        (device state).bench.chip.Roused opened.bench.chip ∧
        run onDevice job state = viewed (close device put) (job (put opened state)) := by
  obtain ⟨opened, hstart, hroused⟩ := start_on_time h
  have hrun := run_eq hreaches job state
  rw [hstart] at hrun
  dsimp only at hrun
  refine ⟨?_, opened, hstart, hroused, hrun⟩
  rw [hrun]
  cases job (put opened state) with
  | ok a ended => exact released_close hreaches ended
  | error error ended => exact released_close hreaches ended

theorem run_late (hreaches : Reaches onDevice device put failure) (job : EStateM ε τ α) {state : τ}
    (h : (device state).bench.WakesLate) :
    ∃ error left, run onDevice job state = .error (failure (.waking error)) left ∧
      (device state).bench.chip.Roused (device left).bench.chip ∧
      (device left).bench.chip.pending = some Response.awakeFrame := by
  obtain ⟨error, left, hstart, hroused, hpending⟩ := start_late h
  have hrun := run_eq hreaches job state
  rw [hstart] at hrun
  refine ⟨error, put left state, hrun, ?_⟩
  rw [hreaches.device_put]
  exact ⟨hroused, hpending⟩

/-- A session that is answered in time opens with the chip just woken up, ends as its job ends, and has released the
chip by then. A session that is answered late fails, and it leaves the chip awake, with the greeting unread. -/
theorem released_unless_late (hreaches : Reaches onDevice device put failure) (job : EStateM ε τ α)
    (state : τ) :
    let before := (device state).bench
    (¬ before.WakesLate →
      (device (finalState (run onDevice job state))).bench.chip.Released ∧
      ∃ opened, start (device state) = .ok () opened ∧ before.chip.Roused opened.bench.chip ∧
        run onDevice job state = viewed (close device put) (job (put opened state))) ∧
    (before.WakesLate →
      ∃ error left, run onDevice job state = .error (failure (.waking error)) left ∧
        before.chip.Roused (device left).bench.chip ∧
        (device left).bench.chip.pending = some Response.awakeFrame) :=
  ⟨run_on_time hreaches job, run_late hreaches job⟩

/-- A job that loads TempKey and then fails: the chip has forgotten it all. -/
theorem released_unless_late_failing :
    let device := ({} : SessionConfig).handle ({} : Chip)
    let job : EStateM (SessionError ⊕ DeviceError) (Device Chip) Unit := EStateM.adaptExcept .inr do
      let _ ← Device.nonce (Bytes.zero 32).toList
      Device.genDigest .data 0
    let result := run (EStateM.adaptExcept .inl) job device
    ¬ device.bench.WakesLate ∧ (finalState result).bench.chip.Released ∧
      ∃ left, result = .error (.inr (.status .genDig .executionError)) left := by
  intro device job result
  have hintime : ¬ device.bench.WakesLate := Nat.lt_irrefl 0
  obtain ⟨hreleased, _⟩ := (released_unless_late (reaches_adaptExcept .inl) job device).1 hintime
  have hfails : (match result with
    | .ok _ _ => false
    | .error error _ => decide (error = .inr (.status .genDig .executionError))) = true := by
    decide +kernel
  refine ⟨hintime, hreleased, ?_⟩
  clear_value result
  cases result with
  | ok _ left => cases hfails
  | error error left => exact ⟨left, by rw [of_decide_eq_true hfails]⟩

/-- A new chip whose first read is stalled: it does not answer the wake pulse in time, and it is awake when the
session has failed. -/
theorem late_session_stays_awake :
    let device := ({} : SessionConfig).handle ({ stalls := 1 } : Chip)
    device.bus.awake = false ∧
      ∃ error left, start device = .error (.waking error) left ∧ left.bus.awake = true ∧
        ¬ left.bus.Released := by
  intro device
  have hlate : device.bench.WakesLate := Nat.zero_lt_one
  obtain ⟨error, left, hstart, hroused, _⟩ := start_late hlate
  refine ⟨rfl, error, left, hstart, hroused.awake, ?_⟩
  intro hreleased
  exact Bool.noConfusion (hreleased.asleep.symm.trans hroused.awake)

end Session

namespace CommandLine.Run

theorem released_job (config : SessionConfig) (job : DeviceJob) (host : Host σ)
    (h : ¬ host.device.bench.WakesLate) :
    (finalState (Run.job config (.device job) host)).device.bench.chip.Released := by
  let opening : Host σ := { host with device := config.handle host.device.bus }
  have hintime : ¬ opening.device.bench.WakesLate := h
  exact (Session.run_on_time Session.reaches_onHandle (deviceJob config job) hintime).1

end CommandLine.Run

end SecureElement
