import SecureElement.Proofs.Chip.Core
import SecureElement.Proofs.Runs
/-!
# Chips on a bench

Beside the host, somebody may inject faults and stall reads at any moment. What is done to the chip between two
accesses of the host is one disturbance, so a list of them describes every way in which a run can be disturbed.
A chip that is left alone is a bench without disturbances.
-/

namespace SecureElement

/-- Faults that are injected, and how many of the next reads are to be refused if that is changed. -/
structure Disturbance where
  faults : List Fault := []
  stalls : Option Nat := none
  deriving DecidableEq, Repr

namespace Chip

def disturb (chip : Chip) (disturbance : Disturbance) : Chip :=
  { chip with
    faults := chip.faults ++ disturbance.faults
    stalls := disturbance.stalls.getD chip.stalls }

@[simp] theorem core_disturb (chip : Chip) (disturbance : Disturbance) :
    (chip.disturb disturbance).core = chip.core := rfl

@[simp] theorem awake_disturb (chip : Chip) (disturbance : Disturbance) :
    (chip.disturb disturbance).awake = chip.awake := rfl

@[simp] theorem pending_disturb (chip : Chip) (disturbance : Disturbance) :
    (chip.disturb disturbance).pending = chip.pending := rfl

end Chip

structure Bench where
  chip : Chip
  /-- What is done to the chip before each of the next accesses. -/
  script : List Disturbance := []
  deriving DecidableEq

namespace Bench

def advance : Bench → Bench
  | ⟨chip, []⟩ => ⟨chip, []⟩
  | ⟨chip, disturbance :: script⟩ => ⟨chip.disturb disturbance, script⟩

@[simp] theorem core_advance (bench : Bench) : bench.advance.chip.core = bench.chip.core := by
  obtain ⟨chip, _ | ⟨disturbance, script⟩⟩ := bench <;> rfl

@[simp] theorem awake_advance (bench : Bench) : bench.advance.chip.awake = bench.chip.awake := by
  obtain ⟨chip, _ | ⟨disturbance, script⟩⟩ := bench <;> rfl

@[simp] theorem pending_advance (bench : Bench) : bench.advance.chip.pending = bench.chip.pending := by
  obtain ⟨chip, _ | ⟨disturbance, script⟩⟩ := bench <;> rfl

theorem advance_of_script_nil {bench : Bench} (h : bench.script = []) : bench.advance = bench := by
  obtain ⟨chip, script⟩ := bench
  subst h
  rfl

def write (bytes : List UInt8) : EStateM BusError Bench Nat := fun bench =>
  .ok bytes.length { bench.advance with chip := bench.advance.chip.receive bytes }

def read (len : Nat) : EStateM BusError Bench (List UInt8) := fun bench =>
  match Chip.send len bench.advance.chip with
  | .ok bytes chip => .ok bytes { bench.advance with chip }
  | .error error chip => .error error { bench.advance with chip }

instance : Bus Bench where
  write := write
  read := read

end Bench

/-- A bus that leads to a chip on a bench. -/
class ChipBus (σ : Type) extends Bus σ where
  bench : σ → Bench
  viewed_write (bytes : List UInt8) (bus : σ) :
    viewed bench (write bytes bus) = Bench.write bytes (bench bus)
  viewed_read (len : Nat) (bus : σ) : viewed bench (read len bus) = Bench.read len (bench bus)
  bench_wait (micros : Nat) (bus : σ) : bench (wait micros bus) = bench bus

instance : ChipBus Bench where
  bench := id
  viewed_write _ _ := rfl
  viewed_read len bench := by
    change viewed id (Bench.read len bench) = Bench.read len bench
    cases Bench.read len bench <;> rfl
  bench_wait _ _ := rfl

instance : ChipBus Chip where
  bench chip := ⟨chip, []⟩
  viewed_write _ _ := rfl
  viewed_read len chip := by
    change viewed _ (Chip.send len chip) = Bench.read len ⟨chip, []⟩
    unfold Bench.read
    rw [Bench.advance_of_script_nil rfl]
    cases Chip.send len chip <;> rfl
  bench_wait _ _ := rfl

namespace ChipBus

variable {σ : Type} [ChipBus σ]

theorem write_eq (bytes : List UInt8) (bus : σ) :
    ∃ bus', Bus.write bytes bus = .ok bytes.length bus' ∧
      bench bus' = { (bench bus).advance with chip := (bench bus).advance.chip.receive bytes } := by
  have hview := viewed_write bytes bus
  cases hwrite : Bus.write bytes bus with
  | ok written bus' =>
    rw [hwrite] at hview
    injection hview with hwritten hbench
    exact ⟨bus', by rw [hwritten], hbench⟩
  | error error bus' =>
    rw [hwrite] at hview
    injection hview

theorem read_eq_error {len : Nat} {bus : σ} {error : BusError} {chip : Chip}
    (h : Chip.send len (bench bus).advance.chip = .error error chip) :
    ∃ bus', Bus.read len bus = .error error bus' ∧ bench bus' = { (bench bus).advance with chip } := by
  have hview := viewed_read len bus
  rw [Bench.read, h] at hview
  cases hread : Bus.read len bus with
  | ok bytes bus' =>
    rw [hread] at hview
    injection hview
  | error error' bus' =>
    rw [hread] at hview
    injection hview with herror hbench
    exact ⟨bus', by rw [herror], hbench⟩

theorem read_eq_ok {len : Nat} {bus : σ} {bytes : List UInt8} {chip : Chip}
    (h : Chip.send len (bench bus).advance.chip = .ok bytes chip) :
    ∃ bus', Bus.read len bus = .ok bytes bus' ∧ bench bus' = { (bench bus).advance with chip } := by
  have hview := viewed_read len bus
  rw [Bench.read, h] at hview
  cases hread : Bus.read len bus with
  | ok bytes' bus' =>
    rw [hread] at hview
    injection hview with hbytes hbench
    exact ⟨bus', by rw [hbytes], hbench⟩
  | error error bus' =>
    rw [hread] at hview
    injection hview

end ChipBus

namespace Chip

theorem send_stalled {chip : Chip} {stalls : Nat} (len : Nat) (h : chip.stalls = stalls + 1) :
    ∃ error, send len chip = .error error { chip with stalls } ∧ error.isBusy = true := by
  refine ⟨.readFailed "Remote I/O error (os error 121)", ?_, rfl⟩
  simp only [send, bind_apply, get_apply, h]
  rfl

theorem send_nothing {chip : Chip} (len : Nat) (hstalls : chip.stalls = 0)
    (hpending : chip.pending = none) :
    ∃ error, send len chip = .error error chip ∧ error.isBusy = true := by
  refine ⟨.timeout 0, ?_, rfl⟩
  simp only [send, bind_apply, get_apply, hstalls, hpending]
  rfl

theorem send_pending {chip : Chip} {frame : List UInt8} (len : Nat) (hstalls : chip.stalls = 0)
    (hpending : chip.pending = some frame) :
    send len chip = .ok (padTo len 0xFF frame) { chip with pending := none } := by
  simp only [send, bind_apply, get_apply, hstalls, hpending]
  rfl

theorem receive_pulse_memory (chip : Chip) {address : UInt8} (rest : List UInt8) (h : address ≠ 0x03) :
    (chip.receive (address :: rest)).memory = chip.memory := by
  rw [receive]
  split
  · rfl
  split
  · rfl
  split
  · rfl
  rw [if_neg fun hcommand => h hcommand.1]

/-- Of the words, only those for sleep and for commands get at what commands act on. -/
theorem core_receive_pulse (chip : Chip) {address : UInt8} (rest : List UInt8) (hsleep : address ≠ 0x01)
    (hcommand : address ≠ 0x03) : (chip.receive (address :: rest)).core = chip.core := by
  rw [receive]
  split
  · rfl
  split
  · rfl
  rw [if_neg fun h => hcommand h.1]
  rfl

theorem core_send (len : Nat) (chip : Chip) : (finalState (send len chip)).core = chip.core := by
  cases hstalls : chip.stalls with
  | succ stalls =>
    obtain ⟨error, hsend, _⟩ := send_stalled len hstalls
    rw [hsend]
    rfl
  | zero =>
    cases hpending : chip.pending with
    | none =>
      obtain ⟨error, hsend, _⟩ := send_nothing len hstalls hpending
      rw [hsend]
      rfl
    | some frame =>
      rw [send_pending len hstalls hpending]
      rfl

end Chip

end SecureElement
