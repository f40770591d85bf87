import SecureElement.Proofs.Device.Exchange
/-!
# Waking and sleeping

The pulses that wake a chip, put it to sleep or make it idle leave its memory alone, whether they are answered
or not.
-/

namespace SecureElement

variable {σ : Type} [ChipBus σ] {memory : Memory}

namespace ChipBus

def Holds (memory : Memory) (bus : σ) : Prop :=
  (bench bus).chip.memory = memory

theorem write_pulse_runs {address : UInt8} (rest : List UInt8) (h : address ≠ 0x03)
    (fail : BusError → Memory → Prop) :
    Runs (Holds (σ := σ)) (Bus.write (address :: rest)) memory (fun _ m => m = memory) fail := by
  intro bus hbus
  obtain ⟨bus', hwrite, hbench⟩ := write_eq (address :: rest) bus
  rw [hwrite]
  refine ⟨memory, ?_, rfl⟩
  unfold Holds
  rw [hbench, Chip.receive_pulse_memory _ rest h]
  exact (congrArg Core.memory (Bench.core_advance (bench bus))).trans hbus

theorem read_runs (len : Nat) :
    Runs (Holds (σ := σ)) (Bus.read len) memory (fun _ m => m = memory) (fun _ m => m = memory) := by
  intro bus hbus
  have hmemory := congrArg Core.memory (Chip.core_send len (bench bus).advance.chip)
  have hadvance : (bench bus).advance.chip.memory = memory :=
    (congrArg Core.memory (Bench.core_advance (bench bus))).trans hbus
  cases hsend : Chip.send len (bench bus).advance.chip with
  | ok bytes chip =>
    rw [hsend] at hmemory
    obtain ⟨bus', hread, hbench⟩ := read_eq_ok hsend
    rw [hread]
    refine ⟨memory, ?_, rfl⟩
    unfold Holds
    rw [hbench]
    exact hmemory.trans hadvance
  | error error chip =>
    rw [hsend] at hmemory
    obtain ⟨bus', hread, hbench⟩ := read_eq_error hsend
    rw [hread]
    refine ⟨memory, ?_, rfl⟩
    unfold Holds
    rw [hbench]
    exact hmemory.trans hadvance

theorem wait_runs (micros : Nat) (fail : BusError → Memory → Prop) :
    Runs (Holds (σ := σ)) (modify (Bus.wait micros)) memory (fun _ m => m = memory) fail := by
  intro bus hbus
  refine ⟨memory, ?_, rfl⟩
  unfold Holds
  rw [bench_wait, hbus]

theorem wake_runs :
    Runs (Holds (σ := σ)) Bus.wake memory (fun _ m => m = memory) (fun _ m => m = memory) := by
  refine (write_pulse_runs _ (by decide) _).bind ?_
  intro written _ hend
  subst hend
  split
  · exact Runs.bind_never (Runs.throw rfl)
  · refine (wait_runs _ _).bind ?_
    intro _ _ hend
    subst hend
    refine (read_runs 4).bind ?_
    intro response _ hend
    subst hend
    split
    · exact Runs.throw rfl
    · exact Runs.pure rfl

theorem sleep_runs :
    Runs (Holds (σ := σ)) Bus.sleep memory (fun _ m => m = memory) (fun _ m => m = memory) :=
  (write_pulse_runs _ (by decide) _).bind fun _ _ h => Runs.pure h

theorem idle_runs :
    Runs (Holds (σ := σ)) Bus.idle memory (fun _ m => m = memory) (fun _ m => m = memory) :=
  (write_pulse_runs _ (by decide) _).bind fun _ _ h => Runs.pure h

end ChipBus

namespace Device

def Holds (memory : Memory) (device : Device σ) : Prop :=
  ChipBus.Holds memory device.bus

theorem onBus_runs {α : Type} {action : EStateM BusError σ α}
    (h : Runs ChipBus.Holds action memory (fun _ m => m = memory) (fun _ m => m = memory)) :
    Runs Holds (onBus action) memory (fun _ m => m = memory) (fun _ m => m = memory) := by
  intro device hdevice
  have haction := h device.bus hdevice
  rw [onBus]
  cases hrun : action device.bus with
  | ok value bus =>
    rw [hrun] at haction
    exact haction
  | error error bus =>
    rw [hrun] at haction
    exact haction

theorem wake_runs :
    Runs (Holds (σ := σ)) wake memory (fun _ m => m = memory) (fun _ m => m = memory) := by
  refine (onBus_runs ChipBus.wake_runs).bind ?_
  rintro _ _ rfl device hdevice
  exact ⟨_, hdevice, rfl⟩

theorem sleep_runs :
    Runs (Holds (σ := σ)) sleep memory (fun _ m => m = memory) (fun _ m => m = memory) := by
  refine (onBus_runs ChipBus.sleep_runs).bind ?_
  rintro _ _ rfl device hdevice
  exact ⟨_, hdevice, rfl⟩

theorem idle_runs :
    Runs (Holds (σ := σ)) idle memory (fun _ m => m = memory) (fun _ m => m = memory) :=
  onBus_runs ChipBus.idle_runs

end Device

end SecureElement
