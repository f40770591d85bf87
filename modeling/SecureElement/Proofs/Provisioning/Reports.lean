import SecureElement.Proofs.Chip.OneWay
import SecureElement.Proofs.Device.Zones
import SecureElement.Proofs.Provisioning.Lockstep
/-!
# What a device reports

Whatever the host does on a bus that leads to a chip is traffic to that chip, and what the host reports of the
lock bytes is what they are. So the states that a handle reports follow those of the chip, which do not go back.
-/

namespace SecureElement

def Event.report? : Event → Option Lifecycle
  | .stateObserved state => some state
  | _ => none

theorem Event.report?_eq_none {event : Event} (h : event.isReport = false) : event.report? = none := by
  cases event <;> first | rfl | cases h

theorem Bench.exists_advance (bench : Bench) : ∃ traffic, bench.advance.chip = bench.chip.after traffic := by
  obtain ⟨chip, script⟩ := bench
  cases script with
  | nil => exact ⟨[], rfl⟩
  | cons disturbance script => exact ⟨[.disturb disturbance], rfl⟩

namespace Device

variable {σ : Type}

def reports (device : Device σ) : List Lifecycle :=
  device.events.toList.filterMap Event.report?

theorem reports_push (device : Device σ) (event : Event) :
    reports { device with events := device.events.push event } = device.reports ++ event.report?.toList := by
  unfold reports
  rw [Array.toList_push, List.filterMap_append]
  cases event <;> rfl

theorem reports_onBus {α : Type} (action : EStateM BusError σ α) (device : Device σ) :
    (finalState (onBus action device)).reports = device.reports := by
  unfold onBus
  cases action device.bus <;> rfl

section

variable [Bus σ] {device device' : Device σ}

theorem lockstep_reports (reports : List Lifecycle) :
    Lockstep fun device other : Device σ => device = other ∧ device.reports = reports := by
  apply lockstep_invariant
  · intro bytes device h
    rw [reports_onBus, h]
  · intro len device h
    rw [reports_onBus, h]
  · exact fun _ _ h => h
  · intro event device hevent h
    rw [reports_push, Event.report?_eq_none hevent, h]
    exact List.append_nil _

theorem lifecycle_eq (device : Device σ) :
    lifecycle device = match lockWord device with
      | .error error device => .error error device
      | .ok word device => match Lifecycle.ofLockWord word with
        | .error error => .error (.precondition error) device
        | .ok state => .ok state { device with events := device.events.push (.stateObserved state) } := by
  unfold lifecycle
  rw [bind_apply]
  cases lockWord device with
  | error error device => rfl
  | ok word device =>
    dsimp only
    cases Lifecycle.ofLockWord word <;> rfl

theorem reports_lifecycle {state : Lifecycle} (h : lifecycle device = .ok state device') :
    device'.reports = device.reports ++ [state] := by
  have hkept : (finalState (lockWord device)).reports = device.reports :=
    ((lockstep_reports device.reports).reads.readWord _ _).finalState rfl
  rw [lifecycle_eq] at h
  cases hword : lockWord device with
  | error error middle =>
    rw [hword] at h
    cases h
  | ok word middle =>
    rw [hword] at h hkept
    dsimp only at h
    cases hstate : Lifecycle.ofLockWord word with
    | error error =>
      rw [hstate] at h
      cases h
    | ok state' =>
      rw [hstate] at h
      cases h
      rw [reports_push]
      exact congrArg (· ++ [state]) hkept

end

variable [ChipBus σ]

/-! ## Accesses are traffic -/

theorem bus_onBus {σ α : Type} (action : EStateM BusError σ α) (device : Device σ) :
    (finalState (onBus action device)).bus = finalState (action device.bus) := by
  unfold onBus
  cases action device.bus <;> rfl

theorem chip_write (bytes : List UInt8) (device : Device σ) :
    (finalState (onBus (Bus.write bytes) device)).bench.chip =
      device.bench.advance.chip.undergo (.write bytes) := by
  obtain ⟨bus', hwrite, hbench⟩ := ChipBus.write_eq bytes device.bus
  rw [bench, bus_onBus, hwrite]
  exact congrArg Bench.chip hbench

theorem chip_read (len : Nat) (device : Device σ) :
    (finalState (onBus (Bus.read len) device)).bench.chip =
      device.bench.advance.chip.undergo (.read len) := by
  change _ = finalState (Chip.send len device.bench.advance.chip)
  rw [bench, bus_onBus]
  cases hsend : Chip.send len device.bench.advance.chip with
  | ok bytes chip =>
    obtain ⟨bus', hread, hbench⟩ := ChipBus.read_eq_ok hsend
    rw [hread]
    exact congrArg Bench.chip hbench
  | error error chip =>
    obtain ⟨bus', hread, hbench⟩ := ChipBus.read_eq_error hsend
    rw [hread]
    exact congrArg Bench.chip hbench

theorem write_after (bytes : List UInt8) (device : Device σ) :
    ∃ traffic, (finalState (onBus (Bus.write bytes) device)).bench.chip = device.bench.chip.after traffic := by
  obtain ⟨traffic, hadvance⟩ := device.bench.exists_advance
  refine ⟨traffic ++ [.write bytes], ?_⟩
  rw [chip_write, hadvance, Chip.after_append]
  rfl

theorem read_after (len : Nat) (device : Device σ) :
    ∃ traffic, (finalState (onBus (Bus.read len) device)).bench.chip = device.bench.chip.after traffic := by
  obtain ⟨traffic, hadvance⟩ := device.bench.exists_advance
  refine ⟨traffic ++ [.read len], ?_⟩
  rw [chip_read, hadvance, Chip.after_append]
  rfl

/-! ## Reports that do not go back -/

/-- The reports do not go back, and the chip is as far as the last of them. -/
structure Candid (device : Device σ) : Prop where
  ordered : device.reports.Pairwise (· ≤ ·)
  reached : ∃ now, Lifecycle.ofLockWord device.bench.chip.memory.lockWord = .ok now ∧
    ∀ state ∈ device.reports, state ≤ now

variable {device device' : Device σ}

theorem Candid.of_after (h : Candid device) {traffic : List Traffic}
    (hchip : device'.bench.chip = device.bench.chip.after traffic) (hreports : device'.reports = device.reports) :
    Candid device' := by
  obtain ⟨now, hnow, hreached⟩ := h.reached
  obtain ⟨before, later, hbefore, hlater, hle⟩ := (Chip.after_onward hnow traffic).lifecycle
  rw [hnow] at hbefore
  cases hbefore
  refine ⟨by rw [hreports]; exact h.ordered, later, by rw [hchip, hlater], ?_⟩
  intro state hstate
  rw [hreports] at hstate
  exact le_trans (hreached state hstate) hle

theorem lockstep_candid : Lockstep fun device other : Device σ => device = other ∧ Candid device := by
  apply lockstep_invariant
  · intro bytes device h
    obtain ⟨traffic, hchip⟩ := device.write_after bytes
    exact h.of_after hchip (reports_onBus _ _)
  · intro len device h
    obtain ⟨traffic, hchip⟩ := device.read_after len
    exact h.of_after hchip (reports_onBus _ _)
  · intro micros device h
    have hchip : (ChipBus.bench (Bus.wait micros device.bus)).chip = device.bench.chip.after [] :=
      congrArg Bench.chip (ChipBus.bench_wait micros device.bus)
    exact h.of_after hchip rfl
  · intro event device hevent h
    let told : Device σ := { device with events := device.events.push event }
    have hchip : told.bench.chip = device.bench.chip.after [] := rfl
    have hreports : told.reports = device.reports := by
      rw [reports_push, Event.report?_eq_none hevent]
      exact List.append_nil _
    exact h.of_after hchip hreports

/-- The lock word that the host gets to see is the one that the chip has, however it is disturbed. -/
theorem lockWord_truthful {word : Word} (h : lockWord device = .ok word device') :
    word = device'.bench.chip.memory.lockWord := by
  cases hawake : device.bench.chip.awake with
  | true =>
    have hserves : Serves False device.bench.chip.core device := ⟨hawake, rfl, False.elim⟩
    obtain ⟨k, hserves', rfl, hk⟩ := lockWord_runs.of_ok hserves h
    rw [← hk, ← hserves'.core]
    rfl
  | false =>
    have hasleep : Asleep device.bench.chip.core device := ⟨hawake, rfl⟩
    have hruns : Runs (Asleep (σ := σ)) lockWord device.bench.chip.core (fun _ _ => False) fun _ _ => True :=
      Runs.bind_never ((exchange_asleep_runs _ _).mono (fun _ _ h => h) fun _ _ _ => trivial)
    obtain ⟨_, _, hnever⟩ := hruns.of_ok hasleep h
    exact hnever.elim

theorem Candid.observed (h : Candid device) {now : Lifecycle}
    (hnow : Lifecycle.ofLockWord device.bench.chip.memory.lockWord = .ok now) :
    Candid { device with events := device.events.push (.stateObserved now) } := by
  obtain ⟨now', hnow', hreached⟩ := h.reached
  rw [hnow] at hnow'
  cases hnow'
  have hpush := reports_push device (.stateObserved now)
  refine ⟨?_, now, hnow, ?_⟩
  · rw [hpush]
    apply List.pairwise_append.2
    refine ⟨h.ordered, List.pairwise_singleton _ _, ?_⟩
    intro state hstate last hlast
    obtain rfl := List.mem_singleton.1 hlast
    exact hreached state hstate
  · intro state hstate
    rw [hpush] at hstate
    rcases List.mem_append.1 hstate with hearlier | hlast
    · exact hreached state hearlier
    · obtain rfl := List.mem_singleton.1 hlast
      exact Nat.le_refl _

theorem candid_lifecycle (h : Candid device) : Candid (finalState (lifecycle device)) := by
  have hkept : Candid (finalState (lockWord device)) := (lockstep_candid.reads.readWord _ _).finalState h
  rw [lifecycle_eq]
  cases hword : lockWord device with
  | error error middle =>
    rw [hword] at hkept
    exact hkept
  | ok word middle =>
    rw [hword] at hkept
    have htrue := lockWord_truthful hword
    dsimp only
    cases hstate : Lifecycle.ofLockWord word with
    | error error => exact hkept
    | ok state =>
      rw [htrue] at hstate
      exact hkept.observed hstate

/-! ## Runs of operations -/

inductive IsOperation : {α : Type} → DeviceM σ α → Prop where
  | wake : IsOperation wake
  | sleep : IsOperation sleep
  | idle : IsOperation idle
  | exchange (command : Command) (expected : Nat) : IsOperation (exchange command expected)
  | readWord (zone : Zone) (address : UInt8) : IsOperation (readWord zone address)
  | readBlock (zone : Zone) (address : UInt8) : IsOperation (readBlock zone address)
  | writeWord (zone : Zone) (address : UInt8) (data : Word) : IsOperation (writeWord zone address data)
  | writeBlock (zone : Zone) (address : UInt8) (data : Block) (mac : Option Block) :
      IsOperation (writeBlock zone address data mac)
  | configZone : IsOperation configZone
  | otpZone : IsOperation otpZone
  | serialNumber : IsOperation serialNumber
  | revision : IsOperation revision
  | isLocked (zone : Zone) : IsOperation (isLocked zone)
  | lifecycle : IsOperation lifecycle
  | isOtpReadOnly : IsOperation isOtpReadOnly
  | lock (zone : Zone) (crc : Option UInt16) : IsOperation (lock zone crc)
  | slotConfig (slot : UInt8) : IsOperation (slotConfig slot)
  | writeSlotConfigs (slot : UInt8) (even odd : SlotConfig) : IsOperation (writeSlotConfigs slot even odd)
  | readKeySlot (slot : UInt8) : IsOperation (readKeySlot slot)
  | writeKeySlot (slot : UInt8) (key : Block) : IsOperation (writeKeySlot slot key)
  | writeKeySlotEncrypted (slot : UInt8) (newKey currentKey : Block) :
      IsOperation (writeKeySlotEncrypted slot newKey currentKey)
  | random (updateSeed : Bool) : IsOperation (random updateSeed)
  | randomBytes (n : Nat) (updateSeed : Bool) : IsOperation (randomBytes n updateSeed)
  | generate : IsOperation KeySet.generate
  | nonce (input : List UInt8) : IsOperation (nonce input)
  | genDigest (zone : Zone) (slot : UInt8) : IsOperation (genDigest zone slot)
  | checkMac (mode : CheckMacMode) (slot : UInt8) (challenge response otherData : List UInt8) :
      IsOperation (checkMac mode slot challenge response otherData)
  | mac (mode : MacMode) (slot : UInt8) (challenge : List UInt8) : IsOperation (mac mode slot challenge)
  | hmac (slot : UInt8) (challenge : List UInt8) (key : Option (List UInt8)) :
      IsOperation (hmac slot challenge key)

/-- The host performs an operation, or takes the device through provisioning, whether that ends well or badly. -/
inductive Performs : Device σ → Device σ → Prop where
  | operation {α : Type} {op : DeviceM σ α} (hop : IsOperation op) (device : Device σ) :
      Performs device (finalState (op device))
  | provision {κ : Type} [KeyStore κ] (goal : Lifecycle) (keys : Option KeySet) (run : Provisioning σ κ) :
      Performs run.device (finalState (Provisioning.provision goal keys run)).device

/-- What single accesses keep, and reports of a state, every operation keeps. -/
theorem IsOperation.invariant {α : Type} {op : DeviceM σ α} {I : Device σ → Prop} (hop : IsOperation op)
    (hkeep : Lockstep fun device other : Device σ => device = other ∧ I device)
    (hlifecycle : ∀ device, I device → I (finalState (Device.lifecycle device))) (h : I device) :
    I (finalState (op device)) := by
  cases hop with
  | lifecycle => exact hlifecycle device h
  | wake => exact hkeep.wake.finalState h
  | sleep => exact hkeep.sleep.finalState h
  | idle => exact hkeep.idle.finalState h
  | exchange => exact (hkeep.exchange _ _).finalState h
  | readWord => exact (hkeep.reads.readWord _ _).finalState h
  | readBlock => exact (hkeep.reads.readBlock _ _).finalState h
  | writeWord => exact (hkeep.writeWord _ _ _).finalState h
  | writeBlock => exact (hkeep.writeBlock _ _ _ _).finalState h
  | configZone => exact hkeep.reads.configZone.finalState h
  | otpZone => exact hkeep.reads.otpZone.finalState h
  | serialNumber => exact hkeep.reads.serialNumber.finalState h
  | revision => exact hkeep.revision.finalState h
  | isLocked => exact (hkeep.reads.isLocked _).finalState h
  | isOtpReadOnly => exact hkeep.reads.isOtpReadOnly.finalState h
  | lock => exact (hkeep.lock _ _).finalState h
  | slotConfig => exact (hkeep.reads.slotConfig _).finalState h
  | writeSlotConfigs => exact (hkeep.writeSlotConfigs _ _ _).finalState h
  | readKeySlot => exact (hkeep.reads.readKeySlot _).finalState h
  | writeKeySlot => exact (hkeep.writeKeySlot _ _).finalState h
  | writeKeySlotEncrypted => exact (hkeep.writeKeySlotEncrypted _ _ _).finalState h
  | random => exact (hkeep.random _).finalState h
  | randomBytes => exact (hkeep.randomBytes _ _).finalState h
  | generate => exact (KeySet.generate_alike (hkeep.random _)).finalState h
  | nonce => exact (hkeep.nonce _).finalState h
  | genDigest => exact (hkeep.genDigest _ _).finalState h
  | checkMac => exact (hkeep.checkMac _ _ _ _ _).finalState h
  | mac => exact (hkeep.mac _ _ _).finalState h
  | hmac => exact (hkeep.hmac _ _ _).finalState h

theorem Performs.invariant {I : Device σ → Prop} (hstep : Performs device device')
    (hkeep : Lockstep fun device other : Device σ => device = other ∧ I device)
    (hlifecycle : ∀ device, I device → I (finalState (lifecycle device))) (h : I device) : I device' := by
  cases hstep with
  | operation hop _ => exact hop.invariant hkeep hlifecycle h
  | provision goal keys run => exact Provisioning.provision_invariant hkeep hlifecycle goal keys run h

theorem Candid.performs (h : Candid device) (hstep : Performs device device') : Candid device' :=
  hstep.invariant lockstep_candid (fun _ => candid_lifecycle) h

theorem Candid.reflTransGen (h : Candid device) (hrun : Relation.ReflTransGen Performs device device') :
    Candid device' := by
  induction hrun with
  | refl => exact h
  | tail _ hstep ih => exact ih.performs hstep

end Device

namespace Provisioning

variable {σ : Type} [ChipBus σ]

/-- Provisioning is one-way. Whatever a new chip has been through and still goes through, what is settled stays
settled, a locked slot that demands encryption is written by authenticated commands alone, and a handle on the
chip reports states that do not go back. -/
theorem one_way {start : Chip} (hnew : start.memory = .factory) (before later : List Traffic)
    {device device' : Device σ} (hchip : device.bench.chip = start.after before) (hreports : device.reports = [])
    (hrun : Relation.ReflTransGen Device.Performs device device') :
    let chip := start.after before
    chip.memory.Onward (chip.after later).memory ∧
    (∀ next slot, chip.memory.dataLocked = true → (chip.memory.slotConfig slot).writePolicy = .encrypt →
      (chip.undergo next).memory.key slot ≠ chip.memory.key slot → ∃ command, chip.Rekeys next slot command) ∧
    device'.reports.Pairwise (· ≤ ·) ∧
    ∀ state device'', Device.lifecycle device' = .ok state device'' →
      device''.reports = device'.reports ++ [state] := by
  have hfactory : Lifecycle.ofLockWord start.memory.lockWord = .ok .factory := by
    rw [hnew, Memory.lifecycle_factory]
  obtain ⟨_, now, _, hnow, _⟩ := (Chip.after_onward hfactory before).lifecycle
  have hcandid : device.Candid := by
    refine ⟨by rw [hreports]; exact .nil, now, by rw [hchip, hnow], ?_⟩
    intro state hstate
    rw [hreports] at hstate
    cases hstate
  refine ⟨Chip.after_onward hnow later, ?_, (hcandid.reflTransGen hrun).ordered, ?_⟩
  · exact fun _ _ hlocked hpolicy hkey => Chip.exists_rekeys hlocked hpolicy hkey
  · exact fun _ _ hlifecycle => Device.reports_lifecycle hlifecycle

/-- A new chip whose Config zone was locked by hand: it can still be locked for good, by hand or by a host that
is disturbed on the way. -/
theorem one_way_locking :
    let before : List Traffic := [.write (List.replicate 4 0), .write (Command.simple .lock 0x80 0).encode]
    let later : List Traffic :=
      [.disturb { faults := [.badCrc] }, .read 4, .write [], .write (Command.simple .lock 0x81 0).encode,
        .write (Command.simple .lock 0x81 0).encode]
    let chip := ({} : Chip).after before
    let script : List Disturbance := [{}, {}, { faults := [.badCrc], stalls := some 2 }]
    let device : Device Bench := Device.ofBus { chip, script }
    ({} : Chip).memory = .factory ∧ chip.memory.configLocked = true ∧
      (chip.after later).memory.dataLocked = true ∧ chip.memory.Onward (chip.after later).memory ∧
      ∃ device', Relation.ReflTransGen Device.Performs device device' ∧
        device'.reports = [.initialized, .personalized] ∧ device'.reports.Pairwise (· ≤ ·) := by
  intro before later chip script device
  let observed := finalState (Device.lifecycle device)
  let locked := finalState (Device.lock .data none observed)
  let device' := finalState (Device.lifecycle locked)
  have hrun : Relation.ReflTransGen Device.Performs device device' :=
    .tail (.tail (.tail .refl (.operation .lifecycle _)) (.operation (.lock .data none) _))
      (.operation .lifecycle _)
  have hnew : ({} : Chip).memory = .factory := rfl
  have hbench : device.bench = { chip, script } := rfl
  have hchip : device.bench.chip = ({} : Chip).after before := by
    rw [hbench]
  have hone := one_way hnew before later hchip rfl hrun
  exact ⟨hnew, by decide +kernel, by decide +kernel, hone.1, device', hrun, by decide +kernel, hone.2.2.1⟩

end Provisioning

end SecureElement
