import SecureElement.Proofs.Chip.OneWay
import SecureElement.Proofs.Chip.ZoneAccess
import SecureElement.Proofs.Device.Retries
import SecureElement.Proofs.Device.Zones
/-!
# Locking a zone

A zone is locked when the chip agrees to it, and then for good. Locking it closes one lock byte or changes nothing
at all.
-/

namespace SecureElement

def Zone.lockIndex (zone : Zone) : Nat :=
  if zone = .config then 87 else 86

namespace Memory

variable {a b memory : Memory} {zone : Zone} {crc : Option UInt16}

theorem isClosed_eq (memory : Memory) (zone : Zone) :
    memory.isClosed zone = isLockByteClosed (memory.config.byte zone.lockIndex) := by
  cases zone <;> rfl

theorem close_eq (memory : Memory) (zone : Zone) :
    memory.close zone = memory.writeConfig zone.lockIndex [0x00] := by
  cases zone <;> rfl

/-- Memory `b` is memory `a` with the lock byte of the zone closed, and with nothing else changed. -/
structure Closes (zone : Zone) (a b : Memory) : Prop where
  before : a.byteAt .config zone.lockIndex = 0x55
  after : b.byteAt .config zone.lockIndex = 0x00
  elsewhere : ∀ other i, (other = .config → i ≠ zone.lockIndex) → b.byteAt other i = a.byteAt other i

theorem byteAt_close_config (memory : Memory) (zone : Zone) (i : Nat) : (memory.close zone).byteAt .config i =
    (Bytes.overwrite memory.config zone.lockIndex [0x00]).byte i := by
  rw [close_eq]
  rfl

theorem closes_close (h : memory.isClosed zone = false) : Closes zone memory (memory.close zone) where
  before := by
    rw [isClosed_eq] at h
    rw [byteAt_config]
    simpa [isLockByteClosed] using h
  after := by
    have hfits : zone.lockIndex + [(0x00 : UInt8)].length ≤ 88 := by
      cases zone <;> decide
    rw [byteAt_close_config]
    exact byte_overwrite_inside memory.config hfits (Nat.one_pos : 0 < [(0x00 : UInt8)].length)
  elsewhere other i hother := by
    cases other with
    | config =>
      rw [byteAt_close_config, byteAt_config]
      exact Bytes.byte_overwrite_singleton _ _ (hother rfl)
    | otp => rw [close_eq, byteAt_otp, byteAt_otp, writeConfig_otp]
    | data =>
      rw [close_eq]
      exact byteAt_data_congr fun slot _ => key_congr (memory.writeConfig_data _ _) slot

theorem isClosed_close (memory : Memory) (zone : Zone) : (memory.close zone).isClosed zone = true := by
  cases zone with
  | config => exact memory.configLocked_lockConfig
  | otp => exact memory.dataLocked_lockData
  | data => exact memory.dataLocked_lockData

theorem Lockable.configLocked_close (h : memory.Lockable zone crc) : (memory.close zone).configLocked = true := by
  by_cases hzone : zone = .config
  · rw [close, if_pos hzone, configLocked_lockConfig]
  · rw [close, if_neg hzone, configLocked_lockData, h.ordered hzone]

theorem Lockable.exists_lifecycle (h : memory.Lockable zone crc) :
    ∃ state, Lifecycle.ofLockWord (memory.close zone).lockWord = .ok state := by
  rw [ofLockWord_lockWord, h.configLocked_close]
  cases (memory.close zone).dataLocked with
  | false => exact ⟨_, rfl⟩
  | true => exact ⟨_, rfl⟩

theorem Onward.isClosed (h : Onward a b) (hclosed : a.isClosed zone = true) : b.isClosed zone = true := by
  cases zone with
  | config => exact h.configLocked hclosed
  | otp => exact h.dataLocked hclosed
  | data => exact h.dataLocked hclosed

end Memory

namespace Device

variable {device : Device Chip} {zone : Zone} {crc : Option UInt16}

/-! ## Reading the lock word -/

/-- The chip has run one Read in between, and it has changed nothing. -/
structure HasRead (device device' : Device Chip) : Prop where
  core : device'.bus.core = device.bus.core
  executed : device'.bus.executed = device.bus.executed.push .read

def lockWordCommand : Command :=
  .simple .read Zone.config.bits lockWordAddress.toUInt16

theorem lockWord_performed (chip : Chip) : Chip.performed lockWordCommand chip =
    ⟨.ok chip.memory.lockWord.toList, chip.core, chip.executed.push .read⟩ := by
  have hperforms : lockWordCommand.Performs chip.core (.ok chip.memory.lockWord.toList) chip.core :=
    Chip.performs_read_config lockWordAddress (by decide)
  have hnonempty : chip.memory.lockWord.toList ≠ [] :=
    List.ne_nil_of_length_eq_add_one Vector.length_toList
  unfold Chip.performed
  rw [hperforms chip rfl]
  dsimp only
  rw [if_neg hnonempty]
  rfl

theorem lockWord_settled (hawake : device.bus.awake = true)
    (hleft : device.bus.faults.length + device.bus.stalls < device.retryBudget) :
    ∃ device', lockWord device = .ok device.bus.memory.lockWord device' ∧ HasRead device device' := by
  have hlength : lockWordCommand.data.length ≤ maxCommandData := Nat.zero_le _
  have hsettled := exchanged_settled hlength hawake hleft
  rw [lockWord_performed] at hsettled
  obtain ⟨device', hexchange, hcore, hexecuted⟩ := Exchanged.ofResult_eq_ok hsettled
  refine ⟨device', ?_, ⟨hcore, hexecuted⟩⟩
  change exchange lockWordCommand 4 device = _ at hexchange
  change (exchange lockWordCommand 4 >>= _) device = _
  rw [bind_apply, hexchange]
  dsimp only
  rw [Bytes.ofList?_toList]
  rfl

theorem lockWord_unanswered (hawake : device.bus.awake = true) (hfaults : device.bus.faults = [])
    (hleft : device.retryBudget ≤ device.bus.stalls) :
    ∃ device', lockWord device = .error (.retryExhausted .read device.retryBudget) device' ∧ HasRead device device' := by
  have hlength : lockWordCommand.data.length ≤ maxCommandData := Nat.zero_le _
  obtain ⟨device', hexchange, hcore, hexecuted⟩ := exchange_unanswered hlength hawake hfaults hleft
  rw [lockWord_performed] at hcore
  refine ⟨device', ?_, ⟨hcore, hexecuted⟩⟩
  change exchange lockWordCommand 4 device = _ at hexchange
  change (exchange lockWordCommand 4 >>= _) device = _
  rw [bind_apply, hexchange]
  rfl

/-! ## A zone that stays locked -/

theorem isLocked_settled (zone : Zone) (hawake : device.bus.awake = true)
    (hleft : device.bus.faults.length + device.bus.stalls < device.retryBudget) :
    ∃ device', isLocked zone device = .ok (device.bus.memory.isClosed zone) device' ∧ HasRead device device' := by
  obtain ⟨device', hword, hread⟩ := lockWord_settled hawake hleft
  refine ⟨device', ?_, hread⟩
  rw [isLocked, bind_apply, hword, ← isLockByteClosed_lockByte]
  rfl

/-- Whatever disturbs the chip, the host does not take a locked zone for an open one. -/
theorem isLocked_eq_closed {locked : Bool} {device' : Device Chip} (h : isLocked zone device = .ok locked device') :
    locked = device.bus.memory.isClosed zone := by
  cases hawake : device.bus.awake with
  | true =>
    have hserves : Serves False device.bus.core device := ⟨hawake, rfl, False.elim⟩
    obtain ⟨_, _, hlocked, _⟩ := (isLocked_runs zone).of_ok hserves h
    exact hlocked
  | false =>
    have hasleep : Asleep device.bus.core device := ⟨hawake, rfl⟩
    have hruns : Runs (Asleep (σ := Chip)) (isLocked zone) device.bus.core (fun _ _ => False) fun _ _ => True :=
      Runs.bind_never (Runs.bind_never ((exchange_asleep_runs _ _).mono (fun _ _ h => h) fun _ _ _ => trivial))
    obtain ⟨_, _, hfalse⟩ := hruns.of_ok hasleep h
    exact hfalse.elim

/-- From now on the zone is locked, whatever reaches the chip, and so is every host told that gets an answer. -/
structure StaysLocked (zone : Zone) (chip : Chip) : Prop where
  closed : ∀ traffic, (chip.after traffic).memory.isClosed zone = true
  seen : ∀ traffic (host : Device Chip), host.bus = chip.after traffic →
    ∀ locked host', isLocked zone host = .ok locked host' → locked = true
  answered : ∀ traffic (host : Device Chip), host.bus = chip.after traffic → host.bus.awake = true →
    host.bus.faults.length + host.bus.stalls < host.retryBudget → ∃ host', isLocked zone host = .ok true host'

theorem StaysLocked.of_closed {chip : Chip}
    (h : ∀ traffic, (chip.after traffic).memory.isClosed zone = true) : StaysLocked zone chip where
  closed := h
  seen traffic host hbus locked host' hrun := by
    rw [isLocked_eq_closed hrun, hbus, h traffic]
  answered traffic host hbus hawake hleft := by
    obtain ⟨host', hrun, _⟩ := isLocked_settled zone hawake hleft
    rw [hbus, h traffic] at hrun
    exact ⟨host', hrun⟩

theorem staysLocked_close {chip : Chip} {memory : Memory} (h : memory.Lockable zone crc)
    (hmemory : chip.memory = memory.close zone) : StaysLocked zone chip := by
  obtain ⟨state, hstate⟩ := h.exists_lifecycle
  rw [← hmemory] at hstate
  refine .of_closed fun traffic => (Chip.after_onward hstate traffic).isClosed ?_
  rw [hmemory, Memory.isClosed_close]

/-! ## Locking -/

theorem lock_closed (crc : Option UInt16) (hawake : device.bus.awake = true)
    (hleft : device.bus.faults.length + device.bus.stalls < device.retryBudget)
    (hclosed : device.bus.memory.isClosed zone = true) :
    ∃ device', lock zone crc device = .error (.precondition (.zoneLocked zone)) device' ∧ HasRead device device' := by
  obtain ⟨device', hrun, hread⟩ := isLocked_settled zone hawake hleft
  refine ⟨device', ?_, hread⟩
  rw [lock, bind_apply, hrun, hclosed]
  rfl

theorem lock_unanswered (zone : Zone) (crc : Option UInt16) (hawake : device.bus.awake = true)
    (hfaults : device.bus.faults = []) (hleft : device.retryBudget ≤ device.bus.stalls) :
    ∃ device', lock zone crc device = .error (.retryExhausted .read device.retryBudget) device' ∧ HasRead device device' := by
  obtain ⟨device', hword, hread⟩ := lockWord_unanswered hawake hfaults hleft
  refine ⟨device', ?_, hread⟩
  rw [lock, bind_apply, isLocked, bind_apply, hword]

theorem lock_succeeds (hawake : device.bus.awake = true) (hcalm : device.Undisturbed device.retryBudget)
    (h : device.bus.memory.Lockable zone crc) :
    ∃ device', lock zone crc device = .ok () device' ∧
      device'.bus.memory = device.bus.memory.close zone := by
  have hserves : Serves True device.bus.core device := ⟨hawake, rfl, fun _ => hcalm⟩
  obtain ⟨_, device', _, hrun, hserves', rfl⟩ :=
    (lock_lockable_runs h).exists_ok hserves fun _ _ hcut => hcut.1 trivial
  exact ⟨device', hrun, congrArg Core.memory hserves'.core⟩

theorem lock_refused (hawake : device.bus.awake = true) (hcalm : device.Undisturbed device.retryBudget)
    (hopen : device.bus.memory.isClosed zone = false) (h : ¬ device.bus.memory.Lockable zone crc) :
    ∃ device', lock zone crc device = .error (.status .lock .executionError) device' ∧
      device'.bus.core = device.bus.core := by
  have hserves : Serves True device.bus.core device := ⟨hawake, rfl, fun _ => hcalm⟩
  have hruns : Runs (Serves (σ := Chip) True) (lock zone crc) device.bus.core (fun _ _ => False)
      (LockFails True device.bus.core zone crc) :=
    (lock_runs zone crc).mono (fun _ _ hl => h hl.1) fun _ _ hl => hl
  obtain ⟨error, device', l, hrun, hserves', hfails⟩ := hruns.exists_error hserves
  cases hfails with
  | closed hclosed => exact Bool.noConfusion (hopen.symm.trans hclosed)
  | refused _ _ => exact ⟨device', hrun, hserves'.core⟩
  | cut hcut => exact absurd trivial hcut.1

/-- Without faults, and while there are attempts left to wait for the chip, the host locks a zone exactly when that
is allowed, and says why when it is not. A lock changes one byte for good, and a failure none. -/
theorem lock_guarded (device : Device Chip) (zone : Zone) (crc : Option UInt16)
    (hawake : device.bus.awake = true) (hfaults : device.bus.faults = []) :
    let memory := device.bus.memory
    let ended := lock zone crc device
    (device.bus.stalls < device.retryBudget →
      ((∃ device', ended = .ok () device') ↔ memory.Lockable zone crc) ∧
      (memory.isClosed zone = true → ∃ device', ended = .error (.precondition (.zoneLocked zone)) device' ∧
        device'.bus.executed = device.bus.executed.push .read) ∧
      (memory.isClosed zone = false → ¬ memory.Lockable zone crc →
        ∃ device', ended = .error (.status .lock .executionError) device')) ∧
    (device.retryBudget ≤ device.bus.stalls →
      ∃ device', ended = .error (.retryExhausted .read device.retryBudget) device' ∧
        device'.bus.executed = device.bus.executed.push .read) ∧
    (∀ device', ended = .ok () device' →
      Memory.Closes zone memory device'.bus.memory ∧ StaysLocked zone device'.bus) ∧
    ∀ error device', ended = .error error device' → device'.bus.memory = memory := by
  intro memory ended
  by_cases hstalls : device.bus.stalls < device.retryBudget
  swap
  · -- the chip stays busy until the host gives up
    obtain ⟨device', hrun, hread⟩ := lock_unanswered zone crc hawake hfaults (Nat.le_of_not_lt hstalls)
    have hended : ended = .error (.retryExhausted .read device.retryBudget) device' := hrun
    rw [hended]
    refine ⟨fun h => absurd h hstalls, fun _ => ⟨device', rfl, hread.executed⟩, nofun, ?_⟩
    rintro _ _ ⟨⟩
    exact congrArg Core.memory hread.core
  have hcalm : device.Undisturbed device.retryBudget := ⟨rfl, hfaults, hstalls⟩
  have hready (h : device.retryBudget ≤ device.bus.stalls) : False := Nat.not_lt.2 h hstalls
  by_cases hlockable : memory.Lockable zone crc
  · obtain ⟨device', hrun, hmemory⟩ := lock_succeeds hawake hcalm hlockable
    have hended : ended = .ok () device' := hrun
    have hopen (h : memory.isClosed zone = true) : False := Bool.noConfusion (hlockable.opened.symm.trans h)
    rw [hended]
    refine ⟨fun _ => ⟨iff_of_true ⟨device', rfl⟩ hlockable, fun h => (hopen h).elim,
      fun _ h => absurd hlockable h⟩, fun h => (hready h).elim, ?_, ?_⟩
    · rintro _ ⟨⟩
      rw [hmemory]
      exact ⟨Memory.closes_close hlockable.opened, staysLocked_close hlockable hmemory⟩
    · rintro _ _ ⟨⟩
  cases hclosed : memory.isClosed zone with
  | true =>
    have hleft : device.bus.faults.length + device.bus.stalls < device.retryBudget := by
      rw [hfaults, List.length_nil, Nat.zero_add]
      exact hstalls
    obtain ⟨device', hrun, hread⟩ := lock_closed crc hawake hleft hclosed
    have hended : ended = .error (.precondition (.zoneLocked zone)) device' := hrun
    rw [hended]
    refine ⟨fun _ => ⟨iff_of_false nofun hlockable, fun _ => ⟨device', rfl, hread.executed⟩, nofun⟩,
      fun h => (hready h).elim, nofun, ?_⟩
    rintro _ _ ⟨⟩
    exact congrArg Core.memory hread.core
  | false =>
    obtain ⟨device', hrun, hcore⟩ := lock_refused hawake hcalm hclosed hlockable
    have hended : ended = .error (.status .lock .executionError) device' := hrun
    rw [hended]
    refine ⟨fun _ => ⟨iff_of_false nofun hlockable, nofun, fun _ _ => ⟨device', rfl⟩⟩,
      fun h => (hready h).elim, nofun, ?_⟩
    rintro _ _ ⟨⟩
    exact congrArg Core.memory hcore

/-- The Config zone of a new chip is locked under its checksum. -/
theorem lock_guarded_factory :
    let device : Device Chip := ofBus { awake := true }
    let sum := Crc16.compute Memory.factory.config.toList
    ∃ device', lock .config (some sum) device = .ok () device' ∧
      Memory.Closes .config Memory.factory device'.bus.memory ∧ StaysLocked .config device'.bus := by
  intro device sum
  have hlockable : device.bus.memory.Lockable .config (some sum) :=
    ⟨Memory.configLocked_factory, fun h => absurd rfl h, fun _ h => (Option.some.inj h).symm⟩
  obtain ⟨hends, _, hok, _⟩ := lock_guarded device .config (some sum) rfl rfl
  have hstalls : device.bus.stalls < device.retryBudget := by decide
  obtain ⟨device', hrun⟩ := (hends hstalls).1.2 hlockable
  exact ⟨device', hrun, hok device' hrun⟩

/-- A chip that stays busy for a whole budget of attempts is not locked, although no fault is due. -/
theorem lock_fails_busy :
    let chip : Chip := { awake := true, stalls := defaultRetryBudget }
    chip.faults = [] ∧ chip.memory.Lockable .config none ∧
      ¬ ∃ device', lock .config none (ofBus chip) = .ok () device' := by
  intro chip
  refine ⟨rfl, ⟨Memory.configLocked_factory, fun h => absurd rfl h, nofun⟩, ?_⟩
  rintro ⟨device', hrun⟩
  have hawake : (ofBus chip).bus.awake = true := rfl
  obtain ⟨failed, hfailed, _⟩ := lock_unanswered .config none hawake rfl (Nat.le_refl defaultRetryBudget)
  cases hfailed.symm.trans hrun

end Device

end SecureElement
