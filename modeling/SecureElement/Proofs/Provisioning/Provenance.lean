import SecureElement.Proofs.Chip.Provenance
import SecureElement.Proofs.Device.Hmac
import SecureElement.Proofs.Device.Mac
import SecureElement.Proofs.Provisioning.Reports
/-!
# What a host can rely on of TempKey

A host that keeps a record of all that happened to the chip can tell from it whether TempKey is there and who
chose it. Once a chip has been asleep, nothing that needs TempKey succeeds before the next Nonce; an HMAC, which
brings its own, is not held up by that.
-/

namespace SecureElement

/-! ## Chronicles -/

/-- A bus to a chip on a bench, and all that has happened to the chip. -/
structure Chronicled (σ : Type) where
  bus : σ
  /-- The oldest first. -/
  past : List Traffic := []

namespace Chronicled

variable {σ α : Type} [ChipBus σ]

def due (bus : σ) : List Traffic :=
  (ChipBus.bench bus).script.head?.toList.map .disturb

theorem after_due (bus : σ) : (ChipBus.bench bus).chip.after (due bus) = (ChipBus.bench bus).advance.chip := by
  unfold due
  generalize ChipBus.bench bus = bench
  obtain ⟨chip, _ | ⟨disturbance, script⟩⟩ := bench <;> rfl

def enter (access : Traffic) (action : EStateM BusError σ α) : EStateM BusError (Chronicled σ) α :=
  fun chronicled =>
    let past := chronicled.past ++ due chronicled.bus ++ [access]
    match action chronicled.bus with
    | .ok value bus => .ok value { bus, past }
    | .error error bus => .error error { bus, past }

theorem viewed_enter {τ : Type} (view : σ → τ) (access : Traffic) (action : EStateM BusError σ α)
    (chronicled : Chronicled σ) :
    viewed (fun chronicled => view chronicled.bus) (enter access action chronicled) =
      viewed view (action chronicled.bus) := by
  unfold enter
  cases action chronicled.bus <;> rfl

theorem past_enter (access : Traffic) (action : EStateM BusError σ α) (chronicled : Chronicled σ) :
    (finalState (enter access action chronicled)).past =
      chronicled.past ++ due chronicled.bus ++ [access] := by
  unfold enter
  cases action chronicled.bus <;> rfl

instance : ChipBus (Chronicled σ) where
  write bytes := enter (.write bytes) (Bus.write bytes)
  read len := enter (.read len) (Bus.read len)
  wait micros chronicled := { chronicled with bus := Bus.wait micros chronicled.bus }
  bench chronicled := ChipBus.bench chronicled.bus
  viewed_write _ _ := (viewed_enter ChipBus.bench _ _ _).trans (ChipBus.viewed_write _ _)
  viewed_read _ _ := (viewed_enter ChipBus.bench _ _ _).trans (ChipBus.viewed_read _ _)
  bench_wait micros chronicled := ChipBus.bench_wait micros chronicled.bus

end Chronicled

namespace Device

variable {σ : Type} [ChipBus σ]

def past (device : Device (Chronicled σ)) : List Traffic :=
  device.bus.past

/-- The chronicle tells how the chip has come from `first` to where it is. -/
def Faithful (first : Chip) (device : Device (Chronicled σ)) : Prop :=
  device.bench.chip = first.after device.past

variable {first : Chip} {device device' : Device (Chronicled σ)}

theorem Faithful.access {α : Type} (h : Faithful first device) {access : Traffic}
    {action : EStateM BusError σ α}
    (hchip : (finalState (onBus (Chronicled.enter access action) device)).bench.chip =
      device.bench.advance.chip.undergo access) :
    Faithful first (finalState (onBus (Chronicled.enter access action) device)) := by
  have hpast : (finalState (onBus (Chronicled.enter access action) device)).past =
      device.past ++ Chronicled.due device.bus.bus ++ [access] := by
    rw [past, bus_onBus, Chronicled.past_enter]
    rfl
  unfold Faithful
  rw [hchip, hpast, Chip.after_concat, Chip.after_append, ← h]
  exact congrArg (Chip.undergo · access) (Chronicled.after_due device.bus.bus).symm

theorem lockstep_faithful (first : Chip) :
    Lockstep fun device other : Device (Chronicled σ) => device = other ∧ Faithful first device := by
  apply lockstep_invariant
  · exact fun bytes device h => h.access (device.chip_write bytes)
  · exact fun len device h => h.access (device.chip_read len)
  · intro micros device h
    exact (congrArg Bench.chip (ChipBus.bench_wait micros device.bus)).trans h
  · exact fun _ _ _ h => h

/-- The host acts on a device through an operation, or anyone through the bare bus. -/
inductive Acts : Device σ → Device σ → Prop where
  | performs {device device' : Device σ} (h : Performs device device') : Acts device device'
  | writes (bytes : List UInt8) (device : Device σ) : Acts device (finalState (onBus (Bus.write bytes) device))
  | reads (len : Nat) (device : Device σ) : Acts device (finalState (onBus (Bus.read len) device))

theorem Faithful.acts (h : Faithful first device) (hstep : Acts device device') : Faithful first device' := by
  cases hstep with
  | performs hperforms =>
    refine hperforms.invariant (lockstep_faithful first) (fun device h => ?_) h
    exact ((lockstep_faithful first).reads.lifecycle fun _ _ _ h => ⟨by rw [h.1], h.2⟩).finalState h
  | writes bytes _ => exact h.access (device.chip_write bytes)
  | reads len _ => exact h.access (device.chip_read len)

theorem Faithful.reflTransGen (h : Faithful first device) (hrun : Relation.ReflTransGen Acts device device') :
    Faithful first device' := by
  induction hrun with
  | refl => exact h
  | tail _ hstep ih => exact ih.acts hstep

/-! ## Operations over TempKey -/

section Declined

variable {τ α β : Type} [ChipBus τ] {device : Device τ} {slot : UInt8}

/-- The operation ends with a refusal of the chip, unless its attempts run out, which takes a disturbance. -/
def Declined (op : DeviceM τ α) (opcode : Opcode) (device : Device τ) : Prop :=
  ∃ error device', op device = .error error device' ∧ (error = .status opcode .executionError ∨
    (error.IsExhausted ∧ ¬ device.Undisturbed device.retryBudget))

theorem Declined.bind {op : DeviceM τ α} {opcode : Opcode} (h : Declined op opcode device)
    (f : α → DeviceM τ β) : Declined (op >>= f) opcode device := by
  obtain ⟨error, device', hrun, herror⟩ := h
  exact ⟨error, device', by rw [bind_apply, hrun], herror⟩

theorem exchange_declined {command : Command} (expected : Nat) (hawake : device.bench.chip.awake = true)
    (hlength : command.data.length ≤ maxCommandData)
    (hperforms : command.Performs device.bench.chip.core (.error .executionError) device.bench.chip.core) :
    Declined (exchange command expected) command.opcode device := by
  have hserves : Serves (device.Undisturbed device.retryBudget) device.bench.chip.core device :=
    ⟨hawake, rfl, fun hcalm => hcalm⟩
  have hruns := exchange_runs hlength hperforms (command.outcome?_refused expected (.inl rfl)) device hserves
  cases hrun : exchange command expected device with
  | ok payload device' =>
    rw [hrun] at hruns
    obtain ⟨_, _, hpayload, _⟩ := hruns
    cases hpayload
  | error error device' =>
    rw [hrun] at hruns
    obtain ⟨_, _, ⟨houtcome, _⟩ | ⟨hdisturbed, ⟨n, rfl⟩, _⟩⟩ := hruns
    · exact ⟨error, device', hrun, .inl (Except.error.inj houtcome).symm⟩
    · exact ⟨_, device', hrun, .inr ⟨⟨_, n, rfl⟩, hdisturbed⟩⟩

theorem genDigest_declined (hawake : device.bench.chip.awake = true)
    (hnone : device.bench.chip.tempKey = none) (hslot : slot.toNat < 16) :
    Declined (genDigest .data slot) .genDig device := by
  unfold genDigest
  rw [if_pos rfl, checkKeySlot_eq hslot]
  exact (exchange_declined 1 hawake (Nat.zero_le _) (Chip.performs_genDig_refused hslot hnone)).bind _

theorem mac_declined {mode : MacMode} {challenge : List UInt8} (hawake : device.bench.chip.awake = true)
    (hnone : device.bench.chip.tempKey = none) (hused : (mode.firstTempKey || mode.secondTempKey) = true)
    (hslot : slot.toNat < 16) (hchallenge : mode.needsChallenge = true → challenge.length = 32) :
    Declined (mac mode slot challenge) .mac device := by
  have htemp : device.bench.chip.core.tempBlock (mode.firstTempKey || mode.secondTempKey) mode.sourceFlag =
      none := by
    have hcore : device.bench.chip.core.tempKey = none := hnone
    rw [Core.tempBlock, if_pos hused, hcore]
    rfl
  obtain ⟨hlength, hneeds⟩ := length_macInput hchallenge
  rw [mac_eq hslot hchallenge]
  exact ((exchange_declined 32 hawake hlength (Chip.performs_mac_refused hslot hneeds (.inr htemp))).bind _).bind _

theorem hmac_not_refused (hawake : device.bench.chip.awake = true) (hslot : slot.toNat < 16)
    (hpolicy : (device.bench.chip.memory.slotConfig ⟨slot.toNat, hslot⟩).checkOnly = false) (challenge : Block)
    (key : Option (List UInt8)) (opcode : Opcode) (status : Status) (device' : Device τ) :
    hmac slot challenge.toList key device ≠ .error (.status opcode status) device' := by
  have hproper (key : Option Block) :
      hmac slot challenge.toList (key.map Vector.toList) device ≠ .error (.status opcode status) device' := by
    intro hrun
    have hruns := hmac_runs (k := device.bench.chip.core) hslot hpolicy challenge key device
      ⟨hawake, rfl, False.elim⟩
    rw [hrun] at hruns
    obtain ⟨_, _, _, hstatus, _⟩ := hruns
    cases hstatus
  cases key with
  | none => exact hproper none
  | some key =>
    by_cases hkey : key.length = 32
    · obtain ⟨key, rfl⟩ := Bytes.exists_toList hkey
      exact hproper (some key)
    · have hnone := hproper none
      rw [hmac_key_length hkey]
      intro hrun
      rw [Option.map_none] at hnone
      cases hplain : hmac slot challenge.toList none device with
      | ok _ _ =>
        rw [hplain] at hrun
        cases hrun
      | error error device'' =>
        rw [hplain] at hrun hnone
        exact hnone hrun

end Declined

/-- TempKey follows from the past of a chip that had none to begin with. It is there exactly if a Nonce has
succeeded since the chip was last put to sleep and since it last took an encrypted write in hand, and its source
flag is that of the last Nonce. The words that wake a chip or make it idle keep it, and GenDig keeps the flag. So
while no Nonce has succeeded since the chip was asleep, GenDig and every MAC over TempKey are declined. An HMAC is
never declined for that. -/
theorem tempKey_follows_past {first : Chip} (hnew : first.tempKey = none)
    {start device : Device (Chronicled σ)} (hchip : start.bench.chip = first) (hpast : start.past = [])
    (hrun : Relation.ReflTransGen Acts start device) :
    let chip := device.bench.chip
    let past := device.past
    let loads (chip : Chip) (next : Traffic) : Prop := ∃ source, chip.Loads next source
    chip = first.after past ∧
    (chip.tempKey.isSome ↔ first.Since past loads Chip.Drops) ∧
    (∀ source, chip.tempKey.map TempKey.source = some source ↔
      first.Since past (fun chip next => chip.Loads next source) fun chip next =>
        chip.Drops next ∨ loads chip next) ∧
    (∀ address rest, address ≠ 0x01 → address ≠ 0x03 →
      (chip.undergo (.write (address :: rest))).tempKey = chip.tempKey) ∧
    (∀ next command, chip.Completes next command → command.opcode = .genDig →
      ∃ slot key, Chip.slotOfParam? (command.param2.byte 0) = some slot ∧ chip.tempKey = some key ∧
        (chip.undergo next).tempKey = some (command.mix chip.memory slot key) ∧
        (command.mix chip.memory slot key).source = key.source) ∧
    (first.Since past (fun _ next => next.Sleeps) loads → chip.awake = true →
      (∀ slot, slot.toNat < 16 → Declined (genDigest .data slot) .genDig device) ∧
      ∀ mode slot challenge, (mode.firstTempKey || mode.secondTempKey) = true → slot.toNat < 16 →
        (mode.needsChallenge = true → challenge.length = 32) → Declined (mac mode slot challenge) .mac device) ∧
    (chip.awake = true → ∀ (slot : UInt8) (hslot : slot.toNat < 16) (challenge : Block),
      (chip.memory.slotConfig ⟨slot.toNat, hslot⟩).checkOnly = false →
      (∀ key opcode status device',
        hmac slot challenge.toList key device ≠ .error (.status opcode status) device') ∧
      (device.Undisturbed device.retryBudget → ∀ key : Option Block,
        ∃ result device', hmac slot challenge.toList (key.map Vector.toList) device = .ok result device')) := by
  intro chip past loads
  have hstart : Faithful first start := by
    unfold Faithful
    rw [hchip, hpast]
    rfl
  have hfaithful : chip = first.after past := hstart.reflTransGen hrun
  refine ⟨hfaithful, ?_, ?_, ?_, ?_, ?_, ?_⟩
  · rw [hfaithful]
    exact Chip.isSome_tempKey_after hnew past
  · intro source
    rw [hfaithful]
    exact Chip.source_after hnew past source
  · intro address rest hsleep hcommand
    exact congrArg Core.tempKey (chip.core_receive_pulse rest hsleep hcommand)
  · intro next command hcompletes hopcode
    obtain ⟨slot, key, hslot, hkey, hmixed⟩ := hcompletes.mixes hopcode
    exact ⟨slot, key, hslot, hkey, hmixed, rfl⟩
  · intro hslept hawake
    have hnone : chip.tempKey = none := by
      rw [hfaithful]
      exact Chip.tempKey_after_sleep past hslept
    refine ⟨fun slot hslot => genDigest_declined hawake hnone hslot, ?_⟩
    exact fun mode slot challenge hused hslot hchallenge => mac_declined hawake hnone hused hslot hchallenge
  · intro hawake slot hslot challenge hpolicy
    refine ⟨hmac_not_refused hawake hslot hpolicy challenge, fun hcalm key => ?_⟩
    obtain ⟨result, device', _, hok, _⟩ := (hmac_runs (k := chip.core) hslot hpolicy challenge key).exists_ok
      ⟨hawake, rfl, fun _ => hcalm⟩ fun _ _ hcut => hcut.1 trivial
    exact ⟨result, device', hok⟩

/-- A new chip takes a value in through a disturbed Nonce and keeps it while it is idle. Once it has been put to
sleep and woken, there is nothing left to mix a slot into. -/
theorem tempKey_follows_past_asleep :
    let script : List Disturbance := [{}, {}, { faults := [.badCrc] }]
    let start : Device (Chronicled Bench) := ofBus { bus := { chip := {}, script } }
    let given := finalState (nonce (Bytes.zero 32).toList (finalState (wake start)))
    let kept := finalState (wake (finalState (idle given)))
    let lost := finalState (wake (finalState (sleep kept)))
    let first : Chip := {}
    first.Since kept.past (fun chip next => chip.Loads next true) (fun chip next =>
      chip.Drops next ∨ ∃ source, chip.Loads next source) ∧
    lost.bench.chip.awake = true ∧ Declined (genDigest .data 1) .genDig lost := by
  intro script start given kept lost first
  have hnew : first.tempKey = none := rfl
  have hkept : Relation.ReflTransGen Acts start kept :=
    .tail (.tail (.tail (.tail .refl (.performs (.operation .wake _))) (.performs (.operation (.nonce _) _)))
      (.performs (.operation .idle _))) (.performs (.operation .wake _))
  have hlost : Relation.ReflTransGen Acts start lost :=
    .tail (.tail hkept (.performs (.operation .sleep _))) (.performs (.operation .wake _))
  have hsource : kept.bench.chip.tempKey.map TempKey.source = some true := by
    decide +kernel
  have hawake : lost.bench.chip.awake = true := by
    decide +kernel
  have hpast : lost.past = kept.past ++ [.write [0x01]] ++ [.write [0, 0, 0, 0]] ++ [.read 4] := by
    decide +kernel
  have hslept : first.Since lost.past (fun _ next => next.Sleeps) fun chip next =>
      ∃ source, chip.Loads next source := by
    rw [hpast, Chip.since_concat, Chip.since_concat, Chip.since_concat]
    refine .inr ⟨.inr ⟨.inl ⟨[], rfl⟩, ?_⟩, ?_⟩
    · rintro ⟨source, hloads⟩
      obtain ⟨frame, hframe⟩ := hloads.exists_frame
      simp at hframe
    · rintro ⟨source, hloads⟩
      obtain ⟨frame, hframe⟩ := hloads.exists_frame
      cases hframe
  have hkeeps := tempKey_follows_past hnew rfl rfl hkept
  have hloses := tempKey_follows_past hnew rfl rfl hlost
  exact ⟨(hkeeps.2.2.1 true).1 hsource, hawake, (hloses.2.2.2.2.2.1 hslept hawake).1 1 (by decide)⟩

end Device

end SecureElement
