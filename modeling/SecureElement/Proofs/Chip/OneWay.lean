import SecureElement.Proofs.Chip.Effects
/-!
# A chip only moves forward

Anything may be written to a chip, read from it or done to it on the bench, in any order. A closed lock stays
closed through all of it, and what a lock protects stays as it was when the lock was closed.
-/

namespace SecureElement

namespace Lifecycle

theorem rank_injective : Function.Injective rank := by
  intro a b h
  revert h
  cases a <;> cases b <;> decide

instance : LinearOrder Lifecycle :=
  LinearOrder.lift' rank rank_injective

end Lifecycle

namespace Memory

variable {a b c m : Memory} {state : Lifecycle}

theorem locks_of_lifecycle (h : Lifecycle.ofLockWord m.lockWord = .ok state) :
    m.configLocked = decide (.initialized ≤ state) ∧ m.dataLocked = decide (.personalized ≤ state) := by
  rw [ofLockWord_lockWord] at h
  exact Lifecycle.ofLocks_eq_ok_iff.1 h

theorem configLocked_of_dataLocked (h : Lifecycle.ofLockWord m.lockWord = .ok state)
    (hdata : m.dataLocked = true) : m.configLocked = true := by
  obtain ⟨hconfig, hpersonalized⟩ := locks_of_lifecycle h
  have hle : .personalized ≤ state := by simpa [hdata] using hpersonalized
  rw [hconfig]
  exact decide_eq_true (le_trans (by decide) hle)

theorem lifecycle_of_locks_eq (h : Lifecycle.ofLockWord a.lockWord = .ok state)
    (hconfig : b.configLocked = a.configLocked) (hdata : b.dataLocked = a.dataLocked) :
    Lifecycle.ofLockWord b.lockWord = .ok state := by
  rw [ofLockWord_lockWord, hconfig, hdata, ← ofLockWord_lockWord, h]

theorem lifecycle_factory : Lifecycle.ofLockWord factory.lockWord = .ok .factory := by
  rw [ofLockWord_lockWord, configLocked_factory, dataLocked_factory]
  rfl

/-- What is settled for good in memory `a` is still there in memory `b`. -/
structure Onward (a b : Memory) : Prop where
  /-- The locks never contradict each other, and the state that they tell does not fall back. -/
  lifecycle : ∃ state state', Lifecycle.ofLockWord a.lockWord = .ok state ∧
    Lifecycle.ofLockWord b.lockWord = .ok state' ∧ state ≤ state'
  /-- The serial number and the revision, which are in the first four words. -/
  identity : ∀ i < 16, b.config.byte i = a.config.byte i
  /-- Once the Config zone is locked, nothing in it changes but the other lock byte. -/
  config : a.configLocked = true → ∀ i ≠ 86, b.config.byte i = a.config.byte i
  otp : a.dataLocked = true → b.otp = a.otp
  never : a.dataLocked = true → ∀ slot, (a.slotConfig slot).writePolicy = .never → b.key slot = a.key slot

namespace Onward

theorem refl (h : Lifecycle.ofLockWord m.lockWord = .ok state) : Onward m m :=
  ⟨⟨state, state, h, h, le_rfl⟩, fun _ _ => rfl, fun _ _ _ => rfl, fun _ => rfl, fun _ _ _ => rfl⟩

theorem configLocked (h : Onward a b) (hlocked : a.configLocked = true) : b.configLocked = true := by
  obtain ⟨state, state', ha, hb, hle⟩ := h.lifecycle
  have hstate : .initialized ≤ state := by simpa [hlocked] using (locks_of_lifecycle ha).1
  rw [(locks_of_lifecycle hb).1]
  exact decide_eq_true (le_trans hstate hle)

theorem dataLocked (h : Onward a b) (hlocked : a.dataLocked = true) : b.dataLocked = true := by
  obtain ⟨state, state', ha, hb, hle⟩ := h.lifecycle
  have hstate : .personalized ≤ state := by simpa [hlocked] using (locks_of_lifecycle ha).2
  rw [(locks_of_lifecycle hb).2]
  exact decide_eq_true (le_trans hstate hle)

theorem slotConfig (h : Onward a b) (hlocked : a.configLocked = true) (slot : Fin 16) :
    b.slotConfig slot = a.slotConfig slot := by
  have hslice : b.config.slice (20 + 2 * slot.val) 2 = a.config.slice (20 + 2 * slot.val) 2 := by
    apply Vector.ext
    intro i hi
    rw [Bytes.getElem_slice, Bytes.getElem_slice]
    exact h.config hlocked _ (by omega)
  unfold Memory.slotConfig
  rw [hslice]

theorem trans (hab : Onward a b) (hbc : Onward b c) : Onward a c where
  lifecycle := by
    obtain ⟨state, middle, ha, hb, hle⟩ := hab.lifecycle
    obtain ⟨middle', state', hb', hc, hle'⟩ := hbc.lifecycle
    rw [hb] at hb'
    cases hb'
    exact ⟨state, state', ha, hc, le_trans hle hle'⟩
  identity i hi := (hbc.identity i hi).trans (hab.identity i hi)
  config hlocked i hi := (hbc.config (hab.configLocked hlocked) i hi).trans (hab.config hlocked i hi)
  otp hlocked := (hbc.otp (hab.dataLocked hlocked)).trans (hab.otp hlocked)
  never hlocked slot hnever := by
    obtain ⟨state, _, ha, _⟩ := hab.lifecycle
    have hpolicy := hab.slotConfig (configLocked_of_dataLocked ha hlocked) slot
    have hkeep := hbc.never (hab.dataLocked hlocked) slot (by rw [hpolicy, hnever])
    exact hkeep.trans (hab.never hlocked slot hnever)

/-! ## The ways in which a memory changes -/

variable (hstate : Lifecycle.ofLockWord a.lockWord = .ok state)
include hstate

theorem of_config_eq (hconfig : b.config = a.config) (hotp : a.dataLocked = true → b.otp = a.otp)
    (hnever : a.dataLocked = true → ∀ slot, (a.slotConfig slot).writePolicy = .never → b.key slot = a.key slot) :
    Onward a b where
  lifecycle :=
    ⟨state, state, hstate,
      lifecycle_of_locks_eq hstate (configLocked_congr hconfig) (dataLocked_congr hconfig), Nat.le_refl _⟩
  identity _ _ := by rw [hconfig]
  config _ _ _ := by rw [hconfig]
  otp := hotp
  never := hnever

theorem writeConfig (hopen : a.configLocked = false) {start : Nat} {bytes : List UInt8} (hlow : 16 ≤ start)
    (hhigh : start + bytes.length ≤ 84) : Onward a (a.writeConfig start bytes) where
  lifecycle := by
    have hdata : (a.writeConfig start bytes).dataLocked = a.dataLocked := by
      unfold Memory.dataLocked Memory.writeConfig
      rw [Bytes.byte_overwrite_of_le _ (by omega)]
    have hstate' := lifecycle_of_locks_eq hstate (a.configLocked_writeConfig (by omega)) hdata
    exact ⟨state, state, hstate, hstate', Nat.le_refl _⟩
  identity i hi := Bytes.byte_overwrite_of_lt _ _ (by omega)
  config hlocked := by
    rw [hopen] at hlocked
    cases hlocked
  otp _ := a.writeConfig_otp start bytes
  never _ slot _ := key_congr (a.writeConfig_data start bytes) slot

theorem writeOtp (hopen : a.dataLocked = false) (start : Nat) (bytes : List UInt8) :
    Onward a (a.writeOtp start bytes) := by
  apply of_config_eq hstate (a.writeOtp_config start bytes)
  · intro hlocked
    rw [hopen] at hlocked
    cases hlocked
  · exact fun _ slot _ => key_congr (a.writeOtp_data start bytes) slot

theorem writeSlot {slot : Fin 16} (key : Block)
    (hpolicy : a.dataLocked = true → (a.slotConfig slot).writePolicy ≠ .never) :
    Onward a (a.writeSlot slot key) := by
  apply of_config_eq hstate (a.writeSlot_config slot key) fun _ => a.writeSlot_otp slot key
  intro hlocked other hnever
  apply key_writeSlot_of_ne
  rintro rfl
  exact hpolicy hlocked hnever

theorem lockConfig (hopen : a.configLocked = false) : Onward a a.lockConfig where
  lifecycle := by
    obtain ⟨hconfig, hdata⟩ := locks_of_lifecycle hstate
    obtain rfl : state = .factory := by
      rw [hopen] at hconfig
      revert hconfig
      cases state <;> decide
    have hstate' : Lifecycle.ofLockWord a.lockConfig.lockWord = .ok .initialized := by
      rw [ofLockWord_lockWord, configLocked_lockConfig, dataLocked_lockConfig, hdata]
      rfl
    exact ⟨_, _, hstate, hstate', by decide⟩
  identity i hi := Bytes.byte_overwrite_singleton _ _ (by omega)
  config hlocked := by
    rw [hopen] at hlocked
    cases hlocked
  otp _ := a.writeConfig_otp 87 [0x00]
  never _ slot _ := key_congr (a.writeConfig_data 87 [0x00]) slot

theorem lockData (hlocked : a.configLocked = true) : Onward a a.lockData where
  lifecycle := by
    have hstate' : Lifecycle.ofLockWord a.lockData.lockWord = .ok .personalized := by
      rw [ofLockWord_lockWord, configLocked_lockData, dataLocked_lockData, hlocked]
      rfl
    have hle : state ≤ .personalized := by
      cases state <;> decide
    exact ⟨_, _, hstate, hstate', hle⟩
  identity i hi := Bytes.byte_overwrite_singleton _ _ (by omega)
  config _ i hi := Bytes.byte_overwrite_singleton _ _ hi
  otp _ := a.lockData_otp
  never _ slot _ := key_congr a.lockData_data slot

end Onward

end Memory

namespace Command.Changes

variable {command : Command} {k : Core} {memory : Memory}

theorem onward {state : Lifecycle} (h : command.Changes k memory)
    (hstate : Lifecycle.ofLockWord k.memory.lockWord = .ok state) : k.memory.Onward memory := by
  cases h with
  | nothing => exact .refl hstate
  | config hopen hlow hhigh => exact .writeConfig hstate hopen hlow hhigh
  | otp _ hopen => exact .writeOtp hstate hopen _ _
  | slot _ hpolicy =>
    apply Memory.Onward.writeSlot hstate
    intro hlocked
    rw [hpolicy hlocked]
    decide
  | encrypted _ _ hpolicy _ _ => exact .writeSlot hstate _ fun _ => hpolicy
  | lockConfig hopen => exact .lockConfig hstate hopen
  | lockData hconfig _ => exact .lockData hstate hconfig

/-- On a locked chip, a slot that demands encryption takes nothing but an authenticated key. -/
theorem authenticates (h : command.Changes k memory) (hlocked : k.memory.dataLocked = true) {slot : Fin 16}
    (hpolicy : (k.memory.slotConfig slot).writePolicy = .encrypt)
    (hkey : memory.key slot ≠ k.memory.key slot) :
    ∃ tempKey, k.tempKey = some tempKey ∧ command.Authenticates tempKey.value slot (memory.key slot) := by
  cases h with
  | nothing => exact absurd rfl hkey
  | config _ _ _ => exact absurd (Memory.key_congr (Memory.writeConfig_data _ _ _) slot) hkey
  | otp _ _ => exact absurd (Memory.key_congr (Memory.writeOtp_data _ _ _) slot) hkey
  | lockConfig _ => exact absurd (Memory.key_congr (Memory.writeConfig_data _ _ _) slot) hkey
  | lockData _ _ => exact absurd (Memory.key_congr (Memory.lockData_data _) slot) hkey
  | @slot written _ _ halways =>
    have hslot : slot = written := by
      by_contra hother
      exact hkey (k.memory.key_writeSlot_of_ne _ hother)
    rw [hslot, halways hlocked] at hpolicy
    cases hpolicy
  | @encrypted written tempKey plain _ _ _ htemp hwrite =>
    have hslot : slot = written := by
      by_contra hother
      exact hkey (k.memory.key_writeSlot_of_ne _ hother)
    rw [hslot, Memory.key_writeSlot]
    exact ⟨tempKey, htemp, hwrite⟩

end Command.Changes

/-! ## Traffic -/

inductive Traffic where
  | write (bytes : List UInt8)
  | read (len : Nat)
  | disturb (disturbance : Disturbance)
  deriving DecidableEq, Repr

/-- The word that puts a chip to sleep, whatever follows it. -/
def Traffic.Sleeps (next : Traffic) : Prop :=
  ∃ rest, next = .write (0x01 :: rest)

namespace Chip

def undergo (chip : Chip) : Traffic → Chip
  | .write bytes => chip.receive bytes
  | .read len => finalState (send len chip)
  | .disturb disturbance => chip.disturb disturbance

def after (chip : Chip) (traffic : List Traffic) : Chip :=
  traffic.foldl undergo chip

theorem after_append (chip : Chip) (traffic later : List Traffic) :
    chip.after (traffic ++ later) = (chip.after traffic).after later :=
  List.foldl_append

/-- The command reaches the chip undamaged and is run. -/
structure Executes (chip : Chip) (next : Traffic) (command : Command) : Prop where
  awake : chip.awake = true
  faults : chip.faults = []
  frame : ∃ frame, next = .write (0x03 :: frame) ∧ Command.ofFrame frame = .ok command

/-- What traffic can make of what commands act on. -/
inductive Affects (chip : Chip) (next : Traffic) : Core → Prop where
  | nothing (hsleeps : ¬ next.Sleeps) (hexecutes : ∀ command, ¬ chip.Executes next command) :
      Affects chip next chip.core
  | sleep (hsleeps : next.Sleeps) : Affects chip next { chip.core with tempKey := none }
  | run {command : Command} (hexecutes : chip.Executes next command) :
      Affects chip next (finalState (run command chip)).core

theorem core_answer {chip : Chip} {frame : List UInt8} {command : Command} (hfaults : chip.faults = [])
    (hframe : Command.ofFrame frame = .ok command) :
    (chip.answer frame).2.core = (finalState (run command chip)).core := by
  let entered : Chip := { chip with faults := [], executed := chip.executed.push command.opcode }
  have hcore : (chip.answer frame).2.core = (finalState (run command entered)).core := by
    unfold answer
    rw [hfaults]
    dsimp only
    rw [hframe]
    dsimp only
    cases run command entered with
    | error status chip' => rfl
    | ok payload chip' => cases payload <;> rfl
  exact hcore.trans (core_run_congr command rfl)

theorem core_answer_of_not {chip : Chip} {frame : List UInt8}
    (h : ∀ command, chip.faults = [] → Command.ofFrame frame ≠ .ok command) :
    (chip.answer frame).2.core = chip.core := by
  unfold answer
  split
  · rfl
  · rfl
  · next hfaults =>
    cases hframe : Command.ofFrame frame with
    | error status => rfl
    | ok command => exact absurd hframe (h command hfaults)

theorem core_undergo_frame {chip : Chip} (hawake : chip.awake = true) (frame : List UInt8) :
    (chip.undergo (.write (0x03 :: frame))).core =
      ({ chip with frames := chip.frames + 1 }.answer frame).2.core := by
  simp [undergo, receive, hawake, core]

theorem Executes.core_undergo {chip : Chip} {next : Traffic} {command : Command}
    (h : chip.Executes next command) : (chip.undergo next).core = (finalState (run command chip)).core := by
  obtain ⟨frame, rfl, hframe⟩ := h.frame
  have hfaults : { chip with frames := chip.frames + 1 }.faults = [] := h.faults
  rw [core_undergo_frame h.awake, core_answer hfaults hframe]
  exact core_run_congr command rfl

theorem core_undergo_of_idle {chip : Chip} {next : Traffic} (hsleeps : ¬ next.Sleeps)
    (hexecutes : ∀ command, ¬ chip.Executes next command) : (chip.undergo next).core = chip.core := by
  cases next with
  | disturb disturbance => rfl
  | read len => exact core_send len chip
  | write bytes =>
    cases bytes with
    | nil => rfl
    | cons address frame =>
      have hsleep : address ≠ 0x01 := by
        rintro rfl
        exact hsleeps ⟨frame, rfl⟩
      by_cases hcommand : address = 0x03
      swap
      · exact chip.core_receive_pulse frame hsleep hcommand
      subst hcommand
      cases hawake : chip.awake with
      | false => simp [undergo, receive, hawake, core]
      | true =>
        rw [core_undergo_frame hawake]
        refine core_answer_of_not fun command hfaults hframe => ?_
        exact hexecutes command ⟨hawake, hfaults, frame, rfl, hframe⟩

theorem undergo_affects (chip : Chip) (next : Traffic) : chip.Affects next (chip.undergo next).core := by
  by_cases hexecutes : ∃ command, chip.Executes next command
  · obtain ⟨command, hexecutes⟩ := hexecutes
    rw [hexecutes.core_undergo]
    exact .run hexecutes
  have hnever (command : Command) : ¬ chip.Executes next command := fun h => hexecutes ⟨command, h⟩
  by_cases hsleeps : next.Sleeps
  · have hcore : (chip.undergo next).core = { chip.core with tempKey := none } := by
      obtain ⟨rest, rfl⟩ := hsleeps
      rfl
    rw [hcore]
    exact .sleep hsleeps
  · rw [core_undergo_of_idle hsleeps hnever]
    exact .nothing hsleeps hnever

/-- Nothing but a command that is run gets at the memory. -/
theorem undergo_memory (chip : Chip) (next : Traffic) :
    (chip.undergo next).memory = chip.memory ∨
    ∃ command, chip.Executes next command ∧ command.Changes chip.core (chip.undergo next).memory := by
  have hmemory : (chip.undergo next).core.memory = (chip.undergo next).memory := rfl
  rw [← hmemory]
  have haffects := chip.undergo_affects next
  generalize (chip.undergo next).core = after at haffects
  cases haffects with
  | nothing _ _ => exact .inl rfl
  | sleep _ => exact .inl rfl
  | @run command hexecutes =>
    have hruns := run_runs (k := chip.core) command chip rfl
    cases hrun : run command chip with
    | error status chip' =>
      rw [hrun] at hruns
      obtain ⟨_, rfl, _, hsame⟩ := hruns
      exact .inl hsame
    | ok payload chip' =>
      rw [hrun] at hruns
      obtain ⟨_, rfl, _, hchanges⟩ := hruns
      exact .inr ⟨command, hexecutes, hchanges⟩

theorem undergo_onward {chip : Chip} {state : Lifecycle}
    (hstate : Lifecycle.ofLockWord chip.memory.lockWord = .ok state) (next : Traffic) :
    chip.memory.Onward (chip.undergo next).memory := by
  rcases chip.undergo_memory next with hsame | ⟨command, _, hchanges⟩
  · rw [hsame]
    exact .refl hstate
  · exact hchanges.onward hstate

/-- By induction on the traffic; each step leaves locks that do not contradict each other to the next. -/
theorem after_onward {chip : Chip} {state : Lifecycle}
    (hstate : Lifecycle.ofLockWord chip.memory.lockWord = .ok state) (traffic : List Traffic) :
    chip.memory.Onward (chip.after traffic).memory := by
  induction traffic generalizing chip state with
  | nil => exact .refl hstate
  | cons next traffic ih =>
    have hstep := undergo_onward hstate next
    obtain ⟨_, state', _, hstate', _⟩ := hstep.lifecycle
    exact hstep.trans (ih hstate')

/-- The command rewrites a slot that demands encryption: TempKey is loaded, and under it the command brings the
new key authenticated. -/
structure Rekeys (chip : Chip) (next : Traffic) (slot : Fin 16) (command : Command) : Prop where
  executes : chip.Executes next command
  authenticates : ∃ tempKey, chip.tempKey = some tempKey ∧
    command.Authenticates tempKey.value slot ((chip.undergo next).memory.key slot)

theorem exists_rekeys {chip : Chip} {next : Traffic} {slot : Fin 16} (hlocked : chip.memory.dataLocked = true)
    (hpolicy : (chip.memory.slotConfig slot).writePolicy = .encrypt)
    (hkey : (chip.undergo next).memory.key slot ≠ chip.memory.key slot) :
    ∃ command, chip.Rekeys next slot command := by
  rcases chip.undergo_memory next with hsame | ⟨command, hexecutes, hchanges⟩
  · rw [hsame] at hkey
    exact absurd rfl hkey
  · exact ⟨command, hexecutes, hchanges.authenticates hlocked hpolicy hkey⟩

end Chip

end SecureElement
