import SecureElement.Bus.Script
import SecureElement.Proofs.Device.Conversation
import SecureElement.Proofs.Provisioning.Lockstep
/-!
# Lock frames

A Lock cannot be undone, so a provisioning run sends one only after everything that the lock makes final has been
done and acknowledged. This holds on every bus, whatever the answers are.
-/

namespace SecureElement

/-! ## Reasons for Lock frames -/

/-- Every Lock frame of the trace has a reason in what passed before it. -/
def Guarded (reason : List Access → UInt8 → Bytes 2 → Prop) (trace : List Access) : Prop :=
  ∀ pre access post param1 param2, trace = pre ++ access :: post →
    access.lockFrame? = some (param1, param2) → reason pre param1 param2

namespace Guarded

variable {reason reason' : List Access → UInt8 → Bytes 2 → Prop} {trace trace' : List Access}

theorem of_quiet (h : Quiet trace) : Guarded reason trace := by
  intro pre access post param1 param2 htrace hlock
  have hmem : access ∈ trace := by
    rw [htrace]
    exact List.mem_append_right pre List.mem_cons_self
  rw [h access hmem] at hlock
  cases hlock

theorem mono (h : Guarded reason trace)
    (hreason : ∀ pre param1 param2, reason pre param1 param2 → reason' pre param1 param2) :
    Guarded reason' trace :=
  fun pre access post param1 param2 htrace hlock =>
    hreason pre param1 param2 (h pre access post param1 param2 htrace hlock)

theorem append (h : Guarded reason trace) (h' : Guarded (fun pre => reason (trace ++ pre)) trace') :
    Guarded reason (trace ++ trace') := by
  intro pre access post param1 param2 htrace hlock
  rcases List.append_eq_append_iff.1 htrace with ⟨later, rfl, hlater⟩ | ⟨rest, hfirst, hrest⟩
  · exact h' later access post param1 param2 hlater hlock
  · cases rest with
    | nil =>
      rw [List.append_nil] at hfirst
      have hreason : reason (trace ++ []) param1 param2 := h' [] access post param1 param2 hrest.symm hlock
      rwa [List.append_nil, hfirst] at hreason
    | cons first rest =>
      obtain ⟨rfl, _⟩ := List.cons.inj hrest
      exact h pre access rest param1 param2 hfirst hlock

end Guarded

section

variable {s ε α β : Type} [Recorded s]

/-- From `state` on, every Lock frame that the operation sends has a reason in what the operation has done before. -/
def Guards (reason : List Access → UInt8 → Bytes 2 → Prop) (op : EStateM ε s α) (state : s) : Prop :=
  ∃ trace, Recorded.log (finalState (op state)) = Recorded.log state ++ trace ∧ Guarded reason trace

variable {reason reason' : List Access → UInt8 → Bytes 2 → Prop} {op : EStateM ε s α} {f : α → EStateM ε s β}
variable {state : s} {tells : α → List Turn → Prop}

theorem Guards.mono (h : Guards reason op state)
    (hreason : ∀ pre param1 param2, reason pre param1 param2 → reason' pre param1 param2) :
    Guards reason' op state := by
  obtain ⟨trace, hlog, hguarded⟩ := h
  exact ⟨trace, hlog, hguarded.mono hreason⟩

theorem Guards.pure (a : α) : Guards reason (Pure.pure a : EStateM ε s α) state :=
  ⟨[], (List.append_nil _).symm, .of_quiet nofun⟩

theorem Guards.bind (h : Guards reason op state)
    (hf : ∀ a state' trace, op state = .ok a state' → Recorded.log state' = Recorded.log state ++ trace →
      Guards (fun pre => reason (trace ++ pre)) (f a) state') :
    Guards reason (op >>= f) state := by
  obtain ⟨trace, hlog, hguarded⟩ := h
  unfold Guards
  rw [bind_apply]
  cases hop : op state with
  | ok a state' =>
    rw [hop] at hlog
    obtain ⟨trace', hlog', hguarded'⟩ := hf a state' trace hop hlog
    refine ⟨trace ++ trace', ?_, hguarded.append hguarded'⟩
    change Recorded.log state' = _ at hlog
    rw [hlog] at hlog'
    rw [← List.append_assoc]
    exact hlog'
  | error e state' =>
    rw [hop] at hlog
    exact ⟨trace, hlog, hguarded⟩

theorem Converses.final (h : Converses op tells) (state : s) :
    ∃ trace, Recorded.log (finalState (op state)) = Recorded.log state ++ trace ∧ Quiet trace ∧
      ∀ a state', op state = .ok a state' → ∃ turns, Conversation turns trace ∧ tells a turns := by
  have hruns := h (Recorded.log state) state rfl
  cases hop : op state with
  | ok a state' =>
    rw [hop] at hruns
    obtain ⟨_, rfl, turns, trace, hlog, htalk, hquiet, ha⟩ := hruns
    refine ⟨trace, hlog, hquiet, fun b _ hb => ?_⟩
    injection hb with hb
    exact ⟨turns, htalk, hb ▸ ha⟩
  | error e state' =>
    rw [hop] at hruns
    obtain ⟨_, rfl, trace, hlog, hquiet⟩ := hruns
    exact ⟨trace, hlog, hquiet, nofun⟩

theorem Converses.guards (h : Converses op tells) : Guards reason op state := by
  obtain ⟨trace, hlog, hquiet, _⟩ := h.final state
  exact ⟨trace, hlog, .of_quiet hquiet⟩

theorem Converses.guards_bind (h : Converses op tells)
    (hf : ∀ a state' turns trace, op state = .ok a state' →
      Recorded.log state' = Recorded.log state ++ trace → Conversation turns trace → tells a turns →
      Guards (fun pre => reason (trace ++ pre)) (f a) state') :
    Guards reason (op >>= f) state := by
  apply h.guards.bind
  intro a state' trace hop hlog
  obtain ⟨trace', hlog', _, htalk⟩ := h.final state
  obtain ⟨turns, htalk, ha⟩ := htalk a state' hop
  rw [hop] at hlog'
  obtain rfl : trace = trace' := List.append_cancel_left (hlog.symm.trans hlog')
  exact hf a state' turns trace hop hlog htalk ha

end

/-! ## Locking a zone -/

namespace Device

variable {σ : Type} [Bus σ]

theorem exchangeAck_guards (command : Command) (device : Device (Logged σ)) :
    Guards (fun _ param1 param2 => param1 = command.param1 ∧ param2 = command.param2) (exchangeAck command)
      device := by
  obtain ⟨trace, htrace, hcourse⟩ := exchange_course command 1 device
  have hprotocol := hcourse.protocol (by decide) device.retryBudget_pos
  have hexchange : Guards (fun _ param1 param2 => param1 = command.param1 ∧ param2 = command.param2)
      (exchange command 1) device := by
    refine ⟨trace, htrace, ?_⟩
    intro pre access post param1 param2 hsplit hlock
    have hmem : access ∈ trace := by
      rw [hsplit]
      exact List.mem_append_right pre List.mem_cons_self
    rcases (hprotocol.serves access hmem).lockFrame? with hnone | ⟨_, hsome⟩
    · rw [hnone] at hlock
      cases hlock
    · rw [hsome] at hlock
      injection hlock with hparams
      injection hparams with hparam1 hparam2
      exact ⟨hparam1.symm, hparam2.symm⟩
  exact hexchange.bind fun _ _ _ _ _ => Guards.pure ()

theorem lock_guards (zone : Zone) (crc : UInt16) (device : Device (Logged σ)) :
    Guards (fun pre param1 param2 => param1 = lockParam zone (some crc) ∧ param2 = Bytes.ofUInt16 crc ∧
      ∃ word talk more, pre = talk ++ more ∧ Conversation [.readWord .config lockWordAddress word] talk)
      (lock zone (some crc)) device := by
  apply (isLocked_converses zone).guards_bind
  intro locked device' turns talk _ _ htalk hturns
  obtain ⟨word, rfl⟩ := hturns
  cases locked with
  | true => exact ⟨[], (List.append_nil _).symm, .of_quiet nofun⟩
  | false =>
    apply (exchangeAck_guards _ device').mono
    intro pre param1 param2 hlock
    exact ⟨hlock.1, hlock.2, word, talk, pre, rfl, htalk⟩

end Device

/-! ## The conversations of a run -/

namespace Provisioning

variable {σ κ α : Type}

instance : Recorded (Provisioning (Logged σ) κ) where
  log run := run.device.log

theorem onDevice_converses {action : DeviceM (Logged σ) α} {tells : α → List Turn → Prop}
    (h : Converses action tells) : Converses (onDevice action : ProvisionM (Logged σ) κ α) tells := by
  intro log run hlog
  have hruns := h log run.device hlog
  unfold onDevice
  cases haction : action run.device with
  | ok a device =>
    rw [haction] at hruns
    exact hruns
  | error error device =>
    rw [haction] at hruns
    exact hruns

theorem onDevice_guards {action : DeviceM (Logged σ) α} {reason : List Access → UInt8 → Bytes 2 → Prop}
    {run : Provisioning (Logged σ) κ} (h : Guards reason action run.device) :
    Guards reason (onDevice action) run := by
  obtain ⟨trace, hlog, hguarded⟩ := h
  refine ⟨trace, ?_, hguarded⟩
  unfold onDevice
  cases haction : action run.device with
  | ok a device =>
    rw [haction] at hlog
    exact hlog
  | error error device =>
    rw [haction] at hlog
    exact hlog

theorem onStore_converses (action : EStateM KeyStoreError κ α) :
    Converses (onStore action : ProvisionM (Logged σ) κ α) fun _ turns => turns = [] := by
  intro log run hlog
  unfold onStore
  cases action run.store with
  | ok a store => exact ⟨log, hlog, [], [], (List.append_nil log).symm, .nil, nofun, rfl⟩
  | error error store => exact ⟨log, hlog, [], (List.append_nil log).symm, nofun⟩

theorem enter_converses (phase : Phase) :
    Converses (enter phase : ProvisionM (Logged σ) κ Unit) fun _ turns => turns = [] := by
  intro log run hlog
  exact ⟨log, hlog, [], [], (List.append_nil log).symm, .nil, nofun, rfl⟩

variable [Bus σ]

theorem confirm_converses (expected : Lifecycle) :
    Converses (confirm expected : ProvisionM (Logged σ) κ Lifecycle) fun _ _ => True := by
  apply (onDevice_converses Device.lifecycle_converses).bind
  intro actual turns _
  dsimp only
  split
  · intro log run hlog
    exact ⟨log, hlog, [], (List.append_nil log).symm, nofun⟩
  · exact Converses.pure trivial

def configTurns : List Turn :=
  pairSlots.map (fun slot => .writeWord .config (0x05 + slot / 2) policyWord) ++
    [.writeWord .config Device.otpModeAddress otpModeWord]

theorem writeConfigZone_converses :
    Converses (writeConfigZone : DeviceM (Logged σ) Unit) fun _ turns => turns = configTurns := by
  have hpair : ∀ slot ∈ pairSlots, slot % 2 = 0 ∧ slot < 16 := by decide +kernel
  have hpolicies : Converses (pairSlots.forM fun slot =>
        Device.writeSlotConfigs slot evenSlotConfig oddSlotConfig : DeviceM (Logged σ) PUnit)
      fun _ turns => turns = pairSlots.map fun slot => .writeWord .config (0x05 + slot / 2) policyWord := by
    apply Converses.forM
    intro slot hslot
    exact Device.writeSlotConfigs_converses (hpair slot hslot).1 (hpair slot hslot).2 _ _
  apply hpolicies.bind
  intro _ turns hturns
  apply (Device.writeWord_converses _ _ _).mono
  intro _ turns' hturns'
  rw [hturns, hturns']
  rfl

def otpTurns (mode : Word) : List Turn :=
  [.readWord .config Device.otpModeAddress mode,
    .writeBlock .otp 0x00 (Bytes.zero 32), .writeBlock .otp 0x08 (Bytes.zero 32),
    .writeBlock .otp 0x00 ((otpImage version).take 32), .writeBlock .otp 0x08 ((otpImage version).drop 32)]

theorem writeOtpBlock_converses {block address : UInt8} (haddress : Zone.otp.blockAddress block = .ok address)
    (data : Block) :
    Converses (writeOtpBlock block data : DeviceM (Logged σ) Unit) fun _ turns =>
      turns = [.writeBlock .otp address data] := by
  unfold writeOtpBlock
  rw [haddress]
  apply (Device.require_converses _).bind
  intro address' turns hend
  obtain ⟨hsame, rfl⟩ := hend
  obtain rfl := Except.ok.inj hsame
  exact Device.writeBlock_converses _ _ _

theorem writeOtpZone_converses :
    Converses (writeOtpZone : DeviceM (Logged σ) Unit) fun _ turns =>
      ∃ mode : Word, mode.byte 2 = 0xAA ∧ turns = otpTurns mode := by
  apply Device.isOtpReadOnly_converses.bind
  intro readOnly turns hend
  obtain ⟨mode, hmode, rfl⟩ := hend
  apply Converses.guarded
  intro hreadOnly
  have haa : mode.byte 2 = 0xAA := by simpa [hmode] using hreadOnly
  apply (writeOtpBlock_converses rfl _).bind
  intro _ turns₁ h₁
  apply (writeOtpBlock_converses rfl _).bind
  intro _ turns₂ h₂
  apply (writeOtpBlock_converses rfl _).bind
  intro _ turns₃ h₃
  apply (writeOtpBlock_converses rfl _).mono
  intro _ turns₄ h₄
  refine ⟨mode, haa, ?_⟩
  rw [h₁, h₂, h₃, h₄]
  rfl

def drawTurns (keys : Option KeySet) (keySet : KeySet) : List Turn :=
  match keys with
  | some _ => []
  | none => keySet.keys.toList.map .draw

theorem chooseKeys_converses (keys : Option KeySet) :
    Converses (chooseKeys keys : ProvisionM (Logged σ) κ KeySet) fun keySet turns =>
      Suits keys keySet ∧ turns = drawTurns keys keySet := by
  cases keys with
  | some keySet => exact Converses.pure ⟨fun _ h => Option.some.inj h, rfl⟩
  | none =>
    apply onDevice_converses
    apply (Device.randomBlocks_converses 16).bind
    intro blocks turns hturns
    refine Converses.pure ⟨nofun, ?_⟩
    rw [hturns, List.append_nil]
    rfl

def keyTurns (keySet : KeySet) : List Turn :=
  keySet.keys.toList.zipIdx.map fun (key, slot) => .writeBlock .data (UInt8.ofNat (8 * slot)) key

theorem writeKeys_converses (keySet : KeySet) :
    Converses (writeKeys keySet : DeviceM (Logged σ) Unit) fun _ turns => turns = keyTurns keySet := by
  apply Converses.forM
  intro entry hentry
  obtain ⟨key, slot⟩ := entry
  have hslot := List.snd_lt_of_mem_zipIdx hentry
  rw [Vector.length_toList, Nat.add_zero] at hslot
  exact Device.writeKeySlot_converses hslot key

/-! ## Before the Config zone is locked -/

/-- What has passed before a Lock of the Config zone: the lock bytes were those of a blank chip, the policies and
the OTP mode were acknowledged, and the zone was read back. The Lock names the checksum of what was read. -/
inductive ConfigReady : List Access → Bytes 2 → Prop where
  | intro {talk more : List Access} {state lock : Word} {words : List Word}
      (hstate : Lifecycle.ofLockWord state = .ok .factory) (hwords : words.length = 22)
      (htalk : Conversation (.readWord .config lockWordAddress state ::
        (configTurns ++ Device.wordTurns .config 0 words ++ [.readWord .config lockWordAddress lock])) talk) :
      ConfigReady (talk ++ more) (Bytes.ofUInt16 (Crc16.compute (words.flatMap Vector.toList)))

theorem lockConfigZone_guards (device : Device (Logged σ)) :
    Guards (fun pre param1 param2 => param1 = 0x00 ∧ ∃ words lock talk more, pre = talk ++ more ∧
        words.length = 22 ∧ param2 = Bytes.ofUInt16 (Crc16.compute (words.flatMap Vector.toList)) ∧
        Conversation (Device.wordTurns .config 0 words ++ [.readWord .config lockWordAddress lock]) talk)
      lockConfigZone device := by
  apply (Device.readWords_converses .config 0 22).guards_bind
  intro config device' turns talk _ _ htalk hend
  obtain ⟨words, hlength, rfl, rfl⟩ := hend
  apply (Device.lock_guards .config _ device').mono
  intro pre param1 param2 hlock
  obtain ⟨hparam1, hparam2, lock, talk', more, rfl, htalk'⟩ := hlock
  exact ⟨hparam1, words, lock, talk ++ talk', more, (List.append_assoc _ _ _).symm, hlength, hparam2,
    htalk.append htalk'⟩

theorem reachInitialized_guards (run : Provisioning (Logged σ) κ) {state : Word} {start : List Access}
    (hstate : Lifecycle.ofLockWord state = .ok .factory)
    (hstart : Conversation [.readWord .config lockWordAddress state] start) :
    Guards (fun pre param1 param2 => param1 = 0x00 ∧ ConfigReady (start ++ pre) param2) reachInitialized
      run := by
  apply (enter_converses _).guards_bind
  intro _ run₁ _ talk₁ _ _ htalk₁ hturns₁
  subst hturns₁
  apply (onDevice_converses writeConfigZone_converses).guards_bind
  intro _ run₂ _ talk₂ _ _ htalk₂ hturns₂
  subst hturns₂
  apply (enter_converses _).guards_bind
  intro _ run₃ _ talk₃ _ _ htalk₃ hturns₃
  subst hturns₃
  have hlock : Guards (fun pre param1 param2 => param1 = 0x00 ∧
      ConfigReady (start ++ (talk₁ ++ (talk₂ ++ (talk₃ ++ pre)))) param2)
      (onDevice lockConfigZone) run₃ := by
    apply onDevice_guards
    apply (lockConfigZone_guards run₃.device).mono
    intro pre param1 param2 hlock
    obtain ⟨hparam1, words, lock, talk, more, rfl, hwords, rfl, htalk⟩ := hlock
    have hwhole := hstart.append (htalk₁.append (htalk₂.append (htalk₃.append htalk)))
    have hready : ConfigReady ((start ++ (talk₁ ++ (talk₂ ++ (talk₃ ++ talk)))) ++ more) _ :=
      .intro hstate hwords (by simpa using hwhole)
    refine ⟨hparam1, ?_⟩
    simpa using hready
  apply hlock.bind
  intro _ run₄ _ _ _
  exact (confirm_converses _).guards

theorem firstHalf_guards (run : Provisioning (Logged σ) κ) {state : Lifecycle} {word : Word}
    {start : List Access} (hstate : Lifecycle.ofLockWord word = .ok state)
    (hstart : Conversation [.readWord .config lockWordAddress word] start) :
    Guards (fun pre param1 param2 => param1 = 0x00 ∧ ConfigReady (start ++ pre) param2) (firstHalf state)
      run := by
  unfold firstHalf
  by_cases hfactory : state = .factory
  · subst hfactory
    rw [if_pos rfl]
    exact reachInitialized_guards run hstate hstart
  · rw [if_neg hfactory]
    exact Guards.pure _

/-! ## Before the Data zone is locked -/

def prepare (keys : Option KeySet) : ProvisionM σ κ KeySet := do
  enter .otpWrite
  onDevice writeOtpZone
  enter .keyWrite
  let keySet ← chooseKeys keys
  onDevice (writeKeys keySet)
  return keySet

def lockDataZone (keySet : KeySet) : ProvisionM σ κ Lifecycle := do
  enter .dataLock
  onDevice (Device.lock .data (some (Crc16.compute (dataImage keySet))))
  confirm .personalized

theorem prepare_converses (keys : Option KeySet) :
    Converses (prepare keys : ProvisionM (Logged σ) κ KeySet) fun keySet turns =>
      Suits keys keySet ∧ ∃ mode : Word, mode.byte 2 = 0xAA ∧
        turns = otpTurns mode ++ drawTurns keys keySet ++ keyTurns keySet := by
  apply (enter_converses _).bind
  intro _ turns₁ h₁
  apply (onDevice_converses writeOtpZone_converses).bind
  intro _ turns₂ h₂
  obtain ⟨mode, hmode, h₂⟩ := h₂
  apply (enter_converses _).bind
  intro _ turns₃ h₃
  apply (chooseKeys_converses keys).bind
  intro keySet turns₄ h₄
  obtain ⟨hsuits, h₄⟩ := h₄
  apply (onDevice_converses (writeKeys_converses keySet)).bind
  intro _ turns₅ h₅
  refine Converses.pure ⟨hsuits, mode, hmode, ?_⟩
  rw [h₁, h₂, h₃, h₄, h₅]
  simp

theorem lockDataZone_guards (keySet : KeySet) (run : Provisioning (Logged σ) κ) :
    Guards (fun _ param1 param2 => param1 = 0x01 ∧
      param2 = Bytes.ofUInt16 (Crc16.compute (dataImage keySet))) (lockDataZone keySet) run := by
  apply (enter_converses _).guards_bind
  intro _ run₁ _ talk₁ _ _ _ _
  have hlock : Guards (fun _ param1 param2 => param1 = 0x01 ∧
      param2 = Bytes.ofUInt16 (Crc16.compute (dataImage keySet)))
      (onDevice (Device.lock .data (some (Crc16.compute (dataImage keySet))))) run₁ := by
    apply onDevice_guards
    apply (Device.lock_guards .data _ run₁.device).mono
    intro pre param1 param2 hlock
    exact ⟨hlock.1, hlock.2.1⟩
  apply hlock.bind
  intro _ run₂ _ _ _
  exact (confirm_converses _).guards

variable [KeyStore κ]

/-- What is left of a run that has prepared the chip: the keys are recorded, and then it is locked. -/
def commit (keySet : KeySet) : ProvisionM σ κ Lifecycle := do
  onStore (KeyStore.record keySet)
  let state ← lockDataZone keySet
  enter .complete
  return state

/-- What has passed in a run before a Lock of the Data zone: the OTP zone was in its mode and was written, the
keys were written in the clear, all of this was acknowledged, and from `mid` on the run went on by recording these
keys, which succeeded. The Lock names the checksum of the keys and the OTP zone. -/
inductive DataReady (goal : Lifecycle) (keys : Option KeySet) (start : Provisioning (Logged σ) κ) :
    List Access → Bytes 2 → Prop where
  | intro {first talk more : List Access} {mode : Word} {keySet : KeySet} {mid : Provisioning (Logged σ) κ}
      {store : κ} (hmode : mode.byte 2 = 0xAA) (hkeys : Suits keys keySet)
      (htalk : Conversation (otpTurns mode ++ drawTurns keys keySet ++ keyTurns keySet) talk)
      (hmid : mid.device.log = start.device.log ++ first ++ talk)
      (hrun : provision goal keys start = commit keySet mid)
      (hrecord : KeyStore.record keySet mid.store = .ok () store) :
      DataReady goal keys start (first ++ talk ++ more)
        (Bytes.ofUInt16 (Crc16.compute (dataImage keySet)))

/-- Until the keys are recorded no Lock is sent, and afterwards only the one over these keys. -/
theorem commit_guards (keySet : KeySet) (run : Provisioning (Logged σ) κ) :
    Guards (fun _ param1 param2 => param1 = 0x01 ∧
      param2 = Bytes.ofUInt16 (Crc16.compute (dataImage keySet)) ∧
      ∃ store, KeyStore.record keySet run.store = .ok () store) (commit keySet) run := by
  apply (onStore_converses _).guards_bind
  intro _ run₁ _ talk₁ hop _ _ _
  have hrecord : ∃ store, KeyStore.record keySet run.store = .ok () store := by
    unfold onStore at hop
    cases haction : KeyStore.record keySet run.store with
    | ok _ store => exact ⟨store, rfl⟩
    | error error store =>
      rw [haction] at hop
      cases hop
  apply ((lockDataZone_guards keySet run₁).mono fun _ _ _ h => ⟨h.1, h.2, hrecord⟩).bind
  intro state run₂ _ _ _
  apply (enter_converses _).guards_bind
  intro _ run₃ _ _ _ _ _ _
  exact Guards.pure state

/-! ## Whole runs -/

theorem secondHalf_eq (keys : Option KeySet) {goal state : Lifecycle} (hgoal : goal ≠ .initialized) :
    (do
      let state ← secondHalf goal keys state
      enter .complete
      return state : ProvisionM σ κ Lifecycle) = (do
      let keySet ← prepare keys
      commit keySet) := by
  unfold secondHalf prepare commit lockDataZone
  rw [if_neg hgoal, reachPersonalized_eq]
  simp only [bind_assoc, pure_bind]

/-- Every Lock frame of a run comes after what the lock makes final. -/
theorem provision_guards (goal : Lifecycle) (keys : Option KeySet) (start : Provisioning (Logged σ) κ) :
    Guards (fun pre param1 param2 => (param1 = 0x00 ∧ ConfigReady pre param2) ∨
      (param1 = 0x01 ∧ DataReady goal keys start pre param2)) (provision goal keys) start := by
  have hprovision := provision_eq (σ := Logged σ) (κ := κ) goal keys
  rw [hprovision]
  apply (onDevice_converses Device.lifecycle_converses).guards_bind
  intro state run₁ turns talk₁ hop₁ hlog₁ htalk₁ hend
  obtain ⟨word, hstate, rfl⟩ := hend
  by_cases hreached : goal ≤ state
  · rw [if_pos hreached]
    exact Guards.pure state
  rw [if_neg hreached]
  apply ((firstHalf_guards run₁ hstate htalk₁).mono fun _ _ _ h => .inl h).bind
  intro state' run₂ trace₂ hop₂ hlog₂
  by_cases hgoal : goal = .initialized
  · unfold secondHalf
    rw [if_pos hgoal, pure_bind]
    apply (enter_converses _).guards_bind
    intro _ run₃ _ _ _ _ _ _
    exact Guards.pure state'
  rw [secondHalf_eq keys hgoal]
  apply (prepare_converses keys).guards_bind
  intro keySet mid turns talk hop hlog htalk hend
  obtain ⟨hkeys, mode, hmode, rfl⟩ := hend
  have hrun : provision goal keys start = commit keySet mid := by
    rw [hprovision, bind_apply, hop₁]
    dsimp only
    rw [if_neg hreached, bind_apply, hop₂]
    dsimp only
    rw [secondHalf_eq keys hgoal, bind_apply, hop]
  have hmid : mid.device.log = start.device.log ++ (talk₁ ++ trace₂) ++ talk := by
    change mid.device.log = run₂.device.log ++ talk at hlog
    change run₂.device.log = run₁.device.log ++ trace₂ at hlog₂
    change run₁.device.log = start.device.log ++ talk₁ at hlog₁
    rw [hlog, hlog₂, hlog₁, List.append_assoc start.device.log]
  apply (commit_guards keySet mid).mono
  intro more param1 param2 hlock
  obtain ⟨hparam1, rfl, store, hrecord⟩ := hlock
  have hready : DataReady goal keys start ((talk₁ ++ trace₂) ++ talk ++ more)
      (Bytes.ofUInt16 (Crc16.compute (dataImage keySet))) :=
    .intro hmode hkeys htalk hmid hrun hrecord
  rw [List.append_assoc, List.append_assoc] at hready
  exact .inr ⟨hparam1, hready⟩

/-- Whatever answers on the bus, a Lock frame of a run has the checksum compared, and comes only after everything
that the lock makes final was done and acknowledged; for the Data zone this includes that the keys were recorded.
The log with which this is told changes nothing of the run. -/
theorem lock_frame_ready (goal : Lifecycle) (keys : Option KeySet) (device : Device σ) (store : κ)
    {pre post : List Access} {access : Access} {param1 : UInt8} {param2 : Bytes 2}
    (hlog : (finalState (run goal keys device.logged store)).device.log = pre ++ access :: post)
    (hlock : access.lockFrame? = some (param1, param2)) :
    viewed unlogged (run goal keys device.logged store) = run goal keys device store ∧
    ((param1 = 0x00 ∧ ConfigReady pre param2) ∨
      (param1 = 0x01 ∧ DataReady goal keys { device := device.logged, store } pre param2)) := by
  obtain ⟨trace, htrace, hguarded⟩ := provision_guards goal keys { device := device.logged, store }
  have hwhole : trace = pre ++ access :: post := by
    rw [← hlog]
    exact htrace.symm
  exact ⟨provision_unlogged goal keys { device := device.logged, store },
    hguarded pre access post param1 param2 hwhole hlock⟩

/-- The answers of a chip that has its Config zone locked and acknowledges whatever is written. -/
def obliging : Script where
  answers := [Response.encode [0, 0, 0x55, 0], Response.encode [0, 0, 0xAA, 0]] ++
    List.replicate 20 (Response.encodeStatus .success) ++ [Response.encode [0, 0, 0x55, 0]]

/-- Such a chip is sent a Lock after 23 exchanges. -/
theorem lock_frame_ready_obliging :
    let keys : KeySet := ⟨Vector.replicate 16 (Bytes.zero 32)⟩
    let device := Device.ofBus obliging
    let log := (finalState (run .personalized (some keys) device.logged ({} : MemoryStore))).device.log
    ∃ access param2, log = log.take 46 ++ access :: log.drop 47 ∧
      access.lockFrame? = some (0x01, param2) ∧
      DataReady .personalized (some keys) { device := device.logged, store := ({} : MemoryStore) }
        (log.take 46) param2 := by
  intro keys device log
  have hparam : (log[46]?.bind Access.lockFrame?).map Prod.fst = some 0x01 := by decide +kernel
  obtain ⟨⟨_, param2⟩, hframe, rfl⟩ := Option.map_eq_some_iff.1 hparam
  obtain ⟨access, haccess, hlock⟩ := Option.bind_eq_some_iff.1 hframe
  obtain ⟨hlength, hget⟩ := List.getElem?_eq_some_iff.1 haccess
  have hsplit : log = log.take 46 ++ access :: log.drop 47 := by
    rw [← hget, List.getElem_cons_drop, List.take_append_drop]
  refine ⟨access, param2, hsplit, hlock, ?_⟩
  have hready := (lock_frame_ready .personalized (some keys) device ({} : MemoryStore) hsplit hlock).2
  rcases hready with ⟨hzero, _⟩ | ⟨_, hdata⟩
  · exact absurd hzero (by decide)
  · exact hdata

end Provisioning

end SecureElement
