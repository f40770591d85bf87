import SecureElement.Proofs.Chip.OneWay
/-!
# Where TempKey comes from

A chip holds TempKey exactly if a Nonce has succeeded since it was last put to sleep and since it last took an
encrypted write in hand. Nothing else that happens to it loads TempKey or loses it. GenDig mixes the contents of a
slot into it and does not hide who chose it.
-/

namespace SecureElement

/-! ## What a command makes of TempKey -/

namespace Command

/-- A chip with this memory takes the command for an encrypted write and gives TempKey up for it, whether or not
the write then turns out good. -/
structure SpendsTempKey (command : Command) (memory : Memory) : Prop where
  opcode : command.opcode = .write
  zone : Zone.ofParam? command.param1 = some .data
  length : command.data.length = 64
  configLocked : memory.configLocked = true
  dataLocked : memory.dataLocked = true
  slot : ∃ slot, Chip.slotOfAddress? (command.param2.byte 0) = some slot ∧
    (memory.slotConfig slot).writePolicy ≠ .never

def mix (command : Command) (memory : Memory) (slot : Fin 16) (key : TempKey) : TempKey :=
  { key with value := sha256 (sessionMessage (memory.key slot) Opcode.genDig.code command.param1
      (Bytes.pair (command.param2.byte 0) 0) key.value) }

/-- What becomes of TempKey on a chip with core `k` that runs the command, which succeeds or not. -/
inductive MakesTempKey (command : Command) (k : Core) (succeeds : Prop) : Option TempKey → Prop where
  | kept (hplain : succeeds → command.opcode ≠ .nonce ∧ command.opcode ≠ .genDig)
      (hspends : ¬ command.SpendsTempKey k.memory) : MakesTempKey command k succeeds k.tempKey
  | loaded (hsucceeds : succeeds) (hopcode : command.opcode = .nonce) (value : Block) :
      MakesTempKey command k succeeds (some ⟨value, command.param1 = 0x03⟩)
  | mixed {slot : Fin 16} {key : TempKey} (hsucceeds : succeeds) (hopcode : command.opcode = .genDig)
      (hslot : Chip.slotOfParam? (command.param2.byte 0) = some slot) (hkey : k.tempKey = some key) :
      MakesTempKey command k succeeds (some (command.mix k.memory slot key))
  | spent (hspends : command.SpendsTempKey k.memory) : MakesTempKey command k succeeds none

/-- The program that ended like this on the chip has made of TempKey what the command makes of it. -/
def MakesTempKeyOf (command : Command) (chip : Chip) : EStateM.Result Status Chip (List UInt8) → Prop
  | .ok _ chip' => command.MakesTempKey chip.core True chip'.tempKey
  | .error _ chip' => command.MakesTempKey chip.core False chip'.tempKey

theorem MakesTempKeyOf.of_forall {command : Command} {chip : Chip}
    {result : EStateM.Result Status Chip (List UInt8)}
    (h : ∀ succeeds, command.MakesTempKey chip.core succeeds (finalState result).tempKey) :
    command.MakesTempKeyOf chip result := by
  cases result with
  | ok _ chip' => exact h True
  | error _ chip' => exact h False

end Command

namespace Chip

def KeepsTempKey {α : Type} (op : ChipM α) : Prop :=
  ∀ chip, (finalState (op chip)).tempKey = chip.tempKey

namespace KeepsTempKey

variable {α β : Type}

theorem pure (a : α) : KeepsTempKey (Pure.pure a) := fun _ => rfl

theorem throw (status : Status) : KeepsTempKey (throw status : ChipM α) := fun _ => rfl

theorem refuse : KeepsTempKey (Chip.refuse : ChipM α) := fun _ => rfl

theorem orStatus (status : Status) (value : Option α) : KeepsTempKey (Chip.orStatus status value) := by
  cases value with
  | none => exact throw status
  | some a => exact pure a

theorem bind {op : ChipM α} {f : α → ChipM β} (hop : KeepsTempKey op) (hf : ∀ a, KeepsTempKey (f a)) :
    KeepsTempKey (op >>= f) := by
  intro chip
  have hkept := hop chip
  rw [bind_apply]
  cases hrun : op chip with
  | ok a chip' =>
    rw [hrun] at hkept
    exact (hf a chip').trans hkept
  | error status chip' =>
    rw [hrun] at hkept
    exact hkept

theorem get_bind {f : Chip → ChipM α} (hf : ∀ chip, KeepsTempKey (f chip)) : KeepsTempKey (get >>= f) :=
  fun chip => hf chip chip

theorem modifyMemory (change : Memory → Memory) : KeepsTempKey (Chip.modifyMemory change) := fun _ => rfl

theorem drawRandom : KeepsTempKey Chip.drawRandom := fun _ => rfl

theorem ite {c : Prop} [Decidable c] {op other : ChipM α} (h : KeepsTempKey op) (hother : KeepsTempKey other) :
    KeepsTempKey (if c then op else other) := by
  split
  · exact h
  · exact hother

theorem guarded {c : Prop} [Decidable c] {f : PUnit → ChipM α} (h : KeepsTempKey (f ⟨⟩)) :
    KeepsTempKey (if c then Chip.refuse >>= f else f ⟨⟩) :=
  ite (bind refuse fun _ => h) h

theorem guarded_throw {c : Prop} [Decidable c] {status : Status} {f : PUnit → ChipM α}
    (h : KeepsTempKey (f ⟨⟩)) : KeepsTempKey (if c then MonadExcept.throw status >>= f else f ⟨⟩) :=
  ite (bind (throw status) fun _ => h) h

theorem read (param1 address : UInt8) : KeepsTempKey (Chip.read param1 address) := by
  unfold Chip.read
  apply get_bind
  intro chip
  cases Zone.ofParam? param1 with
  | none => exact throw _
  | some zone =>
    cases zone with
    | config => exact orStatus _ _
    | otp => exact orStatus _ _
    | data =>
      apply bind (orStatus _ _)
      intro slot
      exact guarded (pure _)

theorem lock (param1 : UInt8) (crc : UInt16) : KeepsTempKey (Chip.lock param1 crc) := by
  unfold Chip.lock
  apply get_bind
  intro chip
  apply ite
  · exact guarded (guarded (bind (modifyMemory _) fun _ => pure _))
  · exact guarded (guarded (bind (modifyMemory _) fun _ => pure _))

theorem tempKeyFor (used source : Bool) : KeepsTempKey (Chip.tempKeyFor used source) := by
  unfold Chip.tempKeyFor
  apply ite _ (pure _)
  apply get_bind
  intro chip
  cases chip.tempKey with
  | none => exact refuse
  | some key => exact ite (pure _) refuse

theorem digestSlot (slot : UInt8) : KeepsTempKey (Chip.digestSlot slot) := by
  unfold Chip.digestSlot
  apply bind (orStatus _ _)
  intro index
  apply get_bind
  intro chip
  exact guarded (pure _)

theorem mac (modeByte slot : UInt8) (challenge : List UInt8) :
    KeepsTempKey (Chip.mac modeByte slot challenge) := by
  unfold Chip.mac
  apply bind (digestSlot _)
  intro index
  apply guarded_throw
  apply bind (tempKeyFor _ _)
  intro tempKey
  exact get_bind fun _ => pure _

theorem checkMac (mode slot : UInt8) (data : List UInt8) : KeepsTempKey (Chip.checkMac mode slot data) := by
  unfold Chip.checkMac
  apply guarded_throw
  apply bind (orStatus _ _)
  intro index
  apply bind (tempKeyFor _ _)
  intro tempKey
  apply get_bind
  intro chip
  exact guarded_throw (pure _)

theorem hmac (modeByte slot : UInt8) : KeepsTempKey (Chip.hmac modeByte slot) := by
  unfold Chip.hmac
  apply bind (digestSlot _)
  intro index
  apply bind (tempKeyFor _ _)
  intro tempKey
  exact get_bind fun _ => pure _

end KeepsTempKey

theorem nonce_makesTempKey {command : Command} (hopcode : command.opcode = .nonce) (chip : Chip) :
    command.MakesTempKeyOf chip (nonce command.param1 command.data chip) := by
  have hkept : command.MakesTempKey chip.core False chip.tempKey :=
    .kept False.elim fun hspends => by cases hopcode.symm.trans hspends.opcode
  have hloaded (value : Block) := Command.MakesTempKey.loaded (k := chip.core) trivial hopcode value
  unfold nonce
  by_cases hthrough : command.param1 = 0x03
  · rw [if_pos hthrough]
    cases Bytes.ofList? 32 command.data with
    | none => exact hkept
    | some value =>
      rw [decide_eq_true hthrough] at hloaded
      exact hloaded value
  · rw [if_neg hthrough]
    by_cases hinput : (command.param1 = 0x00 ∨ command.param1 = 0x01) ∧ command.data.length = nonceInputSize
    · rw [if_pos hinput]
      rw [decide_eq_false hthrough] at hloaded
      exact hloaded _
    · rw [if_neg hinput]
      exact hkept

theorem genDig_makesTempKey {command : Command} (hopcode : command.opcode = .genDig) (chip : Chip) :
    command.MakesTempKeyOf chip (genDig command.param1 (command.param2.byte 0) chip) := by
  have hkept : command.MakesTempKey chip.core False chip.tempKey :=
    .kept False.elim fun hspends => by cases hopcode.symm.trans hspends.opcode
  unfold genDig
  rw [bind_apply, get_apply]
  dsimp only
  by_cases hrefused : command.param1 ≠ 0x02 ∨ chip.memory.configLocked = false
  · rw [if_pos hrefused]
    exact hkept
  rw [if_neg hrefused]
  cases hslot : slotOfParam? (command.param2.byte 0) with
  | none => exact hkept
  | some slot =>
    cases hkey : chip.tempKey with
    | none => exact hkept
    | some key => exact .mixed trivial hopcode hslot hkey

theorem writeEncrypted_tempKey (slot : Fin 16) (param1 : UInt8) (param2 : Bytes 2) (data : List UInt8)
    (chip : Chip) :
    (finalState (writeEncrypted slot param1 param2 data chip)).tempKey =
      if (chip.memory.slotConfig slot).writePolicy = .never then chip.tempKey else none := by
  rw [Local.writeEncrypted_apply]
  split
  · rfl
  · cases hkey : chip.tempKey with
    | none => exact hkey
    | some key =>
      have hkeeps : KeepsTempKey (Local.writeUnder key slot param1 param2 data) := by
        unfold Local.writeUnder
        apply KeepsTempKey.bind (.orStatus _ _)
        intro ciphertext
        exact .guarded (.bind (.modifyMemory _) fun _ => .pure _)
      exact hkeeps { chip with tempKey := none }

theorem write_makesTempKey {command : Command} (hopcode : command.opcode = .write) (chip : Chip) :
    command.MakesTempKeyOf chip (write command.param1 command.param2 command.data chip) := by
  apply Command.MakesTempKeyOf.of_forall
  intro succeeds
  have hsame (hspends : ¬ command.SpendsTempKey chip.memory) :
      command.MakesTempKey chip.core succeeds chip.tempKey := by
    refine .kept (fun _ => ?_) hspends
    rw [hopcode]
    decide
  have hkept (hspends : ¬ command.SpendsTempKey chip.memory) {op : ChipM (List UInt8)} (hop : KeepsTempKey op) :
      command.MakesTempKey chip.core succeeds (finalState (op chip)).tempKey := by
    rw [hop chip]
    exact hsame hspends
  have hother {zone : Option Zone} (hzone : Zone.ofParam? command.param1 = zone) (hdata : zone ≠ some .data) :
      ¬ command.SpendsTempKey chip.memory :=
    fun hspends => hdata (hzone.symm.trans hspends.zone)
  unfold write
  rw [bind_apply, get_apply]
  dsimp only
  cases hzone : Zone.ofParam? command.param1 with
  | none => exact hsame (hother hzone nofun)
  | some zone =>
    cases zone with
    | config => exact hkept (hother hzone nofun) (.guarded (.bind (.modifyMemory _) fun _ => .pure _))
    | otp => exact hkept (hother hzone nofun) (.guarded (.bind (.modifyMemory _) fun _ => .pure _))
    | data =>
      dsimp only
      cases hconfig : chip.memory.configLocked with
      | false =>
        rw [if_pos rfl]
        exact hsame fun hspends => Bool.noConfusion (hconfig.symm.trans hspends.configLocked)
      | true =>
        rw [if_neg (by decide)]
        cases hslot : slotOfAddress? (command.param2.byte 0) with
        | none =>
          refine hsame fun hspends => ?_
          obtain ⟨slot, hsome, _⟩ := hspends.slot
          cases hslot.symm.trans hsome
        | some slot =>
          rw [bind_apply, orStatus_some]
          dsimp only
          by_cases hsealed : chip.memory.dataLocked = true ∧ command.data.length = 64
          · rw [if_pos hsealed, writeEncrypted_tempKey]
            by_cases hnever : (chip.memory.slotConfig slot).writePolicy = .never
            · rw [if_pos hnever]
              refine hsame fun hspends => ?_
              obtain ⟨other, hsome, hpolicy⟩ := hspends.slot
              cases hslot.symm.trans hsome
              exact hpolicy hnever
            · rw [if_neg hnever]
              exact .spent ⟨hopcode, hzone, hsealed.2, hconfig, hsealed.1, slot, hslot, hnever⟩
          · rw [if_neg hsealed]
            refine hkept (fun hspends => hsealed ⟨hspends.dataLocked, hspends.length⟩) ?_
            apply KeepsTempKey.bind (.orStatus _ _)
            intro key
            exact .guarded (.bind (.modifyMemory _) fun _ => .pure _)

theorem run_plain_makesTempKey {command : Command} (hopcode : command.opcode ∉ [.nonce, .genDig, .write])
    {op : ChipM (List UInt8)} (hop : KeepsTempKey op) (chip : Chip) :
    command.MakesTempKeyOf chip (op chip) := by
  apply Command.MakesTempKeyOf.of_forall
  intro succeeds
  rw [hop chip]
  refine .kept (fun _ => ⟨?_, ?_⟩) fun hspends => ?_
  · exact fun hnonce => hopcode (by simp [hnonce])
  · exact fun hgenDig => hopcode (by simp [hgenDig])
  · exact hopcode (by simp [hspends.opcode])

theorem run_makesTempKey (command : Command) (chip : Chip) :
    command.MakesTempKeyOf chip (run command chip) := by
  unfold run
  cases hopcode : command.opcode with
  | nonce => exact nonce_makesTempKey hopcode chip
  | genDig => exact genDig_makesTempKey hopcode chip
  | write => exact write_makesTempKey hopcode chip
  | devRev => exact run_plain_makesTempKey (by simp [hopcode]) (.pure _) chip
  | random => exact run_plain_makesTempKey (by simp [hopcode]) (.bind .drawRandom fun _ => .pure _) chip
  | read => exact run_plain_makesTempKey (by simp [hopcode]) (.read _ _) chip
  | lock => exact run_plain_makesTempKey (by simp [hopcode]) (.lock _ _) chip
  | mac => exact run_plain_makesTempKey (by simp [hopcode]) (.mac _ _ _) chip
  | checkMac => exact run_plain_makesTempKey (by simp [hopcode]) (.checkMac _ _ _) chip
  | hmac => exact run_plain_makesTempKey (by simp [hopcode]) (.hmac _ _) chip
  | deriveKey => exact run_plain_makesTempKey (by simp [hopcode]) (.throw _) chip
  | pause => exact run_plain_makesTempKey (by simp [hopcode]) (.throw _) chip
  | updateExtra => exact run_plain_makesTempKey (by simp [hopcode]) (.throw _) chip

end Chip

/-! ## What traffic makes of TempKey -/

namespace Chip

variable {chip : Chip} {next : Traffic} {command other : Command} {source : Bool}

/-- The command reaches the chip undamaged and succeeds. -/
structure Completes (chip : Chip) (next : Traffic) (command : Command) : Prop extends
    chip.Executes next command where
  succeeds : ∃ payload k', command.Performs chip.core (.ok payload) k'

/-- A Nonce succeeds. The source tells whether the host has passed the value through. -/
def Loads (chip : Chip) (next : Traffic) (source : Bool) : Prop :=
  ∃ command, chip.Completes next command ∧ command.opcode = .nonce ∧ source = decide (command.param1 = 0x03)

/-- The chip is put to sleep or takes an encrypted write in hand. -/
inductive Drops (chip : Chip) (next : Traffic) : Prop where
  | sleeps (hsleeps : next.Sleeps)
  | spends (command : Command) (hexecutes : chip.Executes next command)
      (hspends : command.SpendsTempKey chip.memory)

inductive MovesTempKey (chip : Chip) (next : Traffic) : Option TempKey → Prop where
  | kept (hplain : ∀ command, chip.Completes next command → command.opcode ≠ .nonce ∧ command.opcode ≠ .genDig)
      (hdrops : ¬ chip.Drops next) : MovesTempKey chip next chip.tempKey
  | loaded {source : Bool} (hloads : chip.Loads next source) (value : Block) :
      MovesTempKey chip next (some ⟨value, source⟩)
  | mixed {command : Command} {slot : Fin 16} {key : TempKey} (hcompletes : chip.Completes next command)
      (hopcode : command.opcode = .genDig) (hslot : slotOfParam? (command.param2.byte 0) = some slot)
      (hkey : chip.tempKey = some key) : MovesTempKey chip next (some (command.mix chip.memory slot key))
  | dropped (hdrops : chip.Drops next) : MovesTempKey chip next none

theorem Executes.eq (h : chip.Executes next command) (hother : chip.Executes next other) : other = command := by
  obtain ⟨frame, rfl, hframe⟩ := h.frame
  obtain ⟨frame', hnext, hframe'⟩ := hother.frame
  cases hnext
  exact Except.ok.inj (hframe'.symm.trans hframe)

theorem Executes.not_sleeps (h : chip.Executes next command) : ¬ next.Sleeps := by
  obtain ⟨frame, rfl, _⟩ := h.frame
  rintro ⟨rest, hnext⟩
  cases hnext

theorem Executes.drops_iff (h : chip.Executes next command) :
    chip.Drops next ↔ command.SpendsTempKey chip.memory := by
  constructor
  · rintro (hsleeps | ⟨other, hother, hspends⟩)
    · exact absurd hsleeps h.not_sleeps
    · rwa [h.eq hother] at hspends
  · exact .spends command h

theorem Completes.not_drops (h : chip.Completes next command) (hopcode : command.opcode ≠ .write) :
    ¬ chip.Drops next := by
  rw [h.toExecutes.drops_iff]
  exact fun hspends => hopcode hspends.opcode

theorem Loads.not_drops (h : chip.Loads next source) : ¬ chip.Drops next := by
  obtain ⟨command, hcompletes, hopcode, _⟩ := h
  apply hcompletes.not_drops
  rw [hopcode]
  decide

theorem Loads.exists_frame (h : chip.Loads next source) : ∃ frame, next = .write (0x03 :: frame) := by
  obtain ⟨command, hcompletes, _⟩ := h
  obtain ⟨frame, hnext, _⟩ := hcompletes.frame
  exact ⟨frame, hnext⟩

theorem Loads.source_eq {source' : Bool} (h : chip.Loads next source) (h' : chip.Loads next source') :
    source' = source := by
  obtain ⟨command, hcompletes, _, rfl⟩ := h
  obtain ⟨other, hother, _, rfl⟩ := h'
  rw [hcompletes.toExecutes.eq hother.toExecutes]

theorem Completes.not_loads (h : chip.Completes next command) (hopcode : command.opcode ≠ .nonce) :
    ¬ chip.Loads next source := by
  rintro ⟨other, hother, hnonce, _⟩
  rw [h.toExecutes.eq hother.toExecutes] at hnonce
  exact hopcode hnonce

theorem Executes.movesTempKey (h : chip.Executes next command) :
    chip.MovesTempKey next (finalState (run command chip)).tempKey := by
  have hmakes := run_makesTempKey command chip
  cases hrun : run command chip with
  | ok payload chip' =>
    have hcompletes : chip.Completes next command := ⟨h, payload, _, Command.performs_answer hrun⟩
    rw [hrun] at hmakes
    change command.MakesTempKey chip.core True chip'.tempKey at hmakes
    change chip.MovesTempKey next chip'.tempKey
    generalize chip'.tempKey = after at hmakes
    cases hmakes with
    | kept hplain hspends =>
      refine .kept (fun other hother => ?_) (mt h.drops_iff.1 hspends)
      rw [h.eq hother.toExecutes]
      exact hplain trivial
    | loaded _ hopcode value => exact .loaded ⟨command, hcompletes, hopcode, rfl⟩ value
    | mixed _ hopcode hslot hkey => exact .mixed hcompletes hopcode hslot hkey
    | spent hspends => exact .dropped (h.drops_iff.2 hspends)
  | error status chip' =>
    have hfails (other : Command) : ¬ chip.Completes next other := by
      intro hother
      obtain ⟨payload, k', hperforms⟩ := hother.succeeds
      have hok := hperforms chip rfl
      rw [h.eq hother.toExecutes, hrun] at hok
      cases hok
    rw [hrun] at hmakes
    change command.MakesTempKey chip.core False chip'.tempKey at hmakes
    change chip.MovesTempKey next chip'.tempKey
    generalize chip'.tempKey = after at hmakes
    cases hmakes with
    | kept _ hspends => exact .kept (fun other hother => absurd hother (hfails other)) (mt h.drops_iff.1 hspends)
    | loaded hfalse _ _ => exact hfalse.elim
    | mixed hfalse _ _ _ => exact hfalse.elim
    | spent hspends => exact .dropped (h.drops_iff.2 hspends)

theorem undergo_movesTempKey (chip : Chip) (next : Traffic) :
    chip.MovesTempKey next (chip.undergo next).tempKey := by
  change chip.MovesTempKey next (chip.undergo next).core.tempKey
  have haffects := chip.undergo_affects next
  generalize (chip.undergo next).core = after at haffects
  cases haffects with
  | nothing hsleeps hexecutes =>
    refine .kept (fun command hcompletes => absurd hcompletes.toExecutes (hexecutes command)) ?_
    rintro (hsleeps' | ⟨command, hexecutes', _⟩)
    · exact hsleeps hsleeps'
    · exact hexecutes command hexecutes'
  | sleep hsleeps => exact .dropped (.sleeps hsleeps)
  | run hexecutes => exact hexecutes.movesTempKey

theorem Completes.mixes (h : chip.Completes next command) (hopcode : command.opcode = .genDig) :
    ∃ slot key, slotOfParam? (command.param2.byte 0) = some slot ∧ chip.tempKey = some key ∧
      (chip.undergo next).tempKey = some (command.mix chip.memory slot key) := by
  have hmoves := chip.undergo_movesTempKey next
  generalize (chip.undergo next).tempKey = after at hmoves
  cases hmoves with
  | kept hplain _ => exact absurd hopcode (hplain command h).2
  | loaded hloads _ => exact absurd hloads (h.not_loads (by simp [hopcode]))
  | mixed hother _ hslot hkey =>
    rw [h.toExecutes.eq hother.toExecutes] at hslot ⊢
    exact ⟨_, _, hslot, hkey, rfl⟩
  | dropped hdrops => exact absurd hdrops (h.not_drops (by simp [hopcode]))

/-- Whether TempKey is there is decided by the last Nonce that succeeded and by what has dropped it since. -/
theorem isSome_tempKey_undergo (chip : Chip) (next : Traffic) :
    (chip.undergo next).tempKey.isSome ↔
      (∃ source, chip.Loads next source) ∨ (chip.tempKey.isSome ∧ ¬ chip.Drops next) := by
  have hmoves := chip.undergo_movesTempKey next
  generalize (chip.undergo next).tempKey = after at hmoves
  cases hmoves with
  | kept hplain hdrops =>
    have hloads : ¬ ∃ source, chip.Loads next source := by
      rintro ⟨_, command, hcompletes, hopcode, _⟩
      exact (hplain command hcompletes).1 hopcode
    simp [hloads, hdrops]
  | loaded hloads value => exact iff_of_true rfl (.inl ⟨_, hloads⟩)
  | mixed hcompletes hopcode _ hkey =>
    have hdrops : ¬ chip.Drops next := hcompletes.not_drops (by simp [hopcode])
    exact iff_of_true rfl (.inr ⟨by rw [hkey]; rfl, hdrops⟩)
  | dropped hdrops =>
    refine iff_of_false nofun ?_
    rintro (⟨source, hloads⟩ | ⟨_, hkept⟩)
    · exact hloads.not_drops hdrops
    · exact hkept hdrops

theorem source_undergo (chip : Chip) (next : Traffic) (source : Bool) :
    (chip.undergo next).tempKey.map TempKey.source = some source ↔
      chip.Loads next source ∨ (chip.tempKey.map TempKey.source = some source ∧
        ¬ (chip.Drops next ∨ ∃ source, chip.Loads next source)) := by
  have hmoves := chip.undergo_movesTempKey next
  generalize (chip.undergo next).tempKey = after at hmoves
  cases hmoves with
  | kept hplain hdrops =>
    have hloads (source : Bool) : ¬ chip.Loads next source := by
      rintro ⟨command, hcompletes, hopcode, _⟩
      exact (hplain command hcompletes).1 hopcode
    simp [hloads, hdrops]
  | @loaded source' hloads value =>
    constructor
    · intro hsource
      obtain rfl : source' = source := Option.some.inj hsource
      exact .inl hloads
    · rintro (hloads' | ⟨_, hkept⟩)
      · rw [hloads.source_eq hloads']
        rfl
      · exact absurd (.inr ⟨_, hloads⟩) hkept
  | @mixed command slot key hcompletes hopcode _ hkey =>
    have hdrops : ¬ chip.Drops next := hcompletes.not_drops (by simp [hopcode])
    have hloads (source : Bool) : ¬ chip.Loads next source := hcompletes.not_loads (by simp [hopcode])
    simp [hloads, hdrops, hkey, Command.mix]
  | dropped hdrops =>
    refine iff_of_false nofun ?_
    rintro (hloads | ⟨_, hkept⟩)
    · exact hloads.not_drops hdrops
    · exact hkept (.inl hdrops)

/-! ## The past of a chip -/

/-- Along the past something began, and nothing has ended it since. -/
def Since (first : Chip) (past : List Traffic) (begins ends : Chip → Traffic → Prop) : Prop :=
  ∃ before next later, past = before ++ next :: later ∧ begins (first.after before) next ∧
    ∀ between event rest, later = between ++ event :: rest →
      ¬ ends (first.after (before ++ next :: between)) event

section Past

variable {first : Chip} {past : List Traffic} {begins ends : Chip → Traffic → Prop}

theorem not_since_nil : ¬ first.Since [] begins ends := by
  rintro ⟨before, next, later, hpast, _⟩
  simp at hpast

theorem since_concat : first.Since (past ++ [next]) begins ends ↔
    begins (first.after past) next ∨ (first.Since past begins ends ∧ ¬ ends (first.after past) next) := by
  constructor
  · rintro ⟨before, event, later, hpast, hbegins, hends⟩
    rcases List.eq_nil_or_concat later with rfl | ⟨later, last, rfl⟩
    · obtain ⟨rfl, hnext⟩ := List.append_inj' hpast rfl
      cases hnext
      exact .inl hbegins
    · rw [List.concat_eq_append, ← List.cons_append, ← List.append_assoc] at hpast
      obtain ⟨rfl, hnext⟩ := List.append_inj' hpast rfl
      cases hnext
      refine .inr ⟨⟨before, event, later, rfl, hbegins, ?_⟩, hends later next [] (by simp)⟩
      rintro between last rest rfl
      exact hends between last (rest ++ [next]) (by simp)
  · rintro (hbegins | ⟨⟨before, event, later, rfl, hbegins, hends⟩, hlast⟩)
    · refine ⟨past, next, [], rfl, hbegins, ?_⟩
      intro between event rest hnil
      simp at hnil
    · refine ⟨before, event, later ++ [next], by simp, hbegins, ?_⟩
      intro between last rest hlater
      rcases List.eq_nil_or_concat rest with rfl | ⟨rest, final, rfl⟩
      · obtain ⟨rfl, hnext⟩ := List.append_inj' hlater rfl
        cases hnext
        exact hlast
      · rw [List.concat_eq_append, ← List.cons_append, ← List.append_assoc] at hlater
        obtain ⟨rfl, _⟩ := List.append_inj' hlater rfl
        exact hends between last rest rfl

theorem after_concat (first : Chip) (past : List Traffic) (next : Traffic) :
    first.after (past ++ [next]) = (first.after past).undergo next :=
  first.after_append past [next]

/-- By induction on the past from its end, as what came last decides. -/
theorem isSome_tempKey_after (hnew : first.tempKey = none) (past : List Traffic) :
    (first.after past).tempKey.isSome ↔
      first.Since past (fun chip next => ∃ source, chip.Loads next source) Drops := by
  induction past using List.reverseRecOn with
  | nil =>
    refine iff_of_false ?_ not_since_nil
    change ¬ first.tempKey.isSome
    rw [hnew]
    decide
  | append_singleton past next ih => rw [after_concat, isSome_tempKey_undergo, since_concat, ih]

theorem source_after (hnew : first.tempKey = none) (past : List Traffic) (source : Bool) :
    (first.after past).tempKey.map TempKey.source = some source ↔
      first.Since past (fun chip next => chip.Loads next source)
        fun chip next => chip.Drops next ∨ ∃ source, chip.Loads next source := by
  induction past using List.reverseRecOn with
  | nil =>
    refine iff_of_false ?_ not_since_nil
    change ¬ first.tempKey.map TempKey.source = some source
    rw [hnew]
    nofun
  | append_singleton past next ih => rw [after_concat, source_undergo, since_concat, ih]

theorem tempKey_after_sleep (past : List Traffic)
    (h : first.Since past (fun _ next => next.Sleeps) fun chip next => ∃ source, chip.Loads next source) :
    (first.after past).tempKey = none := by
  induction past using List.reverseRecOn with
  | nil => exact absurd h not_since_nil
  | append_singleton past next ih =>
    rw [after_concat, ← Option.not_isSome_iff_eq_none, isSome_tempKey_undergo]
    rcases since_concat.1 h with hsleeps | ⟨hsince, hloads⟩
    · rintro (⟨source, hloads⟩ | ⟨_, hkept⟩)
      · exact hloads.not_drops (.sleeps hsleeps)
      · exact hkept (.sleeps hsleeps)
    · rw [ih hsince]
      rintro (hloads' | ⟨hsome, _⟩)
      · exact hloads hloads'
      · cases hsome

end Past

end Chip

end SecureElement
