import SecureElement.Proofs.Chip.Bench
/-!
# Commands act on the core alone

What a command answers and what it makes of the core depends on nothing but the core, and the rest of the chip
stays as it is.
-/

namespace SecureElement

namespace Chip

/-- On all chips with the same core, the program ends the same and leaves the same core, and it changes nothing
else. -/
def Local {α : Type} (op : ChipM α) : Prop :=
  ∀ chip rest : Chip,
    op (rest.withCore chip.core) = viewed (fun chip' => rest.withCore chip'.core) (op chip)

namespace Local

variable {α β : Type}

theorem pure (a : α) : Local (Pure.pure a) := fun _ _ => rfl

theorem throw (status : Status) : Local (throw status : ChipM α) := fun _ _ => rfl

theorem refuse : Local (Chip.refuse : ChipM α) := fun _ _ => rfl

theorem orStatus (status : Status) (value : Option α) : Local (Chip.orStatus status value) := by
  cases value with
  | none => exact throw status
  | some a => exact pure a

theorem bind {op : ChipM α} {f : α → ChipM β} (hop : Local op) (hf : ∀ a, Local (f a)) :
    Local (op >>= f) := by
  intro chip rest
  rw [bind_apply, bind_apply, hop chip rest]
  cases op chip with
  | ok a chip' => exact hf a chip' rest
  | error status chip' => rfl

theorem get_bind {f : Chip → ChipM α} (hcore : ∀ chip rest : Chip, f (rest.withCore chip.core) = f chip)
    (hf : ∀ chip, Local (f chip)) : Local (get >>= f) := by
  intro chip rest
  rw [bind_apply, bind_apply, get_apply, get_apply]
  dsimp only
  rw [hcore chip rest]
  exact hf chip chip rest

theorem modify {f : Chip → Chip}
    (hcore : ∀ chip rest : Chip, f (rest.withCore chip.core) = rest.withCore (f chip).core) :
    Local (modify f : ChipM Unit) := by
  intro chip rest
  exact congrArg (EStateM.Result.ok ()) (hcore chip rest)

theorem modifyMemory (change : Memory → Memory) : Local (Chip.modifyMemory change) :=
  modify fun _ _ => rfl

theorem loadTempKey (value : Block) (source : Bool) : Local (Chip.loadTempKey value source) :=
  modify fun _ _ => rfl

theorem drawRandom : Local Chip.drawRandom :=
  (modify fun _ _ => rfl).bind fun _ => get_bind (fun _ _ => rfl) fun _ => pure _

theorem ite {c : Prop} [Decidable c] {op other : ChipM α} (h : Local op) (hother : Local other) :
    Local (if c then op else other) := by
  split
  · exact h
  · exact hother

theorem guarded {c : Prop} [Decidable c] {f : PUnit → ChipM α} (h : Local (f ⟨⟩)) :
    Local (if c then Chip.refuse >>= f else f ⟨⟩) :=
  ite (bind refuse fun _ => h) h

theorem guarded_throw {c : Prop} [Decidable c] {status : Status} {f : PUnit → ChipM α} (h : Local (f ⟨⟩)) :
    Local (if c then MonadExcept.throw status >>= f else f ⟨⟩) :=
  ite (bind (throw status) fun _ => h) h

/-! ## The commands -/

theorem read (param1 address : UInt8) : Local (Chip.read param1 address) := by
  unfold Chip.read
  apply get_bind (fun _ _ => rfl)
  intro chip
  cases Zone.ofParam? param1 with
  | none => exact throw _
  | some zone =>
    cases zone with
    | config => exact orStatus _ _
    | otp => exact orStatus _ _
    | data =>
      apply bind (orStatus _ _)
      intro slot
      exact guarded (pure _)

/-- What is left of an encrypted write once TempKey has been taken. -/
def writeUnder (key : TempKey) (slot : Fin 16) (param1 : UInt8) (param2 : Bytes 2) (data : List UInt8) :
    ChipM (List UInt8) := do
  let ciphertext ← Chip.orStatus .executionError (Bytes.ofList? 32 (data.take 32))
  let plain := Bytes.xor ciphertext key.value
  let expected := sha256 (sessionMessage key.value Opcode.write.code param1 param2 plain)
  if expected.toList ≠ data.drop 32 then Chip.refuse
  Chip.modifyMemory (·.writeSlot slot plain)
  return []

theorem writeEncrypted_apply (slot : Fin 16) (param1 : UInt8) (param2 : Bytes 2) (data : List UInt8)
    (chip : Chip) :
    Chip.writeEncrypted slot param1 param2 data chip =
      if (chip.memory.slotConfig slot).writePolicy = .never then .error .executionError chip
      else match chip.tempKey with
        | none => .error .executionError chip
        | some key => writeUnder key slot param1 param2 data { chip with tempKey := none } := by
  unfold Chip.writeEncrypted
  rw [bind_apply, get_apply]
  dsimp only
  by_cases hnever : (chip.memory.slotConfig slot).writePolicy = .never
  · rw [if_pos hnever, if_pos hnever]
    rfl
  · rw [if_neg hnever, if_neg hnever]
    cases chip.tempKey with
    | none => rfl
    | some key => rfl

theorem writeEncrypted (slot : Fin 16) (param1 : UInt8) (param2 : Bytes 2) (data : List UInt8) :
    Local (Chip.writeEncrypted slot param1 param2 data) := by
  intro chip rest
  rw [writeEncrypted_apply, writeEncrypted_apply]
  have hmemory : (rest.withCore chip.core).memory = chip.memory := rfl
  have hkey : (rest.withCore chip.core).tempKey = chip.tempKey := rfl
  rw [hmemory, hkey]
  split
  · rfl
  · cases chip.tempKey with
    | none => rfl
    | some key =>
      have hunder : Local (writeUnder key slot param1 param2 data) := by
        unfold writeUnder
        apply bind (orStatus _ _)
        intro ciphertext
        exact guarded (bind (modifyMemory _) fun _ => pure _)
      exact hunder { chip with tempKey := none } rest

theorem write (param1 : UInt8) (param2 : Bytes 2) (data : List UInt8) :
    Local (Chip.write param1 param2 data) := by
  unfold Chip.write
  apply get_bind (fun _ _ => rfl)
  intro chip
  cases Zone.ofParam? param1 with
  | none => exact throw _
  | some zone =>
    cases zone with
    | config => exact guarded (bind (modifyMemory _) fun _ => pure _)
    | otp => exact guarded (bind (modifyMemory _) fun _ => pure _)
    | data =>
      apply guarded
      apply bind (orStatus _ _)
      intro slot
      apply ite (writeEncrypted _ _ _ _)
      apply bind (orStatus _ _)
      intro key
      exact guarded (bind (modifyMemory _) fun _ => pure _)

theorem lock (param1 : UInt8) (crc : UInt16) : Local (Chip.lock param1 crc) := by
  unfold Chip.lock
  apply get_bind (fun _ _ => rfl)
  intro chip
  apply ite
  · exact guarded (guarded (bind (modifyMemory _) fun _ => pure _))
  · exact guarded (guarded (bind (modifyMemory _) fun _ => pure _))

theorem nonce (mode : UInt8) (data : List UInt8) : Local (Chip.nonce mode data) := by
  unfold Chip.nonce
  apply ite
  · apply bind (orStatus _ _)
    intro value
    exact bind (loadTempKey _ _) fun _ => pure _
  · apply ite
    · apply bind drawRandom
      intro random
      exact bind (loadTempKey _ _) fun _ => pure _
    · exact throw _

theorem genDig (zone slot : UInt8) : Local (Chip.genDig zone slot) := by
  unfold Chip.genDig
  apply get_bind (fun _ _ => rfl)
  intro chip
  apply guarded
  apply bind (orStatus _ _)
  intro index
  apply bind (orStatus _ _)
  intro previous
  exact bind (loadTempKey _ _) fun _ => pure _

theorem tempKeyFor (used source : Bool) : Local (Chip.tempKeyFor used source) := by
  unfold Chip.tempKeyFor
  apply ite _ (pure _)
  apply get_bind (fun _ _ => rfl)
  intro chip
  cases chip.tempKey with
  | none => exact refuse
  | some key => exact ite (pure _) refuse

theorem digestSlot (slot : UInt8) : Local (Chip.digestSlot slot) := by
  unfold Chip.digestSlot
  apply bind (orStatus _ _)
  intro index
  apply get_bind (fun _ _ => rfl)
  intro chip
  exact guarded (pure _)

theorem mac (modeByte slot : UInt8) (challenge : List UInt8) : Local (Chip.mac modeByte slot challenge) := by
  unfold Chip.mac
  apply bind (digestSlot _)
  intro index
  apply guarded_throw
  apply bind (tempKeyFor _ _)
  intro tempKey
  exact get_bind (fun _ _ => rfl) fun _ => pure _

theorem checkMac (mode slot : UInt8) (data : List UInt8) : Local (Chip.checkMac mode slot data) := by
  unfold Chip.checkMac
  apply guarded_throw
  apply bind (orStatus _ _)
  intro index
  apply bind (tempKeyFor _ _)
  intro tempKey
  apply get_bind (fun _ _ => rfl)
  intro chip
  exact guarded_throw (pure _)

theorem hmac (modeByte slot : UInt8) : Local (Chip.hmac modeByte slot) := by
  unfold Chip.hmac
  apply bind (digestSlot _)
  intro index
  apply bind (tempKeyFor _ _)
  intro tempKey
  exact get_bind (fun _ _ => rfl) fun _ => pure _

theorem run (command : Command) : Local (Chip.run command) := by
  unfold Chip.run
  cases command.opcode with
  | devRev => exact pure _
  | random => exact bind drawRandom fun _ => pure _
  | read => exact read _ _
  | write => exact write _ _ _
  | lock => exact lock _ _
  | nonce => exact nonce _ _
  | genDig => exact genDig _ _
  | mac => exact mac _ _ _
  | checkMac => exact checkMac _ _ _
  | hmac => exact hmac _ _
  | deriveKey => exact throw _
  | pause => exact throw _
  | updateExtra => exact throw _

end Local

/-- Two chips with the same core are still the same there after a command. -/
theorem core_run_congr (command : Command) {chip other : Chip} (hcore : other.core = chip.core) :
    (finalState (run command other)).core = (finalState (run command chip)).core := by
  have hlocal := Local.run command chip other
  rw [← hcore, withCore_core] at hlocal
  rw [hlocal]
  cases run command chip <;> rfl

end Chip

namespace Command

theorem performs_answer {command : Command} {chip chip' : Chip} {payload : List UInt8}
    (h : Chip.run command chip = .ok payload chip') :
    command.Performs chip.core (.ok payload) chip'.core := by
  intro other hcore
  have hlocal := Chip.Local.run command chip other
  rw [h, ← hcore] at hlocal
  exact hlocal

theorem performs_refusal {command : Command} {chip chip' : Chip} {status : Status}
    (h : Chip.run command chip = .error status chip') :
    command.Performs chip.core (.error status) chip'.core := by
  intro other hcore
  have hlocal := Chip.Local.run command chip other
  rw [h, ← hcore] at hlocal
  exact hlocal

end Command

end SecureElement
