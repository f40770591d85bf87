import SecureElement.Proofs.Chip.Locality
import SecureElement.Proofs.Chip.Memory
import SecureElement.Proofs.Chip.TempKey
/-!
# What commands can do

The few ways in which a command can change the memory, each with the locks that allow it, and what the chip can
answer. Whatever is wrong with a command, one that fails leaves the memory as it was.
-/

namespace SecureElement

namespace Command

/-- The write carries `plain` for a slot, encrypted and authenticated under `key`. -/
structure Authenticates (command : Command) (key : Block) (slot : Fin 16) (plain : Block) : Prop where
  opcode : command.opcode = .write
  zone : Zone.ofParam? command.param1 = some .data
  slot : Chip.slotOfAddress? (command.param2.byte 0) = some slot
  length : command.data.length = 64
  ciphertext : (Bytes.xor plain key).toList = command.data.take 32
  mac : (sha256 (sessionMessage key Opcode.write.code command.param1 command.param2 plain)).toList =
    command.data.drop 32

/-- What a command can make of the memory of a chip with core `k`. -/
inductive Changes (command : Command) (k : Core) : Memory → Prop where
  | nothing : Changes command k k.memory
  | config {start : Nat} {bytes : List UInt8} (hopen : k.memory.configLocked = false) (hlow : 16 ≤ start)
      (hhigh : start + bytes.length ≤ 84) : Changes command k (k.memory.writeConfig start bytes)
  | otp {start : Nat} {bytes : List UInt8} (hconfig : k.memory.configLocked = true)
      (hopen : k.memory.dataLocked = false) : Changes command k (k.memory.writeOtp start bytes)
  /-- A write in the clear. -/
  | slot {slot : Fin 16} {key : Block} (hconfig : k.memory.configLocked = true)
      (hpolicy : k.memory.dataLocked = true → (k.memory.slotConfig slot).writePolicy = .always) :
      Changes command k (k.memory.writeSlot slot key)
  | encrypted {slot : Fin 16} {key : TempKey} {plain : Block} (hconfig : k.memory.configLocked = true)
      (hdata : k.memory.dataLocked = true) (hpolicy : (k.memory.slotConfig slot).writePolicy ≠ .never)
      (hkey : k.tempKey = some key) (hwrite : command.Authenticates key.value slot plain) :
      Changes command k (k.memory.writeSlot slot plain)
  | lockConfig (hopen : k.memory.configLocked = false) : Changes command k k.memory.lockConfig
  | lockData (hconfig : k.memory.configLocked = true) (hopen : k.memory.dataLocked = false) :
      Changes command k k.memory.lockData

/-- How many bytes the operations of the host ask for in answer to a command. A bare status counts as one. -/
def answerLength (command : Command) : Nat :=
  match command.opcode with
  | .read => if Flag.decode 0x80 command.param1 then 32 else 4
  | .devRev => 4
  | .random => 32
  | .mac => 32
  | .hmac => 32
  | .nonce => if command.param1 = 0x03 then 1 else 32
  | .write => 1
  | .lock => 1
  | .genDig => 1
  | .checkMac => 1
  | .deriveKey => 1
  | .pause => 1
  | .updateExtra => 1

end Command

def Status.IsRefusal (status : Status) : Prop :=
  status = .executionError ∨ status = .parseError ∨ status = .checkMacMiscompare

namespace Chip

def HasCore (k : Core) (chip : Chip) : Prop :=
  chip.core = k

/-- A program that may fail by refusing, and then leaves the memory alone. -/
def Refuses (k : Core) (status : Status) (l : Core) : Prop :=
  status.IsRefusal ∧ l.memory = k.memory

variable {α : Type} {k : Core} {ok : α → Core → Prop}

theorem get_runs {f : Chip → ChipM α} {fail : Status → Core → Prop}
    (h : ∀ chip : Chip, chip.core = k → Runs HasCore (f chip) k ok fail) :
    Runs HasCore (get >>= f) k ok fail := by
  intro chip hcore
  exact h chip hcore chip hcore

theorem refuse_runs : Runs HasCore (refuse : ChipM α) k ok (Refuses k) :=
  Runs.throw ⟨.inl rfl, rfl⟩

theorem throw_runs {status : Status} (h : status.IsRefusal) :
    Runs HasCore (throw status : ChipM α) k ok (Refuses k) :=
  Runs.throw ⟨h, rfl⟩

theorem guarded_runs {c : Prop} [Decidable c] {f : PUnit → ChipM α}
    (h : ¬ c → Runs HasCore (f ⟨⟩) k ok (Refuses k)) :
    Runs HasCore (if c then refuse >>= f else f ⟨⟩) k ok (Refuses k) := by
  split
  · exact Runs.bind_never refuse_runs
  · next hc => exact h hc

theorem guarded_throw_runs {c : Prop} [Decidable c] {status : Status} {f : PUnit → ChipM α}
    (hstatus : status.IsRefusal) (h : ¬ c → Runs HasCore (f ⟨⟩) k ok (Refuses k)) :
    Runs HasCore (if c then throw status >>= f else f ⟨⟩) k ok (Refuses k) := by
  split
  · exact Runs.bind_never (throw_runs hstatus)
  · next hc => exact h hc

theorem orStatus_runs {status : Status} (value : Option α) (hstatus : status.IsRefusal) :
    Runs HasCore (orStatus status value) k (fun a l => value = some a ∧ l = k) (Refuses k) := by
  cases value with
  | none => exact throw_runs hstatus
  | some a => exact Runs.pure ⟨rfl, rfl⟩

theorem modifyMemory_runs (change : Memory → Memory) (fail : Status → Core → Prop) :
    Runs HasCore (modifyMemory change) k (fun _ l => l = k.withMemory (change k.memory)) fail := by
  intro chip hcore
  subst hcore
  exact ⟨_, rfl, rfl⟩

theorem drawRandom_runs (fail : Status → Core → Prop) :
    Runs HasCore drawRandom k (fun _ l => l.memory = k.memory) fail := by
  intro chip hcore
  subst hcore
  exact ⟨_, rfl, rfl⟩

theorem loadTempKey_runs (value : Block) (source : Bool) (fail : Status → Core → Prop) :
    Runs HasCore (loadTempKey value source) k (fun _ l => l.memory = k.memory) fail := by
  intro chip hcore
  subst hcore
  exact ⟨_, rfl, rfl⟩

/-! ## Commands that only answer -/

/-- The host is to receive `n` bytes for the payload; a status of success, which has none, counts as one. -/
def ArrivesAs (n : Nat) (payload : List UInt8) : Prop :=
  if n = 1 then payload = [] else payload.length = n

theorem arrivesAs_one : ArrivesAs 1 [] := by
  unfold ArrivesAs
  rw [if_pos rfl]

theorem arrivesAs_block (block : Block) : ArrivesAs 32 block.toList := by
  unfold ArrivesAs
  rw [if_neg (by decide), Vector.length_toList]

/-- The command answers `n` bytes and leaves the memory alone. -/
def Answers (n : Nat) (k : Core) (payload : List UInt8) (l : Core) : Prop :=
  ArrivesAs n payload ∧ l.memory = k.memory

theorem length_of_slice? {m : Nat} {bytes : Bytes m} {start len : Nat} {part : List UInt8}
    (h : bytes.slice? start len = some part) : part.length = len := by
  unfold Bytes.slice? at h
  split at h
  · next hfits =>
    have hpart := Option.some.inj h
    rw [← hpart, List.length_take, List.length_drop, Vector.length_toList]
    omega
  · cases h

theorem slice?_runs {m : Nat} (bytes : Bytes m) (start : Nat) {len : Nat} (hlen : len ≠ 1) :
    Runs HasCore (orStatus .parseError (bytes.slice? start len)) k (Answers len k) (Refuses k) := by
  apply (orStatus_runs _ (.inr (.inl rfl))).mono _ fun _ _ h => h
  intro part l hl
  have hlength := length_of_slice? hl.1
  exact ⟨(if_neg hlen).mpr hlength, congrArg Core.memory hl.2⟩

theorem read_runs (param1 address : UInt8) :
    Runs HasCore (read param1 address) k (Answers (if Flag.decode 0x80 param1 then 32 else 4) k)
      (Refuses k) := by
  have hlen : (if Flag.decode 0x80 param1 then 32 else 4) ≠ 1 := by
    split <;> decide
  unfold read
  apply get_runs
  intro chip hcore
  cases Zone.ofParam? param1 with
  | none => exact throw_runs (.inr (.inl rfl))
  | some zone =>
    cases zone with
    | config => exact slice?_runs _ _ hlen
    | otp => exact slice?_runs _ _ hlen
    | data =>
      apply (orStatus_runs _ (.inl rfl)).bind
      intro slot l hl
      obtain ⟨_, rfl⟩ := hl
      apply guarded_runs
      intro hallowed
      have hlong : (if Flag.decode 0x80 param1 then 32 else 4) = 32 := by
        by_contra hshort
        exact hallowed (.inr (.inl hshort))
      rw [hlong]
      exact Runs.pure ⟨arrivesAs_block _, rfl⟩

theorem nonce_runs (mode : UInt8) (data : List UInt8) :
    Runs HasCore (nonce mode data) k (Answers (if mode = 0x03 then 1 else 32) k) (Refuses k) := by
  unfold nonce
  by_cases hthrough : mode = 0x03
  · rw [if_pos hthrough, if_pos hthrough]
    apply (orStatus_runs _ (.inr (.inl rfl))).bind
    intro value l hl
    obtain ⟨_, rfl⟩ := hl
    apply (loadTempKey_runs _ _ _).bind
    intro _ l' hmemory
    exact Runs.pure ⟨arrivesAs_one, hmemory⟩
  · rw [if_neg hthrough, if_neg hthrough]
    split
    · apply (drawRandom_runs _).bind
      intro random l hmemory
      apply (loadTempKey_runs _ _ _).bind
      intro _ l' hmemory'
      exact Runs.pure ⟨arrivesAs_block _, hmemory'.trans hmemory⟩
    · exact throw_runs (.inr (.inl rfl))

theorem genDig_runs (zone slot : UInt8) :
    Runs HasCore (genDig zone slot) k (Answers 1 k) (Refuses k) := by
  unfold genDig
  apply get_runs
  intro chip hcore
  apply guarded_runs
  intro hallowed
  apply (orStatus_runs _ (.inl rfl)).bind
  intro index l hl
  obtain ⟨_, rfl⟩ := hl
  apply (orStatus_runs _ (.inl rfl)).bind
  intro previous l hl
  obtain ⟨_, rfl⟩ := hl
  apply (loadTempKey_runs _ _ _).bind
  intro _ l' hmemory
  exact Runs.pure ⟨arrivesAs_one, hmemory⟩

theorem tempKeyFor_runs (used source : Bool) :
    Runs HasCore (tempKeyFor used source) k (fun _ l => l = k) (Refuses k) := by
  unfold tempKeyFor
  split
  · apply get_runs
    intro chip hcore
    cases chip.tempKey with
    | none => exact refuse_runs
    | some key =>
      dsimp only
      split
      · exact Runs.pure rfl
      · exact refuse_runs
  · exact Runs.pure rfl

theorem digestSlot_runs (slot : UInt8) :
    Runs HasCore (digestSlot slot) k (fun _ l => l = k) (Refuses k) := by
  unfold digestSlot
  apply (orStatus_runs _ (.inl rfl)).bind
  intro index l hl
  obtain ⟨_, rfl⟩ := hl
  apply get_runs
  intro chip hcore
  apply guarded_runs
  intro _
  exact Runs.pure rfl

theorem mac_runs (modeByte slot : UInt8) (challenge : List UInt8) :
    Runs HasCore (mac modeByte slot challenge) k (Answers 32 k) (Refuses k) := by
  unfold mac
  apply (digestSlot_runs slot).bind
  intro index l hl
  subst hl
  apply guarded_throw_runs (.inr (.inl rfl))
  intro _
  apply (tempKeyFor_runs _ _).bind
  intro tempKey l hl
  subst hl
  apply get_runs
  intro chip hcore
  exact Runs.pure ⟨arrivesAs_block _, rfl⟩

theorem checkMac_runs (mode slot : UInt8) (data : List UInt8) :
    Runs HasCore (checkMac mode slot data) k (Answers 1 k) (Refuses k) := by
  unfold checkMac
  apply guarded_throw_runs (.inr (.inl rfl))
  intro _
  apply (orStatus_runs _ (.inr (.inl rfl))).bind
  intro index l hl
  obtain ⟨_, rfl⟩ := hl
  apply (tempKeyFor_runs _ _).bind
  intro tempKey l hl
  subst hl
  apply get_runs
  intro chip hcore
  apply guarded_throw_runs (.inr (.inr rfl))
  intro _
  exact Runs.pure ⟨arrivesAs_one, rfl⟩

theorem hmac_runs (modeByte slot : UInt8) :
    Runs HasCore (hmac modeByte slot) k (Answers 32 k) (Refuses k) := by
  unfold hmac
  apply (digestSlot_runs slot).bind
  intro index l hl
  subst hl
  apply (tempKeyFor_runs _ _).bind
  intro tempKey l hl
  subst hl
  apply get_runs
  intro chip hcore
  exact Runs.pure ⟨arrivesAs_block _, rfl⟩

/-! ## Commands that change the memory -/

theorem lock_runs (command : Command) (param1 : UInt8) (crc : UInt16) :
    Runs HasCore (lock param1 crc) k (fun payload l => ArrivesAs 1 payload ∧ command.Changes k l.memory)
      (Refuses k) := by
  unfold lock
  apply get_runs
  intro chip hcore
  subst hcore
  dsimp only
  split
  · apply guarded_runs
    intro hallowed
    apply guarded_runs
    intro _
    apply (modifyMemory_runs _ _).bind
    intro _ l hl
    subst hl
    have hconfig : chip.memory.configLocked = true := by simpa using fun h => hallowed (.inl h)
    have hopen : chip.memory.dataLocked = false := by simpa using fun h => hallowed (.inr h)
    exact Runs.pure ⟨arrivesAs_one, .lockData hconfig hopen⟩
  · apply guarded_runs
    intro hopen
    apply guarded_runs
    intro _
    apply (modifyMemory_runs _ _).bind
    intro _ l hl
    subst hl
    have hconfig : chip.memory.configLocked = false := by simpa using hopen
    exact Runs.pure ⟨arrivesAs_one, .lockConfig hconfig⟩

theorem writeEncrypted_runs (command : Command) {slot : Fin 16} (hopcode : command.opcode = .write)
    (hzone : Zone.ofParam? command.param1 = some .data)
    (hslot : slotOfAddress? (command.param2.byte 0) = some slot)
    (hconfig : k.memory.configLocked = true) (hdata : k.memory.dataLocked = true)
    (hlength : command.data.length = 64) :
    Runs HasCore (writeEncrypted slot command.param1 command.param2 command.data) k
      (fun payload l => ArrivesAs 1 payload ∧ command.Changes k l.memory) (Refuses k) := by
  intro chip hcore
  rw [Local.writeEncrypted_apply]
  by_cases hnever : (chip.memory.slotConfig slot).writePolicy = .never
  · rw [if_pos hnever]
    exact ⟨k, hcore, .inl rfl, rfl⟩
  rw [if_neg hnever]
  cases htemp : chip.tempKey with
  | none => exact ⟨k, hcore, .inl rfl, rfl⟩
  | some key =>
    subst hcore
    -- from here on TempKey is gone, whatever comes of the write
    let taken : Core := { chip.core with tempKey := none }
    have hunder : Runs HasCore (Local.writeUnder key slot command.param1 command.param2 command.data)
        taken (fun payload l => ArrivesAs 1 payload ∧ command.Changes chip.core l.memory)
        (Refuses taken) := by
      unfold Local.writeUnder
      apply (orStatus_runs _ (.inl rfl)).bind
      intro ciphertext l hl
      obtain ⟨hciphertext, rfl⟩ := hl
      have hbytes := Bytes.ofList?_eq_some_iff.1 hciphertext
      apply guarded_runs
      intro hmac
      apply (modifyMemory_runs _ _).bind
      intro _ l hl
      subst hl
      refine Runs.pure ⟨arrivesAs_one, .encrypted hconfig hdata hnever htemp ?_⟩
      exact ⟨hopcode, hzone, hslot, hlength, by rw [Bytes.xor_xor_cancel, hbytes], not_not.1 hmac⟩
    exact hunder _ rfl

theorem write_runs (command : Command) (hopcode : command.opcode = .write) :
    Runs HasCore (write command.param1 command.param2 command.data) k
      (fun payload l => ArrivesAs 1 payload ∧ command.Changes k l.memory) (Refuses k) := by
  unfold write
  apply get_runs
  intro chip hcore
  subst hcore
  cases hzone : Zone.ofParam? command.param1 with
  | none => exact throw_runs (.inr (.inl rfl))
  | some zone =>
    cases zone with
    | config =>
      apply guarded_runs
      intro hallowed
      apply (modifyMemory_runs _ _).bind
      intro _ l hl
      subst hl
      simp only [not_or, not_not, Bool.not_eq_true] at hallowed
      obtain ⟨hopen, hlength, hlow, hhigh⟩ := hallowed
      rw [UInt8.not_lt, UInt8.le_iff_toNat_le] at hlow
      rw [UInt8.not_le, UInt8.lt_iff_toNat_lt] at hhigh
      have hfour : (4 : UInt8).toNat = 4 := rfl
      have hword : lockWordAddress.toNat = 21 := rfl
      exact Runs.pure ⟨arrivesAs_one, .config hopen (by omega) (by omega)⟩
    | otp =>
      apply guarded_runs
      intro hallowed
      apply (modifyMemory_runs _ _).bind
      intro _ l hl
      subst hl
      simp only [not_or, not_not, Bool.not_eq_true, Bool.not_eq_false] at hallowed
      exact Runs.pure ⟨arrivesAs_one, .otp hallowed.1 hallowed.2.1⟩
    | data =>
      apply guarded_runs
      intro hallowed
      have hconfig : chip.memory.configLocked = true := by simpa using hallowed
      apply (orStatus_runs _ (.inl rfl)).bind
      intro slot l hl
      obtain ⟨hslot, rfl⟩ := hl
      split
      · next hsealed =>
        exact writeEncrypted_runs command hopcode hzone hslot hconfig hsealed.1 hsealed.2
      · apply (orStatus_runs _ (.inl rfl)).bind
        intro key l hl
        obtain ⟨_, rfl⟩ := hl
        apply guarded_runs
        intro hpolicy
        apply (modifyMemory_runs _ _).bind
        intro _ l hl
        subst hl
        have halways (hlocked : chip.memory.dataLocked = true) :
            (chip.memory.slotConfig slot).writePolicy = .always := by
          by_contra hother
          exact hpolicy ⟨hlocked, hother⟩
        exact Runs.pure ⟨arrivesAs_one, .slot hconfig halways⟩

/-- What comes of a command: it answers as many bytes as the host expects and changes the memory in one of a few
ways, or it is refused and changes nothing there. -/
theorem run_runs (command : Command) :
    Runs HasCore (run command) k
      (fun payload l => ArrivesAs command.answerLength payload ∧ command.Changes k l.memory)
      (Refuses k) := by
  have hanswers {n : Nat} {op : ChipM (List UInt8)} (h : Runs HasCore op k (Answers n k) (Refuses k)) :
      Runs HasCore op k (fun payload l => ArrivesAs n payload ∧ command.Changes k l.memory) (Refuses k) := by
    apply h.mono _ fun _ _ h => h
    intro payload l hl
    exact ⟨hl.1, hl.2 ▸ .nothing⟩
  unfold run Command.answerLength
  cases hopcode : command.opcode with
  | devRev => exact hanswers (Runs.pure ⟨rfl, rfl⟩)
  | random =>
    apply hanswers
    apply (drawRandom_runs _).bind
    intro random l hmemory
    exact Runs.pure ⟨arrivesAs_block random, hmemory⟩
  | read => exact hanswers (read_runs _ _)
  | write => exact write_runs command hopcode
  | lock => exact lock_runs command _ _
  | nonce => exact hanswers (nonce_runs _ _)
  | genDig => exact hanswers (genDig_runs _ _)
  | mac => exact hanswers (mac_runs _ _ _)
  | checkMac => exact hanswers (checkMac_runs _ _ _)
  | hmac => exact hanswers (hmac_runs _ _)
  | deriveKey => exact throw_runs (.inr (.inl rfl))
  | pause => exact throw_runs (.inr (.inl rfl))
  | updateExtra => exact throw_runs (.inr (.inl rfl))

end Chip

end SecureElement
