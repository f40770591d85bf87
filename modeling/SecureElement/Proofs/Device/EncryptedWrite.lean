import SecureElement.Proofs.Chip.TempKey
import SecureElement.Proofs.Device.Zones
/-!
# Encrypted writes to a chip

Host and chip come to the session key on their own, each with the key that it takes to be in the slot. A write
replaces the key of one slot or changes nothing; two keys that differ pass only over a collision of the hash.
-/

namespace SecureElement

variable {σ : Type} [ChipBus σ] {calm : Prop} {k : Core} {slot : UInt8}

/-! ## The host's side -/

theorem nonceTempKey_toList (random : Block) (otp : Bytes 64) :
    nonceTempKey random.toList otp.toList = .ok (nonceKey random otp) := by
  have hlong : ¬ otp.toList.length ≤ nonceInputSize := by
    simp [nonceInputSize]
  have hinput : (otp.toList.take nonceInputSize).length = nonceInputSize := by
    simp [nonceInputSize]
  have hmessage : nonceMessage random (otp.toList.take nonceInputSize) =
      random.toList ++ otp.toList.take nonceInputSize ++ [0x16, 0x00, 0x00] := by
    simp [nonceMessage, nonceFields, Message.Field.encode, Opcode.code]
  unfold nonceTempKey nonceKey
  rw [← hmessage]
  simp only [exactly_toList, bind, Except.bind, if_neg hlong, assemble_nonceFields random hinput]
  rfl

theorem genDigTempKey_toList (previous key : Block) (slot : UInt8) :
    genDigTempKey previous.toList slot key.toList =
      .ok (sha256 (sessionMessage key Opcode.genDig.code Zone.data.bits (Bytes.pair slot 0) previous)) := by
  unfold genDigTempKey
  simp only [exactly_toList, Bytes.ofUInt16_toUInt16, assemble_sessionFields, bind, Except.bind]
  rfl

theorem EncryptedWrite.prepare_eq (random : Block) (otp : Bytes 64) (hslot : slot.toNat < 16)
    (currentKey newKey : Block) :
    prepare random.toList otp.toList slot currentKey.toList newKey.toList =
      .ok { param1 := Zone.data.blockParam
            address := slot <<< 3
            ciphertext := Bytes.xor newKey (sessionKey random otp slot currentKey)
            mac := sha256 (writeMessage (sessionKey random otp slot currentKey) slot newKey) } := by
  have hlow : ¬ 16 ≤ slot := by
    rw [UInt8.not_le, UInt8.lt_iff_toNat_lt]
    exact hslot
  simp only [prepare, if_neg hlow, nonceTempKey_toList, genDigTempKey_toList, encrypt, writeMac,
    exactly_toList, assemble_sessionFields, bind, Except.bind, pure, Except.pure]
  rfl

namespace Core

/-- The session key of the next encrypted write, as it comes out for a key that is taken to be in the slot. -/
def sessionKey (k : Core) (slot : UInt8) (key : Block) : Block :=
  SecureElement.sessionKey k.nextRandom k.memory.otp slot key

/-- What a chip that holds `stored` makes of a new key that is sent to it under `currentKey`. -/
def deciphered (k : Core) (slot : UInt8) (stored currentKey newKey : Block) : Block :=
  Bytes.xor (Bytes.xor newKey (k.sessionKey slot currentKey)) (k.sessionKey slot stored)

def Accepts (k : Core) (slot : UInt8) (stored currentKey newKey : Block) : Prop :=
  sha256 (writeMessage (k.sessionKey slot stored) slot (k.deciphered slot stored currentKey newKey)) =
    sha256 (writeMessage (k.sessionKey slot currentKey) slot newKey)

theorem deciphered_of_sessionKey_eq {stored currentKey : Block}
    (h : k.sessionKey slot currentKey = k.sessionKey slot stored) (newKey : Block) :
    k.deciphered slot stored currentKey newKey = newKey := by
  unfold deciphered
  rw [h, Bytes.xor_xor_cancel]

theorem deciphered_self (stored newKey : Block) : k.deciphered slot stored stored newKey = newKey :=
  deciphered_of_sessionKey_eq rfl newKey

theorem accepts_self (stored newKey : Block) : k.Accepts slot stored stored newKey := by
  unfold Accepts
  rw [deciphered_self]

/-- A chip accepts nothing but the new key, unless the two messages collide. -/
theorem Accepts.eq_or_collision {stored currentKey newKey : Block}
    (h : k.Accepts slot stored currentKey newKey) :
    k.deciphered slot stored currentKey newKey = newKey ∨
      (writeMessage (k.sessionKey slot currentKey) slot newKey ≠
          writeMessage (k.sessionKey slot stored) slot (k.deciphered slot stored currentKey newKey) ∧
        sha256 (writeMessage (k.sessionKey slot currentKey) slot newKey) =
          sha256 (writeMessage (k.sessionKey slot stored) slot
            (k.deciphered slot stored currentKey newKey))) := by
  by_cases hkeys : k.sessionKey slot currentKey = k.sessionKey slot stored
  · exact .inl (deciphered_of_sessionKey_eq hkeys newKey)
  · exact .inr ⟨fun hmessages => hkeys (writeMessage_tempKey hmessages), h.symm⟩

end Core

namespace Device

/-! ## Exchanges -/

theorem nonce_runs {input : List UInt8} (hlength : input.length = nonceInputSize) :
    Runs (Serves (σ := σ) calm) (nonce input) k
      (fun answer l => answer = k.nextRandom.toList ∧
        l = k.draw.withTempKey (some (sha256 (k.nextRandom.toList ++ input ++ [0x16, 0x00, 0x00]))))
      (fun _ l => ¬calm ∧ l.memory = k.memory) := by
  have hthrough : ¬ input.length = 32 := by
    rw [hlength]
    decide
  unfold nonce
  rw [if_neg hthrough, if_pos hlength]
  refine (exchange_payload_runs k.nextRandom (by decide) (by decide) ?_
    (Chip.performs_nonce hlength)).mono (fun _ _ h => h) ?_
  · change input.length ≤ maxCommandData
    rw [hlength]
    decide
  · intro _ l hcut
    exact ⟨hcut.1, hcut.kept rfl⟩

theorem genDigest_runs {temp : Block} (hslot : slot.toNat < 16) (hconfig : k.memory.configLocked = true)
    (htemp : k.tempKey = some ⟨temp, false⟩) :
    Runs (Serves (σ := σ) calm) (genDigest .data slot) k
      (fun _ l => l = k.withTempKey (some (sha256 (sessionMessage (k.memory.key ⟨slot.toNat, hslot⟩)
        Opcode.genDig.code Zone.data.bits (Bytes.pair slot 0) temp))))
      (fun _ l => ¬calm ∧ l.memory = k.memory) := by
  unfold genDigest
  rw [if_pos rfl, checkKeySlot_eq hslot]
  refine (require_ok_runs _).bind ?_
  intro _ l hl
  obtain ⟨_, rfl⟩ := hl
  refine (exchangeAck_runs (Nat.zero_le _) (Chip.performs_genDig hslot hconfig htemp)).mono
    (fun _ _ h => h) ?_
  intro _ l' hcut
  exact ⟨hcut.1, hcut.kept rfl⟩

theorem writeBlock_encrypted_runs {temp : Block} (ciphertext mac : Block) (hslot : slot.toNat < 16)
    (hconfig : k.memory.configLocked = true) (hdata : k.memory.dataLocked = true)
    (hpolicy : (k.memory.slotConfig ⟨slot.toNat, hslot⟩).writePolicy ≠ .never)
    (htemp : k.tempKey = some ⟨temp, false⟩) :
    let plain := Bytes.xor ciphertext temp
    let written := k.memory.writeSlot ⟨slot.toNat, hslot⟩ plain
    Runs (Serves (σ := σ) calm) (writeBlock .data (slot <<< 3) ciphertext (some mac)) k
      (fun _ l => sha256 (writeMessage temp slot plain) = mac ∧ l.memory = written)
      (fun error l => (l.memory = k.memory ∧ (calm → sha256 (writeMessage temp slot plain) ≠ mac)) ∨
        (¬calm ∧ error.status? = none ∧ sha256 (writeMessage temp slot plain) = mac ∧
          l.memory = written)) := by
  intro plain written
  have hlength : (ciphertext.toList ++ mac.toList).length ≤ maxCommandData := by
    simp [maxCommandData]
  by_cases hmatch : sha256 (writeMessage temp slot plain) = mac
  · refine (exchangeAck_runs hlength
      (Chip.performs_encrypted_write hslot hconfig hdata hpolicy htemp hmatch)).mono ?_ ?_
    · intro _ l hl
      exact ⟨hmatch, congrArg Core.memory hl⟩
    · intro error l hcut
      obtain ⟨hrough, hstatus, hl | hl⟩ := hcut
      · exact .inl ⟨congrArg Core.memory hl, fun c => absurd c hrough⟩
      · exact .inr ⟨hrough, hstatus, hmatch, congrArg Core.memory hl⟩
  · refine Runs.bind_never ((exchange_refused_runs 1 (.inl rfl) hlength
      (Chip.performs_encrypted_write_refused hslot hconfig hdata hpolicy htemp hmatch)).mono
      (fun _ _ h => h) ?_)
    intro error l hl
    rcases hl with ⟨_, hl⟩ | hcut
    · exact .inl ⟨by rw [hl, Core.withTempKey_memory], fun _ => hmatch⟩
    · exact .inl ⟨hcut.kept rfl, fun _ => hmatch⟩

/-- An encrypted write puts into the slot what the chip makes of it, or changes nothing. On a calm chip it is
refused only if the digests differ, and a refused one has changed nothing. -/
theorem writeKeySlotEncrypted_runs (hslot : slot.toNat < 16) (newKey currentKey : Block)
    (hconfig : k.memory.configLocked = true) (hdata : k.memory.dataLocked = true)
    (hpolicy : (k.memory.slotConfig ⟨slot.toNat, hslot⟩).writePolicy ≠ .never) :
    let stored := k.memory.key ⟨slot.toNat, hslot⟩
    let written := k.memory.writeSlot ⟨slot.toNat, hslot⟩ (k.deciphered slot stored currentKey newKey)
    Runs (Serves (σ := σ) calm) (writeKeySlotEncrypted slot newKey currentKey) k
      (fun _ l => k.Accepts slot stored currentKey newKey ∧ l.memory = written)
      (fun error l => (l.memory = k.memory ∧ (calm → ¬ k.Accepts slot stored currentKey newKey)) ∨
        (¬calm ∧ error.status? = none ∧ k.Accepts slot stored currentKey newKey ∧ l.memory = written)) := by
  intro stored written
  have hcut {l : Core} (h : ¬calm ∧ l.memory = k.memory) :
      l.memory = k.memory ∧ (calm → ¬ k.Accepts slot stored currentKey newKey) :=
    ⟨h.2, fun c => absurd c h.1⟩
  unfold writeKeySlotEncrypted
  rw [checkKeySlot_eq hslot]
  refine (require_ok_runs _).bind ?_
  intro _ l hl
  obtain ⟨_, rfl⟩ := hl
  refine (otpZone_runs.mono (fun _ _ h => h) fun _ _ h => .inl (hcut ⟨h.1, h.kept rfl⟩)).bind ?_
  intro otp l' hl'
  obtain ⟨rfl, rfl⟩ := hl'
  -- from here on TempKey moves, and the memory does not until the write
  have hinput : (l'.memory.otp.toList.take nonceInputSize).length = nonceInputSize := by
    simp [nonceInputSize]
  refine ((nonce_runs hinput).mono (fun _ _ h => h) fun _ _ h => .inl (hcut h)).bind ?_
  intro random l₁ hl₁
  obtain ⟨rfl, hl₁⟩ := hl₁
  have hmemory₁ : l₁.memory = l'.memory := by
    rw [hl₁, Core.withTempKey_memory, Core.draw_memory]
  have htemp₁ : l₁.tempKey = some ⟨nonceKey l'.nextRandom l'.memory.otp, false⟩ := by
    rw [hl₁]
    rfl
  refine ((genDigest_runs hslot (by rw [hmemory₁, hconfig]) htemp₁).mono (fun _ _ h => h) ?_).bind ?_
  · intro _ l₂ hl₂
    exact .inl (hcut ⟨hl₂.1, hl₂.2.trans hmemory₁⟩)
  intro _ l₂ hl₂
  have hmemory₂ : l₂.memory = l'.memory := by
    rw [hl₂, Core.withTempKey_memory, hmemory₁]
  have htemp₂ : l₂.tempKey = some ⟨l'.sessionKey slot stored, false⟩ := by
    rw [hl₂, hmemory₁]
    rfl
  rw [EncryptedWrite.prepare_eq _ _ hslot]
  have hwrite : Runs (Serves (σ := σ) calm) _ l₂ _ _ :=
    writeBlock_encrypted_runs (Bytes.xor newKey (l'.sessionKey slot currentKey))
      (sha256 (writeMessage (l'.sessionKey slot currentKey) slot newKey)) hslot (by rw [hmemory₂, hconfig])
      (by rw [hmemory₂, hdata]) (by rw [hmemory₂]; exact hpolicy) htemp₂
  rw [hmemory₂] at hwrite
  exact hwrite

theorem writeKeySlotEncrypted_key_runs (hslot : slot.toNat < 16) (newKey currentKey : Block)
    (hconfig : k.memory.configLocked = true) (hdata : k.memory.dataLocked = true)
    (hpolicy : (k.memory.slotConfig ⟨slot.toNat, hslot⟩).writePolicy ≠ .never) :
    let index : Fin 16 := ⟨slot.toNat, hslot⟩
    let sent := writeMessage (k.sessionKey slot currentKey) slot newKey
    let rebuilt (l : Core) := writeMessage (k.sessionKey slot (k.memory.key index)) slot (l.memory.key index)
    Runs (Serves (σ := σ) calm) (writeKeySlotEncrypted slot newKey currentKey) k
      (fun _ l => Memory.SameButSlot index k.memory l.memory ∧
        (currentKey = k.memory.key index → l.memory.key index = newKey) ∧
        (l.memory.key index = newKey ∨ (sent ≠ rebuilt l ∧ sha256 sent = sha256 (rebuilt l))))
      (fun error l => Memory.SameButSlot index k.memory l.memory ∧
        (currentKey = k.memory.key index → ¬calm ∧
          (l.memory.key index = k.memory.key index ∨ l.memory.key index = newKey)) ∧
        (l.memory.key index = k.memory.key index ∨ error.status? = none)) := by
  intro index sent rebuilt
  let plain := k.deciphered slot (k.memory.key index) currentKey newKey
  have hsame := k.memory.sameButSlot_writeSlot index plain
  have hkey : (k.memory.writeSlot index plain).key index = plain := k.memory.key_writeSlot index plain
  have hright (h : currentKey = k.memory.key index) : plain = newKey := by
    change k.deciphered slot (k.memory.key index) currentKey newKey = newKey
    rw [h, Core.deciphered_self]
  refine (writeKeySlotEncrypted_runs hslot newKey currentKey hconfig hdata hpolicy).mono ?_ ?_
  · intro _ l hl
    obtain ⟨haccepts, hmemory⟩ := hl
    have hplain : l.memory.key index = plain := by
      rw [hmemory]
      exact hkey
    refine ⟨?_, fun h => hplain.trans (hright h), ?_⟩
    · rw [hmemory]
      exact hsame
    · change _ ∨ (sent ≠ writeMessage _ slot (l.memory.key index) ∧
        sha256 sent = sha256 (writeMessage _ slot (l.memory.key index)))
      rw [hplain]
      exact haccepts.eq_or_collision
  · intro error l hl
    rcases hl with ⟨hmemory, hrefused⟩ | ⟨hrough, hstatus, _, hmemory⟩
    · rw [hmemory]
      refine ⟨.refl _ _, fun h => ⟨fun c => ?_, .inl rfl⟩, .inl rfl⟩
      refine absurd ?_ (hrefused c)
      rw [h]
      exact Core.accepts_self _ _
    · have hplain : l.memory.key index = plain := by
        rw [hmemory]
        exact hkey
      refine ⟨?_, fun h => ⟨hrough, .inr (hplain.trans (hright h))⟩, .inr hstatus⟩
      rw [hmemory]
      exact hsame

/-- An encrypted write to an awake chip whose zones are locked. With the right key it succeeds on a calm chip, and
on any chip it leaves the old key or the new one. With any key it ends well only over the new key or a collision
of the digested messages, leaves the old key where the chip reports an error, and touches nothing else. -/
theorem encrypted_write_all_or_nothing (device : Device σ) (slot : UInt8) (hslot : slot.toNat < 16)
    (newKey currentKey : Block) (hawake : device.bench.chip.awake = true)
    (hconfig : device.bench.chip.memory.configLocked = true)
    (hdata : device.bench.chip.memory.dataLocked = true)
    (hpolicy : (device.bench.chip.memory.slotConfig ⟨slot.toNat, hslot⟩).writePolicy ≠ .never) :
    let index : Fin 16 := ⟨slot.toNat, hslot⟩
    let k := device.bench.chip.core
    let result := writeKeySlotEncrypted slot newKey currentKey device
    let final := (finalState result).bench.chip.memory
    let sent := writeMessage (k.sessionKey slot currentKey) slot newKey
    let rebuilt := writeMessage (k.sessionKey slot (k.memory.key index)) slot (final.key index)
    (currentKey = k.memory.key index → device.Undisturbed device.retryBudget →
      (∃ device', result = .ok () device') ∧ final.key index = newKey) ∧
    (currentKey = k.memory.key index →
      (final.key index = k.memory.key index ∨ final.key index = newKey) ∧
      ∀ device', result = .ok () device' → final.key index = newKey) ∧
    (∀ opcode status device', result = .error (.status opcode status) device' →
      final.key index = k.memory.key index) ∧
    (∀ device', result = .ok () device' →
      final.key index = newKey ∨ (sent ≠ rebuilt ∧ sha256 sent = sha256 rebuilt)) ∧
    Memory.SameButSlot index k.memory final := by
  intro index k result final sent rebuilt
  have hserves : Serves (device.Undisturbed device.retryBudget) k device := ⟨hawake, rfl, id⟩
  have hruns := writeKeySlotEncrypted_key_runs (k := k) hslot newKey currentKey hconfig hdata hpolicy
    device hserves
  have hresult : result = writeKeySlotEncrypted slot newKey currentKey device := rfl
  have hfinal : final = (finalState result).bench.chip.memory := rfl
  clear_value result final
  rw [← hresult] at hruns
  cases result with
  | ok a device' =>
    obtain ⟨l, hl, hsame, hright, hcollision⟩ := hruns
    have hmemory : final = l.memory := hfinal.trans (congrArg Core.memory hl.core)
    subst hmemory
    exact ⟨fun h _ => ⟨⟨device', rfl⟩, hright h⟩, fun h => ⟨.inr (hright h), fun _ _ => hright h⟩,
      fun _ _ _ herror => (nomatch herror), fun _ _ => hcollision, hsame⟩
  | error error device' =>
    obtain ⟨l, hl, hsame, hright, hstatus⟩ := hruns
    have hmemory : final = l.memory := hfinal.trans (congrArg Core.memory hl.core)
    subst hmemory
    refine ⟨fun h hcalm => absurd hcalm (hright h).1,
      fun h => ⟨(hright h).2, fun _ hok => (nomatch hok)⟩, ?_, fun _ hok => (nomatch hok), hsame⟩
    intro opcode status _ herror
    cases herror
    exact hstatus.resolve_right fun h => (nomatch h)

def lockedChip : Chip :=
  ({ awake := true, memory := Memory.factory.lockConfig.lockData } : Chip).setSlotConfig 3
    { writePolicy := .encrypt }

theorem encrypted_write_replaces_blank :
    ∃ device', writeKeySlotEncrypted 3 (Bytes.zero 32) (Vector.replicate 32 0xFF) (ofBus lockedChip) =
        .ok () device' ∧ device'.bus.memory.key 3 = Bytes.zero 32 := by
  have hkey : Vector.replicate 32 0xFF = (ofBus lockedChip).bench.chip.core.memory.key 3 := by
    decide +kernel
  have hcalm : (ofBus lockedChip).Undisturbed (ofBus lockedChip).retryBudget :=
    ⟨rfl, rfl, by decide⟩
  have hwrite := encrypted_write_all_or_nothing (ofBus lockedChip) 3 (by decide) (Bytes.zero 32)
    (Vector.replicate 32 0xFF) rfl (by decide +kernel) (by decide +kernel) (by decide +kernel)
  obtain ⟨⟨device', hrun⟩, hreplaced⟩ := hwrite.1 hkey hcalm
  rw [hrun] at hreplaced
  exact ⟨device', hrun, hreplaced⟩

def busyChip : Chip :=
  { lockedChip with stalls := defaultRetryBudget }

/-- A chip that stays busy for a whole budget of attempts fails an encrypted write with the right key, although
no fault is due. -/
theorem encrypted_write_fails_busy :
    busyChip.awake = true ∧ busyChip.faults = [] ∧ busyChip.memory.configLocked = true ∧
      busyChip.memory.dataLocked = true ∧ (busyChip.memory.slotConfig 3).writePolicy ≠ .never ∧
      busyChip.memory.key 3 = Vector.replicate 32 0xFF ∧
      ¬ ∃ device', writeKeySlotEncrypted 3 (Bytes.zero 32) (Vector.replicate 32 0xFF)
        (ofBus busyChip) = .ok () device' := by
  refine ⟨rfl, rfl, by decide +kernel, by decide +kernel, by decide +kernel, by decide +kernel, ?_⟩
  intro hok
  obtain ⟨device', hrun⟩ := hok
  have herror : (match writeKeySlotEncrypted 3 (Bytes.zero 32) (Vector.replicate 32 0xFF)
      (ofBus busyChip) with
    | .ok _ _ => false
    | .error _ _ => true) = true := by
    decide +kernel
  rw [hrun] at herror
  cases herror

end Device

end SecureElement
