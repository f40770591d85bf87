import SecureElement.Proofs.Chip.TempKey
import SecureElement.Proofs.Device.Zones
import SecureElement.Proofs.Digest
/-!
# HMAC of a device

The challenge is passed through to TempKey and keyed with a slot there. A key that the host is given takes part
only in the check of the answer, and is looked at no earlier.
-/

namespace SecureElement

def hmacData (slot : UInt8) : Bytes 13 :=
  Bytes.quad Opcode.hmac.code hmacMode slot 0 ++ Bytes.zero 9

theorem Chip.performs_hmac_passed {k : Core} {slot : UInt8} (hslot : slot.toNat < 16)
    (hpolicy : (k.memory.slotConfig ⟨slot.toNat, hslot⟩).checkOnly = false) (challenge : Block) :
    (Command.simple .hmac hmacMode slot.toUInt16).Performs (k.passed challenge)
      (.ok (plainHmac challenge (k.memory.key ⟨slot.toNat, hslot⟩) slot.toUInt16).toList)
      (k.passed challenge) := by
  unfold plainHmac
  exact performs_hmac (k := k.passed challenge) { sourceFlag := true } hslot hpolicy rfl

namespace Device

/-! ## Requests -/

section

variable {σ : Type} [Bus σ] {slot : UInt8} {challenge : List UInt8}

/-- A key of another length changes nothing but the end of an HMAC that would have succeeded. -/
theorem hmac_key_length {key : List UInt8} (hkey : key.length ≠ 32) (device : Device σ) :
    hmac slot challenge (some key) device = match hmac slot challenge none device with
      | .ok _ device' => .error (.digest (.invalidLength "key" 32 key.length)) device'
      | .error error device' => .error error device' := by
  unfold hmac
  simp only [bind_apply]
  cases require (checkKeySlot slot) device with
  | error error device => rfl
  | ok _ device =>
    dsimp only
    cases require (checkLength "challenge" 32 challenge) device with
    | error error device => rfl
    | ok _ device =>
      dsimp only
      cases nonce challenge device with
      | error error device => rfl
      | ok _ device =>
        dsimp only
        cases exchangeBytes 32 (.simple .hmac hmacMode slot.toUInt16) device with
        | error error device => rfl
        | ok mac device =>
          dsimp only
          rw [verifyHmac_key_length challenge mac slot.toUInt16 hkey]
          rfl

end

/-! ## On a chip -/

variable {σ : Type} [ChipBus σ] {calm : Prop} {k : Core} {slot : UInt8}

theorem nonce_passed_runs (value : Block) :
    Runs (Serves (σ := σ) calm) (nonce value.toList) k (fun _ l => l = k.passed value)
      (Cut calm k (k.passed value)) := by
  unfold nonce
  rw [if_pos Vector.length_toList]
  refine (exchange_answered_runs ?_ (Chip.performs_nonce_passed value)
    (Command.outcome?_done _)).mono (fun _ _ h => h.2) fun _ _ h => h
  simp [maxCommandData]

theorem hmac_eq (hslot : slot.toNat < 16) (challenge : Block) (key : Option (List UInt8)) :
    hmac (σ := σ) slot challenge.toList key = (do
      let _ ← nonce challenge.toList
      let mac ← exchangeBytes 32 (.simple .hmac hmacMode slot.toUInt16)
      let verified ← match key with
        | some key => compute (verifyHmac challenge.toList mac.toList key slot.toUInt16)
        | none => pure false
      pure { mac, otherData := hmacData slot, verified }) := by
  unfold hmac
  rw [checkKeySlot_eq hslot, checkLength_eq _ Vector.length_toList]
  rfl

/-- The digest is that of the key in the slot, and it is confirmed if the given key leads to the same one. -/
theorem hmac_runs (hslot : slot.toNat < 16)
    (hpolicy : (k.memory.slotConfig ⟨slot.toNat, hslot⟩).checkOnly = false) (challenge : Block)
    (key : Option Block) :
    let mac := plainHmac challenge (k.memory.key ⟨slot.toNat, hslot⟩) slot.toUInt16
    Runs (Serves (σ := σ) calm) (hmac slot challenge.toList (key.map Vector.toList)) k
      (fun result l => result = ⟨mac, hmacData slot,
        key.elim false fun key => plainHmac challenge key slot.toUInt16 = mac⟩ ∧ l = k.passed challenge)
      (Cut calm k (k.passed challenge)) := by
  intro mac
  rw [hmac_eq hslot]
  refine (nonce_passed_runs challenge).bind ?_
  intro _ _ hend
  subst hend
  refine ((exchangeBytes_runs mac (by decide) (by decide) (Nat.zero_le _)
    (Chip.performs_hmac_passed hslot hpolicy challenge)).mono (fun _ _ h => h) ?_).bind ?_
  · intro error l hcut
    exact ⟨hcut.1, hcut.2.1, .inr hcut.unchanged⟩
  · intro answer l hl
    obtain ⟨rfl, rfl⟩ := hl
    cases key with
    | none => exact Runs.pure ⟨rfl, rfl⟩
    | some key =>
      dsimp only [Option.map_some, Option.elim_some]
      rw [verifyHmac_toList]
      exact Runs.pure ⟨rfl, rfl⟩

theorem hmac_refused_runs (hslot : slot.toNat < 16)
    (hpolicy : (k.memory.slotConfig ⟨slot.toNat, hslot⟩).checkOnly = true) (challenge : Block)
    (key : Option (List UInt8)) :
    Runs (Serves (σ := σ) calm) (hmac slot challenge.toList key) k (fun _ _ => False)
      (fun error l => (error = .status .hmac .executionError ∧ l = k.passed challenge) ∨
        Cut calm k (k.passed challenge) error l) := by
  rw [hmac_eq hslot]
  refine ((nonce_passed_runs challenge).mono (fun _ _ h => h) fun _ _ h => .inr h).bind ?_
  intro _ _ hend
  subst hend
  have hperforms : (Command.simple .hmac hmacMode slot.toUInt16).Performs (k.passed challenge)
      (.error .executionError) (k.passed challenge) :=
    Chip.performs_hmac_refused { sourceFlag := true } hslot hpolicy
  refine Runs.bind_never (Runs.bind_never ((exchange_refused_runs 32 (.inl rfl) (Nat.zero_le _)
    hperforms).mono (fun _ _ h => h) ?_))
  intro error l hl
  exact hl.imp (fun h => h) fun hcut => ⟨hcut.1, hcut.2.1, .inr hcut.unchanged⟩

/-! ## Agreement with the host -/

theorem hmacData_toList (slot : UInt8) :
    (hmacData slot).toList = [0x11, 0x04, slot] ++ List.replicate 10 0 := by
  have hjoin : (hmacData slot).toList =
      (Bytes.quad Opcode.hmac.code hmacMode slot 0).toList ++ (Bytes.zero 9).toList := by
    unfold hmacData
    rw [Vector.toList_append]
  rw [hjoin, Bytes.toList_quad, Bytes.toList_zero]
  rfl

theorem hmacDigest_eq_plainHmac_iff (challenge given stored : Block) (slot : UInt16) :
    hmacDigest challenge.toList given.toList 0x04 slot {} = .ok (plainHmac challenge stored slot) ↔
      plainHmac challenge given slot = plainHmac challenge stored slot := by
  have hgiven : hmacDigest challenge.toList given.toList 0x04 slot {} = .ok (plainHmac challenge given slot) :=
    hmacDigest_toList challenge given hmacMode slot {}
  rw [hgiven, Except.ok.injEq]

/-- An undisturbed chip answers with the digest that the host computes from the key in the slot, whatever TempKey
was, and holds the challenge in TempKey afterwards. The answer is confirmed exactly if a key is given from which
the host computes the same. -/
theorem hmac_agrees (device : Device σ) (slot : UInt8) (hslot : slot.toNat < 16) (challenge : Block)
    (key : Option Block) (hawake : device.bench.chip.awake = true)
    (hpolicy : (device.bench.chip.memory.slotConfig ⟨slot.toNat, hslot⟩).checkOnly = false)
    (hcalm : device.Undisturbed device.retryBudget) :
    let stored := device.bench.chip.memory.key ⟨slot.toNat, hslot⟩
    let expected (key : Block) := hmacDigest challenge.toList key.toList 0x04 slot.toUInt16 {}
    ∃ result device', hmac slot challenge.toList (key.map Vector.toList) device = .ok result device' ∧
      expected stored = .ok result.mac ∧
      result.otherData.toList = [0x11, 0x04, slot] ++ List.replicate 10 0 ∧
      (result.verified = true ↔ ∃ given, key = some given ∧ expected given = .ok result.mac) ∧
      (key = some stored → result.verified = true) ∧
      device'.bench.chip.tempKey = some ⟨challenge, true⟩ ∧
      device'.bench.chip.memory = device.bench.chip.memory := by
  intro stored expected
  have hserves : Serves True device.bench.chip.core device := ⟨hawake, rfl, fun _ => hcalm⟩
  obtain ⟨_, device', k, hrun, hserves', rfl, rfl⟩ :=
    (hmac_runs (k := device.bench.chip.core) hslot hpolicy challenge key).exists_ok hserves
      fun _ _ hcut => hcut.1 trivial
  have hverified : (key.elim false fun key => plainHmac challenge key slot.toUInt16 =
      plainHmac challenge stored slot.toUInt16) = true ↔
      ∃ given, key = some given ∧ expected given = .ok (plainHmac challenge stored slot.toUInt16) := by
    cases key with
    | none => simp
    | some key => simp [expected, hmacDigest_eq_plainHmac_iff]
  have hstored : expected stored = .ok (plainHmac challenge stored slot.toUInt16) :=
    (hmacDigest_eq_plainHmac_iff _ _ _ _).2 rfl
  refine ⟨_, device', hrun, hstored, hmacData_toList slot, hverified, ?_, ?_, ?_⟩
  · intro hkey
    exact hverified.2 ⟨stored, hkey, hstored⟩
  · exact congrArg Core.tempKey hserves'.core
  · exact congrArg Core.memory hserves'.core

/-- A new chip that is awake answers under a blank key and finds it confirmed. -/
theorem hmac_agrees_blank :
    let device : Device Chip := ofBus { awake := true }
    let blank : Block := Vector.replicate 32 0xFF
    ∃ result device', hmac 1 (Bytes.zero 32).toList (some blank.toList) device = .ok result device' ∧
      hmacDigest (Bytes.zero 32).toList blank.toList 0x04 1 {} = .ok result.mac ∧ result.verified = true := by
  intro device blank
  have hpolicy : (device.bench.chip.memory.slotConfig ⟨(1 : UInt8).toNat, by decide⟩).checkOnly = false := by
    decide +kernel
  have hblank : device.bench.chip.memory.key ⟨(1 : UInt8).toNat, by decide⟩ = blank := by
    decide +kernel
  obtain ⟨result, device', hrun, hmac, _, _, hverified, _⟩ := hmac_agrees device 1 (by decide) (Bytes.zero 32)
    (some blank) rfl hpolicy ⟨rfl, rfl, by decide⟩
  rw [hblank] at hmac hverified
  exact ⟨result, device', hrun, hmac, hverified rfl⟩

/-- A chip that stays busy for a whole budget of attempts fails an HMAC, although no fault is due. -/
theorem hmac_fails_busy :
    let chip : Chip := { awake := true, stalls := defaultRetryBudget }
    chip.faults = [] ∧ (chip.memory.slotConfig 1).checkOnly = false ∧
      ¬ ∃ result device', hmac 1 (Bytes.zero 32).toList none (ofBus chip) = .ok result device' := by
  intro chip
  refine ⟨rfl, by decide +kernel, ?_⟩
  rintro ⟨result, device', hrun⟩
  have herror : (match hmac 1 (Bytes.zero 32).toList none (ofBus chip) with
    | .ok _ _ => false
    | .error _ _ => true) = true := by
    decide +kernel
  rw [hrun] at herror
  cases herror

end Device

end SecureElement
