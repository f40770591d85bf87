import SecureElement.Proofs.Device.Mac
import SecureElement.Proofs.Device.Retries
/-!
# Checks of a digest

A check confirms the digest that the host computes offline from the key in the slot and no other one. The policy
of the slot does not matter: a slot that gives no digests still checks them.
-/

namespace SecureElement

namespace Device

variable {σ : Type} [ChipBus σ] {calm : Prop} {k : Core} {slot : UInt8}

theorem checkMac_compares_runs {check : CheckMacMode} {challenge : List UInt8} {temp : Block} (response : Block)
    (other : Bytes 13) (hslot : slot.toNat < 16) (hchallenge : challenge.length = 32)
    (htemp : k.tempBlock (check.firstTempKey || check.secondTempKey) check.sourceFlag = some temp) :
    Runs (Serves (σ := σ) calm) (checkMac check slot challenge response.toList other.toList) k
      (fun verified l => (verified = true ↔
        sha256 (Chip.checkMessage k check ⟨slot.toNat, hslot⟩ temp challenge other) = response) ∧ l = k)
      (Cut calm k k) := by
  have hperforms := Chip.performs_checkMac check response other hslot hchallenge htemp
  by_cases hmatch : sha256 (Chip.checkMessage k check ⟨slot.toNat, hslot⟩ temp challenge other) = response
  · rw [if_pos hmatch] at hperforms
    refine (checkMac_runs hslot hchallenge hperforms).mono ?_ fun _ _ h => h
    intro verified l hl
    exact ⟨iff_of_true hl.1 hmatch, hl.2⟩
  · rw [if_neg hmatch] at hperforms
    have hlength : (challenge ++ response.toList ++ other.toList).length ≤ maxCommandData := by
      simp [hchallenge, maxCommandData]
    rw [checkMac_eq response other hslot hchallenge]
    refine Runs.tryCatch (Runs.bind_never (Runs.bind_never
      (exchange_refused_runs 1 (.inr (.inr rfl)) hlength hperforms))) ?_
    rintro error l (⟨rfl, rfl⟩ | hcut)
    · exact Runs.pure ⟨iff_of_false Bool.false_ne_true hmatch, rfl⟩
    · cases error with
      | status _ status => exact absurd hcut.2.1 (by simp [DeviceError.status?])
      | _ => exact Runs.throw (hcut.unchanged ▸ hcut)

/-- With both halves of the message from key and challenge, the chip confirms what the host computes offline. -/
theorem checkMac_digest_runs {mode : MacMode} (hslot : slot.toNat < 16) (hfirst : mode.firstTempKey = false)
    (hsecond : mode.secondTempKey = false) (challenge response : Block) :
    Runs (Serves (σ := σ) calm) (checkMac (.ofMac mode) slot challenge.toList response.toList
        (checkMacData mode slot (Chip.otherData k.memory mode)).toList) k
      (fun verified l => (verified = true ↔ macDigest challenge.toList
        (k.memory.key ⟨slot.toNat, hslot⟩).toList mode.toByte slot.toUInt16 (Chip.otherData k.memory mode) =
          .ok response) ∧ l = k)
      (Cut calm k k) := by
  have hunused : k.tempBlock ((CheckMacMode.ofMac mode).firstTempKey || (CheckMacMode.ofMac mode).secondTempKey)
      (CheckMacMode.ofMac mode).sourceFlag = some (Bytes.zero 32) := by
    change k.tempBlock (mode.firstTempKey || mode.secondTempKey) _ = _
    rw [hfirst, hsecond]
    rfl
  have hshown : challenge.toList = if mode.secondTempKey then (Bytes.zero 32).toList else challenge.toList := by
    rw [hsecond, if_neg Bool.false_ne_true]
  refine (checkMac_compares_runs response _ hslot Vector.length_toList hunused).mono ?_ fun _ _ h => h
  rintro verified l ⟨hverified, rfl⟩
  refine ⟨?_, rfl⟩
  rw [hverified, Chip.checkMessage_ofMac l mode slot hslot hshown, Chip.macFirst, hfirst,
    if_neg Bool.false_ne_true, macDigest_toList, Except.ok.injEq]

/-- Whatever disturbs an awake chip, a check that comes to a result has compared the response with the digest that
the host computes offline; and an undisturbed chip comes to one. -/
theorem checkMac_agrees (device : Device σ) (slot : UInt8) (hslot : slot.toNat < 16) (mode : MacMode)
    (hfirst : mode.firstTempKey = false) (hsecond : mode.secondTempKey = false) (challenge response : Block)
    (hawake : device.bench.chip.awake = true) :
    let memory := device.bench.chip.memory
    ∃ other, OtherData.select mode memory.otp.toList memory.serial.toList = .ok other ∧
      let check := checkMac (.ofMac mode) slot challenge.toList response.toList
        (checkMacData mode slot other).toList
      (∀ verified device', check device = .ok verified device' →
        (verified = true ↔ macDigest challenge.toList (memory.key ⟨slot.toNat, hslot⟩).toList mode.toByte
          slot.toUInt16 other = .ok response) ∧ device'.bench.chip.core = device.bench.chip.core) ∧
      (device.Undisturbed device.retryBudget → ∃ verified device', check device = .ok verified device') := by
  intro memory
  refine ⟨Chip.otherData memory mode, OtherData.select_eq mode _ (fun _ => rfl) fun _ => rfl, ?_⟩
  intro check
  refine ⟨?_, ?_⟩
  · intro verified device' hrun
    have hserves : Serves False device.bench.chip.core device := ⟨hawake, rfl, False.elim⟩
    obtain ⟨_, hserves', hverified, rfl⟩ := (checkMac_digest_runs (k := device.bench.chip.core) hslot hfirst
      hsecond challenge response).of_ok hserves hrun
    exact ⟨hverified, hserves'.core⟩
  · intro hcalm
    have hserves : Serves True device.bench.chip.core device := ⟨hawake, rfl, fun _ => hcalm⟩
    obtain ⟨verified, device', _, hrun, _⟩ := (checkMac_digest_runs (k := device.bench.chip.core) hslot hfirst
      hsecond challenge response).exists_ok hserves fun _ _ hcut => hcut.1 trivial
    exact ⟨verified, device', hrun⟩

/-- A new chip that is awake confirms the digest under a blank key. -/
theorem checkMac_agrees_blank :
    let device : Device Chip := ofBus { awake := true }
    let blank : Block := Vector.replicate 32 0xFF
    ∃ response other device',
      OtherData.select {} Memory.factory.otp.toList Memory.factory.serial.toList = .ok other ∧
      macDigest (Bytes.zero 32).toList blank.toList 0 1 other = .ok response ∧
      checkMac (.ofMac {}) 1 (Bytes.zero 32).toList response.toList (checkMacData {} 1 other).toList device =
        .ok true device' := by
  intro device blank
  have hblank : device.bench.chip.memory.key ⟨(1 : UInt8).toNat, by decide⟩ = blank := by
    decide +kernel
  let response := macValue device.bench.chip.core {} 1 (by decide) (Bytes.zero 32) (Bytes.zero 32)
  have hresponse : macDigest (Bytes.zero 32).toList blank.toList 0 1 (Chip.otherData Memory.factory {}) =
      .ok response := by
    rw [macDigest_toList, ← hblank]
    rfl
  obtain ⟨other, hother, hresult, hends⟩ :=
    checkMac_agrees device 1 (by decide) {} rfl rfl (Bytes.zero 32) response rfl
  obtain ⟨verified, device', hrun⟩ := hends ⟨rfl, rfl, by decide⟩
  have hsame : other = Chip.otherData Memory.factory {} :=
    Except.ok.inj (hother.symm.trans (OtherData.select_eq {} _ (fun _ => rfl) fun _ => rfl))
  subst hsame
  have hverified := (hresult verified device' hrun).1
  rw [hblank] at hverified
  rw [hverified.2 hresponse] at hrun
  exact ⟨response, _, device', hother, hresponse, hrun⟩

/-- A chip that stays busy for a whole budget of attempts gives no result, although no fault is due. -/
theorem checkMac_unanswered {device : Device Chip} {challenge : List UInt8} (check : CheckMacMode)
    (response : Block) (other : Bytes 13) (hslot : slot.toNat < 16) (hchallenge : challenge.length = 32)
    (hawake : device.bus.awake = true) (hfaults : device.bus.faults = [])
    (hstalls : device.retryBudget ≤ device.bus.stalls) :
    ∃ device', checkMac check slot challenge response.toList other.toList device =
      .error (.retryExhausted .checkMac device.retryBudget) device' := by
  let command : Command :=
    ⟨.checkMac, check.toByte, Bytes.pair slot 0, challenge ++ response.toList ++ other.toList⟩
  have hlength : command.data.length ≤ maxCommandData := by
    simp [command, hchallenge, maxCommandData]
  obtain ⟨device', hexchange, _⟩ := exchange_unanswered hlength hawake hfaults hstalls
  have hack : (do exchangeAck command; return true : DeviceM Chip Bool) device =
      .error (.retryExhausted .checkMac device.retryBudget) device' := by
    rw [bind_apply, exchangeAck, bind_apply]
    change exchange command 1 device = _ at hexchange
    rw [hexchange]
  refine ⟨device', ?_⟩
  rw [checkMac_eq response other hslot hchallenge]
  refine (tryCatch_apply _ _ device).trans ?_
  rw [hack]
  rfl

theorem checkMac_fails_busy :
    let chip : Chip := { awake := true, stalls := defaultRetryBudget }
    chip.faults = [] ∧
      OtherData.select {} chip.memory.otp.toList chip.memory.serial.toList = .ok ({} : OtherData) ∧
      ¬ ∃ verified device', checkMac (.ofMac {}) 1 (Bytes.zero 32).toList (Bytes.zero 32).toList
        (checkMacData {} 1 {}).toList (ofBus chip) = .ok verified device' := by
  intro chip
  refine ⟨rfl, rfl, ?_⟩
  rintro ⟨verified, device', hrun⟩
  have hchallenge : (Bytes.zero 32).toList.length = 32 := Vector.length_toList
  have hawake : (ofBus chip).bus.awake = true := rfl
  have hslot : (1 : UInt8).toNat < 16 := by decide
  obtain ⟨failed, hfailed⟩ := checkMac_unanswered (.ofMac {}) (Bytes.zero 32) (checkMacData {} 1 {}) hslot
    hchallenge hawake rfl (Nat.le_refl defaultRetryBudget)
  cases hfailed.symm.trans hrun

end Device

end SecureElement
