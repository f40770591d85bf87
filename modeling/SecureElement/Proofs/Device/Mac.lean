import SecureElement.Proofs.Chip.Digest
import SecureElement.Proofs.Device.Zones
import SecureElement.Proofs.Digest
/-!
# Challenge digests of a device

The digest that the chip answers is the one that the host computes offline, in every mode, and the check of the
chip confirms it.
-/

namespace SecureElement

namespace OtherData

theorem otpRange_toList (otp : Bytes 64) {start len : Nat} (h : start + len ≤ 64) (neededBy : String) :
    otpRange otp.toList start len neededBy = .ok (otp.slice start len) := by
  unfold otpRange
  rw [← Bytes.toList_slice otp h, Bytes.ofList?_toList]

theorem serial_slices (memory : Memory) :
    memory.serial.slice 4 4 = memory.config.slice 8 4 ∧ memory.serial.slice 2 2 = memory.config.slice 2 2 := by
  have hbyte : ∀ i < 9, memory.serial.byte i = memory.config.byte (if i < 4 then i else i + 4) := by
    intro i hi
    rw [Bytes.byte_eq_getElem _ hi, Memory.serial]
    by_cases hlow : i < 4
    · rw [if_pos hlow]
      exact (Vector.getElem_append_left hlow).trans (by rw [Bytes.getElem_slice, Nat.zero_add])
    · rw [if_neg hlow]
      refine (Vector.getElem_append_right hi (Nat.le_of_not_lt hlow)).trans ?_
      rw [Bytes.getElem_slice]
      congr 1
      omega
  constructor
  · apply Bytes.ext_byte
    intro i hi
    rw [Bytes.byte_eq_getElem _ hi, Bytes.byte_eq_getElem _ hi, Bytes.getElem_slice, Bytes.getElem_slice,
      hbyte _ (by omega), if_neg (by omega)]
    congr 1
    omega
  · apply Bytes.ext_byte
    intro i hi
    rw [Bytes.byte_eq_getElem _ hi, Bytes.byte_eq_getElem _ hi, Bytes.getElem_slice, Bytes.getElem_slice,
      hbyte _ (by omega), if_pos (by omega)]

/-- What the host picks for a mode is what the chip mixes in, even if the host has read no more than the mode
needs. -/
theorem select_eq (mode : MacMode) (memory : Memory) {otp : Bytes 64} {serial : Bytes 9}
    (hotp : (mode.useOtpLow || mode.useOtpHigh) = true → otp = memory.otp)
    (hserial : mode.useSerial = true → serial = memory.serial) :
    select mode otp.toList serial.toList = .ok (Chip.otherData memory mode) := by
  obtain ⟨hmiddle, hhead⟩ := serial_slices memory
  have hotp8 (h : mode.useOtpLow = true) (neededBy : String) :
      otpRange otp.toList 0 8 neededBy = .ok (memory.otp.slice 0 8) := by
    rw [otpRange_toList _ (by decide), hotp (by simp [h])]
  have hotp3 (h : mode.useOtpHigh = true) (neededBy : String) :
      otpRange otp.toList 8 3 neededBy = .ok (memory.otp.slice 8 3) := by
    rw [otpRange_toList _ (by decide), hotp (by simp [h])]
  have hserial' (h : mode.useSerial = true) :
      exactly "serial number" 9 serial.toList = .ok memory.serial := by
    rw [exactly_toList, hserial h]
  unfold select
  rw [Chip.otherData]
  cases hlow : mode.useOtpLow <;> cases hhigh : mode.useOtpHigh <;> cases huse : mode.useSerial
  all_goals
    simp only [hotp8, hotp3, hserial', hlow, hhigh, huse, hmiddle, hhead, Bool.false_eq_true, if_true,
      if_false, bind, Except.bind]
    rfl

end OtherData

namespace Device

/-! ## Requests -/

section

variable {σ : Type} [Bus σ] {mode : MacMode} {slot : UInt8} {challenge : List UInt8}

def otpFor (mode : MacMode) : DeviceM σ (Bytes 64) :=
  if mode.useOtpLow || mode.useOtpHigh then otpZone else pure (Bytes.zero 64)

def serialFor (mode : MacMode) : DeviceM σ (Bytes 9) :=
  if mode.useSerial then serialNumber else pure (Bytes.zero 9)

theorem otherData_eq (mode : MacMode) :
    otherData (σ := σ) mode = (do
      let otp ← otpFor mode
      let serial ← serialFor mode
      compute (OtherData.select mode otp.toList serial.toList)) := by
  unfold otherData otpFor
  rw [serialFor]
  split <;> split <;> rfl

theorem checkMac_eq {check : CheckMacMode} (response : Block) (other : Bytes 13) (hslot : slot.toNat < 16)
    (hchallenge : challenge.length = 32) :
    checkMac (σ := σ) check slot challenge response.toList other.toList =
      tryCatch (do
        exchangeAck ⟨.checkMac, check.toByte, Bytes.pair slot 0, challenge ++ response.toList ++ other.toList⟩
        return true) fun
      | .status _ .checkMacMiscompare => return false
      | error => throw error := by
  unfold checkMac
  rw [checkLength_eq _ hchallenge, checkLength_eq _ Vector.length_toList,
    checkLength_eq _ Vector.length_toList, checkKeySlot_eq hslot]
  rfl

/-- What the command carries, and what stands for it in the check. -/
def macInput (mode : MacMode) (challenge : List UInt8) : List UInt8 :=
  if mode.needsChallenge then challenge else []

def macShown (mode : MacMode) (challenge : List UInt8) : List UInt8 :=
  if mode.needsChallenge then challenge else (Bytes.zero 32).toList

theorem mac_eq (hslot : slot.toNat < 16) (hchallenge : mode.needsChallenge = true → challenge.length = 32) :
    mac (σ := σ) mode slot challenge = (do
      let mac ← exchangeBytes 32 ⟨.mac, mode.toByte, Bytes.pair slot 0, macInput mode challenge⟩
      let other ← otherData mode
      let verified ← checkMac (.ofMac mode) slot (macShown mode challenge) mac.toList
        (checkMacData mode slot other).toList
      pure { mac, otherData := checkMacData mode slot other, verified }) := by
  unfold mac
  rw [checkKeySlot_eq hslot, macInput, macShown]
  cases hneeds : mode.needsChallenge with
  | true =>
    rw [checkLength_eq _ (hchallenge hneeds)]
    rfl
  | false => rfl

end

end Device

variable {σ : Type} [ChipBus σ] {calm : Prop} {k : Core} {mode : MacMode} {slot : UInt8}
variable {challenge : List UInt8}

namespace Device

/-! ## On a chip -/

theorem otpFor_runs (mode : MacMode) :
    Runs (Serves (σ := σ) calm) (otpFor mode) k
      (fun otp l => ((mode.useOtpLow || mode.useOtpHigh) = true → otp = k.memory.otp) ∧ l = k)
      (Cut calm k k) := by
  rw [otpFor]
  split
  · exact otpZone_runs.mono (fun _ _ h => ⟨fun _ => h.1, h.2⟩) fun _ _ h => h
  · next hunused => exact Runs.pure ⟨fun hused => absurd hused hunused, rfl⟩

theorem serialFor_runs (mode : MacMode) :
    Runs (Serves (σ := σ) calm) (serialFor mode) k
      (fun serial l => (mode.useSerial = true → serial = k.memory.serial) ∧ l = k) (Cut calm k k) := by
  rw [serialFor]
  split
  · exact serialNumber_runs.mono (fun _ _ h => ⟨fun _ => h.1, h.2⟩) fun _ _ h => h
  · next hunused => exact Runs.pure ⟨fun hused => absurd hused hunused, rfl⟩

theorem otherData_runs (mode : MacMode) :
    Runs (Serves (σ := σ) calm) (otherData mode) k
      (fun other l => other = Chip.otherData k.memory mode ∧ l = k) (Cut calm k k) := by
  rw [otherData_eq]
  refine (otpFor_runs mode).bind ?_
  intro otp _ hend
  obtain ⟨hotp, rfl⟩ := hend
  refine (serialFor_runs mode).bind ?_
  intro serial _ hend
  obtain ⟨hserial, rfl⟩ := hend
  rw [OtherData.select_eq mode _ hotp hserial]
  exact Runs.pure ⟨rfl, rfl⟩

theorem checkMac_runs {check : CheckMacMode} {response : Block} {other : Bytes 13} (hslot : slot.toNat < 16)
    (hchallenge : challenge.length = 32)
    (hperforms : (Command.mk .checkMac check.toByte (Bytes.pair slot 0)
      (challenge ++ response.toList ++ other.toList)).Performs k (.ok []) k) :
    Runs (Serves (σ := σ) calm) (checkMac check slot challenge response.toList other.toList) k
      (fun verified l => verified = true ∧ l = k) (Cut calm k k) := by
  rw [checkMac_eq response other hslot hchallenge]
  have hlength : (challenge ++ response.toList ++ other.toList).length ≤ maxCommandData := by
    simp [hchallenge, maxCommandData]
  refine Runs.tryCatch ((exchangeAck_runs hlength hperforms).bind fun _ _ hl => Runs.pure ⟨rfl, hl⟩) ?_
  intro error l hcut
  cases error with
  | status _ status => exact absurd hcut.2.1 (by simp [DeviceError.status?])
  | _ => exact Runs.throw (hcut.unchanged ▸ hcut)

def macValue (k : Core) (mode : MacMode) (slot : UInt8) (hslot : slot.toNat < 16) (temp second : Block) : Block :=
  sha256 (challengeMessage (Chip.macFirst k mode ⟨slot.toNat, hslot⟩ temp) second .mac mode.toByte
    slot.toUInt16 (Chip.otherData k.memory mode))

/-- The chip confirms the digest that it would give, also for a slot that gives none. -/
theorem checkMac_macValue_runs {temp second : Block} {shown : List UInt8} (hslot : slot.toNat < 16)
    (hlength : shown.length = 32)
    (htemp : k.tempBlock (mode.firstTempKey || mode.secondTempKey) mode.sourceFlag = some temp)
    (hshown : second.toList = if mode.secondTempKey then temp.toList else shown) :
    Runs (Serves (σ := σ) calm) (checkMac (.ofMac mode) slot shown
        (macValue k mode slot hslot temp second).toList
        (checkMacData mode slot (Chip.otherData k.memory mode)).toList) k
      (fun verified l => verified = true ∧ l = k) (Cut calm k k) := by
  have hcheck := Chip.performs_checkMac (.ofMac mode) (macValue k mode slot hslot temp second)
    (checkMacData mode slot (Chip.otherData k.memory mode)) hslot hlength htemp
  rw [Chip.checkMessage_ofMac k mode slot hslot hshown, ← macValue, if_pos rfl] at hcheck
  exact checkMac_runs hslot hlength hcheck

theorem length_macInput (hchallenge : mode.needsChallenge = true → challenge.length = 32) :
    (macInput mode challenge).length ≤ maxCommandData ∧
      mode.needsChallenge = decide ((macInput mode challenge).length = 32) := by
  rw [macInput]
  cases hneeds : mode.needsChallenge with
  | true => simp [hchallenge hneeds, maxCommandData]
  | false => simp [maxCommandData]

theorem length_macShown (hchallenge : mode.needsChallenge = true → challenge.length = 32) :
    (macShown mode challenge).length = 32 := by
  rw [macShown]
  cases hneeds : mode.needsChallenge with
  | true => exact hchallenge hneeds
  | false => rfl

/-- Where the chip answers, the digest and the bytes beside it are those of the host, and confirmed. -/
theorem mac_runs {temp second : Block} (hslot : slot.toNat < 16)
    (hpolicy : (k.memory.slotConfig ⟨slot.toNat, hslot⟩).checkOnly = false)
    (htemp : k.tempBlock (mode.firstTempKey || mode.secondTempKey) mode.sourceFlag = some temp)
    (hchallenge : mode.needsChallenge = true → challenge.length = 32)
    (hsecond : second.toList = if mode.secondTempKey then temp.toList else challenge) :
    Runs (Serves (σ := σ) calm) (mac mode slot challenge) k
      (fun result l => result = ⟨macValue k mode slot hslot temp second,
        checkMacData mode slot (Chip.otherData k.memory mode), true⟩ ∧ l = k) (Cut calm k k) := by
  obtain ⟨hlength, hneeds⟩ := length_macInput hchallenge
  have hinput : second.toList = if mode.secondTempKey then temp.toList else macInput mode challenge := by
    rw [hsecond, macInput, MacMode.needsChallenge]
    cases mode.secondTempKey <;> rfl
  have hshown : second.toList = if mode.secondTempKey then temp.toList else macShown mode challenge := by
    rw [hsecond, macShown, MacMode.needsChallenge]
    cases mode.secondTempKey <;> rfl
  rw [mac_eq hslot hchallenge]
  refine (exchangeBytes_runs _ (by decide) (by decide) hlength
    (Chip.performs_mac hslot hpolicy hneeds htemp hinput)).bind ?_
  intro answer _ hend
  obtain ⟨rfl, rfl⟩ := hend
  refine (otherData_runs mode).bind ?_
  intro other l hl
  obtain ⟨rfl, rfl⟩ := hl
  refine (checkMac_macValue_runs hslot (length_macShown hchallenge) htemp hshown).bind ?_
  intro verified l hl
  obtain ⟨rfl, rfl⟩ := hl
  exact Runs.pure ⟨rfl, rfl⟩

theorem mac_refused_runs (hslot : slot.toNat < 16)
    (hchallenge : mode.needsChallenge = true → challenge.length = 32)
    (hrefused : (k.memory.slotConfig ⟨slot.toNat, hslot⟩).checkOnly = true ∨
      k.tempBlock (mode.firstTempKey || mode.secondTempKey) mode.sourceFlag = none) :
    Runs (Serves (σ := σ) calm) (mac mode slot challenge) k (fun _ _ => False)
      (fun error l => (error = .status .mac .executionError ∧ l = k) ∨ Cut calm k k error l) := by
  obtain ⟨hlength, hneeds⟩ := length_macInput hchallenge
  rw [mac_eq hslot hchallenge]
  have hperforms := Chip.performs_mac_refused hslot hneeds hrefused
  exact Runs.bind_never (Runs.bind_never (exchange_refused_runs 32 (.inl rfl) hlength hperforms))

theorem mac_slot_runs (hslot : ¬ slot.toNat < 16) :
    Runs (Serves (σ := σ) calm) (mac mode slot challenge) k (fun _ _ => False)
      (fun error _ => error = .precondition (.invalidKeySlot slot)) := by
  unfold mac
  rw [checkKeySlot_eq_error hslot]
  exact fun _ hserves => ⟨k, hserves, rfl⟩

theorem mac_challenge_runs (hslot : slot.toNat < 16) (hneeds : mode.needsChallenge = true)
    (hchallenge : challenge.length ≠ 32) :
    Runs (Serves (σ := σ) calm) (mac mode slot challenge) k (fun _ _ => False)
      (fun error _ => error = .precondition (.invalidLength "challenge" 32 challenge.length)) := by
  unfold mac
  rw [checkKeySlot_eq hslot, hneeds, checkLength, if_neg hchallenge]
  exact fun _ hserves => ⟨k, hserves, rfl⟩

/-- What a MAC of an awake chip comes to, when it comes to anything: the chip has confirmed it, the bytes beside
it are those of the chip, and the digest is the one that the host computes offline. -/
theorem mac_agrees {device device' : Device σ} {result : MacResult}
    (hawake : device.bench.chip.awake = true)
    (hrun : mac mode slot challenge device = .ok result device') :
    ∃ (hslot : slot.toNat < 16) (temp : Block) (other : OtherData),
      ((mode.firstTempKey || mode.secondTempKey) = true →
        ∃ key, device.bench.chip.tempKey = some key ∧ key.value = temp) ∧
      OtherData.select mode device.bench.chip.memory.otp.toList device.bench.chip.memory.serial.toList =
        .ok other ∧
      result.verified = true ∧ result.otherData = checkMacData mode slot other ∧
      macDigest (if mode.secondTempKey then temp.toList else challenge)
        (if mode.firstTempKey then temp.toList
          else (device.bench.chip.memory.key ⟨slot.toNat, hslot⟩).toList)
        mode.toByte slot.toUInt16 other = .ok result.mac := by
  have hserves : Serves False device.bench.chip.core device := ⟨hawake, rfl, False.elim⟩
  by_cases hslot : slot.toNat < 16
  swap
  · obtain ⟨_, _, hfalse⟩ := (mac_slot_runs hslot).of_ok hserves hrun
    exact hfalse.elim
  by_cases hchallenge : mode.needsChallenge = true → challenge.length = 32
  swap
  · obtain ⟨hneeds, hwrong⟩ := Classical.not_imp.1 hchallenge
    obtain ⟨_, _, hfalse⟩ := (mac_challenge_runs hslot hneeds hwrong).of_ok hserves hrun
    exact hfalse.elim
  cases hpolicy : (device.bench.chip.memory.slotConfig ⟨slot.toNat, hslot⟩).checkOnly with
  | true =>
    obtain ⟨_, _, hfalse⟩ := (mac_refused_runs (k := device.bench.chip.core) hslot
      hchallenge (.inl hpolicy)).of_ok hserves hrun
    exact hfalse.elim
  | false =>
    cases htemp : device.bench.chip.core.tempBlock (mode.firstTempKey || mode.secondTempKey)
        mode.sourceFlag with
    | none =>
      obtain ⟨_, _, hfalse⟩ := (mac_refused_runs (k := device.bench.chip.core) hslot
        hchallenge (.inr htemp)).of_ok hserves hrun
      exact hfalse.elim
    | some temp =>
      obtain ⟨second, hsecond⟩ : ∃ second : Block,
          second.toList = if mode.secondTempKey then temp.toList else challenge := by
        cases hmode : mode.secondTempKey with
        | true => exact ⟨temp, rfl⟩
        | false => exact Bytes.exists_toList (hchallenge (by rw [MacMode.needsChallenge, hmode]; rfl))
      obtain ⟨_, _, rfl, _⟩ := (mac_runs (k := device.bench.chip.core) hslot hpolicy htemp
        hchallenge hsecond).of_ok hserves hrun
      refine ⟨hslot, temp, Chip.otherData device.bench.chip.memory mode, ?_, ?_, rfl, rfl, ?_⟩
      · intro hused
        rw [hused] at htemp
        obtain ⟨key, hkey, _, hvalue⟩ := Core.tempBlock_used htemp
        exact ⟨key, hkey, hvalue⟩
      · exact OtherData.select_eq mode _ (fun _ => rfl) fun _ => rfl
      · have hfirst : (if mode.firstTempKey then temp.toList
            else (device.bench.chip.memory.key ⟨slot.toNat, hslot⟩).toList) =
            (Chip.macFirst device.bench.chip.core mode ⟨slot.toNat, hslot⟩ temp).toList := by
          rw [Chip.macFirst]
          split <;> rfl
        rw [← hsecond, hfirst, macDigest_toList, macValue]
        rfl

def keyedChip : Chip :=
  { awake := true, tempKey := some ⟨Bytes.zero 32, false⟩ }

/-- The mode that takes both halves from TempKey and mixes all device bytes in. -/
def tempKeyMode : MacMode :=
  { useSerial := true, useOtpLow := true, useOtpHigh := true, firstTempKey := true, secondTempKey := true }

theorem mac_agrees_tempKey :
    ∃ result device' other, mac tempKeyMode 1 [] (Device.ofBus keyedChip) = .ok result device' ∧
      OtherData.select tempKeyMode Memory.factory.otp.toList Memory.factory.serial.toList = .ok other ∧
      result.verified = true ∧ result.otherData = checkMacData tempKeyMode 1 other ∧
      macDigest (Bytes.zero 32).toList (Bytes.zero 32).toList tempKeyMode.toByte 1 other =
        .ok result.mac := by
  have hserves : Serves True keyedChip.core (Device.ofBus keyedChip) :=
    ⟨rfl, rfl, fun _ => ⟨rfl, rfl, by decide⟩⟩
  have hslot : (1 : UInt8).toNat < 16 := by
    decide
  have hpolicy : (keyedChip.core.memory.slotConfig 1).checkOnly = false := by
    decide +kernel
  have hruns : Runs (Serves (σ := Chip) True) (mac tempKeyMode 1 []) keyedChip.core _ _ :=
    mac_runs hslot hpolicy (by rfl : keyedChip.core.tempBlock _ _ = some (Bytes.zero 32)) (by decide)
      (by rfl : (Bytes.zero 32).toList = _)
  obtain ⟨result, device', _, hrun, _⟩ := hruns.exists_ok hserves fun _ _ hcut => hcut.1 trivial
  obtain ⟨_, temp, other, htemp, hother, hverified, hdata, hdigest⟩ := mac_agrees rfl hrun
  obtain ⟨key, hkey, rfl⟩ := htemp rfl
  obtain rfl := Option.some.inj hkey
  exact ⟨result, device', other, hrun, hother, hverified, hdata, hdigest⟩

end Device

end SecureElement
