import SecureElement.Proofs.Device.Conversation
import SecureElement.Proofs.Device.Hmac
/-!
# Arguments

An operation looks at the slot and the buffers it is given before it sends anything, so a wrong one costs no
access to the bus. The key of an HMAC is the exception: it is looked at when the device has already answered.
-/

namespace SecureElement

/-- A request whose slot or buffers come from the caller. -/
inductive Request where
  | nonce (input : List UInt8)
  | mac (mode : MacMode) (slot : UInt8) (challenge : List UInt8)
  | checkMac (mode : CheckMacMode) (slot : UInt8) (challenge response otherData : List UInt8)
  | hmac (slot : UInt8) (challenge : List UInt8) (key : Option (List UInt8))
  | genDigest (zone : Zone) (slot : UInt8)
  | slotConfig (slot : UInt8)
  | writeSlotConfigs (slot : UInt8) (even odd : SlotConfig)
  | readKeySlot (slot : UInt8)
  | writeKeySlot (slot : UInt8) (key : Block)
  | writeKeySlotEncrypted (slot : UInt8) (newKey currentKey : Block)

namespace Request

/-- Whether the request names no slot or brings a buffer of a wrong length. The key of an HMAC, which the device
never sees, is left out. -/
def Improper : Request → Prop
  | nonce input => input.length ≠ 32 ∧ input.length ≠ 20
  | mac mode slot challenge => ¬ slot.toNat < 16 ∨ (mode.needsChallenge = true ∧ challenge.length ≠ 32)
  | checkMac _ slot challenge response otherData =>
    challenge.length ≠ 32 ∨ response.length ≠ 32 ∨ otherData.length ≠ 13 ∨ ¬ slot.toNat < 16
  | hmac slot challenge _ => ¬ slot.toNat < 16 ∨ challenge.length ≠ 32
  | genDigest zone slot => zone = .data ∧ ¬ slot.toNat < 16
  | slotConfig slot => ¬ slot.toNat < 16
  | writeSlotConfigs slot _ _ => slot % 2 ≠ 0 ∨ ¬ slot.toNat < 16
  | readKeySlot slot => ¬ slot.toNat < 16
  | writeKeySlot slot _ => ¬ slot.toNat < 16
  | writeKeySlotEncrypted slot _ _ => ¬ slot.toNat < 16

variable {σ : Type} [Bus σ]

def perform : Request → DeviceM σ Unit
  | nonce input => discard (Device.nonce input)
  | mac mode slot challenge => discard (Device.mac mode slot challenge)
  | checkMac mode slot challenge response otherData =>
    discard (Device.checkMac mode slot challenge response otherData)
  | hmac slot challenge key => discard (Device.hmac slot challenge key)
  | genDigest zone slot => Device.genDigest zone slot
  | slotConfig slot => discard (Device.slotConfig slot)
  | writeSlotConfigs slot even odd => Device.writeSlotConfigs slot even odd
  | readKeySlot slot => discard (Device.readKeySlot slot)
  | writeKeySlot slot key => Device.writeKeySlot slot key
  | writeKeySlotEncrypted slot newKey currentKey => Device.writeKeySlotEncrypted slot newKey currentKey

end Request

/-! ## Operations that are refused at once -/

namespace Device

variable {σ α β : Type}

/-- The operation fails a check before it does anything to the handle. -/
def Refused (op : DeviceM σ α) : Prop :=
  ∃ error, ∀ device, op device = .error (.precondition error) device

namespace Refused

theorem throw (error : PreconditionError) : Refused (throw (.precondition error) : DeviceM σ α) :=
  ⟨error, fun _ => rfl⟩

theorem bind {op : DeviceM σ α} (h : Refused op) (f : α → DeviceM σ β) : Refused (op >>= f) := by
  obtain ⟨error, hop⟩ := h
  refine ⟨error, fun device => ?_⟩
  rw [bind_apply, hop]

theorem discard {op : DeviceM σ α} (h : Refused op) : Refused (discard op) :=
  h.bind _

theorem require {check : Except PreconditionError α} {f : α → DeviceM σ β}
    (h : ∀ a, check = .ok a → Refused (f a)) : Refused (require check >>= f) := by
  cases check with
  | ok a => exact h a rfl
  | error error => exact (throw error).bind f

end Refused

variable {slot : UInt8} {challenge : List UInt8}

theorem refused_keySlot {f : Unit → DeviceM σ β} (hslot : ¬ slot.toNat < 16) :
    Refused (Device.require (checkKeySlot slot) >>= f) := by
  apply Refused.require
  intro _ hchecked
  rw [checkKeySlot_eq_error hslot] at hchecked
  cases hchecked

theorem refused_length {what : String} {expected : Nat} {bytes : List UInt8} {f : Unit → DeviceM σ β}
    (hlength : bytes.length ≠ expected) : Refused (Device.require (checkLength what expected bytes) >>= f) := by
  apply Refused.require
  intro _ hchecked
  rw [checkLength, if_neg hlength] at hchecked
  cases hchecked

theorem refused_blockAddress {f : UInt8 → DeviceM σ β} (hslot : ¬ slot.toNat < 16) :
    Refused (Device.require (Zone.data.blockAddress slot) >>= f) := by
  have hlast : Zone.data.lastBlock < slot := by
    rw [UInt8.lt_iff_toNat_lt]
    exact Nat.lt_of_succ_le (Nat.le_of_not_lt hslot)
  apply Refused.require
  intro _ hchecked
  rw [Zone.blockAddress, if_pos hlast] at hchecked
  cases hchecked

theorem refused_slotConfigAddress {f : UInt8 → DeviceM σ β} (hslot : ¬ slot.toNat < 16) :
    Refused (Device.require (slotConfigAddress slot) >>= f) := by
  apply Refused.require
  intro _ hchecked
  rw [slotConfigAddress, checkKeySlot_eq_error hslot] at hchecked
  cases hchecked

variable [Bus σ]

theorem refused_nonce {input : List UInt8} (hpassed : input.length ≠ 32) (hrandom : input.length ≠ 20) :
    Refused (nonce (σ := σ) input) := by
  have hsize : input.length ≠ nonceInputSize := hrandom
  unfold nonce
  rw [if_neg hpassed, if_neg hsize]
  exact Refused.throw _

theorem refused_mac {mode : MacMode}
    (h : ¬ slot.toNat < 16 ∨ (mode.needsChallenge = true ∧ challenge.length ≠ 32)) :
    Refused (mac (σ := σ) mode slot challenge) := by
  rcases h with hslot | ⟨hneeds, hlength⟩
  · exact refused_keySlot hslot
  · apply Refused.require
    intro _ _
    rw [if_pos hneeds]
    exact refused_length hlength

theorem refused_checkMac {mode : CheckMacMode} {response otherData : List UInt8}
    (h : challenge.length ≠ 32 ∨ response.length ≠ 32 ∨ otherData.length ≠ 13 ∨ ¬ slot.toNat < 16) :
    Refused (checkMac (σ := σ) mode slot challenge response otherData) := by
  rcases h with hchallenge | hresponse | hother | hslot
  · exact refused_length hchallenge
  · exact Refused.require fun _ _ => refused_length hresponse
  · exact Refused.require fun _ _ => Refused.require fun _ _ => refused_length hother
  · exact Refused.require fun _ _ => Refused.require fun _ _ => Refused.require fun _ _ => refused_keySlot hslot

theorem refused_hmac {key : Option (List UInt8)} (h : ¬ slot.toNat < 16 ∨ challenge.length ≠ 32) :
    Refused (hmac (σ := σ) slot challenge key) := by
  rcases h with hslot | hlength
  · exact refused_keySlot hslot
  · exact Refused.require fun _ _ => refused_length hlength

theorem refused_writeSlotConfigs {even odd : SlotConfig} (h : slot % 2 ≠ 0 ∨ ¬ slot.toNat < 16) :
    Refused (writeSlotConfigs (σ := σ) slot even odd) := by
  unfold writeSlotConfigs
  split
  · exact (Refused.throw _).bind _
  · next heven => exact refused_slotConfigAddress (h.resolve_left heven)

end Device

namespace Request

variable {σ : Type} [Bus σ]

theorem Improper.refused {request : Request} (h : request.Improper) :
    Device.Refused (request.perform (σ := σ)) := by
  cases request with
  | nonce input => exact (Device.refused_nonce h.1 h.2).discard
  | mac mode slot challenge => exact (Device.refused_mac h).discard
  | checkMac mode slot challenge response otherData => exact (Device.refused_checkMac h).discard
  | hmac slot challenge key => exact (Device.refused_hmac h).discard
  | genDigest zone slot =>
    change Device.Refused (Device.genDigest zone slot)
    unfold Device.genDigest
    rw [if_pos h.1]
    exact Device.refused_keySlot h.2
  | slotConfig slot => exact (Device.refused_slotConfigAddress h).discard
  | writeSlotConfigs slot even odd => exact Device.refused_writeSlotConfigs h
  | readKeySlot slot => exact (Device.refused_blockAddress h).discard
  | writeKeySlot slot key => exact Device.refused_blockAddress h
  | writeKeySlotEncrypted slot newKey currentKey => exact Device.refused_keySlot h

end Request

/-! ## The key of an HMAC -/

namespace Device

variable {σ : Type} [Bus σ]

/-- The turns of an HMAC: the challenge is passed through to TempKey, then its digest is fetched. -/
def hmacTurns (slot : UInt8) (challenge : List UInt8) (mac : Block) : List Turn :=
  [.ack ⟨.nonce, 0x03, Bytes.pair 0 0, challenge⟩, ⟨.simple .hmac hmacMode slot.toUInt16, mac.toList⟩]

theorem nonce_converses {challenge : List UInt8} (hlength : challenge.length = 32) :
    Converses (nonce challenge : DeviceM (Logged σ) (List UInt8)) fun _ turns =>
      turns = [.ack ⟨.nonce, 0x03, Bytes.pair 0 0, challenge⟩] := by
  unfold nonce
  rw [if_pos hlength]
  have hexchange : Converses (exchange (σ := Logged σ) ⟨.nonce, 0x03, Bytes.pair 0 0, challenge⟩ 1) _ :=
    exchange_converses (by decide) nofun
  apply hexchange.mono
  intro payload turns hend
  obtain ⟨rfl, _, _, hsettles⟩ := hend
  rw [Access.settles?_ack hsettles]
  rfl

theorem hmac_converses (slot : UInt8) (challenge : List UInt8) :
    Converses (hmac slot challenge none : DeviceM (Logged σ) MacResult) fun result turns =>
      turns = hmacTurns slot challenge result.mac := by
  apply (require_converses _).bind
  intro _ turns hend
  obtain ⟨_, rfl⟩ := hend
  apply (require_converses _).bind
  intro _ turns hend
  obtain ⟨hchecked, rfl⟩ := hend
  have hlength : challenge.length = 32 := by
    by_contra hne
    rw [checkLength, if_neg hne] at hchecked
    cases hchecked
  apply (nonce_converses hlength).bind
  intro _ turns hturns
  subst hturns
  have hdigest : Converses (exchangeBytes (σ := Logged σ) 32 (.simple .hmac hmacMode slot.toUInt16)) _ :=
    exchangeBytes_converses (by decide) nofun
  apply hdigest.bind
  intro mac turns hturns
  subst hturns
  exact Converses.pure rfl

end Device

namespace Device

variable {σ : Type} [Bus σ]

theorem hmac_key_refused_late (slot : UInt8) (challenge : List UInt8) {key : List UInt8} (hkey : key.length ≠ 32)
    (device : Device (Logged σ)) (hlog : device.log = []) :
    match hmac slot challenge none device with
    | .ok result device' =>
      hmac slot challenge (some key) device =
        .error (.digest (.invalidLength "key" 32 key.length)) device' ∧
      Conversation (hmacTurns slot challenge result.mac) device'.log
    | .error error device' => hmac slot challenge (some key) device = .error error device' := by
  have hruns := hmac_converses slot challenge [] device hlog
  rw [hmac_key_length hkey]
  cases hrun : hmac slot challenge none device with
  | error error device' => rfl
  | ok result device' =>
    rw [hrun] at hruns
    obtain ⟨_, rfl, turns, trace, hend, htalk, _, rfl⟩ := hruns
    change device'.log = trace at hend
    refine ⟨rfl, ?_⟩
    rw [hend]
    exact htalk

/-- A request with a wrong argument is refused before it reaches the bus. A wrong key of an HMAC is not among
these: it shows only when the device has answered, and then as an error of the digest. -/
theorem arguments_checked (device : Device σ) :
    (∀ request : Request, request.Improper →
      (∃ error, request.perform device = .error (.precondition error) device) ∧
      (finalState (request.perform device.logged)).log = []) ∧
    ∀ slot challenge key, key.length ≠ 32 →
      match hmac slot challenge none device.logged with
      | .ok result device' =>
        hmac slot challenge (some key) device.logged =
          .error (.digest (.invalidLength "key" 32 key.length)) device' ∧
        Conversation (hmacTurns slot challenge result.mac) device'.log
      | .error error device' => hmac slot challenge (some key) device.logged = .error error device' := by
  constructor
  · intro request himproper
    obtain ⟨error, hrefused⟩ := himproper.refused (σ := σ)
    obtain ⟨error', hlogged⟩ := himproper.refused (σ := Logged σ)
    refine ⟨⟨error, hrefused device⟩, ?_⟩
    rw [hlogged device.logged]
    rfl
  · intro slot challenge key hkey
    exact hmac_key_refused_late slot challenge hkey device.logged rfl

/-- An undisturbed chip that has an HMAC for the slot has answered with it when a wrong key is refused. -/
theorem hmac_key_answered {σ : Type} [ChipBus σ] {k : Core} {slot : UInt8} {key : List UInt8}
    {device : Device σ} (hserves : Serves True k device) (hslot : slot.toNat < 16)
    (hpolicy : (k.memory.slotConfig ⟨slot.toNat, hslot⟩).checkOnly = false) (challenge : Block)
    (hkey : key.length ≠ 32) :
    ∃ mac device', hmac slot challenge.toList (some key) device.logged =
        .error (.digest (.invalidLength "key" 32 key.length)) device' ∧
      device'.log ≠ [] ∧ Conversation (hmacTurns slot challenge.toList mac) device'.log := by
  obtain ⟨result, device₁, _, hrun, _⟩ := (hmac_runs hslot hpolicy challenge none).exists_ok hserves
    fun _ _ hcut => hcut.1 trivial
  -- what happens without a log happens with one
  have hviewed := lockstep_unlogged.hmac slot challenge.toList none device.logged device rfl
  have hlate := hmac_key_refused_late slot challenge.toList hkey device.logged device.log_logged
  change hmac slot challenge.toList none device = .ok result device₁ at hrun
  rw [hrun] at hviewed
  cases hlogged : hmac slot challenge.toList none device.logged with
  | error error device' =>
    rw [hlogged] at hviewed
    cases hviewed
  | ok result device' =>
    rw [hlogged] at hlate
    obtain ⟨hdigest, htalk⟩ := hlate
    exact ⟨result.mac, device', hdigest, htalk.ne_nil, htalk⟩

def wokenChip : Chip :=
  { awake := true }

/-- A key of 31 bytes is refused only after the chip has taken the challenge and answered with a digest. -/
theorem hmac_short_key_answered :
    ∃ mac device', hmac 1 (Bytes.zero 32).toList (some (List.replicate 31 0x11)) (ofBus wokenChip).logged =
        .error (.digest (.invalidLength "key" 32 31)) device' ∧
      device'.log ≠ [] ∧ Conversation (hmacTurns 1 (Bytes.zero 32).toList mac) device'.log := by
  have hserves : Serves True wokenChip.core (ofBus wokenChip) := ⟨rfl, rfl, fun _ => ⟨rfl, rfl, by decide⟩⟩
  have hpolicy : (wokenChip.core.memory.slotConfig ⟨(1 : UInt8).toNat, by decide⟩).checkOnly = false := by
    decide +kernel
  have hshort : (List.replicate 31 (0x11 : UInt8)).length ≠ 32 := by
    simp
  obtain ⟨mac, device', hdigest, htalk⟩ := hmac_key_answered hserves (by decide) hpolicy (Bytes.zero 32) hshort
  rw [List.length_replicate] at hdigest
  exact ⟨mac, device', hdigest, htalk⟩

end Device

end SecureElement
