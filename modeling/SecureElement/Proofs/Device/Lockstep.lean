import SecureElement.Proofs.Alike
import SecureElement.Proofs.Bus.Log
import SecureElement.Proofs.Device.Exchange
import SecureElement.Provisioning
/-!
# Operations in lockstep

An operation reaches the device through writes, reads and waits alone, and otherwise depends on nothing but the
settings of the handle. So two handles that these keep alike are kept alike by every operation, and what these
preserve of one handle every operation preserves.
-/

namespace SecureElement

def Event.isReport : Event → Bool
  | .stateObserved _ => true
  | _ => false

namespace Device

variable {σ τ α β : Type}

theorem onBus_bind (action : EStateM BusError σ α) (f : α → EStateM BusError σ β) :
    onBus (action >>= f) = onBus action >>= fun a => onBus (f a) := by
  funext device
  rw [bind_apply]
  unfold onBus
  rw [bind_apply]
  cases action device.bus <;> rfl

variable [Bus σ] [Bus τ]

/-- A relation between two handles that writes, reads and waits keep, with what comes of them alike. The handles
have the same settings. Reports of the state need not keep the relation. -/
structure Lockstep (R : Device σ → Device τ → Prop) : Prop where
  retryBudget {device : Device σ} {other : Device τ} (h : R device other) :
    device.retryBudget = other.retryBudget
  pacing {device : Device σ} {other : Device τ} (h : R device other) : device.pacing = other.pacing
  write (bytes : List UInt8) : Alike R (onBus (Bus.write bytes)) (onBus (Bus.write bytes))
  read (len : Nat) : Alike R (onBus (Bus.read len)) (onBus (Bus.read len))
  wait {device : Device σ} {other : Device τ} (micros : Nat) (h : R device other) :
    R { device with bus := Bus.wait micros device.bus } { other with bus := Bus.wait micros other.bus }
  emit {device : Device σ} {other : Device τ} {event : Event} (hevent : event.isReport = false)
    (h : R device other) :
    R { device with events := device.events.push event } { other with events := other.events.push event }

namespace Lockstep

variable {R : Device σ → Device τ → Prop} (h : Lockstep R)
include h

/-! ## The bus -/

theorem emitted {ε : Type} {event : Event} (hevent : event.isReport = false) :
    Alike R (Device.emit event : EStateM ε (Device σ) Unit) (Device.emit event) :=
  Alike.modify fun _ _ => h.emit hevent

omit h [Bus σ] [Bus τ] in
theorem onBus_bind {action : EStateM BusError σ α} {action' : EStateM BusError τ α}
    {f : α → EStateM BusError σ β} {f' : α → EStateM BusError τ β}
    (hop : Alike R (onBus action) (onBus action')) (hf : ∀ a, Alike R (onBus (f a)) (onBus (f' a))) :
    Alike R (onBus (action >>= f)) (onBus (action' >>= f')) := by
  rw [Device.onBus_bind, Device.onBus_bind]
  exact hop.bind hf

theorem busWake : Alike R (onBus Bus.wake) (onBus Bus.wake) := by
  have hthrow (error : BusError) : Alike R (onBus (throw error)) (onBus (throw error) : DeviceM τ Unit) :=
    Alike.throw (DeviceError.bus error)
  have hwait (micros : Nat) : Alike R (onBus (modify (Bus.wait micros)) : DeviceM σ Unit)
      (onBus (modify (Bus.wait micros))) :=
    Alike.modify fun _ _ => h.wait micros
  apply onBus_bind (h.write _)
  intro written
  split
  · exact hthrow _
  · apply onBus_bind (hwait _)
    intro _
    apply onBus_bind (h.read _)
    intro response
    split
    · exact hthrow _
    · exact Alike.pure ()

theorem busWrite (bytes : List UInt8) :
    Alike R (onBus (do let _ ← Bus.write bytes)) (onBus (do let _ ← Bus.write bytes)) :=
  onBus_bind (h.write _) fun _ => Alike.pure ()

theorem wake : Alike R wake wake :=
  h.busWake.bind fun _ => h.emitted (by rfl)

theorem sleep : Alike R sleep sleep :=
  (h.busWrite _).bind fun _ => h.emitted (by rfl)

theorem idle : Alike R idle idle :=
  h.busWrite _

/-! ## Exchanges -/

theorem transmit (command : Command) : Alike R (transmit command) (transmit command) := by
  unfold Device.transmit
  apply (h.write _).bind
  intro written
  exact Alike.guarded (h.emitted (by rfl))

theorem pause (opcode : Opcode) : Alike R (pause opcode) (pause opcode) := by
  apply Alike.modify
  intro device other hR
  have hdelay : other.pacing.delay opcode = device.pacing.delay opcode := by rw [h.pacing hR]
  rw [hdelay]
  exact h.wait _ hR

theorem receive (opcode : Opcode) (expected : Nat) :
    Alike R (receive opcode expected) (receive opcode expected) := by
  intro device other hR
  have hread := h.read (Response.size expected) device other hR
  unfold onBus at hread
  unfold Device.receive
  generalize Bus.read (Response.size expected) device.bus = result,
    Bus.read (Response.size expected) other.bus = result' at hread ⊢
  cases result with
  | ok buffer bus =>
    cases result' with
    | ok buffer' bus' =>
      cases hread with
      | ok hR' => exact .ok (h.emit rfl hR')
    | error error' bus' => cases hread
  | error error bus =>
    cases result' with
    | ok buffer' bus' => cases hread
    | error error' bus' =>
      cases hread with
      | error hR' =>
        dsimp only
        split
        · exact .ok hR'
        · exact .error hR'

theorem attempts (command : Command) (expected left attempt : Nat) (resend : Bool) :
    Alike R (attempts command expected left attempt resend)
      (attempts command expected left attempt resend) := by
  induction left generalizing attempt resend with
  | zero => exact Alike.throw _
  | succ left ih =>
    have hpoll : Alike R (Device.attempts command expected (left + 1) attempt false)
        (Device.attempts command expected (left + 1) attempt false) := by
      apply (h.pause _).bind
      intro _
      apply (h.receive _ _).bind
      intro verdict
      cases verdict with
      | answered payload => exact Alike.pure _
      | refused status => exact Alike.throw _
      | inconclusive resend reason =>
        dsimp only
        split
        · exact (h.emitted (by rfl)).bind fun _ => ih _ _
        · exact ih _ _
    cases resend with
    | true =>
      rw [attempts_resend, attempts_resend]
      exact (h.transmit _).bind fun _ => hpoll
    | false => exact hpoll

theorem exchange (command : Command) (expected : Nat) :
    Alike R (exchange command expected) (exchange command expected) := by
  intro device other hR
  have hattempts := h.attempts command expected device.retryBudget 1 true device other hR
  nth_rewrite 2 [h.retryBudget hR] at hattempts
  exact hattempts

theorem exchangeBytes (n : Nat) (command : Command) :
    Alike R (exchangeBytes n command) (exchangeBytes n command) := by
  apply (h.exchange _ _).bind
  intro payload
  cases Bytes.ofList? n payload with
  | none => exact Alike.throw _
  | some bytes => exact Alike.pure _

theorem exchangeAck (command : Command) : Alike R (exchangeAck command) (exchangeAck command) :=
  (h.exchange _ _).bind fun _ => Alike.pure _

omit h [Bus σ] [Bus τ] in
theorem require (value : Except PreconditionError α) : Alike R (require value) (require value) := by
  cases value with
  | ok value => exact Alike.pure _
  | error error => exact Alike.throw _

omit h [Bus σ] [Bus τ] in
theorem compute (value : Except DigestError α) : Alike R (compute value) (compute value) := by
  cases value with
  | ok value => exact Alike.pure _
  | error error => exact Alike.throw _

end Lockstep

/-! ## Reading zones -/

structure ReadsAlike (R : Device σ → Device τ → Prop) : Prop where
  readWord (zone : Zone) (address : UInt8) : Alike R (readWord zone address) (readWord zone address)
  readBlock (zone : Zone) (address : UInt8) : Alike R (readBlock zone address) (readBlock zone address)

namespace ReadsAlike

variable {R : Device σ → Device τ → Prop} (h : ReadsAlike R)
include h

theorem readWords (zone : Zone) (address : UInt8) (count : Nat) :
    Alike R (readWords zone address count) (readWords zone address count) := by
  induction count generalizing address with
  | zero => exact Alike.pure _
  | succ count ih =>
    apply (h.readWord _ _).bind
    intro word
    exact (ih _).bind fun _ => Alike.pure _

theorem configZone : Alike R configZone configZone :=
  h.readWords _ _ _

theorem otpZone : Alike R otpZone otpZone := by
  apply (Lockstep.require _).bind
  intro address
  apply (h.readBlock _ _).bind
  intro first
  apply (Lockstep.require _).bind
  intro address
  exact (h.readBlock _ _).bind fun _ => Alike.pure _

theorem serialNumber : Alike R serialNumber serialNumber := by
  apply (h.readWord _ _).bind
  intro w0
  apply (h.readWord _ _).bind
  intro w2
  exact (h.readWord _ _).bind fun _ => Alike.pure _

theorem isLocked (zone : Zone) : Alike R (isLocked zone) (isLocked zone) :=
  (h.readWord _ _).bind fun _ => Alike.pure _

theorem lifecycle (hreport : ∀ state device other, R device other →
      R { device with events := device.events.push (.stateObserved state) }
        { other with events := other.events.push (.stateObserved state) }) :
    Alike R lifecycle lifecycle := by
  apply (h.readWord _ _).bind
  intro word
  apply (Lockstep.require _).bind
  intro state
  exact (Alike.modify (hreport state)).bind fun _ => Alike.pure _

theorem isOtpReadOnly : Alike R isOtpReadOnly isOtpReadOnly :=
  (h.readWord _ _).bind fun _ => Alike.pure _

theorem lock {zone : Zone} {crc : Option UInt16}
    (hlock : Alike R (exchangeAck (.simple .lock (lockParam zone crc) (crc.getD 0)))
      (exchangeAck (.simple .lock (lockParam zone crc) (crc.getD 0)))) :
    Alike R (lock zone crc) (lock zone crc) := by
  apply (h.isLocked _).bind
  intro locked
  exact Alike.guarded hlock

theorem slotConfig (slot : UInt8) : Alike R (slotConfig slot) (slotConfig slot) := by
  apply (Lockstep.require _).bind
  intro address
  exact (h.readWord _ _).bind fun _ => Alike.pure _

theorem readKeySlot (slot : UInt8) : Alike R (readKeySlot slot) (readKeySlot slot) :=
  (Lockstep.require _).bind fun _ => h.readBlock _ _

end ReadsAlike

namespace Lockstep

variable {R : Device σ → Device τ → Prop} (h : Lockstep R)
include h

theorem reads : ReadsAlike R where
  readWord _ _ := h.exchangeBytes _ _
  readBlock _ _ := h.exchangeBytes _ _

theorem revision : Alike R revision revision :=
  h.exchangeBytes _ _

/-! ## Writing and locking zones -/

theorem writeWord (zone : Zone) (address : UInt8) (data : Word) :
    Alike R (writeWord zone address data) (writeWord zone address data) :=
  h.exchangeAck _

theorem writeBlock (zone : Zone) (address : UInt8) (data : Block) (mac : Option Block) :
    Alike R (writeBlock zone address data mac) (writeBlock zone address data mac) :=
  h.exchangeAck _

theorem lock (zone : Zone) (crc : Option UInt16) : Alike R (lock zone crc) (lock zone crc) :=
  h.reads.lock (h.exchangeAck _)

omit h in
theorem writeSlotConfigs_of_writeWord {slot : UInt8} {even odd : SlotConfig}
    (hwrite : ∀ address data,
      Alike R (Device.writeWord .config address data) (Device.writeWord .config address data)) :
    Alike R (writeSlotConfigs slot even odd) (writeSlotConfigs slot even odd) := by
  unfold Device.writeSlotConfigs
  exact Alike.guarded ((require _).bind fun _ => hwrite _ _)

theorem writeSlotConfigs (slot : UInt8) (even odd : SlotConfig) :
    Alike R (writeSlotConfigs slot even odd) (writeSlotConfigs slot even odd) :=
  writeSlotConfigs_of_writeWord fun _ _ => h.writeWord _ _ _

theorem writeKeySlot (slot : UInt8) (key : Block) : Alike R (writeKeySlot slot key) (writeKeySlot slot key) :=
  (require _).bind fun _ => h.writeBlock _ _ _ _

/-! ## Random numbers, digests and encrypted writes -/

theorem random (updateSeed : Bool) : Alike R (random updateSeed) (random updateSeed) :=
  h.exchangeBytes _ _

omit h in
theorem randomBlocks_of_random {updateSeed : Bool}
    (hdraw : Alike R (Device.random updateSeed) (Device.random updateSeed)) (count : Nat) :
    Alike R (randomBlocks updateSeed count) (randomBlocks updateSeed count) := by
  induction count with
  | zero => exact Alike.pure _
  | succ count ih =>
    apply ih.bind
    intro blocks
    exact hdraw.bind fun _ => Alike.pure _

theorem randomBlocks (updateSeed : Bool) (count : Nat) :
    Alike R (randomBlocks updateSeed count) (randomBlocks updateSeed count) :=
  randomBlocks_of_random (h.random _) count

theorem randomBytes (n : Nat) (updateSeed : Bool) :
    Alike R (randomBytes n updateSeed) (randomBytes n updateSeed) := by
  unfold Device.randomBytes
  exact Alike.guarded ((h.randomBlocks _ _).bind fun _ => Alike.pure _)

theorem nonce (input : List UInt8) : Alike R (nonce input) (nonce input) :=
  Alike.ite (h.exchange _ _) (Alike.ite (h.exchange _ _) (Alike.throw _))

theorem genDigest (zone : Zone) (slot : UInt8) : Alike R (genDigest zone slot) (genDigest zone slot) := by
  unfold Device.genDigest
  apply Alike.ite
  · exact (require _).bind fun _ => h.exchangeAck _
  · exact h.exchangeAck _

theorem checkMac (mode : CheckMacMode) (slot : UInt8) (challenge response otherData : List UInt8) :
    Alike R (checkMac mode slot challenge response otherData)
      (checkMac mode slot challenge response otherData) := by
  apply (require _).bind
  intro _
  apply (require _).bind
  intro _
  apply (require _).bind
  intro _
  apply (require _).bind
  intro _
  apply Alike.tryCatch
  · exact (h.exchangeAck _).bind fun _ => Alike.pure _
  · intro error
    split
    · exact Alike.pure _
    · exact Alike.throw _

theorem otherData (mode : MacMode) : Alike R (otherData mode) (otherData mode) := by
  unfold Device.otherData
  dsimp only
  split
  · apply h.reads.otpZone.bind
    intro otp
    split
    · exact h.reads.serialNumber.bind fun _ => compute _
    · exact (Alike.pure _).bind fun _ => compute _
  · apply (Alike.pure _).bind
    intro otp
    split
    · exact h.reads.serialNumber.bind fun _ => compute _
    · exact (Alike.pure _).bind fun _ => compute _

theorem mac (mode : MacMode) (slot : UInt8) (challenge : List UInt8) :
    Alike R (mac mode slot challenge) (mac mode slot challenge) := by
  apply (require _).bind
  intro _
  dsimp only
  split
  · apply (require _).bind
    intro _
    apply (h.exchangeBytes _ _).bind
    intro mac
    apply (h.otherData _).bind
    intro other
    exact (h.checkMac _ _ _ _ _).bind fun _ => Alike.pure _
  · apply (h.exchangeBytes _ _).bind
    intro mac
    apply (h.otherData _).bind
    intro other
    exact (h.checkMac _ _ _ _ _).bind fun _ => Alike.pure _

theorem hmac (slot : UInt8) (challenge : List UInt8) (key : Option (List UInt8)) :
    Alike R (hmac slot challenge key) (hmac slot challenge key) := by
  apply (require _).bind
  intro _
  apply (require _).bind
  intro _
  apply (h.nonce _).bind
  intro _
  apply (h.exchangeBytes _ _).bind
  intro mac
  cases key with
  | none => exact Alike.pure _
  | some key => exact (compute _).bind fun _ => Alike.pure _

theorem writeKeySlotEncrypted (slot : UInt8) (newKey currentKey : Block) :
    Alike R (writeKeySlotEncrypted slot newKey currentKey) (writeKeySlotEncrypted slot newKey currentKey) := by
  apply (require _).bind
  intro _
  apply h.reads.otpZone.bind
  intro otp
  apply (h.nonce _).bind
  intro random
  apply (h.genDigest _ _).bind
  intro _
  apply (compute _).bind
  intro write
  exact h.writeBlock _ _ _ _

end Lockstep

/-! ## What can be kept -/

omit [Bus τ] in
/-- An invariant of a handle is kept by every operation if the single accesses keep it. -/
theorem lockstep_invariant {I : Device σ → Prop}
    (hwrite : ∀ bytes device, I device → I (finalState (onBus (Bus.write bytes) device)))
    (hread : ∀ len device, I device → I (finalState (onBus (Bus.read len) device)))
    (hwait : ∀ micros device, I device → I { device with bus := Bus.wait micros device.bus })
    (hemit : ∀ event device, event.isReport = false → I device →
      I { device with events := device.events.push event }) :
    Lockstep fun device other => device = other ∧ I device where
  retryBudget := by
    rintro device _ ⟨rfl, _⟩
    rfl
  pacing := by
    rintro device _ ⟨rfl, _⟩
    rfl
  write bytes := Alike.invariant (hwrite bytes)
  read len := Alike.invariant (hread len)
  wait := by
    rintro device _ micros ⟨rfl, hI⟩
    exact ⟨rfl, hwait micros device hI⟩
  emit := by
    rintro device _ event hevent ⟨rfl, hI⟩
    exact ⟨rfl, hemit event device hevent hI⟩

omit [Bus τ] in
/-- Keeping a log changes nothing else. -/
theorem lockstep_unlogged :
    Lockstep fun (device : Device (Logged σ)) (other : Device σ) => device.unlogged = other where
  retryBudget := by
    rintro device _ rfl
    rfl
  pacing := by
    rintro device _ rfl
    rfl
  write bytes := by
    rintro device _ rfl
    change Agree _ (onBus (Logged.enter _ (Bus.write bytes)) device) (onBus (Bus.write bytes) device.unlogged)
    unfold onBus Logged.enter unlogged
    dsimp only
    cases Bus.write bytes device.bus.bus with
    | ok written bus => exact .ok rfl
    | error error bus => exact .error rfl
  read len := by
    rintro device _ rfl
    change Agree _ (onBus (Logged.enter _ (Bus.read len)) device) (onBus (Bus.read len) device.unlogged)
    unfold onBus Logged.enter unlogged
    dsimp only
    cases Bus.read len device.bus.bus with
    | ok buffer bus => exact .ok rfl
    | error error bus => exact .error rfl
  wait := by
    rintro device _ micros rfl
    rfl
  emit := by
    rintro device _ event _ rfl
    rfl

end Device

end SecureElement
