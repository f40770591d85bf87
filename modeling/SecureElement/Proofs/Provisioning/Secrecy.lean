import SecureElement.Proofs.Device.Protocol
import SecureElement.Proofs.Provisioning.Delivery
/-!
# Secrecy of the keys

Once a chip is delivered, the calls that look at it show nothing of its keys: on two chips with different keys
every sequence of them gives the same results.
-/

namespace SecureElement

/-! ## Sequences of calls -/

namespace Device

section

variable {σ : Type} [Bus σ]

inductive Inspection where
  | readWord (zone : Zone) (address : UInt8)
  | readBlock (zone : Zone) (address : UInt8)
  | readKeySlot (slot : UInt8)
  | configZone
  | otpZone
  | serialNumber
  | slotConfig (slot : UInt8)
  | isLocked (zone : Zone)
  | lifecycle
  deriving DecidableEq, Repr

namespace Inspection

abbrev Value : Inspection → Type
  | readWord _ _ => Word
  | readBlock _ _ => Block
  | readKeySlot _ => Block
  | configZone => List UInt8
  | otpZone => Bytes 64
  | serialNumber => Bytes 9
  | slotConfig _ => SlotConfig
  | isLocked _ => Bool
  | lifecycle => Lifecycle

def perform : (call : Inspection) → DeviceM σ call.Value
  | readWord zone address => Device.readWord zone address
  | readBlock zone address => Device.readBlock zone address
  | readKeySlot slot => Device.readKeySlot slot
  | configZone => Device.configZone
  | otpZone => Device.otpZone
  | serialNumber => Device.serialNumber
  | slotConfig slot => Device.slotConfig slot
  | isLocked zone => Device.isLocked zone
  | lifecycle => Device.lifecycle

end Inspection

/-- What the calls give, one after the other. A call that fails does not keep the next one from being made. -/
def inspect : List Inspection → Device σ → List (Σ call : Inspection, Except DeviceError call.Value)
  | [], _ => []
  | call :: calls, device =>
    ⟨call, conclusion (call.perform device)⟩ :: inspect calls (finalState (call.perform device))

end

end Device

/-! ## What chips show -/

namespace Memory

def Sealed (memory : Memory) : Prop :=
  ∀ slot, (memory.slotConfig slot).isSecret = true

def answerSlice (slice? : Option (List UInt8)) : Except Status (List UInt8) :=
  slice?.elim (.error .parseError) .ok

/-- What a sealed memory answers to a Read of `len` bytes. -/
def shown (memory : Memory) (zone : Zone) (address : UInt8) (len : Nat) : Except Status (List UInt8) :=
  match zone with
  | .config => answerSlice (Bytes.slice? memory.config (address.toNat * 4) len)
  | .otp => answerSlice (Bytes.slice? memory.otp (address.toNat * 4) len)
  | .data => .error .executionError

theorem answerSlice_cases {n : Nat} (bytes : Bytes n) (start len : Nat) :
    (∃ payload : Bytes len, answerSlice (bytes.slice? start len) = .ok payload.toList) ∨
      answerSlice (bytes.slice? start len) = .error .parseError := by
  by_cases h : start + len ≤ n
  · rw [Bytes.slice?_eq bytes h]
    exact .inl ⟨_, rfl⟩
  · rw [Bytes.slice?, if_neg h]
    exact .inr rfl

theorem shown_cases (memory : Memory) (zone : Zone) (address : UInt8) (len : Nat) :
    (∃ payload : Bytes len, memory.shown zone address len = .ok payload.toList) ∨
      memory.shown zone address len = .error .parseError ∨
      memory.shown zone address len = .error .executionError := by
  cases zone with
  | config => exact (answerSlice_cases memory.config (address.toNat * 4) len).imp_right .inl
  | otp => exact (answerSlice_cases memory.otp (address.toNat * 4) len).imp_right .inl
  | data => exact .inr (.inr rfl)

theorem exists_outcome?_shown (memory : Memory) (zone : Zone) (address : UInt8) {len : Nat} (command : Command)
    (hmin : 2 ≤ len) (hmax : len ≤ 252) :
    ∃ outcome, command.outcome? len (memory.shown zone address len) = some outcome := by
  rcases memory.shown_cases zone address len with ⟨payload, h⟩ | h | h
  · have hlength : payload.toList.length = len := Vector.length_toList
    have houtcome : command.outcome? payload.toList.length (.ok payload.toList) = some (.ok payload.toList) :=
      command.outcome?_payload (by omega) (by omega)
    rw [hlength] at houtcome
    exact ⟨_, by rw [h, houtcome]⟩
  · exact ⟨_, by rw [h, command.outcome?_refused len (.inr (.inl rfl))]⟩
  · exact ⟨_, by rw [h, command.outcome?_refused len (.inl rfl)]⟩

end Memory

namespace Chip

variable {k : Core}

/-- A word or a block, of any zone and at any address: slots above the last one answer like the others. -/
theorem performs_read_sealed {param1 : UInt8} {zone : Zone} {len : Nat} (address : UInt8)
    (hzone : Zone.ofParam? param1 = some zone) (hlen : (if Flag.decode 0x80 param1 then 32 else 4) = len)
    (hsealed : k.memory.Sealed) :
    (Command.simple .read param1 address.toUInt16).Performs k (k.memory.shown zone address len) k := by
  intro chip hcore
  subst hcore
  have hread : Chip.run (Command.simple .read param1 address.toUInt16) chip = Chip.read param1 address chip := by
    unfold Chip.run Command.simple
    rw [Bytes.byte_ofUInt16_toUInt16]
  rw [hread]
  unfold Chip.read
  rw [bind_apply, get_apply]
  simp only [hzone, hlen]
  cases zone with
  | config =>
    unfold Memory.shown
    dsimp only [core]
    cases Bytes.slice? chip.memory.config (address.toNat * 4) len <;> rfl
  | otp =>
    unfold Memory.shown
    dsimp only [core]
    cases Bytes.slice? chip.memory.otp (address.toNat * 4) len <;> rfl
  | data =>
    cases hslot : slotOfAddress? address with
    | none => rfl
    | some slot =>
      have hsecret : (chip.memory.slotConfig slot).isSecret = true := hsealed slot
      simp only [bind_apply, orStatus_some, hsecret, or_true, if_true]
      rfl

end Chip

/-! ## Two chips that show the same -/

namespace Device

variable {σ τ : Type} [ChipBus σ] [ChipBus τ]

theorem Serves.exchange {k k' : Core} {device : Device σ} {command : Command} {expected : Nat}
    {answer : Except Status (List UInt8)} {outcome : Except DeviceError (List UInt8)}
    (h : Serves True k device) (hlength : command.data.length ≤ maxCommandData)
    (hperforms : command.Performs k answer k') (houtcome : command.outcome? expected answer = some outcome) :
    conclusion (exchange command expected device) = outcome ∧
      Serves True k' (finalState (exchange command expected device)) := by
  have hruns := exchange_runs hlength hperforms houtcome device h
  cases hrun : Device.exchange command expected device with
  | ok payload device' =>
    rw [hrun] at hruns
    obtain ⟨_, hserves, rfl, rfl⟩ := hruns
    exact ⟨rfl, hserves⟩
  | error error device' =>
    rw [hrun] at hruns
    obtain ⟨_, hserves, ⟨rfl, rfl⟩ | ⟨hrough, _⟩⟩ := hruns
    · exact ⟨rfl, hserves⟩
    · exact absurd trivial hrough

/-- Two calm chips with sealed memories that differ in the keys alone. -/
inductive Twins (device : Device σ) (other : Device τ) : Prop where
  | intro (k l : Core) (hserves : Serves True k device) (hother : Serves True l other)
    (hsealed : k.memory.Sealed) (hconfig : l.memory.config = k.memory.config)
    (hotp : l.memory.otp = k.memory.otp)

theorem Twins.exchange_read {param1 : UInt8} {zone : Zone} {len : Nat} (address : UInt8)
    (hzone : Zone.ofParam? param1 = some zone) (hlen : (if Flag.decode 0x80 param1 then 32 else 4) = len) :
    Alike (Twins (σ := σ) (τ := τ)) (exchange (.simple .read param1 address.toUInt16) len)
      (exchange (.simple .read param1 address.toUInt16) len) := by
  rintro device other ⟨k, l, hserves, hother, hsealed, hconfig, hotp⟩
  have hslots : l.memory.Sealed := by
    intro slot
    rw [Memory.slotConfig, hconfig]
    exact hsealed slot
  have hshown : l.memory.shown zone address len = k.memory.shown zone address len := by
    unfold Memory.shown
    rw [hconfig, hotp]
  have hperforms := Chip.performs_read_sealed address hzone hlen hsealed
  have hperforms' := Chip.performs_read_sealed address hzone hlen hslots
  rw [hshown] at hperforms'
  have hsize : len = 32 ∨ len = 4 := by
    rw [← hlen]
    split
    · exact .inl rfl
    · exact .inr rfl
  obtain ⟨outcome, houtcome⟩ := k.memory.exists_outcome?_shown zone address
    (.simple .read param1 address.toUInt16) (show 2 ≤ len by omega) (by omega)
  obtain ⟨hconclusion, hserves'⟩ := hserves.exchange (Nat.zero_le _) hperforms houtcome
  obtain ⟨hconclusion', hother'⟩ := hother.exchange (Nat.zero_le _) hperforms' houtcome
  exact agree_iff.2 ⟨hconclusion.trans hconclusion'.symm, k, l, hserves', hother', hsealed, hconfig, hotp⟩

theorem Twins.exchangeBytes_read {param1 : UInt8} {zone : Zone} {len : Nat} (address : UInt8)
    (hzone : Zone.ofParam? param1 = some zone) (hlen : (if Flag.decode 0x80 param1 then 32 else 4) = len) :
    Alike (Twins (σ := σ) (τ := τ)) (exchangeBytes len (.simple .read param1 address.toUInt16))
      (exchangeBytes len (.simple .read param1 address.toUInt16)) := by
  apply (exchange_read address hzone hlen).bind
  intro payload
  cases Bytes.ofList? len payload with
  | none => exact Alike.throw _
  | some bytes => exact Alike.pure _

theorem Twins.reads : ReadsAlike (Twins (σ := σ) (τ := τ)) where
  readWord zone address := exchangeBytes_read address zone.ofParam?_bits (by simp)
  readBlock zone address := exchangeBytes_read address zone.ofParam?_blockParam (by simp)

theorem Twins.observed (event event' : Event) {device : Device σ} {other : Device τ} (h : Twins device other) :
    Twins { device with events := device.events.push event }
      { other with events := other.events.push event' } := by
  obtain ⟨k, l, hserves, hother, hsealed, hconfig, hotp⟩ := h
  exact ⟨k, l, ⟨hserves.awake, hserves.core, hserves.undisturbed⟩,
    ⟨hother.awake, hother.core, hother.undisturbed⟩, hsealed, hconfig, hotp⟩

theorem Twins.perform (call : Inspection) :
    Alike (Twins (σ := σ) (τ := τ)) call.perform call.perform := by
  cases call with
  | readWord zone address => exact Twins.reads.readWord zone address
  | readBlock zone address => exact Twins.reads.readBlock zone address
  | readKeySlot slot => exact Twins.reads.readKeySlot slot
  | configZone => exact Twins.reads.configZone
  | otpZone => exact Twins.reads.otpZone
  | serialNumber => exact Twins.reads.serialNumber
  | slotConfig slot => exact Twins.reads.slotConfig slot
  | isLocked zone => exact Twins.reads.isLocked zone
  | lifecycle => exact Twins.reads.lifecycle fun _ _ _ h => h.observed _ _

theorem Twins.inspect_eq (calls : List Inspection) {device : Device σ} {other : Device τ}
    (h : Twins device other) : inspect calls device = inspect calls other := by
  -- on the calls that are left; each of them leaves twins
  induction calls generalizing device other with
  | nil => rfl
  | cons call calls ih =>
    obtain ⟨hconclusion, hfinal⟩ := agree_iff.1 (Twins.perform call device other h)
    calc inspect (call :: calls) device
      _ = ⟨call, conclusion (call.perform device)⟩ :: inspect calls (finalState (call.perform device)) := rfl
      _ = ⟨call, conclusion (call.perform other)⟩ :: inspect calls (finalState (call.perform other)) := by
        rw [hconclusion, ih hfinal]

end Device

/-! ## Delivered chips -/

theorem Memory.sealed_delivered (keySet : KeySet) : (Memory.delivered keySet).Sealed := by
  have hall : ∀ slot : Fin 16, (Memory.deliveredPolicy slot).isSecret = true := by
    decide
  intro slot
  rw [Memory.delivered_slotConfig]
  exact hall slot

open Device (inspect Twins Inspection)

variable {σ τ κ ι : Type} [ChipBus σ] [ChipBus τ] [KeyStore κ] [KeyStore ι]

theorem Device.twins_delivered {device : Device σ} {other : Device τ} {keySet keySet' : KeySet}
    (h : device.Ready (.delivered keySet)) (h' : other.Ready (.delivered keySet')) : Twins device other := by
  obtain ⟨k, hk, hserves⟩ := h.serves
  obtain ⟨l, hl, hother⟩ := h'.serves
  refine ⟨k, l, hserves, hother, ?_, ?_, ?_⟩
  · rw [hk]
    exact Memory.sealed_delivered keySet
  · rw [hk, hl, Memory.delivered_config, Memory.delivered_config]
  · rw [hk, hl, Memory.delivered_otp, Memory.delivered_otp]

namespace Provisioning

/-- Of two new chips that were personalized, whatever the keys and the stores, no sequence of calls that look at
them tells which is which. -/
theorem keys_stay_secret {device : Device σ} {other : Device τ} {store : κ} {store' : ι}
    {keys keys' : Option KeySet} {state state' : Lifecycle} {final : Provisioning σ κ}
    {final' : Provisioning τ ι} (hnew : device.Ready .factory) (hother : other.Ready .factory)
    (hrun : run .personalized keys device store = .ok state final)
    (hrun' : run .personalized keys' other store' = .ok state' final') (calls : List Inspection) :
    inspect calls final.device = inspect calls final'.device := by
  obtain ⟨_, _, _, hready⟩ := run_delivers hnew hrun
  obtain ⟨_, _, _, hready'⟩ := run_delivers hother hrun'
  exact (Device.twins_delivered hready hready').inspect_eq calls

/-- Two chips that hold different keys in slot 3 are read with the same results. -/
theorem keys_stay_secret_differing :
    ∃ final final',
      run .personalized (some ⟨Vector.replicate 16 (Bytes.zero 32)⟩) Device.newChip ({} : MemoryStore) =
        .ok .personalized final ∧
      run .personalized (some ⟨Vector.replicate 16 (Vector.replicate 32 1)⟩) Device.newChip ({} : MemoryStore) =
        .ok .personalized final' ∧
      final.device.bench.chip.memory.key 3 ≠ final'.device.bench.chip.memory.key 3 ∧
      ∀ calls, inspect calls final.device = inspect calls final'.device := by
  obtain ⟨final, keySet, hrun, hsuits, hready⟩ := run_succeeds_new
    (some ⟨Vector.replicate 16 (Bytes.zero 32)⟩) Device.ready_newChip (not_refuses_memoryStore _ {})
  obtain ⟨final', keySet', hrun', hsuits', hready'⟩ := run_succeeds_new
    (some ⟨Vector.replicate 16 (Vector.replicate 32 1)⟩) Device.ready_newChip (not_refuses_memoryStore _ {})
  refine ⟨final, final', hrun, hrun', ?_, fun calls =>
    keys_stay_secret Device.ready_newChip Device.ready_newChip hrun hrun' calls⟩
  rw [hready.holds, hready'.holds, Memory.delivered_key, Memory.delivered_key, hsuits _ rfl, hsuits' _ rfl]
  decide

end Provisioning

end SecureElement
