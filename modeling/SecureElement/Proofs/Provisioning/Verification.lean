import SecureElement.Proofs.Device.Hmac
import SecureElement.Proofs.Device.Mac
import SecureElement.Proofs.KeyStore.Keeps
import SecureElement.Proofs.Provisioning.Delivery
/-!
# Verification with recorded keys

The keys that a run records are those that the chip then answers with. Odd slots give digests that the recorded
key verifies; even slots give none, and confirm the one that the recorded key leads to.
-/

namespace SecureElement

variable {σ : Type} [ChipBus σ]

namespace Device

/-- The slot gives a MAC and an HMAC of the challenge, and both verify with the key. -/
def Signs (device : Device σ) (slot : UInt8) (key challenge : List UInt8) : Prop :=
  (∃ result device', mac {} slot challenge device = .ok result device' ∧
    verifyMac challenge result.mac.toList key 0 slot.toUInt16 = .ok true) ∧
  ∃ result device', hmac slot challenge (some key) device = .ok result device' ∧ result.verified = true

/-- The slot gives no digest of the challenge away, and confirms the MAC that the key leads to. -/
def ChecksOnly (device : Device σ) (slot : UInt8) (key challenge : List UInt8) : Prop :=
  (∃ device', mac {} slot challenge device = .error (.status .mac .executionError) device') ∧
  (∀ given, ∃ device', hmac slot challenge given device = .error (.status .hmac .executionError) device') ∧
  ∃ response device', macDigest challenge key 0 slot.toUInt16 {} = .ok response ∧
    checkMac {} slot challenge response.toList (checkMacData {} slot {}).toList device = .ok true device'

variable {k : Core} {slot : UInt8} {device : Device σ}

theorem macValue_plain (hslot : slot.toNat < 16) (challenge : Block) :
    macValue k {} slot hslot (Bytes.zero 32) challenge =
      plainMac challenge (k.memory.key ⟨slot.toNat, hslot⟩) 0 slot.toUInt16 := rfl

theorem Serves.signs (h : Serves True k device) (hslot : slot.toNat < 16)
    (hpolicy : (k.memory.slotConfig ⟨slot.toNat, hslot⟩).checkOnly = false) (challenge : Block) :
    device.Signs slot (k.memory.key ⟨slot.toNat, hslot⟩).toList challenge.toList := by
  constructor
  · have hruns : Runs (Serves (σ := σ) True) (mac {} slot challenge.toList) k _ _ :=
      mac_runs hslot hpolicy rfl (fun _ => Vector.length_toList) rfl
    obtain ⟨result, device', _, hrun, _, rfl, _⟩ := hruns.exists_ok h fun _ _ hcut => hcut.1 trivial
    refine ⟨_, device', hrun, ?_⟩
    rw [verifyMac_toList, macValue_plain, decide_eq_true rfl]
  · obtain ⟨result, device', _, hrun, _, rfl, _⟩ := (hmac_runs hslot hpolicy challenge
      (some (k.memory.key ⟨slot.toNat, hslot⟩))).exists_ok h fun _ _ hcut => hcut.1 trivial
    exact ⟨_, device', hrun, decide_eq_true rfl⟩

theorem Serves.checksOnly (h : Serves True k device) (hslot : slot.toNat < 16)
    (hpolicy : (k.memory.slotConfig ⟨slot.toNat, hslot⟩).checkOnly = true) (challenge : Block) :
    device.ChecksOnly slot (k.memory.key ⟨slot.toNat, hslot⟩).toList challenge.toList := by
  refine ⟨?_, fun given => ?_, ?_⟩
  · have hruns : Runs (Serves (σ := σ) True) (mac {} slot challenge.toList) k _ _ :=
      mac_refused_runs hslot (fun _ => Vector.length_toList) (.inl hpolicy)
    obtain ⟨_, device', _, hrun, _, ⟨rfl, _⟩ | hcut⟩ := hruns.exists_error h
    · exact ⟨device', hrun⟩
    · exact absurd trivial hcut.1
  · obtain ⟨_, device', _, hrun, _, ⟨rfl, _⟩ | hcut⟩ :=
      (hmac_refused_runs hslot hpolicy challenge given).exists_error h
    · exact ⟨device', hrun⟩
    · exact absurd trivial hcut.1
  · have hruns : Runs (Serves (σ := σ) True) (checkMac {} slot challenge.toList
        (macValue k {} slot hslot (Bytes.zero 32) challenge).toList (checkMacData {} slot {}).toList) k _ _ :=
      checkMac_macValue_runs hslot Vector.length_toList rfl rfl
    obtain ⟨_, device', _, hrun, _, rfl, _⟩ := hruns.exists_ok h fun _ _ hcut => hcut.1 trivial
    exact ⟨_, device', macDigest_toList _ challenge 0 slot.toUInt16 {}, hrun⟩

end Device

namespace Provisioning

theorem checkOnly_deliveredPolicy {slot : UInt8} (hslot : slot.toNat < 16) :
    (Memory.deliveredPolicy ⟨slot.toNat, hslot⟩).checkOnly = decide (slot % 2 = 0) := by
  have heven : slot % 2 = 0 ↔ slot.toNat % 2 = 0 := by
    rw [← UInt8.toNat_inj, UInt8.toNat_mod]
    rfl
  unfold Memory.deliveredPolicy
  by_cases h : slot.toNat % 2 = 0
  · rw [if_pos h, decide_eq_true (heven.2 h)]
    rfl
  · rw [if_neg h, decide_eq_false (mt heven.1 h)]
    rfl

variable {κ : Type} [KeyStore κ]

def Gives (final : Provisioning σ κ) : Prop :=
  ∀ slot : UInt8, slot.toNat < 16 → ∃ text, KeyStore.find? slot final.store = .ok (some text)

/-- What the store of a run gives for a slot is the text of a key that verifies, on every handle that serves the chip
which the run has left: an odd slot signs with it, and an even one checks against it. -/
structure Vouched (final : Provisioning σ κ) : Prop where
  ready : final.device.Ready final.device.bench.chip.memory
  verifies : ∀ slot : UInt8, slot.toNat < 16 → ∃ key,
    (∀ text, KeyStore.find? slot final.store = .ok (some text) → Hex.decode (Text.utf8Bytes text) = .ok key) ∧
    ∀ later : Device σ, later.Ready final.device.bench.chip.memory →
      ∀ challenge : List UInt8, challenge.length = 32 →
        (slot % 2 = 1 → later.Signs slot key challenge) ∧
        (slot % 2 = 0 → later.ChecksOnly slot key challenge)

variable {device : Device σ} {store : κ} {keys : Option KeySet} {state : Lifecycle} {final : Provisioning σ κ}

theorem vouched_of_run (hnew : device.Ready .factory) (hstore : KeyStore.Faithful store)
    (hrun : run .personalized keys device store = .ok state final) : final.Vouched := by
  obtain ⟨keySet, _, hrecord, hready⟩ := run_delivers hnew hrun
  have hmemory := hready.holds
  refine ⟨by rwa [hmemory], fun slot hslot => ⟨keySet.keys[slot.toNat].toList, ?_, ?_⟩⟩
  · exact hstore keySet final.store hrecord slot hslot
  · rw [hmemory]
    intro later hlater challenge hlength
    obtain ⟨k, hk, hserves⟩ := hlater.serves
    obtain ⟨block, rfl⟩ := Bytes.exists_toList hlength
    have hkey : keySet.keys[slot.toNat] = k.memory.key ⟨slot.toNat, hslot⟩ := by
      rw [hk, Memory.delivered_key]
      rfl
    have hpolicy : (k.memory.slotConfig ⟨slot.toNat, hslot⟩).checkOnly = decide (slot % 2 = 0) := by
      rw [hk, Memory.delivered_slotConfig, checkOnly_deliveredPolicy hslot]
    rw [hkey]
    constructor
    · intro hodd
      refine hserves.signs hslot (hpolicy.trans (decide_eq_false ?_)) block
      rw [hodd]
      decide
    · intro heven
      exact hserves.checksOnly hslot (hpolicy.trans (decide_eq_true heven)) block

theorem gives_of_run (hnew : device.Ready .factory) (hstore : KeyStore.Keeps store)
    (hrun : run .personalized keys device store = .ok state final) : final.Gives := by
  obtain ⟨keySet, _, hrecord, _⟩ := run_delivers hnew hrun
  intro slot hslot
  obtain ⟨text, hfind, _⟩ := hstore keySet final.store hrecord slot hslot
  exact ⟨text, hfind⟩

/-- What a run records on a new chip is what verifies later, with every store that does not make keys up. A store in
memory gives the keys back as well, and so does one in a file, unless its path leads to the null device. -/
theorem recorded_keys_verify {device : Device σ} (hnew : device.Ready .factory) (keys : Option KeySet)
    (state : Lifecycle) :
    (∀ {κ : Type} [KeyStore κ] (store : κ) (final : Provisioning σ κ), KeyStore.Faithful store →
      run .personalized keys device store = .ok state final →
        final.Vouched ∧ (KeyStore.Keeps store → final.Gives)) ∧
    (∀ (store : MemoryStore) (final : Provisioning σ MemoryStore),
      run .personalized keys device store = .ok state final → final.Vouched ∧ final.Gives) ∧
    ∀ (store : FileStore) (final : Provisioning σ FileStore),
      run .personalized keys device store = .ok state final →
        final.Vouched ∧ (store.files.lookup store.path ≠ .ok .null → final.Gives) := by
  refine ⟨fun store final hstore hrun => ?_, fun store final hrun => ?_, fun store final hrun => ?_⟩
  · exact ⟨vouched_of_run hnew hstore hrun, fun hkeeps => gives_of_run hnew hkeeps hrun⟩
  · exact ⟨vouched_of_run hnew store.keeps.faithful hrun, gives_of_run hnew store.keeps hrun⟩
  · exact ⟨vouched_of_run hnew store.faithful hrun,
      fun hnull => gives_of_run hnew (FileStore.keeps hnull) hrun⟩

/-- A new chip, personalized with keys of its own making: slot 3 signs and slot 4 checks. -/
theorem recorded_keys_verify_drawn :
    ∃ final, run .personalized none Device.newChip ({} : MemoryStore) = .ok .personalized final ∧
      ∃ odd even : List UInt8,
        (∃ text, KeyStore.find? 3 final.store = .ok (some text) ∧ Hex.decode (Text.utf8Bytes text) = .ok odd) ∧
        (∃ text, KeyStore.find? 4 final.store = .ok (some text) ∧ Hex.decode (Text.utf8Bytes text) = .ok even) ∧
        final.device.Signs 3 odd (Bytes.zero 32).toList ∧ final.device.ChecksOnly 4 even (Bytes.zero 32).toList := by
  obtain ⟨final, _, hrun, _⟩ := run_succeeds_new none Device.ready_newChip (not_refuses_memoryStore _ {})
  obtain ⟨_, hmemory, _⟩ := recorded_keys_verify Device.ready_newChip none .personalized
  obtain ⟨⟨hready, hverifies⟩, hgives⟩ := hmemory {} final hrun
  obtain ⟨odd, hdecode, hodd⟩ := hverifies 3 (by decide)
  obtain ⟨even, hdecode', heven⟩ := hverifies 4 (by decide)
  obtain ⟨text, hfind⟩ := hgives 3 (by decide)
  obtain ⟨text', hfind'⟩ := hgives 4 (by decide)
  exact ⟨final, hrun, odd, even, ⟨text, hfind, hdecode text hfind⟩, ⟨text', hfind', hdecode' text' hfind'⟩,
    (hodd _ hready _ Vector.length_toList).1 (by decide), (heven _ hready _ Vector.length_toList).2 (by decide)⟩

end Provisioning

end SecureElement
