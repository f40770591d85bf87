import SecureElement.KeyStore.Stores
import SecureElement.Proofs.FileSystem
import SecureElement.Proofs.KeyStore.Text
import SecureElement.Proofs.Runs
/-!
# Stores that keep what they record

What a host relies on when it locks keys away: the text that the store gives for a slot is that of the key which
was recorded for it.
-/

namespace SecureElement

/-- Once the store has recorded a key set, it gives a hexadecimal text of the key of every slot. -/
def KeyStore.Keeps {κ : Type} [KeyStore κ] (store : κ) : Prop :=
  ∀ keySet store', KeyStore.record keySet store = .ok () store' → ∀ (slot : UInt8) (hslot : slot.toNat < 16),
    ∃ text, KeyStore.find? slot store' = .ok (some text) ∧
      Hex.decode (Text.utf8Bytes text) = .ok keySet.keys[slot.toNat].toList

/-- Once the store has recorded a key set, whatever it gives for a slot is a hexadecimal text of its key. -/
def KeyStore.Faithful {κ : Type} [KeyStore κ] (store : κ) : Prop :=
  ∀ keySet store', KeyStore.record keySet store = .ok () store' → ∀ (slot : UInt8) (hslot : slot.toNat < 16) text,
    KeyStore.find? slot store' = .ok (some text) →
      Hex.decode (Text.utf8Bytes text) = .ok keySet.keys[slot.toNat].toList

theorem KeyStore.Keeps.faithful {κ : Type} [KeyStore κ] {store : κ} (h : Keeps store) : Faithful store := by
  intro keySet store' hrecord slot hslot text hfind
  obtain ⟨kept, hkept, hdecode⟩ := h keySet store' hrecord slot hslot
  obtain rfl : kept = text := Option.some.inj (Except.ok.inj (hkept.symm.trans hfind))
  exact hdecode

theorem MemoryStore.keeps (store : MemoryStore) : KeyStore.Keeps store := by
  intro keySet store' hrecord slot hslot
  obtain rfl : ⟨some (KeyStoreText.format keySet version)⟩ = store' := by
    injection hrecord
  exact ⟨_, KeyStoreText.find?_parse_format keySet slot hslot, Hex.decode_encodeUpper _⟩

namespace FileStore

variable {store store' : FileStore}

theorem record_eq (keySet : KeySet) (store : FileStore) :
    KeyStore.record keySet store =
      match store.files.write store.path 0o600 (Text.utf8Bytes (KeyStoreText.format keySet version)) with
      | .ok files => .ok () { store with files }
      | .error error => .error (.file store.path error) store := by
  change record keySet store = _
  rw [record, bind_apply, get_apply]
  dsimp only
  cases store.files.write store.path 0o600 (Text.utf8Bytes (KeyStoreText.format keySet version)) <;> rfl

theorem record_eq_ok {keySet : KeySet} (h : KeyStore.record keySet store = .ok () store') :
    ∃ files, store.files.write store.path 0o600 (Text.utf8Bytes (KeyStoreText.format keySet version)) = .ok files ∧
      store' = { store with files } := by
  rw [record_eq] at h
  cases hwrite : store.files.write store.path 0o600 (Text.utf8Bytes (KeyStoreText.format keySet version)) with
  | error error =>
    rw [hwrite] at h
    cases h
  | ok files =>
    rw [hwrite] at h
    injection h with _ hstore
    exact ⟨files, rfl, hstore.symm⟩

/-- A file keeps the keys wherever it lies, but for the null device. -/
theorem keeps (hnull : store.files.lookup store.path ≠ .ok .null) : KeyStore.Keeps store := by
  intro keySet store' hrecord slot hslot
  obtain ⟨files, hwrite, rfl⟩ := record_eq_ok hrecord
  refine ⟨_, ?_, Hex.decode_encodeUpper _⟩
  change find? slot { store with files } = _
  unfold find?
  dsimp only
  rw [FileSystem.readText_write hwrite hnull]
  exact KeyStoreText.find?_parse_format keySet slot hslot

/-- The null device keeps nothing, and gives nothing either. -/
theorem faithful (store : FileStore) : KeyStore.Faithful store := by
  by_cases hnull : store.files.lookup store.path = .ok .null
  · intro keySet store' hrecord slot hslot text hfind
    obtain ⟨files, hwrite, rfl⟩ := record_eq_ok hrecord
    obtain rfl := FileSystem.write_null hwrite hnull
    have hnone : KeyStore.find? slot store = .ok (KeyStoreText.Table.empty.find? slot) := by
      change find? slot store = _
      unfold find?
      rw [FileSystem.readText_null hnull]
      rfl
    have hempty : KeyStoreText.Table.empty.find? slot = none := by
      simp [KeyStoreText.Table.find?, KeyStoreText.Table.empty, hslot]
    rw [hempty] at hnone
    cases hnone.symm.trans hfind
  · exact (keeps hnull).faithful

end FileStore

end SecureElement
