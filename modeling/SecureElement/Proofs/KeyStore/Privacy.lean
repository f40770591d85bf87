import SecureElement.Proofs.KeyStore.Interchange
/-!
# The mode of a key store

A key store in a file is made for its owner alone. A file that is there already takes the keys but keeps its mode, so
what others may do to it they may do to the keys.
-/

namespace SecureElement

/-- Neither the group nor others may read or write. -/
def IsPrivate (mode : Nat) : Prop :=
  mode &&& 0o066 = 0

instance (mode : Nat) : Decidable (IsPrivate mode) :=
  inferInstanceAs (Decidable (_ = _))

namespace FileStore

open KeyStore (Call after)

/-- The mode of the file, or the one that it is to be made with. -/
def mode (store : FileStore) : Nat :=
  (store.files.fileMode? store.path).getD 0o600

/-- What no call changes of a store. -/
structure Stays (path : String) (mode : Nat) (store : FileStore) : Prop where
  path_eq : store.path = path
  mode_eq : store.mode = mode
  notNull : store.files.lookup store.path ≠ .ok .null

structure Recorded (path : String) (mode : Nat) (store : FileStore) : Prop extends Stays path mode store where
  keys : ∃ keySet, store.files.lookup path = .ok (.file (Text.utf8Bytes (KeyStoreText.format keySet version)) mode)

variable {path : String} {mode : Nat} {store store' : FileStore} {keySet : KeySet}

theorem lookup_record (hnull : store.files.lookup store.path ≠ .ok .null)
    (hrecord : KeyStore.record keySet store = .ok () store') :
    store'.path = store.path ∧ store'.files.lookup store'.path =
      .ok (.file (Text.utf8Bytes (KeyStoreText.format keySet version)) store.mode) := by
  obtain ⟨files, hwrite, rfl⟩ := record_eq_ok hrecord
  exact ⟨rfl, (FileSystem.lookup_write hwrite hnull).1⟩

theorem Stays.record (h : store.Stays path mode) (hrecord : KeyStore.record keySet store = .ok () store') :
    store'.Recorded path mode := by
  obtain ⟨hpath, hlookup⟩ := lookup_record h.notNull hrecord
  have hmode : store'.mode = store.mode := by
    rw [FileStore.mode, FileSystem.fileMode?_of_lookup hlookup]
    rfl
  refine ⟨⟨hpath.trans h.path_eq, hmode.trans h.mode_eq, ?_⟩, keySet, ?_⟩
  · rw [hlookup]
    exact nofun
  · rw [← h.mode_eq, ← h.path_eq, ← hpath]
    exact hlookup

theorem perform_cases (call : Call) (store : FileStore) :
    finalState (call.perform store) = store ∨
      ∃ keySet, KeyStore.record keySet store = .ok () (finalState (call.perform store)) := by
  cases call with
  | find slot => exact .inl (KeyStore.finalState_consult _ store)
  | load => exact .inl (KeyStore.finalState_consult _ store)
  | record keySet =>
    change finalState (KeyStore.record keySet store) = store ∨
      ∃ keySet', KeyStore.record keySet' store = .ok () (finalState (KeyStore.record keySet store))
    rw [record_eq]
    split
    · next files hwrite =>
      right
      refine ⟨keySet, ?_⟩
      rw [record_eq, hwrite]
      rfl
    · exact .inl rfl

theorem after_induction {Good : FileStore → Prop} (calls : List Call) (h : Good store)
    (hrecord : ∀ keySet store store', Good store → KeyStore.record keySet store = .ok () store' → Good store') :
    Good (after calls store) := by
  apply KeyStore.after_induction calls h
  intro call store h
  rcases perform_cases call store with hsame | ⟨keySet, hsucceeds⟩
  · rwa [hsame]
  · exact hrecord keySet store _ h hsucceeds

theorem Stays.after (h : store.Stays path mode) (calls : List Call) : (after calls store).Stays path mode :=
  after_induction calls h fun _ _ _ h hrecord => (h.record hrecord).toStays

theorem Recorded.after (h : store.Recorded path mode) (calls : List Call) : (after calls store).Recorded path mode :=
  after_induction calls h fun _ _ _ h hrecord => h.toStays.record hrecord

/-- Once keys were recorded, the file holds recorded keys and has the mode that it had before all calls, or one for its
owner alone if it was not there. So the keys are private unless a file that was not private lay there before. -/
theorem recorded_keys_mode (calls later : List Call) {recorded : FileStore}
    (hnull : store.files.lookup store.path ≠ .ok .null)
    (hrecord : KeyStore.record keySet (after calls store) = .ok () recorded) :
    let final := after later recorded
    (∃ latest, final.files.lookup store.path =
      .ok (.file (Text.utf8Bytes (KeyStoreText.format latest version)) final.mode)) ∧
    final.mode = (store.files.fileMode? store.path).getD 0o600 ∧
    (IsPrivate final.mode ↔ ∀ found, store.files.fileMode? store.path = some found → IsPrivate found) := by
  have hstays : store.Stays store.path store.mode := ⟨rfl, rfl, hnull⟩
  have hfinal := ((hstays.after calls).record hrecord).after later
  refine ⟨hfinal.mode_eq ▸ hfinal.keys, hfinal.mode_eq, ?_⟩
  rw [hfinal.mode_eq, FileStore.mode]
  cases store.files.fileMode? store.path with
  | none => exact ⟨nofun, fun _ => by decide⟩
  | some found => exact ⟨fun h _ hfound => Option.some.inj hfound ▸ h, fun h => h found rfl⟩

/-- A store that was not there is made for its owner alone, and stays so however often keys are recorded. -/
theorem recorded_keys_mode_absent :
    let store : FileStore := { path := "keys" }
    let keySet : KeySet := ⟨Vector.replicate 16 (Bytes.zero 32)⟩
    ∃ recorded, KeyStore.record keySet (after [.find 0, .load] store) = .ok () recorded ∧
      (after [.record ⟨Vector.replicate 16 (Vector.replicate 32 1)⟩, .load] recorded).mode = 0o600 ∧
      IsPrivate (after [.record ⟨Vector.replicate 16 (Vector.replicate 32 1)⟩, .load] recorded).mode := by
  intro store keySet
  have habsent : store.Holds none :=
    { content := by decide +kernel
      opens := ⟨⟨[({ names := ["keys"] }, .file [] 0o600)]⟩, by decide +kernel⟩
      notNull := by decide +kernel }
  have hmode : store.files.fileMode? store.path = none := by
    decide +kernel
  have hlooked : store.Holds ({} : MemoryStore).text := habsent
  obtain ⟨_, hholds⟩ := KeyStore.answers_eq Holds.perform_alike [.find 0, .load] hlooked
  obtain ⟨recorded, hrecord, _⟩ := hholds.record keySet
  obtain ⟨_, hfinal, hprivate⟩ := recorded_keys_mode [.find 0, .load]
    [.record ⟨Vector.replicate 16 (Vector.replicate 32 1)⟩, .load] habsent.notNull hrecord
  rw [hmode] at hfinal hprivate
  exact ⟨recorded, hrecord, hfinal, hprivate.2 nofun⟩

/-- Keys that are recorded in a file which others may read may be read by others. -/
theorem recorded_keys_exposed :
    let store : FileStore :=
      { path := "keys", files := ⟨[({ names := ["keys"] }, .file (Text.utf8Bytes "# old\n") 0o644)]⟩ }
    let keySet : KeySet := ⟨Vector.replicate 16 (Bytes.zero 32)⟩
    ∃ recorded, KeyStore.record keySet store = .ok () recorded ∧
      recorded.files.lookup "keys" =
        .ok (.file (Text.utf8Bytes (KeyStoreText.format keySet version)) 0o644) ∧
      ¬ IsPrivate 0o644 := by
  intro store keySet
  have hold : store.Holds (some "# old\n") :=
    { content := by decide +kernel
      opens := ⟨⟨[({ names := ["keys"] }, .file [] 0o644)]⟩, by decide +kernel⟩
      notNull := by decide +kernel }
  have hmode : store.mode = 0o644 := by
    decide +kernel
  obtain ⟨recorded, hrecord, _⟩ := hold.record keySet
  obtain ⟨hpath, hlookup⟩ := lookup_record hold.notNull hrecord
  rw [hpath, hmode] at hlookup
  exact ⟨recorded, hrecord, hlookup, by decide⟩

end FileStore

end SecureElement
