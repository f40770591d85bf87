import SecureElement.KeyStore.Stores
import SecureElement.Proofs.Alike
import SecureElement.Proofs.KeyStore.Keeps
/-!
# Calls on key stores

A key store in a file and one in memory that start with the same text give the same answers to every sequence of
calls, and keep the same text. Once keys are recorded, nothing that was there before shows any more.
-/

namespace SecureElement

/-! ## Sequences of calls -/

namespace KeyStore

inductive Call where
  | record (keySet : KeySet)
  | find (slot : UInt8)
  | load

namespace Call

abbrev Value : Call → Type
  | record _ => Unit
  | find _ => Option String
  | load => KeySet

end Call

section

variable {κ α : Type}

def consult (look : κ → Except KeyStoreError α) : EStateM KeyStoreError κ α := fun store =>
  match look store with
  | .ok a => .ok a store
  | .error error => .error error store

theorem finalState_consult (look : κ → Except KeyStoreError α) (store : κ) :
    finalState (consult look store) = store := by
  unfold consult
  cases look store <;> rfl

theorem consult_alike {ι : Type} {R : κ → ι → Prop} {look : κ → Except KeyStoreError α}
    {look' : ι → Except KeyStoreError α}
    (h : ∀ store store', R store store' → look store = look' store') : Alike R (consult look) (consult look') := by
  intro store store' hrelated
  unfold consult
  rw [h store store' hrelated]
  cases look' store' with
  | ok a => exact .ok hrelated
  | error error => exact .error hrelated

variable [KeyStore κ]

def Call.perform : (call : Call) → EStateM KeyStoreError κ call.Value
  | record keySet => KeyStore.record keySet
  | find slot => consult (KeyStore.find? slot)
  | load => consult KeySet.ofStore

/-- What the calls give, one after the other. A call that fails does not keep the next one from being made. -/
def answers : List Call → κ → List (Σ call : Call, Except KeyStoreError call.Value)
  | [], _ => []
  | call :: calls, store =>
    ⟨call, conclusion (call.perform store)⟩ :: answers calls (finalState (call.perform store))

def after (calls : List Call) (store : κ) : κ :=
  calls.foldl (fun store call => finalState (call.perform store)) store

theorem after_induction {Good : κ → Prop} (calls : List Call) {store : κ} (h : Good store)
    (hstep : ∀ (call : Call) store, Good store → Good (finalState (call.perform store))) :
    Good (after calls store) := by
  induction calls generalizing store with
  | nil => exact h
  | cons call calls ih => exact ih (hstep call store h)

theorem after_append (calls calls' : List Call) (store : κ) :
    after (calls ++ calls') store = after calls' (after calls store) :=
  List.foldl_append

theorem finalState_perform_eq {call : Call} (h : ∀ keySet, call ≠ .record keySet) (store : κ) :
    finalState (call.perform store) = store := by
  cases call with
  | record keySet => exact absurd rfl (h keySet)
  | find slot => exact finalState_consult _ store
  | load => exact finalState_consult _ store

end

section

variable {κ ι : Type} [KeyStore κ] [KeyStore ι] {R : κ → ι → Prop}

/-- Stores that each call keeps alike give the same answers and stay alike. -/
theorem answers_eq (hcalls : ∀ call : Call, Alike R call.perform call.perform) (calls : List Call) {store : κ}
    {store' : ι} (h : R store store') :
    answers calls store = answers calls store' ∧ R (after calls store) (after calls store') := by
  -- on the calls that are left; each of them leaves stores that are alike
  induction calls generalizing store store' with
  | nil => exact ⟨rfl, h⟩
  | cons call calls ih =>
    obtain ⟨hconclusion, hfinal⟩ := agree_iff.1 (hcalls call store store' h)
    obtain ⟨hanswers, hafter⟩ := ih hfinal
    refine ⟨?_, hafter⟩
    calc answers (call :: calls) store
      _ = ⟨call, conclusion (call.perform store)⟩ :: answers calls (finalState (call.perform store)) := rfl
      _ = ⟨call, conclusion (call.perform store')⟩ :: answers calls (finalState (call.perform store')) := by
        rw [hconclusion, hanswers]

end

end KeyStore

/-! ## Files and memory -/

/-- The path of the store leads to a file with the text, or to a place for a file if there is no text, and files can
be written there. -/
structure FileStore.Holds (store : FileStore) (text : Option String) : Prop where
  content : store.files.read store.path = text.elim (.error .notFound) fun text => .ok (Text.utf8Bytes text)
  opens : ∃ files, store.files.create store.path 0o600 = .ok files
  notNull : store.files.lookup store.path ≠ .ok .null

namespace FileStore.Holds

variable {file : FileStore} {memory : MemoryStore}

theorem find?_eq (h : file.Holds memory.text) (slot : UInt8) :
    KeyStore.find? slot file = KeyStore.find? slot memory := by
  change FileStore.find? slot file = MemoryStore.find? slot memory
  have hcontent := h.content
  unfold FileStore.find? FileSystem.readText MemoryStore.find?
  cases htext : memory.text with
  | none =>
    rw [htext] at hcontent
    rw [hcontent]
    rfl
  | some text =>
    rw [htext] at hcontent
    rw [hcontent]
    dsimp only [Option.elim, bind, Except.bind]
    rw [Text.ofUtf8?_utf8Bytes]
    rfl

theorem ofStore_eq (h : file.Holds memory.text) : KeySet.ofStore file = KeySet.ofStore memory := by
  unfold KeySet.ofStore
  congr 1
  funext slot
  exact h.find?_eq slot

/-- Whatever lay at the path, a record succeeds and leaves the new text alone. -/
theorem record {text : Option String} (h : file.Holds text) (keySet : KeySet) :
    ∃ file', KeyStore.record keySet file = .ok () file' ∧
      file'.Holds (some (KeyStoreText.format keySet version)) := by
  obtain ⟨emptied, hcreate⟩ := h.opens
  obtain ⟨files, hwrite⟩ : ∃ files, file.files.write file.path 0o600
      (Text.utf8Bytes (KeyStoreText.format keySet version)) = .ok files := by
    unfold FileSystem.write
    rw [hcreate]
    exact ⟨_, rfl⟩
  have hrecord : KeyStore.record keySet file = .ok () { file with files } := by
    rw [FileStore.record_eq, hwrite]
  obtain ⟨hlookup, place, hwritable⟩ := FileSystem.lookup_write hwrite h.notNull
  refine ⟨_, hrecord, FileSystem.read_write hwrite h.notNull, hwritable.create _, ?_⟩
  rw [hlookup]
  exact nofun

theorem perform_alike (call : KeyStore.Call) :
    Alike (fun (file : FileStore) (memory : MemoryStore) => file.Holds memory.text) call.perform call.perform := by
  cases call with
  | record keySet =>
    intro file memory h
    obtain ⟨file', hrecord, hholds⟩ := h.record keySet
    change Agree _ (KeyStore.record keySet file) (MemoryStore.record keySet memory)
    rw [hrecord]
    exact .ok hholds
  | find slot => exact KeyStore.consult_alike fun _ _ h => h.find?_eq slot
  | load => exact KeyStore.consult_alike fun _ _ h => h.ofStore_eq

end FileStore.Holds

namespace KeyStore

/-- A store in a file and a store in memory that hold the same text answer every sequence of calls alike and hold the
same text after it. Only a record changes the text, and what is answered after it depends on its keys alone. -/
theorem stores_interchangeable {file : FileStore} {memory : MemoryStore} (h : file.Holds memory.text)
    (calls : List Call) :
    answers calls file = answers calls memory ∧
    (after calls file).Holds (after calls memory).text ∧
    (∀ call : Call, (∀ keySet, call ≠ .record keySet) → after (calls ++ [call]) file = after calls file) ∧
    ∀ keySet later, answers later (after (calls ++ [.record keySet]) file) =
      answers later ({ text := some (KeyStoreText.format keySet version) } : MemoryStore) := by
  obtain ⟨hanswers, hholds⟩ := answers_eq FileStore.Holds.perform_alike calls h
  refine ⟨hanswers, hholds, ?_, ?_⟩
  · intro call hcall
    rw [after_append]
    exact finalState_perform_eq hcall _
  · intro keySet later
    obtain ⟨recorded, hrecord, hrecorded⟩ := hholds.record keySet
    have hafter : after (calls ++ [.record keySet]) file = recorded := by
      rw [after_append]
      exact congrArg finalState hrecord
    rw [hafter]
    exact (answers_eq FileStore.Holds.perform_alike later hrecorded).1

/-- A file that cannot be read as a key store gives the error that its text gives in memory, until keys are recorded. -/
theorem stores_interchangeable_malformed :
    let file : FileStore :=
      { path := "keys", files := ⟨[({ names := ["keys"] }, .file (Text.utf8Bytes "key_slot_03\n") 0o644)]⟩ }
    let memory : MemoryStore := { text := some "key_slot_03\n" }
    let calls : List Call := [.find 3, .record ⟨Vector.replicate 16 (Bytes.zero 32)⟩, .find 3, .load]
    file.Holds memory.text ∧ KeyStore.find? 3 memory = .error (.parse 1 .malformed) ∧
      answers calls file = answers calls memory ∧ (after calls file).Holds (after calls memory).text := by
  intro file memory calls
  have hholds : file.Holds memory.text :=
    { content := by decide +kernel
      opens := ⟨⟨[({ names := ["keys"] }, .file [] 0o644)]⟩, by decide +kernel⟩
      notNull := by decide +kernel }
  obtain ⟨hanswers, hafter, _⟩ := stores_interchangeable hholds calls
  exact ⟨hholds, by decide +kernel, hanswers, hafter⟩

end KeyStore

end SecureElement
