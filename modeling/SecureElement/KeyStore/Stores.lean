import SecureElement.KeyStore.Text
/-!
# Key stores in memory and in files
-/

namespace SecureElement

/-- A key store that keeps its text, once it has one. -/
structure MemoryStore where
  text : Option String := none
  deriving DecidableEq, Repr

namespace MemoryStore

def record (keySet : KeySet) : EStateM KeyStoreError MemoryStore Unit :=
  set { text := some (KeyStoreText.format keySet version) : MemoryStore }

def find? (slot : UInt8) (store : MemoryStore) : Except KeyStoreError (Option String) :=
  match store.text with
  | none => .ok none
  | some text => do return (← KeyStoreText.parse text).find? slot

instance : KeyStore MemoryStore where
  record := record
  find? := find?

end MemoryStore

/-- A key store in the file at `path`. A file that does not exist is an empty store. -/
structure FileStore where
  path : String
  files : FileSystem := {}
  deriving DecidableEq, Repr

namespace FileStore

def defaultPath (home : Option String) : Except KeyStoreError String :=
  match home with
  | none => .error .noHome
  | some home => if home = "" then .error .noHome else .ok (Path.join home ".hashlet")

/-- A new file is made for its owner alone. -/
def record (keySet : KeySet) : EStateM KeyStoreError FileStore Unit := do
  let store ← get
  let text := KeyStoreText.format keySet version
  match store.files.write store.path 0o600 (Text.utf8Bytes text) with
  | .ok files => set { store with files }
  | .error error => throw (.file store.path error)

def find? (slot : UInt8) (store : FileStore) : Except KeyStoreError (Option String) :=
  match store.files.readText store.path with
  | .error .notFound => .ok none
  | .error error => .error (.file store.path error)
  | .ok text => do return (← KeyStoreText.parse text).find? slot

instance : KeyStore FileStore where
  record := record
  find? := find?

end FileStore

end SecureElement
