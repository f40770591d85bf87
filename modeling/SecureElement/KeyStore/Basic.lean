import SecureElement.FileSystem
import SecureElement.Hex
import SecureElement.KeySet
/-!
# Key stores

A key store records the keys that were written into a device and gives back the text recorded for a slot.
-/

namespace SecureElement

def version : String := "0.1.0"

inductive EntryFault where
  | malformed
  | badSlotName (name : String)
  | badKey (slot : Nat)
  | recordedTwice (slot : Nat)
  | badHex (slot : Nat) (error : Hex.Error)
  | wrongSize (slot length : Nat)
  deriving DecidableEq, Repr

/-- Slots are named with two digits. -/
def slotName (slot : Nat) : String :=
  if slot < 10 then s!"key_slot_0{slot}" else s!"key_slot_{slot}"

def EntryFault.message : EntryFault → String
  | .malformed => "expected `key_slot_NN <hex>`"
  | .badSlotName name => s!"bad slot name `{name}`"
  | .badKey slot => s!"{slotName slot} must be 64 hex characters"
  | .recordedTwice slot => s!"{slotName slot} recorded twice"
  | .badHex slot error => s!"{slotName slot}: {error.message}"
  | .wrongSize slot length => s!"{slotName slot} is {length} bytes"

inductive KeyStoreError where
  | file (path : String) (error : IoError)
  /-- An entry cannot be used. A text that did not come from a line counts as line 0. -/
  | parse (line : Nat) (fault : EntryFault)
  | missingKey (slot : UInt8)
  | noHome
  deriving DecidableEq, Repr

namespace KeyStoreError

def message : KeyStoreError → String
  | file path error => s!"Key store I/O error on {path}: {error.message}"
  | parse line fault => s!"Key store line {line}: {fault.message}"
  | missingKey slot => s!"No key recorded for slot {slot}"
  | noHome => "HOME is not set; pass a key store path"

def chain : KeyStoreError → List String
  | file path error => [message (file path error), error.message]
  | error => [message error]

end KeyStoreError

class KeyStore (κ : Type) where
  /-- Records all keys in place of what was recorded before. -/
  record : KeySet → EStateM KeyStoreError κ Unit
  /-- The hexadecimal text recorded for a slot, if there is one. -/
  find? : UInt8 → κ → Except KeyStoreError (Option String)

namespace KeySet

def importKey (find? : UInt8 → Except KeyStoreError (Option String)) (slot : Nat) :
    Except KeyStoreError Block := do
  match ← find? (UInt8.ofNat slot) with
  | none => throw (.missingKey (UInt8.ofNat slot))
  | some text =>
    match Hex.decode (Text.utf8Bytes text) with
    | .error error => throw (.parse 0 (.badHex slot error))
    | .ok raw =>
      match Bytes.ofList? 32 raw with
      | none => throw (.parse 0 (.wrongSize slot raw.length))
      | some key => return key

def importKeys (find? : UInt8 → Except KeyStoreError (Option String)) :
    (count : Nat) → Except KeyStoreError (Vector Block count)
  | 0 => return #v[]
  | count + 1 => do
    let keys ← importKeys find? count
    let key ← importKey find? count
    return keys.push key

/-- The keys whose texts `find?` gives. All slots must have one; the first that fails is reported. -/
def ofTexts (find? : UInt8 → Except KeyStoreError (Option String)) : Except KeyStoreError KeySet := do
  return ⟨← importKeys find? 16⟩

def ofStore {κ : Type} [KeyStore κ] (store : κ) : Except KeyStoreError KeySet :=
  ofTexts fun slot => KeyStore.find? slot store

end KeySet

end SecureElement
