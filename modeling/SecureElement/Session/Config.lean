import SecureElement.KeyStore.Stores
import SecureElement.Toml.Document
/-!
# Session configuration

Which bus and device a session uses, how patient it is, and where its keys are recorded. A configuration file
is a TOML document whose keys are all optional; keys that it has beyond these are ignored.
-/

namespace SecureElement

structure SessionConfig where
  /-- The device node of the bus. -/
  bus : String := "/dev/i2c-1"
  address : UInt16 := 0x64
  retryBudget : UInt32 := 10
  pacing : Pacing := .typical
  /-- The key store file, if it is not the usual one. -/
  keyStore : Option String := none
  deriving DecidableEq, Repr

inductive ConfigError where
  | reading (path : String) (error : IoError)
  | parsing (path : String)
  | writing (error : IoError)
  deriving DecidableEq, Repr

/-- What is being done, followed by what went wrong. The fault of a document is not told in words. -/
def ConfigError.chain : ConfigError → List String
  | .reading path error => [s!"reading {path}", error.message]
  | .parsing path => [s!"parsing {path}", "<toml>"]
  | .writing error => [error.message]

namespace Pacing

def key : Pacing → String
  | typical => "typical"
  | maximum => "maximum"
  | disabled => "disabled"

def ofKey? (key : String) : Option Pacing :=
  [typical, maximum, disabled].find? (·.key == key)

@[simp] theorem ofKey?_key (pacing : Pacing) : ofKey? pacing.key = some pacing := by
  cases pacing <;> decide

/-- A pacing is given by its name, or by a table with nothing but an empty entry under its name. -/
def ofToml? : Toml.Value → Option Pacing
  | .string name => ofKey? name
  | .table _ [(name, .table _ [])] => ofKey? name
  | .table _ [(name, .array [])] => ofKey? name
  | _ => none

end Pacing

namespace SessionConfig

def setting {α : Type} (entries : Toml.Entries) (key : String) (default : α)
    (read? : Toml.Value → Option α) : Option α :=
  match entries.get? key with
  | none => some default
  | some value => read? value

def text? : Toml.Value → Option String
  | .string text => some text
  | _ => none

/-- An integer from zero up to and without `bound`. -/
def natBelow? (bound : Nat) : Toml.Value → Option Nat
  | .integer value => if 0 ≤ value ∧ value < bound then some value.toNat else none
  | _ => none

def ofToml? (entries : Toml.Entries) : Option SessionConfig := do
  let defaults : SessionConfig := {}
  let bus ← setting entries "bus" defaults.bus text?
  let address ← setting entries "address" defaults.address fun value =>
    (natBelow? UInt16.size value).map UInt16.ofNat
  let retryBudget ← setting entries "retry_budget" defaults.retryBudget fun value =>
    (natBelow? UInt32.size value).map UInt32.ofNat
  let pacing ← setting entries "pacing" defaults.pacing Pacing.ofToml?
  let keyStore ← setting entries "key_store" defaults.keyStore fun value => (text? value).map some
  return { bus, address, retryBudget, pacing, keyStore }

def ofText? (text : String) : Option SessionConfig := do
  ofToml? (← Toml.parse text)

def toText (config : SessionConfig) : String :=
  let line (key value : String) : String := s!"{key} = {value}\n"
  let keyStore := config.keyStore.elim "" fun path => line "key_store" (Toml.quote path)
  line "bus" (Toml.quote config.bus) ++ line "address" (toString config.address.toNat) ++
    line "retry_budget" (toString config.retryBudget.toNat) ++
    line "pacing" (Toml.quote config.pacing.key) ++ keyStore

def load (files : FileSystem) (path : String) : Except ConfigError SessionConfig :=
  match files.readText path with
  | .error error => .error (.reading path error)
  | .ok text =>
    match ofText? text with
    | some config => .ok config
    | none => .error (.parsing path)

def save (config : SessionConfig) (files : FileSystem) (path : String) :
    Except ConfigError FileSystem :=
  match files.write path 0o644 (Text.utf8Bytes config.toText) with
  | .ok files => .ok files
  | .error error => .error (.writing error)

def keyStorePath (config : SessionConfig) (home : Option String) : Except KeyStoreError String :=
  match config.keyStore with
  | some path => .ok path
  | none => FileStore.defaultPath home

end SessionConfig

end SecureElement
