import Mathlib.Data.Finset.Insert
import Mathlib.Data.Fintype.Defs
import SecureElement.Proofs.FileSystem
import SecureElement.Proofs.Toml.Document
import SecureElement.Proofs.Toml.Quote
import SecureElement.Session.Config
/-!
# Configurations survive saving

A configuration file may set any of five keys, in any order and in any way that the grammar has for their values. What
it sets holds, and the defaults hold for the rest. The text of a configuration sets every key that it has a value for.
-/

namespace SecureElement.SessionConfig

inductive Key where
  | bus
  | address
  | retryBudget
  | pacing
  | keyStore
  deriving DecidableEq

namespace Key

instance : Fintype Key where
  elems := {bus, address, retryBudget, pacing, keyStore}
  complete key := by cases key <;> decide

def name : Key → String
  | bus => "bus"
  | address => "address"
  | retryBudget => "retry_budget"
  | pacing => "pacing"
  | keyStore => "key_store"

theorem name_inj : ∀ {key key' : Key}, key.name = key'.name → key = key' := by
  decide

theorem isKey_name (key : Key) : Toml.IsKey key.name.toList key.name := by
  have hne : key.name.toList ≠ [] := by cases key <;> decide
  have hbare : ∀ c ∈ key.name.toList, c.isAlphanum ∨ c = '_' ∨ c = '-' := by
    cases key <;> simp [name]
  have hkey := Toml.IsKey.bare hne hbare
  rwa [String.ofList_toList] at hkey

end Key

/-- What a configuration has under a key. Only the key store may be missing. -/
def value? (config : SessionConfig) : Key → Option Toml.Value
  | .bus => some (.string config.bus)
  | .address => some (.integer config.address.toNat)
  | .retryBudget => some (.integer config.retryBudget.toNat)
  | .pacing => some (.string config.pacing.key)
  | .keyStore => config.keyStore.map .string

/-- The values of a configuration under the chosen keys, and the defaults elsewhere. -/
def only (config : SessionConfig) (chosen : Finset Key) : SessionConfig :=
  let defaults : SessionConfig := {}
  { bus := if .bus ∈ chosen then config.bus else defaults.bus
    address := if .address ∈ chosen then config.address else defaults.address
    retryBudget := if .retryBudget ∈ chosen then config.retryBudget else defaults.retryBudget
    pacing := if .pacing ∈ chosen then config.pacing else defaults.pacing
    keyStore := if .keyStore ∈ chosen then config.keyStore else defaults.keyStore }

/-- The chosen keys are set to what a configuration has under them, and nothing else is set. -/
def Sets (config : SessionConfig) (chosen : Finset Key) (entries : Toml.Entries) : Prop :=
  ∀ name value, (name, value) ∈ entries ↔ ∃ key ∈ chosen, key.name = name ∧ config.value? key = some value

variable {config : SessionConfig} {chosen : Finset Key} {entries : Toml.Entries} {name written : String}
  {value : Toml.Value}

theorem only_univ (config : SessionConfig) : config.only Finset.univ = config := by
  simp [only]

/-! ## Reading -/

theorem Sets.get? (h : config.Sets chosen entries) (hnodup : (entries.map (·.1)).Nodup) (key : Key) :
    entries.get? key.name = if key ∈ chosen then config.value? key else none := by
  cases hvalue : if key ∈ chosen then config.value? key else none with
  | some value =>
    obtain ⟨hkey, hvalue⟩ : key ∈ chosen ∧ config.value? key = some value := by simpa using hvalue
    exact Toml.get?_of_mem hnodup ((h _ _).2 ⟨key, hkey, rfl, hvalue⟩)
  | none =>
    refine Toml.get?_eq_none fun entry hentry hname => ?_
    obtain ⟨key', hkey', hname', hvalue'⟩ := (h entry.1 entry.2).1 hentry
    obtain rfl := Key.name_inj (hname'.trans hname)
    rw [if_pos hkey', hvalue'] at hvalue
    cases hvalue

theorem setting_eq {α : Type} {default a : α} {read? : Toml.Value → Option α} {p : Prop} [Decidable p]
    (hget : entries.get? name = if p then some value else none) (hread : read? value = some a) :
    setting entries name default read? = some (if p then a else default) := by
  unfold setting
  rw [hget]
  by_cases hp : p
  · rw [if_pos hp, if_pos hp]
    exact hread
  · rw [if_neg hp, if_neg hp]

theorem natBelow?_eq {bound n : Nat} (h : n < bound) : natBelow? bound (.integer n) = some n := by
  rw [natBelow?, if_pos (by omega)]
  rfl

theorem ofToml?_of_sets (h : config.Sets chosen entries) (hnodup : (entries.map (·.1)).Nodup) :
    ofToml? entries = some (config.only chosen) := by
  have hbus : setting entries "bus" _ text? = some (if .bus ∈ chosen then config.bus else "/dev/i2c-1") :=
    setting_eq (h.get? hnodup .bus) rfl
  have haddress : setting entries "address" _ (fun value => (natBelow? UInt16.size value).map UInt16.ofNat) =
      some (if .address ∈ chosen then config.address else 0x64) :=
    setting_eq (h.get? hnodup .address) (by
      rw [natBelow?_eq config.address.toNat_lt_size, Option.map_some, UInt16.ofNat_toNat])
  have hbudget : setting entries "retry_budget" _ (fun value => (natBelow? UInt32.size value).map UInt32.ofNat) =
      some (if .retryBudget ∈ chosen then config.retryBudget else 10) :=
    setting_eq (h.get? hnodup .retryBudget) (by
      rw [natBelow?_eq config.retryBudget.toNat_lt_size, Option.map_some, UInt32.ofNat_toNat])
  have hpacing : setting entries "pacing" _ Pacing.ofToml? =
      some (if .pacing ∈ chosen then config.pacing else .typical) :=
    setting_eq (h.get? hnodup .pacing) (Pacing.ofKey?_key _)
  have hkeyStore : setting entries "key_store" none (fun value => (text? value).map some) =
      some (if .keyStore ∈ chosen then config.keyStore else none) := by
    have hget := h.get? hnodup .keyStore
    cases hpath : config.keyStore with
    | none =>
      rw [value?, hpath, Option.map_none, ite_self] at hget
      rw [setting, show entries.get? "key_store" = none from hget, ite_self]
    | some path =>
      rw [value?, hpath, Option.map_some] at hget
      exact setting_eq hget rfl
  unfold ofToml?
  dsimp only
  rw [hbus, haddress, hbudget, hpacing, hkeyStore]
  rfl

/-! ## Writing -/

def settings (config : SessionConfig) : Toml.Entries :=
  [Key.bus, .address, .retryBudget, .pacing, .keyStore].filterMap fun key => (config.value? key).map (key.name, ·)

theorem settings_nodup (config : SessionConfig) : (config.settings.map (·.1)).Nodup := by
  have hnames : (config.settings.map (·.1)).Sublist ["bus", "address", "retry_budget", "pacing", "key_store"] := by
    unfold settings
    cases hpath : config.keyStore <;> simp [value?, hpath, Key.name]
  exact List.Nodup.sublist hnames (by decide)

theorem sets_settings (config : SessionConfig) : config.Sets Finset.univ config.settings := by
  intro name value
  have hall : ∀ key : Key, key ∈ [Key.bus, .address, .retryBudget, .pacing, .keyStore] := by
    decide
  unfold settings
  rw [List.mem_filterMap]
  refine exists_congr fun key => and_congr (iff_of_true (hall key) (Finset.mem_univ key)) ?_
  cases config.value? key <;> simp

theorem isLines_setting {rest : String} (key : Key) (hvalue : Toml.IsValue written.toList value)
    (hrest : Toml.IsLines rest.toList entries) :
    Toml.IsLines (s!"{key.name} = {written}\n" ++ rest).toList ((key.name, value) :: entries) := by
  have hspace : Toml.IsSpaces [' '] := by simp [Toml.IsSpaces]
  have hline : Toml.IsLine (key.name.toList ++ ' ' :: '=' :: ' ' :: written.toList) [(key.name, value)] := by
    simpa using Toml.IsLine.setting Toml.isSpaces_nil key.isKey_name hspace hspace hvalue Toml.isSpaces_nil .none
  have htext : (s!"{key.name} = {written}\n" ++ rest).toList =
      key.name.toList ++ ' ' :: '=' :: ' ' :: written.toList ++ ['\n'] ++ rest.toList := by
    show (key.name ++ " = " ++ written ++ "\n" ++ rest).toList = _
    simp
  rw [htext]
  exact .line hline .lineFeed hrest

theorem isDocument_toText (config : SessionConfig) : Toml.IsDocument config.toText.toList config.settings := by
  have hend : Toml.IsLines "".toList [] := .last (.blank Toml.isSpaces_nil .none)
  have hbus := Toml.isValue_quote config.bus
  have haddress := Toml.isValue_toString (Nat.lt_trans config.address.toNat_lt_size (by decide))
  have hbudget := Toml.isValue_toString (Nat.lt_trans config.retryBudget.toNat_lt_size (by decide))
  have hpacing := Toml.isValue_quote config.pacing.key
  have hlines : ∀ {rest : String} {entries : Toml.Entries}, Toml.IsLines rest.toList entries →
      Toml.IsLines (s!"bus = {Toml.quote config.bus}\n" ++ (s!"address = {toString config.address.toNat}\n" ++
        (s!"retry_budget = {toString config.retryBudget.toNat}\n" ++
          (s!"pacing = {Toml.quote config.pacing.key}\n" ++ rest)))).toList
        (("bus", .string config.bus) :: ("address", .integer config.address.toNat) ::
          ("retry_budget", .integer config.retryBudget.toNat) :: ("pacing", .string config.pacing.key) :: entries) :=
    fun hrest => isLines_setting .bus hbus (isLines_setting .address haddress
      (isLines_setting .retryBudget hbudget (isLines_setting .pacing hpacing hrest)))
  refine ⟨?_, config.settings_nodup⟩
  unfold toText settings
  dsimp only
  rw [String.append_assoc, String.append_assoc, String.append_assoc]
  cases hpath : config.keyStore with
  | none =>
    simp only [value?, hpath, List.filterMap_cons, Option.map_some, Option.map_none, List.filterMap_nil]
    exact hlines hend
  | some path =>
    simp only [value?, hpath, List.filterMap_cons, Option.map_some, List.filterMap_nil]
    have hkeyStore := isLines_setting .keyStore (Toml.isValue_quote path) hend
    rw [String.append_empty] at hkeyStore
    exact hlines hkeyStore

/-! ## Files -/

theorem load_of_document {files : FileSystem} {path text : String} (hread : files.readText path = .ok text)
    (h : Toml.IsDocument text.toList entries) (hsets : config.Sets chosen entries) :
    load files path = .ok (config.only chosen) := by
  have htext : ofText? text = some (config.only chosen) := by
    rw [ofText?, Toml.parse_document h]
    exact ofToml?_of_sets hsets h.nodup
  unfold load
  rw [hread]
  dsimp only
  rw [htext]

theorem save_eq_ok_iff {files saved : FileSystem} {path : String} :
    config.save files path = .ok saved ↔ files.write path 0o644 (Text.utf8Bytes config.toText) = .ok saved := by
  unfold save
  cases files.write path 0o644 (Text.utf8Bytes config.toText) <;> simp

/-- A configuration is saved wherever a file can be opened for writing, and is loaded again as it was, unless the path
leads to the null device, which keeps nothing. A document that sets any of the keys to values of a configuration, in
whatever way it is written, is loaded with these values and with the defaults for the keys that it leaves out. -/
theorem survives_saving (config : SessionConfig) (files : FileSystem) (path : String) :
    ((∃ saved, config.save files path = .ok saved) ↔ ∃ emptied, files.create path 0o644 = .ok emptied) ∧
      (∀ saved, config.save files path = .ok saved → files.lookup path ≠ .ok .null → load saved path = .ok config) ∧
      ∀ chosen text entries, Toml.IsDocument text.toList entries → config.Sets chosen entries →
        files.readText path = .ok text → load files path = .ok (config.only chosen) := by
  refine ⟨?_, fun saved hsave hnull => ?_, fun chosen text entries h hsets hread => load_of_document hread h hsets⟩
  · simp only [save_eq_ok_iff, FileSystem.write]
    cases files.create path 0o644 <;> simp [bind, Except.bind, pure, Except.pure]
  · have hread := FileSystem.readText_write (save_eq_ok_iff.1 hsave) hnull
    have hload := load_of_document hread config.isDocument_toText config.sets_settings
    rwa [only_univ] at hload

/-- A file that sets the address only, and a configuration with quotes and controls that is saved over it. -/
theorem survives_saving_controls :
    let config : SessionConfig :=
      { bus := "\"a\\b\"\n\x00", address := 0x42, pacing := .disabled, keyStore := some "'''\t\x7f\r\n" }
    let files : FileSystem := ⟨[({ names := ["conf.toml"] }, .file (Text.utf8Bytes "address=0x4_2 #low\r\n") 0o644)]⟩
    load files "conf.toml" = .ok { address := 0x42 } ∧
      ∃ saved, config.save files "conf.toml" = .ok saved ∧ load saved "conf.toml" = .ok config := by
  intro config files
  obtain ⟨hsaves, hsaved, hset⟩ := survives_saving config files "conf.toml"
  obtain ⟨saved, hsave⟩ := hsaves.2 ⟨⟨[({ names := ["conf.toml"] }, .file [] 0o644)]⟩, by decide +kernel⟩
  have hspace : Toml.IsSpaces [' '] := by simp [Toml.IsSpaces]
  have hvalue : Toml.IsValue ['0', 'x', '4', '_', '2'] (.integer 0x42) :=
    .integer (.radix .hexadecimal (.underscore (by decide) (.last (by decide)))) (by decide) (by decide)
  have hcomment : Toml.IsComment ['#', 'l', 'o', 'w'] := .hash (by simp [Toml.IsPlain])
  have hline := Toml.IsLine.setting Toml.isSpaces_nil Key.address.isKey_name Toml.isSpaces_nil Toml.isSpaces_nil hvalue
    hspace hcomment
  have hdocument : Toml.IsDocument "address=0x4_2 #low\r\n".toList [("address", .integer 0x42)] :=
    ⟨.line hline .carriageReturn (.last (.blank Toml.isSpaces_nil .none)), by simp⟩
  have hsets : config.Sets {.address} [("address", .integer 0x42)] := by
    intro name value
    simp [config, Key.name, value?, eq_comm]
  have honly : config.only {.address} = { address := 0x42 } := by decide +kernel
  have hload := hset {.address} _ _ hdocument hsets (by decide +kernel)
  rw [honly] at hload
  exact ⟨hload, saved, hsave, hsaved saved hsave (by decide +kernel)⟩

/-- The null device takes a configuration and gives back the defaults. -/
theorem lost_in_null_device :
    let config : SessionConfig := { keyStore := some "keys" }
    ∃ saved, config.save {} "/dev/null" = .ok saved ∧ load saved "/dev/null" = .ok {} ∧
      load saved "/dev/null" ≠ .ok config := by
  intro config
  exact ⟨{}, by decide +kernel, by decide +kernel, by decide +kernel⟩

end SecureElement.SessionConfig
