import SecureElement.KeyStore.Stores
import SecureElement.Proofs.KeyStore.Grammar
/-!
# Reading key stores

What the grammar means for whoever reads a text: which texts are read, which line is reported, and that a key set
is never refused for the text of a key.
-/

namespace SecureElement

open KeyStoreText (IsKey upperText)

theorem bind_ne_error {ε α β : Type} {value : Except ε α} {next : α → Except ε β} {e : ε} (hvalue : value ≠ .error e)
    (hnext : ∀ a, value = .ok a → next a ≠ .error e) : value >>= next ≠ .error e := by
  cases value with
  | error error => exact fun hwrong => hvalue (congrArg _ (Except.error.inj hwrong))
  | ok a => exact hnext a rfl

namespace KeySet

theorem decode_upperText {key : List Char} (h : IsKey key) :
    ∃ raw : Block, Hex.decode (Text.utf8Bytes (upperText key)) = .ok raw.toList := by
  have hdigits : ∀ c ∈ key.map Char.toUpper, c ∈ Hex.digitChars := by
    simp only [List.forall_mem_map]
    exact fun c hc => Hex.toUpper_mem_digitChars c (h.digits c hc)
  have hlength : (key.map Char.toUpper).length = 64 := by
    rw [List.length_map, h.length]
  obtain ⟨raw, hraw, hsize⟩ := Hex.decode_digitChars hdigits (by omega)
  obtain ⟨block, rfl⟩ : ∃ block : Block, block.toList = raw :=
    ⟨⟨raw.toArray, by simp [hsize, hlength]⟩, rfl⟩
  exact ⟨block, hraw⟩

/-- What is found is the text of a key, and what goes wrong did so in a line or outside of the text. -/
structure Lookup (find? : UInt8 → Except KeyStoreError (Option String)) : Prop where
  found {slot : UInt8} {text : String} (h : find? slot = .ok (some text)) : ∃ key, IsKey key ∧ text = upperText key
  located (slot : UInt8) (fault : EntryFault) : find? slot ≠ .error (.parse 0 fault)

section

variable {find? : UInt8 → Except KeyStoreError (Option String)}

theorem Lookup.importKey_ne (h : Lookup find?) (slot : Nat) (fault : EntryFault) :
    importKey find? slot ≠ .error (.parse 0 fault) := by
  unfold importKey
  apply bind_ne_error (h.located _ fault)
  intro found hfind
  cases found with
  | none =>
    intro hwrong
    cases hwrong
  | some text =>
    obtain ⟨key, hkey, rfl⟩ := h.found hfind
    obtain ⟨raw, hraw⟩ := decode_upperText hkey
    simp only [hraw, Bytes.ofList?_toList]
    intro hwrong
    cases hwrong

theorem Lookup.importKeys_ne (h : Lookup find?) (count : Nat) (fault : EntryFault) :
    importKeys find? count ≠ .error (.parse 0 fault) := by
  induction count with
  | zero =>
    intro hwrong
    cases hwrong
  | succ count ih =>
    apply bind_ne_error ih
    intro keys _
    apply bind_ne_error (h.importKey_ne count fault)
    intro key _ hwrong
    cases hwrong

theorem Lookup.ofTexts_ne (h : Lookup find?) (fault : EntryFault) : ofTexts find? ≠ .error (.parse 0 fault) := by
  apply bind_ne_error (h.importKeys_ne 16 fault)
  intro keys _ hwrong
  cases hwrong

end

theorem lookup_parse (text : String) : Lookup fun slot => do return (← KeyStoreText.parse text).find? slot := by
  have hspec := KeyStoreText.parse_spec text
  cases hparse : KeyStoreText.parse text with
  | error error =>
    rw [hparse] at hspec
    obtain ⟨_, _, _, _, _, _, _, rfl⟩ := hspec
    constructor
    · intro slot found h
      cases h
    · intro slot fault h
      cases h
  | ok table =>
    rw [hparse] at hspec
    constructor
    · intro slot found h
      obtain ⟨_, _, key, hentry, rfl⟩ := (hspec.2 slot found).1 (Except.ok.inj h)
      obtain ⟨_, _, _, _, hkey⟩ := KeyStoreText.isEntry_iff.1 hentry
      exact ⟨key, hkey, rfl⟩
    · intro slot fault h
      cases h

theorem lookup_nothing {result : Except KeyStoreError (Option String)} (hfound : ∀ text, result ≠ .ok (some text))
    (hlocated : ∀ fault, result ≠ .error (.parse 0 fault)) : Lookup fun _ => result :=
  ⟨fun h => absurd h (hfound _), fun _ => hlocated⟩

theorem lookup_memoryStore (store : MemoryStore) : Lookup fun slot => KeyStore.find? slot store := by
  obtain ⟨_ | text⟩ := store
  · exact lookup_nothing (fun _ h => nomatch h) fun _ h => nomatch h
  · exact lookup_parse text

theorem lookup_fileStore (store : FileStore) : Lookup fun slot => KeyStore.find? slot store := by
  change Lookup fun slot => FileStore.find? slot store
  unfold FileStore.find?
  split
  · exact lookup_nothing (fun _ h => nomatch h) fun _ h => nomatch h
  · exact lookup_nothing (fun _ h => nomatch h) fun _ h => nomatch h
  · next text _ => exact lookup_parse text

end KeySet

namespace KeyStoreText

/-- A text is read exactly if it is well-formed, and then its table has what its lines record. Otherwise the first
line that spoils the lines before it is reported: one that cannot be read, or the later one of two that record the
same slot. So texts with the same lines, but for their order, the blanks at their ends and lines that are passed
over, are read alike; and no store makes a key set fail at the text of a key. -/
theorem parse_follows_grammar (text : String) :
    ((∃ table, parse text = .ok table) ↔ WellFormed (Text.lines text.toList)) ∧
    (∀ table, parse text = .ok table → Records (Text.lines text.toList) table) ∧
    (¬ WellFormed (Text.lines text.toList) → ∃ before line after fault,
      Text.lines text.toList = before ++ line :: after ∧ WellFormed before ∧ ¬ WellFormed (before ++ [line]) ∧
        Spoils before line fault ∧ parse text = .error (.parse (before.length + 1) fault)) ∧
    (∀ (other : String) (extra : List (List Char)), (∀ line ∈ extra, PassedOver line) →
      ((Text.lines other.toList).map Text.trim).Perm (extra ++ (Text.lines text.toList).map Text.trim) →
        ∀ table, parse other = .ok table ↔ parse text = .ok table) ∧
    ∀ fault, (∀ store : MemoryStore, KeySet.ofStore store ≠ .error (.parse 0 fault)) ∧
      ∀ store : FileStore, KeySet.ofStore store ≠ .error (.parse 0 fault) := by
  have hspec := parse_spec text
  refine ⟨⟨?_, ?_⟩, ?_, ?_, ?_, ?_⟩
  · rintro ⟨table, htable⟩
    exact (parse_eq_ok_iff.1 htable).1
  · intro hlines
    cases hparse : parse text with
    | ok table => exact ⟨table, rfl⟩
    | error error =>
      rw [hparse] at hspec
      obtain ⟨before, line, after, _, hcut, _, hbad, _⟩ := hspec
      rw [hcut, ← List.singleton_append, ← List.append_assoc] at hlines
      exact absurd hlines.of_append hbad.not_wellFormed
  · intro table htable
    exact (parse_eq_ok_iff.1 htable).2
  · intro hlines
    cases hparse : parse text with
    | ok table =>
      rw [hparse] at hspec
      exact absurd hspec.1 hlines
    | error error =>
      rw [hparse] at hspec
      obtain ⟨before, line, after, fault, hcut, hbefore, hbad, rfl⟩ := hspec
      exact ⟨before, line, after, fault, hcut, hbefore, hbad.not_wellFormed, hbad, rfl⟩
  · intro other extra hextra hperm table
    exact parse_eq_ok_iff_of_perm hextra hperm
  · intro fault
    exact ⟨fun store => (KeySet.lookup_memoryStore store).ofTexts_ne fault,
      fun store => (KeySet.lookup_fileStore store).ofTexts_ne fault⟩

/-- Slot 3 under two of its names, with a blank line in between. -/
def twice : String :=
  "key_slot_3 " ++ String.ofList (List.replicate 64 'a') ++ "\r\n\n  key_slot_+03\t" ++
    String.ofList (List.replicate 64 'B')

theorem parse_follows_grammar_twice :
    ¬ WellFormed (Text.lines twice.toList) ∧ parse twice = .error (.parse 3 (.recordedTwice 3)) := by
  have hparse : parse twice = .error (.parse 3 (.recordedTwice 3)) := by
    decide +kernel
  refine ⟨fun hlines => ?_, hparse⟩
  obtain ⟨table, htable⟩ := (parse_follows_grammar twice).1.2 hlines
  cases hparse.symm.trans htable

end KeyStoreText

end SecureElement
