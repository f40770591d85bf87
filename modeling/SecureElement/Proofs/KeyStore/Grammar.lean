import SecureElement.KeyStore.Text
import SecureElement.Proofs.Hex
import SecureElement.Proofs.Numeral
import SecureElement.Proofs.Text
/-!
# The grammar of key store texts

A text is read if each of its lines is passed over or records the key of a slot, and no slot is recorded twice. The
first line at which this fails is the one that is reported.
-/

namespace SecureElement

namespace KeyStoreText

open Text (Blanks IsWord)

/-! ## Lines -/

inductive PassedOver : List Char → Prop where
  | blank {line : List Char} (h : Blanks line) : PassedOver line
  | comment {before : List Char} (h : Blanks before) (rest : List Char) : PassedOver (before ++ '#' :: rest)

structure IsKey (key : List Char) : Prop where
  length : key.length = 64
  digits : ∀ c ∈ key, c ∈ Hex.digitChars

/-- A line that records a key for a slot: the name of the slot and the key, with blanks between them. -/
inductive IsEntry : List Char → UInt8 → List Char → Prop where
  | intro {before numeral gap key after : List Char} {slot : UInt8} (hbefore : Blanks before)
      (hnumeral : Numeral.Denotes numeral slot.toNat) (hslot : slot.toNat < 16) (hgap : Blanks gap)
      (hne : gap ≠ []) (hkey : IsKey key) (hafter : Blanks after) :
      IsEntry (before ++ (slotPrefix.toList ++ numeral) ++ gap ++ key ++ after) slot key

def upperText (key : List Char) : String :=
  String.ofList (key.map Char.toUpper)

/-- Every line is passed over or an entry, and no slot has entries on two lines. -/
structure WellFormed (lines : List (List Char)) : Prop where
  shape : ∀ line ∈ lines, PassedOver line ∨ ∃ slot key, IsEntry line slot key
  distinct : lines.Pairwise fun line line' =>
    ∀ slot key key', IsEntry line slot key → ¬ IsEntry line' slot key'

/-- The table has the keys of the slots that have an entry, and nothing else. -/
def Records (lines : List (List Char)) (table : Table) : Prop :=
  ∀ (slot : UInt8) (text : String),
    table.find? slot = some text ↔ ∃ line ∈ lines, ∃ key, IsEntry line slot key ∧ text = upperText key

/-- What is wrong with a line after the lines before it: it cannot be read, or its slot has been recorded. -/
inductive Spoils (before : List (List Char)) (line : List Char) : EntryFault → Prop where
  | unreadable {fault : EntryFault} (hpassed : ¬ PassedOver line) (hentry : ¬ ∃ slot key, IsEntry line slot key)
      (hfault : ∀ slot, fault ≠ .recordedTwice slot) : Spoils before line fault
  | repeated {earlier key key' : List Char} {slot : UInt8} (hearlier : earlier ∈ before)
      (hentry : IsEntry line slot key) (hentry' : IsEntry earlier slot key') :
      Spoils before line (.recordedTwice slot.toNat)

/-! ## Slot names and keys -/

theorem isHexDigit_iff (c : Char) : isHexDigit c = true ↔ c ∈ Hex.digitChars := by
  rw [← Hex.isDigit_sixteen_iff, isHexDigit, Numeral.digitValue?_eq (by decide)]
  split_ifs with h <;> simp [h]

theorem isKey_iff (key : List Char) : IsKey key ↔ key.length = 64 ∧ key.all isHexDigit = true := by
  rw [List.all_eq_true]
  constructor
  · intro h
    exact ⟨h.length, fun c hc => (isHexDigit_iff c).2 (h.digits c hc)⟩
  · rintro ⟨hlength, hdigits⟩
    exact ⟨hlength, fun c hc => (isHexDigit_iff c).1 (hdigits c hc)⟩

theorem toNat_ofNat_of_le {value : Nat} (h : value ≤ 255) : (UInt8.ofNat value).toNat = value :=
  UInt8.toNat_ofNat_of_lt' (Nat.lt_succ_of_le h)

theorem slotOfName?_append (numeral : List Char) : slotOfName? (slotPrefix.toList ++ numeral) =
    match Numeral.parse 10 255 numeral with
    | .ok value => if h : (UInt8.ofNat value).toNat < 16 then some ⟨(UInt8.ofNat value).toNat, h⟩ else none
    | .error _ => none := by
  have hstarts : slotPrefix.toList.isPrefixOf (slotPrefix.toList ++ numeral) = true :=
    List.isPrefixOf_iff_prefix.2 (List.prefix_append _ _)
  have hdrop : (slotPrefix.toList ++ numeral).drop slotPrefix.length = numeral :=
    List.drop_left' rfl
  unfold slotOfName? Numeral.parseByte
  rw [hstarts, hdrop, String.toList_ofList]
  cases Numeral.parse 10 255 numeral <;> rfl

theorem slotOfName?_eq_some_iff {name : List Char} {slot : Fin 16} : slotOfName? name = some slot ↔
    ∃ numeral, name = slotPrefix.toList ++ numeral ∧ Numeral.Denotes numeral slot.val := by
  constructor
  · intro h
    by_cases hstarts : slotPrefix.toList.isPrefixOf name = true
    · obtain ⟨numeral, rfl⟩ := List.isPrefixOf_iff_prefix.1 hstarts
      refine ⟨numeral, rfl, ?_⟩
      rw [slotOfName?_append] at h
      cases hparse : Numeral.parse 10 255 numeral with
      | error error =>
        rw [hparse] at h
        cases h
      | ok value =>
        rw [hparse] at h
        obtain ⟨hdenotes, hlimit⟩ := Numeral.parse_eq_ok_iff.1 hparse
        have hvalue : (UInt8.ofNat value).toNat = value :=
          toNat_ofNat_of_le (by omega)
        dsimp only at h
        split at h
        · obtain rfl := Option.some.inj h
          change Numeral.Denotes numeral (UInt8.ofNat value).toNat
          rwa [hvalue]
        · cases h
    · unfold slotOfName? at h
      rw [Bool.not_eq_true] at hstarts
      rw [hstarts] at h
      cases h
  · rintro ⟨numeral, rfl, hdenotes⟩
    have hparse : Numeral.parse 10 255 numeral = .ok slot.val := Numeral.parse_eq_ok_iff.2 ⟨hdenotes, by omega⟩
    have hvalue : (UInt8.ofNat slot.val).toNat = slot.val :=
      toNat_ofNat_of_le (by omega)
    rw [slotOfName?_append, hparse]
    dsimp only
    rw [dif_pos (by omega)]
    simp only [hvalue]

theorem not_blank_of_isDigit {c : Char} (h : c.isDigit = true) : Text.isBlank c = false := by
  have hrange : 48 ≤ c.toNat ∧ c.toNat ≤ 57 := by
    simpa [Char.isDigit, UInt32.le_iff_toNat_le] using h
  simp only [Text.isBlank, Bool.or_eq_false_iff, Bool.and_eq_false_iff, decide_eq_false_iff_not, beq_eq_false_iff_ne]
  omega

theorem not_blank_of_denotes {numeral : List Char} {value : Nat} (h : Numeral.Denotes numeral value) :
    ∀ c ∈ numeral, Text.isBlank c = false := by
  intro c hc
  rcases h with h | h
  · exact not_blank_of_isDigit (h.digits c hc)
  · rcases List.mem_cons.1 hc with rfl | hc
    · decide
    · exact not_blank_of_isDigit (h.digits c hc)

theorem isWord_slotName {numeral : List Char} {value : Nat} (h : Numeral.Denotes numeral value) :
    IsWord (slotPrefix.toList ++ numeral) := by
  have hstarts : ∀ c ∈ slotPrefix.toList, Text.isBlank c = false := by
    have hall : slotPrefix.toList.all (fun c => !Text.isBlank c) = true := by
      decide +kernel
    intro c hc
    simpa using List.all_eq_true.1 hall c hc
  exact IsWord.append ⟨by decide +kernel, hstarts⟩ (not_blank_of_denotes h)

theorem IsKey.isWord {key : List Char} (h : IsKey key) : IsWord key where
  ne_nil := by
    rintro rfl
    exact absurd h.length (by decide)
  solid c hc := Hex.forall_digitChars (p := fun c => Text.isBlank c = false) (by decide) c (h.digits c hc)

/-! ## Entries -/

theorem isEntry_iff {line key : List Char} {slot : UInt8} : IsEntry line slot key ↔
    ∃ (name : List Char) (hslot : slot.toNat < 16),
      Text.fields line = [name, key] ∧ slotOfName? name = some ⟨slot.toNat, hslot⟩ ∧ IsKey key := by
  constructor
  · rintro ⟨hbefore, hnumeral, hslot, hgap, hne, hkey, hafter⟩
    refine ⟨_, hslot, Text.fields_eq_pair_iff.2 ⟨_, _, _, rfl, hbefore, hgap, hne, hafter,
      isWord_slotName hnumeral, hkey.isWord⟩, ?_, hkey⟩
    exact slotOfName?_eq_some_iff.2 ⟨_, rfl, hnumeral⟩
  · rintro ⟨name, hslot, hfields, hname, hkey⟩
    obtain ⟨before, gap, after, rfl, hbefore, hgap, hne, hafter, _, _⟩ := Text.fields_eq_pair_iff.1 hfields
    obtain ⟨numeral, rfl, hnumeral⟩ := slotOfName?_eq_some_iff.1 hname
    exact .intro hbefore hnumeral hslot hgap hne hkey hafter

theorem parseEntry_eq_ok_iff {line : List Char} {slot : Fin 16} {text : String} :
    parseEntry line = .ok (slot, text) ↔ ∃ name key,
      Text.fields line = [name, key] ∧ slotOfName? name = some slot ∧ IsKey key ∧ text = upperText key := by
  constructor
  · intro h
    unfold parseEntry at h
    split at h
    · next name key hfields =>
      refine ⟨name, key, hfields, ?_⟩
      cases hname : slotOfName? name with
      | none =>
        rw [hname] at h
        cases h
      | some named =>
        rw [hname] at h
        dsimp only at h
        split at h
        · next hkey =>
          obtain ⟨rfl, rfl⟩ := Prod.mk.inj (Except.ok.inj h)
          exact ⟨rfl, (isKey_iff key).2 hkey, rfl⟩
        · cases h
    · cases h
  · rintro ⟨name, key, hfields, hname, hkey, rfl⟩
    unfold parseEntry
    rw [hfields]
    dsimp only
    rw [hname]
    dsimp only
    rw [if_pos ((isKey_iff key).1 hkey)]
    rfl

theorem parseEntry_ne_recordedTwice {line : List Char} {fault : EntryFault} (h : parseEntry line = .error fault)
    (slot : Nat) : fault ≠ .recordedTwice slot := by
  rintro rfl
  unfold parseEntry at h
  split at h
  · split at h
    · cases h
    · split at h
      · cases h
      · cases h
  · cases h

theorem IsEntry.parseEntry_trim {line key : List Char} {slot : UInt8} (h : IsEntry line slot key) :
    ∃ hslot : slot.toNat < 16, parseEntry (Text.trim line) = .ok (⟨slot.toNat, hslot⟩, upperText key) := by
  obtain ⟨name, hslot, hfields, hname, hkey⟩ := isEntry_iff.1 h
  refine ⟨hslot, parseEntry_eq_ok_iff.2 ⟨name, key, ?_, hname, hkey, rfl⟩⟩
  rw [Text.fields_trim, hfields]

theorem exists_isEntry {line : List Char} {slot : Fin 16} {text : String}
    (h : parseEntry (Text.trim line) = .ok (slot, text)) :
    ∃ key, IsEntry line (UInt8.ofNat slot.val) key ∧ text = upperText key := by
  obtain ⟨name, key, hfields, hname, hkey, rfl⟩ := parseEntry_eq_ok_iff.1 h
  have hslot : (UInt8.ofNat slot.val).toNat = slot.val :=
    toNat_ofNat_of_le (by omega)
  refine ⟨key, isEntry_iff.2 ⟨name, by omega, ?_, ?_, hkey⟩, rfl⟩
  · rw [← Text.fields_trim, hfields]
  · rw [hname]
    simp only [hslot]

theorem IsEntry.unique {line key key' : List Char} {slot slot' : UInt8} (h : IsEntry line slot key)
    (h' : IsEntry line slot' key') : slot = slot' ∧ upperText key = upperText key' := by
  obtain ⟨_, hparse⟩ := h.parseEntry_trim
  obtain ⟨_, hparse'⟩ := h'.parseEntry_trim
  obtain ⟨hslot, htext⟩ := Prod.mk.inj (Except.ok.inj (hparse.symm.trans hparse'))
  exact ⟨UInt8.toNat_inj.1 (Fin.mk.inj hslot), htext⟩

/-! ## Lines that are passed over -/

theorem passedOver_iff (line : List Char) :
    PassedOver line ↔ Text.trim line = [] ∨ (Text.trim line).head? = some '#' := by
  constructor
  · rintro (h | ⟨h, rest⟩)
    · rw [← List.append_nil line, Text.trim_blanks_append h]
      exact .inl rfl
    · obtain ⟨inner, hinner⟩ := Text.trim_cons (c := '#') (by decide) rest
      rw [Text.trim_blanks_append h, hinner]
      exact .inr rfl
  · obtain ⟨before, after, hline, hbefore, hafter⟩ := Text.exists_trim line
    rintro (h | h)
    · rw [h, List.append_nil] at hline
      rw [hline]
      exact .blank (hbefore.append hafter)
    · obtain ⟨inner, hinner⟩ := List.head?_eq_some_iff.1 h
      rw [hinner, List.append_assoc, List.cons_append] at hline
      rw [hline]
      exact .comment hbefore _

theorem passedOver_trim_iff {line : List Char} : PassedOver (Text.trim line) ↔ PassedOver line := by
  constructor
  · obtain ⟨before, after, hline, hbefore, hafter⟩ := Text.exists_trim line
    intro h
    rw [hline]
    generalize Text.trim line = inner at h
    rcases h with h | ⟨h, rest⟩
    · exact .blank ((hbefore.append h).append hafter)
    · rw [← List.append_assoc, List.append_assoc, List.cons_append]
      exact .comment (hbefore.append h) _
  · intro h
    rcases (passedOver_iff line).1 h with hnil | hhead
    · rw [hnil]
      exact .blank Text.blanks_nil
    · obtain ⟨rest, hrest⟩ := List.head?_eq_some_iff.1 hhead
      rw [hrest]
      exact .comment Text.blanks_nil rest

theorem isEntry_trim_iff {line key : List Char} {slot : UInt8} :
    IsEntry (Text.trim line) slot key ↔ IsEntry line slot key := by
  rw [isEntry_iff, isEntry_iff, Text.fields_trim]

theorem IsEntry.not_passedOver {line key : List Char} {slot : UInt8} (h : IsEntry line slot key) :
    ¬ PassedOver line := by
  obtain ⟨hbefore, _⟩ := h
  have hname : slotPrefix.toList = 'k' :: slotPrefix.toList.tail := rfl
  rw [passedOver_iff, hname, List.append_assoc, List.append_assoc, List.append_assoc,
    Text.trim_blanks_append hbefore, List.cons_append, List.cons_append]
  obtain ⟨inner, hinner⟩ := Text.trim_cons (c := 'k') (by decide) _
  rw [hinner]
  simp

/-! ## Reading lines -/

theorem addLine_passedOver {line : List Char} (table : Table) (h : PassedOver line) :
    addLine table line = .ok table := by
  unfold addLine
  rw [if_pos ((passedOver_iff line).1 h)]

theorem addLine_isEntry {line key : List Char} {slot : UInt8} (table : Table) (h : IsEntry line slot key) :
    ∃ hslot : slot.toNat < 16, addLine table line = match table.get ⟨slot.toNat, hslot⟩ with
      | none => .ok (table.setIfInBounds slot.toNat (some (upperText key)))
      | some _ => .error (.recordedTwice slot.toNat) := by
  obtain ⟨hslot, hparse⟩ := h.parseEntry_trim
  refine ⟨hslot, ?_⟩
  unfold addLine
  rw [if_neg (mt (passedOver_iff line).2 h.not_passedOver), hparse]
  dsimp only [bind, Except.bind]
  cases table.get ⟨slot.toNat, hslot⟩ <;> rfl

theorem addLine_other {line : List Char} (table : Table) (h : ¬ PassedOver line)
    (hentry : ¬ ∃ slot key, IsEntry line slot key) :
    ∃ fault, addLine table line = .error fault ∧ ∀ slot, fault ≠ .recordedTwice slot := by
  unfold addLine
  rw [if_neg (mt (passedOver_iff line).2 h)]
  cases hparse : parseEntry (Text.trim line) with
  | error fault => exact ⟨fault, rfl, parseEntry_ne_recordedTwice hparse⟩
  | ok entry =>
    obtain ⟨key, hkey, _⟩ := exists_isEntry hparse
    exact absurd ⟨_, key, hkey⟩ hentry

theorem find?_eq_get (table : Table) {slot : UInt8} (hslot : slot.toNat < 16) :
    table.find? slot = table.get ⟨slot.toNat, hslot⟩ := by
  rw [Table.find?, Vector.getElem?_eq_getElem hslot, Vector.get_eq_getElem]
  rfl

theorem find?_set (table : Table) {slot : UInt8} (hslot : slot.toNat < 16) (text : String) (other : UInt8) :
    Table.find? (table.setIfInBounds slot.toNat (some text)) other =
      if other = slot then some text else table.find? other := by
  unfold Table.find?
  by_cases h : other = slot
  · subst h
    simp [hslot]
  · have hne : slot.toNat ≠ other.toNat := fun heq => h (UInt8.toNat_inj.1 heq.symm)
    rw [if_neg h, Vector.getElem?_setIfInBounds_ne hne]

/-! ## Texts -/

section

variable {lines lines' extra : List (List Char)} {line : List Char} {table : Table}

theorem wellFormed_nil : WellFormed [] :=
  ⟨by simp, List.Pairwise.nil⟩

theorem wellFormed_cons_iff : WellFormed (line :: lines) ↔ (PassedOver line ∨ ∃ slot key, IsEntry line slot key) ∧
    (∀ line' ∈ lines, ∀ slot key key', IsEntry line slot key → ¬ IsEntry line' slot key') ∧ WellFormed lines := by
  constructor
  · intro h
    obtain ⟨hline, hlines⟩ := List.pairwise_cons.1 h.distinct
    exact ⟨h.shape line List.mem_cons_self, hline, fun other hother => h.shape other (List.mem_cons_of_mem _ hother),
      hlines⟩
  · rintro ⟨hline, hdistinct, h⟩
    refine ⟨fun other hother => ?_, List.pairwise_cons.2 ⟨hdistinct, h.distinct⟩⟩
    rcases List.mem_cons.1 hother with rfl | hother
    · exact hline
    · exact h.shape other hother

theorem wellFormed_perm (h : lines.Perm lines') : WellFormed lines ↔ WellFormed lines' := by
  have hsymm : ∀ {line line' : List Char}, (∀ slot key key', IsEntry line slot key → ¬ IsEntry line' slot key') →
      ∀ slot key key', IsEntry line' slot key → ¬ IsEntry line slot key' :=
    fun hne slot key key' hentry hentry' => hne slot key' key hentry' hentry
  constructor
  · intro hlines
    exact ⟨fun line hline => hlines.shape line (h.mem_iff.2 hline), (h.pairwise_iff hsymm).1 hlines.distinct⟩
  · intro hlines
    exact ⟨fun line hline => hlines.shape line (h.mem_iff.1 hline), (h.pairwise_iff hsymm).2 hlines.distinct⟩

theorem records_nil : Records [] .empty := by
  intro slot text
  by_cases hslot : slot.toNat < 16
  · simp [Table.find?, Table.empty, hslot]
  · simp [Table.find?, Table.empty, hslot]

theorem records_perm (h : lines.Perm lines') : Records lines table ↔ Records lines' table := by
  simp only [Records, h.mem_iff]

theorem records_cons_iff_of_passedOver (h : PassedOver line) : Records (line :: lines) table ↔ Records lines table := by
  have hentry (slot : UInt8) (key : List Char) : ¬ IsEntry line slot key := fun hentry => hentry.not_passedOver h
  simp [Records, hentry]

theorem wellFormed_cons_iff_of_passedOver (h : PassedOver line) : WellFormed (line :: lines) ↔ WellFormed lines := by
  have hentry (slot : UInt8) (key : List Char) : ¬ IsEntry line slot key := fun hentry => hentry.not_passedOver h
  rw [wellFormed_cons_iff]
  simp [h, hentry]

theorem Records.absent {slot : UInt8} (h : Records lines table) (hnone : table.find? slot = none) :
    ∀ line ∈ lines, ∀ key, ¬ IsEntry line slot key := by
  intro line hline key hentry
  have hfind := (h slot (upperText key)).2 ⟨line, hline, key, hentry, rfl⟩
  rw [hnone] at hfind
  cases hfind

theorem Records.cons {key : List Char} {slot : UInt8} (h : Records lines table) (hentry : IsEntry line slot key)
    (hnone : table.find? slot = none) :
    Records (line :: lines) (table.setIfInBounds slot.toNat (some (upperText key))) := by
  obtain ⟨_, hslot, _⟩ := isEntry_iff.1 hentry
  intro other text
  rw [find?_set table hslot]
  simp only [List.mem_cons, exists_eq_or_imp]
  by_cases hother : other = slot
  · subst hother
    rw [if_pos rfl]
    constructor
    · intro htext
      exact .inl ⟨key, hentry, (Option.some.inj htext).symm⟩
    · rintro (⟨key', hentry', rfl⟩ | ⟨earlier, hmem, key', hearlier, _⟩)
      · rw [(hentry.unique hentry').2]
      · exact absurd hearlier (h.absent hnone earlier hmem key')
  · have hline : ¬ ∃ key', IsEntry line other key' ∧ text = upperText key' := by
      rintro ⟨key', hentry', _⟩
      exact hother (hentry'.unique hentry).1
    rw [if_neg hother, h other text, or_iff_right hline]

theorem wellFormed_concat_iff : WellFormed (lines ++ [line]) ↔ WellFormed (line :: lines) :=
  wellFormed_perm (List.perm_append_singleton line lines)

theorem records_concat_iff : Records (lines ++ [line]) table ↔ Records (line :: lines) table :=
  records_perm (List.perm_append_singleton line lines)

theorem Spoils.not_wellFormed {fault : EntryFault} (h : Spoils lines line fault) : ¬ WellFormed (lines ++ [line]) := by
  rw [wellFormed_concat_iff, wellFormed_cons_iff]
  rintro ⟨hshape, hdistinct, _⟩
  rcases h with ⟨hpassed, hentry, _⟩ | ⟨hearlier, hentry, hentry'⟩
  · exact hshape.elim hpassed hentry
  · exact hdistinct _ hearlier _ _ _ hentry hentry'

/-- What one more line makes of a text that is read so far. -/
theorem addLine_spec (hlines : WellFormed lines) (htable : Records lines table) (line : List Char) :
    match addLine table line with
    | .ok table' => WellFormed (lines ++ [line]) ∧ Records (lines ++ [line]) table'
    | .error fault => Spoils lines line fault := by
  by_cases hpassed : PassedOver line
  · rw [addLine_passedOver table hpassed]
    dsimp only
    rw [wellFormed_concat_iff, records_concat_iff, wellFormed_cons_iff_of_passedOver hpassed,
      records_cons_iff_of_passedOver hpassed]
    exact ⟨hlines, htable⟩
  by_cases hshape : ∃ slot key, IsEntry line slot key
  · obtain ⟨slot, key, hentry⟩ := hshape
    obtain ⟨hslot, hadd⟩ := addLine_isEntry table hentry
    rw [hadd, ← find?_eq_get table hslot]
    cases hfind : table.find? slot with
    | none =>
      dsimp only
      rw [wellFormed_concat_iff, records_concat_iff]
      refine ⟨wellFormed_cons_iff.2 ⟨.inr ⟨slot, key, hentry⟩, ?_, hlines⟩, htable.cons hentry hfind⟩
      intro earlier hmem other key' key'' hentry' hearlier
      rw [(hentry'.unique hentry).1] at hearlier
      exact htable.absent hfind earlier hmem key'' hearlier
    | some text =>
      obtain ⟨earlier, hmem, key', hearlier, _⟩ := (htable slot text).1 hfind
      exact .repeated hmem hentry hearlier
  · obtain ⟨fault, hadd, hfault⟩ := addLine_other table hpassed hshape
    rw [hadd]
    exact .unreadable hpassed hshape hfault

/-- Reading goes on from well-formed lines to well-formed lines, or stops at the first line that spoils them. -/
theorem parseLines_spec {done rest : List (List Char)} (hdone : WellFormed done) (htable : Records done table) :
    match parseLines table (done.length + 1) rest with
    | .ok table' => WellFormed (done ++ rest) ∧ Records (done ++ rest) table'
    | .error error => ∃ before line after fault, rest = before ++ line :: after ∧ WellFormed (done ++ before) ∧
        Spoils (done ++ before) line fault ∧ error = .parse (done.length + before.length + 1) fault := by
  -- on the lines that are left; the lines before them are well-formed and the table is theirs
  induction rest generalizing done table with
  | nil =>
    rw [List.append_nil]
    exact ⟨hdone, htable⟩
  | cons line rest ih =>
    have hstep := addLine_spec hdone htable line
    unfold parseLines
    cases hadd : addLine table line with
    | error fault =>
      rw [hadd] at hstep
      exact ⟨[], line, rest, fault, rfl, by rwa [List.append_nil], by rwa [List.append_nil], rfl⟩
    | ok table' =>
      rw [hadd] at hstep
      have hrest := ih hstep.1 hstep.2
      rw [List.length_append, List.length_singleton] at hrest
      dsimp only
      cases hparse : parseLines table' (done.length + 1 + 1) rest with
      | ok final =>
        rw [hparse] at hrest
        rwa [List.append_assoc] at hrest
      | error error =>
        rw [hparse] at hrest
        obtain ⟨before, bad, after, fault, rfl, hbefore, hbad, rfl⟩ := hrest
        rw [List.append_assoc] at hbefore hbad
        refine ⟨line :: before, bad, after, fault, rfl, hbefore, hbad, ?_⟩
        rw [List.length_cons]
        congr 1
        omega

theorem WellFormed.of_append (h : WellFormed (lines ++ lines')) : WellFormed lines :=
  ⟨fun line hline => h.shape line (List.mem_append_left _ hline), (List.pairwise_append.1 h.distinct).1⟩

theorem Records.unique {table' : Table} (h : Records lines table) (h' : Records lines table') : table = table' := by
  apply Vector.ext
  intro slot hslot
  have hbyte : (UInt8.ofNat slot).toNat = slot :=
    toNat_ofNat_of_le (by omega)
  have hfind : table.find? (UInt8.ofNat slot) = table'.find? (UInt8.ofNat slot) :=
    Option.ext fun text => (h _ text).trans (h' _ text).symm
  rw [find?_eq_get table (by omega), find?_eq_get table' (by omega), Vector.get_eq_getElem,
    Vector.get_eq_getElem] at hfind
  simpa only [hbyte] using hfind

theorem parse_spec (text : String) :
    match parse text with
    | .ok table => WellFormed (Text.lines text.toList) ∧ Records (Text.lines text.toList) table
    | .error error => ∃ before line after fault, Text.lines text.toList = before ++ line :: after ∧
        WellFormed before ∧ Spoils before line fault ∧ error = .parse (before.length + 1) fault := by
  have hspec := @parseLines_spec .empty [] (Text.lines text.toList) wellFormed_nil records_nil
  unfold parse
  simpa only [List.nil_append, List.length_nil, Nat.zero_add] using hspec

theorem parse_eq_ok_iff {text : String} : parse text = .ok table ↔
    WellFormed (Text.lines text.toList) ∧ Records (Text.lines text.toList) table := by
  have hspec := parse_spec text
  cases hparse : parse text with
  | ok table' =>
    rw [hparse] at hspec
    constructor
    · intro h
      obtain rfl := Except.ok.inj h
      exact hspec
    · rintro ⟨_, htable⟩
      rw [htable.unique hspec.2]
  | error error =>
    rw [hparse] at hspec
    obtain ⟨before, line, after, fault, hlines, _, hbad, _⟩ := hspec
    constructor
    · intro h
      cases h
    · rintro ⟨hlines', _⟩
      rw [hlines, ← List.singleton_append, ← List.append_assoc] at hlines'
      exact absurd hlines'.of_append hbad.not_wellFormed

/-! ## The same lines in another order -/

theorem wellFormed_append_iff (h : ∀ line ∈ extra, PassedOver line) : WellFormed (extra ++ lines) ↔ WellFormed lines := by
  induction extra with
  | nil => rfl
  | cons line extra ih =>
    rw [List.cons_append, wellFormed_cons_iff_of_passedOver (h line List.mem_cons_self),
      ih fun other hother => h other (List.mem_cons_of_mem _ hother)]

theorem records_append_iff (h : ∀ line ∈ extra, PassedOver line) :
    Records (extra ++ lines) table ↔ Records lines table := by
  induction extra with
  | nil => rfl
  | cons line extra ih =>
    rw [List.cons_append, records_cons_iff_of_passedOver (h line List.mem_cons_self),
      ih fun other hother => h other (List.mem_cons_of_mem _ hother)]

theorem wellFormed_map_trim_iff : WellFormed (lines.map Text.trim) ↔ WellFormed lines := by
  constructor
  · rintro ⟨hshape, hdistinct⟩
    simp only [List.forall_mem_map, passedOver_trim_iff, isEntry_trim_iff] at hshape
    simp only [List.pairwise_map, isEntry_trim_iff] at hdistinct
    exact ⟨hshape, hdistinct⟩
  · rintro ⟨hshape, hdistinct⟩
    refine ⟨?_, ?_⟩
    · simpa only [List.forall_mem_map, passedOver_trim_iff, isEntry_trim_iff] using hshape
    · simpa only [List.pairwise_map, isEntry_trim_iff] using hdistinct

theorem records_map_trim_iff : Records (lines.map Text.trim) table ↔ Records lines table := by
  simp only [Records, List.mem_map, exists_exists_and_eq_and, isEntry_trim_iff]

/-- Texts with the same lines, but for their order, blanks at their ends and lines that are passed over, are read
alike. -/
theorem parse_eq_ok_iff_of_perm {text other : String} (hextra : ∀ line ∈ extra, PassedOver line)
    (h : ((Text.lines other.toList).map Text.trim).Perm (extra ++ (Text.lines text.toList).map Text.trim)) :
    parse other = .ok table ↔ parse text = .ok table := by
  rw [parse_eq_ok_iff, parse_eq_ok_iff, ← wellFormed_map_trim_iff, wellFormed_perm h, wellFormed_append_iff hextra,
    wellFormed_map_trim_iff, ← records_map_trim_iff, records_perm h, records_append_iff hextra, records_map_trim_iff]

end

end KeyStoreText

end SecureElement
