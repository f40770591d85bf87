import SecureElement.KeyStore.Stores
import SecureElement.Proofs.KeyStore.Grammar
/-!
# Reading a key store text back

The text that is written for a key set has one line for the header and one for each slot, and reading it gives
every key back.
-/

namespace SecureElement

namespace KeyStoreText

def keyText (key : Block) : String :=
  Hex.encodeUpper key.toList

theorem length_keyText (key : Block) : (keyText key).toList.length = 64 := by
  unfold keyText
  rw [Hex.length_encodeUpper, Vector.length_toList]

theorem keyText_not_blank (key : Block) : ∀ c ∈ (keyText key).toList, Text.isBlank c = false :=
  Hex.forall_mem_encodeUpper (by decide) key.toList

theorem isKey_keyText (key : Block) : IsKey (keyText key).toList where
  length := length_keyText key
  digits := Hex.forall_mem_encodeUpper (by decide) key.toList

theorem keyText_toUpper (key : Block) : (keyText key).toList.map Char.toUpper = (keyText key).toList :=
  (List.map_congr_left
    (Hex.forall_mem_encodeUpper (fun _ => Hex.toUpper_upperDigit) key.toList)).trans (List.map_id _)

theorem upperText_keyText (key : Block) : upperText (keyText key).toList = keyText key := by
  rw [upperText, keyText_toUpper, String.ofList_toList]

/-! ## Slot names -/

theorem slotOfName?_slotName : ∀ slot : Fin 16, slotOfName? (slotName slot.val).toList = some slot := by
  decide +kernel

theorem slotName_not_blank (slot : Fin 16) : ∀ c ∈ (slotName slot.val).toList, Text.isBlank c = false := by
  have hall : ∀ slot : Fin 16, (slotName slot.val).toList.all (fun c => !Text.isBlank c) = true := by
    decide +kernel
  intro c hc
  simpa using List.all_eq_true.1 (hall slot) c hc

theorem slotName_head (slot : Fin 16) : ∃ rest, (slotName slot.val).toList = 'k' :: rest := by
  have hhead : ∀ slot : Fin 16, (slotName slot.val).toList.head? = some 'k' := by
    decide +kernel
  obtain ⟨rest, hrest⟩ := List.head?_eq_some_iff.1 (hhead slot)
  exact ⟨rest, hrest⟩

/-! ## Lines -/

def entryLine (slot : Nat) (key : Block) : List Char :=
  (slotName slot).toList ++ List.replicate 4 ' ' ++ (keyText key).toList

theorem toList_keyLine (slot : Nat) (key : Block) :
    (keyLine slot key).toList = entryLine slot key ++ ['\n'] := by
  rw [keyLine]
  simp only [String.toList_append]
  rfl

theorem mem_entryLine (slot : Fin 16) {key : Block} {c : Char} (h : c ∈ entryLine slot key) :
    c = ' ' ∨ Text.isBlank c = false := by
  rw [entryLine, List.mem_append, List.mem_append] at h
  rcases h with (hname | hgap) | hkey
  · exact .inr (slotName_not_blank slot c hname)
  · exact .inl (List.eq_of_mem_replicate hgap)
  · exact .inr (keyText_not_blank key c hkey)

theorem entryLine_ends (slot : Fin 16) (key : Block) :
    ∃ inner d, entryLine slot key = 'k' :: (inner ++ [d]) ∧ Text.isBlank d = false := by
  obtain ⟨rest, hrest⟩ := slotName_head slot
  have hne : (keyText key).toList ≠ [] := by
    apply List.ne_nil_of_length_pos
    rw [length_keyText]
    decide
  refine ⟨rest ++ List.replicate 4 ' ' ++ (keyText key).toList.dropLast, (keyText key).toList.getLast hne,
    ?_, keyText_not_blank key _ (List.getLast_mem hne)⟩
  unfold entryLine
  rw [hrest, List.append_assoc (rest ++ _), List.dropLast_append_getLast]
  rfl

theorem dropReturn_entryLine (slot : Fin 16) (key : Block) :
    Text.dropReturn (entryLine slot key) = entryLine slot key := by
  obtain ⟨inner, d, hline, hd⟩ := entryLine_ends slot key
  have hreturn : d ≠ '\r' := by
    intro h
    subst h
    exact absurd hd (by decide)
  rw [hline, Text.dropReturn, ← List.cons_append, List.getLast?_concat, if_neg (by simpa using hreturn)]

theorem isEntry_entryLine (slot : Fin 16) (key : Block) :
    IsEntry (entryLine slot key) (UInt8.ofNat slot) (keyText key).toList := by
  have hslot : (UInt8.ofNat slot).toNat = slot.val :=
    toNat_ofNat_of_le (by omega)
  obtain ⟨numeral, hname, hnumeral⟩ := slotOfName?_eq_some_iff.1 (slotOfName?_slotName slot)
  have hentry : entryLine slot key =
      [] ++ (slotPrefix.toList ++ numeral) ++ List.replicate 4 ' ' ++ (keyText key).toList ++ [] := by
    rw [entryLine, hname, List.nil_append, List.append_nil]
  have hgap : Text.Blanks (List.replicate 4 ' ') := by
    intro c hc
    rw [List.eq_of_mem_replicate hc]
    decide
  rw [hentry]
  exact .intro Text.blanks_nil (by rwa [hslot]) (by omega) hgap (by decide) (isKey_keyText key) Text.blanks_nil

theorem addLine_entryLine {table : Table} (slot : Fin 16) (key : Block) (h : table.get slot = none) :
    addLine table (entryLine slot key) = .ok (table.setIfInBounds slot (some (keyText key))) := by
  obtain ⟨hslot, hadd⟩ := addLine_isEntry table (isEntry_entryLine slot key)
  have hbyte : (UInt8.ofNat slot).toNat = slot.val :=
    toNat_ofNat_of_le (by omega)
  simp only [hbyte, upperText_keyText] at hadd
  rw [hadd, h]

theorem addLine_comment (table : Table) (rest : List Char) : addLine table ('#' :: rest) = .ok table :=
  addLine_passedOver table (.comment Text.blanks_nil rest)

/-! ## Whole texts -/

/-- The table after the first `count` slots have been read. -/
def recorded (keys : Vector Block 16) (count : Nat) : Table :=
  Vector.ofFn fun i => if i.val < count then some (keyText keys[i]) else none

theorem recorded_zero (keys : Vector Block 16) : recorded keys 0 = Table.empty := by
  apply Vector.ext
  intro i hi
  simp [recorded, Table.empty]

theorem setIfInBounds_recorded (keys : Vector Block 16) {slot : Nat} (h : slot < 16) :
    (recorded keys slot).setIfInBounds slot (some (keyText keys[slot])) = recorded keys (slot + 1) := by
  apply Vector.ext
  intro i hi
  by_cases hslot : slot = i
  · subst hslot
    simp [recorded]
  · have hstep : i ≤ slot ↔ i < slot := by
      omega
    rw [Vector.getElem_setIfInBounds_ne hi hslot]
    simp [recorded, hstep]

theorem find?_recorded (keys : Vector Block 16) (slot : UInt8) :
    (recorded keys 16).find? slot = keys[slot.toNat]?.map keyText := by
  unfold Table.find?
  by_cases h : slot.toNat < 16
  · rw [Vector.getElem?_eq_getElem h, Vector.getElem?_eq_getElem h]
    simp [recorded]
  · rw [Vector.getElem?_eq_none (Nat.not_lt.1 h), Vector.getElem?_eq_none (Nat.not_lt.1 h)]
    rfl

def entryLines (keys : Vector Block 16) : List (List Char) :=
  keys.toList.zipIdx.map fun (key, slot) => entryLine slot key

theorem length_entryLines (keys : Vector Block 16) : (entryLines keys).length = 16 := by
  unfold entryLines
  rw [List.length_map, List.length_zipIdx, Vector.length_toList]

theorem getElem_entryLines (keys : Vector Block 16) {slot : Nat} (h : slot < (entryLines keys).length)
    (hslot : slot < 16) : (entryLines keys)[slot] = entryLine slot keys[slot] := by
  simp [entryLines]

theorem parseLines_entryLines (keys : Vector Block 16) (line : Nat) {count : Nat} (h : count ≤ 16) :
    parseLines (recorded keys count) line ((entryLines keys).drop count) = .ok (recorded keys 16) := by
  obtain ⟨rest, hrest⟩ := Nat.exists_eq_add_of_le h
  induction rest generalizing count line with
  | zero =>
    obtain rfl : count = 16 := by
      omega
    rw [List.drop_of_length_le (by rw [length_entryLines])]
    rfl
  | succ rest ih =>
    have hlt : count < 16 := by
      omega
    have hnone : (recorded keys count).get (⟨count, hlt⟩ : Fin 16) = none := by
      rw [Vector.get_eq_getElem]
      simp [recorded]
    have hadd := addLine_entryLine ⟨count, hlt⟩ keys[count] hnone
    rw [List.drop_eq_getElem_cons (by rw [length_entryLines]; exact hlt), getElem_entryLines _ _ hlt,
      parseLines, hadd]
    dsimp only
    rw [setIfInBounds_recorded _ hlt]
    exact ih (line + 1) hlt (by omega)

def textLines (keySet : KeySet) (version : String) : List (List Char) :=
  (header ++ version).toList :: entryLines keySet.keys

theorem toList_format (keySet : KeySet) (version : String) :
    (format keySet version).toList = (textLines keySet version).flatMap (· ++ ['\n']) := by
  have hlines : (keySet.keys.toList.zipIdx.map fun (key, slot) => keyLine slot key).flatMap String.toList =
      (entryLines keySet.keys).flatMap (· ++ ['\n']) := by
    unfold entryLines
    rw [List.flatMap_map, List.flatMap_map]
    exact congrArg (fun f => List.flatMap f _) (funext fun entry => toList_keyLine entry.2 entry.1)
  unfold format textLines
  rw [List.flatMap_cons]
  simp only [String.toList_append, String.toList_join, hlines]
  rfl

theorem textLines_no_newline (keySet : KeySet) {version : String} (h : '\n' ∉ version.toList) :
    ∀ line ∈ textLines keySet version, '\n' ∉ line := by
  intro line hline hmem
  rcases List.mem_cons.1 hline with rfl | hentry
  · rw [String.toList_append, List.mem_append] at hmem
    exact hmem.elim (by decide +kernel) h
  · obtain ⟨slot, hslot, rfl⟩ := List.getElem_of_mem hentry
    rw [length_entryLines] at hslot
    rw [getElem_entryLines _ _ hslot] at hmem
    rcases mem_entryLine ⟨slot, hslot⟩ hmem with hspace | hblank
    · exact absurd hspace (by decide)
    · exact absurd hblank (by decide)

/-- What is written for a key set is read back as the texts of its keys. -/
theorem parse_format (keySet : KeySet) {version : String} (h : '\n' ∉ version.toList) :
    parse (format keySet version) = .ok (recorded keySet.keys 16) := by
  have hreturn : (entryLines keySet.keys).map Text.dropReturn = entryLines keySet.keys := by
    refine (List.map_congr_left ?_).trans (List.map_id _)
    intro line hline
    obtain ⟨slot, hslot, rfl⟩ := List.getElem_of_mem hline
    rw [length_entryLines] at hslot
    rw [getElem_entryLines _ _ hslot]
    exact dropReturn_entryLine ⟨slot, hslot⟩ _
  have hheader : ∃ rest, Text.dropReturn (header ++ version).toList = '#' :: rest := by
    have hhash : (header ++ version).toList = '#' :: (header.toList.tail ++ version.toList) := by
      rw [String.toList_append]
      rfl
    have hne : header.toList.tail ++ version.toList ≠ [] :=
      List.append_ne_nil_of_left_ne_nil (by decide +kernel) _
    rw [hhash, Text.dropReturn]
    split
    · exact ⟨_, List.dropLast_cons_of_ne_nil hne⟩
    · exact ⟨_, rfl⟩
  obtain ⟨rest, hrest⟩ := hheader
  unfold parse
  rw [toList_format, Text.lines_flatMap _ (textLines_no_newline keySet h), textLines, List.map_cons,
    hreturn, hrest, parseLines, addLine_comment, ← recorded_zero keySet.keys]
  exact parseLines_entryLines keySet.keys 2 (Nat.zero_le 16)

end KeyStoreText

namespace KeySet

theorem importKey_eq {find? : UInt8 → Except KeyStoreError (Option String)} {slot : Nat} {key : Block}
    (h : find? (UInt8.ofNat slot) = .ok (some (KeyStoreText.keyText key))) :
    importKey find? slot = .ok key := by
  have hdecode : Hex.decode (Text.utf8Bytes (KeyStoreText.keyText key)) = .ok key.toList :=
    Hex.decode_encodeUpper key.toList
  unfold importKey
  rw [h]
  simp only [bind, Except.bind, hdecode, Bytes.ofList?_toList]
  rfl

theorem importKeys_eq {find? : UInt8 → Except KeyStoreError (Option String)} {keys : Vector Block 16}
    (h : ∀ slot (hslot : slot < 16), find? (UInt8.ofNat slot) = .ok (some (KeyStoreText.keyText keys[slot])))
    {count : Nat} (hcount : count ≤ 16) :
    importKeys find? count = .ok (Vector.ofFn fun i => keys[i.val]) := by
  induction count with
  | zero => rfl
  | succ count ih =>
    change (do
      let keys ← importKeys find? count
      let key ← importKey find? count
      return keys.push key) = _
    rw [ih (Nat.le_of_succ_le hcount), importKey_eq (h count hcount), Vector.ofFn_succ]
    rfl

/-- The keys are taken in slot order, so the first slot is missed where none has a key. -/
theorem importKeys_none (count : Nat) : importKeys (fun _ => .ok none) (count + 1) = .error (.missingKey 0) := by
  induction count with
  | zero => rfl
  | succ count ih =>
    change (do
      let keys ← importKeys (fun _ => .ok none) (count + 1)
      let key ← importKey (fun _ => .ok none) (count + 1)
      return keys.push key) = _
    rw [ih]
    rfl

theorem ofTexts_eq {find? : UInt8 → Except KeyStoreError (Option String)} {keySet : KeySet}
    (h : ∀ slot (hslot : slot < 16),
      find? (UInt8.ofNat slot) = .ok (some (KeyStoreText.keyText keySet.keys[slot]))) :
    ofTexts find? = .ok keySet := by
  have hkeys : (Vector.ofFn fun i : Fin 16 => keySet.keys[i.val]) = keySet.keys := by
    apply Vector.ext
    intro i hi
    simp
  unfold ofTexts
  rw [importKeys_eq h (Nat.le_refl 16), hkeys]
  rfl

end KeySet

theorem version_no_newline : '\n' ∉ version.toList := by
  decide +kernel

theorem KeyStoreText.find?_parse_format (keySet : KeySet) (slot : UInt8) (hslot : slot.toNat < 16) :
    (do return (← parse (format keySet version)).find? slot : Except KeyStoreError (Option String)) =
      .ok (some (keyText keySet.keys[slot.toNat])) := by
  rw [parse_format keySet version_no_newline]
  change Except.ok _ = _
  rw [find?_recorded, Vector.getElem?_eq_getElem hslot]
  rfl

theorem MemoryStore.ofStore_record {keySet : KeySet} {store store' : MemoryStore}
    (h : KeyStore.record keySet store = .ok () store') : KeySet.ofStore store' = .ok keySet := by
  obtain rfl : ⟨some (KeyStoreText.format keySet version)⟩ = store' := by
    injection h
  refine KeySet.ofTexts_eq fun slot hslot => ?_
  have hbyte : (UInt8.ofNat slot).toNat = slot := by
    rw [UInt8.toNat_ofNat']
    omega
  have hfind := KeyStoreText.find?_parse_format keySet (UInt8.ofNat slot) (by omega)
  simp only [hbyte] at hfind
  exact hfind

theorem MemoryStore.ofStore_empty : KeySet.ofStore ({} : MemoryStore) = .error (.missingKey 0) := by
  change KeySet.ofTexts (fun _ => .ok none) = _
  unfold KeySet.ofTexts
  rw [KeySet.importKeys_none]
  rfl

namespace KeySet

/-- What is written for a key set is read back. Whatever one line of text stands for the version, the reader finds
the key of every slot in upper-case digits and finds nothing else; and recording a key set succeeds over whatever a
store in memory held, and leaves a store from which the same key set is taken. -/
theorem written_and_read_back (keySet : KeySet) {version : String} (h : '\n' ∉ version.toList) :
    (∃ table, KeyStoreText.parse (KeyStoreText.format keySet version) = .ok table ∧
      ∀ slot : UInt8, table.find? slot = (keySet.key? slot).map fun key => Hex.encodeUpper key.toList) ∧
    ∀ store : MemoryStore, ∃ store', KeyStore.record keySet store = .ok () store' ∧
      ofStore store' = .ok keySet := by
  constructor
  · exact ⟨_, KeyStoreText.parse_format keySet h, KeyStoreText.find?_recorded keySet.keys⟩
  · intro store
    have hrecord : KeyStore.record keySet store =
        .ok () ⟨some (KeyStoreText.format keySet SecureElement.version)⟩ := rfl
    exact ⟨_, hrecord, MemoryStore.ofStore_record hrecord⟩

/-- A carriage return at the end of the version is taken for a part of the line end. -/
theorem written_and_read_back_return :
    let keySet : KeySet := ⟨Vector.ofFn fun slot => Vector.replicate 32 (UInt8.ofNat slot.val)⟩
    '\n' ∉ "0.1.0\r".toList ∧
      ∃ table, KeyStoreText.parse (KeyStoreText.format keySet "0.1.0\r") = .ok table ∧
        table.find? 10 = some "0A0A0A0A0A0A0A0A0A0A0A0A0A0A0A0A0A0A0A0A0A0A0A0A0A0A0A0A0A0A0A0A" ∧
        table.find? 16 = none := by
  intro keySet
  have hline : '\n' ∉ "0.1.0\r".toList := by
    decide
  obtain ⟨table, hparse, hfind⟩ := (written_and_read_back keySet hline).1
  exact ⟨hline, table, hparse, (hfind 10).trans (by decide +kernel), (hfind 16).trans (by decide +kernel)⟩

end KeySet

end SecureElement
