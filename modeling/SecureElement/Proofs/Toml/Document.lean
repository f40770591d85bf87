import SecureElement.Proofs.Toml.Integers
import SecureElement.Proofs.Toml.Strings
import SecureElement.Toml.Document
/-!
# Documents are read as they are written

Every document of the grammar is read, and gives the entries that its lines set, in their order. Each reader is
described by what it takes off the front of a text and by what may follow it.
-/

namespace SecureElement.Toml

open Reader

variable {α β : Type} {text rest spaces comment newline tail word written : List Char} {name : String} {value : Value}
  {entries : Entries} {document : Document} {c : Char}

/-! ## Readers one after the other -/

theorem run_bind_eq {first : Reader α} {next : α → Reader β} {a : α} (h : first.run text = some (a, rest)) :
    (first >>= next).run text = (next a).run rest := by
  rw [StateT.run_bind, h]
  rfl

theorem peek_run (text : List Char) : peek.run text = some (text.head?, text) := rfl

theorem get_run (text : List Char) : (get : Reader (List Char)).run text = some (text, text) := rfl

theorem expect_run (c : Char) (rest : List Char) : (expect c).run (c :: rest) = some ((), rest) := by
  unfold expect
  rw [run_bind_eq (get_run _)]
  dsimp only
  rw [if_pos rfl]
  rfl

theorem takeWhile_run {p : Char → Bool} (h : ∀ c ∈ text, p c = true) (hrest : ∀ c ∈ rest.head?, p c = false) :
    (Reader.takeWhile p).run (text ++ rest) = some (text, rest) := by
  have hrun : ∀ text, (Reader.takeWhile p).run text = some (text.takeWhile p, text.dropWhile p) := fun _ => rfl
  rw [hrun, takeWhile_append_of_stops h hrest, dropWhile_append_of_stops h hrest]

theorem skipSpaces_run (h : IsSpaces spaces) (hrest : ∀ c ∈ rest.head?, isSpace c = false) :
    skipSpaces.run (spaces ++ rest) = some ((), rest) := by
  unfold skipSpaces
  rw [run_bind_eq (takeWhile_run h.all_isSpace hrest)]
  rfl

theorem isSpaces_nil : IsSpaces [] := by
  simp [IsSpaces]

/-! ## Ends of lines -/

/-- What follows the text of a line: the end of the document, or a line end and the rest of it. -/
inductive LineTail : List Char → List Char → Prop where
  | last : LineTail [] []
  | line {newline rest : List Char} (h : IsNewline newline) : LineTail (newline ++ rest) rest

def Delimited (text : List Char) : Prop :=
  ∀ c ∈ text.head?, c = ' ' ∨ c = '\t' ∨ c = '#' ∨ c = '\n' ∨ c = '\r'

theorem LineTail.head (h : LineTail tail rest) : ∀ c ∈ tail.head?, c = '\n' ∨ c = '\r' := by
  cases h with
  | last => simp
  | line h => cases h <;> simp

theorem IsComment.head (hcomment : IsComment comment) (htail : LineTail tail rest) :
    ∀ c ∈ (comment ++ tail).head?, c = '#' ∨ c = '\n' ∨ c = '\r' := by
  cases hcomment with
  | none => exact fun c hc => .inr (htail.head c hc)
  | hash => simp

theorem IsComment.head_not_space (hcomment : IsComment comment) (htail : LineTail tail rest) :
    ∀ c ∈ (comment ++ tail).head?, isSpace c = false := by
  intro c hc
  rcases hcomment.head htail c hc with rfl | rfl | rfl <;> decide

theorem delimited_append (hspaces : IsSpaces spaces) (hcomment : IsComment comment) (htail : LineTail tail rest) :
    Delimited (spaces ++ (comment ++ tail)) := by
  cases spaces with
  | nil =>
    intro c hc
    rcases hcomment.head htail c hc with h | h | h <;> simp [h]
  | cons d spaces =>
    intro c hc
    obtain rfl : d = c := by simpa using hc
    rcases hspaces d List.mem_cons_self with h | h <;> simp [h]

theorem skipComment_run (hcomment : IsComment comment) (htail : LineTail tail rest) :
    skipComment.run (comment ++ tail) = some ((), tail) := by
  unfold skipComment
  rw [run_bind_eq (peek_run _)]
  cases hcomment with
  | none =>
    have hhead : ([] ++ tail).head? ≠ some '#' := by
      intro hhash
      rcases htail.head '#' hhash with h | h <;> cases h
    rw [if_neg hhead]
    rfl
  | @hash text htext =>
    have hall : ∀ c ∈ '#' :: text, isTextChar c = true :=
      List.forall_mem_cons.2 ⟨by decide, fun c hc => isTextChar_iff.2 (htext c hc)⟩
    have hstops : ∀ c ∈ tail.head?, isTextChar c = false := by
      intro c hc
      rcases htail.head c hc with rfl | rfl <;> decide
    rw [if_pos (by rfl), run_bind_eq (takeWhile_run hall hstops)]
    rfl

theorem lineEnd_run (hspaces : IsSpaces spaces) (hcomment : IsComment comment) (htail : LineTail tail rest) :
    lineEnd.run (spaces ++ (comment ++ tail)) = some ((), rest) := by
  unfold lineEnd
  rw [run_bind_eq (skipSpaces_run hspaces (hcomment.head_not_space htail)),
    run_bind_eq (skipComment_run hcomment htail), run_bind_eq (get_run _)]
  cases htail with
  | last => rfl
  | @line newline rest h =>
    rw [if_pos (by simp [h.ne_nil]), Reader.newline, run_bind_eq (get_run _), newline?_newline h]
    rfl

/-! ## Keys -/

theorem isBareKeyChar_iff : isBareKeyChar c = true ↔ c.isAlphanum = true ∨ c = '_' ∨ c = '-' := by
  simp [isBareKeyChar, or_assoc]

theorem IsKey.head (h : IsKey written name) :
    ∃ c rest, written = c :: rest ∧ (c = '"' ∨ c = '\'' ∨ isBareKeyChar c = true) := by
  cases h with
  | bare hne h =>
    obtain ⟨c, rest, rfl⟩ := List.exists_cons_of_ne_nil hne
    exact ⟨c, rest, rfl, .inr (.inr (isBareKeyChar_iff.2 (h c List.mem_cons_self)))⟩
  | quoted h =>
    cases h with
    | mk hstyle => exact ⟨_, _, rfl, (quotes_of_line hstyle).1.imp_right .inl⟩

theorem IsKey.head_ne (h : IsKey written name) {d : Char} (hd : d ≠ '"' ∧ d ≠ '\'' ∧ isBareKeyChar d = false)
    (rest : List Char) :
    (written ++ rest).head? ≠ some d := by
  obtain ⟨c, tail, rfl, hc⟩ := h.head
  intro heq
  obtain rfl : c = d := by simpa using heq
  rcases hc with hc | hc | hc
  · exact hd.1 hc
  · exact hd.2.1 hc
  · rw [hd.2.2] at hc
    cases hc

theorem keyPart_run (h : IsKey written name) (hrest : ∀ c ∈ rest.head?, isBareKeyChar c = false) :
    keyPart.run (written ++ rest) = some (name, rest) := by
  unfold keyPart
  rw [run_bind_eq (peek_run _)]
  cases h with
  | bare hne h =>
    obtain ⟨c, tail, rfl⟩ := List.exists_cons_of_ne_nil hne
    have hquote : c ≠ '"' ∧ c ≠ '\'' := by
      have hc := isBareKeyChar_iff.2 (h c List.mem_cons_self)
      constructor <;> rintro rfl <;> exact absurd hc (by decide)
    have hkey : (do
        let key ← Reader.takeWhile isBareKeyChar
        if key = [] then failure
        return String.ofList key : Reader String).run (c :: tail ++ rest) = some (String.ofList (c :: tail), rest) := by
      rw [run_bind_eq (takeWhile_run (fun d hd => isBareKeyChar_iff.2 (h d hd)) hrest), if_neg hne]
      rfl
    split
    · next heq => exact absurd (by simpa using heq) hquote.1
    · next heq => exact absurd (by simpa using heq) hquote.2
    · exact hkey
  | quoted h =>
    have hread := readLineString_line h rest
    cases h with
    | mk hstyle => rcases hstyle with rfl | rfl <;> exact hread

theorem IsKey.head_not_space (h : IsKey written name) (rest : List Char) :
    ∀ c ∈ (written ++ rest).head?, isSpace c = false := by
  intro c hc
  rw [Bool.eq_false_iff, Ne, isSpace_iff]
  rintro (rfl | rfl)
  · exact h.head_ne (by decide) rest hc
  · exact h.head_ne (by decide) rest hc

theorem key_run {gap : List Char} (h : IsKey written name) (hgap : IsSpaces gap) (rest : List Char) :
    key.run (written ++ (gap ++ '=' :: rest)) = some (([], name), '=' :: rest) := by
  have hend : ∀ c ∈ (gap ++ '=' :: rest).head?, isBareKeyChar c = false := by
    cases gap with
    | nil =>
      intro c hc
      obtain rfl : '=' = c := by simpa using hc
      decide
    | cons d gap =>
      intro c hc
      obtain rfl : d = c := by simpa using hc
      rcases hgap d List.mem_cons_self with rfl | rfl <;> decide
  have hstart : skipSpaces.run (written ++ (gap ++ '=' :: rest)) = some ((), written ++ (gap ++ '=' :: rest)) :=
    skipSpaces_run isSpaces_nil (h.head_not_space _)
  have hparts : (keyParts depthLimit).run (written ++ (gap ++ '=' :: rest)) = some ([name], '=' :: rest) := by
    rw [depthLimit, keyParts, run_bind_eq hstart, run_bind_eq (keyPart_run h hend),
      run_bind_eq (skipSpaces_run hgap (by simp [isSpace])), run_bind_eq (peek_run _), if_neg (by simp)]
    rfl
  unfold key
  rw [run_bind_eq hparts]
  rfl

/-! ## Values -/

theorem Delimited.not_quote (h : Delimited rest) : ∀ c ∈ rest.head?, c ≠ '"' ∧ c ≠ '\'' := by
  intro c hc
  rcases h c hc with rfl | rfl | rfl | rfl | rfl <;> decide

theorem word_run {integer : Int} (h : IsInteger written integer) (hlow : -2 ^ 63 ≤ integer) (hhigh : integer < 2 ^ 63)
    (hrest : Delimited rest) : Reader.word.run (written ++ rest) = some (.integer integer, rest) := by
  have hstops : ∀ c ∈ rest.head?, isWordChar c = false := by
    intro c hc
    rcases hrest c hc with rfl | rfl | rfl | rfl | rfl <;> decide
  have hscalar : (liftM (scalar? written) : Reader Value).run rest = some (.integer integer, rest) := by
    rw [scalar?_integer h hlow hhigh]
    rfl
  unfold Reader.word
  rw [run_bind_eq (takeWhile_run (h.forall_mem (p := fun c => isWordChar c = true) (by decide)) hstops),
    run_bind_eq (get_run _)]
  split
  · rw [if_neg (by rw [h.not_isDate]; simp)]
    exact hscalar
  · exact hscalar

theorem IsInteger.head (h : IsInteger written integer) :
    ∃ c rest, written = c :: rest ∧ c ≠ '"' ∧ c ≠ '\'' ∧ c ≠ '[' ∧ c ≠ '\x7b' := by
  have hmem := h.forall_mem (p := fun c => c ≠ '"' ∧ c ≠ '\'' ∧ c ≠ '[' ∧ c ≠ '\x7b') (by decide)
  cases written with
  | nil =>
    generalize hwritten : [] = whole at h
    cases h with
    | decimal _ h =>
      obtain ⟨_, _, rfl, _⟩ := h.head
      simp at hwritten
    | negative => cases hwritten
    | radix => cases hwritten
  | cons c rest => exact ⟨c, rest, rfl, hmem c List.mem_cons_self⟩

theorem IsLineString.head {text : List Char} (h : IsLineString written text) (rest : List Char) :
    (written ++ rest).head? = some '"' ∨ (written ++ rest).head? = some '\'' := by
  cases h with
  | mk hstyle => exact (quotes_of_line hstyle).1.imp (congrArg some) (congrArg some)

theorem IsLinesString.head {text : List Char} (h : IsLinesString written text) (rest : List Char) :
    (written ++ rest).head? = some '"' ∨ (written ++ rest).head? = some '\'' := by
  cases h with
  | mk hstyle => exact (quotes_of_lines hstyle).1.imp (congrArg some) (congrArg some)

theorem valueOr_run (h : IsValue word value) (hrest : Delimited rest) (nested : Reader Value) :
    (valueOr nested).run (word ++ rest) = some (value, rest) := by
  have hstring : ∀ {read : String}, readString (word ++ rest) = some (read, rest) →
      (do return Value.string (← readString) : Reader Value).run (word ++ rest) = some (.string read, rest) := by
    intro read hread
    have hrun : (show Reader String from readString).run (word ++ rest) = some (read, rest) := hread
    rw [run_bind_eq hrun]
    rfl
  unfold valueOr
  rw [run_bind_eq (peek_run _)]
  cases h with
  | lineString h =>
    rw [if_pos (h.head rest)]
    exact hstring (readString_line h hrest.not_quote)
  | linesString h =>
    rw [if_pos (h.head rest)]
    exact hstring (readString_lines h hrest.not_quote)
  | integer h hlow hhigh =>
    have hread := word_run h hlow hhigh hrest
    obtain ⟨c, tail, rfl, hdouble, hsingle, hbracket, hbrace⟩ := h.head
    rw [if_neg (by simp [hdouble, hsingle]), if_neg (by simp [hbracket, hbrace])]
    exact hread

theorem value_run (h : IsValue word value) (hrest : Delimited rest) (depth : Nat) :
    (Reader.value depth).run (word ++ rest) = some (value, rest) := by
  cases depth with
  | zero => exact valueOr_run h hrest _
  | succ depth => exact valueOr_run h hrest _

theorem IsValue.head_not_space (h : IsValue word value) (rest : List Char) :
    ∀ c ∈ (word ++ rest).head?, isSpace c = false := by
  have hquote : (word ++ rest).head? = some '"' ∨ (word ++ rest).head? = some '\'' →
      ∀ c ∈ (word ++ rest).head?, isSpace c = false := by
    rintro (hhead | hhead) c hc
    · obtain rfl := Option.some.inj (hhead.symm.trans hc)
      decide
    · obtain rfl := Option.some.inj (hhead.symm.trans hc)
      decide
  cases h with
  | lineString h => exact hquote (h.head rest)
  | linesString h => exact hquote (h.head rest)
  | integer h =>
    have hmem := h.forall_mem (p := fun c => isSpace c = false) (by decide)
    obtain ⟨c, tail, rfl, _⟩ := h.head
    intro d hd
    obtain rfl := Option.some.inj hd
    exact hmem c List.mem_cons_self

/-! ## Entries -/

theorem get?_eq_none (h : ∀ entry ∈ entries, entry.1 ≠ name) : entries.get? name = none := by
  rw [Entries.get?, Option.map_eq_none_iff, List.find?_eq_none]
  intro entry hentry
  simpa using h entry hentry

theorem get?_of_mem (hnodup : (entries.map (·.1)).Nodup) (h : (name, value) ∈ entries) :
    entries.get? name = some value := by
  obtain ⟨before, after, rfl⟩ := List.append_of_mem h
  rw [List.map_append, List.nodup_append] at hnodup
  have hbefore : Entries.get? before name = none := get?_eq_none fun entry hentry =>
    hnodup.2.2 entry.1 (List.mem_map_of_mem hentry) name (by simp)
  rw [Entries.get?, Option.map_eq_none_iff] at hbefore
  rw [Entries.get?, List.find?_append, hbefore, Option.none_or, List.find?_cons_of_pos (by simp)]
  rfl

theorem alter_assign (hnew : ∀ entry ∈ entries, entry.1 ≠ name) (value : Value) :
    Entries.alter false (Entries.assign [] name value) [] .header entries = some (entries ++ [(name, value)]) := by
  have hget := get?_eq_none hnew
  simp [Entries.alter, Entries.assign, hget]

/-! ## Lines -/

theorem setting_run {key gap gap' : List Char} (hpath : document.path = [])
    (hnew : ∀ entry ∈ document.entries, entry.1 ≠ name) (hkey : IsKey key name) (hgap : IsSpaces gap)
    (hgap' : IsSpaces gap') (hword : IsValue word value) (hrest : Delimited rest) :
    (Document.setting document).run (key ++ (gap ++ '=' :: (gap' ++ (word ++ rest)))) =
      some ({ document with entries := document.entries ++ [(name, value)] }, rest) := by
  unfold Document.setting
  rw [run_bind_eq (key_run hkey hgap _)]
  dsimp only
  rw [run_bind_eq (expect_run '=' _), run_bind_eq (skipSpaces_run hgap' (hword.head_not_space rest)),
    run_bind_eq (value_run hword hrest depthLimit), hpath, alter_assign hnew]
  rfl

theorem line_run_blank (hspaces : IsSpaces spaces) (hcomment : IsComment comment) (htail : LineTail tail rest) :
    (Document.line document).run (spaces ++ (comment ++ tail)) = some (document, rest) := by
  have hend : (do lineEnd; return document : Reader Document).run (comment ++ tail) = some (document, rest) := by
    have hrun := lineEnd_run isSpaces_nil hcomment htail
    rw [List.nil_append] at hrun
    rw [run_bind_eq hrun]
    rfl
  unfold Document.line
  rw [run_bind_eq (skipSpaces_run hspaces (hcomment.head_not_space htail)), run_bind_eq (peek_run _)]
  cases hhead : (comment ++ tail).head? with
  | none => exact hend
  | some c => rcases hcomment.head htail c hhead with rfl | rfl | rfl <;> exact hend

theorem line_run_setting {before key gap gap' after : List Char} (hpath : document.path = [])
    (hnew : ∀ entry ∈ document.entries, entry.1 ≠ name) (hbefore : IsSpaces before) (hkey : IsKey key name)
    (hgap : IsSpaces gap) (hgap' : IsSpaces gap') (hword : IsValue word value) (hafter : IsSpaces after)
    (hcomment : IsComment comment) (htail : LineTail tail rest) :
    (Document.line document).run
        (before ++ (key ++ (gap ++ '=' :: (gap' ++ (word ++ (after ++ (comment ++ tail))))))) =
      some ({ document with entries := document.entries ++ [(name, value)] }, rest) := by
  have hsetting : (do let document ← Document.setting document; lineEnd; return document : Reader Document).run
      (key ++ (gap ++ '=' :: (gap' ++ (word ++ (after ++ (comment ++ tail)))))) =
        some ({ document with entries := document.entries ++ [(name, value)] }, rest) := by
    rw [run_bind_eq (setting_run hpath hnew hkey hgap hgap' hword (delimited_append hafter hcomment htail)),
      run_bind_eq (lineEnd_run hafter hcomment htail)]
    rfl
  unfold Document.line
  rw [run_bind_eq (skipSpaces_run hbefore (hkey.head_not_space _)), run_bind_eq (peek_run _)]
  dsimp only
  split
  · next heq =>
    obtain ⟨c, rest', rfl, _⟩ := hkey.head
    cases heq
  · next heq => exact absurd heq (hkey.head_ne (by decide) _)
  · next heq => exact absurd heq (hkey.head_ne (by decide) _)
  · next heq => exact absurd heq (hkey.head_ne (by decide) _)
  · next heq => exact absurd heq (hkey.head_ne (by decide) _)
  · exact hsetting

theorem line_run {line : List Char} (h : IsLine line entries) (hpath : document.path = [])
    (hnew : ((document.entries ++ entries).map (·.1)).Nodup) (htail : LineTail tail rest) :
    (Document.line document).run (line ++ tail) =
      some ({ document with entries := document.entries ++ entries }, rest) := by
  cases h with
  | blank hspaces hcomment =>
    rw [List.append_assoc, line_run_blank hspaces hcomment htail, List.append_nil]
  | @setting before key gap gap' word after comment name value hbefore hkey hgap hgap' hword hafter hcomment =>
    have hname : ∀ entry ∈ document.entries, entry.1 ≠ name := by
      rw [List.map_append, List.nodup_append] at hnew
      intro entry hentry heq
      exact hnew.2.2 entry.1 (List.mem_map_of_mem hentry) name (by simp) heq
    have hline := line_run_setting hpath hname hbefore hkey hgap hgap' hword hafter hcomment htail
    simpa only [List.append_assoc, List.cons_append] using hline

/-! ## Documents -/

theorem IsLine.of_nil (h : IsLine [] entries) : entries = [] := by
  generalize hline : [] = line at h
  cases h with
  | blank => rfl
  | setting => simp at hline

theorem lines_run_nil (document : Document) (fuel : Nat) :
    (Document.lines document (fuel + 1)).run [] = some (document, []) := rfl

theorem lines_run_step {document' : Document} {fuel : Nat} (hne : text ≠ [])
    (h : (Document.line document).run text = some (document', rest)) :
    (Document.lines document (fuel + 1)).run text = (Document.lines document' fuel).run rest := by
  rw [Document.lines, run_bind_eq (get_run _), if_neg hne, run_bind_eq h]

/-- One round for each line, and one more for the end. The document that the rounds before leave is taken as it is. -/
theorem lines_run (h : IsLines text entries) {fuel : Nat} (hfuel : text.length < fuel) (hpath : document.path = [])
    (hnew : ((document.entries ++ entries).map (·.1)).Nodup) :
    (Document.lines document fuel).run text =
      some ({ document with entries := document.entries ++ entries }, []) := by
  induction h generalizing document fuel with
  | @last line entries h =>
    obtain ⟨fuel, rfl⟩ := Nat.exists_eq_add_one_of_ne_zero (Nat.ne_zero_of_lt hfuel)
    cases line with
    | nil =>
      rw [h.of_nil, lines_run_nil, List.append_nil]
    | cons c line =>
      obtain ⟨fuel, rfl⟩ := Nat.exists_eq_add_one_of_ne_zero (Nat.ne_zero_of_lt (Nat.lt_of_succ_lt_succ hfuel))
      have hrun := line_run h hpath hnew LineTail.last
      rw [List.append_nil] at hrun
      rw [lines_run_step (List.cons_ne_nil _ _) hrun, lines_run_nil]
  | @line line newline rest entries entries' h hnewline h' ih =>
    obtain ⟨fuel, rfl⟩ := Nat.exists_eq_add_one_of_ne_zero (Nat.ne_zero_of_lt hfuel)
    have hpos := List.length_pos_iff.2 hnewline.ne_nil
    rw [List.length_append, List.length_append] at hfuel
    rw [← List.append_assoc] at hnew ⊢
    have hrun : (Document.line document).run (line ++ (newline ++ rest)) =
        some ({ document with entries := document.entries ++ entries }, rest) :=
      line_run h hpath (hnew.sublist ((List.sublist_append_left _ _).map _)) (LineTail.line hnewline)
    have hne : line ++ (newline ++ rest) ≠ [] := by
      simp [hnewline.ne_nil]
    have hrest : (Document.lines { document with entries := document.entries ++ entries } fuel).run rest =
        some ({ document with entries := document.entries ++ entries ++ entries' }, []) :=
      ih (by omega) hpath hnew
    rw [List.append_assoc, lines_run_step hne hrun, hrest]

theorem IsLine.head_ne (h : IsLine text entries) (htail : LineTail tail rest) :
    (text ++ tail).head? ≠ some '\ufeff' := by
  intro heq
  cases h with
  | blank hspaces hcomment =>
    rw [List.append_assoc] at heq
    rcases delimited_append hspaces hcomment htail _ heq with h | h | h | h | h <;> cases h
  | @setting before key gap gap' word after comment name value hbefore hkey =>
    cases before with
    | nil =>
      simp only [List.nil_append, List.append_assoc] at heq
      exact hkey.head_ne (by decide) _ heq
    | cons c before =>
      obtain rfl : c = '\ufeff' := by simpa using heq
      rcases hbefore _ List.mem_cons_self with h | h <;> cases h

/-- No document of the grammar starts with a byte order mark, so none is cut off. -/
theorem IsLines.head_ne (h : IsLines text entries) : text.head? ≠ some '\ufeff' := by
  cases h with
  | last h =>
    have hne := h.head_ne LineTail.last
    rwa [List.append_nil] at hne
  | line h hnewline =>
    rw [List.append_assoc]
    exact h.head_ne (LineTail.line hnewline)

/-- A document of the grammar is read, and gives what its lines set in their order. -/
theorem parse_document {text : String} (h : IsDocument text.toList entries) : parse text = some entries := by
  have hrun : (Document.lines {} (text.toList.length + 1)).run text.toList = some ({ entries }, []) :=
    lines_run h.lines (Nat.lt_succ_self _) rfl h.nodup
  unfold parse
  dsimp only
  rw [if_neg h.lines.head_ne, hrun]
  rfl

end SecureElement.Toml
