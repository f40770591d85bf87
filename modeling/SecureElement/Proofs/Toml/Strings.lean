import SecureElement.Proofs.Toml.Grammar
/-!
# Strings are read as they are written

Every string that the grammar has is read to its end, and gives the text that it is written for. What decides where a
string over several lines ends is that no more than two of its quotes stand in a row inside it.
-/

namespace SecureElement.Toml

open Numeral (IsDigit valueOf digitOf)

variable {style : Style} {rest written text spaces newline fill sequence digits : List Char} {c : Char} {fuel run : Nat}

/-! ## Characters -/

theorem isTextChar_iff : isTextChar c = true ↔ IsPlain c := by
  simp [isTextChar, IsPlain]

theorem isSpace_iff : isSpace c = true ↔ c = ' ' ∨ c = '\t' := by
  simp [isSpace]

theorem takeWhile_append_of_stops {p : Char → Bool} (h : ∀ c ∈ text, p c = true)
    (hrest : ∀ c ∈ rest.head?, p c = false) : (text ++ rest).takeWhile p = text := by
  rw [List.takeWhile_append_of_pos h]
  cases rest with
  | nil => simp
  | cons c rest => rw [List.takeWhile_cons_of_neg (by simp [hrest c rfl]), List.append_nil]

theorem dropWhile_append_of_stops {p : Char → Bool} (h : ∀ c ∈ text, p c = true)
    (hrest : ∀ c ∈ rest.head?, p c = false) : (text ++ rest).dropWhile p = rest := by
  rw [List.dropWhile_append_of_pos h]
  cases rest with
  | nil => rfl
  | cons c rest => rw [List.dropWhile_cons_of_neg (by simp [hrest c rfl])]

/-! ## Line ends -/

theorem IsNewline.ne_nil (h : IsNewline newline) : newline ≠ [] := by
  cases h <;> exact List.cons_ne_nil _ _

theorem newline?_newline (h : IsNewline newline) (rest : List Char) : newline? (newline ++ rest) = some rest := by
  cases h <;> rfl

theorem newline?_eq_none (h : ∀ c ∈ text.head?, c ≠ '\n' ∧ c ≠ '\r') : newline? text = none := by
  unfold newline?
  split
  · exact absurd rfl (h '\n' rfl).1
  · exact absurd rfl (h '\r' rfl).2
  · rfl

theorem newline?_getD {start : List Char} (h : IsNewline start ∨ start = [] ∧ ∀ c ∈ text.head?, c ≠ '\n' ∧ c ≠ '\r') :
    (newline? (start ++ text)).getD (start ++ text) = text := by
  rcases h with h | ⟨rfl, h⟩
  · rw [newline?_newline h, Option.getD_some]
  · rw [List.nil_append, newline?_eq_none h, Option.getD_none]

theorem Solid.isSpace_eq_false (h : Solid rest) : ∀ c ∈ rest.head?, isSpace c = false := by
  intro c hc
  obtain ⟨hblank, htab, _⟩ := h c hc
  simp [isSpace, hblank, htab]

theorem Solid.newline?_eq_none (h : Solid rest) : newline? rest = none :=
  Toml.newline?_eq_none fun c hc => (h c hc).2.2

theorem IsNewline.head_not_space (h : IsNewline newline) (rest : List Char) :
    ∀ c ∈ (newline ++ rest).head?, isSpace c = false := by
  cases h <;> simp [isSpace]

theorem IsSpaces.all_isSpace (h : IsSpaces spaces) : ∀ c ∈ spaces, isSpace c = true :=
  fun c hc => isSpace_iff.2 (h c hc)

theorem dropFill_fill (h : IsFill fill) (hsolid : Solid rest) (hfuel : fill.length < fuel) :
    dropFill fuel (fill ++ rest) = rest := by
  induction h generalizing fuel with
  | spaces hspaces =>
    cases fuel with
    | zero => exact absurd hfuel (Nat.not_lt_zero _)
    | succ fuel =>
      rw [dropFill, dropWhile_append_of_stops hspaces.all_isSpace hsolid.isSpace_eq_false]
      simp only [hsolid.newline?_eq_none]
  | @line spaces newline fill hspaces hnewline hfill ih =>
    cases fuel with
    | zero => exact absurd hfuel (Nat.not_lt_zero _)
    | succ fuel =>
      have hlength : fill.length < fuel := by
        have hpos := List.length_pos_iff.2 hnewline.ne_nil
        simp only [List.length_append] at hfuel
        omega
      rw [List.append_assoc, List.append_assoc, dropFill,
        dropWhile_append_of_stops hspaces.all_isSpace (hnewline.head_not_space _)]
      simp only [newline?_newline hnewline]
      exact ih hlength

theorem lineJoin?_join (hspaces : IsSpaces spaces) (hnewline : IsNewline newline) (hfill : IsFill fill)
    (hsolid : Solid rest) : lineJoin? (spaces ++ newline ++ fill ++ rest) = some rest := by
  rw [lineJoin?, List.append_assoc, List.append_assoc,
    dropWhile_append_of_stops hspaces.all_isSpace (hnewline.head_not_space _), newline?_newline hnewline,
    Option.map_some, dropFill_fill hfill hsolid (by rw [List.length_append]; omega)]

/-! ## Escapes -/

theorem mapM_digitValue? (h : ∀ c ∈ digits, IsDigit 16 c) :
    digits.mapM (Numeral.digitValue? 16) = some (digits.map digitOf) := by
  induction digits with
  | nil => rfl
  | cons c digits ih =>
    rw [List.mapM_cons, ih fun d hd => h d (List.mem_cons_of_mem _ hd), Numeral.digitValue?_eq (by decide),
      if_pos (h c List.mem_cons_self)]
    rfl

theorem scalarOfDigits?_eq (hdigits : ∀ c ∈ digits, IsDigit 16 c) (hscalar : (valueOf 16 digits).isValidChar) :
    scalarOfDigits? digits = some (Char.ofNat (valueOf 16 digits)) := by
  unfold scalarOfDigits?
  rw [mapM_digitValue? hdigits]
  dsimp only [bind, Option.bind]
  rw [List.foldl_map, Numeral.foldl_eq_valueOf fun _ _ _ => rfl, if_pos]
  rcases hscalar with h | ⟨hlow, hhigh⟩
  · exact .inl h
  · exact .inr ⟨by omega, hhigh⟩

theorem readEscape_escape (h : IsEscape sequence c) (rest : List Char) :
    readEscape (sequence ++ rest) = some (c, rest) := by
  cases h with
  | @scalar letter digits hlength hdigits hscalar =>
    have hread : ∀ count, digits.length = count →
        (if (digits ++ rest).length < count then none
          else (scalarOfDigits? ((digits ++ rest).take count)).map (·, (digits ++ rest).drop count)) =
            some (Char.ofNat (valueOf 16 digits), rest) := by
      rintro count rfl
      rw [if_neg (by simp), List.take_left, List.drop_left, scalarOfDigits?_eq hdigits hscalar]
      rfl
    rcases hlength with ⟨rfl, hlength⟩ | ⟨rfl, hlength⟩
    · exact hread 4 hlength
    · exact hread 8 hlength
  | _ => rfl

theorem IsEscape.lineJoin?_eq_none (h : IsEscape sequence c) (rest : List Char) :
    lineJoin? (sequence ++ rest) = none := by
  have hsolid : Solid (sequence ++ rest) := by
    cases h with
    | scalar hlength => rcases hlength with ⟨rfl, _⟩ | ⟨rfl, _⟩ <;> simp [Solid]
    | _ => simp [Solid]
  have hspaces : (sequence ++ rest).dropWhile isSpace = sequence ++ rest :=
    dropWhile_append_of_stops (List.forall_mem_nil _) hsolid.isSpace_eq_false
  rw [lineJoin?, hspaces, hsolid.newline?_eq_none, Option.map_none]

/-! ## The end of a string -/

def Style.closing (style : Style) : List Char :=
  List.replicate (if style.multiline then 3 else 1) style.quote

/-- One of the two characters that delimit strings. -/
def Style.Quotes (style : Style) : Prop :=
  style.quote = '"' ∨ style.quote = '\''

theorem Style.Quotes.ne (h : style.Quotes) (hc : c ≠ '"' ∧ c ≠ '\'') : c ≠ style.quote := by
  rcases h with h | h
  · rw [h]
    exact hc.1
  · rw [h]
    exact hc.2

theorem quotes_of_line (h : style = .basic ∨ style = .literal) : style.Quotes ∧ style.multiline = false := by
  rcases h with rfl | rfl
  · exact ⟨.inl rfl, rfl⟩
  · exact ⟨.inr rfl, rfl⟩

theorem quotes_of_lines (h : style = .basicLines ∨ style = .literalLines) : style.Quotes ∧ style.multiline = true := by
  rcases h with rfl | rfl
  · exact ⟨.inl rfl, rfl⟩
  · exact ⟨.inr rfl, rfl⟩

theorem closes_eq_false (h : rest.head? ≠ some style.quote) : style.closes rest = false := by
  unfold Style.closes
  cases rest with
  | nil => split <;> simp
  | cons c rest =>
    have hne : c ≠ style.quote := by simpa using h
    split <;> simp [hne]

theorem IsBody.of_quote_cons (hquotes : style.Quotes) (h : IsBody style run (style.quote :: written) text) :
    style.multiline = true ∧ run < 2 ∧ ∃ text', text = style.quote :: text' ∧ IsBody style (run + 1) written text' := by
  have hbackslash : '\\' ≠ style.quote := hquotes.ne (by decide)
  generalize hwritten : style.quote :: written = whole at h
  cases h with
  | nil => cases hwritten
  | quote hlines hrun h =>
    obtain ⟨_, rfl⟩ := List.cons.inj hwritten
    exact ⟨hlines, hrun, _, rfl, h⟩
  | plain _ hquote => exact absurd (List.cons.inj hwritten).1.symm hquote
  | escape => exact absurd (List.cons.inj hwritten).1.symm hbackslash
  | lineEnd _ hnewline =>
    cases hnewline with
    | lineFeed => exact absurd (List.cons.inj hwritten).1.symm (hquotes.ne (by decide))
    | carriageReturn => exact absurd (List.cons.inj hwritten).1.symm (hquotes.ne (by decide))
  | join => exact absurd (List.cons.inj hwritten).1.symm hbackslash

/-- Where three quotes stand, at most two more before the end of the string are part of it. -/
theorem IsBody.quotes_of_closes (hquotes : style.Quotes) (hlines : style.multiline = true)
    (h : IsBody style run written text) (hcloses : style.closes (written ++ style.closing ++ rest) = true) :
    ∃ count ≤ 2, written = List.replicate count style.quote ∧ text = List.replicate count style.quote := by
  have htake : (written ++ style.closing ++ rest).take 3 = [style.quote, style.quote, style.quote] := by
    simpa [Style.closes, hlines] using hcloses
  have hnil : ∀ {run text}, IsBody style run [] text → text = [] := by
    intro run text h
    generalize hwritten : [] = whole at h
    cases h with
    | nil => rfl
    | lineEnd _ hnewline => cases hnewline <;> cases hwritten
    | _ => cases hwritten
  -- the body begins with quotes up to its end, and after the second of them none follows
  match written with
  | [] => exact ⟨0, by omega, rfl, hnil h⟩
  | a :: tail =>
    obtain rfl : a = style.quote := by simpa using (List.cons.inj htake).1
    obtain ⟨_, hrun, text', rfl, hfirst⟩ := h.of_quote_cons hquotes
    match tail with
    | [] => exact ⟨1, by omega, rfl, congrArg _ (hnil hfirst)⟩
    | b :: tail =>
      obtain rfl : b = style.quote := by simpa using (List.cons.inj (List.cons.inj htake).2).1
      obtain ⟨_, _, text'', rfl, hsecond⟩ := hfirst.of_quote_cons hquotes
      match tail with
      | [] => exact ⟨2, by omega, rfl, congrArg (_ :: _ :: ·) (hnil hsecond)⟩
      | d :: tail =>
        obtain rfl : d = style.quote := by simpa using (List.cons.inj (List.cons.inj (List.cons.inj htake).2).2).1
        obtain ⟨_, hthird, _⟩ := hsecond.of_quote_cons hquotes
        omega

theorem closingQuotes_replicate {quote : Char} {count : Nat} (hcount : count ≤ 2) (hrest : rest.head? ≠ some quote) :
    closingQuotes quote (List.replicate count quote ++ rest) = (List.replicate count quote, rest) := by
  have hhead : ∀ c rest', rest = c :: rest' → c ≠ quote := by
    rintro c rest' rfl
    simpa using hrest
  match count, rest with
  | 0, [] => rfl
  | 0, [a] => simp [closingQuotes, hhead a [] rfl]
  | 0, a :: b :: rest => simp [closingQuotes, hhead a _ rfl]
  | 1, [] => simp [closingQuotes]
  | 1, a :: rest => simp [closingQuotes, hhead a _ rfl]
  | 2, rest => simp [closingQuotes, List.replicate]

/-! ## Reading -/

def putBefore (c : Char) (read : List Char × List Char) : List Char × List Char :=
  (c :: read.1, read.2)

theorem readBody_of_closes (hcloses : style.closes text = true) : readBody style (fuel + 1) text =
    if style.multiline then some (closingQuotes style.quote (text.drop 3)) else some ([], text.drop 1) := by
  conv_lhs => unfold readBody
  rw [if_pos hcloses]

theorem readBody_cons (hcloses : style.closes (c :: rest) = false) : readBody style (fuel + 1) (c :: rest) =
    if style.escapes = true ∧ c = '\\' then
      (if style.multiline then lineJoin? rest else none).elim
        ((readEscape rest).bind fun read => (readBody style fuel read.2).map (putBefore read.1)) (readBody style fuel)
    else if isTextChar c then (readBody style fuel rest).map (putBefore c)
    else if style.multiline then
      (newline? (c :: rest)).bind fun rest => (readBody style fuel rest).map (putBefore '\n')
    else none := by
  conv_lhs => unfold readBody
  rw [if_neg (by simp [hcloses])]
  dsimp only
  congr 1
  · cases if style.multiline then lineJoin? rest else none with
    | some rest => rfl
    | none =>
      cases readEscape rest with
      | none => rfl
      | some read => exact Option.map_eq_bind.symm
  · congr 1
    · exact Option.map_eq_bind.symm
    · congr 1
      cases newline? (c :: rest) with
      | none => rfl
      | some rest => exact Option.map_eq_bind.symm

theorem readBody_closing (hrest : style.multiline = true → rest.head? ≠ some style.quote) :
    readBody style (fuel + 1) (style.closing ++ rest) = some ([], rest) := by
  have hcloses : style.closes (style.closing ++ rest) = true := by
    cases hlines : style.multiline <;> simp [Style.closes, Style.closing, hlines, List.replicate]
  rw [readBody_of_closes hcloses]
  cases hlines : style.multiline with
  | false => simp [Style.closing, hlines]
  | true =>
    have hdrop : (style.closing ++ rest).drop 3 = rest := by simp [Style.closing, hlines, List.replicate]
    rw [if_pos rfl, hdrop]
    exact congrArg some (closingQuotes_replicate (Nat.zero_le 2) (hrest hlines))

theorem readBody_quotes (hlines : style.multiline = true) {count : Nat} (hcount : count ≤ 2)
    (hrest : rest.head? ≠ some style.quote) :
    readBody style (fuel + 1) (List.replicate count style.quote ++ style.closing ++ rest) =
      some (List.replicate count style.quote, rest) := by
  have hcommute : List.replicate count style.quote ++ style.closing =
      [style.quote, style.quote, style.quote] ++ List.replicate count style.quote := by
    rw [Style.closing, hlines, if_pos rfl, ← List.replicate_add, Nat.add_comm, List.replicate_add]
    rfl
  have hcloses : style.closes ([style.quote, style.quote, style.quote] ++ List.replicate count style.quote ++ rest) =
      true := by
    simp [Style.closes, hlines]
  rw [hcommute, readBody_of_closes hcloses, if_pos hlines]
  exact congrArg some (closingQuotes_replicate hcount hrest)

theorem readBody_plain (hcloses : style.closes (c :: rest) = false) (hc : IsPlain c)
    (hescape : style.escapes = true → c ≠ '\\') :
    readBody style (fuel + 1) (c :: rest) = (readBody style fuel rest).map (putBefore c) := by
  rw [readBody_cons hcloses, if_neg fun h => hescape h.1 h.2, if_pos (isTextChar_iff.2 hc)]

theorem readBody_escape (hcloses : style.closes ('\\' :: (sequence ++ rest)) = false) (hescapes : style.escapes = true)
    (hc : IsEscape sequence c) :
    readBody style (fuel + 1) ('\\' :: (sequence ++ rest)) = (readBody style fuel rest).map (putBefore c) := by
  rw [readBody_cons hcloses, if_pos ⟨hescapes, rfl⟩, hc.lineJoin?_eq_none, ite_self, Option.elim_none,
    readEscape_escape hc, Option.bind_some]

theorem readBody_join (hcloses : style.closes ('\\' :: text) = false) (hescapes : style.escapes = true)
    (hlines : style.multiline = true) (hjoin : lineJoin? text = some rest) :
    readBody style (fuel + 1) ('\\' :: text) = readBody style fuel rest := by
  rw [readBody_cons hcloses, if_pos ⟨hescapes, rfl⟩, if_pos hlines, hjoin, Option.elim_some]

theorem readBody_newline (hcloses : style.closes (newline ++ rest) = false) (hlines : style.multiline = true)
    (hnewline : IsNewline newline) :
    readBody style (fuel + 1) (newline ++ rest) = (readBody style fuel rest).map (putBefore '\n') := by
  have hread : newline? (newline ++ rest) = some rest := newline?_newline hnewline rest
  cases hnewline with
  | lineFeed =>
    rw [List.singleton_append] at hcloses hread ⊢
    rw [readBody_cons hcloses, if_neg (by simp), if_neg (by decide), if_pos hlines, hread]
    rfl
  | carriageReturn =>
    rw [List.cons_append, List.singleton_append] at hcloses hread ⊢
    rw [readBody_cons hcloses, if_neg (by simp), if_neg (by decide), if_pos hlines, hread]
    rfl

/-- What stands between quotes is read to the closing ones. -/
theorem readBody_body (hquotes : style.Quotes) (hrest : style.multiline = true → rest.head? ≠ some style.quote)
    (h : IsBody style run written text) (hfuel : written.length < fuel) :
    readBody style fuel (written ++ style.closing ++ rest) = some (text, rest) := by
  have hbackslash : '\\' ≠ style.quote := hquotes.ne (by decide)
  induction h generalizing fuel with
  | nil =>
    obtain ⟨fuel, rfl⟩ := Nat.exists_eq_add_one_of_ne_zero (Nat.ne_zero_of_lt hfuel)
    exact readBody_closing hrest
  | @quote run written text hlines hrun h ih =>
    obtain ⟨fuel, rfl⟩ := Nat.exists_eq_add_one_of_ne_zero (Nat.ne_zero_of_lt hfuel)
    by_cases hcloses : style.closes (style.quote :: written ++ style.closing ++ rest) = true
    · obtain ⟨count, hcount, hwritten, htext⟩ := (IsBody.quote hlines hrun h).quotes_of_closes hquotes hlines hcloses
      rw [hwritten, htext]
      exact readBody_quotes hlines hcount (hrest hlines)
    · have hplain : IsPlain style.quote := by rcases hquotes with h | h <;> rw [h] <;> simp [IsPlain]
      rw [List.cons_append, List.cons_append] at hcloses ⊢
      rw [readBody_plain (Bool.not_eq_true _ ▸ hcloses) hplain (fun _ => hbackslash.symm),
        ih (Nat.lt_of_succ_lt_succ hfuel)]
      rfl
  | @plain run c written text hc hquote hescape h ih =>
    obtain ⟨fuel, rfl⟩ := Nat.exists_eq_add_one_of_ne_zero (Nat.ne_zero_of_lt hfuel)
    rw [List.cons_append, List.cons_append, readBody_plain (closes_eq_false (by simpa using hquote)) hc hescape,
      ih (Nat.lt_of_succ_lt_succ hfuel)]
    rfl
  | @escape run c sequence written text hescapes hc h ih =>
    obtain ⟨fuel, rfl⟩ := Nat.exists_eq_add_one_of_ne_zero (Nat.ne_zero_of_lt hfuel)
    have hlength : written.length < fuel := by
      simp only [List.length_cons, List.length_append] at hfuel
      omega
    rw [List.cons_append, List.cons_append, List.append_assoc, List.append_assoc,
      readBody_escape (closes_eq_false (by simpa using hbackslash)) hescapes hc, ← List.append_assoc, ih hlength]
    rfl
  | @lineEnd run newline written text hlines hnewline h ih =>
    obtain ⟨fuel, rfl⟩ := Nat.exists_eq_add_one_of_ne_zero (Nat.ne_zero_of_lt hfuel)
    have hlength : written.length < fuel := by
      have hpos := List.length_pos_iff.2 hnewline.ne_nil
      simp only [List.length_append] at hfuel
      omega
    have hcloses : ∀ rest, style.closes (newline ++ rest) = false := by
      intro rest
      apply closes_eq_false
      cases hnewline with
      | lineFeed => simpa using hquotes.ne (c := '\n') (by decide)
      | carriageReturn => simpa using hquotes.ne (c := '\r') (by decide)
    rw [List.append_assoc, List.append_assoc, readBody_newline (hcloses _) hlines hnewline, ← List.append_assoc,
      ih hlength]
    rfl
  | @join run spaces newline fill written text hlines hescapes hspaces hnewline hfill hsolid h ih =>
    obtain ⟨fuel, rfl⟩ := Nat.exists_eq_add_one_of_ne_zero (Nat.ne_zero_of_lt hfuel)
    have hlength : written.length < fuel := by
      simp only [List.length_cons, List.length_append] at hfuel
      omega
    -- a string that ends here goes on with its closing quotes, which are no blanks either
    have hsolid' : Solid (written ++ (style.closing ++ rest)) := by
      cases written with
      | nil =>
        intro c hc
        obtain rfl : style.quote = c := by simpa [Style.closing, hlines, List.replicate] using hc
        rcases hquotes with h | h <;> rw [h] <;> decide
      | cons c written => exact hsolid
    rw [List.cons_append, List.cons_append, List.append_assoc, List.append_assoc,
      readBody_join (closes_eq_false (by simpa using hbackslash)) hescapes hlines
        (lineJoin?_join hspaces hnewline hfill hsolid'), ← List.append_assoc, ih hlength]

/-! ## Whole strings -/

theorem readStyle_line (hquotes : style.Quotes) (hline : style.multiline = false) (h : IsBody style 0 written text)
    (rest : List Char) :
    readStyle style (style.quote :: written ++ [style.quote] ++ rest) = some (String.ofList text, rest) := by
  have hread : readBody style ((written ++ [style.quote] ++ rest).length + 1) (written ++ [style.quote] ++ rest) =
      some (text, rest) := by
    have hclosing : style.closing = [style.quote] := by simp [Style.closing, hline]
    rw [← hclosing]
    exact readBody_body hquotes (fun hlines => absurd hlines (by simp [hline])) h
      (by simp only [List.length_append]; omega)
  unfold readStyle
  rw [hline]
  exact congrArg (Option.map _) hread

theorem readStyle_lines (hquotes : style.Quotes) (hlines : style.multiline = true) {start : List Char}
    (hstart : IsNewline start ∨ start = [] ∧ ∀ c ∈ written.head?, c ≠ '\n' ∧ c ≠ '\r')
    (h : IsBody style 0 written text) (hrest : rest.head? ≠ some style.quote) :
    readStyle style (List.replicate 3 style.quote ++ start ++ written ++ List.replicate 3 style.quote ++ rest) =
      some (String.ofList text, rest) := by
  have hclosing : style.closing = List.replicate 3 style.quote := by rw [Style.closing, if_pos hlines]
  have hdrop : (List.replicate 3 style.quote ++ start ++ written ++ List.replicate 3 style.quote ++ rest).drop 3 =
      start ++ (written ++ style.closing ++ rest) := by
    simp [hclosing]
  have hbody : IsNewline start ∨ start = [] ∧ ∀ c ∈ (written ++ style.closing ++ rest).head?, c ≠ '\n' ∧ c ≠ '\r' := by
    refine hstart.imp_right (And.imp_right fun hhead => ?_)
    cases written with
    | nil =>
      rw [hclosing]
      rcases hquotes with h | h <;> simp [h, List.replicate]
    | cons c written => exact hhead
  have hread := readBody_body hquotes (fun _ => hrest) h
    (show written.length < (written ++ style.closing ++ rest).length + 1 by simp only [List.length_append]; omega)
  unfold readStyle
  rw [if_pos hlines]
  dsimp only
  rw [hdrop, newline?_getD hbody, hread]
  rfl

theorem readString_basic (h : ∀ tail, text ≠ '"' :: '"' :: tail) :
    readString ('"' :: text) = readStyle .basic ('"' :: text) := by
  unfold readString
  split <;> simp_all

theorem readString_literal (h : ∀ tail, text ≠ '\'' :: '\'' :: tail) :
    readString ('\'' :: text) = readStyle .literal ('\'' :: text) := by
  unfold readString
  split <;> simp_all

theorem readString_line (h : IsLineString written text) {rest : List Char}
    (hrest : ∀ c ∈ rest.head?, c ≠ '"' ∧ c ≠ '\'') :
    readString (written ++ rest) = some (String.ofList text, rest) := by
  cases h with
  | @mk style written text hstyle h =>
    obtain ⟨hquotes, hline⟩ := quotes_of_line hstyle
    -- a second quote ends an empty string, and no third follows it
    have hsecond : ∀ tail, written ++ [style.quote] ++ rest ≠ style.quote :: style.quote :: tail := by
      intro tail heq
      match written with
      | [] =>
        have hcons : rest = style.quote :: tail := (List.cons.inj heq).2
        exact hquotes.ne (hrest style.quote (by rw [hcons]; rfl)) rfl
      | c :: written =>
        rw [(List.cons.inj heq).1] at h
        rw [(h.of_quote_cons hquotes).1] at hline
        cases hline
    have hread := readStyle_line hquotes hline h rest
    rcases hstyle with rfl | rfl
    · exact (readString_basic hsecond).trans hread
    · exact (readString_literal hsecond).trans hread

theorem readString_lines (h : IsLinesString written text) {rest : List Char}
    (hrest : ∀ c ∈ rest.head?, c ≠ '"' ∧ c ≠ '\'') :
    readString (written ++ rest) = some (String.ofList text, rest) := by
  cases h with
  | @mk style start written text hstyle hstart h =>
    obtain ⟨hquotes, hlines⟩ := quotes_of_lines hstyle
    have hread := readStyle_lines hquotes hlines hstart h fun hquote => hquotes.ne (hrest _ hquote) rfl
    rcases hstyle with rfl | rfl <;> exact hread

theorem readLineString_line (h : IsLineString written text) (rest : List Char) :
    readLineString (written ++ rest) = some (String.ofList text, rest) := by
  cases h with
  | mk hstyle h =>
    have hread := readStyle_line (quotes_of_line hstyle).1 (quotes_of_line hstyle).2 h rest
    rcases hstyle with rfl | rfl <;> exact hread

end SecureElement.Toml
