import SecureElement.Proofs.Hex
import SecureElement.Proofs.Toml.Strings
/-!
# What is written is a string

Whatever a text holds, the style that is chosen for it can hold it, and what is written in that style is a string of the
grammar that stands for this text.
-/

namespace SecureElement.Toml

open Numeral (IsDigit valueOf)

variable {style : Style} {chars written text : List Char} {c : Char} {run : Nat}

/-! ## Escapes -/

theorem isEscape_control (h : isControl c = true) :
    ∃ sequence, "\\u00".toList ++ (Hex.encodeUpper [c.toNat.toUInt8]).toList = '\\' :: sequence ∧
      IsEscape sequence c := by
  have hsmall : c.toNat < 128 := by
    simp only [isControl, Bool.or_eq_true, Bool.and_eq_true, decide_eq_true_eq, beq_iff_eq] at h
    omega
  have hall : ∀ n < 128, valueOf 16 ('0' :: '0' :: Hex.upperDigits n.toUInt8) = n ∧
      ('0' :: '0' :: Hex.upperDigits n.toUInt8).all (fun d => decide (IsDigit 16 d)) = true := by
    decide +kernel
  obtain ⟨hvalue, hdigits⟩ := hall c.toNat hsmall
  refine ⟨'u' :: '0' :: '0' :: Hex.upperDigits c.toNat.toUInt8, ?_, ?_⟩
  · rw [Hex.toList_encodeUpper, List.flatMap_singleton]
    rfl
  · have hscalar : (valueOf 16 ('0' :: '0' :: Hex.upperDigits c.toNat.toUInt8)).isValidChar := by
      rw [hvalue]
      exact .inl (by omega)
    have hescape := IsEscape.scalar (.inl ⟨rfl, rfl⟩)
      (fun d hd => of_decide_eq_true (List.all_eq_true.1 hdigits d hd)) hscalar
    rwa [hvalue, Char.ofNat_toNat] at hescape

theorem escapeChar_cases (multiline : Bool) (c : Char) :
    (∃ sequence, escapeChar multiline c = '\\' :: sequence ∧ IsEscape sequence c) ∨
      (multiline = true ∧ c = '\n' ∧ escapeChar multiline c = ['\n']) ∨
        (escapeChar multiline c = [c] ∧ IsPlain c ∧ c ≠ '\\') := by
  unfold escapeChar
  split_ifs with hbackspace htab hline hlines hform hreturn hbackslash hcontrol
  · exact .inl ⟨_, rfl, hbackspace ▸ .backspace⟩
  · exact .inl ⟨_, rfl, htab ▸ .tab⟩
  · exact .inr (.inl ⟨hlines, hline, rfl⟩)
  · exact .inl ⟨_, rfl, hline ▸ .lineFeed⟩
  · exact .inl ⟨_, rfl, hform ▸ .formFeed⟩
  · exact .inl ⟨_, rfl, hreturn ▸ .carriageReturn⟩
  · exact .inl ⟨_, rfl, hbackslash ▸ .backslash⟩
  · exact .inl (isEscape_control hcontrol)
  · refine .inr (.inr ⟨rfl, .inr ?_, hbackslash⟩)
    simp only [isControl, htab, hline, Bool.or_eq_true, Bool.and_eq_true, decide_eq_true_eq, beq_iff_eq, bne_iff_ne,
      ne_eq, not_false_eq_true, and_true, not_or, Nat.not_lt] at hcontrol
    exact hcontrol

theorem isBody_escapeText (hstyle : style = .basic ∨ style = .basicLines) (run : Nat) (chars : List Char) :
    IsBody style run (escapeText style.multiline run chars) chars := by
  have hescapes : style.escapes = true := by rcases hstyle with rfl | rfl <;> rfl
  have hquotes : style.quote = '"' := by rcases hstyle with rfl | rfl <;> rfl
  induction chars generalizing run with
  | nil => exact .nil
  | cons c chars ih =>
    unfold escapeText
    by_cases hc : c = '"'
    · subst hc
      rw [if_pos rfl]
      by_cases hrun : (if style.multiline then 2 else 0) ≤ run
      · rw [if_pos hrun]
        exact .escape hescapes .quote (ih 0)
      · have hlines : style.multiline = true := by
          by_contra hline
          exact hrun (by rw [if_neg hline]; exact Nat.zero_le run)
        rw [if_neg hrun, ← hquotes]
        rw [hlines, if_pos rfl] at hrun
        exact .quote hlines (Nat.lt_of_not_le hrun) (ih (run + 1))
    · rw [if_neg hc]
      rcases escapeChar_cases style.multiline c with ⟨sequence, hwritten, hescape⟩ | ⟨hlines, rfl, hwritten⟩ |
        ⟨hwritten, hplain, hbackslash⟩
      · rw [hwritten]
        exact .escape hescapes hescape (ih 0)
      · rw [hwritten]
        exact .lineEnd hlines .lineFeed (ih 0)
      · rw [hwritten]
        exact .plain hplain (by rwa [hquotes]) (fun _ => hbackslash) (ih 0)

/-! ## Texts without escapes -/

/-- The longest run so far and the one that is going on, with one more character. -/
def extendRun (quote : Char) (runs : Nat × Nat) (c : Char) : Nat × Nat :=
  if c = quote then (max runs.1 (runs.2 + 1), runs.2 + 1) else (runs.1, 0)

theorem longestRun_eq (quote : Char) (chars : List Char) :
    longestRun quote chars = (chars.foldl (extendRun quote) (0, 0)).1 := rfl

theorem le_foldl_extendRun (quote : Char) (chars : List Char) (runs : Nat × Nat) :
    runs.1 ≤ (chars.foldl (extendRun quote) runs).1 := by
  induction chars generalizing runs with
  | nil => exact Nat.le_refl _
  | cons c chars ih =>
    refine Nat.le_trans ?_ (ih (extendRun quote runs c))
    unfold extendRun
    split
    · exact Nat.le_max_left _ _
    · exact Nat.le_refl _

theorem isPlain_of_not_control (h : isControl c = false) (hline : c ≠ '\n') : IsPlain c := by
  by_cases htab : c = '\t'
  · exact .inl htab
  · right
    simp only [isControl, htab, hline, Bool.or_eq_false_iff, Bool.and_eq_false_iff, decide_eq_false_iff_not,
      beq_eq_false_iff_ne, ne_eq, bne_eq_false_iff_eq, or_false, Nat.not_lt] at h
    exact h

theorem isBody_literal (hcontrol : ∀ c ∈ chars, isControl c = false) (hline : ∀ c ∈ chars, c ≠ '\n')
    (hquote : ∀ c ∈ chars, c ≠ '\'') : IsBody .literal 0 chars chars := by
  induction chars with
  | nil => exact .nil
  | cons c chars ih =>
    rw [List.forall_mem_cons] at hcontrol hline hquote
    exact .plain (isPlain_of_not_control hcontrol.1 hline.1) hquote.1 nofun (ih hcontrol.2 hline.2 hquote.2)

/-- Runs of at most two quotes may stand in a literal string over several lines. -/
theorem isBody_literalLines (hcontrol : ∀ c ∈ chars, isControl c = false) {best : Nat}
    (hruns : (chars.foldl (extendRun '\'') (best, run)).1 ≤ 2) : IsBody .literalLines run chars chars := by
  induction chars generalizing best run with
  | nil => exact .nil
  | cons c chars ih =>
    rw [List.forall_mem_cons] at hcontrol
    rw [List.foldl_cons, extendRun] at hruns
    by_cases hc : c = '\''
    · subst hc
      rw [if_pos rfl] at hruns
      have hle := Nat.le_trans (le_foldl_extendRun _ _ _) hruns
      have hrun : run < 2 := by
        have hmax : run + 1 ≤ max best (run + 1) := Nat.le_max_right _ _
        dsimp only at hle
        omega
      exact .quote rfl hrun (ih hcontrol.2 hruns)
    · rw [if_neg hc] at hruns
      have hrest : IsBody .literalLines 0 chars chars := ih hcontrol.2 hruns
      by_cases hline : c = '\n'
      · subst hline
        exact .lineEnd rfl .lineFeed hrest
      · exact .plain (isPlain_of_not_control hcontrol.1 hline) hc nofun hrest

theorem ne_of_longestRun_eq_zero {quote : Char} (h : longestRun quote chars = 0) : ∀ c ∈ chars, c ≠ quote := by
  intro c hc hquote
  subst hquote
  obtain ⟨before, after, rfl⟩ := List.append_of_mem hc
  have hle := le_foldl_extendRun c after (extendRun c (before.foldl (extendRun c) (0, 0)) c)
  rw [longestRun_eq, List.foldl_append, List.foldl_cons] at h
  rw [h, extendRun, if_pos rfl] at hle
  have hmax := Nat.le_max_right (before.foldl (extendRun c) (0, 0)).1 ((before.foldl (extendRun c) (0, 0)).2 + 1)
  dsimp only at hle
  omega

/-! ## Whole strings -/

theorem IsBody.head_not_newline (hquotes : style.Quotes) (h : IsBody style run written text) (hline : '\n' ∉ text) :
    ∀ c ∈ written.head?, c ≠ '\n' ∧ c ≠ '\r' := by
  cases h with
  | nil => simp
  | quote => rcases hquotes with h | h <;> simp [h]
  | plain hc =>
    intro d hd
    obtain rfl := Option.some.inj hd
    constructor <;> rintro rfl <;> exact absurd hc (by simp [IsPlain])
  | escape => simp
  | lineEnd => exact absurd List.mem_cons_self hline
  | join => simp

/-- A text is written without escapes only in a style that can hold it. -/
theorem styleFor_cases (chars : List Char) :
    (styleFor chars = .basic ∨ styleFor chars = .basicLines) ∨
      (styleFor chars = .literal ∧ (∀ c ∈ chars, isControl c = false) ∧ (∀ c ∈ chars, c ≠ '\n') ∧
        longestRun '\'' chars = 0) ∨
      (styleFor chars = .literalLines ∧ (∀ c ∈ chars, isControl c = false) ∧ longestRun '\'' chars ≤ 2) := by
  unfold styleFor
  simp only [Bool.and_eq_true, Bool.not_eq_true', beq_iff_eq, decide_eq_true_eq, List.any_eq_false]
  split_ifs with hbasic hliteral hbasicLines hliteralLines
  · exact .inl (.inl rfl)
  · obtain ⟨⟨hcontrol, hsingle⟩, hlines⟩ := hliteral
    exact .inr (.inl ⟨rfl, fun c hc => Bool.eq_false_iff.2 (hcontrol c hc), hlines, hsingle⟩)
  · exact .inl (.inr rfl)
  · obtain ⟨hcontrol, hsingle⟩ := hliteralLines
    exact .inr (.inr ⟨rfl, fun c hc => Bool.eq_false_iff.2 (hcontrol c hc), hsingle⟩)
  · exact .inl (.inr rfl)
  · exact .inl (.inl rfl)

def bodyOf (chars : List Char) : List Char :=
  if (styleFor chars).escapes then escapeText (styleFor chars).multiline 0 chars else chars

theorem isBody_bodyOf (chars : List Char) : IsBody (styleFor chars) 0 (bodyOf chars) chars := by
  unfold bodyOf
  rcases styleFor_cases chars with hbasic | ⟨hstyle, hcontrol, hlines, hsingle⟩ | ⟨hstyle, hcontrol, hsingle⟩
  · have hescapes : (styleFor chars).escapes = true := by rcases hbasic with h | h <;> rw [h] <;> rfl
    rw [hescapes, if_pos rfl]
    exact isBody_escapeText hbasic 0 chars
  · rw [hstyle]
    exact isBody_literal hcontrol hlines (ne_of_longestRun_eq_zero hsingle)
  · rw [hstyle]
    exact isBody_literalLines hcontrol hsingle

theorem toList_quote (text : String) : (quote text).toList =
    (styleFor text.toList).closing ++
      (if (styleFor text.toList).multiline && text.toList.any (· == '\n') then ['\n'] else []) ++
      bodyOf text.toList ++ (styleFor text.toList).closing := by
  unfold quote
  rw [String.toList_ofList]
  rfl

/-- Every text is written as a string that stands for it. -/
theorem isValue_quote (text : String) : IsValue (quote text).toList (.string text) := by
  have hstyle : (styleFor text.toList = .basic ∨ styleFor text.toList = .literal) ∨
      styleFor text.toList = .basicLines ∨ styleFor text.toList = .literalLines := by
    rcases styleFor_cases text.toList with (h | h) | ⟨h, _⟩ | ⟨h, _⟩
    · exact .inl (.inl h)
    · exact .inr (.inl h)
    · exact .inl (.inr h)
    · exact .inr (.inr h)
  have hbody := isBody_bodyOf text.toList
  rw [toList_quote, ← String.ofList_toList (s := text), String.toList_ofList]
  generalize styleFor text.toList = style at hstyle hbody ⊢
  rcases hstyle with hstyle | hstyle
  · obtain ⟨_, hline⟩ := quotes_of_line hstyle
    rw [Style.closing, hline, Bool.false_and, if_neg Bool.false_ne_true, if_neg Bool.false_ne_true, List.append_nil]
    exact .lineString (.mk hstyle hbody)
  · obtain ⟨hquotes, hlines⟩ := quotes_of_lines hstyle
    rw [Style.closing, hlines, Bool.true_and, if_pos rfl]
    refine .linesString (.mk hstyle ?_ hbody)
    by_cases hany : text.toList.any (· == '\n') = true
    · rw [if_pos hany]
      exact .inl .lineFeed
    · rw [if_neg hany]
      have hline : '\n' ∉ text.toList := fun hmem => hany (List.any_eq_true.2 ⟨'\n', hmem, by simp⟩)
      exact .inr ⟨rfl, hbody.head_not_newline hquotes hline⟩

end SecureElement.Toml
