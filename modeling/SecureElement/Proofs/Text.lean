import Mathlib.Data.List.TakeWhile
import SecureElement.Text
/-!
# Lines, blanks and fields

What cutting a text at line feeds and at blanks comes to, in terms of what was put between them.
-/

namespace SecureElement.Text

variable {text before after gap first second word : List Char} {c : Char}

/-- Pieces without line feeds that are written one to a line are the lines, but for a carriage return at the
end. -/
theorem lines_flatMap (pieces : List (List Char)) (h : ∀ piece ∈ pieces, '\n' ∉ piece) :
    lines (pieces.flatMap (· ++ ['\n'])) = pieces.map dropReturn := by
  have hsplit : (pieces.flatMap (· ++ ['\n'])).splitOnP (· == '\n') = pieces ++ [[]] := by
    induction pieces with
    | nil => rfl
    | cons piece pieces ih =>
      have hfirst : ∀ c ∈ piece, (c == '\n') = false := by
        intro c hc
        rw [beq_eq_false_iff_ne]
        intro h
        subst h
        exact h piece List.mem_cons_self hc
      rw [List.flatMap_cons, List.append_assoc, List.cons_append, List.nil_append,
        List.splitOnP_append_cons_of_forall_mem hfirst _ (by rfl),
        ih fun piece' hmem => h piece' (List.mem_cons_of_mem _ hmem), List.cons_append]
  rw [lines, hsplit, List.dropLast_concat, List.getLast?_concat]
  simp

def Blanks (text : List Char) : Prop :=
  ∀ c ∈ text, isBlank c = true

structure IsWord (word : List Char) : Prop where
  ne_nil : word ≠ []
  solid : ∀ c ∈ word, isBlank c = false

theorem blanks_nil : Blanks [] :=
  fun _ hc => absurd hc List.not_mem_nil

theorem Blanks.append (h : Blanks before) (h' : Blanks after) : Blanks (before ++ after) := by
  intro c hc
  exact (List.mem_append.1 hc).elim (h c) (h' c)

theorem IsWord.append (h : IsWord first) (h' : ∀ c ∈ second, isBlank c = false) : IsWord (first ++ second) where
  ne_nil := List.append_ne_nil_of_left_ne_nil h.ne_nil _
  solid c hc := (List.mem_append.1 hc).elim (h.solid c) (h' c)

/-! ## Blanks at the ends -/

theorem trim_blanks_append (h : Blanks before) : trim (before ++ text) = trim text := by
  rw [trim, List.dropWhile_append_of_pos h, trim]

theorem trim_cons (hc : isBlank c = false) (rest : List Char) : ∃ inner, trim (c :: rest) = c :: inner := by
  unfold trim
  rw [List.dropWhile_cons_of_neg (by simp [hc]), List.reverse_cons, List.dropWhile_append]
  split
  · exact ⟨[], by simp [hc]⟩
  · exact ⟨(rest.reverse.dropWhile isBlank).reverse, by rw [List.reverse_concat]⟩

theorem blanks_takeWhile (text : List Char) : Blanks (text.takeWhile isBlank) :=
  fun _ hc => List.mem_takeWhile_imp hc

theorem exists_trim (text : List Char) :
    ∃ before after, text = before ++ trim text ++ after ∧ Blanks before ∧ Blanks after := by
  let inner := text.dropWhile isBlank
  refine ⟨text.takeWhile isBlank, (inner.reverse.takeWhile isBlank).reverse, ?_, blanks_takeWhile _, ?_⟩
  · have hinner : trim text ++ (inner.reverse.takeWhile isBlank).reverse = inner := by
      rw [trim, ← List.reverse_append, List.takeWhile_append_dropWhile, List.reverse_reverse]
    rw [List.append_assoc, hinner, List.takeWhile_append_dropWhile]
  · intro c hc
    exact blanks_takeWhile _ c (List.mem_reverse.1 hc)

/-! ## Fields -/

theorem fields_append_cons (hc : isBlank c = true) (first rest : List Char) :
    fields (first ++ c :: rest) = fields first ++ fields rest := by
  unfold fields
  rw [List.splitOnP_append_cons first rest hc, List.filter_append]

theorem fields_blanks_append (h : Blanks before) : fields (before ++ text) = fields text := by
  induction before with
  | nil => rfl
  | cons c before ih =>
    calc fields (c :: before ++ text)
      _ = fields [] ++ fields (before ++ text) := fields_append_cons (h c List.mem_cons_self) [] _
      _ = fields text := ih fun d hd => h d (List.mem_cons_of_mem _ hd)

theorem fields_blanks (h : Blanks text) : fields text = [] := by
  rw [← List.append_nil text, fields_blanks_append h]
  rfl

theorem fields_append_blanks (h : Blanks after) : fields (text ++ after) = fields text := by
  cases after with
  | nil => rw [List.append_nil]
  | cons c after =>
    rw [fields_append_cons (h c List.mem_cons_self),
      fields_blanks fun d hd => h d (List.mem_cons_of_mem _ hd), List.append_nil]

theorem fields_trim (text : List Char) : fields (trim text) = fields text := by
  obtain ⟨before, after, htext, hbefore, hafter⟩ := exists_trim text
  calc fields (trim text)
    _ = fields (before ++ trim text ++ after) := by
      rw [fields_append_blanks hafter, fields_blanks_append hbefore]
    _ = fields text := by rw [← htext]

theorem IsWord.fields_append_cons (h : IsWord word) (hc : isBlank c = true) (rest : List Char) :
    fields (word ++ c :: rest) = word :: fields rest := by
  unfold fields
  rw [List.splitOnP_append_cons_of_forall_mem h.solid c hc, List.filter_cons_of_pos (by simp [h.ne_nil])]

theorem IsWord.fields_eq (h : IsWord word) : fields word = [word] := by
  unfold fields
  rw [List.splitOnP_eq_singleton h.solid, List.filter_cons_of_pos (by simp [h.ne_nil])]
  rfl

theorem dropWhile_head {p : Char → Bool} {rest : List Char} (h : text.dropWhile p = c :: rest) : p c = false := by
  have hhead := List.head?_dropWhile_not p text
  rw [h] at hhead
  exact hhead

theorem exists_word (h : ¬ Blanks text) :
    ∃ before word rest, text = before ++ word ++ rest ∧ Blanks before ∧ IsWord word ∧
      (rest = [] ∨ ∃ c rest', rest = c :: rest' ∧ isBlank c = true) := by
  have hne : text.dropWhile isBlank ≠ [] := fun hnil => h (List.dropWhile_eq_nil_iff.1 hnil)
  obtain ⟨c, tail, htail⟩ := List.exists_cons_of_ne_nil hne
  have hc : isBlank c = false := dropWhile_head htail
  refine ⟨text.takeWhile isBlank, c :: tail.takeWhile (!isBlank ·), tail.dropWhile (!isBlank ·), ?_,
    blanks_takeWhile _, ⟨List.cons_ne_nil _ _, ?_⟩, ?_⟩
  · rw [List.append_assoc, List.cons_append, List.takeWhile_append_dropWhile, ← htail,
      List.takeWhile_append_dropWhile]
  · intro d hd
    rcases List.mem_cons.1 hd with rfl | hd
    · exact hc
    · simpa using List.mem_takeWhile_imp hd
  · cases hrest : tail.dropWhile (!isBlank ·) with
    | nil => exact .inl rfl
    | cons d rest => exact .inr ⟨d, rest, rfl, by simpa using dropWhile_head hrest⟩

theorem blanks_of_fields (h : fields text = []) : Blanks text := by
  by_contra hblanks
  obtain ⟨before, word, rest, rfl, hbefore, hword, hrest⟩ := exists_word hblanks
  rw [List.append_assoc, fields_blanks_append hbefore] at h
  rcases hrest with rfl | ⟨c, rest, rfl, hc⟩
  · rw [List.append_nil, hword.fields_eq] at h
    cases h
  · rw [hword.fields_append_cons hc] at h
    cases h

theorem exists_of_fields_cons {others : List (List Char)} (h : fields text = first :: others) :
    ∃ before rest, text = before ++ first ++ rest ∧ Blanks before ∧ IsWord first ∧ fields rest = others ∧
      (rest = [] ∨ ∃ c rest', rest = c :: rest' ∧ isBlank c = true) := by
  have hblanks : ¬ Blanks text := by
    intro hblanks
    rw [fields_blanks hblanks] at h
    cases h
  obtain ⟨before, word, rest, rfl, hbefore, hword, hrest⟩ := exists_word hblanks
  rw [List.append_assoc, fields_blanks_append hbefore] at h
  rcases hrest with rfl | ⟨c, rest, rfl, hc⟩
  · rw [List.append_nil, hword.fields_eq] at h
    obtain ⟨rfl, rfl⟩ := List.cons.inj h
    exact ⟨before, [], rfl, hbefore, hword, rfl, .inl rfl⟩
  · rw [hword.fields_append_cons hc] at h
    obtain ⟨rfl, rfl⟩ := List.cons.inj h
    refine ⟨before, c :: rest, rfl, hbefore, hword, ?_, .inr ⟨c, rest, rfl, hc⟩⟩
    exact fields_blanks_append fun d hd => by rwa [List.mem_singleton.1 hd]

/-- A text has two fields if it is two words with blanks between them and around them. -/
theorem fields_eq_pair_iff : fields text = [first, second] ↔
    ∃ before gap after, text = before ++ first ++ gap ++ second ++ after ∧ Blanks before ∧ Blanks gap ∧
      gap ≠ [] ∧ Blanks after ∧ IsWord first ∧ IsWord second := by
  constructor
  · intro h
    obtain ⟨before, rest, rfl, hbefore, hfirst, hrest, hstart⟩ := exists_of_fields_cons h
    obtain ⟨gap, after, rfl, hgap, hsecond, hafter, _⟩ := exists_of_fields_cons hrest
    refine ⟨before, gap, after, by simp, hbefore, hgap, ?_, blanks_of_fields hafter, hfirst, hsecond⟩
    -- without a gap the second word would go on where the first one has ended
    rintro rfl
    obtain ⟨d, second, rfl⟩ := List.exists_cons_of_ne_nil hsecond.ne_nil
    rcases hstart with hnil | ⟨c, rest, hcons, hc⟩
    · cases hnil
    · obtain ⟨rfl, _⟩ := List.cons.inj hcons
      rw [hsecond.solid d List.mem_cons_self] at hc
      cases hc
  · rintro ⟨before, gap, after, rfl, hbefore, hgap, hne, hafter, hfirst, hsecond⟩
    obtain ⟨c, gap, rfl⟩ := List.exists_cons_of_ne_nil hne
    rw [fields_append_blanks hafter, List.append_assoc, List.append_assoc, fields_blanks_append hbefore,
      List.cons_append, hfirst.fields_append_cons (hgap c List.mem_cons_self),
      fields_blanks_append fun d hd => hgap d (List.mem_cons_of_mem _ hd), hsecond.fields_eq]

end SecureElement.Text
