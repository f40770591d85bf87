import SecureElement.Proofs.Hex
import SecureElement.Proofs.Toml.Grammar
import SecureElement.Toml.Scalar
/-!
# Integers are read as they are written

A word that is an integer is neither a date nor a time nor a number with a fraction, and its value is that of its digits
in its radix.
-/

namespace SecureElement.Toml

open Numeral (IsDigit valueOf digitOf digitValue?)

variable {radix : Nat} {written digits : List Char} {c : Char} {value : Int}

/-! ## Groups of digits -/

theorem isDigit_underscore (h : radix ≤ 16) : ¬ IsDigit radix '_' := by
  rw [Numeral.IsDigit, show digitOf '_' = 16 by decide +kernel]
  omega

theorem IsGroup.mem (h : IsGroup radix written digits) : ∀ c ∈ written, IsDigit radix c ∨ c = '_' := by
  induction h with
  | last hc => simpa using .inl hc
  | digit hc _ ih => exact List.forall_mem_cons.2 ⟨.inl hc, ih⟩
  | underscore hc _ ih => exact List.forall_mem_cons.2 ⟨.inl hc, List.forall_mem_cons.2 ⟨.inr rfl, ih⟩⟩

theorem IsGroup.head (h : IsGroup radix written digits) : ∃ c rest, written = c :: rest ∧ IsDigit radix c := by
  cases h with
  | last hc => exact ⟨_, _, rfl, hc⟩
  | digit hc => exact ⟨_, _, rfl, hc⟩
  | underscore hc => exact ⟨_, _, rfl, hc⟩

def isGroupOfDigits (radix : Nat) (group : List Char) : Bool :=
  !group.isEmpty && group.all fun c => (digitValue? radix c).isSome

theorem isGrouped_eq (radix : Nat) (text : List Char) :
    isGrouped radix text = (text.splitOnP (· == '_')).all (isGroupOfDigits radix) := rfl

theorem isSome_digitValue? (h : radix ≤ 16) (hc : IsDigit radix c) : (digitValue? radix c).isSome = true := by
  rw [Numeral.digitValue?_eq h, if_pos hc]
  rfl

theorem splitOnP_cons_of_isDigit (h : radix ≤ 16) (hc : IsDigit radix c) (text : List Char) :
    ∃ group groups, text.splitOnP (· == '_') = group :: groups ∧
      (c :: text).splitOnP (· == '_') = (c :: group) :: groups := by
  have hne : (c == '_') = false := by
    rw [beq_eq_false_iff_ne]
    rintro rfl
    exact isDigit_underscore h hc
  obtain ⟨group, groups, hgroups⟩ := List.exists_cons_of_ne_nil (List.splitOnP_ne_nil (· == '_') text)
  refine ⟨group, groups, hgroups, ?_⟩
  rw [List.splitOnP_cons_eq_if_modifyHead, hne, if_neg Bool.false_ne_true, hgroups]
  rfl

theorem IsGroup.isGrouped (hradix : radix ≤ 16) (h : IsGroup radix written digits) :
    isGrouped radix written = true := by
  rw [isGrouped_eq]
  induction h with
  | last hc =>
    obtain ⟨group, groups, hgroups, hcons⟩ := splitOnP_cons_of_isDigit hradix hc []
    obtain ⟨rfl, rfl⟩ := List.cons.inj hgroups
    simp [hcons, isGroupOfDigits, isSome_digitValue? hradix hc]
  | @digit c written digits hc h ih =>
    obtain ⟨group, groups, hgroups, hcons⟩ := splitOnP_cons_of_isDigit hradix hc written
    rw [hgroups, List.all_cons, Bool.and_eq_true, isGroupOfDigits, Bool.and_eq_true] at ih
    simp [hcons, isGroupOfDigits, isSome_digitValue? hradix hc, ih.1.2, ih.2]
  | @underscore c written digits hc h ih =>
    obtain ⟨group, groups, hgroups, hcons⟩ := splitOnP_cons_of_isDigit hradix hc ('_' :: written)
    rw [List.splitOnP_cons_eq_if_modifyHead, if_pos (by rfl)] at hgroups
    obtain ⟨rfl, rfl⟩ := List.cons.inj hgroups
    rw [hcons, List.all_cons, ih]
    simp [isGroupOfDigits, isSome_digitValue? hradix hc]

theorem isGrouped_eq_false {letter : Char} (h : digitValue? radix letter = none) (hletter : letter ≠ '_')
    (rest : List Char) : isGrouped radix ('0' :: letter :: rest) = false := by
  obtain ⟨group, groups, hgroups⟩ := List.exists_cons_of_ne_nil (List.splitOnP_ne_nil (· == '_') rest)
  have hne : (letter == '_') = false := beq_eq_false_iff_ne.2 hletter
  rw [isGrouped_eq, List.splitOnP_cons_eq_if_modifyHead, if_neg (by decide), List.splitOnP_cons_eq_if_modifyHead, hne,
    if_neg Bool.false_ne_true, hgroups]
  simp [isGroupOfDigits, h]

/-- One more digit after the value that was read so far; what is no digit is passed over. -/
def addDigit (radix : Nat) (value : Nat) (c : Char) : Nat :=
  match digitValue? radix c with
  | some digit => value * radix + digit
  | none => value

theorem groupedValue_eq (radix : Nat) (text : List Char) :
    groupedValue radix text = text.foldl (addDigit radix) 0 := rfl

theorem addDigit_of_isDigit (h : radix ≤ 16) (hc : IsDigit radix c) (value : Nat) :
    addDigit radix value c = value * radix + digitOf c := by
  rw [addDigit, Numeral.digitValue?_eq h, if_pos hc]

theorem addDigit_underscore (h : radix ≤ 16) (value : Nat) : addDigit radix value '_' = value := by
  rw [addDigit, Numeral.digitValue?_eq h, if_neg (isDigit_underscore h)]

theorem IsGroup.digits_isDigit (h : IsGroup radix written digits) : ∀ c ∈ digits, IsDigit radix c := by
  induction h with
  | last hc => simpa using hc
  | digit hc _ ih => exact List.forall_mem_cons.2 ⟨hc, ih⟩
  | underscore hc _ ih => exact List.forall_mem_cons.2 ⟨hc, ih⟩

theorem IsGroup.groupedValue (hradix : radix ≤ 16) (h : IsGroup radix written digits) :
    groupedValue radix written = valueOf radix digits := by
  have hfold : ∀ start, written.foldl (addDigit radix) start = digits.foldl (addDigit radix) start := by
    induction h with
    | last hc => exact fun _ => rfl
    | digit hc _ ih => exact fun start => ih _
    | underscore hc _ ih =>
      intro start
      rw [List.foldl_cons, List.foldl_cons, addDigit_underscore hradix, List.foldl_cons]
      exact ih _
  rw [groupedValue_eq, hfold,
    Numeral.foldl_eq_valueOf fun value c hc => addDigit_of_isDigit hradix (h.digits_isDigit c hc) value]

theorem IsDecimalGroup.isDecimal (h : IsDecimalGroup written digits) : isDecimal written = true := by
  rw [Toml.isDecimal, h.group.isGrouped (by decide), Bool.true_and, Bool.or_eq_true]
  rcases h.zero with rfl | hhead
  · exact .inl rfl
  · exact .inr (by simpa using hhead)

/-! ## Words that are integers -/

theorem IsRadix.le_sixteen {letter : Char} (h : IsRadix letter radix) : radix ≤ 16 := by
  cases h <;> decide

theorem IsRadix.isGrouped_ten {letter : Char} (h : IsRadix letter radix) (rest : List Char) :
    isGrouped 10 ('0' :: letter :: rest) = false := by
  cases h <;> exact isGrouped_eq_false (by decide) (by decide) rest

theorem IsDecimalGroup.head (h : IsDecimalGroup written digits) : ∃ c rest, written = c :: rest ∧ IsDigit 10 c :=
  h.group.head

theorem IsInteger.mem (h : IsInteger written value) :
    ∀ c ∈ written, c ∈ Hex.digitChars ++ ['_', '+', '-', 'x', 'o'] := by
  have hgroup : ∀ {radix written digits}, radix ≤ 16 → IsGroup radix written digits →
      ∀ c ∈ written, c ∈ Hex.digitChars ++ ['_', '+', '-', 'x', 'o'] := by
    intro radix written digits hradix h c hc
    rcases h.mem c hc with hdigit | rfl
    · exact List.mem_append_left _ (Hex.isDigit_sixteen_iff.1 (Nat.lt_of_lt_of_le hdigit hradix))
    · decide
  cases h with
  | decimal hsign h =>
    rcases hsign with rfl | rfl
    · exact hgroup (by decide) h.group
    · exact List.forall_mem_cons.2 ⟨by decide, hgroup (by decide) h.group⟩
  | negative h => exact List.forall_mem_cons.2 ⟨by decide, hgroup (by decide) h.group⟩
  | radix hradix h =>
    have hrest := hgroup hradix.le_sixteen h
    cases hradix
    all_goals exact List.forall_mem_cons.2 ⟨by decide, List.forall_mem_cons.2 ⟨by decide, hrest⟩⟩

theorem IsInteger.forall_mem {p : Char → Prop} [DecidablePred p] (h : IsInteger written value)
    (hp : (Hex.digitChars ++ ['_', '+', '-', 'x', 'o']).all (p ·) = true) : ∀ c ∈ written, p c :=
  fun c hc => of_decide_eq_true (List.all_eq_true.1 hp c (h.mem c hc))

theorem not_sign_of_isDigit (hc : IsDigit 10 c) : c ≠ '+' ∧ c ≠ '-' := by
  constructor <;> rintro rfl <;> exact absurd hc (by decide +kernel)

theorem IsDecimalGroup.signed_eq (h : IsDecimalGroup written digits) :
    signed written = (false, written) ∧ signed ('+' :: written) = (false, written) ∧
      signed ('-' :: written) = (true, written) := by
  obtain ⟨c, rest, rfl, hc⟩ := h.head
  obtain ⟨hplus, hminus⟩ := not_sign_of_isDigit hc
  refine ⟨?_, rfl, rfl⟩
  unfold Toml.signed
  split <;> simp_all

/-- The forms of an integer, seen from behind its sign. -/
inductive IsInteger.Form : List Char → Int → Prop where
  | decimal {word written digits : List Char} (negative : Bool) (hsigned : signed word = (negative, written))
      (h : IsDecimalGroup written digits) :
      IsInteger.Form word (if negative then -(valueOf 10 digits : Int) else valueOf 10 digits)
  | radix {letter : Char} {radix : Nat} {written digits : List Char} (hradix : IsRadix letter radix)
      (h : IsGroup radix written digits) : IsInteger.Form ('0' :: letter :: written) (valueOf radix digits)

theorem IsInteger.form (h : IsInteger written value) : IsInteger.Form written value := by
  cases h with
  | decimal hsign h =>
    rcases hsign with rfl | rfl
    · exact .decimal false h.signed_eq.1 h
    · exact .decimal false h.signed_eq.2.1 h
  | negative h => exact .decimal true h.signed_eq.2.2 h
  | radix hradix h => exact .radix hradix h

theorem IsDecimalGroup.not_radix {word : List Char} {negative : Bool} (h : IsDecimalGroup written digits)
    (hsigned : signed word = (negative, written)) {letter : Char} (hradix : IsRadix letter radix) (rest : List Char) :
    word ≠ '0' :: letter :: rest := by
  rintro rfl
  obtain rfl : '0' :: letter :: rest = written := congrArg Prod.snd hsigned
  have hgrouped := h.group.isGrouped (by decide)
  rw [hradix.isGrouped_ten] at hgrouped
  cases hgrouped

def inRange? (value : Int) : Option Int := do
  guard (Int64.minValue.toInt ≤ value ∧ value ≤ Int64.maxValue.toInt)
  return value

theorem inRange?_eq (hlow : -2 ^ 63 ≤ value) (hhigh : value < 2 ^ 63) : inRange? value = some value := by
  have hmin : Int64.minValue.toInt = -2 ^ 63 := by decide
  have hmax : Int64.maxValue.toInt = 2 ^ 63 - 1 := by decide
  rw [inRange?, guard, if_pos ⟨by omega, by omega⟩]
  rfl

theorem integer?_radix {letter : Char} (hradix : IsRadix letter radix) (word : List Char) :
    integer? ('0' :: letter :: word) = if isGrouped radix word then inRange? (groupedValue radix word) else none := by
  cases hradix <;> rfl

theorem integer?_eq (h : IsInteger written value) (hlow : -2 ^ 63 ≤ value) (hhigh : value < 2 ^ 63) :
    integer? written = some value := by
  cases h.form with
  | @radix letter radix written digits hradix hgroup =>
    rw [integer?_radix hradix, if_pos (hgroup.isGrouped hradix.le_sixteen), hgroup.groupedValue hradix.le_sixteen]
    exact inRange?_eq hlow hhigh
  | @decimal word written digits negative hsigned hgroup =>
    unfold integer?
    split
    · exact absurd rfl (hgroup.not_radix hsigned .hexadecimal _)
    · exact absurd rfl (hgroup.not_radix hsigned .octal _)
    · exact absurd rfl (hgroup.not_radix hsigned .binary _)
    · rw [hsigned]
      dsimp only
      rw [if_pos hgroup.isDecimal, hgroup.group.groupedValue (by decide)]
      exact inRange?_eq hlow hhigh

/-! ## No dates and no fractions -/

theorem splitOnP_eq_singleton_of_ne {mark : Char} {word : List Char} (h : ∀ c ∈ word, c ≠ mark) :
    word.splitOnP (· == mark) = [word] :=
  List.splitOnP_eq_singleton fun c hc => beq_eq_false_iff_ne.2 (h c hc)

theorem IsDecimalGroup.not_minus (h : IsDecimalGroup written digits) : ∀ c ∈ written, c ≠ '-' := by
  intro c hc
  rcases h.group.mem c hc with hdigit | rfl
  · exact (not_sign_of_isDigit hdigit).2
  · decide

/-- Between dashes an integer has one part, or two of which the first is empty. -/
theorem IsInteger.not_isDate (h : IsInteger written value) : isDate written = false := by
  have hparts : written.splitOnP (· == '-') = [written] ∨ ∃ rest, written.splitOnP (· == '-') = [[], rest] := by
    cases h with
    | @decimal sign written digits hsign h =>
      refine .inl (splitOnP_eq_singleton_of_ne ?_)
      rcases hsign with rfl | rfl
      · exact h.not_minus
      · exact List.forall_mem_cons.2 ⟨by decide, h.not_minus⟩
    | @negative written digits h =>
      refine .inr ⟨written, ?_⟩
      rw [List.splitOnP_cons_eq_if_modifyHead, if_pos (by rfl), splitOnP_eq_singleton_of_ne h.not_minus]
    | @radix letter radix written digits hradix h =>
      have hwritten : ∀ c ∈ written, c ≠ '-' := by
        intro c hc
        rcases h.mem c hc with hdigit | rfl
        · rintro rfl
          exact absurd (Nat.lt_of_lt_of_le hdigit hradix.le_sixteen) (by decide +kernel)
        · decide
      refine .inl (splitOnP_eq_singleton_of_ne ?_)
      cases hradix
      all_goals exact List.forall_mem_cons.2 ⟨by decide, List.forall_mem_cons.2 ⟨by decide, hwritten⟩⟩
  unfold isDate
  rcases hparts with hparts | ⟨rest, hparts⟩ <;> rw [hparts]

theorem IsInteger.not_isDateTime (h : IsInteger written value) : isDateTime written = false := by
  have htime : isTime written = false := by
    unfold isTime
    rw [splitOnP_eq_singleton_of_ne (h.forall_mem (p := (· ≠ ':')) (by decide))]
  have hmark : (written[10]?).any (fun c => c == 'T' || c == 't') = false := by
    rw [Option.any_eq_false]
    intro c hc
    have hne := h.forall_mem (p := fun c => (c == 'T' || c == 't') = false) (by decide) c (List.mem_of_getElem? hc)
    simpa using hne
  rw [isDateTime, h.not_isDate, htime, hmark]
  rfl

/-- Nothing stands behind a point or behind the mark of an exponent where there is none. -/
theorem isDecimalFloat_eq_false {word unsigned : List Char} {negative : Bool}
    (hsigned : signed word = (negative, unsigned))
    (h : (∀ c ∈ unsigned, c ≠ 'e' ∧ c ≠ 'E' ∧ c ≠ '.') ∨ ∃ letter radix rest, unsigned = '0' :: letter :: rest ∧
      IsRadix letter radix) : isDecimalFloat word = false := by
  unfold isDecimalFloat
  rw [hsigned]
  dsimp only
  rcases h with hplain | ⟨letter, radix, rest, rfl, hradix⟩
  · have hmark : ∀ c ∈ unsigned, (!(c == 'e' || c == 'E')) = true := by
      intro c hc
      simp [(hplain c hc).1, (hplain c hc).2.1]
    have hpoint : ∀ c ∈ unsigned, (c != '.') = true := by
      intro c hc
      simp [(hplain c hc).2.2]
    rw [List.takeWhile_eq_self_iff.2 hmark, List.dropWhile_eq_nil_iff.2 hmark, List.dropWhile_eq_nil_iff.2 hpoint]
    rfl
  · have hstart : ∀ rest : List Char, isDecimal ('0' :: letter :: rest) = false := by
      intro rest
      rw [isDecimal, hradix.isGrouped_ten, Bool.false_and]
    have hwhole : isDecimal
        ((('0' :: letter :: rest).takeWhile (fun c => !(c == 'e' || c == 'E'))).takeWhile (· != '.')) = false := by
      cases hradix <;> exact hstart _
    rw [hwhole, Bool.and_false, Bool.false_and, Bool.false_and, Bool.false_and]

theorem IsInteger.not_isFloat (h : IsInteger written value) : isFloat written = false := by
  -- what stands behind the sign starts with a digit, and no digit starts a word for infinity or no number
  have hfloat : ∀ {negative : Bool} {c : Char} {rest : List Char}, signed written = (negative, c :: rest) →
      c ≠ 'i' ∧ c ≠ 'n' → isDecimalFloat written = false → isFloat written = false := by
    intro negative c rest hsigned hc hdecimal
    have hinf : (c :: rest == "inf".toList) = false := beq_eq_false_iff_ne.2 fun heq => hc.1 (List.cons.inj heq).1
    have hnan : (c :: rest == "nan".toList) = false := beq_eq_false_iff_ne.2 fun heq => hc.2 (List.cons.inj heq).1
    rw [isFloat, hsigned]
    dsimp only
    rw [hinf, hnan, hdecimal]
    rfl
  cases h.form with
  | @decimal word written digits negative hsigned hgroup =>
    have hplain : ∀ c ∈ written, c ≠ 'e' ∧ c ≠ 'E' ∧ c ≠ '.' := by
      intro c hc
      rcases hgroup.group.mem c hc with hdigit | rfl
      · refine ⟨?_, ?_, ?_⟩ <;> rintro rfl <;> exact absurd hdigit (by decide +kernel)
      · decide
    obtain ⟨c, rest, rfl, hc⟩ := hgroup.head
    refine hfloat hsigned ?_ (isDecimalFloat_eq_false hsigned (.inl hplain))
    constructor <;> rintro rfl <;> exact absurd hc (by decide +kernel)
  | @radix letter radix written digits hradix hgroup =>
    exact hfloat rfl (by decide) (isDecimalFloat_eq_false rfl (.inr ⟨letter, radix, written, rfl, hradix⟩))

/-- A word that is an integer stands for it. -/
theorem scalar?_integer (h : IsInteger written value) (hlow : -2 ^ 63 ≤ value) (hhigh : value < 2 ^ 63) :
    scalar? written = some (.integer value) := by
  have htrue : written ≠ "true".toList := by
    rintro rfl
    exact absurd (h.mem 't' (by decide)) (by decide)
  have hfalse : written ≠ "false".toList := by
    rintro rfl
    exact absurd (h.mem 'l' (by decide)) (by decide)
  unfold scalar?
  rw [if_neg htrue, if_neg hfalse, if_neg (by rw [h.not_isDateTime]; exact Bool.false_ne_true),
    if_neg (by rw [h.not_isFloat]; exact Bool.false_ne_true), integer?_eq h hlow hhigh]
  rfl

/-! ## Writing -/

theorem toDigits_isDigit {n : Nat} : ∀ c ∈ Nat.toDigits 10 n, IsDigit 10 c := fun _ hc =>
  Numeral.isDigit_ten_iff.2 (Nat.isDigit_of_mem_toDigits (by decide) (by decide) hc)

theorem valueOf_toDigits (n : Nat) : valueOf 10 (Nat.toDigits 10 n) = n := by
  have hvalue : Nat.ofDigitChars 10 (Nat.toDigits 10 n) 0 = valueOf 10 (Nat.toDigits 10 n) :=
    Numeral.foldl_eq_valueOf fun value c hc => by
      rw [Numeral.digitOf_of_isDigit (Numeral.isDigit_ten_iff.1 (toDigits_isDigit c hc)), Nat.mul_comm]
  exact hvalue.symm.trans (Nat.ofDigitChars_toDigits (by decide) (by decide))

theorem isGroup_of_digits (hne : digits ≠ []) (h : ∀ c ∈ digits, IsDigit radix c) : IsGroup radix digits digits := by
  induction digits with
  | nil => exact absurd rfl hne
  | cons c digits ih =>
    rw [List.forall_mem_cons] at h
    cases digits with
    | nil => exact .last h.1
    | cons d digits => exact .digit h.1 (ih (List.cons_ne_nil d digits) h.2)

theorem toDigits_zero_or_head (n : Nat) : Nat.toDigits 10 n = ['0'] ∨ (Nat.toDigits 10 n).head? ≠ some '0' := by
  induction n using Nat.strong_induction_on with
  | _ n ih =>
    rw [Nat.toDigits_eq_if (by decide)]
    by_cases hn : n < 10
    · have hall : ∀ d < 10, [d.digitChar] = ['0'] ∨ [d.digitChar].head? ≠ some '0' := by
        decide
      rw [if_pos hn]
      exact hall n hn
    · rw [if_neg hn]
      right
      rcases ih (n / 10) (by omega) with hzero | hhead
      · have hvalue := valueOf_toDigits (n / 10)
        rw [hzero, show valueOf 10 ['0'] = 0 by decide +kernel] at hvalue
        omega
      · rwa [List.head?_append_of_ne_nil _ Nat.toDigits_ne_nil]

theorem isValue_toString {n : Nat} (h : n < 2 ^ 63) : IsValue (toString n).toList (.integer n) := by
  have hwritten : (toString n).toList = Nat.toDigits 10 n := by simp
  have hinteger : IsInteger (Nat.toDigits 10 n) (valueOf 10 (Nat.toDigits 10 n)) :=
    .decimal (.inl rfl) ⟨isGroup_of_digits Nat.toDigits_ne_nil toDigits_isDigit, toDigits_zero_or_head n⟩
  rw [valueOf_toDigits] at hinteger
  rw [hwritten]
  exact .integer hinteger (by omega) (by omega)

end SecureElement.Toml
