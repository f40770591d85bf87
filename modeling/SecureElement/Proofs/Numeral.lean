import Mathlib
import SecureElement.Numeral
/-!
# Numerals

A numeral is read if it is one or more digits, with or without a plus sign before them, and their value is within the
limit. The value never falls while digits are read, so every other text is refused for the first of its characters that
is no digit or takes the value over the limit.
-/

namespace SecureElement.Numeral

/-! ## Digits -/

/-- What a digit of either case stands for. What is no digit has no place among the digits and gets their number. -/
def digitOf (c : Char) : Nat :=
  "0123456789abcdef".toList.idxOf c.toLower

def IsDigit (radix : Nat) (c : Char) : Prop :=
  digitOf c < radix

instance (radix : Nat) (c : Char) : Decidable (IsDigit radix c) :=
  inferInstanceAs (Decidable (_ < _))

def valueOf (radix : Nat) (digits : List Char) : Nat :=
  Nat.ofDigits radix (digits.map digitOf).reverse

variable {radix limit value : Nat} {digits text before after : List Char} {c : Char} {error : Error}

@[simp] theorem valueOf_nil (radix : Nat) : valueOf radix [] = 0 := rfl

theorem valueOf_concat (radix : Nat) (digits : List Char) (c : Char) :
    valueOf radix (digits ++ [c]) = valueOf radix digits * radix + digitOf c := by
  rw [valueOf, List.map_append, List.reverse_append, List.map_singleton, List.reverse_singleton, List.singleton_append,
    Nat.ofDigits_cons, valueOf]
  ring

theorem foldl_eq_valueOf {addDigit : Nat → Char → Nat}
    (h : ∀ value, ∀ c ∈ digits, addDigit value c = value * radix + digitOf c) :
    digits.foldl addDigit 0 = valueOf radix digits := by
  induction digits using List.reverseRecOn with
  | nil => rfl
  | append_singleton digits c ih =>
    rw [List.foldl_append, ih fun value d hd => h value d (List.mem_append_left _ hd), valueOf_concat]
    exact h _ c (by simp)

theorem digitOf_eq_sixteen (h : 128 ≤ c.toNat) : digitOf c = 16 := by
  have hlower : c.toLower = c := by
    have hlimit : ¬ c.val ≤ 'Z'.val := by
      rw [UInt32.le_iff_toNat_le, show 'Z'.val.toNat = 90 from rfl]
      change ¬ c.toNat ≤ 90
      omega
    rw [Char.toLower, dif_neg fun hupper => hlimit hupper.2]
  have hsmall : "0123456789abcdef".toList.all (·.toNat < 128) = true := by
    decide +kernel
  have hnot : c ∉ "0123456789abcdef".toList := fun hmem =>
    absurd (of_decide_eq_true (List.all_eq_true.1 hsmall c hmem)) (Nat.not_lt.2 h)
  rw [digitOf, hlower, List.idxOf_eq_length hnot]
  decide +kernel

theorem digitValue?_eq (h : radix ≤ 16) (c : Char) :
    digitValue? radix c = if IsDigit radix c then some (digitOf c) else none := by
  by_cases hascii : c.toNat < 128
  · have hall : ∀ n < 128, ∀ radix ≤ 16, digitValue? radix (Char.ofNat n) =
        if digitOf (Char.ofNat n) < radix then some (digitOf (Char.ofNat n)) else none := by
      decide +kernel
    have hc := hall c.toNat hascii radix h
    rwa [Char.ofNat_toNat] at hc
  · have hdigit : ¬ IsDigit radix c := by
      rw [IsDigit, digitOf_eq_sixteen (Nat.not_lt.1 hascii)]
      omega
    rw [if_neg hdigit]
    unfold digitValue?
    dsimp only
    split_ifs <;> first | rfl | omega

/-! ## Reading on -/

structure Within (radix limit : Nat) (text : List Char) : Prop where
  digits : ∀ c ∈ text, IsDigit radix c
  le : valueOf radix text ≤ limit

/-- The first character at which a text stops being digits or at which its value exceeds the limit, and which of the two
it is. -/
inductive StopsAt (radix limit : Nat) : List Char → Error → Prop where
  | stray {before after : List Char} {c : Char} (hbefore : Within radix limit before) (hc : ¬ IsDigit radix c) :
      StopsAt radix limit (before ++ c :: after) .invalidDigit
  | excess {before after : List Char} {c : Char} (hbefore : Within radix limit before) (hc : IsDigit radix c)
      (hvalue : limit < valueOf radix (before ++ [c])) : StopsAt radix limit (before ++ c :: after) .tooLarge

theorem within_nil (radix limit : Nat) : Within radix limit [] :=
  ⟨by simp, Nat.zero_le limit⟩

theorem Within.concat (h : Within radix limit digits) (hc : IsDigit radix c)
    (hle : valueOf radix (digits ++ [c]) ≤ limit) : Within radix limit (digits ++ [c]) where
  digits := by
    intro d hd
    rcases List.mem_append.1 hd with hd | hd
    · exact h.digits d hd
    · rwa [List.mem_singleton.1 hd]
  le := hle

theorem Within.of_concat (hradix : 0 < radix) (h : Within radix limit (digits ++ [c])) :
    Within radix limit digits ∧ IsDigit radix c := by
  have hle := h.le
  rw [valueOf_concat] at hle
  have hgrows : valueOf radix digits ≤ valueOf radix digits * radix := Nat.le_mul_of_pos_right _ hradix
  exact ⟨⟨fun d hd => h.digits d (List.mem_append_left _ hd), by omega⟩, h.digits c (by simp)⟩

theorem accumulate_cons_of_not_isDigit (h : radix ≤ 16) (hc : ¬ IsDigit radix c) (start : Nat) (rest : List Char) :
    accumulate radix limit start (c :: rest) = .error .invalidDigit := by
  rw [accumulate, digitValue?_eq h, if_neg hc]

theorem accumulate_cons_of_isDigit (h : radix ≤ 16) (hc : IsDigit radix c) (digits rest : List Char) :
    accumulate radix limit (valueOf radix digits) (c :: rest) =
      if valueOf radix (digits ++ [c]) ≤ limit then accumulate radix limit (valueOf radix (digits ++ [c])) rest
      else .error .tooLarge := by
  rw [accumulate, digitValue?_eq h, if_pos hc, valueOf_concat]

theorem accumulate_append (h : radix ≤ 16) (hradix : 0 < radix) (hbefore : Within radix limit before)
    (rest : List Char) :
    accumulate radix limit 0 (before ++ rest) = accumulate radix limit (valueOf radix before) rest := by
  induction before using List.reverseRecOn generalizing rest with
  | nil => rfl
  | append_singleton before c ih =>
    obtain ⟨hwithin, hc⟩ := hbefore.of_concat hradix
    rw [List.append_assoc, List.singleton_append, ih hwithin, accumulate_cons_of_isDigit h hc, if_pos hbefore.le]

theorem within_or_stopsAt (before rest : List Char) (hbefore : Within radix limit before) :
    Within radix limit (before ++ rest) ∨ ∃ error, StopsAt radix limit (before ++ rest) error := by
  induction rest generalizing before with
  | nil => exact .inl (by rwa [List.append_nil])
  | cons c rest ih =>
    by_cases hc : IsDigit radix c
    · by_cases hle : valueOf radix (before ++ [c]) ≤ limit
      · rw [List.append_cons]
        exact ih (before ++ [c]) (hbefore.concat hc hle)
      · exact .inr ⟨_, .excess hbefore hc (Nat.lt_of_not_le hle)⟩
    · exact .inr ⟨_, .stray hbefore hc⟩

theorem accumulate_of_within (h : radix ≤ 16) (hradix : 0 < radix) (hdigits : Within radix limit digits) :
    accumulate radix limit 0 digits = .ok (valueOf radix digits) := by
  have happend := accumulate_append h hradix hdigits []
  rwa [List.append_nil] at happend

theorem accumulate_of_stopsAt (h : radix ≤ 16) (hradix : 0 < radix) (hstops : StopsAt radix limit digits error) :
    accumulate radix limit 0 digits = .error error := by
  cases hstops with
  | stray hbefore hc => rw [accumulate_append h hradix hbefore, accumulate_cons_of_not_isDigit h hc]
  | excess hbefore hc hvalue =>
    rw [accumulate_append h hradix hbefore, accumulate_cons_of_isDigit h hc, if_neg (Nat.not_le.2 hvalue)]

theorem accumulate_eq_ok_iff (h : radix ≤ 16) (hradix : 0 < radix) :
    accumulate radix limit 0 digits = .ok value ↔ Within radix limit digits ∧ valueOf radix digits = value := by
  constructor
  · intro hok
    rcases within_or_stopsAt [] digits (within_nil radix limit) with hwithin | ⟨error, hstops⟩
    · rw [List.nil_append] at hwithin
      rw [accumulate_of_within h hradix hwithin] at hok
      exact ⟨hwithin, Except.ok.inj hok⟩
    · rw [List.nil_append] at hstops
      rw [accumulate_of_stopsAt h hradix hstops] at hok
      cases hok
  · rintro ⟨hwithin, rfl⟩
    exact accumulate_of_within h hradix hwithin

theorem accumulate_eq_error_iff (h : radix ≤ 16) (hradix : 0 < radix) :
    accumulate radix limit 0 digits = .error error ↔ StopsAt radix limit digits error := by
  constructor
  · intro herror
    rcases within_or_stopsAt [] digits (within_nil radix limit) with hwithin | ⟨error', hstops⟩
    · rw [List.nil_append] at hwithin
      rw [accumulate_of_within h hradix hwithin] at herror
      cases herror
    · rw [List.nil_append] at hstops
      rw [accumulate_of_stopsAt h hradix hstops] at herror
      exact Except.error.inj herror ▸ hstops
  · exact accumulate_of_stopsAt h hradix

/-! ## Whole numerals -/

def unsigned : List Char → List Char
  | '+' :: digits => digits
  | digits => digits

/-- One or more digits, maybe after a plus sign, and their value. -/
structure Spells (radix : Nat) (text : List Char) (value : Nat) : Prop where
  ne_nil : unsigned text ≠ []
  digits : ∀ c ∈ unsigned text, IsDigit radix c
  value_eq : valueOf radix (unsigned text) = value

inductive Refused (radix limit : Nat) : List Char → Error → Prop where
  | empty : Refused radix limit [] .empty
  | loneSign {sign : Char} (hsign : sign = '+' ∨ sign = '-') : Refused radix limit [sign] .invalidDigit
  | stops {text : List Char} {error : Error} (h : StopsAt radix limit (unsigned text) error) :
      Refused radix limit text error

theorem StopsAt.ne_nil (h : StopsAt radix limit digits error) : digits ≠ [] := by
  cases h <;> simp

theorem parse_eq_accumulate (hne : unsigned text ≠ []) :
    parse radix limit text = accumulate radix limit 0 (unsigned text) := by
  unfold parse unsigned at *
  split <;> simp_all

theorem unsigned_eq_nil_iff : unsigned text = [] ↔ text = [] ∨ text = ['+'] := by
  unfold unsigned
  split <;> simp_all

theorem parse_eq_ok_iff_spells (h : radix ≤ 16) (hradix : 0 < radix) :
    parse radix limit text = .ok value ↔ Spells radix text value ∧ value ≤ limit := by
  by_cases hne : unsigned text = []
  · have hparse : ∀ value, parse radix limit text ≠ .ok value := by
      rcases unsigned_eq_nil_iff.1 hne with rfl | rfl <;> exact nofun
    exact ⟨fun hok => absurd hok (hparse value), fun hspells => absurd hne hspells.1.ne_nil⟩
  · rw [parse_eq_accumulate hne, accumulate_eq_ok_iff h hradix]
    constructor
    · rintro ⟨hwithin, rfl⟩
      exact ⟨⟨hne, hwithin.digits, rfl⟩, hwithin.le⟩
    · rintro ⟨hspells, hle⟩
      exact ⟨⟨hspells.digits, hspells.value_eq ▸ hle⟩, hspells.value_eq⟩

theorem parse_eq_error_iff (h : radix ≤ 16) (hradix : 0 < radix) :
    parse radix limit text = .error error ↔ Refused radix limit text error := by
  by_cases hne : unsigned text = []
  · constructor
    · intro herror
      rcases unsigned_eq_nil_iff.1 hne with rfl | rfl
      · obtain rfl := Except.error.inj herror
        exact .empty
      · obtain rfl := Except.error.inj herror
        exact .loneSign (.inl rfl)
    · intro hrefused
      cases hrefused with
      | empty => rfl
      | loneSign hsign =>
        rcases hsign with rfl | rfl
        · rfl
        · exact absurd hne (by decide)
      | stops hstops => exact absurd hne hstops.ne_nil
  · rw [parse_eq_accumulate hne, accumulate_eq_error_iff h hradix]
    constructor
    · exact .stops
    · intro hrefused
      cases hrefused with
      | empty => exact absurd rfl hne
      | loneSign hsign =>
        rcases hsign with rfl | rfl
        · exact absurd rfl hne
        · -- a minus sign is one more character that is no digit
          have hminus : ¬ IsDigit radix '-' := by
            rw [IsDigit, show digitOf '-' = 16 by decide]
            omega
          exact .stray (within_nil radix limit) hminus
      | stops hstops => exact hstops

theorem Spells.unique {value' : Nat} (h : Spells radix text value) (h' : Spells radix text value') : value = value' :=
  h.value_eq.symm.trans h'.value_eq

theorem Spells.not_refused (h : radix ≤ 16) (hradix : 0 < radix) (hspells : Spells radix text value)
    (hle : value ≤ limit) : ¬ Refused radix limit text error := by
  rw [← parse_eq_error_iff h hradix, (parse_eq_ok_iff_spells h hradix).2 ⟨hspells, hle⟩]
  exact nofun

/-! ## Decimal numerals -/

structure IsDecimal (digits : List Char) : Prop where
  ne_nil : digits ≠ []
  digits : ∀ c ∈ digits, c.isDigit = true

def decimalFrom (value : Nat) (digits : List Char) : Nat :=
  digits.foldl (fun value c => value * 10 + (c.toNat - '0'.toNat)) value

def decimalValue (digits : List Char) : Nat :=
  decimalFrom 0 digits

inductive Denotes : List Char → Nat → Prop where
  | plain {digits : List Char} (h : IsDecimal digits) : Denotes digits (decimalValue digits)
  | plus {digits : List Char} (h : IsDecimal digits) : Denotes ('+' :: digits) (decimalValue digits)

theorem digitValue?_ten (c : Char) :
    digitValue? 10 c = if c.isDigit then some (c.toNat - '0'.toNat) else none := by
  have hdigit : c.isDigit = true ↔ 48 ≤ c.toNat ∧ c.toNat ≤ 57 := by
    simp [Char.isDigit, UInt32.le_iff_toNat_le]
  have hzero : '0'.toNat = 48 := rfl
  unfold digitValue?
  by_cases h : c.isDigit
  · have hrange := hdigit.1 h
    simp only [h, hrange, and_self, if_true, hzero]
    rw [if_pos (by omega)]
  · have hrange := mt hdigit.2 h
    simp only [h, hrange, if_false]
    split_ifs <;> first | rfl | omega

theorem isDigit_ten_iff : IsDigit 10 c ↔ c.isDigit = true := by
  have heq := (digitValue?_eq (by decide : 10 ≤ 16) c).symm.trans (digitValue?_ten c)
  split_ifs at heq <;> simp_all

theorem digitOf_of_isDigit (h : c.isDigit = true) : digitOf c = c.toNat - '0'.toNat := by
  have heq := (digitValue?_eq (by decide : 10 ≤ 16) c).symm.trans (digitValue?_ten c)
  rw [if_pos (isDigit_ten_iff.2 h), if_pos h] at heq
  exact Option.some.inj heq

theorem decimalValue_eq (h : ∀ c ∈ digits, c.isDigit = true) : decimalValue digits = valueOf 10 digits :=
  foldl_eq_valueOf fun value c hc => by rw [digitOf_of_isDigit (h c hc)]

theorem isDecimal_iff : IsDecimal digits ↔ digits ≠ [] ∧ ∀ c ∈ digits, IsDigit 10 c := by
  simp only [isDigit_ten_iff]
  exact ⟨fun h => ⟨h.ne_nil, h.digits⟩, fun h => ⟨h.1, h.2⟩⟩

theorem denotes_iff_spells : Denotes text value ↔ Spells 10 text value := by
  constructor
  · rintro (h | h)
    · have hplain : unsigned text = text := by
        unfold unsigned
        split
        · exact absurd (h.digits '+' List.mem_cons_self) (by decide)
        · rfl
      refine ⟨?_, ?_, ?_⟩ <;> rw [hplain]
      · exact h.ne_nil
      · exact (isDecimal_iff.1 h).2
      · exact (decimalValue_eq h.digits).symm
    · exact ⟨h.ne_nil, (isDecimal_iff.1 h).2, (decimalValue_eq h.digits).symm⟩
  · intro h
    have hdecimal : IsDecimal (unsigned text) := isDecimal_iff.2 ⟨h.ne_nil, h.digits⟩
    rw [← h.value_eq, ← decimalValue_eq hdecimal.digits]
    unfold unsigned at hdecimal ⊢
    split at hdecimal
    · exact .plus hdecimal
    · exact .plain hdecimal

theorem parse_eq_ok_iff : parse 10 limit text = .ok value ↔ Denotes text value ∧ value ≤ limit := by
  rw [denotes_iff_spells, parse_eq_ok_iff_spells (by decide) (by decide)]

end SecureElement.Numeral
