import SecureElement.CommandLine.Value
import SecureElement.Proofs.Numeral
/-!
# Numbers on the command line

An address is a numeral in one of two radices, a byte is an address that fits a byte, and a slot is a decimal numeral of
a byte that names one of the sixteen slots. What is read is exactly what these forms denote, and every other text is
refused for a reason that depends on the text alone.
-/

namespace SecureElement.CommandLine

open Numeral (Spells Refused)

/-- An address and its value: hexadecimal digits after 0x or 0X, or decimal ones. -/
inductive IsAddress : List Char → Nat → Prop where
  | hexadecimal {x : Char} {digits : List Char} {value : Nat} (hx : x = 'x' ∨ x = 'X') (h : Spells 16 digits value) :
      IsAddress ('0' :: x :: digits) value
  | decimal {text : List Char} {value : Nat} (h : Spells 10 text value) : IsAddress text value

inductive AddressRefused : List Char → Numeral.Error → Prop where
  | hexadecimal {x : Char} {digits : List Char} {error : Numeral.Error} (hx : x = 'x' ∨ x = 'X')
      (h : Refused 16 0xFFFF digits error) : AddressRefused ('0' :: x :: digits) error
  | decimal {text : List Char} {error : Numeral.Error} (hplain : ∀ digits, text ≠ '0' :: 'x' :: digits)
      (hplain' : ∀ digits, text ≠ '0' :: 'X' :: digits) (h : Refused 10 0xFFFF text error) :
      AddressRefused text error

variable {text : String} {radix limit value : Nat} {digits : List Char} {error : ValueError}

theorem parseNumber_eq_ok_iff (h : radix ≤ 16) (hradix : 0 < radix) :
    parseNumber radix limit digits = .ok value ↔ Spells radix digits value ∧ value ≤ limit := by
  rw [← Numeral.parse_eq_ok_iff_spells h hradix, parseNumber]
  cases Numeral.parse radix limit digits <;> simp [Except.mapError]

theorem parseNumber_eq_error_iff (h : radix ≤ 16) (hradix : 0 < radix) :
    parseNumber radix limit digits = .error error ↔
      ∃ cause, error = .numeral cause ∧ Refused radix limit digits cause := by
  simp only [← Numeral.parse_eq_error_iff h hradix, parseNumber]
  cases Numeral.parse radix limit digits <;> simp [Except.mapError, eq_comm]

/-! ## Addresses -/

theorem parseAddress_cases (text : String) :
    (∃ x digits, (x = 'x' ∨ x = 'X') ∧ text.toList = '0' :: x :: digits ∧
      parseAddress text = (parseNumber 16 0xFFFF digits).map UInt16.ofNat) ∨
    ((∀ digits, text.toList ≠ '0' :: 'x' :: digits) ∧ (∀ digits, text.toList ≠ '0' :: 'X' :: digits) ∧
      parseAddress text = (parseNumber 10 0xFFFF text.toList).map UInt16.ofNat) := by
  unfold parseAddress
  split
  · next digits htext => exact .inl ⟨'x', digits, .inl rfl, htext, rfl⟩
  · next digits htext => exact .inl ⟨'X', digits, .inr rfl, htext, rfl⟩
  · next hlower hupper => exact .inr ⟨hlower, hupper, rfl⟩

theorem not_spells_ten {x : Char} (hx : x = 'x' ∨ x = 'X') : ¬ Spells 10 ('0' :: x :: digits) value := by
  intro h
  have hdigit := h.digits x (List.mem_cons_of_mem _ List.mem_cons_self)
  rcases hx with rfl | rfl
  · exact absurd hdigit (by decide)
  · exact absurd hdigit (by decide)

theorem map_toNat_ofNat_eq_ok_iff {read : Except ValueError Nat} (h : ∀ value, read = .ok value → value ≤ 0xFFFF) :
    (read.map UInt16.ofNat).map UInt16.toNat = .ok value ↔ read = .ok value := by
  cases read with
  | error error => simp [Except.map]
  | ok found =>
    have hfound : (UInt16.ofNat found).toNat = found := by
      rw [UInt16.toNat_ofNat']
      exact Nat.mod_eq_of_lt (Nat.lt_succ_of_le (h found rfl))
    simp [Except.map, hfound]

theorem map_ofNat_eq_error_iff {read : Except ValueError Nat} :
    read.map UInt16.ofNat = .error error ↔ read = .error error := by
  cases read <;> simp [Except.map]

theorem parseAddress_eq_ok_iff :
    (parseAddress text).map UInt16.toNat = .ok value ↔ IsAddress text.toList value ∧ value ≤ 0xFFFF := by
  have hlimit : ∀ {radix digits}, radix ≤ 16 → 0 < radix → ∀ value,
      parseNumber radix 0xFFFF digits = .ok value → value ≤ 0xFFFF := fun h hradix value hok =>
    ((parseNumber_eq_ok_iff h hradix).1 hok).2
  rcases parseAddress_cases text with ⟨x, digits, hx, htext, hparse⟩ | ⟨hlower, hupper, hparse⟩
  · rw [hparse, map_toNat_ofNat_eq_ok_iff (hlimit (by decide) (by decide)),
      parseNumber_eq_ok_iff (by decide) (by decide), htext]
    constructor
    · rintro ⟨hspells, hle⟩
      exact ⟨.hexadecimal hx hspells, hle⟩
    · rintro ⟨haddress, hle⟩
      cases haddress with
      | hexadecimal _ hspells => exact ⟨hspells, hle⟩
      | decimal hspells => exact absurd hspells (not_spells_ten hx)
  · rw [hparse, map_toNat_ofNat_eq_ok_iff (hlimit (by decide) (by decide)),
      parseNumber_eq_ok_iff (by decide) (by decide)]
    constructor
    · rintro ⟨hspells, hle⟩
      exact ⟨.decimal hspells, hle⟩
    · rintro ⟨haddress, hle⟩
      refine ⟨?_, hle⟩
      generalize htext : text.toList = chars at haddress
      cases haddress with
      | hexadecimal hx _ =>
        rcases hx with rfl | rfl
        · exact absurd htext (hlower _)
        · exact absurd htext (hupper _)
      | decimal hspells => exact hspells

theorem parseAddress_eq_error_iff :
    parseAddress text = .error error ↔ ∃ cause, error = .numeral cause ∧ AddressRefused text.toList cause := by
  rcases parseAddress_cases text with ⟨x, digits, hx, htext, hparse⟩ | ⟨hlower, hupper, hparse⟩
  · rw [hparse, map_ofNat_eq_error_iff, parseNumber_eq_error_iff (by decide) (by decide), htext]
    refine exists_congr fun cause => and_congr_right fun _ => ⟨.hexadecimal hx, ?_⟩
    intro hrefused
    cases hrefused with
    | hexadecimal _ h => exact h
    | decimal hplain hplain' _ =>
      rcases hx with rfl | rfl
      · exact absurd rfl (hplain _)
      · exact absurd rfl (hplain' _)
  · rw [hparse, map_ofNat_eq_error_iff, parseNumber_eq_error_iff (by decide) (by decide)]
    refine exists_congr fun cause => and_congr_right fun _ => ⟨.decimal hlower hupper, ?_⟩
    intro hrefused
    generalize htext : text.toList = chars at hrefused
    cases hrefused with
    | hexadecimal hx _ =>
      rcases hx with rfl | rfl
      · exact absurd htext (hlower _)
      · exact absurd htext (hupper _)
    | decimal _ _ h => exact h

/-! ## Bytes and slots -/

theorem parseByte_eq (text : String) : parseByte text =
    (parseAddress text).bind fun value =>
      if value ≤ 0xFF then .ok value.toUInt8 else .error (.numeral .tooLarge) := rfl

theorem parseByte_eq_ok_iff : (parseByte text).map UInt8.toNat = .ok value ↔
    (parseAddress text).map UInt16.toNat = .ok value ∧ value ≤ 0xFF := by
  rw [parseByte_eq]
  cases parseAddress text with
  | error error => simp [Except.bind, Except.map]
  | ok address =>
    have hle : address ≤ 0xFF ↔ address.toNat ≤ 0xFF := UInt16.le_iff_toNat_le
    simp only [Except.bind, Except.map, Except.ok.injEq]
    by_cases haddress : address.toNat ≤ 0xFF
    · have hbyte : address.toUInt8.toNat = address.toNat := by
        rw [UInt16.toNat_toUInt8]
        omega
      rw [if_pos (hle.2 haddress)]
      simp only [Except.ok.injEq, hbyte]
      constructor
      · rintro rfl
        exact ⟨rfl, haddress⟩
      · exact fun h => h.1
    · rw [if_neg (mt hle.1 haddress)]
      constructor
      · exact nofun
      · rintro ⟨rfl, hvalue⟩
        exact absurd hvalue haddress

theorem parseByte_eq_error_iff : parseByte text = .error error ↔ parseAddress text = .error error ∨
    error = .numeral .tooLarge ∧ ∃ value, (parseAddress text).map UInt16.toNat = .ok value ∧ 0xFF < value := by
  rw [parseByte_eq]
  cases parseAddress text with
  | error cause => simp [Except.bind, Except.map]
  | ok address =>
    have hle : address ≤ 0xFF ↔ address.toNat ≤ 0xFF := UInt16.le_iff_toNat_le
    simp only [Except.bind, Except.map, Except.ok.injEq]
    by_cases haddress : address.toNat ≤ 0xFF
    · rw [if_pos (hle.2 haddress)]
      simp only [reduceCtorEq, false_or, exists_eq_left', false_iff, not_and, Nat.not_lt]
      exact fun _ => haddress
    · rw [if_neg (mt hle.1 haddress)]
      simp only [Except.error.injEq, reduceCtorEq, false_or, exists_eq_left', Nat.lt_of_not_le haddress, and_true]
      exact eq_comm

theorem slot_le_fifteen_iff {slot : UInt8} : slot ≤ 15 ↔ slot.toNat ≤ 15 :=
  UInt8.le_iff_toNat_le

theorem parseSlot_cases (text : String) :
    (∃ cause, Refused 10 255 text.toList cause ∧ parseSlot text = .error (.numeral cause)) ∨
      ∃ slot : UInt8, Spells 10 text.toList slot.toNat ∧
        parseSlot text = if slot ≤ 15 then .ok slot else .error (.slotOutOfRange slot) := by
  unfold parseSlot Numeral.parseByte
  cases hparse : Numeral.parse 10 255 text.toList with
  | error cause => exact .inl ⟨cause, (Numeral.parse_eq_error_iff (by decide) (by decide)).1 hparse, rfl⟩
  | ok value =>
    obtain ⟨hspells, hle⟩ := (Numeral.parse_eq_ok_iff_spells (by decide) (by decide)).1 hparse
    refine .inr ⟨UInt8.ofNat value, ?_, rfl⟩
    rwa [UInt8.toNat_ofNat_of_lt' (Nat.lt_succ_of_le hle)]

theorem parseSlot_eq_ok_iff :
    (parseSlot text).map UInt8.toNat = .ok value ↔ Spells 10 text.toList value ∧ value ≤ 15 := by
  rcases parseSlot_cases text with ⟨cause, hrefused, hparse⟩ | ⟨slot, hspells, hparse⟩
  · rw [hparse]
    constructor
    · exact nofun
    · rintro ⟨hspells, hle⟩
      exact absurd hrefused (hspells.not_refused (by decide) (by decide) (by omega))
  · rw [hparse]
    by_cases hslot : slot ≤ 15
    · rw [if_pos hslot, Except.map, Except.ok.injEq]
      constructor
      · rintro rfl
        exact ⟨hspells, slot_le_fifteen_iff.1 hslot⟩
      · exact fun h => hspells.unique h.1
    · rw [if_neg hslot]
      constructor
      · exact nofun
      · rintro ⟨hvalue, hle⟩
        rw [slot_le_fifteen_iff, hspells.unique hvalue] at hslot
        exact absurd hle hslot

theorem parseSlot_eq_error_iff : parseSlot text = .error error ↔
    (∃ cause, error = .numeral cause ∧ Refused 10 255 text.toList cause) ∨
      ∃ slot, error = .slotOutOfRange slot ∧ Spells 10 text.toList slot.toNat ∧ 15 < slot.toNat := by
  constructor
  · intro herror
    rcases parseSlot_cases text with ⟨cause, hrefused, hparse⟩ | ⟨slot, hspells, hparse⟩
    · obtain rfl := Except.error.inj (hparse.symm.trans herror)
      exact .inl ⟨cause, rfl, hrefused⟩
    · by_cases hslot : slot ≤ 15
      · rw [hparse, if_pos hslot] at herror
        cases herror
      · rw [hparse, if_neg hslot] at herror
        obtain rfl := Except.error.inj herror
        exact .inr ⟨slot, rfl, hspells, Nat.lt_of_not_le (mt slot_le_fifteen_iff.2 hslot)⟩
  · rintro (⟨cause, rfl, hrefused⟩ | ⟨slot, rfl, hspells, hlarge⟩)
    · rw [← Numeral.parse_eq_error_iff (by decide) (by decide)] at hrefused
      unfold parseSlot Numeral.parseByte
      rw [hrefused]
      rfl
    · have hbyte := Nat.le_of_lt_succ slot.toNat_lt
      have hparse := (Numeral.parse_eq_ok_iff_spells (by decide) (by decide)).2 ⟨hspells, hbyte⟩
      unfold parseSlot Numeral.parseByte
      rw [hparse]
      change (if UInt8.ofNat slot.toNat ≤ 15 then _ else _) = _
      rw [UInt8.ofNat_toNat, if_neg (mt slot_le_fifteen_iff.1 (Nat.not_le.2 hlarge))]
      rfl

/-- Numbers are read as their grammar has them: an address up to sixteen bits, a byte as an address up to eight, a slot
up to fifteen; and what is not read is refused for the first thing that is wrong with it. -/
theorem numbers_follow_grammar (text : String) :
    (∀ value, (parseAddress text).map UInt16.toNat = .ok value ↔ IsAddress text.toList value ∧ value ≤ 0xFFFF) ∧
    (∀ value, (parseByte text).map UInt8.toNat = .ok value ↔
      (parseAddress text).map UInt16.toNat = .ok value ∧ value ≤ 0xFF) ∧
    (∀ value, (parseSlot text).map UInt8.toNat = .ok value ↔ Spells 10 text.toList value ∧ value ≤ 15) ∧
    (∀ error, parseAddress text = .error error ↔
      ∃ cause, error = .numeral cause ∧ AddressRefused text.toList cause) ∧
    (∀ error, parseByte text = .error error ↔ parseAddress text = .error error ∨
      error = .numeral .tooLarge ∧ ∃ value, (parseAddress text).map UInt16.toNat = .ok value ∧ 0xFF < value) ∧
    ∀ error, parseSlot text = .error error ↔
      (∃ cause, error = .numeral cause ∧ Refused 10 255 text.toList cause) ∨
        ∃ slot, error = .slotOutOfRange slot ∧ Spells 10 text.toList slot.toNat ∧ 15 < slot.toNat :=
  ⟨fun _ => parseAddress_eq_ok_iff, fun _ => parseByte_eq_ok_iff, fun _ => parseSlot_eq_ok_iff,
    fun _ => parseAddress_eq_error_iff, fun _ => parseByte_eq_error_iff, fun _ => parseSlot_eq_error_iff⟩

end SecureElement.CommandLine
