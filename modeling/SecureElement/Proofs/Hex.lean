import Mathlib
import SecureElement.Hex
import SecureElement.Text
import SecureElement.Proofs.Numeral
/-!
# Reading hexadecimal text back

Bytes that are written in upper-case digits are read back as they were, and every text of whole pairs of digits is
read.
-/

namespace SecureElement.Hex

def upperDigit (n : Nat) : Char :=
  (Nat.digitChar n).toUpper

theorem digitValue?_upperDigit {n : Nat} (h : n < 16) :
    digitValue? (UInt8.ofNat (upperDigit n).toNat) = some (UInt8.ofNat n) := by
  revert n
  decide

theorem utf8EncodeChar_upperDigit {n : Nat} (h : n < 16) :
    String.utf8EncodeChar (upperDigit n) = [UInt8.ofNat (upperDigit n).toNat] := by
  revert n
  decide

theorem toUpper_upperDigit {n : Nat} (h : n < 16) : (upperDigit n).toUpper = upperDigit n := by
  revert n
  decide

def upperDigits (byte : UInt8) : List Char :=
  [upperDigit (byte.toNat / 16), upperDigit (byte.toNat % 16)]

theorem toList_encodeUpper (bytes : List UInt8) :
    (encodeUpper bytes).toList = bytes.flatMap upperDigits := by
  unfold encodeUpper
  rw [String.toList_ofList]
  rfl

theorem length_encodeUpper (bytes : List UInt8) : (encodeUpper bytes).toList.length = 2 * bytes.length := by
  rw [toList_encodeUpper]
  induction bytes with
  | nil => rfl
  | cons byte bytes ih =>
    rw [List.flatMap_cons, List.length_append, ih, List.length_cons]
    have htwo : (upperDigits byte).length = 2 := rfl
    omega

theorem forall_mem_encodeUpper {p : Char → Prop} (h : ∀ n < 16, p (upperDigit n)) (bytes : List UInt8) :
    ∀ c ∈ (encodeUpper bytes).toList, p c := by
  intro c hc
  rw [toList_encodeUpper, List.mem_flatMap] at hc
  obtain ⟨byte, _, hc⟩ := hc
  have hbyte := byte.toNat_lt
  have hcases : c = upperDigit (byte.toNat / 16) ∨ c = upperDigit (byte.toNat % 16) := by
    simpa [upperDigits] using hc
  rcases hcases with rfl | rfl
  · exact h _ (by omega)
  · exact h _ (by omega)

theorem utf8Bytes_encodeUpper (bytes : List UInt8) :
    Text.utf8Bytes (encodeUpper bytes) =
      bytes.flatMap fun byte => (upperDigits byte).map fun c => UInt8.ofNat c.toNat := by
  rw [Text.utf8Bytes, toList_encodeUpper]
  induction bytes with
  | nil => rfl
  | cons byte bytes ih =>
    have hbyte := byte.toNat_lt
    have hhigh := utf8EncodeChar_upperDigit (show byte.toNat / 16 < 16 by omega)
    have hlow := utf8EncodeChar_upperDigit (show byte.toNat % 16 < 16 by omega)
    rw [List.flatMap_cons, List.flatMap_append, ih, List.flatMap_cons]
    simp [upperDigits, hhigh, hlow]

theorem halves_eq (byte : UInt8) :
    UInt8.ofNat (byte.toNat / 16) <<< 4 ||| UInt8.ofNat (byte.toNat % 16) = byte := by
  revert byte
  decide +kernel

theorem decodeFrom_upperDigits (position : Nat) (byte : UInt8) (rest : List UInt8) :
    decodeFrom position (((upperDigits byte).map fun c => UInt8.ofNat c.toNat) ++ rest) =
      (decodeFrom (position + 2) rest).map (byte :: ·) := by
  have hbyte := byte.toNat_lt
  have hhigh := digitValue?_upperDigit (show byte.toNat / 16 < 16 by omega)
  have hlow := digitValue?_upperDigit (show byte.toNat % 16 < 16 by omega)
  unfold upperDigits
  rw [List.map_cons, List.map_cons, List.map_nil, List.cons_append, List.cons_append,
    List.nil_append, decodeFrom, hhigh, hlow]
  dsimp only
  rw [halves_eq]

theorem decode_encodeUpper (bytes : List UInt8) : decode (Text.utf8Bytes (encodeUpper bytes)) = .ok bytes := by
  have hfrom (position : Nat) : decodeFrom position
      (bytes.flatMap fun byte => (upperDigits byte).map fun c => UInt8.ofNat c.toNat) = .ok bytes := by
    induction bytes generalizing position with
    | nil => rfl
    | cons byte bytes ih =>
      rw [List.flatMap_cons, decodeFrom_upperDigits, ih]
      rfl
  have hlength : (Text.utf8Bytes (encodeUpper bytes)).length = 2 * bytes.length := by
    rw [utf8Bytes_encodeUpper, List.length_flatMap]
    simp [upperDigits, Nat.mul_comm]
  unfold decode
  rw [if_neg (by omega), utf8Bytes_encodeUpper, hfrom]

/-! ## Texts of digits -/

/-- The digits that are read, in either case. -/
def digitChars : List Char :=
  ['0', '1', '2', '3', '4', '5', '6', '7', '8', '9', 'a', 'b', 'c', 'd', 'e', 'f', 'A', 'B', 'C', 'D', 'E', 'F']

theorem forall_digitChars {p : Char → Prop} [DecidablePred p] (h : digitChars.all (p ·) = true) :
    ∀ c ∈ digitChars, p c :=
  fun c hc => of_decide_eq_true (List.all_eq_true.1 h c hc)

theorem isDigit_sixteen_iff {c : Char} : Numeral.IsDigit 16 c ↔ c ∈ digitChars := by
  by_cases h : c.toNat < 128
  · have hall : ∀ n < 128, Numeral.IsDigit 16 (Char.ofNat n) ↔ Char.ofNat n ∈ digitChars := by
      decide +kernel
    have hc := hall c.toNat h
    rwa [Char.ofNat_toNat] at hc
  · have hdigit : ¬ Numeral.IsDigit 16 c := by
      rw [Numeral.IsDigit, Numeral.digitOf_eq_sixteen (Nat.not_lt.1 h)]
      exact Nat.lt_irrefl 16
    exact iff_of_false hdigit fun hmem => h (forall_digitChars (p := fun c => c.toNat < 128) (by decide) c hmem)

theorem toUpper_mem_digitChars : ∀ c ∈ digitChars, c.toUpper ∈ digitChars :=
  forall_digitChars (by decide)

theorem utf8EncodeChar_of_mem : ∀ c ∈ digitChars, String.utf8EncodeChar c = [UInt8.ofNat c.toNat] :=
  forall_digitChars (by decide)

theorem isSome_digitValue?_of_mem : ∀ c ∈ digitChars, (digitValue? (UInt8.ofNat c.toNat)).isSome = true :=
  forall_digitChars (by decide)

theorem utf8Bytes_digitChars {text : List Char} (h : ∀ c ∈ text, c ∈ digitChars) :
    Text.utf8Bytes (String.ofList text) = text.map fun c => UInt8.ofNat c.toNat := by
  rw [Text.utf8Bytes, String.toList_ofList]
  induction text with
  | nil => rfl
  | cons c text ih =>
    rw [List.flatMap_cons, utf8EncodeChar_of_mem c (h c List.mem_cons_self),
      ih fun d hd => h d (List.mem_cons_of_mem _ hd)]
    rfl

theorem decodeFrom_digitChars : ∀ (position : Nat) (text : List Char), (∀ c ∈ text, c ∈ digitChars) →
    ∃ raw, decodeFrom position (text.map fun c => UInt8.ofNat c.toNat) = .ok raw ∧ raw.length = text.length / 2
  | _, [], _ => ⟨[], rfl, rfl⟩
  | _, [_], _ => ⟨[], rfl, by simp⟩
  | position, high :: low :: rest, h => by
    obtain ⟨raw, hraw, hlength⟩ := decodeFrom_digitChars (position + 2) rest fun c hc =>
      h c (List.mem_cons_of_mem _ (List.mem_cons_of_mem _ hc))
    obtain ⟨x, hx⟩ := Option.isSome_iff_exists.1 (isSome_digitValue?_of_mem high (h high List.mem_cons_self))
    obtain ⟨y, hy⟩ := Option.isSome_iff_exists.1
      (isSome_digitValue?_of_mem low (h low (List.mem_cons_of_mem _ List.mem_cons_self)))
    refine ⟨(x <<< 4 ||| y) :: raw, ?_, ?_⟩
    · rw [List.map_cons, List.map_cons, decodeFrom, hx, hy]
      dsimp only
      rw [hraw]
      rfl
    · simp only [List.length_cons]
      omega

theorem decode_digitChars {text : List Char} (h : ∀ c ∈ text, c ∈ digitChars) (heven : text.length % 2 = 0) :
    ∃ raw, decode (Text.utf8Bytes (String.ofList text)) = .ok raw ∧ raw.length = text.length / 2 := by
  obtain ⟨raw, hraw, hlength⟩ := decodeFrom_digitChars 0 text h
  refine ⟨raw, ?_, hlength⟩
  unfold decode
  rw [utf8Bytes_digitChars h, List.length_map, if_neg (by omega), hraw]

end SecureElement.Hex
