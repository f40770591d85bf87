import Mathlib
import SecureElement.Crc16
/-!
# The checksum as a residue

A register stands for a polynomial over the field of two elements, its bit `i` for the coefficient of `X ^ i`. Up
to multiples of the generator, shifting a bit in multiplies by `X` and adds the bit times `X ^ 16`, so the checksum
is the sum of the powers that the set bits of the message stand for, and no two registers are the same residue.
-/

namespace SecureElement.Crc16

open Polynomial

noncomputable def generator : (ZMod 2)[X] := X ^ 16 + X ^ 15 + X ^ 2 + 1

/-- Polynomials up to multiples of the generator. -/
abbrev Residue := AdjoinRoot generator

namespace Residue

noncomputable def x : Residue := AdjoinRoot.root generator

theorem add_self (a : Residue) : a + a = 0 := by
  have htwo : (2 : Residue) = 0 := by
    have hmap := map_ofNat (AdjoinRoot.of generator) 2
    rw [← hmap]
    exact (congrArg (AdjoinRoot.of generator) (by decide : (2 : ZMod 2) = 0)).trans (map_zero _)
  rw [← two_mul, htwo, zero_mul]

theorem add_eq_zero_iff {a b : Residue} : a + b = 0 ↔ a = b := by
  constructor
  · intro h
    calc a = a + (b + b) := by rw [add_self, add_zero]
      _ = b := by rw [← add_assoc, h, zero_add]
  · rintro rfl
    exact add_self a

/-- The generator vanishes. -/
theorem x_pow_sixteen : x ^ 16 = x ^ 15 + x ^ 2 + 1 := by
  have hzero : AdjoinRoot.mk generator (X ^ 16 + X ^ 15 + X ^ 2 + 1) = 0 := AdjoinRoot.mk_self
  simp only [map_add, map_pow, map_one, AdjoinRoot.mk_X] at hzero
  rw [← add_eq_zero_iff, x, ← add_assoc, ← add_assoc]
  exact hzero

theorem isUnit_x : IsUnit x := by
  refine IsUnit.of_mul_eq_one (x ^ 15 + x ^ 14 + x) ?_
  calc x * (x ^ 15 + x ^ 14 + x) = x ^ 16 + (x ^ 15 + x ^ 2) := by ring
    _ = (x ^ 15 + x ^ 2) + (x ^ 15 + x ^ 2) + 1 := by rw [x_pow_sixteen]; ring
    _ = 1 := by rw [add_self, zero_add]

noncomputable def term (bit : Bool) (i : Nat) : Residue :=
  if bit then x ^ i else 0

@[simp] theorem term_false (i : Nat) : term false i = 0 := rfl

@[simp] theorem term_true (i : Nat) : term true i = x ^ i := rfl

theorem term_xor (a b : Bool) (i : Nat) : term (a ^^ b) i = term a i + term b i := by
  cases a <;> cases b <;> simp [add_self]

theorem pow_mul_term (bit : Bool) (i j : Nat) : x ^ i * term bit j = term bit (i + j) := by
  cases bit <;> simp [pow_add]

theorem sum_term_mem {chosen all : Finset ℕ} (h : chosen ⊆ all) (exponent : ℕ → ℕ) :
    ∑ k ∈ all, term (decide (k ∈ chosen)) (exponent k) = ∑ k ∈ chosen, x ^ exponent k := by
  simp only [term, decide_eq_true_eq]
  rw [Finset.sum_ite_mem, Finset.inter_eq_right.2 h]

end Residue

open Residue

theorem natDegree_generator : generator.natDegree = 16 := by
  unfold generator
  compute_degree!

theorem monic_generator : generator.Monic := by
  unfold generator
  monicity!

theorem sum_pow_ne_zero {exponents : Finset ℕ} (hne : exponents.Nonempty) (hlow : ∀ i ∈ exponents, i < 16) :
    ∑ i ∈ exponents, x ^ i ≠ 0 := by
  have hsum : ∑ i ∈ exponents, x ^ i = AdjoinRoot.mk generator (∑ i ∈ exponents, X ^ i) := by
    simp [x]
  obtain ⟨i, hi⟩ := hne
  have hcoeff : (∑ i ∈ exponents, (X : (ZMod 2)[X]) ^ i).coeff i = 1 := by
    simp [coeff_X_pow, hi]
  have hdegree : (∑ i ∈ exponents, (X : (ZMod 2)[X]) ^ i).degree < generator.degree := by
    rw [degree_eq_natDegree monic_generator.ne_zero, natDegree_generator]
    refine lt_of_le_of_lt (degree_sum_le _ _) ?_
    rw [Finset.sup_lt_iff (by decide)]
    intro j hj
    exact lt_of_le_of_lt (degree_X_pow_le j) (by exact_mod_cast hlow j hj)
  rw [hsum, Ne, AdjoinRoot.mk_eq_zero]
  refine monic_generator.not_dvd_of_degree_lt ?_ hdegree
  intro hzero
  rw [hzero, coeff_zero] at hcoeff
  exact zero_ne_one hcoeff

/-! ## Registers -/

noncomputable def residue (register : UInt16) : Residue :=
  ∑ i ∈ Finset.range 16, term (register.toNat.testBit i) i

theorem residue_xor (a b : UInt16) : residue (a ^^^ b) = residue a + residue b := by
  unfold residue
  rw [← Finset.sum_add_distrib]
  refine Finset.sum_congr rfl fun i _ => ?_
  rw [UInt16.toNat_xor, Nat.testBit_xor, term_xor]

theorem residue_eq_zero_iff {register : UInt16} : residue register = 0 ↔ register = 0 := by
  constructor
  · intro h
    have hones : (Finset.range 16).filter (register.toNat.testBit ·) = ∅ := by
      by_contra hne
      refine sum_pow_ne_zero (Finset.nonempty_iff_ne_empty.2 hne) ?_ ?_
      · intro i hi
        exact Finset.mem_range.1 (Finset.mem_filter.1 hi).1
      · rw [Finset.sum_filter]
        exact h
    apply UInt16.toNat_inj.1
    apply Nat.eq_of_testBit_eq
    intro i
    rw [UInt16.toNat_zero, Nat.zero_testBit]
    by_cases hi : i < 16
    · have hbit := Finset.filter_eq_empty_iff.1 hones (Finset.mem_range.2 hi)
      simpa using hbit
    · exact Nat.testBit_lt_two_pow (lt_of_lt_of_le register.toNat_lt (Nat.pow_le_pow_right (by decide) (by omega)))
  · rintro rfl
    simp [residue]

theorem residue_injective : Function.Injective residue := by
  intro a b h
  rw [← add_eq_zero_iff, ← residue_xor, residue_eq_zero_iff] at h
  exact UInt16.xor_eq_zero_iff.1 h

theorem residue_eq_sum {register : UInt16} {exponents : Finset ℕ} (hlow : exponents ⊆ Finset.range 16)
    (hbits : ∀ i < 16, register.toNat.testBit i = decide (i ∈ exponents)) :
    residue register = ∑ i ∈ exponents, x ^ i := by
  rw [← sum_term_mem hlow fun i => i]
  exact Finset.sum_congr rfl fun i hi => congrArg (term · i) (hbits i (Finset.mem_range.1 hi))

theorem residue_one : residue 1 = 1 := by
  have hsum : residue 1 = ∑ i ∈ ({0} : Finset ℕ), x ^ i := residue_eq_sum (by decide) (by decide)
  rw [hsum, Finset.sum_singleton, pow_zero]

theorem residue_polynomial : residue polynomial = x ^ 16 := by
  have hsum : residue polynomial = ∑ i ∈ ({15, 2, 0} : Finset ℕ), x ^ i := residue_eq_sum (by decide) (by decide)
  rw [hsum, Finset.sum_insert (by decide), Finset.sum_insert (by decide), Finset.sum_singleton, pow_zero,
    ← add_assoc, x_pow_sixteen]

theorem testBit_shiftLeft_one (register : UInt16) (i : Nat) :
    (register <<< 1).toNat.testBit i = (decide (i < 16) && (decide (1 ≤ i) && register.toNat.testBit (i - 1))) := by
  rw [UInt16.toNat_shiftLeft, show (1 : UInt16).toNat % 16 = 1 from rfl, Nat.testBit_mod_two_pow,
    Nat.testBit_shiftLeft]

theorem residue_shiftLeft_one (register : UInt16) :
    residue (register <<< 1) = x * residue register + term (register.toNat.testBit 15) 16 := by
  have hlow : term ((register <<< 1).toNat.testBit 0) 0 = 0 := by
    rw [testBit_shiftLeft_one]
    rfl
  have hshift : ∀ i ∈ Finset.range 15, term ((register <<< 1).toNat.testBit (i + 1)) (i + 1) =
      x * term (register.toNat.testBit i) i := by
    intro i hi
    have hlt := Finset.mem_range.1 hi
    have hterm := pow_mul_term (register.toNat.testBit i) 1 i
    rw [pow_one, Nat.add_comm] at hterm
    rw [hterm, testBit_shiftLeft_one, decide_eq_true (by omega), decide_eq_true (by omega), Bool.true_and,
      Bool.true_and, Nat.add_sub_cancel]
  have hhigh : x * term (register.toNat.testBit 15) 15 = term (register.toNat.testBit 15) 16 := by
    have hterm := pow_mul_term (register.toNat.testBit 15) 1 15
    rwa [pow_one] at hterm
  unfold residue
  rw [Finset.sum_range_succ', hlow, add_zero, Finset.sum_congr rfl hshift, ← Finset.mul_sum,
    Finset.sum_range_succ (n := 15), mul_add, hhigh, add_assoc, add_self, add_zero]

theorem testBit_fifteen (register : UInt16) : register.toNat.testBit 15 = decide (0x8000 ≤ register) := by
  have hregister := register.toNat_lt
  rw [Nat.testBit_eq_decide_div_mod_eq, decide_eq_decide, UInt16.le_iff_toNat_le,
    show (0x8000 : UInt16).toNat = 0x8000 from rfl]
  omega

theorem residue_shiftBit (register : UInt16) (bit : Bool) :
    residue (shiftBit register bit) = x * residue register + term bit 16 := by
  unfold shiftBit
  rw [← testBit_fifteen]
  split
  · next hbit => rw [residue_shiftLeft_one, hbit]
  · next hbit =>
    have hflip : bit = (register.toNat.testBit 15 ^^ true) := by
      rw [Bool.xor_true]
      exact Bool.eq_not_of_ne hbit
    rw [residue_xor, residue_shiftLeft_one, residue_polynomial, add_assoc, hflip, term_xor, term_true]

/-! ## Messages -/

theorem residue_foldl_shiftBit (bits : List Bool) (register : UInt16) :
    residue (bits.foldl shiftBit register) = x ^ bits.length * residue register +
      ∑ k ∈ Finset.range bits.length, term (bits.getD k false) (bits.length + 15 - k) := by
  induction bits generalizing register with
  | nil => simp
  | cons bit bits ih =>
    have hfirst : term ((bit :: bits).getD 0 false) (bits.length + 1 + 15 - 0) = x ^ bits.length * term bit 16 := by
      rw [pow_mul_term]
      rfl
    have hrest : ∀ k ∈ Finset.range bits.length,
        term ((bit :: bits).getD (k + 1) false) (bits.length + 1 + 15 - (k + 1)) =
          term (bits.getD k false) (bits.length + 15 - k) := by
      intro k _
      rw [List.getD_cons_succ, Nat.add_right_comm, Nat.add_sub_add_right]
    rw [List.foldl_cons, ih, residue_shiftBit, List.length_cons, Finset.sum_range_succ', hfirst,
      Finset.sum_congr rfl hrest]
    ring

/-- A bit of a byte string, counted in the order in which they travel. -/
def bitAt (bytes : List UInt8) (k : Nat) : Bool :=
  (bytes.getD (k / 8) 0).toNat.testBit (k % 8)

theorem length_bits (byte : UInt8) : (bits byte).length = 8 := by
  simp [bits]

theorem length_flatMap_bits (bytes : List UInt8) : (bytes.flatMap bits).length = 8 * bytes.length := by
  rw [List.length_flatMap]
  simp [length_bits, Nat.mul_comm]

theorem getD_flatMap_bits (bytes : List UInt8) (k : Nat) : (bytes.flatMap bits).getD k false = bitAt bytes k := by
  induction bytes generalizing k with
  | nil => simp [bitAt]
  | cons byte bytes ih =>
    rw [List.flatMap_cons]
    by_cases hk : k < 8
    · rw [List.getD_append _ _ _ _ (by rw [length_bits]; exact hk), bitAt, Nat.div_eq_of_lt hk, Nat.mod_eq_of_lt hk]
      simp [bits, hk]
    · obtain ⟨j, rfl⟩ := Nat.exists_eq_add_of_le' (Nat.not_lt.1 hk)
      rw [List.getD_append_right _ _ _ _ (by rw [length_bits]; omega), length_bits, Nat.add_sub_cancel, ih]
      unfold bitAt
      rw [Nat.add_mod_right, Nat.add_div_right _ (by decide), List.getD_cons_succ]

/-- The checksum is the sum of the powers of the set bits, the first bit of the message standing for the highest. -/
theorem residue_compute (bytes : List UInt8) :
    residue (compute bytes) =
      ∑ k ∈ Finset.range (8 * bytes.length), term (bitAt bytes k) (8 * bytes.length + 15 - k) := by
  rw [compute, residue_foldl_shiftBit, length_flatMap_bits, residue_eq_zero_iff.2 rfl, mul_zero, zero_add]
  exact Finset.sum_congr rfl fun k _ => congrArg (term · _) (getD_flatMap_bits bytes k)

end SecureElement.Crc16
