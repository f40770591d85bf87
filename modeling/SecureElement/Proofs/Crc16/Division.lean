import SecureElement.Proofs.Crc16.Residue
/-!
# The checksum as a remainder

A message stands for the polynomial over the field of two elements whose coefficients, from the highest down, are its
bits in the order in which they travel. Its checksum holds the coefficients of the remainder that is left when this
polynomial times `X ^ 16` is divided by the generator. So checksums add as messages do, and since sixteen bits are
their own remainder, two more bytes can bring the checksum of any message to any value, in one way.
-/

namespace SecureElement.Crc16

open Polynomial Residue

/-! ## Bits as coefficients -/

/-- The polynomial with the given bits as coefficients, the lowest first. -/
noncomputable def polynomialOf (count : Nat) (bit : Nat → Bool) : (ZMod 2)[X] :=
  ∑ i ∈ Finset.range count, if bit i then X ^ i else 0

noncomputable def registerPolynomial (register : UInt16) : (ZMod 2)[X] :=
  polynomialOf 16 register.toNat.testBit

/-- The first bit that travels is the highest coefficient. -/
noncomputable def messagePolynomial (bytes : List UInt8) : (ZMod 2)[X] :=
  polynomialOf (8 * bytes.length) fun i => bitAt bytes (8 * bytes.length - 1 - i)

variable {count : Nat} {bit bit' : Nat → Bool}

theorem coeff_polynomialOf (count : Nat) (bit : Nat → Bool) (i : Nat) :
    (polynomialOf count bit).coeff i = if i < count ∧ bit i then 1 else 0 := by
  have hterm : ∀ j ∈ Finset.range count, (if bit j then (X : (ZMod 2)[X]) ^ j else 0).coeff i =
      if i = j then (if bit i then 1 else 0) else 0 := by
    intro j _
    by_cases hij : i = j
    · subst hij
      split <;> simp
    · split <;> simp [coeff_X_pow, hij]
  rw [polynomialOf, finsetSum_coeff, Finset.sum_congr rfl hterm, Finset.sum_ite_eq]
  simp only [Finset.mem_range, ite_and]

theorem degree_polynomialOf_lt (count : Nat) (bit : Nat → Bool) : (polynomialOf count bit).degree < count := by
  rw [degree_lt_iff_coeff_zero]
  intro i hi
  rw [coeff_polynomialOf, if_neg fun h => absurd h.1 (Nat.not_lt.2 hi)]

theorem bit_eq_of_polynomialOf_eq (h : polynomialOf count bit = polynomialOf count bit') {i : Nat} (hi : i < count) :
    bit i = bit' i := by
  have hcoeff := congrArg (coeff · i) h
  simp only [coeff_polynomialOf, hi, true_and] at hcoeff
  cases hbit : bit i <;> cases hbit' : bit' i <;> simp_all

theorem mk_polynomialOf (count : Nat) (bit : Nat → Bool) :
    AdjoinRoot.mk generator (polynomialOf count bit) = ∑ i ∈ Finset.range count, term (bit i) i := by
  rw [polynomialOf, map_sum]
  refine Finset.sum_congr rfl fun i _ => ?_
  cases bit i <;> simp [x]

theorem degree_polynomialOf_lt_generator (h : count ≤ 16) (bit : Nat → Bool) :
    (polynomialOf count bit).degree < generator.degree := by
  rw [degree_eq_natDegree monic_generator.ne_zero, natDegree_generator]
  exact lt_of_lt_of_le (degree_polynomialOf_lt count bit) (by exact_mod_cast h)

theorem polynomialOf_eq_of_mk_eq (hcount : count ≤ 16)
    (h : AdjoinRoot.mk generator (polynomialOf count bit) = AdjoinRoot.mk generator (polynomialOf count bit')) :
    polynomialOf count bit = polynomialOf count bit' := by
  have hremainder := modByMonic_eq_of_dvd_sub monic_generator (AdjoinRoot.mk_eq_mk.1 h)
  rwa [(modByMonic_eq_self_iff monic_generator).2 (degree_polynomialOf_lt_generator hcount bit),
    (modByMonic_eq_self_iff monic_generator).2 (degree_polynomialOf_lt_generator hcount bit')] at hremainder

/-! ## The remainder -/

theorem mk_registerPolynomial (register : UInt16) :
    AdjoinRoot.mk generator (registerPolynomial register) = residue register :=
  mk_polynomialOf 16 _

theorem mk_messagePolynomial (bytes : List UInt8) :
    AdjoinRoot.mk generator (messagePolynomial bytes * X ^ 16) = residue (compute bytes) := by
  have hreflect : ∀ k ∈ Finset.range (8 * bytes.length),
      term (bitAt bytes (8 * bytes.length - 1 - k)) k * x ^ 16 =
        term (bitAt bytes (8 * bytes.length - 1 - k)) (8 * bytes.length + 15 - (8 * bytes.length - 1 - k)) := by
    intro k hk
    have hlt := Finset.mem_range.1 hk
    rw [mul_comm, pow_mul_term]
    congr 1
    omega
  rw [map_mul, map_pow, AdjoinRoot.mk_X, messagePolynomial, mk_polynomialOf, Finset.sum_mul]
  change ∑ k ∈ _, term _ k * x ^ 16 = _
  rw [Finset.sum_congr rfl hreflect, residue_compute]
  exact Finset.sum_range_reflect (fun k => term (bitAt bytes k) (8 * bytes.length + 15 - k)) (8 * bytes.length)

theorem registerPolynomial_compute (bytes : List UInt8) :
    registerPolynomial (compute bytes) = (messagePolynomial bytes * X ^ 16) %ₘ generator := by
  have hmk : AdjoinRoot.mk generator (registerPolynomial (compute bytes)) =
      AdjoinRoot.mk generator (messagePolynomial bytes * X ^ 16) := by
    rw [mk_registerPolynomial, mk_messagePolynomial]
  calc registerPolynomial (compute bytes)
    _ = registerPolynomial (compute bytes) %ₘ generator :=
      ((modByMonic_eq_self_iff monic_generator).2 (degree_polynomialOf_lt_generator le_rfl _)).symm
    _ = (messagePolynomial bytes * X ^ 16) %ₘ generator :=
      modByMonic_eq_of_dvd_sub monic_generator (AdjoinRoot.mk_eq_mk.1 hmk)

theorem coeff_registerPolynomial (register : UInt16) (i : Nat) :
    (registerPolynomial register).coeff i = if register.toNat.testBit i then 1 else 0 := by
  have hregister : register.toNat.testBit i = true → i < 16 := by
    intro hbit
    by_contra hi
    rw [Nat.testBit_lt_two_pow
      (lt_of_lt_of_le register.toNat_lt (Nat.pow_le_pow_right (by decide) (Nat.not_lt.1 hi)))] at hbit
    cases hbit
  rw [registerPolynomial, coeff_polynomialOf]
  simp only [and_iff_right_of_imp hregister]

/-! ## Sums of messages -/

theorem bitAt_zipWith_xor {a b : List UInt8} (h : a.length = b.length) (k : Nat) :
    bitAt (List.zipWith (· ^^^ ·) a b) k = (bitAt a k ^^ bitAt b k) := by
  have hbyte : (List.zipWith (· ^^^ ·) a b).getD (k / 8) 0 = a.getD (k / 8) 0 ^^^ b.getD (k / 8) 0 := by
    by_cases hindex : k / 8 < a.length
    · rw [List.getD_eq_getElem _ _ (by rw [List.length_zipWith]; omega), List.getD_eq_getElem _ _ hindex,
        List.getD_eq_getElem _ _ (by omega), List.getElem_zipWith]
    · rw [List.getD_eq_default _ _ (by rw [List.length_zipWith]; omega), List.getD_eq_default _ _ (by omega),
        List.getD_eq_default _ _ (by omega)]
      rfl
  rw [bitAt, hbyte, UInt8.toNat_xor, Nat.testBit_xor]
  rfl

theorem compute_zipWith_xor {a b : List UInt8} (h : a.length = b.length) :
    compute (List.zipWith (· ^^^ ·) a b) = compute a ^^^ compute b := by
  have hlength : (List.zipWith (· ^^^ ·) a b).length = a.length := by
    rw [List.length_zipWith, h, Nat.min_self]
  apply residue_injective
  rw [residue_xor, residue_compute, residue_compute, residue_compute, hlength, ← h, ← Finset.sum_add_distrib]
  refine Finset.sum_congr rfl fun k _ => ?_
  rw [bitAt_zipWith_xor h, term_xor]

/-! ## Two more bytes -/

theorem residue_compute_append (bytes rest : List UInt8) :
    residue (compute (bytes ++ rest)) =
      x ^ (8 * rest.length) * residue (compute bytes) + residue (compute rest) := by
  have hzero : residue 0 = 0 := residue_eq_zero_iff.2 rfl
  rw [compute, compute, compute, List.flatMap_append, List.foldl_append, residue_foldl_shiftBit,
    residue_foldl_shiftBit (rest.flatMap bits) 0, hzero, mul_zero, zero_add, length_flatMap_bits]

theorem messagePolynomial_pair_injective :
    Function.Injective fun pair : UInt8 × UInt8 => messagePolynomial [pair.1, pair.2] := by
  rintro ⟨a, b⟩ ⟨a', b'⟩ h
  have hbit : ∀ k < 16, bitAt [a, b] k = bitAt [a', b'] k := by
    intro k hk
    have hreflected := bit_eq_of_polynomialOf_eq h (i := 15 - k) (by simp; omega)
    simpa [show 15 - (15 - k) = k by omega] using hreflected
  have hbyte : ∀ u v : UInt8, (∀ i < 8, u.toNat.testBit i = v.toNat.testBit i) → u = v := fun u v huv =>
    UInt8.eq_of_toBitVec_eq (BitVec.eq_of_getLsbD_eq huv)
  have hfirst : a = a' := hbyte a a' fun i hi => by
    have hi' := hbit i (by omega)
    rwa [bitAt, bitAt, Nat.div_eq_of_lt hi, Nat.mod_eq_of_lt hi] at hi'
  have hsecond : b = b' := hbyte b b' fun i hi => by
    have hi' := hbit (8 + i) (by omega)
    rwa [bitAt, bitAt, Nat.add_mod_left, Nat.add_div_left _ (by decide), Nat.div_eq_of_lt hi,
      Nat.mod_eq_of_lt hi] at hi'
  rw [hfirst, hsecond]

/-- Two bytes are fewer bits than would be reduced, and `x` can be cancelled. -/
theorem compute_append_pair_injective (bytes : List UInt8) :
    Function.Injective fun pair : UInt8 × UInt8 => compute (bytes ++ [pair.1, pair.2]) := by
  intro pair pair' h
  have hresidue := congrArg residue h
  simp only [residue_compute_append, List.length_cons, List.length_nil, add_right_inj] at hresidue
  rw [← mk_messagePolynomial, ← mk_messagePolynomial, map_mul, map_mul, map_pow, AdjoinRoot.mk_X] at hresidue
  exact messagePolynomial_pair_injective
    (polynomialOf_eq_of_mk_eq (by simp) ((isUnit_x.pow 16).mul_right_cancel hresidue))

theorem existsUnique_append_pair (bytes : List UInt8) (target : UInt16) :
    ∃! pair : UInt8 × UInt8, compute (bytes ++ [pair.1, pair.2]) = target := by
  have hcard : Fintype.card (UInt8 × UInt8) = Fintype.card UInt16 := by
    rw [Fintype.card_prod, ← FinEnum.card_eq_fintypeCard, ← FinEnum.card_eq_fintypeCard]
    rfl
  exact ((Fintype.bijective_iff_injective_and_card _).2
    ⟨compute_append_pair_injective bytes, hcard⟩).existsUnique target

/-- The bits of the checksum are the coefficients of the remainder; the checksum of a sum of messages is the sum of
their checksums; and of all pairs of bytes exactly one takes the checksum of a message to a given value. -/
theorem compute_is_remainder (bytes : List UInt8) :
    (∀ i, ((messagePolynomial bytes * X ^ 16) %ₘ (X ^ 16 + X ^ 15 + X ^ 2 + 1)).coeff i =
      if (compute bytes).toNat.testBit i then 1 else 0) ∧
    (∀ other, other.length = bytes.length →
      compute (List.zipWith (· ^^^ ·) bytes other) = compute bytes ^^^ compute other) ∧
    ∀ target, ∃! pair : UInt8 × UInt8, compute (bytes ++ [pair.1, pair.2]) = target := by
  refine ⟨?_, fun other h => compute_zipWith_xor h.symm, existsUnique_append_pair bytes⟩
  intro i
  rw [← coeff_registerPolynomial, registerPolynomial_compute]
  rfl

/-- Two status frames whose last bits differ: their checksums differ by that of the difference. -/
theorem compute_is_remainder_status :
    [0x04, 0x11].length = [(0x04 : UInt8), 0x91].length ∧
      compute [0x00, 0x80] = compute [0x04, 0x91] ^^^ compute [0x04, 0x11] ∧ compute [0x04, 0x11] = 0x4333 ∧
      compute [0x00, 0x80] = polynomial := by
  have hlength : [0x04, 0x11].length = [(0x04 : UInt8), 0x91].length := rfl
  exact ⟨hlength, (compute_is_remainder [0x04, 0x91]).2.1 [0x04, 0x11] hlength, by decide, by decide⟩

end SecureElement.Crc16
