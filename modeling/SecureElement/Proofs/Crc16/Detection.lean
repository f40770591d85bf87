import SecureElement.Proofs.Crc16.Residue
/-!
# Damaged frames

A frame is valid exactly if the powers that its set bits stand for add up to nothing. Flipping bits adds the powers
of these bits, so the check fails after an odd number of flips, after two of them at any distance that fits a
frame, and after a burst of at most sixteen bits in what the checksum covers.
-/

namespace SecureElement.Crc16

open Polynomial Residue

/-! ## Frames -/

/-- The power that a bit of a frame stands for. The checksum travels lowest bit first, after the covered part. -/
def weight (length k : Nat) : Nat :=
  if k < 8 * (length - 2) then 8 * length - 1 - k else k - 8 * (length - 2)

theorem weight_lt {length k : Nat} (h : k < 8 * length) : weight length k < 8 * length := by
  unfold weight
  split <;> omega

theorem weight_injective {length j k : Nat} (hj : j < 8 * length) (hk : k < 8 * length)
    (h : weight length j = weight length k) : j = k := by
  unfold weight at h
  split at h <;> split at h <;> omega

noncomputable def syndrome (frame : List UInt8) : Residue :=
  ∑ k ∈ Finset.range (8 * frame.length), term (bitAt frame k) (weight frame.length k)

theorem toList_ofUInt16_eq_iff {register : UInt16} {low high : UInt8} :
    (Bytes.ofUInt16 register).toList = [low, high] ↔ register.toNat = 2 ^ 8 * high.toNat + low.toNat := by
  have hregister := register.toNat_lt
  have hlow := low.toNat_lt
  have hhigh := high.toNat_lt
  have hbyte : register.toUInt8 = low ↔ register.toNat % 256 = low.toNat := by
    rw [← UInt8.toNat_inj, UInt16.toNat_toUInt8]
  have hbyte' : (register >>> 8).toUInt8 = high ↔ register.toNat / 256 % 256 = high.toNat := by
    rw [← UInt8.toNat_inj, UInt16.toNat_toUInt8, UInt16.toNat_shiftRight, Nat.shiftRight_eq_div_pow]
    rfl
  rw [Bytes.ofUInt16, Bytes.toList_pair, List.cons.injEq, List.cons.injEq, hbyte, hbyte']
  simp only [and_true]
  omega

theorem residue_of_bytes {register : UInt16} {low high : UInt8}
    (h : register.toNat = 2 ^ 8 * high.toNat + low.toNat) :
    residue register = ∑ i ∈ Finset.range 16, term (bitAt [low, high] i) i := by
  refine Finset.sum_congr rfl fun i hi => congrArg (term · i) ?_
  have hlt := Finset.mem_range.1 hi
  rw [h, Nat.testBit_two_pow_mul_add _ low.toNat_lt]
  unfold bitAt
  split
  · next hlow => rw [Nat.div_eq_of_lt hlow, Nat.mod_eq_of_lt hlow]; rfl
  · next hlow =>
    have hdiv : i / 8 = 1 := by omega
    have hmod : i % 8 = i - 8 := by omega
    rw [hdiv, hmod]
    rfl

theorem bitAt_append_left {bytes rest : List UInt8} {k : Nat} (h : k < 8 * bytes.length) :
    bitAt (bytes ++ rest) k = bitAt bytes k := by
  unfold bitAt
  rw [List.getD_append _ _ _ _ (by omega)]

theorem bitAt_append_right (bytes rest : List UInt8) (k : Nat) :
    bitAt (bytes ++ rest) (8 * bytes.length + k) = bitAt rest k := by
  unfold bitAt
  rw [List.getD_append_right _ _ _ _ (by omega), Nat.mul_add_mod, Nat.mul_add_div (by decide), Nat.add_sub_cancel_left]

theorem syndrome_append (body : List UInt8) {register : UInt16} {low high : UInt8}
    (h : register.toNat = 2 ^ 8 * high.toNat + low.toNat) :
    syndrome (body ++ [low, high]) = residue (compute body) + residue register := by
  have hlength : (body ++ [low, high]).length = body.length + 2 := by simp
  have hbody : ∀ k ∈ Finset.range (8 * body.length),
      term (bitAt (body ++ [low, high]) k) (weight (body.length + 2) k) =
        term (bitAt body k) (8 * body.length + 15 - k) := by
    intro k hk
    have hlt := Finset.mem_range.1 hk
    have hweight : weight (body.length + 2) k = 8 * body.length + 15 - k := by
      rw [weight, Nat.add_sub_cancel, if_pos hlt]
      omega
    rw [bitAt_append_left hlt, hweight]
  have hcrc : ∀ i ∈ Finset.range 16,
      term (bitAt (body ++ [low, high]) (8 * body.length + i)) (weight (body.length + 2) (8 * body.length + i)) =
        term (bitAt [low, high] i) i := by
    intro i _
    have hweight : weight (body.length + 2) (8 * body.length + i) = i := by
      rw [weight, Nat.add_sub_cancel, if_neg (by omega), Nat.add_sub_cancel_left]
    rw [bitAt_append_right, hweight]
  rw [syndrome, hlength, Nat.mul_add, Finset.sum_range_add, Finset.sum_congr rfl hbody, Finset.sum_congr rfl hcrc,
    ← residue_compute, ← residue_of_bytes h]

/-- A frame is valid exactly if its set bits add up to nothing. -/
theorem isValid_iff_syndrome {frame : List UInt8} (h : 2 ≤ frame.length) :
    isValid frame = true ↔ syndrome frame = 0 := by
  obtain ⟨low, high, hcrc⟩ : ∃ low high, frame.drop (frame.length - 2) = [low, high] := by
    apply List.length_eq_two.1
    rw [List.length_drop]
    omega
  have hregister : (UInt16.ofNat (2 ^ 8 * high.toNat + low.toNat)).toNat = 2 ^ 8 * high.toNat + low.toNat := by
    have hlow := low.toNat_lt
    have hhigh := high.toNat_lt
    rw [UInt16.toNat_ofNat']
    omega
  have hframe := List.take_append_drop (frame.length - 2) frame
  rw [hcrc] at hframe
  rw [← hframe, syndrome_append _ hregister, add_eq_zero_iff, residue_injective.eq_iff, hframe, isValid,
    decide_eq_true h, Bool.true_and, hcrc, beq_iff_eq, trailer, toList_ofUInt16_eq_iff, ← UInt16.toNat_inj,
    hregister]

/-! ## Flips -/

def flipMask (flips : Finset Nat) (index : Nat) : UInt8 :=
  UInt8.ofNat (Nat.ofBits fun i : Fin 8 => decide (8 * index + i.val ∈ flips))

def flipBits (flips : Finset Nat) (bytes : List UInt8) : List UInt8 :=
  bytes.mapIdx fun index byte => byte ^^^ flipMask flips index

@[simp] theorem length_flipBits (flips : Finset Nat) (bytes : List UInt8) :
    (flipBits flips bytes).length = bytes.length := by
  simp [flipBits]

theorem testBit_flipMask (flips : Finset Nat) (index i : Nat) :
    (flipMask flips index).toNat.testBit i = decide (i < 8 ∧ 8 * index + i ∈ flips) := by
  have hmask : (flipMask flips index).toNat = Nat.ofBits fun i : Fin 8 => decide (8 * index + i.val ∈ flips) := by
    rw [flipMask, UInt8.toNat_ofNat']
    exact Nat.mod_eq_of_lt (Nat.ofBits_lt_two_pow _)
  rw [hmask]
  by_cases h : i < 8
  · rw [Nat.testBit_ofBits_lt _ _ h, decide_eq_decide]
    exact ⟨fun hmem => ⟨h, hmem⟩, fun hboth => hboth.2⟩
  · rw [Nat.testBit_ofBits_ge _ _ (Nat.not_lt.1 h), decide_eq_false fun hboth => h hboth.1]

theorem bitAt_flipBits (flips : Finset Nat) {bytes : List UInt8} {k : Nat} (h : k < 8 * bytes.length) :
    bitAt (flipBits flips bytes) k = (bitAt bytes k ^^ decide (k ∈ flips)) := by
  have hindex : k / 8 < bytes.length := by omega
  have hbyte : (flipBits flips bytes).getD (k / 8) 0 = bytes.getD (k / 8) 0 ^^^ flipMask flips (k / 8) := by
    rw [List.getD_eq_getElem _ _ (by rw [length_flipBits]; exact hindex), List.getD_eq_getElem _ _ hindex]
    simp [flipBits]
  have hmask : decide (k % 8 < 8 ∧ 8 * (k / 8) + k % 8 ∈ flips) = decide (k ∈ flips) := by
    rw [Nat.div_add_mod, decide_eq_decide, and_iff_right (Nat.mod_lt _ (by decide))]
  rw [bitAt, hbyte, UInt8.toNat_xor, Nat.testBit_xor, testBit_flipMask, hmask, bitAt]

theorem syndrome_flipBits {flips : Finset Nat} {frame : List UInt8} (h : flips ⊆ Finset.range (8 * frame.length)) :
    syndrome (flipBits flips frame) = syndrome frame + ∑ k ∈ flips, x ^ weight frame.length k := by
  rw [← sum_term_mem h, syndrome, syndrome, length_flipBits, ← Finset.sum_add_distrib]
  refine Finset.sum_congr rfl fun k hk => ?_
  rw [bitAt_flipBits flips (Finset.mem_range.1 hk), term_xor]

theorem isValid_flipBits {flips : Finset Nat} {frame : List UInt8} (hvalid : isValid frame = true)
    (hflips : flips ⊆ Finset.range (8 * frame.length)) (hsum : ∑ k ∈ flips, x ^ weight frame.length k ≠ 0) :
    isValid (flipBits flips frame) = false := by
  have hlength : 2 ≤ frame.length := by
    rw [isValid, Bool.and_eq_true, decide_eq_true_eq] at hvalid
    exact hvalid.1
  rw [isValid_iff_syndrome hlength] at hvalid
  rw [← Bool.not_eq_true, isValid_iff_syndrome (by rw [length_flipBits]; exact hlength), syndrome_flipBits hflips,
    hvalid, zero_add]
  exact hsum

/-! ## What no flips add up to -/

/-- Taking `x` for 1 counts the powers of a sum, up to even numbers. -/
theorem sum_ne_zero_of_odd {flips : Finset Nat} (length : Nat) (h : Odd flips.card) :
    ∑ k ∈ flips, x ^ weight length k ≠ 0 := by
  have hone : generator.eval₂ (RingHom.id (ZMod 2)) 1 = 0 := by
    unfold generator
    simp only [eval₂_add, eval₂_X_pow, eval₂_one, one_pow]
    decide
  have hx : AdjoinRoot.lift (RingHom.id (ZMod 2)) 1 hone x = 1 := AdjoinRoot.lift_root hone
  intro hsum
  have hcount := congrArg (AdjoinRoot.lift (RingHom.id (ZMod 2)) 1 hone) hsum
  simp only [map_sum, map_pow, hx, one_pow, map_zero, Finset.sum_const, nsmul_eq_mul, mul_one] at hcount
  rw [ZMod.natCast_eq_zero_iff_even, ← Nat.not_odd_iff_even] at hcount
  exact hcount h

/-- Whether a register stays off 1 for the given number of shifts. -/
def avoidsOne (register : UInt16) : Nat → Bool
  | 0 => true
  | count + 1 => register != 1 && avoidsOne (shiftBit register false) count

theorem residue_ne_of_avoidsOne {register : UInt16} {count : Nat} (h : avoidsOne register count = true) :
    ∀ i < count, x ^ i * residue register ≠ 1 := by
  induction count generalizing register with
  | zero =>
    intro i hi
    exact absurd hi (Nat.not_lt_zero i)
  | succ count ih =>
    rw [avoidsOne, Bool.and_eq_true, bne_iff_ne] at h
    intro i hi
    cases i with
    | zero =>
      rw [pow_zero, one_mul, ← residue_one]
      exact fun hone => h.1 (residue_injective hone)
    | succ i =>
      have hrest := ih h.2 i (by omega)
      rwa [residue_shiftBit, term_false, add_zero, ← mul_assoc, ← pow_succ] at hrest

/-- The powers of `x` do not return to 1 within the bits of a frame. -/
theorem pow_ne_one {d : Nat} (hpos : 0 < d) (h : d < 2040) : x ^ d ≠ 1 := by
  have havoids : avoidsOne (shiftBit 1 false) 2039 = true := by
    decide +kernel
  obtain ⟨i, rfl⟩ := Nat.exists_eq_succ_of_ne_zero (Nat.ne_of_gt hpos)
  have hne := residue_ne_of_avoidsOne havoids i (by omega)
  rwa [residue_shiftBit, term_false, add_zero, residue_one, mul_one, ← pow_succ] at hne

theorem pow_ne_pow {a b : Nat} (hlt : a < b) (h : b < 2040) : x ^ a ≠ x ^ b := by
  intro hpow
  have hsplit : x ^ a * x ^ (b - a) = x ^ a * 1 := by
    rw [← pow_add, Nat.add_sub_cancel' hlt.le, mul_one, hpow]
  exact pow_ne_one (by omega) (by omega) ((isUnit_x.pow a).mul_left_cancel hsplit)

theorem sum_ne_zero_of_two {flips : Finset Nat} {length : Nat} (hlength : length ≤ 255)
    (hflips : flips ⊆ Finset.range (8 * length)) (h : flips.card = 2) :
    ∑ k ∈ flips, x ^ weight length k ≠ 0 := by
  obtain ⟨j, k, hne, rfl⟩ := Finset.card_eq_two.1 h
  have hj : j < 8 * length := Finset.mem_range.1 (hflips (by simp))
  have hk : k < 8 * length := Finset.mem_range.1 (hflips (by simp))
  have hjweight := weight_lt hj
  have hkweight := weight_lt hk
  rw [Finset.sum_pair hne, Ne, add_eq_zero_iff]
  rcases lt_or_gt_of_ne fun hweight => hne (weight_injective hj hk hweight) with hlt | hlt
  · exact pow_ne_pow hlt (by omega)
  · exact (pow_ne_pow hlt (by omega)).symm

/-- The powers of a burst are a common power times powers below the degree of the generator. -/
theorem sum_ne_zero_of_burst {flips : Finset Nat} {length start : Nat} (hne : flips.Nonempty)
    (hcovered : flips ⊆ Finset.range (8 * (length - 2))) (hburst : flips ⊆ Finset.Ico start (start + 16)) :
    ∑ k ∈ flips, x ^ weight length k ≠ 0 := by
  have hbounds : ∀ k ∈ flips, k < 8 * (length - 2) ∧ start ≤ k ∧ k < start + 16 := fun k hk =>
    ⟨Finset.mem_range.1 (hcovered hk), Finset.mem_Ico.1 (hburst hk)⟩
  have hweight : ∀ k ∈ flips, x ^ weight length k = x ^ (8 * length - 16 - start) * x ^ (start + 15 - k) := by
    intro k hk
    obtain ⟨hlt, hstart, hstop⟩ := hbounds k hk
    rw [← pow_add, weight, if_pos hlt]
    congr 1
    omega
  have hinjective : Set.InjOn (fun k => start + 15 - k) flips := by
    intro j hj k hk hjk
    have hjbounds := hbounds j hj
    have hkbounds := hbounds k hk
    dsimp only at hjk
    omega
  have himage : ∑ k ∈ flips, x ^ (start + 15 - k) = ∑ i ∈ flips.image (fun k => start + 15 - k), x ^ i :=
    (Finset.sum_image hinjective).symm
  rw [Finset.sum_congr rfl hweight, ← Finset.mul_sum, Ne, (isUnit_x.pow _).mul_right_eq_zero, himage]
  refine sum_pow_ne_zero (hne.image _) ?_
  intro i hi
  obtain ⟨k, hk, rfl⟩ := Finset.mem_image.1 hi
  have hkbounds := hbounds k hk
  omega

/-! ## What the checksum gives away -/

/-- The flips of bits of a frame of `length` bytes that its checksum always gives away. -/
inductive Corruption (length : Nat) (flips : Finset Nat) : Prop where
  | odd (hflips : flips ⊆ Finset.range (8 * length)) (hodd : Odd flips.card)
  | two (hflips : flips ⊆ Finset.range (8 * length)) (htwo : flips.card = 2)
  /-- Within sixteen consecutive bits of what the checksum covers. -/
  | burst (start : Nat) (hne : flips.Nonempty) (hcovered : flips ⊆ Finset.range (8 * (length - 2)))
      (hburst : flips ⊆ Finset.Ico start (start + 16))

theorem Corruption.isValid_flipBits {flips : Finset Nat} {frame : List UInt8} (hlength : frame.length ≤ 255)
    (hvalid : isValid frame = true) (h : Corruption frame.length flips) : isValid (flipBits flips frame) = false := by
  cases h with
  | odd hflips hodd => exact Crc16.isValid_flipBits hvalid hflips (sum_ne_zero_of_odd frame.length hodd)
  | two hflips htwo => exact Crc16.isValid_flipBits hvalid hflips (sum_ne_zero_of_two hlength hflips htwo)
  | burst start hne hcovered hburst =>
    have hflips : flips ⊆ Finset.range (8 * frame.length) :=
      hcovered.trans (Finset.range_subset_range.2 (by omega))
    exact Crc16.isValid_flipBits hvalid hflips (sum_ne_zero_of_burst hne hcovered hburst)

end SecureElement.Crc16
