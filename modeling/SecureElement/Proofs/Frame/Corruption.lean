import SecureElement.Proofs.Crc16.Detection
import SecureElement.Proofs.Frame.Response
/-!
# Damaged responses

An answer that was damaged on the way is not delivered. While the count byte is intact the checksum gives the damage
away, and a count byte with one wrong bit announces a length that was not expected, unless it announces a status.
-/

namespace SecureElement

namespace Crc16

theorem flipMask_eq_zero {flips : Finset Nat} {index : Nat} (h : ∀ i < 8, 8 * index + i ∉ flips) :
    flipMask flips index = 0 := by
  apply UInt8.toNat_inj.1
  apply Nat.eq_of_testBit_eq
  intro i
  rw [testBit_flipMask, UInt8.toNat_zero, Nat.zero_testBit]
  exact decide_eq_false fun hflipped => h i hflipped.1 hflipped.2

theorem toNat_flipMask_singleton {k : Nat} (h : k < 8) : (flipMask {k} 0).toNat = 2 ^ k := by
  apply Nat.eq_of_testBit_eq
  intro i
  rw [testBit_flipMask, Nat.testBit_two_pow, decide_eq_decide, Finset.mem_singleton]
  omega

end Crc16

namespace Response

open Crc16

def OneBitApart (a b : Nat) : Prop :=
  ∃ i, a ^^^ b = 2 ^ i

variable {payload : List UInt8}

theorem announced_flipBits (flips : Finset Nat) (rest : List UInt8) (h : payload.length ≤ 252) :
    announced (flipBits flips (encode payload) ++ rest) = (payload.length + 3) ^^^ (flipMask flips 0).toNat := by
  have hcount : (UInt8.ofNat (payload.length + 3)).toNat = payload.length + 3 := by
    rw [UInt8.toNat_ofNat']
    omega
  rw [encode_eq, flipBits, List.mapIdx_cons, List.cons_append, announced, List.headD_cons, UInt8.toNat_xor, hcount]

theorem parse_corrupted {flips : Finset Nat} (rest : List UInt8) (hmin : 1 ≤ payload.length)
    (hmax : payload.length ≤ 252) (hflips : Corruption (payload.length + 3) flips) (hcount : ∀ k ∈ flips, 8 ≤ k) :
    parse (flipBits flips (encode payload) ++ rest) payload.length = .error .invalidCrc := by
  have hlength : (flipBits flips (encode payload)).length = payload.length + 3 := by
    rw [length_flipBits, length_encode]
  have hmask : flipMask flips 0 = 0 := flipMask_eq_zero fun i hi hmem => by
    have hlow := hcount _ hmem
    omega
  have hannounced : announced (flipBits flips (encode payload) ++ rest) = payload.length + 3 := by
    rw [announced_flipBits flips rest hmax, hmask, UInt8.toNat_zero, Nat.xor_zero]
  have hframe : (flipBits flips (encode payload) ++ rest).take (payload.length + 3) =
      flipBits flips (encode payload) := List.take_left' hlength
  have hinvalid : isValid (flipBits flips (encode payload)) = false := by
    refine Corruption.isValid_flipBits ?_ (isValid_encode payload) ?_
    · rw [length_encode]
      omega
    · rwa [length_encode]
  rw [parse_eq _ (by rw [List.length_append, hlength]; omega), hannounced, frameLength_of_le hmax]
  by_cases hstatus : payload.length + 3 = 4
  · rw [hstatus] at hframe
    rw [if_pos hstatus, hframe, hinvalid, if_neg Bool.false_ne_true]
  · rw [if_neg hstatus, if_neg (not_not.2 rfl), if_neg (by rw [List.length_append]; omega), hframe, hinvalid,
      if_neg Bool.false_ne_true]

theorem parse_count_flipped {k : Nat} (rest : List UInt8) (hmin : 1 ≤ payload.length) (hmax : payload.length ≤ 252)
    (hk : k < 8) (hapart : ¬ OneBitApart (payload.length + 3) 4) :
    parse (flipBits {k} (encode payload) ++ rest) payload.length =
      .error (.unexpectedLength (payload.length + 3) ((payload.length + 3) ^^^ 2 ^ k)) := by
  have hannounced := announced_flipBits {k} rest hmax
  rw [toNat_flipMask_singleton hk] at hannounced
  have hstatus : (payload.length + 3) ^^^ 2 ^ k ≠ 4 := by
    intro h
    refine hapart ⟨k, ?_⟩
    rw [← h, ← Nat.xor_assoc, Nat.xor_self, Nat.zero_xor]
  have hcount : (payload.length + 3) ^^^ 2 ^ k ≠ payload.length + 3 := by
    simp
  rw [parse_eq _ (by rw [List.length_append, length_flipBits, length_encode]; omega), hannounced,
    frameLength_of_le hmax, if_neg hstatus, if_pos hcount]

theorem oneBitApart_iff {a b n : Nat} (ha : a < 2 ^ n) (hb : b < 2 ^ n) :
    OneBitApart a b ↔ ∃ i < n, a ^^^ b = 2 ^ i := by
  constructor
  · rintro ⟨i, hi⟩
    have hlt := Nat.xor_lt_two_pow ha hb
    rw [hi] at hlt
    exact ⟨i, (Nat.pow_lt_pow_iff_right (by decide)).1 hlt, hi⟩
  · rintro ⟨i, _, hi⟩
    exact ⟨i, hi⟩

/-- No wrong bit in the count byte makes a status of an answer of one of the lengths that the commands expect. -/
theorem not_oneBitApart_expected : ∀ length ∈ [1, 4, 32], ¬ OneBitApart (length + 3) 4 := by
  intro length hlength
  have hsmall : length + 3 < 2 ^ 6 := by
    revert length
    decide
  rw [oneBitApart_iff hsmall (by decide)]
  revert length
  decide

/-! ## What is never delivered -/

/-- Damaged answers are never delivered. Of every valid frame that a count byte can announce, the checksum gives
away an odd number of flips, two flips, and a burst of at most sixteen bits in what it covers. If such flips leave
the count byte of a response intact, the response is refused for its checksum, whatever follows it in the buffer; and
one flip in the count byte lets it announce an unexpected length, unless it then announces a status, which cannot
happen for the lengths 1, 4 and 32 that the commands expect. -/
theorem corruption_refused :
    (∀ (frame : List UInt8) (flips : Finset Nat), frame.length ≤ 255 → isValid frame = true →
      Corruption frame.length flips → isValid (flipBits flips frame) = false) ∧
    (∀ payload rest : List UInt8, 1 ≤ payload.length → payload.length ≤ 252 →
      (∀ flips : Finset Nat, Corruption (payload.length + 3) flips → (∀ k ∈ flips, 8 ≤ k) →
        parse (flipBits flips (encode payload) ++ rest) payload.length = .error .invalidCrc) ∧
      (¬ OneBitApart (payload.length + 3) 4 → ∀ k < 8,
        parse (flipBits {k} (encode payload) ++ rest) payload.length =
          .error (.unexpectedLength (payload.length + 3) ((payload.length + 3) ^^^ 2 ^ k)))) ∧
    ∀ length ∈ [1, 4, 32], ¬ OneBitApart (length + 3) 4 := by
  refine ⟨fun _ _ hlength hvalid h => h.isValid_flipBits hlength hvalid, fun payload rest hmin hmax => ⟨?_, ?_⟩,
    not_oneBitApart_expected⟩
  · exact fun _ hflips hcount => parse_corrupted rest hmin hmax hflips hcount
  · exact fun hapart _ hk => parse_count_flipped rest hmin hmax hk hapart

/-- A key with a burst in its first bytes, and with a wrong bit in its count byte. -/
theorem corruption_refused_key :
    let key : List UInt8 := List.replicate 32 0xA5
    Corruption 35 {8, 15, 23} ∧
      parse (flipBits {8, 15, 23} (encode key)) 32 = .error .invalidCrc ∧
      parse (flipBits {2} (encode key)) 32 = .error (.unexpectedLength 35 39) := by
  intro key
  have hkey : key.length = 32 := List.length_replicate
  have hburst : Corruption 35 {8, 15, 23} :=
    .burst 8 (by decide) (by decide) (by decide)
  obtain ⟨hintact, hcount⟩ := corruption_refused.2.1 key [] (by rw [hkey]; decide) (by rw [hkey]; decide)
  rw [hkey] at hintact hcount
  have hcrc := hintact {8, 15, 23} hburst (by decide)
  have hlength := hcount (corruption_refused.2.2 32 (by decide)) 2 (by decide)
  rw [List.append_nil] at hcrc hlength
  exact ⟨hburst, hcrc, hlength⟩

end Response

end SecureElement
