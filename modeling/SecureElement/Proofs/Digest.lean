import Mathlib.Data.List.Basic
import SecureElement.Digest.Mac
/-!
# Digests on the host

What the host computes from inputs of the right lengths, and what its checks of a digest come to.
-/

namespace SecureElement

/-! ## Comparison -/

theorem foldl_or_eq_zero (acc : UInt8) (bytes : List UInt8) :
    bytes.foldl (· ||| ·) acc = 0 ↔ acc = 0 ∧ ∀ byte ∈ bytes, byte = 0 := by
  induction bytes generalizing acc with
  | nil => simp
  | cons byte bytes ih => simp [ih, UInt8.or_eq_zero_iff, and_assoc]

theorem zipWith_xor_eq_zero {a b : List UInt8} (h : a.length = b.length) :
    (∀ byte ∈ List.zipWith (· ^^^ ·) a b, byte = 0) ↔ a = b := by
  induction a generalizing b with
  | nil => simp [List.length_eq_zero_iff.1 h.symm]
  | cons x a ih =>
    cases b with
    | nil => simp at h
    | cons y b => simp [ih (Nat.succ.inj h)]

/-- The comparison accepts equal digests and nothing else; of two empty ones it says no. -/
theorem digestEq_iff (a b : List UInt8) : digestEq a b = true ↔ a = b ∧ a ≠ [] := by
  by_cases h : a.length = b.length
  · simp [digestEq, h, foldl_or_eq_zero, zipWith_xor_eq_zero h, and_comm]
  · have hne : a ≠ b := fun hab => h (congrArg List.length hab)
    simp [digestEq, h, hne]

theorem digestEq_toList (a b : Block) : digestEq a.toList b.toList = decide (a = b) := by
  have hlong : a.toList ≠ [] := by
    intro h
    have hlength := congrArg List.length h
    simp at hlength
  rw [Bool.eq_iff_iff, digestEq_iff, decide_eq_true_iff, Vector.toList_inj]
  exact and_iff_left hlong

/-! ## MAC and HMAC -/

theorem macDigest_toList (first second : Block) (mode : UInt8) (slot : UInt16) (other : OtherData) :
    macDigest second.toList first.toList mode slot other =
      .ok (sha256 (challengeMessage first second .mac mode slot other)) := by
  simp only [macDigest, macMessage, OtherData.ofLists, exactly_toList, assemble_challengeFields, bind, Except.bind,
    pure, Except.pure]

theorem hmacDigest_toList (challenge key : Block) (mode : UInt8) (slot : UInt16) (other : OtherData) :
    hmacDigest challenge.toList key.toList mode slot other =
      .ok (hmacSha256 key.toList (challengeMessage (Bytes.zero 32) challenge .hmac mode slot other)) := by
  simp only [hmacDigest, hmacMessage, OtherData.ofLists, exactly_toList, assemble_challengeFields, bind, Except.bind,
    pure, Except.pure]

theorem exactly_eq_error {what : String} {n : Nat} {bytes : List UInt8} (h : bytes.length ≠ n) :
    exactly what n bytes = .error (.invalidLength what n bytes.length) := by
  rw [exactly, Bytes.ofList?_eq_none_iff.2 h]

/-- The MAC that is expected without any device bytes. -/
def plainMac (challenge key : Block) (mode : UInt8) (slot : UInt16) : Block :=
  sha256 (challengeMessage key challenge .mac mode slot {})

def plainHmac (challenge key : Block) (slot : UInt16) : Block :=
  hmacSha256 key.toList (challengeMessage (Bytes.zero 32) challenge .hmac hmacMode slot {})

theorem verifyMac_toList (challenge response key : Block) (mode : UInt8) (slot : UInt16) :
    verifyMac challenge.toList response.toList key.toList mode slot =
      .ok (decide (plainMac challenge key mode slot = response)) := by
  rw [← digestEq_toList]
  simp only [verifyMac, exactly_toList, macDigest_toList, bind, Except.bind]
  rfl

theorem verifyHmac_toList (challenge response key : Block) (slot : UInt16) :
    verifyHmac challenge.toList response.toList key.toList slot =
      .ok (decide (plainHmac challenge key slot = response)) := by
  rw [← digestEq_toList]
  simp only [verifyHmac, exactly_toList, hmacDigest_toList, bind, Except.bind]
  rfl

theorem verifyHmac_key_length (challenge : List UInt8) (response : Block) {key : List UInt8} (slot : UInt16)
    (hkey : key.length ≠ 32) :
    verifyHmac challenge response.toList key slot = .error (.invalidLength "key" 32 key.length) := by
  simp only [verifyHmac, hmacDigest, exactly_toList, exactly_eq_error hkey, bind, Except.bind]

end SecureElement
