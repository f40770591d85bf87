import SecureElement.Proofs.Digest.Messages
/-!
# Verification on the host

A response is accepted exactly if it is the digest that the inputs call for, over its full length. One that is too
short or too long is no answer at all: the check fails.
-/

namespace SecureElement

/-! ## The expected digest -/

def plainMessage (first second : List UInt8) (opcode mode : UInt8) (slot : UInt16) : List UInt8 :=
  first ++ second ++ [opcode, mode, slot.toUInt8, (slot >>> 8).toUInt8] ++ List.replicate 11 0 ++ [0xEE] ++
    List.replicate 4 0 ++ [0x01, 0x23] ++ List.replicate 2 0

theorem challengeMessage_plain (first second : Block) (opcode : Opcode) (mode : UInt8) (slot : UInt16) :
    challengeMessage first second opcode mode slot {} =
      plainMessage first.toList second.toList opcode.code mode slot := by
  simp [challengeMessage, challengeFields, plainMessage, Message.Field.encode, Bytes.ofUInt16, serialTail,
    serialHead]

section Digests

variable {challenge key : List UInt8} (mode : UInt8) (slot : UInt16)
variable (hchallenge : challenge.length = 32) (hkey : key.length = 32)
include hchallenge hkey

theorem plainMac_ofList :
    plainMac (.ofList 32 challenge) (.ofList 32 key) mode slot =
      sha256 (plainMessage key challenge 0x08 mode slot) := by
  rw [plainMac, challengeMessage_plain, Bytes.toList_ofList_of_length hchallenge,
    Bytes.toList_ofList_of_length hkey]
  rfl

theorem plainHmac_ofList :
    plainHmac (.ofList 32 challenge) (.ofList 32 key) slot =
      hmacSha256 key (plainMessage (List.replicate 32 0) challenge 0x11 0x04 slot) := by
  rw [plainHmac, challengeMessage_plain, Bytes.toList_ofList_of_length hchallenge,
    Bytes.toList_ofList_of_length hkey, Bytes.toList_zero]
  rfl

end Digests

/-! ## The checks -/

theorem verifyMac_eq (challenge response key : List UInt8) (mode : UInt8) (slot : UInt16) :
    verifyMac challenge response key mode slot =
      checked [.fixed "challenge response" 32 response, .fixed "challenge" 32 challenge, .fixed "key" 32 key]
        (decide (plainMac (.ofList 32 challenge) (.ofList 32 key) mode slot = .ofList 32 response)) := by
  apply exactly_bind
  rw [macDigest_eq, checked_map, digestEq_toList]
  rfl

theorem verifyHmac_eq (challenge response key : List UInt8) (slot : UInt16) :
    verifyHmac challenge response key slot =
      checked [.fixed "challenge response" 32 response, .fixed "key" 32 key, .fixed "challenge" 32 challenge]
        (decide (plainHmac (.ofList 32 challenge) (.ofList 32 key) slot = .ofList 32 response)) := by
  apply exactly_bind
  rw [hmacDigest_eq, checked_map, digestEq_toList]
  rfl

/-- A check of responses that decides, once its other inputs are as they should be, whether the response is the
digest, and that fails where an input is not as it should be. -/
structure Decides (check : List UInt8 → Except DigestError Bool) (inputs : Prop) (digest : Block) : Prop where
  accepts : ∀ response, check response = .ok true ↔
    inputs ∧ response.length = 32 ∧ response = digest.toList
  rejects : ∀ response, check response = .ok false ↔
    inputs ∧ response.length = 32 ∧ ∃ i < 32, response[i]? ≠ digest.toList[i]?
  fails : ∀ response, (∃ error, check response = .error error) ↔ ¬ (inputs ∧ response.length = 32)
  truncated : ∀ (response : List UInt8) n, n < 32 → check (response.take n) ≠ .ok true

theorem differs_iff {response : List UInt8} (h : response.length = 32) (digest : Block) :
    (∃ i < 32, response[i]? ≠ digest.toList[i]?) ↔ response ≠ digest.toList := by
  constructor
  · rintro ⟨i, _, hi⟩ rfl
    exact hi rfl
  · intro hne
    by_contra! hall
    apply hne
    apply List.ext_getElem?
    intro i
    by_cases hi : i < 32
    · exact hall i hi
    · rw [List.getElem?_eq_none (by omega), List.getElem?_eq_none (by simpa using hi)]

theorem decides_of_eq {check : List UInt8 → Except DigestError Bool} {others : List Input} {inputs : Prop}
    {expected digest : Block}
    (hcheck : ∀ response, check response =
      checked (.fixed "challenge response" 32 response :: others) (decide (expected = .ofList 32 response)))
    (hinputs : (∀ input ∈ others, input.Fits) ↔ inputs) (hdigest : inputs → expected = digest) :
    Decides check inputs digest := by
  have hfit : ∀ response, (∀ input ∈ Input.fixed "challenge response" 32 response :: others, input.Fits) ↔
      inputs ∧ response.length = 32 := by
    intro response
    rw [List.forall_mem_cons, hinputs, and_comm]
    rfl
  have hequal : ∀ response, inputs → response.length = 32 →
      (expected = Bytes.ofList 32 response ↔ response = digest.toList) := by
    intro response hin hlength
    rw [hdigest hin, ← Vector.toList_inj, Bytes.toList_ofList_of_length hlength, eq_comm]
  have haccepts : ∀ response, check response = .ok true ↔
      inputs ∧ response.length = 32 ∧ response = digest.toList := by
    intro response
    rw [hcheck, checked_eq_ok_iff, hfit, decide_eq_true_iff, and_assoc]
    exact and_congr_right fun hin => and_congr_right fun hlength => hequal response hin hlength
  constructor
  case accepts => exact haccepts
  case rejects =>
    intro response
    rw [hcheck, checked_eq_ok_iff, hfit, decide_eq_false_iff_not, and_assoc]
    refine and_congr_right fun hin => and_congr_right fun hlength => ?_
    rw [differs_iff hlength, hequal response hin hlength]
  case fails =>
    intro response
    rw [hcheck, checked_eq_error_iff, hfit]
  case truncated =>
    intro response n hn haccept
    have hlength := ((haccepts _).1 haccept).2.1
    rw [List.length_take] at hlength
    omega

/-- The checks of a MAC and of an HMAC without device bytes are exact. -/
theorem verification_exact (challenge key : List UInt8) (slot : UInt16) :
    (∀ mode, Decides (fun response => verifyMac challenge response key mode slot)
      (challenge.length = 32 ∧ key.length = 32)
      (sha256 (plainMessage key challenge 0x08 mode slot))) ∧
    Decides (fun response => verifyHmac challenge response key slot)
      (challenge.length = 32 ∧ key.length = 32)
      (hmacSha256 key (plainMessage (List.replicate 32 0) challenge 0x11 0x04 slot)) := by
  constructor
  · intro mode
    refine decides_of_eq (fun response => verifyMac_eq challenge response key mode slot) ?_ ?_
    · simp [Input.Fits]
    · rintro ⟨hchallenge, hkey⟩
      exact plainMac_ofList mode slot hchallenge hkey
  · refine decides_of_eq (fun response => verifyHmac_eq challenge response key slot) ?_ ?_
    · simp [Input.Fits, and_comm]
    · rintro ⟨hchallenge, hkey⟩
      exact plainHmac_ofList slot hchallenge hkey

end SecureElement
