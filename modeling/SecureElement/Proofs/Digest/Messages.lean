import SecureElement.Digest.TempKey
import SecureElement.Proofs.Chip.Commands
import SecureElement.Proofs.Digest
/-!
# Digested messages

Every message that is digested says for what it is digested and from what it was made: it determines its purpose
and all the inputs that went into it. It is made if every input has the length it must have, and else the first
input that has not is named.
-/

namespace SecureElement

/-! ## Layouts -/

namespace Message

def Field.SameShape : Field → Field → Prop
  | .byte _, .byte _ => True
  | .bytes a, .bytes b => a.length = b.length
  | .word16 _, .word16 _ => True
  | .zeros m, .zeros n => m = n
  | _, _ => False

theorem Field.SameShape.length_encode {field field' : Field} (h : SameShape field field') :
    field.encode.length = field'.encode.length := by
  cases field <;> cases field' <;> simp_all [SameShape, Field.encode]

theorem Field.SameShape.eq_of_encode {field field' : Field} (h : SameShape field field')
    (heq : field.encode = field'.encode) : field = field' := by
  cases field <;> cases field' <;> first
    | exact h.elim
    | skip
  case byte.byte a b => simpa [Field.encode] using heq
  case bytes.bytes a b => exact congrArg Field.bytes heq
  case word16.word16 a b =>
    have hbytes : Bytes.ofUInt16 a = Bytes.ofUInt16 b := Vector.toList_inj.1 heq
    rw [← Bytes.toUInt16_ofUInt16 a, hbytes, Bytes.toUInt16_ofUInt16]
  case zeros.zeros m n => exact congrArg Field.zeros h

theorem eq_of_encode {fields fields' : List Field} (h : List.Forall₂ Field.SameShape fields fields')
    (heq : encode fields = encode fields') : fields = fields' := by
  induction h with
  | nil => rfl
  | cons hfield _ ih =>
    rw [encode_cons, encode_cons] at heq
    have hsplit := List.append_inj heq hfield.length_encode
    rw [hfield.eq_of_encode hsplit.1, ih hsplit.2]

end Message

/-! ## Purposes -/

/-- What is digested: for which purpose and from which inputs. -/
inductive Digested where
  | mac (challenge key : Block) (mode : UInt8) (slot : UInt16) (other : OtherData)
  /-- The key is no part of the message. -/
  | hmac (challenge : Block) (mode : UInt8) (slot : UInt16) (other : OtherData)
  /-- Only the first bytes of the OTP zone take part. -/
  | nonce (random : Block) (otp : Bytes nonceInputSize)
  | genDig (previous : Block) (slot : UInt8) (key : Block)
  | write (tempKey : Block) (param1 : UInt8) (param2 : Bytes 2) (data : Block)

namespace Digested

def fields : Digested → List Message.Field
  | mac challenge key mode slot other => challengeFields key challenge .mac mode slot other
  | hmac challenge mode slot other => challengeFields (Bytes.zero 32) challenge .hmac mode slot other
  | nonce random otp => nonceFields random otp.toList
  | genDig previous slot key =>
    sessionFields key Opcode.genDig.code Zone.data.bits (Bytes.ofUInt16 slot.toUInt16) previous
  | write tempKey param1 param2 data => sessionFields tempKey Opcode.write.code param1 param2 data

def message (digested : Digested) : List UInt8 :=
  Message.encode digested.fields

def size : Digested → Nat
  | mac .. => 88
  | hmac .. => 88
  | nonce .. => 55
  | genDig .. => 96
  | write .. => 96

@[simp] theorem length_message (digested : Digested) : digested.message.length = digested.size := by
  cases digested with
  | mac challenge key mode slot other => exact length_challengeMessage key challenge .mac mode slot other
  | hmac challenge mode slot other => exact length_challengeMessage (Bytes.zero 32) challenge .hmac mode slot other
  | nonce random otp => exact length_nonceMessage random Vector.length_toList
  | genDig previous slot key => exact length_sessionMessage key _ _ _ previous
  | write tempKey param1 param2 data => exact length_sessionMessage tempKey _ param1 param2 data

theorem sameShape_fields {a b : Digested} (h : a.size = b.size) :
    List.Forall₂ Message.Field.SameShape a.fields b.fields := by
  cases a <;> cases b <;>
    simp [size, fields, challengeFields, nonceFields, sessionFields, Message.Field.SameShape] at h ⊢

theorem fields_injective {a b : Digested} (h : a.fields = b.fields) : a = b := by
  -- Where the purposes differ, so do the layouts or the opcodes.
  cases a <;> cases b <;>
    simp [fields, challengeFields, nonceFields, sessionFields, Opcode.code, Vector.toList_inj] at h
  case mac.mac => simp [OtherData.ext_iff, h]
  case hmac.hmac => simp [OtherData.ext_iff, h]
  case nonce.nonce => simp [h]
  case genDig.genDig _ slot _ _ slot' _ =>
    have hslot : slot = slot' := by
      rw [← Bytes.byte_ofUInt16_toUInt16 slot, h.2.1, Bytes.byte_ofUInt16_toUInt16]
    simp [h, hslot]
  case write.write => simp [h]

/-- No message has two readings. -/
theorem eq_of_message {a b : Digested} (h : a.message = b.message) : a = b := by
  apply fields_injective
  apply Message.eq_of_encode (sameShape_fields _) h
  rw [← length_message, h, length_message]

end Digested

/-! ## Inputs -/

namespace Bytes

/-- The first bytes of a list; past its end there are zeros. -/
def ofList (n : Nat) (bytes : List UInt8) : Bytes n :=
  Vector.ofFn fun i => bytes.getD i 0

theorem toList_ofList {n : Nat} {bytes : List UInt8} (h : n ≤ bytes.length) :
    (ofList n bytes).toList = bytes.take n := by
  apply List.ext_getElem
  · simp [h]
  · intro i hi _
    have hlen : i < bytes.length := by
      rw [Vector.length_toList] at hi
      omega
    simp [ofList, hlen]

theorem toList_ofList_of_length {n : Nat} {bytes : List UInt8} (h : bytes.length = n) :
    (ofList n bytes).toList = bytes := by
  rw [toList_ofList h.ge, List.take_of_length_le h.le]

end Bytes

theorem exactly_eq_ok {what : String} {n : Nat} {bytes : List UInt8} (h : bytes.length = n) :
    exactly what n bytes = .ok (Bytes.ofList n bytes) := by
  rw [← exactly_toList what (Bytes.ofList n bytes), Bytes.toList_ofList_of_length h]

/-- An input together with what is asked of its length. -/
inductive Input where
  | fixed (what : String) (n : Nat) (bytes : List UInt8)
  /-- More bytes of the OTP zone than a nonce takes in. -/
  | otp (bytes : List UInt8)

namespace Input

def Fits : Input → Prop
  | fixed _ n bytes => bytes.length = n
  | otp bytes => nonceInputSize < bytes.length

instance : DecidablePred Fits
  | fixed _ n bytes => inferInstanceAs (Decidable (bytes.length = n))
  | otp bytes => inferInstanceAs (Decidable (nonceInputSize < bytes.length))

def error : Input → DigestError
  | fixed what n bytes => .invalidLength what n bytes.length
  | otp bytes => .otpTooShort "nonce input" (nonceInputSize + 1) bytes.length

end Input

section Checked

variable {α β : Type} {inputs : List Input} {value : α}

/-- The value, if all inputs fit; else what is wrong with the first that does not. -/
def checked (inputs : List Input) (value : α) : Except DigestError α :=
  match inputs.find? fun input => ¬ input.Fits with
  | some input => .error input.error
  | none => .ok value

theorem checked_cons_of_fits {input : Input} (h : input.Fits) :
    checked (input :: inputs) value = checked inputs value := by
  simp [checked, h]

theorem checked_cons_of_not_fits {input : Input} (h : ¬ input.Fits) :
    checked (input :: inputs) value = .error input.error := by
  simp [checked, h]

theorem exactly_bind {what : String} {n : Nat} {bytes : List UInt8} {rest : Bytes n → Except DigestError α}
    (h : rest (Bytes.ofList n bytes) = checked inputs value) :
    (exactly what n bytes >>= rest) = checked (.fixed what n bytes :: inputs) value := by
  by_cases hfits : bytes.length = n
  · rw [checked_cons_of_fits (show (Input.fixed what n bytes).Fits from hfits), exactly_eq_ok hfits]
    exact h
  · rw [checked_cons_of_not_fits (show ¬ (Input.fixed what n bytes).Fits from hfits), exactly_eq_error hfits]
    rfl

theorem checked_map (f : α → β) :
    (checked inputs value >>= fun a => pure (f a)) = checked inputs (f value) := by
  unfold checked
  split <;> rfl

theorem checked_eq_ok_iff {a : α} :
    checked inputs value = .ok a ↔ (∀ input ∈ inputs, input.Fits) ∧ value = a := by
  unfold checked
  cases hfind : inputs.find? fun input => ¬ input.Fits with
  | none =>
    have hfit : ∀ input ∈ inputs, input.Fits := by
      simpa using hfind
    simp only [Except.ok.injEq, iff_true_intro hfit, true_and]
  | some input =>
    have hmisfit : ¬ input.Fits := by
      simpa using List.find?_some hfind
    simp only [reduceCtorEq, false_iff, not_and]
    intro hfit
    exact absurd (hfit input (List.mem_of_find?_eq_some hfind)) hmisfit

theorem checked_eq_error_iff :
    (∃ error, checked inputs value = .error error) ↔ ¬ ∀ input ∈ inputs, input.Fits := by
  have hok : checked inputs value = .ok value ↔ _ := checked_eq_ok_iff
  cases hresult : checked inputs value with
  | ok a =>
    have hfit := (checked_eq_ok_iff.1 hresult).1
    simpa using hfit
  | error e =>
    rw [hresult] at hok
    simpa using hok

end Checked

section Functions

/-! Each function checks its inputs one by one, in its own order, and then digests them. -/

theorem macMessage_eq (challenge key : List UInt8) (mode : UInt8) (slot : UInt16) (otp8 otp3 sn4 sn23 : List UInt8) :
    macMessage challenge key mode slot otp8 otp3 sn4 sn23 =
      checked [.fixed "challenge" 32 challenge, .fixed "key" 32 key, .fixed "otp8" 8 otp8, .fixed "otp3" 3 otp3,
          .fixed "sn4" 4 sn4, .fixed "sn23" 2 sn23]
        (Digested.mac (.ofList 32 challenge) (.ofList 32 key) mode slot
          ⟨.ofList 8 otp8, .ofList 3 otp3, .ofList 4 sn4, .ofList 2 sn23⟩).message := by
  simp only [macMessage, OtherData.ofLists, bind_assoc, pure_bind, assemble_challengeFields]
  exact exactly_bind (exactly_bind (exactly_bind (exactly_bind (exactly_bind (exactly_bind rfl)))))

theorem hmacMessage_eq (challenge : List UInt8) (mode : UInt8) (slot : UInt16) (otp8 otp3 sn4 sn23 : List UInt8) :
    hmacMessage challenge mode slot otp8 otp3 sn4 sn23 =
      checked [.fixed "challenge" 32 challenge, .fixed "otp8" 8 otp8, .fixed "otp3" 3 otp3, .fixed "sn4" 4 sn4,
          .fixed "sn23" 2 sn23]
        (Digested.hmac (.ofList 32 challenge) mode slot
          ⟨.ofList 8 otp8, .ofList 3 otp3, .ofList 4 sn4, .ofList 2 sn23⟩).message := by
  simp only [hmacMessage, OtherData.ofLists, bind_assoc, pure_bind, assemble_challengeFields]
  exact exactly_bind (exactly_bind (exactly_bind (exactly_bind (exactly_bind rfl))))

theorem macDigest_eq (challenge key : List UInt8) (mode : UInt8) (slot : UInt16) (other : OtherData) :
    macDigest challenge key mode slot other =
      checked [.fixed "challenge" 32 challenge, .fixed "key" 32 key]
        (sha256 (Digested.mac (.ofList 32 challenge) (.ofList 32 key) mode slot other).message) := by
  simp only [macDigest, macMessage, OtherData.ofLists, exactly_toList, bind_assoc, pure_bind,
    assemble_challengeFields]
  exact exactly_bind (exactly_bind rfl)

theorem hmacDigest_eq (challenge key : List UInt8) (mode : UInt8) (slot : UInt16) (other : OtherData) :
    hmacDigest challenge key mode slot other =
      checked [.fixed "key" 32 key, .fixed "challenge" 32 challenge]
        (hmacSha256 (Bytes.ofList 32 key).toList
          (Digested.hmac (.ofList 32 challenge) mode slot other).message) := by
  simp only [hmacDigest, hmacMessage, OtherData.ofLists, exactly_toList, bind_assoc, pure_bind,
    assemble_challengeFields]
  exact exactly_bind (exactly_bind rfl)

theorem nonceTempKey_eq (random otp : List UInt8) :
    nonceTempKey random otp =
      checked [.fixed "nonce random" 32 random, .otp otp]
        (sha256 (Digested.nonce (.ofList 32 random) (.ofList nonceInputSize otp)).message) := by
  unfold nonceTempKey
  apply exactly_bind
  by_cases hlong : nonceInputSize < otp.length
  · have hlength : (otp.take nonceInputSize).length = nonceInputSize := List.length_take_of_le hlong.le
    rw [checked_cons_of_fits (show (Input.otp otp).Fits from hlong), if_neg hlong.not_ge,
      assemble_nonceFields _ hlength, ← Bytes.toList_ofList hlong.le]
    rfl
  · rw [checked_cons_of_not_fits (show ¬ (Input.otp otp).Fits from hlong), if_pos (not_lt.1 hlong)]
    rfl

theorem genDigTempKey_eq (previous : List UInt8) (slot : UInt8) (key : List UInt8) :
    genDigTempKey previous slot key =
      checked [.fixed "temp key" 32 previous, .fixed "key" 32 key]
        (sha256 (Digested.genDig (.ofList 32 previous) slot (.ofList 32 key)).message) := by
  simp only [genDigTempKey, assemble_sessionFields]
  exact exactly_bind (exactly_bind rfl)

theorem writeMac_eq (tempKey : List UInt8) (opcode param1 : UInt8) (param2 : Bytes 2) (data : List UInt8) :
    writeMac tempKey opcode param1 param2 data =
      checked [.fixed "temp key" 32 tempKey, .fixed "write data" 32 data]
        (sha256 (sessionMessage (.ofList 32 tempKey) opcode param1 param2 (.ofList 32 data))) := by
  simp only [writeMac, assemble_sessionFields]
  exact exactly_bind (exactly_bind rfl)

end Functions

/-- A function of some inputs gives the value exactly if all of them fit. Else it fails and says what is wrong with
the first that does not; that the message came out with another length is never the matter. -/
structure Answers {α : Type} (result : Except DigestError α) (inputs : List Input) (value : α) : Prop where
  ok : (∀ input ∈ inputs, input.Fits) → result = .ok value
  fails : (∃ error, result = .error error) ↔ ∃ input ∈ inputs, ¬ input.Fits
  first : ∀ before input after, inputs = before ++ input :: after → (∀ earlier ∈ before, earlier.Fits) →
    ¬ input.Fits → result = .error input.error
  assembled : ∀ expected actual, result ≠ .error (.messageLength expected actual)

theorem answers_of_eq {α : Type} {result : Except DigestError α} {inputs : List Input} {value : α}
    (h : result = checked inputs value) : Answers result inputs value := by
  subst h
  constructor
  case ok => exact fun hfit => checked_eq_ok_iff.2 ⟨hfit, rfl⟩
  case fails =>
    rw [checked_eq_error_iff]
    push Not
    rfl
  case first =>
    rintro before input after rfl hbefore hinput
    have hskip : (before.find? fun input => ¬ input.Fits) = none := by
      simpa using hbefore
    rw [checked, List.find?_append, hskip, Option.none_or, List.find?_cons_of_pos (by simpa using hinput)]
  case assembled =>
    intro expected actual
    unfold checked
    cases inputs.find? fun input => ¬ input.Fits with
    | none => nofun
    | some input => cases input <;> nofun

/-- A message has one reading. The functions that digest one give it, or say which of their inputs does not fit. -/
theorem messages_unambiguous :
    (∀ a b : Digested, a.message = b.message → a = b) ∧
    (∀ digested : Digested, digested.message.length = digested.size) ∧
    (∀ challenge key mode slot otp8 otp3 sn4 sn23,
      Answers (macMessage challenge key mode slot otp8 otp3 sn4 sn23)
        [.fixed "challenge" 32 challenge, .fixed "key" 32 key, .fixed "otp8" 8 otp8, .fixed "otp3" 3 otp3,
          .fixed "sn4" 4 sn4, .fixed "sn23" 2 sn23]
        (Digested.mac (.ofList 32 challenge) (.ofList 32 key) mode slot
          ⟨.ofList 8 otp8, .ofList 3 otp3, .ofList 4 sn4, .ofList 2 sn23⟩).message) ∧
    (∀ challenge key mode slot other,
      Answers (macDigest challenge key mode slot other) [.fixed "challenge" 32 challenge, .fixed "key" 32 key]
        (sha256 (Digested.mac (.ofList 32 challenge) (.ofList 32 key) mode slot other).message)) ∧
    (∀ challenge mode slot otp8 otp3 sn4 sn23,
      Answers (hmacMessage challenge mode slot otp8 otp3 sn4 sn23)
        [.fixed "challenge" 32 challenge, .fixed "otp8" 8 otp8, .fixed "otp3" 3 otp3, .fixed "sn4" 4 sn4,
          .fixed "sn23" 2 sn23]
        (Digested.hmac (.ofList 32 challenge) mode slot
          ⟨.ofList 8 otp8, .ofList 3 otp3, .ofList 4 sn4, .ofList 2 sn23⟩).message) ∧
    (∀ challenge key mode slot other,
      Answers (hmacDigest challenge key mode slot other) [.fixed "key" 32 key, .fixed "challenge" 32 challenge]
        (hmacSha256 (Bytes.ofList 32 key).toList
          (Digested.hmac (.ofList 32 challenge) mode slot other).message)) ∧
    (∀ random otp,
      Answers (nonceTempKey random otp) [.fixed "nonce random" 32 random, .otp otp]
        (sha256 (Digested.nonce (.ofList 32 random) (.ofList nonceInputSize otp)).message)) ∧
    (∀ previous slot key,
      Answers (genDigTempKey previous slot key) [.fixed "temp key" 32 previous, .fixed "key" 32 key]
        (sha256 (Digested.genDig (.ofList 32 previous) slot (.ofList 32 key)).message)) ∧
    (∀ tempKey opcode param1 param2 data,
      Answers (writeMac tempKey opcode param1 param2 data)
        [.fixed "temp key" 32 tempKey, .fixed "write data" 32 data]
        (sha256 (sessionMessage (.ofList 32 tempKey) opcode param1 param2 (.ofList 32 data)))) ∧
    (∀ tempKey param1 param2 data,
      (Digested.write tempKey param1 param2 data).message =
        sessionMessage tempKey Opcode.write.code param1 param2 data) := by
  refine ⟨fun a b => Digested.eq_of_message, Digested.length_message, ?_, ?_, ?_, ?_, ?_, ?_, ?_, ?_⟩
  · intros
    exact answers_of_eq (macMessage_eq ..)
  · intros
    exact answers_of_eq (macDigest_eq ..)
  · intros
    exact answers_of_eq (hmacMessage_eq ..)
  · intros
    exact answers_of_eq (hmacDigest_eq ..)
  · intros
    exact answers_of_eq (nonceTempKey_eq ..)
  · intros
    exact answers_of_eq (genDigTempKey_eq ..)
  · intros
    exact answers_of_eq (writeMac_eq ..)
  · intros
    rfl

end SecureElement
