import SecureElement.Bytes
/-!
# Digested messages

The message that the device hashes is a row of fields; its layout is the list of them. It is made of inputs of fixed
lengths, and the first input of another length is named.
-/

namespace SecureElement

inductive DigestError where
  | invalidLength (what : String) (expected actual : Nat)
  | otpTooShort (neededBy : String) (min actual : Nat)
  | invalidSlot (slot : UInt8)
  | messageLength (expected actual : Nat)
  deriving DecidableEq, Repr

def DigestError.message : DigestError → String
  | .invalidLength what expected actual => s!"{what} must be {expected} bytes, got {actual}"
  | .otpTooShort neededBy min actual =>
    s!"OTP zone too short for {neededBy}: need {min} bytes, got {actual}"
  | .invalidSlot slot => s!"Data slot {slot} is out of range"
  | .messageLength expected actual => s!"Preimage is {actual} bytes, expected {expected}"

/-- The input called `what` as a byte string of length `n`. -/
def exactly (what : String) (n : Nat) (bytes : List UInt8) : Except DigestError (Bytes n) :=
  match Bytes.ofList? n bytes with
  | some b => .ok b
  | none => .error (.invalidLength what n bytes.length)

@[simp] theorem exactly_toList (what : String) {n : Nat} (b : Bytes n) :
    exactly what n b.toList = .ok b := by
  simp [exactly]

namespace Message

inductive Field where
  | byte (value : UInt8)
  | bytes (value : List UInt8)
  /-- Two bytes, the low one first. -/
  | word16 (value : UInt16)
  | zeros (count : Nat)
  deriving DecidableEq, Repr

def Field.encode : Field → List UInt8
  | .byte value => [value]
  | .bytes value => value
  | .word16 value => (Bytes.ofUInt16 value).toList
  | .zeros count => List.replicate count 0

def encode (fields : List Field) : List UInt8 :=
  fields.flatMap Field.encode

def assemble (expected : Nat) (fields : List Field) : Except DigestError (List UInt8) :=
  if (encode fields).length = expected then .ok (encode fields)
  else .error (.messageLength expected (encode fields).length)

theorem assemble_eq {expected : Nat} {fields : List Field} (h : (encode fields).length = expected) :
    assemble expected fields = .ok (encode fields) := by
  unfold assemble
  rw [if_pos h]

@[simp] theorem encode_nil : encode [] = [] := rfl

@[simp] theorem encode_cons (field : Field) (fields : List Field) :
    encode (field :: fields) = field.encode ++ encode fields := by
  simp [encode]

end Message

end SecureElement
