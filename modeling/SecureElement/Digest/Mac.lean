import SecureElement.Digest.Message
import SecureElement.Sha256
import SecureElement.Mode
import SecureElement.Opcode
/-!
# Challenge digests

MAC and HMAC digest one layout of 88 bytes. For a MAC the first half is the slot key and the message is hashed;
for an HMAC the first half is zero and the message is keyed with the slot key.
-/

namespace SecureElement

/-- The last byte of every serial number. -/
def serialTail : UInt8 := 0xEE

/-- The first two bytes of every serial number. -/
def serialHead : List UInt8 := [0x01, 0x23]

/-- The device bytes that a mode mixes in; those it leaves out are zero. -/
@[ext]
structure OtherData where
  otp8 : Bytes 8 := Bytes.zero 8
  otp3 : Bytes 3 := Bytes.zero 3
  sn4 : Bytes 4 := Bytes.zero 4
  sn23 : Bytes 2 := Bytes.zero 2
  deriving DecidableEq, Repr

namespace OtherData

def otpRange (otp : List UInt8) (start len : Nat) (neededBy : String) :
    Except DigestError (Bytes len) :=
  match Bytes.ofList? len ((otp.drop start).take len) with
  | some bytes => .ok bytes
  | none => .error (.otpTooShort neededBy (start + len) otp.length)

/-- Picks the bytes for `mode` out of an OTP zone and a serial number. -/
def select (mode : MacMode) (otp serial : List UInt8) : Except DigestError OtherData := do
  let otp8 ← if mode.useOtpLow then otpRange otp 0 8 "MAC mode bit 0x20 (OTP[0..8])"
    else .ok (Bytes.zero 8)
  let otp3 ← if mode.useOtpHigh then otpRange otp 8 3 "MAC mode bit 0x10 (OTP[8..11])"
    else .ok (Bytes.zero 3)
  if mode.useSerial then
    let sn ← exactly "serial number" 9 serial
    return { otp8, otp3, sn4 := sn.slice 4 4, sn23 := sn.slice 2 2 }
  else
    return { otp8, otp3 }

/-- Takes parts of any length; the first that does not fit is named. -/
def ofLists (otp8 otp3 sn4 sn23 : List UInt8) : Except DigestError OtherData := do
  let otp8 ← exactly "otp8" 8 otp8
  let otp3 ← exactly "otp3" 3 otp3
  let sn4 ← exactly "sn4" 4 sn4
  let sn23 ← exactly "sn23" 2 sn23
  return { otp8, otp3, sn4, sn23 }

end OtherData

/-- The layout that MAC and HMAC share. -/
def challengeFields (first second : Block) (opcode : Opcode) (mode : UInt8) (slot : UInt16)
    (other : OtherData) : List Message.Field :=
  [.bytes first.toList, .bytes second.toList, .byte opcode.code, .byte mode, .word16 slot,
   .bytes other.otp8.toList, .bytes other.otp3.toList, .byte serialTail, .bytes other.sn4.toList,
   .bytes serialHead, .bytes other.sn23.toList]

def challengeMessage (first second : Block) (opcode : Opcode) (mode : UInt8) (slot : UInt16)
    (other : OtherData) : List UInt8 :=
  Message.encode (challengeFields first second opcode mode slot other)

def challengeSize : Nat := 88

@[simp] theorem length_challengeMessage (first second : Block) (opcode : Opcode) (mode : UInt8)
    (slot : UInt16) (other : OtherData) :
    (challengeMessage first second opcode mode slot other).length = challengeSize := by
  simp [challengeMessage, challengeFields, Message.Field.encode, serialHead, challengeSize]

theorem assemble_challengeFields (first second : Block) (opcode : Opcode) (mode : UInt8) (slot : UInt16)
    (other : OtherData) :
    Message.assemble challengeSize (challengeFields first second opcode mode slot other) =
      .ok (challengeMessage first second opcode mode slot other) :=
  Message.assemble_eq (length_challengeMessage first second opcode mode slot other)

def macMessage (challenge key : List UInt8) (mode : UInt8) (slot : UInt16)
    (otp8 otp3 sn4 sn23 : List UInt8) : Except DigestError (List UInt8) := do
  let challenge ← exactly "challenge" 32 challenge
  let key ← exactly "key" 32 key
  let other ← OtherData.ofLists otp8 otp3 sn4 sn23
  Message.assemble challengeSize (challengeFields key challenge .mac mode slot other)

def macDigest (challenge key : List UInt8) (mode : UInt8) (slot : UInt16) (other : OtherData) :
    Except DigestError Block := do
  let message ← macMessage challenge key mode slot other.otp8.toList other.otp3.toList
    other.sn4.toList other.sn23.toList
  return sha256 message

def hmacMessage (challenge : List UInt8) (mode : UInt8) (slot : UInt16)
    (otp8 otp3 sn4 sn23 : List UInt8) : Except DigestError (List UInt8) := do
  let challenge ← exactly "challenge" 32 challenge
  let other ← OtherData.ofLists otp8 otp3 sn4 sn23
  Message.assemble challengeSize (challengeFields (Bytes.zero 32) challenge .hmac mode slot other)

def hmacDigest (challenge key : List UInt8) (mode : UInt8) (slot : UInt16) (other : OtherData) :
    Except DigestError Block := do
  let key ← exactly "key" 32 key
  let message ← hmacMessage challenge mode slot other.otp8.toList other.otp3.toList
    other.sn4.toList other.sn23.toList
  return hmacSha256 key.toList message

/-- Compares two digests over their full length; empty ones are never equal. -/
def digestEq (a b : List UInt8) : Bool :=
  a.length == b.length && !a.isEmpty &&
    (List.zipWith (· ^^^ ·) a b).foldl (· ||| ·) 0 == 0

/-- Checks a MAC that mixes no device bytes in. -/
def verifyMac (challenge response key : List UInt8) (mode : UInt8) (slot : UInt16) :
    Except DigestError Bool := do
  let response ← exactly "challenge response" 32 response
  let expected ← macDigest challenge key mode slot {}
  return digestEq expected.toList response.toList

/-- The HMAC mode for a challenge that was passed through to TempKey. -/
def hmacMode : UInt8 := 0x04

/-- Checks an HMAC in its usual mode. -/
def verifyHmac (challenge response key : List UInt8) (slot : UInt16) :
    Except DigestError Bool := do
  let response ← exactly "challenge response" 32 response
  let expected ← hmacDigest challenge key hmacMode slot {}
  return digestEq expected.toList response.toList

/-- The bytes from which CheckMac rebuilds the rest of a MAC message. -/
def checkMacData (mode : MacMode) (slot : UInt8) (other : OtherData) : Bytes 13 :=
  Bytes.quad Opcode.mac.code mode.toByte slot 0 ++ other.otp3 ++ other.sn4 ++ other.sn23

end SecureElement
