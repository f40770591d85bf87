import SecureElement.Digest.Mac
import SecureElement.Precondition
/-!
# TempKey and encrypted writes

TempKey is the device's volatile key. The host follows its value through a Nonce and a GenDig, and uses it to
encrypt and authenticate a write.
-/

namespace SecureElement

/-- How many OTP bytes go into a random nonce. -/
def nonceInputSize : Nat := 20

def nonceFields (random : Block) (input : List UInt8) : List Message.Field :=
  [.bytes random.toList, .bytes input, .byte Opcode.nonce.code, .byte 0, .byte 0]

def nonceMessage (random : Block) (input : List UInt8) : List UInt8 :=
  Message.encode (nonceFields random input)

def nonceSize : Nat := 55

theorem length_nonceMessage (random : Block) {input : List UInt8} (h : input.length = nonceInputSize) :
    (nonceMessage random input).length = nonceSize := by
  simp [nonceMessage, nonceFields, Message.Field.encode, h, nonceInputSize, nonceSize]

theorem assemble_nonceFields (random : Block) {input : List UInt8} (h : input.length = nonceInputSize) :
    Message.assemble nonceSize (nonceFields random input) = .ok (nonceMessage random input) :=
  Message.assemble_eq (length_nonceMessage random h)

/-- TempKey after a Nonce that answered `random` to the first bytes of the OTP zone. -/
def nonceTempKey (random otp : List UInt8) : Except DigestError Block := do
  let random ← exactly "nonce random" 32 random
  if otp.length ≤ nonceInputSize then
    throw (.otpTooShort "nonce input" (nonceInputSize + 1) otp.length)
  let message ← Message.assemble nonceSize (nonceFields random (otp.take nonceInputSize))
  return sha256 message

/-- The layout that GenDig and an authenticated write share: a secret, four bytes that name the command, the
fixed serial bytes, filling and a second secret. -/
def sessionFields (first : Block) (opcode param1 : UInt8) (param2 : Bytes 2) (second : Block) :
    List Message.Field :=
  [.bytes first.toList, .byte opcode, .byte param1, .bytes param2.toList, .byte serialTail,
   .bytes serialHead, .zeros 25, .bytes second.toList]

def sessionMessage (first : Block) (opcode param1 : UInt8) (param2 : Bytes 2) (second : Block) :
    List UInt8 :=
  Message.encode (sessionFields first opcode param1 param2 second)

def sessionSize : Nat := 96

@[simp] theorem length_sessionMessage (first : Block) (opcode param1 : UInt8) (param2 : Bytes 2)
    (second : Block) : (sessionMessage first opcode param1 param2 second).length = sessionSize := by
  simp [sessionMessage, sessionFields, Message.Field.encode, serialHead, sessionSize]

theorem assemble_sessionFields (first : Block) (opcode param1 : UInt8) (param2 : Bytes 2) (second : Block) :
    Message.assemble sessionSize (sessionFields first opcode param1 param2 second) =
      .ok (sessionMessage first opcode param1 param2 second) :=
  Message.assemble_eq (length_sessionMessage first opcode param1 param2 second)

/-- TempKey after a GenDig over the data slot `slot` that holds `key`. -/
def genDigTempKey (previous : List UInt8) (slot : UInt8) (key : List UInt8) :
    Except DigestError Block := do
  let previous ← exactly "temp key" 32 previous
  let key ← exactly "key" 32 key
  let message ← Message.assemble sessionSize
    (sessionFields key Opcode.genDig.code Zone.data.bits (Bytes.ofUInt16 slot.toUInt16) previous)
  return sha256 message

/-- The digest that authenticates a write of `data`. -/
def writeMac (tempKey : List UInt8) (opcode param1 : UInt8) (param2 : Bytes 2) (data : List UInt8) :
    Except DigestError Block := do
  let tempKey ← exactly "temp key" 32 tempKey
  let data ← exactly "write data" 32 data
  let message ← Message.assemble sessionSize (sessionFields tempKey opcode param1 param2 data)
  return sha256 message

def encrypt (data tempKey : List UInt8) : Except DigestError Block := do
  let data ← exactly "write data" 32 data
  let tempKey ← exactly "temp key" 32 tempKey
  return Bytes.xor data tempKey

/-- The first parameter of a 32-byte access to a zone. -/
def Zone.blockParam (zone : Zone) : UInt8 :=
  zone.bits ||| 0x80

/-- The host side of an encrypted write into a data slot. -/
structure EncryptedWrite where
  param1 : UInt8
  address : UInt8
  ciphertext : Block
  mac : Block
  deriving DecidableEq, Repr

/-- Follows the device through the Nonce that answered `random` and a GenDig over the slot. -/
def EncryptedWrite.prepare (random otp : List UInt8) (slot : UInt8) (currentKey data : List UInt8) :
    Except DigestError EncryptedWrite := do
  if 16 ≤ slot then throw (.invalidSlot slot)
  let address := slot <<< 3
  let param1 := Zone.data.blockParam
  let nonceKey ← nonceTempKey random otp
  let tempKey ← genDigTempKey nonceKey.toList slot currentKey
  let ciphertext ← encrypt data tempKey.toList
  let mac ← writeMac tempKey.toList Opcode.write.code param1 (Bytes.pair address 0) data
  return { param1, address, ciphertext, mac }

end SecureElement
