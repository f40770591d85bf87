import SecureElement.Device.Zones
/-!
# Random numbers, digests and encrypted writes

The operations around TempKey and the keys in the data slots.
-/

namespace SecureElement

structure MacResult where
  mac : Block
  /-- What is needed beside key and challenge to rebuild the digest. -/
  otherData : Bytes 13
  /-- Whether the digest was confirmed. -/
  verified : Bool
  deriving DecidableEq, Repr

namespace Device

variable {σ : Type} [Bus σ]

/-- 32 random bytes, drawn with or without a new seed. -/
def random (updateSeed : Bool) : DeviceM σ Block :=
  exchangeBytes 32 (.simple .random (if updateSeed then 0x00 else 0x01) 0)

def randomBlocks (updateSeed : Bool) : (count : Nat) → DeviceM σ (Vector Block count)
  | 0 => return #v[]
  | count + 1 => do
    let blocks ← randomBlocks updateSeed count
    let block ← random updateSeed
    return blocks.push block

/-- The most bytes for which a buffer can be given room. -/
def maxCapacity : Nat := UInt64.size / 2 - 1

/-- Exactly `n` random bytes, from as few draws as possible. Before the first draw, a buffer is given room for all
that will be drawn; its size is a machine word, and wraps around. -/
def randomBytes (n : Nat) (updateSeed : Bool) : DeviceM σ (List UInt8) := do
  let count := (n + 31) / 32
  if maxCapacity < 32 * count % UInt64.size then throw (.panicked "capacity overflow")
  let blocks ← randomBlocks updateSeed count
  return (blocks.toList.flatMap Vector.toList).take n

/-- Loads TempKey. 32 bytes are taken as they are and acknowledged by a zero byte; 20 bytes are combined with
a random number, which is the answer. -/
def nonce (input : List UInt8) : DeviceM σ (List UInt8) :=
  if input.length = 32 then exchange ⟨.nonce, 0x03, Bytes.pair 0 0, input⟩ 1
  else if input.length = nonceInputSize then exchange ⟨.nonce, 0x00, Bytes.pair 0 0, input⟩ 32
  else throw (.precondition (.invalidNonceLength input.length))

def genDigest (zone : Zone) (slot : UInt8) : DeviceM σ Unit := do
  if zone = .data then require (checkKeySlot slot)
  exchangeAck (.simple .genDig zone.bits slot.toUInt16)

/-- Has the device compare a digest with the one it computes itself. -/
def checkMac (mode : CheckMacMode) (slot : UInt8) (challenge response otherData : List UInt8) :
    DeviceM σ Bool := do
  require (checkLength "challenge" 32 challenge)
  require (checkLength "challenge response" 32 response)
  require (checkLength "other data" 13 otherData)
  require (checkKeySlot slot)
  let command : Command := ⟨.checkMac, mode.toByte, Bytes.pair slot 0, challenge ++ response ++ otherData⟩
  tryCatch (do exchangeAck command; return true) fun
    | .status _ .checkMacMiscompare => return false
    | error => throw error

/-- The device bytes that a mode mixes in; only those that it needs are read. -/
def otherData (mode : MacMode) : DeviceM σ OtherData := do
  let otp ← if mode.useOtpLow || mode.useOtpHigh then otpZone else pure (Bytes.zero 64)
  let serial ← if mode.useSerial then serialNumber else pure (Bytes.zero 9)
  compute (OtherData.select mode otp.toList serial.toList)

/-- Issues a MAC and has the device confirm it. -/
def mac (mode : MacMode) (slot : UInt8) (challenge : List UInt8) : DeviceM σ MacResult := do
  require (checkKeySlot slot)
  if mode.needsChallenge then require (checkLength "challenge" 32 challenge)
  let data := if mode.needsChallenge then challenge else []
  let mac ← exchangeBytes 32 ⟨.mac, mode.toByte, Bytes.pair slot 0, data⟩
  let checkData := checkMacData mode slot (← otherData mode)
  let shown := if mode.needsChallenge then challenge else (Bytes.zero 32).toList
  let verified ← checkMac (.ofMac mode) slot shown mac.toList checkData.toList
  return { mac, otherData := checkData, verified }

/-- Passes the challenge through to TempKey and has it keyed with a slot. A given key is used to verify the
answer on the host. -/
def hmac (slot : UInt8) (challenge : List UInt8) (key : Option (List UInt8)) : DeviceM σ MacResult := do
  require (checkKeySlot slot)
  require (checkLength "challenge" 32 challenge)
  let _ ← nonce challenge
  let mac ← exchangeBytes 32 (.simple .hmac hmacMode slot.toUInt16)
  let otherData : Bytes 13 := Bytes.quad Opcode.hmac.code hmacMode slot 0 ++ Bytes.zero 9
  let verified ← match key with
    | some key => compute (verifyHmac challenge mac.toList key slot.toUInt16)
    | none => pure false
  return { mac, otherData, verified }

/-- Replaces the key in a slot, encrypted under the one it holds. -/
def writeKeySlotEncrypted (slot : UInt8) (newKey currentKey : Block) : DeviceM σ Unit := do
  require (checkKeySlot slot)
  let otp ← otpZone
  let random ← nonce (otp.toList.take nonceInputSize)
  genDigest .data slot
  let write ← compute
    (EncryptedWrite.prepare random otp.toList slot currentKey.toList newKey.toList)
  writeBlock .data write.address write.ciphertext (some write.mac)

end Device

end SecureElement
