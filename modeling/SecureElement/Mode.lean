import SecureElement.Bytes
import SecureElement.Hex
/-!
# Mode bytes

The first parameter of the MAC, HMAC and CheckMac commands says where the two halves of the digested message
come from and which device bytes are mixed in.
-/

namespace SecureElement

structure MacMode where
  /-- Mix in the serial number. -/
  useSerial : Bool := false
  /-- Mix in OTP bytes 0 to 7. -/
  useOtpLow : Bool := false
  /-- Mix in OTP bytes 8 to 10. -/
  useOtpHigh : Bool := false
  /-- The source flag that TempKey must have when it is used. -/
  sourceFlag : Bool := false
  /-- The first half of the message is TempKey, not the slot key. -/
  firstTempKey : Bool := false
  /-- The second half of the message is TempKey, not the challenge. -/
  secondTempKey : Bool := false
  deriving DecidableEq, Repr

namespace MacMode

def toByte (mode : MacMode) : UInt8 :=
  Flag.encode 0x40 mode.useSerial ||| Flag.encode 0x20 mode.useOtpLow |||
    Flag.encode 0x10 mode.useOtpHigh ||| Flag.encode 0x04 mode.sourceFlag |||
    Flag.encode 0x02 mode.firstTempKey ||| Flag.encode 0x01 mode.secondTempKey

def ofByte (byte : UInt8) : MacMode where
  useSerial := Flag.decode 0x40 byte
  useOtpLow := Flag.decode 0x20 byte
  useOtpHigh := Flag.decode 0x10 byte
  sourceFlag := Flag.decode 0x04 byte
  firstTempKey := Flag.decode 0x02 byte
  secondTempKey := Flag.decode 0x01 byte

def needsChallenge (mode : MacMode) : Bool :=
  !mode.secondTempKey

def describe (mode : MacMode) : String :=
  s!"0x{Hex.encodeUpper [mode.toByte]}"

@[simp] theorem ofByte_toByte (mode : MacMode) : ofByte mode.toByte = mode := by
  rcases mode with ⟨a, b, c, d, e, f⟩
  revert a b c d e f
  decide

end MacMode

structure CheckMacMode where
  secondTempKey : Bool := false
  firstTempKey : Bool := false
  sourceFlag : Bool := false
  useOtpLow : Bool := false
  deriving DecidableEq, Repr

namespace CheckMacMode

def toByte (mode : CheckMacMode) : UInt8 :=
  Flag.encode 0x01 mode.secondTempKey ||| Flag.encode 0x02 mode.firstTempKey |||
    Flag.encode 0x04 mode.sourceFlag ||| Flag.encode 0x20 mode.useOtpLow

def ofByte (byte : UInt8) : CheckMacMode where
  secondTempKey := Flag.decode 0x01 byte
  firstTempKey := Flag.decode 0x02 byte
  sourceFlag := Flag.decode 0x04 byte
  useOtpLow := Flag.decode 0x20 byte

/-- The mode in which CheckMac rebuilds the digest of a MAC. -/
def ofMac (mode : MacMode) : CheckMacMode where
  secondTempKey := mode.secondTempKey
  firstTempKey := mode.firstTempKey
  sourceFlag := mode.sourceFlag
  useOtpLow := mode.useOtpLow

@[simp] theorem ofByte_toByte (mode : CheckMacMode) : ofByte mode.toByte = mode := by
  rcases mode with ⟨a, b, c, d⟩
  revert a b c d
  decide

end CheckMacMode

end SecureElement
