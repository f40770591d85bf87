import SecureElement.Device.Exchange
import SecureElement.Digest.TempKey
import SecureElement.SlotConfig
/-!
# Zone access

Reading, writing and locking the three zones, and what the Config zone says about the device.
-/

namespace SecureElement.Device

variable {σ : Type} [Bus σ]

def readWord (zone : Zone) (address : UInt8) : DeviceM σ Word :=
  exchangeBytes 4 (.simple .read zone.bits address.toUInt16)

def readBlock (zone : Zone) (address : UInt8) : DeviceM σ Block :=
  exchangeBytes 32 (.simple .read zone.blockParam address.toUInt16)

def writeWord (zone : Zone) (address : UInt8) (data : Word) : DeviceM σ Unit :=
  exchangeAck ⟨.write, zone.bits, Bytes.pair address 0, data.toList⟩

/-- Writes a block; an encrypted one is followed by the digest that authenticates it. -/
def writeBlock (zone : Zone) (address : UInt8) (data : Block) (mac : Option Block) :
    DeviceM σ Unit :=
  let proof := mac.elim [] (·.toList)
  exchangeAck ⟨.write, zone.blockParam, Bytes.pair address 0, data.toList ++ proof⟩

def readWords (zone : Zone) (address : UInt8) : (count : Nat) → DeviceM σ (List UInt8)
  | 0 => return []
  | count + 1 => do
    let word ← readWord zone address
    let rest ← readWords zone (address + 1) count
    return word.toList ++ rest

def configZone : DeviceM σ (List UInt8) :=
  readWords .config 0 22

def otpZone : DeviceM σ (Bytes 64) := do
  let first ← readBlock .otp (← require (Zone.otp.blockAddress 0))
  let second ← readBlock .otp (← require (Zone.otp.blockAddress 1))
  return first ++ second

/-- The serial number, which is spread over three config words. -/
def serialNumber : DeviceM σ (Bytes 9) := do
  let w0 ← readWord .config 0
  let w2 ← readWord .config 2
  let w3 ← readWord .config 3
  return w0 ++ w2 ++ w3.slice 0 1

def revision : DeviceM σ Word :=
  exchangeBytes 4 (.simple .devRev 0 0)

def lockWord : DeviceM σ Word :=
  readWord .config lockWordAddress

/-- The lock byte that governs a zone. -/
def lockByte (word : Word) : Zone → UInt8
  | .config => word.byte configLockIndex
  | .otp => word.byte dataLockIndex
  | .data => word.byte dataLockIndex

def isLocked (zone : Zone) : DeviceM σ Bool := do
  return isLockByteClosed (lockByte (← lockWord) zone)

def lifecycle : DeviceM σ Lifecycle := do
  let state ← require (Lifecycle.ofLockWord (← lockWord))
  emit (.stateObserved state)
  return state

/-- Address of the config word with the bus address and the OTP mode. -/
def otpModeAddress : UInt8 := 0x04

def isOtpReadOnly : DeviceM σ Bool := do
  let word ← readWord .config otpModeAddress
  return word.byte 2 == 0xAA

/-- The first parameter of a Lock: which lock byte it closes, and whether the checksum is left out. -/
def lockParam (zone : Zone) (crc : Option UInt16) : UInt8 :=
  let target := if zone = .config then 0x00 else 0x01
  if crc.isNone then target ||| 0x80 else target

/-- Locks a zone. The device compares the checksum, if one is given, with what the zone holds. -/
def lock (zone : Zone) (crc : Option UInt16) : DeviceM σ Unit := do
  if ← isLocked zone then throw (.precondition (.zoneLocked zone))
  exchangeAck (.simple .lock (lockParam zone crc) (crc.getD 0))

def slotConfigAddress (slot : UInt8) : Except PreconditionError UInt8 := do
  checkKeySlot slot
  return 0x05 + slot / 2

def slotConfig (slot : UInt8) : DeviceM σ SlotConfig := do
  let word ← readWord .config (← require (slotConfigAddress slot))
  return SlotConfig.ofWord word slot

/-- Writes the policies of the pair of slots that starts at an even slot. -/
def writeSlotConfigs (slot : UInt8) (even odd : SlotConfig) : DeviceM σ Unit := do
  if slot % 2 ≠ 0 then throw (.precondition (.invalidKeySlot slot))
  let address ← require (slotConfigAddress slot)
  writeWord .config address (SlotConfig.pairToWord even odd)

def readKeySlot (slot : UInt8) : DeviceM σ Block := do
  readBlock .data (← require (Zone.data.blockAddress slot))

/-- Writes a key in the clear. -/
def writeKeySlot (slot : UInt8) (key : Block) : DeviceM σ Unit := do
  writeBlock .data (← require (Zone.data.blockAddress slot)) key none

end SecureElement.Device
