import SecureElement.Lifecycle
import SecureElement.SlotConfig
/-!
# Chip memory

The three zones as the chip keeps them, and what it reads out of its own Config zone.
-/

namespace SecureElement

structure Memory where
  config : Bytes 88
  otp : Bytes 64
  data : Vector Block 16
  deriving DecidableEq

namespace Memory

def revision : Word := Bytes.quad 0x00 0x00 0x00 0x04

/-- The zones as shipped: a serial number, open lock bytes, and blank OTP and Data zones. -/
def factory : Memory where
  config :=
    let identity : List UInt8 :=
      [0x01, 0x23, 0xAB, 0xCD, 0x00, 0x00, 0x00, 0x04, 0x10, 0x20, 0x30, 0x40, 0xEE, 0x00, 0x00, 0x00,
       0xC8, 0x00, 0x55, 0x00]
    Bytes.overwrite (Bytes.overwrite (Bytes.zero 88) 0 identity) 84 [0x00, 0x00, 0x55, 0x55]
  otp := Vector.replicate 64 0xFF
  data := Vector.replicate 16 (Vector.replicate 32 0xFF)

def configLocked (memory : Memory) : Bool :=
  isLockByteClosed (memory.config.byte 87)

def dataLocked (memory : Memory) : Bool :=
  isLockByteClosed (memory.config.byte 86)

def lockWord (memory : Memory) : Word :=
  memory.config.slice 84 4

def slotConfig (memory : Memory) (slot : Fin 16) : SlotConfig :=
  SlotConfig.decode (memory.config.slice (20 + 2 * slot.val) 2)

def serial (memory : Memory) : Bytes 9 :=
  memory.config.slice 0 4 ++ memory.config.slice 8 5

def key (memory : Memory) (slot : Fin 16) : Block :=
  memory.data.get slot

/-- The keys in slot order, followed by the OTP zone: what a lock of the Data zone is checked against. -/
def dataImage (memory : Memory) : List UInt8 :=
  memory.data.toList.flatMap Vector.toList ++ memory.otp.toList

def writeConfig (memory : Memory) (start : Nat) (bytes : List UInt8) : Memory :=
  { memory with config := Bytes.overwrite memory.config start bytes }

def writeOtp (memory : Memory) (start : Nat) (bytes : List UInt8) : Memory :=
  { memory with otp := Bytes.overwrite memory.otp start bytes }

def writeSlot (memory : Memory) (slot : Fin 16) (key : Block) : Memory :=
  { memory with data := memory.data.setIfInBounds slot key }

def lockConfig (memory : Memory) : Memory :=
  memory.writeConfig 87 [0x00]

def lockData (memory : Memory) : Memory :=
  memory.writeConfig 86 [0x00]

end Memory

end SecureElement
