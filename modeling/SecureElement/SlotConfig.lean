import SecureElement.Bytes
import SecureElement.Precondition
/-!
# Slot policies

Two bytes of the Config zone per data slot. The first holds the read key in its low half and four flags above
it, the second the write key, the derive flag and the write policy. Two slots share one config word.
-/

namespace SecureElement

inductive WritePolicy where
  /-- Clear writes are accepted. -/
  | always
  /-- No write is accepted once the Data zone is locked. -/
  | never
  /-- Writes must be encrypted and authenticated. -/
  | encrypt
  deriving DecidableEq, Repr

namespace WritePolicy

def name : WritePolicy → String
  | always => "Always"
  | never => "Never"
  | encrypt => "Encrypt"

def toBits : WritePolicy → UInt8
  | always => 0
  | never => 0x80
  | encrypt => 0x40

/-- The encryption bit decides before the refusal bit. -/
def ofBits (byte : UInt8) : WritePolicy :=
  if Flag.decode 0x40 byte then encrypt else if Flag.decode 0x80 byte then never else always

end WritePolicy

structure SlotConfig where
  readKey : UInt8 := 0
  checkOnly : Bool := false
  singleUse : Bool := false
  encryptedRead : Bool := false
  isSecret : Bool := false
  writeKey : UInt8 := 0
  deriveKey : Bool := false
  writePolicy : WritePolicy := .always
  deriving DecidableEq, Repr

namespace SlotConfig

/-- Accepts a policy whose keys name existing slots; the read key is looked at first. -/
def checked (config : SlotConfig) : Except PreconditionError SlotConfig := do
  checkKeySlot config.readKey
  checkKeySlot config.writeKey
  return config

def encode (config : SlotConfig) : Bytes 2 :=
  Bytes.pair
    ((config.readKey &&& 0x0F) ||| Flag.encode 0x10 config.checkOnly |||
      Flag.encode 0x20 config.singleUse ||| Flag.encode 0x40 config.encryptedRead |||
      Flag.encode 0x80 config.isSecret)
    ((config.writeKey &&& 0x0F) ||| Flag.encode 0x20 config.deriveKey ||| config.writePolicy.toBits)

def decode (raw : Bytes 2) : SlotConfig where
  readKey := raw.byte 0 &&& 0x0F
  checkOnly := Flag.decode 0x10 (raw.byte 0)
  singleUse := Flag.decode 0x20 (raw.byte 0)
  encryptedRead := Flag.decode 0x40 (raw.byte 0)
  isSecret := Flag.decode 0x80 (raw.byte 0)
  writeKey := raw.byte 1 &&& 0x0F
  deriveKey := Flag.decode 0x20 (raw.byte 1)
  writePolicy := WritePolicy.ofBits (raw.byte 1)

/-- The policy of `slot` in the config word it shares. -/
def ofWord (word : Word) (slot : UInt8) : SlotConfig :=
  decode (word.slice (if slot % 2 = 0 then 0 else 2) 2)

def pairToWord (even odd : SlotConfig) : Word :=
  even.encode ++ odd.encode

def describe (config : SlotConfig) : String :=
  "\n".intercalate
    [s!"Read Key:       {config.readKey}",
     s!"Check Only:     {config.checkOnly}",
     s!"Single Use:     {config.singleUse}",
     s!"Encrypted Read: {config.encryptedRead}",
     s!"Is Secret:      {config.isSecret}",
     s!"Write Key:      {config.writeKey}",
     s!"Derive Key:     {config.deriveKey}",
     s!"Write Config:   {config.writePolicy.name}"]

end SlotConfig

end SecureElement
