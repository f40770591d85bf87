import SecureElement.Hex
/-!
# Status bytes

What the device answers in a status frame instead of, or as, the result of a command.
-/

namespace SecureElement

inductive Status where
  | success
  | checkMacMiscompare
  | parseError
  | executionError
  /-- The device has just woken up and has not run the command. -/
  | awake
  | commError
  | unknown (byte : UInt8)
  deriving DecidableEq, Repr

namespace Status

def ofByte (byte : UInt8) : Status :=
  if byte = 0x00 then success
  else if byte = 0x01 then checkMacMiscompare
  else if byte = 0x03 then parseError
  else if byte = 0x0F then executionError
  else if byte = 0x11 then awake
  else if byte = 0xFF then commError
  else unknown byte

def toByte : Status → UInt8
  | success => 0x00
  | checkMacMiscompare => 0x01
  | parseError => 0x03
  | executionError => 0x0F
  | awake => 0x11
  | commError => 0xFF
  | unknown byte => byte

def isRetryable (status : Status) : Bool :=
  status == awake

def message : Status → String
  | success => "Success"
  | checkMacMiscompare => "CheckMac miscompare"
  | parseError => "Parse error"
  | executionError => "Execution error"
  | awake => "Awake"
  | commError => "Communication error"
  | unknown byte => s!"Unknown status 0x{Hex.encodeUpper [byte]}"

@[simp] theorem toByte_ofByte (byte : UInt8) : (ofByte byte).toByte = byte := by
  unfold ofByte
  repeat' split
  all_goals simp_all [toByte]

end Status

end SecureElement
