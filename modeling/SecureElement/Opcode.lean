/-!
# Opcodes

The commands of the device, their codes on the wire and how long the device takes to run them.
-/

namespace SecureElement

inductive Opcode where
  | deriveKey
  | devRev
  | genDig
  | hmac
  | checkMac
  | lock
  | mac
  | nonce
  | pause
  | random
  | read
  | updateExtra
  | write
  deriving DecidableEq, Repr

namespace Opcode

def all : List Opcode :=
  [deriveKey, devRev, genDig, hmac, checkMac, lock, mac, nonce, pause, random, read, updateExtra, write]

def code : Opcode → UInt8
  | deriveKey => 0x1C
  | devRev => 0x30
  | genDig => 0x15
  | hmac => 0x11
  | checkMac => 0x28
  | lock => 0x17
  | mac => 0x08
  | nonce => 0x16
  | pause => 0x01
  | random => 0x1B
  | read => 0x02
  | updateExtra => 0x20
  | write => 0x12

def ofCode? (code : UInt8) : Option Opcode :=
  all.find? (·.code == code)

def name : Opcode → String
  | deriveKey => "DeriveKey"
  | devRev => "DevRev"
  | genDig => "GenDig"
  | hmac => "HMAC"
  | checkMac => "CheckMac"
  | lock => "Lock"
  | mac => "MAC"
  | nonce => "Nonce"
  | pause => "Pause"
  | random => "Random"
  | read => "Read"
  | updateExtra => "UpdateExtra"
  | write => "Write"

def typicalMicros : Opcode → Nat
  | deriveKey => 14000
  | devRev => 400
  | genDig => 11000
  | hmac => 27000
  | checkMac => 12000
  | lock => 5000
  | mac => 12000
  | nonce => 22000
  | pause => 400
  | random => 11000
  | read => 400
  | updateExtra => 8000
  | write => 4000

def maximumMicros : Opcode → Nat
  | deriveKey => 62000
  | devRev => 2000
  | genDig => 43000
  | hmac => 69000
  | checkMac => 38000
  | lock => 24000
  | mac => 35000
  | nonce => 60000
  | pause => 2000
  | random => 50000
  | read => 4000
  | updateExtra => 12000
  | write => 42000

@[simp] theorem ofCode?_code (opcode : Opcode) : ofCode? opcode.code = some opcode := by
  cases opcode <;> rfl

theorem code_injective {a b : Opcode} (h : a.code = b.code) : a = b := by
  have := congrArg ofCode? h
  simpa using this

end Opcode

/-- How long to wait between sending a command and reading its answer. -/
inductive Pacing where
  | typical
  | maximum
  | disabled
  deriving DecidableEq, Repr

def Pacing.delay : Pacing → Opcode → Nat
  | .typical, opcode => opcode.typicalMicros
  | .maximum, opcode => opcode.maximumMicros
  | .disabled, _ => 0

end SecureElement
