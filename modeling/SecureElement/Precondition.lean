import SecureElement.Zone
/-!
# Preconditions

What is checked before a command is sent, and what stops a job before it does harm.
-/

namespace SecureElement

inductive PreconditionError where
  | invalidLength (what : String) (expected actual : Nat)
  | invalidNonceLength (actual : Nat)
  | invalidSlot (zone : Zone) (slot : UInt8)
  | invalidKeySlot (slot : UInt8)
  | otpNotReadOnly
  /-- The Data zone is locked and the Config zone is not. -/
  | inconsistentLocks
  | zoneLocked (zone : Zone)
  deriving DecidableEq, Repr

def PreconditionError.message : PreconditionError → String
  | .invalidLength what expected actual => s!"{what} must be {expected} bytes, got {actual}"
  | .invalidNonceLength actual => s!"Nonce input must be 20 or 32 bytes, got {actual}"
  | .invalidSlot zone slot => s!"Slot {slot} is out of range for the {zone.name} zone"
  | .invalidKeySlot slot => s!"Key slot {slot} is out of range"
  | .otpNotReadOnly => "OTP zone is not in read-only mode"
  | .inconsistentLocks => "Data zone is locked while the config zone is not"
  | .zoneLocked zone => s!"{zone.name} zone is locked"

def Zone.blockAddress (zone : Zone) (block : UInt8) : Except PreconditionError UInt8 :=
  if zone.lastBlock < block then .error (.invalidSlot zone block) else .ok (block <<< 3)

def checkKeySlot (slot : UInt8) : Except PreconditionError Unit :=
  if 16 ≤ slot then .error (.invalidKeySlot slot) else .ok ()

def checkLength (what : String) (expected : Nat) (bytes : List UInt8) :
    Except PreconditionError Unit :=
  if bytes.length = expected then .ok () else .error (.invalidLength what expected bytes.length)

end SecureElement
