import SecureElement.Bytes
import SecureElement.Precondition
/-!
# Lifecycle

The two lock bytes of the Config zone tell how far a device has been provisioned. A lock byte is open while it
holds 0x55.
-/

namespace SecureElement

def lockWordAddress : UInt8 := 0x15

/-- Position of the lock byte of the Data and OTP zones in the lock word. -/
def dataLockIndex : Nat := 2

def configLockIndex : Nat := 3

def isLockByteClosed (byte : UInt8) : Bool :=
  byte != 0x55

inductive Lifecycle where
  /-- Nothing is locked. -/
  | factory
  /-- The Config zone is locked. -/
  | initialized
  /-- All zones are locked. -/
  | personalized
  deriving DecidableEq, Repr

namespace Lifecycle

/-- Position in the one order in which a device can pass through its states. -/
def rank : Lifecycle → Nat
  | factory => 0
  | initialized => 1
  | personalized => 2

instance : LE Lifecycle := ⟨fun a b => a.rank ≤ b.rank⟩

instance (a b : Lifecycle) : Decidable (a ≤ b) :=
  inferInstanceAs (Decidable (a.rank ≤ b.rank))

def ofLocks (configLocked dataLocked : Bool) : Except PreconditionError Lifecycle :=
  match configLocked, dataLocked with
  | false, false => .ok factory
  | true, false => .ok initialized
  | true, true => .ok personalized
  | false, true => .error .inconsistentLocks

def ofLockWord (word : Word) : Except PreconditionError Lifecycle :=
  ofLocks (isLockByteClosed (word.byte configLockIndex)) (isLockByteClosed (word.byte dataLockIndex))

def name : Lifecycle → String
  | factory => "Factory"
  | initialized => "Initialized"
  | personalized => "Personalized"

end Lifecycle

end SecureElement
