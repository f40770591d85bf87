import SecureElement.Device.Authentication
/-!
# Key sets

One key for each data slot.
-/

namespace SecureElement

structure KeySet where
  keys : Vector Block 16
  deriving DecidableEq

namespace KeySet

def key? (keySet : KeySet) (slot : UInt8) : Option Block :=
  keySet.keys[slot.toNat]?

/-- The keys in slot order, as they lie in the Data zone. -/
def toBytes (keySet : KeySet) : List UInt8 :=
  keySet.keys.toList.flatMap Vector.toList

def ofBytes? (bytes : List UInt8) : Option KeySet := do
  guard (bytes.length = 512)
  let keys ← (Vector.range 16).mapM fun slot =>
    Bytes.ofList? 32 ((bytes.drop (32 * slot)).take 32)
  return ⟨keys⟩

/-- Draws every key from the device, without a new seed. -/
def generate {σ : Type} [Bus σ] : DeviceM σ KeySet := do
  return ⟨← Device.randomBlocks false 16⟩

/-- Shows how many keys there are and none of them. -/
def describe (_ : KeySet) : String :=
  "KeyContainer \x7b slots: 16, .. \x7d"

end KeySet

end SecureElement
