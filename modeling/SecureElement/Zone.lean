/-!
# Zones

The three memory regions of the device. Words of 4 bytes are the unit of addresses, and blocks of 32 bytes
start at every eighth word.
-/

namespace SecureElement

inductive Zone where
  | config
  | otp
  | data
  deriving DecidableEq, Repr

namespace Zone

/-- The selector of the zone in the first parameter. -/
def bits : Zone → UInt8
  | config => 0
  | otp => 1
  | data => 2

/-- The zone that the two low bits of a first parameter select. -/
def ofParam? (param1 : UInt8) : Option Zone :=
  if param1 &&& 3 = 0 then some config
  else if param1 &&& 3 = 1 then some otp
  else if param1 &&& 3 = 2 then some data
  else none

/-- The last block that starts inside the zone. -/
def lastBlock : Zone → UInt8
  | config => 2
  | otp => 1
  | data => 15

def size : Zone → Nat
  | config => 88
  | otp => 64
  | data => 512

def name : Zone → String
  | config => "Config"
  | otp => "OTP"
  | data => "Data"

end Zone

end SecureElement
