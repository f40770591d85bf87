import SecureElement.Bytes
/-!
# The frame checksum

A 16-bit cyclic redundancy check with the polynomial x^16 + x^15 + x^2 + 1, starting from zero. Every byte
enters the register least significant bit first, and the register leaves it low byte first.
-/

namespace SecureElement.Crc16

def polynomial : UInt16 := 0x8005

def shiftBit (register : UInt16) (bit : Bool) : UInt16 :=
  if bit = decide (0x8000 ≤ register) then register <<< 1 else (register <<< 1) ^^^ polynomial

/-- The bits of a byte in the order in which they enter the register. -/
def bits (byte : UInt8) : List Bool :=
  (List.range 8).map byte.toNat.testBit

def compute (bytes : List UInt8) : UInt16 :=
  (bytes.flatMap bits).foldl shiftBit 0

/-- The two checksum bytes that follow `bytes` on the wire. -/
def trailer (bytes : List UInt8) : Bytes 2 :=
  Bytes.ofUInt16 (compute bytes)

def attach (bytes : List UInt8) : List UInt8 :=
  bytes ++ (trailer bytes).toList

/-- Whether the last two bytes are the checksum of those before them. -/
def isValid (frame : List UInt8) : Bool :=
  2 ≤ frame.length && (trailer (frame.take (frame.length - 2))).toList == frame.drop (frame.length - 2)

@[simp] theorem length_attach (bytes : List UInt8) : (attach bytes).length = bytes.length + 2 := by
  simp [attach]

@[simp] theorem isValid_attach (bytes : List UInt8) : isValid (attach bytes) = true := by
  simp [isValid, attach]

theorem isValid_iff {frame : List UInt8} :
    isValid frame = true ↔ ∃ bytes, frame = attach bytes := by
  constructor
  · intro h
    simp only [isValid, Bool.and_eq_true, beq_iff_eq] at h
    exact ⟨frame.take (frame.length - 2), by rw [attach, h.2, List.take_append_drop]⟩
  · rintro ⟨bytes, rfl⟩
    exact isValid_attach bytes

end SecureElement.Crc16
