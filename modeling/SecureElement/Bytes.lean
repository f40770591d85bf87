/-!
# Byte strings

A byte string whose length the hardware fixes is a vector, so its length is checked once, where it is
made. What travels on the bus is a plain list of bytes.
-/

namespace SecureElement

abbrev Bytes (n : Nat) := Vector UInt8 n

/-- The smallest unit of a zone that can be read: 4 bytes. -/
abbrev Word := Bytes 4

/-- Keys, digests, challenges and data slots: 32 bytes. -/
abbrev Block := Bytes 32

namespace Bytes

def zero (n : Nat) : Bytes n := Vector.replicate n 0

def ofList? (n : Nat) (bytes : List UInt8) : Option (Bytes n) :=
  if h : bytes.length = n then some ⟨bytes.toArray, by simpa using h⟩ else none

def pair (a b : UInt8) : Bytes 2 := #v[a, b]

def quad (a b c d : UInt8) : Word := #v[a, b, c, d]

/-- The byte at an index; past the end there are only zeros. -/
def byte {n : Nat} (bytes : Bytes n) (i : Nat) : UInt8 :=
  bytes[i]?.getD 0

/-- The `len` bytes from `start` on; past the end there are only zeros. -/
def slice {n : Nat} (bytes : Bytes n) (start len : Nat) : Bytes len :=
  Vector.ofFn fun i => bytes.byte (start + i.val)

/-- Both bytes of `value`, the low one first. -/
def ofUInt16 (value : UInt16) : Bytes 2 :=
  pair value.toUInt8 (value >>> 8).toUInt8

def toUInt16 (bytes : Bytes 2) : UInt16 :=
  (bytes.byte 0).toUInt16 ||| ((bytes.byte 1).toUInt16 <<< 8)

def xor {n : Nat} (a b : Bytes n) : Bytes n :=
  Vector.zipWith (· ^^^ ·) a b

def slice? {n : Nat} (bytes : Bytes n) (start len : Nat) : Option (List UInt8) :=
  if start + len ≤ n then some ((bytes.toList.drop start).take len) else none

/-- The same bytes with `new` laid over them from `start` on; what does not fit is dropped. -/
def overwrite {n : Nat} (bytes : Bytes n) (start : Nat) (new : List UInt8) : Bytes n :=
  Vector.ofFn fun i =>
    if start ≤ i.val then new.getD (i.val - start) (bytes.byte i) else bytes.byte i

theorem ofList?_eq_some_iff {n : Nat} {bytes : List UInt8} {b : Bytes n} :
    ofList? n bytes = some b ↔ b.toList = bytes := by
  unfold ofList?
  split
  · next h =>
    rw [Option.some.injEq, ← Vector.toList_inj]
    constructor <;> intro e <;> simpa using e.symm
  · next h =>
    simp only [reduceCtorEq, false_iff]
    intro e
    exact h (by rw [← e, Vector.length_toList])

@[simp] theorem ofList?_toList {n : Nat} (b : Bytes n) : ofList? n b.toList = some b :=
  ofList?_eq_some_iff.2 rfl

theorem ofList?_eq_none_iff {n : Nat} {bytes : List UInt8} :
    ofList? n bytes = none ↔ bytes.length ≠ n := by
  unfold ofList?
  split <;> simp_all

@[simp] theorem toList_zero (n : Nat) : (zero n).toList = List.replicate n 0 := by
  simp [zero]

@[simp] theorem toList_pair (a b : UInt8) : (pair a b).toList = [a, b] := rfl

@[simp] theorem toList_quad (a b c d : UInt8) : (quad a b c d).toList = [a, b, c, d] := rfl

theorem byte_eq_getElem {n : Nat} (bytes : Bytes n) {i : Nat} (h : i < n) :
    bytes.byte i = bytes[i] := by
  simp [byte, h]

theorem byte_eq_zero {n : Nat} (bytes : Bytes n) {i : Nat} (h : n ≤ i) : bytes.byte i = 0 := by
  simp [byte, h]

@[simp] theorem getElem_slice {n : Nat} (bytes : Bytes n) (start len : Nat) (i : Nat) (h : i < len) :
    (bytes.slice start len)[i] = bytes.byte (start + i) := by
  simp [slice]

theorem getElem_overwrite {n : Nat} (bytes : Bytes n) (start : Nat) (new : List UInt8)
    (i : Nat) (h : i < n) :
    (overwrite bytes start new)[i] =
      if start ≤ i then new.getD (i - start) bytes[i] else bytes[i] := by
  simp [overwrite, byte_eq_getElem bytes h]

end Bytes

/-- `bytes` followed by as many `fill` bytes as it takes to reach `len`. -/
def padTo (len : Nat) (fill : UInt8) (bytes : List UInt8) : List UInt8 :=
  bytes ++ List.replicate (len - bytes.length) fill

@[simp] theorem length_padTo (len : Nat) (fill : UInt8) (bytes : List UInt8) :
    (padTo len fill bytes).length = max len bytes.length := by
  simp only [padTo, List.length_append, List.length_replicate]
  omega

/-! ## Flag bits

A flag occupies the bits of a mask inside a byte. -/

namespace Flag

def encode (mask : UInt8) (set : Bool) : UInt8 :=
  if set then mask else 0

def decode (mask byte : UInt8) : Bool :=
  byte &&& mask != 0

end Flag

end SecureElement
