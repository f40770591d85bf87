import SecureElement.Bytes
/-!
# SHA-256 and HMAC

The message is padded to whole 64-byte chunks, and every chunk is folded into eight 32-bit words. The message
schedule is kept as a window of sixteen words that moves on by one word per round.
-/

namespace SecureElement.Sha256

structure State where
  a : UInt32
  b : UInt32
  c : UInt32
  d : UInt32
  e : UInt32
  f : UInt32
  g : UInt32
  h : UInt32
  deriving DecidableEq, Repr

namespace State

def initial : State where
  a := 0x6a09e667
  b := 0xbb67ae85
  c := 0x3c6ef372
  d := 0xa54ff53a
  e := 0x510e527f
  f := 0x9b05688c
  g := 0x1f83d9ab
  h := 0x5be0cd19

def add (s t : State) : State where
  a := s.a + t.a
  b := s.b + t.b
  c := s.c + t.c
  d := s.d + t.d
  e := s.e + t.e
  f := s.f + t.f
  g := s.g + t.g
  h := s.h + t.h

def words (s : State) : Vector UInt32 8 :=
  #v[s.a, s.b, s.c, s.d, s.e, s.f, s.g, s.h]

end State

def roundConstants : List UInt32 :=
  [0x428a2f98, 0x71374491, 0xb5c0fbcf, 0xe9b5dba5, 0x3956c25b, 0x59f111f1, 0x923f82a4, 0xab1c5ed5,
   0xd807aa98, 0x12835b01, 0x243185be, 0x550c7dc3, 0x72be5d74, 0x80deb1fe, 0x9bdc06a7, 0xc19bf174,
   0xe49b69c1, 0xefbe4786, 0x0fc19dc6, 0x240ca1cc, 0x2de92c6f, 0x4a7484aa, 0x5cb0a9dc, 0x76f988da,
   0x983e5152, 0xa831c66d, 0xb00327c8, 0xbf597fc7, 0xc6e00bf3, 0xd5a79147, 0x06ca6351, 0x14292967,
   0x27b70a85, 0x2e1b2138, 0x4d2c6dfc, 0x53380d13, 0x650a7354, 0x766a0abb, 0x81c2c92e, 0x92722c85,
   0xa2bfe8a1, 0xa81a664b, 0xc24b8b70, 0xc76c51a3, 0xd192e819, 0xd6990624, 0xf40e3585, 0x106aa070,
   0x19a4c116, 0x1e376c08, 0x2748774c, 0x34b0bcb5, 0x391c0cb3, 0x4ed8aa4a, 0x5b9cca4f, 0x682e6ff3,
   0x748f82ee, 0x78a5636f, 0x84c87814, 0x8cc70208, 0x90befffa, 0xa4506ceb, 0xbef9a3f7, 0xc67178f2]

def rotateRight (x n : UInt32) : UInt32 :=
  (x >>> n) ||| (x <<< (32 - n))

def round (s : State) (constant word : UInt32) : State :=
  let sum1 := rotateRight s.e 6 ^^^ rotateRight s.e 11 ^^^ rotateRight s.e 25
  let choice := (s.e &&& s.f) ^^^ (~~~s.e &&& s.g)
  let t1 := s.h + sum1 + choice + constant + word
  let sum0 := rotateRight s.a 2 ^^^ rotateRight s.a 13 ^^^ rotateRight s.a 22
  let majority := (s.a &&& s.b) ^^^ (s.a &&& s.c) ^^^ (s.b &&& s.c)
  { a := t1 + (sum0 + majority), b := s.a, c := s.b, d := s.c,
    e := s.d + t1, f := s.e, g := s.f, h := s.g }

/-- The schedule word that enters the window when its first word leaves. -/
def nextWord (window : List UInt32) : UInt32 :=
  let w1 := window.getD 1 0
  let w14 := window.getD 14 0
  let s0 := rotateRight w1 7 ^^^ rotateRight w1 18 ^^^ (w1 >>> 3)
  let s1 := rotateRight w14 17 ^^^ rotateRight w14 19 ^^^ (w14 >>> 10)
  window.getD 0 0 + s0 + window.getD 9 0 + s1

def rounds : List UInt32 → List UInt32 → State → State
  | [], _, s => s
  | constant :: rest, window, s =>
    rounds rest (window.drop 1 ++ [nextWord window]) (round s constant (window.getD 0 0))

/-- Big-endian words of a chunk. -/
def wordsOf : List UInt8 → List UInt32
  | b0 :: b1 :: b2 :: b3 :: rest =>
    (b0.toUInt32 <<< 24 ||| b1.toUInt32 <<< 16 ||| b2.toUInt32 <<< 8 ||| b3.toUInt32) :: wordsOf rest
  | _ => []

def compress (s : State) (chunk : List UInt8) : State :=
  s.add (rounds roundConstants (wordsOf chunk) s)

/-- The message length in bits, as eight bytes with the highest first. -/
def lengthBytes (byteCount : Nat) : List UInt8 :=
  (List.range 8).map fun i => UInt8.ofNat ((byteCount * 8) >>> (8 * (7 - i)))

def pad (message : List UInt8) : List UInt8 :=
  message ++ 0x80 :: List.replicate ((119 - message.length % 64) % 64) 0 ++ lengthBytes message.length

def absorb : (count : Nat) → List UInt8 → State → State
  | 0, _, s => s
  | count + 1, bytes, s => absorb count (bytes.drop 64) (compress s (bytes.take 64))

def bytesOfWord (word : UInt32) : List UInt8 :=
  [(word >>> 24).toUInt8, (word >>> 16).toUInt8, (word >>> 8).toUInt8, word.toUInt8]

def State.toBlock (s : State) : Block :=
  ⟨(s.words.toList.flatMap bytesOfWord).toArray, by simp [State.words, bytesOfWord]⟩

end SecureElement.Sha256

namespace SecureElement

def sha256 (message : List UInt8) : Block :=
  let padded := Sha256.pad message
  (Sha256.absorb (padded.length / 64) padded .initial).toBlock

/-! # HMAC-SHA256

A key longer than one 64-byte chunk is hashed first, a shorter one is filled up with zeros. -/

def hmacKey (key : List UInt8) : List UInt8 :=
  padTo 64 0 (if 64 < key.length then (sha256 key).toList else key)

def hmacSha256 (key message : List UInt8) : Block :=
  let inner := sha256 ((hmacKey key).map (· ^^^ 0x36) ++ message)
  sha256 ((hmacKey key).map (· ^^^ 0x5C) ++ inner.toList)

end SecureElement
