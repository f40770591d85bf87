import SecureElement.Text
/-!
# Hexadecimal text

Two digits per byte, the high half first. Reading takes digits of either case and reports the first
byte of the text that is not one.
-/

namespace SecureElement.Hex

inductive Error where
  | oddLength
  | invalidDigit (byte : UInt8) (position : Nat)
  deriving DecidableEq, Repr

/-- The offending byte is shown as the character with that code. -/
def Error.message : Error → String
  | .oddLength => "Odd number of digits"
  | .invalidDigit byte position =>
    s!"Invalid character {Text.quoteCode byte} at position {position}"

def digits (byte : UInt8) : List Char :=
  [Nat.digitChar (byte.toNat / 16), Nat.digitChar (byte.toNat % 16)]

def encodeLower (bytes : List UInt8) : String :=
  String.ofList (bytes.flatMap digits)

def encodeUpper (bytes : List UInt8) : String :=
  String.ofList (bytes.flatMap fun byte => (digits byte).map Char.toUpper)

def digitValue? (byte : UInt8) : Option UInt8 :=
  if 0x30 ≤ byte ∧ byte ≤ 0x39 then some (byte - 0x30)
  else if 0x41 ≤ byte ∧ byte ≤ 0x46 then some (byte - 0x37)
  else if 0x61 ≤ byte ∧ byte ≤ 0x66 then some (byte - 0x57)
  else none

def decodeFrom (position : Nat) : List UInt8 → Except Error (List UInt8)
  | high :: low :: rest =>
    match digitValue? high, digitValue? low with
    | none, _ => .error (.invalidDigit high position)
    | some _, none => .error (.invalidDigit low (position + 1))
    | some h, some l => (decodeFrom (position + 2) rest).map ((h <<< 4 ||| l) :: ·)
  | _ => .ok []

def decode (text : List UInt8) : Except Error (List UInt8) :=
  if text.length % 2 = 1 then .error .oddLength else decodeFrom 0 text

end SecureElement.Hex
