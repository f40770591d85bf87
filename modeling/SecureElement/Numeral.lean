/-!
# Unsigned numerals

Digits in a given radix, optionally after one plus sign, for a value up to a given limit. Reading goes from
left to right and stops at the first character that is no digit or takes the value over the limit.
-/

namespace SecureElement.Numeral

inductive Error where
  | empty
  | invalidDigit
  | tooLarge
  deriving DecidableEq, Repr

def Error.message : Error → String
  | .empty => "cannot parse integer from empty string"
  | .invalidDigit => "invalid digit found in string"
  | .tooLarge => "number too large to fit in target type"

/-- The value of an ASCII digit or letter, if it is a digit in `radix`. -/
def digitValue? (radix : Nat) (c : Char) : Option Nat :=
  let code := c.toNat
  let value :=
    if 48 ≤ code ∧ code ≤ 57 then code - 48
    else if 97 ≤ code ∧ code ≤ 122 then code - 87
    else if 65 ≤ code ∧ code ≤ 90 then code - 55
    else radix
  if value < radix then some value else none

/-- Reads on from `value`. A character that is no digit is reported before an excess. -/
def accumulate (radix limit : Nat) (value : Nat) : List Char → Except Error Nat
  | [] => .ok value
  | c :: rest =>
    match digitValue? radix c with
    | none => .error .invalidDigit
    | some digit =>
      if value * radix + digit ≤ limit then accumulate radix limit (value * radix + digit) rest
      else .error .tooLarge

def parse (radix limit : Nat) : List Char → Except Error Nat
  | [] => .error .empty
  | ['+'] => .error .invalidDigit
  | '+' :: digits => accumulate radix limit 0 digits
  | digits => accumulate radix limit 0 digits

def parseByte (text : String) : Except Error UInt8 :=
  (parse 10 255 text.toList).map UInt8.ofNat

end SecureElement.Numeral
