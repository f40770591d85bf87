import SecureElement.Bytes
import SecureElement.Hex
import SecureElement.Numeral
import SecureElement.Text
/-!
# Values on the command line

Numbers are read when the arguments are, byte strings only when the command that needs them runs.
-/

namespace SecureElement.CommandLine

inductive ValueError where
  | numeral (error : Numeral.Error)
  | slotOutOfRange (slot : UInt8)
  deriving DecidableEq, Repr

def ValueError.message : ValueError → String
  | .numeral error => error.message
  | .slotOutOfRange slot => s!"slot {slot} is out of range 0-15"

def parseNumber (radix limit : Nat) (text : List Char) : Except ValueError Nat :=
  (Numeral.parse radix limit text).mapError .numeral

/-- A bus address in decimal digits or, after a leading 0x, in hexadecimal ones. -/
def parseAddress (text : String) : Except ValueError UInt16 :=
  let value :=
    match text.toList with
    | '0' :: 'x' :: digits => parseNumber 16 0xFFFF digits
    | '0' :: 'X' :: digits => parseNumber 16 0xFFFF digits
    | digits => parseNumber 10 0xFFFF digits
  value.map UInt16.ofNat

/-- A byte, written as an address is. A number that fits an address but no byte is refused in the same words as one
that fits neither. -/
def parseByte (text : String) : Except ValueError UInt8 := do
  let value ← parseAddress text
  if value ≤ 0xFF then return value.toUInt8 else throw (.numeral .tooLarge)

def parseSlot (text : String) : Except ValueError UInt8 := do
  let slot ← (Numeral.parseByte text).mapError .numeral
  if slot ≤ 15 then return slot else throw (.slotOutOfRange slot)

/-- A count of bytes: it must fit a machine word. -/
def parseCount (text : String) : Except ValueError Nat :=
  parseNumber 10 (UInt64.size - 1) text.toList

inductive HexError where
  | malformed (what : String) (error : Hex.Error)
  | notABlock (what : String) (length : Nat)
  deriving DecidableEq, Repr

def HexError.chain : HexError → List String
  | .malformed what error => [s!"{what} is not valid hex", error.message]
  | .notABlock what length => [s!"{what} must be 32 bytes, got {length}"]

/-- A byte string in hexadecimal digits; blanks around it do not count. -/
def parseHex (what text : String) : Except HexError (List UInt8) :=
  (Hex.decode (Text.utf8Bytes (String.ofList (Text.trim text.toList)))).mapError (.malformed what)

def parseBlock (what text : String) : Except HexError Block := do
  let bytes ← parseHex what text
  match Bytes.ofList? 32 bytes with
  | some block => return block
  | none => throw (.notABlock what bytes.length)

end SecureElement.CommandLine
