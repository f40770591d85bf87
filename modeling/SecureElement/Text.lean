/-!
# Texts

The bytes of a text, its lines and the runs between its blanks, and how a message shows a single character.
-/

namespace SecureElement.Text

def utf8Bytes (text : String) : List UInt8 :=
  text.toList.flatMap String.utf8EncodeChar

def ofUtf8? (bytes : List UInt8) : Option String :=
  (ByteArray.mk bytes.toArray).utf8Decode?.map fun chars => String.ofList chars.toList

/-! ## Lines

A line ends at a line feed, and a carriage return right before it belongs to the line end. What follows the
last line feed is a line of its own unless it is empty, and keeps all its characters. -/

def dropReturn (line : List Char) : List Char :=
  if line.getLast? = some '\r' then line.dropLast else line

def lines (text : List Char) : List (List Char) :=
  let pieces := text.splitOnP (· == '\n')
  pieces.dropLast.map dropReturn ++ (pieces.getLast?.toList.filter (· ≠ []))

/-! ## Blanks -/

/-- Whether the character has the property White_Space. -/
def isBlank (c : Char) : Bool :=
  let code := c.toNat
  (0x09 ≤ code && code ≤ 0x0D) || code == 0x20 || code == 0x85 || code == 0xA0 || code == 0x1680 ||
    (0x2000 ≤ code && code ≤ 0x200A) || code == 0x2028 || code == 0x2029 || code == 0x202F ||
    code == 0x205F || code == 0x3000

def trim (text : List Char) : List Char :=
  ((text.dropWhile isBlank).reverse.dropWhile isBlank).reverse

/-- The longest runs of characters that are not blank. -/
def fields (text : List Char) : List (List Char) :=
  (text.splitOnP isBlank).filter (· ≠ [])

/-! ## Quoted characters

Controls and what could be taken for a quote are escaped. -/

/-- Whether the character with this code leaves no mark: controls, the space that does not break, and the soft
hyphen. -/
def isInvisible (code : UInt8) : Bool :=
  code < 0x20 || (0x7F ≤ code && code ≤ 0xA0) || code == 0xAD

/-- What stands between the quotes for the character with this code. -/
def escapeCode (code : UInt8) : String :=
  if code = 0x00 then "\\0"
  else if code = 0x09 then "\\t"
  else if code = 0x0A then "\\n"
  else if code = 0x0D then "\\r"
  else if code = 0x27 then "\\'"
  else if code = 0x5C then "\\\\"
  else if isInvisible code then
    "\\u\x7b" ++ String.ofList (Nat.toDigits 16 code.toNat) ++ "\x7d"
  else String.singleton (Char.ofNat code.toNat)

def quoteCode (code : UInt8) : String :=
  "'" ++ escapeCode code ++ "'"

end SecureElement.Text
