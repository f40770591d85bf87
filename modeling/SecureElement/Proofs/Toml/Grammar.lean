import SecureElement.Proofs.Numeral
import SecureElement.Toml.Value
import SecureElement.Toml.Text
/-!
# The grammar of flat TOML documents

How a document is written that sets keys of its outermost table to strings and integers, with all the freedom that TOML
1.0 leaves: where blanks, comments and empty lines stand, which line ends are used, how a key is quoted, in which of
four ways and with which escapes a string is written, in which radix and with which underscores an integer is. Each
relation takes what is written first and then what it stands for.
-/

namespace SecureElement.Toml

open Numeral (IsDigit valueOf)

/-! ## Blanks and comments -/

def IsSpaces (written : List Char) : Prop :=
  ∀ c ∈ written, c = ' ' ∨ c = '\t'

inductive IsNewline : List Char → Prop where
  | lineFeed : IsNewline ['\n']
  | carriageReturn : IsNewline ['\r', '\n']

/-- A character that stands for itself, delimiters apart: any but the controls, of which only the tab does. -/
def IsPlain (c : Char) : Prop :=
  c = '\t' ∨ 0x20 ≤ c.toNat ∧ c.toNat ≠ 0x7F

inductive IsComment : List Char → Prop where
  | none : IsComment []
  | hash {text : List Char} (h : ∀ c ∈ text, IsPlain c) : IsComment ('#' :: text)

inductive IsFill : List Char → Prop where
  | spaces {spaces : List Char} (h : IsSpaces spaces) : IsFill spaces
  | line {spaces newline fill : List Char} (hspaces : IsSpaces spaces) (hnewline : IsNewline newline)
      (hfill : IsFill fill) : IsFill (spaces ++ newline ++ fill)

/-- The text does not go on with a blank or a line end. -/
def Solid (text : List Char) : Prop :=
  ∀ c ∈ text.head?, c ≠ ' ' ∧ c ≠ '\t' ∧ c ≠ '\n' ∧ c ≠ '\r'

/-! ## Strings -/

/-- What stands after the backslash of an escape, and the character that is meant. -/
inductive IsEscape : List Char → Char → Prop where
  | backspace : IsEscape ['b'] '\x08'
  | tab : IsEscape ['t'] '\t'
  | lineFeed : IsEscape ['n'] '\n'
  | formFeed : IsEscape ['f'] '\x0c'
  | carriageReturn : IsEscape ['r'] '\r'
  | quote : IsEscape ['"'] '"'
  | backslash : IsEscape ['\\'] '\\'
  | scalar {letter : Char} {digits : List Char}
      (hlength : letter = 'u' ∧ digits.length = 4 ∨ letter = 'U' ∧ digits.length = 8)
      (hdigits : ∀ c ∈ digits, IsDigit 16 c) (hscalar : (valueOf 16 digits).isValidChar) :
      IsEscape (letter :: digits) (Char.ofNat (valueOf 16 digits))

/-- What stands between the quotes of a string, and the text that it is written for. `run` counts the quotes that stand
right before: a string over several lines may hold one or two of its quotes in a row. -/
inductive IsBody (style : Style) : (run : Nat) → (written text : List Char) → Prop where
  | nil {run : Nat} : IsBody style run [] []
  | quote {run : Nat} {written text : List Char} (hlines : style.multiline = true) (hrun : run < 2)
      (h : IsBody style (run + 1) written text) : IsBody style run (style.quote :: written) (style.quote :: text)
  | plain {run : Nat} {c : Char} {written text : List Char} (hc : IsPlain c) (hquote : c ≠ style.quote)
      (hescape : style.escapes = true → c ≠ '\\') (h : IsBody style 0 written text) :
      IsBody style run (c :: written) (c :: text)
  | escape {run : Nat} {c : Char} {sequence written text : List Char} (hescapes : style.escapes = true)
      (hc : IsEscape sequence c) (h : IsBody style 0 written text) :
      IsBody style run ('\\' :: (sequence ++ written)) (c :: text)
  | lineEnd {run : Nat} {newline written text : List Char} (hlines : style.multiline = true)
      (hnewline : IsNewline newline) (h : IsBody style 0 written text) :
      IsBody style run (newline ++ written) ('\n' :: text)
  /-- A backslash at the end of a line hides the line end and all blanks and line ends that follow. -/
  | join {run : Nat} {spaces newline fill written text : List Char} (hlines : style.multiline = true)
      (hescapes : style.escapes = true) (hspaces : IsSpaces spaces) (hnewline : IsNewline newline)
      (hfill : IsFill fill) (hsolid : Solid written) (h : IsBody style 0 written text) :
      IsBody style run ('\\' :: (spaces ++ newline ++ fill ++ written)) text

/-- A string in quotes that stands on one line. -/
inductive IsLineString : List Char → List Char → Prop where
  | mk {style : Style} {written text : List Char} (hstyle : style = .basic ∨ style = .literal)
      (h : IsBody style 0 written text) : IsLineString (style.quote :: written ++ [style.quote]) text

/-- A string in tripled quotes. A line end right after the first three does not count. -/
inductive IsLinesString : List Char → List Char → Prop where
  | mk {style : Style} {start written text : List Char} (hstyle : style = .basicLines ∨ style = .literalLines)
      (hstart : IsNewline start ∨ start = [] ∧ ∀ c ∈ written.head?, c ≠ '\n' ∧ c ≠ '\r')
      (h : IsBody style 0 written text) :
      IsLinesString (List.replicate 3 style.quote ++ start ++ written ++ List.replicate 3 style.quote) text

/-! ## Integers -/

/-- Digits with single underscores between some of them, and the digits alone. -/
inductive IsGroup (radix : Nat) : List Char → List Char → Prop where
  | last {c : Char} (hc : IsDigit radix c) : IsGroup radix [c] [c]
  | digit {c : Char} {written digits : List Char} (hc : IsDigit radix c) (h : IsGroup radix written digits) :
      IsGroup radix (c :: written) (c :: digits)
  | underscore {c : Char} {written digits : List Char} (hc : IsDigit radix c) (h : IsGroup radix written digits) :
      IsGroup radix (c :: '_' :: written) (c :: digits)

/-- Decimal digits of which the first is no zero, unless it is the only one. -/
structure IsDecimalGroup (written digits : List Char) : Prop where
  group : IsGroup 10 written digits
  zero : written = ['0'] ∨ written.head? ≠ some '0'

inductive IsRadix : Char → Nat → Prop where
  | hexadecimal : IsRadix 'x' 16
  | octal : IsRadix 'o' 8
  | binary : IsRadix 'b' 2

inductive IsInteger : List Char → Int → Prop where
  | decimal {sign written digits : List Char} (hsign : sign = [] ∨ sign = ['+']) (h : IsDecimalGroup written digits) :
      IsInteger (sign ++ written) (valueOf 10 digits)
  | negative {written digits : List Char} (h : IsDecimalGroup written digits) :
      IsInteger ('-' :: written) (-valueOf 10 digits)
  | radix {letter : Char} {radix : Nat} {written digits : List Char} (hradix : IsRadix letter radix)
      (h : IsGroup radix written digits) : IsInteger ('0' :: letter :: written) (valueOf radix digits)

/-! ## Documents -/

inductive IsKey : List Char → String → Prop where
  | bare {name : List Char} (hne : name ≠ []) (h : ∀ c ∈ name, c.isAlphanum ∨ c = '_' ∨ c = '-') :
      IsKey name (String.ofList name)
  | quoted {written name : List Char} (h : IsLineString written name) : IsKey written (String.ofList name)

inductive IsValue : List Char → Value → Prop where
  | lineString {written text : List Char} (h : IsLineString written text) :
      IsValue written (.string (String.ofList text))
  | linesString {written text : List Char} (h : IsLinesString written text) :
      IsValue written (.string (String.ofList text))
  | integer {written : List Char} {value : Int} (h : IsInteger written value) (hlow : -2 ^ 63 ≤ value)
      (hhigh : value < 2 ^ 63) : IsValue written (.integer value)

/-- A line without its end: it sets one key, or none. -/
inductive IsLine : List Char → Entries → Prop where
  | blank {spaces comment : List Char} (hspaces : IsSpaces spaces) (hcomment : IsComment comment) :
      IsLine (spaces ++ comment) []
  | setting {before key gap gap' word after comment : List Char} {name : String} {value : Value}
      (hbefore : IsSpaces before) (hkey : IsKey key name) (hgap : IsSpaces gap) (hgap' : IsSpaces gap')
      (hword : IsValue word value) (hafter : IsSpaces after) (hcomment : IsComment comment) :
      IsLine (before ++ key ++ gap ++ '=' :: (gap' ++ word ++ after ++ comment)) [(name, value)]

/-- Lines and what they set, in this order. No line end needs to stand after the last. -/
inductive IsLines : List Char → Entries → Prop where
  | last {line : List Char} {entries : Entries} (h : IsLine line entries) : IsLines line entries
  | line {line newline rest : List Char} {entries entries' : Entries} (h : IsLine line entries)
      (hnewline : IsNewline newline) (h' : IsLines rest entries') :
      IsLines (line ++ newline ++ rest) (entries ++ entries')

/-- A document that sets no key twice. -/
structure IsDocument (written : List Char) (entries : Entries) : Prop where
  lines : IsLines written entries
  nodup : (entries.map (·.1)).Nodup

end SecureElement.Toml
