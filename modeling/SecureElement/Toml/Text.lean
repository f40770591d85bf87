import SecureElement.Hex
import SecureElement.Numeral
/-!
# TOML strings

Basic strings stand in double quotes and know escapes, literal strings stand in single quotes and know none.
Either kind spans lines when its quotes are tripled.
-/

namespace SecureElement.Toml

/-- The characters that a comment may hold, and a string as they are, quotes and backslashes apart. -/
def isTextChar (c : Char) : Bool :=
  c == '\t' || (0x20 ≤ c.toNat && c.toNat ≠ 0x7F)

def scalarOfDigits? (digits : List Char) : Option Char := do
  let values ← digits.mapM (Numeral.digitValue? 16)
  let code := values.foldl (fun code digit => code * 16 + digit) 0
  if code < 0xD800 ∨ (0xE000 ≤ code ∧ code < 0x110000) then some (Char.ofNat code) else none

def escape? : Char → Option Char
  | 'b' => some '\x08'
  | 't' => some '\t'
  | 'n' => some '\n'
  | 'f' => some '\x0c'
  | 'r' => some '\r'
  | '"' => some '"'
  | '\\' => some '\\'
  | _ => none

def readEscape : List Char → Option (Char × List Char)
  | 'u' :: rest =>
    if rest.length < 4 then none else (scalarOfDigits? (rest.take 4)).map (·, rest.drop 4)
  | 'U' :: rest =>
    if rest.length < 8 then none else (scalarOfDigits? (rest.take 8)).map (·, rest.drop 8)
  | c :: rest => (escape? c).map (·, rest)
  | [] => none

def newline? : List Char → Option (List Char)
  | '\n' :: rest => some rest
  | '\r' :: '\n' :: rest => some rest
  | _ => none

def isSpace (c : Char) : Bool :=
  c == ' ' || c == '\t'

/-- What is left after blanks and line ends. -/
def dropFill : (fuel : Nat) → List Char → List Char
  | 0, text => text
  | fuel + 1, text =>
    let text := text.dropWhile isSpace
    match newline? text with
    | some rest => dropFill fuel rest
    | none => text

/-- A backslash at the end of a line joins it with the next text. -/
def lineJoin? (text : List Char) : Option (List Char) :=
  (newline? (text.dropWhile isSpace)).map fun rest => dropFill (rest.length + 1) rest

/-- The quotes that belong to the text when more than three end a string: at most two. -/
def closingQuotes (quote : Char) : List Char → List Char × List Char
  | a :: b :: rest =>
    if a = quote ∧ b = quote then ([quote, quote], rest)
    else if a = quote then ([quote], b :: rest)
    else ([], a :: b :: rest)
  | [a] => if a = quote then ([quote], []) else ([], [a])
  | [] => ([], [])

structure Style where
  quote : Char
  escapes : Bool
  multiline : Bool
  deriving DecidableEq, Repr

namespace Style

def basic : Style := ⟨'"', true, false⟩

def literal : Style := ⟨'\'', false, false⟩

def basicLines : Style := ⟨'"', true, true⟩

def literalLines : Style := ⟨'\'', false, true⟩

/-- Whether a string of this style ends at this point of the text. -/
def closes (style : Style) (text : List Char) : Bool :=
  if style.multiline then text.take 3 == [style.quote, style.quote, style.quote]
  else text.head? == some style.quote

end Style

def readBody (style : Style) : (fuel : Nat) → List Char → Option (List Char × List Char)
  | 0, _ => none
  | fuel + 1, text =>
    if style.closes text then
      if style.multiline then some (closingQuotes style.quote (text.drop 3)) else some ([], text.drop 1)
    else
      match text with
      | [] => none
      | c :: rest =>
        if style.escapes ∧ c = '\\' then
          match (if style.multiline then lineJoin? rest else none) with
          | some rest => readBody style fuel rest
          | none => do
            let (e, rest) ← readEscape rest
            let (body, rest) ← readBody style fuel rest
            return (e :: body, rest)
        else if isTextChar c then do
          let (body, rest) ← readBody style fuel rest
          return (c :: body, rest)
        else if style.multiline then do
          let rest ← newline? text
          let (body, rest) ← readBody style fuel rest
          return ('\n' :: body, rest)
        else none

/-- Reads a string in a style, quotes included. A line end right after tripled quotes does not count. -/
def readStyle (style : Style) (text : List Char) : Option (String × List Char) :=
  let body :=
    if style.multiline then let text := text.drop 3; (newline? text).getD text else text.drop 1
  (readBody style (body.length + 1) body).map fun (body, rest) => (String.ofList body, rest)

def readString (text : List Char) : Option (String × List Char) :=
  match text with
  | '"' :: '"' :: '"' :: _ => readStyle .basicLines text
  | '"' :: _ => readStyle .basic text
  | '\'' :: '\'' :: '\'' :: _ => readStyle .literalLines text
  | '\'' :: _ => readStyle .literal text
  | _ => none

def readLineString (text : List Char) : Option (String × List Char) :=
  match text with
  | '"' :: _ => readStyle .basic text
  | '\'' :: _ => readStyle .literal text
  | _ => none

def longestRun (c : Char) (text : List Char) : Nat :=
  (text.foldl (fun (best, current) d =>
    if d = c then (max best (current + 1), current + 1) else (best, 0)) (0, 0)).1

def isControl (c : Char) : Bool :=
  (c.toNat < 0x20 && c != '\t' && c != '\n') || c.toNat == 0x7F

/-- The plainest style for a text: the first that needs no escapes, on one line before several. A text that
needs escapes is basic. -/
def styleFor (text : List Char) : Style :=
  let control := text.any isControl
  let backslash := text.any (· == '\\')
  let lines := text.any (· == '\n')
  let double := longestRun '"' text
  let single := longestRun '\'' text
  if !control && !backslash && double == 0 && !lines then .basic
  else if !control && single == 0 && !lines then .literal
  else if !control && !backslash && double ≤ 2 then .basicLines
  else if !control && single ≤ 2 then .literalLines
  else if lines then .basicLines
  else .basic

def escapeChar (multiline : Bool) (c : Char) : List Char :=
  if c = '\x08' then ['\\', 'b']
  else if c = '\t' then ['\\', 't']
  else if c = '\n' then if multiline then ['\n'] else ['\\', 'n']
  else if c = '\x0c' then ['\\', 'f']
  else if c = '\r' then ['\\', 'r']
  else if c = '\\' then ['\\', '\\']
  else if isControl c then "\\u00".toList ++ (Hex.encodeUpper [c.toNat.toUInt8]).toList
  else [c]

/-- The text between the quotes of a basic string; `run` counts the quotes that stand right before. Three
quotes in a row would close a string over several lines, one quote any other. -/
def escapeText (multiline : Bool) (run : Nat) : List Char → List Char
  | [] => []
  | c :: rest =>
    if c = '"' then
      if (if multiline then 2 else 0) ≤ run then '\\' :: '"' :: escapeText multiline 0 rest
      else '"' :: escapeText multiline (run + 1) rest
    else escapeChar multiline c ++ escapeText multiline 0 rest

/-- Writes a string. A text of several lines starts on a line of its own. -/
def quote (text : String) : String :=
  let chars := text.toList
  let style := styleFor chars
  let quotes := List.replicate (if style.multiline then 3 else 1) style.quote
  let start := if style.multiline && chars.any (· == '\n') then ['\n'] else []
  let body := if style.escapes then escapeText style.multiline 0 chars else chars
  String.ofList (quotes ++ start ++ body ++ quotes)

end SecureElement.Toml
