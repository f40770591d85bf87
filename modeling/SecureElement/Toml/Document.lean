import SecureElement.Toml.Scalar
import SecureElement.Toml.Text
/-!
# TOML documents

A document is read line by line: headers open tables and keys are set in the table that was opened last. Any
mistake makes the whole document unreadable.
-/

namespace SecureElement.Toml

abbrev Reader (α : Type) := StateT (List Char) Option α

namespace Reader

def peek : Reader (Option Char) := do
  return (← get).head?

def expect (c : Char) : Reader Unit := do
  match ← get with
  | d :: rest => if c = d then set rest else failure
  | [] => failure

def takeWhile (p : Char → Bool) : Reader (List Char) := do
  let text ← get
  set (text.dropWhile p)
  return text.takeWhile p

def skipSpaces : Reader Unit := do
  let _ ← takeWhile isSpace

def skipComment : Reader Unit := do
  if (← peek) = some '#' then
    let _ ← takeWhile isTextChar

def newline : Reader Unit := do
  match newline? (← get) with
  | some rest => set rest
  | none => failure

/-- The end of a line: blanks, maybe a comment, and a line end or the end of the text. -/
def lineEnd : Reader Unit := do
  skipSpaces
  skipComment
  if (← get) ≠ [] then newline

def skipFillLoop : (fuel : Nat) → Reader Unit
  | 0 => return
  | fuel + 1 => do
    skipSpaces
    match ← peek with
    | some '#' => do skipComment; newline; skipFillLoop fuel
    | some '\n' => do newline; skipFillLoop fuel
    | some '\r' => do newline; skipFillLoop fuel
    | _ => return

/-- Passes over blanks, comments and line ends. -/
def skipFill : Reader Unit := do
  skipFillLoop ((← get).length + 1)

def isBareKeyChar (c : Char) : Bool :=
  c.isAlphanum || c == '_' || c == '-'

def keyPart : Reader String := do
  match ← peek with
  | some '"' => readLineString
  | some '\'' => readLineString
  | _ =>
    let key ← takeWhile isBareKeyChar
    if key = [] then failure
    return String.ofList key

def keyParts : (fuel : Nat) → Reader (List String)
  | 0 => failure
  | fuel + 1 => do
    skipSpaces
    let part ← keyPart
    skipSpaces
    if (← peek) = some '.' then
      expect '.'
      return part :: (← keyParts fuel)
    else return [part]

/-- How deep arrays, braces and dotted keys may go. -/
def depthLimit : Nat := 79

/-- Reads a key: the parts before its last dot, and its last part. -/
def key : Reader (List String × String) := do
  let parts ← keyParts depthLimit
  match parts.getLast? with
  | some last => return (parts.dropLast, last)
  | none => failure

def isWordChar (c : Char) : Bool :=
  c.isAlphanum || c == '_' || c == '+' || c == '-' || c == '.' || c == ':'

/-- A word that is a value. Between a date and a time of day one blank may stand. -/
def word : Reader Value := do
  let first ← takeWhile isWordChar
  match ← get with
  | ' ' :: c :: rest =>
    if isDate first ∧ c.isDigit then
      set (c :: rest)
      let second ← takeWhile isWordChar
      if isTimeOfDay second then return .dateTime (String.ofList (first ++ ' ' :: second)) else failure
    else scalar? first
  | _ => scalar? first

/-- Elements up to the closing bracket; a comma may follow the last. -/
def elements (element : Reader Value) : (fuel : Nat) → Reader (List Value)
  | 0 => failure
  | fuel + 1 => do
    skipFill
    if (← peek) = some ']' then
      expect ']'
      return []
    let first ← element
    skipFill
    if (← peek) = some ',' then
      expect ','
      return first :: (← elements element fuel)
    else
      expect ']'
      return [first]

/-- Entries up to the closing brace; they stand on one line and no comma follows the last. -/
def bracedEntries (element : Reader Value) (entries : Entries) : (fuel : Nat) → Reader Entries
  | 0 => failure
  | fuel + 1 => do
    let (path, last) ← key
    expect '='
    skipSpaces
    let value ← element
    let entries ← entries.assign path last value .braces
    skipSpaces
    if (← peek) = some ',' then
      expect ','
      bracedEntries element entries fuel
    else
      expect '\x7d'
      return entries

/-- Reads an array or an inline table; `element` reads the values inside it. -/
def enclosed (element : Reader Value) : Reader Value := do
  if (← peek) = some '[' then
    expect '['
    return .array (← elements element ((← get).length + 1))
  else
    expect '\x7b'
    skipSpaces
    if (← peek) = some '\x7d' then
      expect '\x7d'
      return .table .braces []
    return .table .braces (← bracedEntries element [] ((← get).length + 1))

def valueOr (nested : Reader Value) : Reader Value := do
  let first ← peek
  if first = some '"' ∨ first = some '\'' then return .string (← readString)
  else if first = some '[' ∨ first = some '\x7b' then nested
  else word

/-- Reads a value that holds others at most `depth` deep. -/
def value : (depth : Nat) → Reader Value
  | 0 => valueOr failure
  | depth + 1 => valueOr (enclosed (value depth))

end Reader

/-- A document as far as it has been read: the outermost table, and the path to the table that is open. -/
structure Document where
  entries : Entries := []
  path : List String := []

namespace Document

open Reader

def header (document : Document) : Reader Document := do
  expect '['
  if (← peek) = some '[' then
    expect '['
    let (path, last) ← key
    expect ']'
    expect ']'
    let entries ← document.entries.openElement path last
    return { entries, path := path ++ [last] }
  else
    let (path, last) ← key
    expect ']'
    let entries ← document.entries.openTable path last
    return { entries, path := path ++ [last] }

def setting (document : Document) : Reader Document := do
  let (path, last) ← key
  expect '='
  skipSpaces
  let value ← value depthLimit
  let entries ← Entries.alter false (Entries.assign path last value) document.path .header
    document.entries
  return { document with entries }

def line (document : Document) : Reader Document := do
  skipSpaces
  let document ←
    match ← peek with
    | none => pure document
    | some '#' => pure document
    | some '\n' => pure document
    | some '\r' => pure document
    | some '[' => header document
    | some _ => setting document
  lineEnd
  return document

def lines (document : Document) : (fuel : Nat) → Reader Document
  | 0 => failure
  | fuel + 1 => do
    if (← get) = [] then return document
    lines (← line document) fuel

end Document

/-- Reads a whole document. A byte order mark may come first. -/
def parse (text : String) : Option Entries := do
  let chars := text.toList
  let chars := if chars.head? = some '\ufeff' then chars.drop 1 else chars
  let (document, _) ← (Document.lines {} (chars.length + 1)).run chars
  return document.entries

end SecureElement.Toml
