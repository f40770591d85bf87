import SecureElement.Numeral
import SecureElement.Toml.Value
/-!
# TOML numbers, dates and times

These values are written without quotes or brackets, so each is read from a word of its own.
-/

namespace SecureElement.Toml

def isDigit (c : Char) : Bool :=
  '0' ≤ c && c ≤ '9'

/-- Digits of a radix in groups that single underscores divide. -/
def isGrouped (radix : Nat) (text : List Char) : Bool :=
  (text.splitOnP (· == '_')).all fun group =>
    !group.isEmpty && group.all fun c => (Numeral.digitValue? radix c).isSome

def groupedValue (radix : Nat) (text : List Char) : Nat :=
  text.foldl (fun value c =>
    match Numeral.digitValue? radix c with
    | some digit => value * radix + digit
    | none => value) 0

def signed (text : List Char) : Bool × List Char :=
  match text with
  | '-' :: rest => (true, rest)
  | '+' :: rest => (false, rest)
  | rest => (false, rest)

/-- Grouped decimal digits without a leading zero. -/
def isDecimal (text : List Char) : Bool :=
  isGrouped 10 text && (text.length == 1 || text.head? != some '0')

/-- The integer that a word stands for. It must fit 64 bits. -/
def integer? (word : List Char) : Option Int := do
  let value : Int ←
    match word with
    | '0' :: 'x' :: digits => if isGrouped 16 digits then some (groupedValue 16 digits : Int) else none
    | '0' :: 'o' :: digits => if isGrouped 8 digits then some (groupedValue 8 digits : Int) else none
    | '0' :: 'b' :: digits => if isGrouped 2 digits then some (groupedValue 2 digits : Int) else none
    | _ =>
      let (negative, digits) := signed word
      if isDecimal digits then
        let magnitude : Int := groupedValue 10 digits
        some (if negative then -magnitude else magnitude)
      else none
  guard (Int64.minValue.toInt ≤ value ∧ value ≤ Int64.maxValue.toInt)
  return value

/-- Whether `mantissa` times ten to the power of `scale` rounds to infinity as a double. -/
def overflows (mantissa : Nat) (scale : Int) : Bool :=
  let digits : Int := (Nat.toDigits 10 mantissa).length
  if mantissa == 0 || digits + scale < 300 then false
  else if 320 < digits + scale then true
  else
    let bound := Nat.pow 2 1024 - Nat.pow 2 970
    if 0 ≤ scale then bound ≤ mantissa * Nat.pow 10 scale.toNat
    else bound * Nat.pow 10 (-scale).toNat ≤ mantissa

/-- Whether a word is a decimal fraction, has an exponent, or both. -/
def isDecimalFloat (word : List Char) : Bool :=
  let (negative, unsigned) := signed word
  let isMark (c : Char) : Bool := c == 'e' || c == 'E'
  let mantissa := unsigned.takeWhile (!isMark ·)
  let exponent := unsigned.dropWhile (!isMark ·)
  let whole := mantissa.takeWhile (· != '.')
  let fraction := mantissa.dropWhile (· != '.')
  let (exponentNegative, exponentDigits) := signed (exponent.drop 1)
  let fractionDigits := (fraction.drop 1).filter isDigit
  let power : Int := groupedValue 10 exponentDigits
  let scale := (if exponentNegative then -power else power) - fractionDigits.length
  !(fraction.isEmpty && exponent.isEmpty) && isDecimal whole &&
    (fraction.isEmpty || isGrouped 10 (fraction.drop 1)) &&
    (exponent.isEmpty || isGrouped 10 exponentDigits) &&
    (negative || !overflows (groupedValue 10 (whole ++ fractionDigits)) scale)

def isFloat (word : List Char) : Bool :=
  let (_, unsigned) := signed word
  unsigned == "inf".toList || unsigned == "nan".toList || isDecimalFloat word

/-- The value of a word that is exactly `count` digits. -/
def fixedDigits? (count : Nat) (word : List Char) : Option Nat :=
  if word.length = count ∧ word.all isDigit then some (groupedValue 10 word) else none

def daysInMonth (year month : Nat) : Nat :=
  if month = 2 then if year % 4 = 0 ∧ (year % 100 ≠ 0 ∨ year % 400 = 0) then 29 else 28
  else if month = 4 ∨ month = 6 ∨ month = 9 ∨ month = 11 then 30
  else 31

def isDate (word : List Char) : Bool :=
  match word.splitOnP (· == '-') with
  | [year, month, day] =>
    match fixedDigits? 4 year, fixedDigits? 2 month, fixedDigits? 2 day with
    | some year, some month, some day =>
      1 ≤ month && month ≤ 12 && 1 ≤ day && day ≤ daysInMonth year month
    | _, _, _ => false
  | _ => false

def isClock (hourLimit : Nat) (hour minute : List Char) : Bool :=
  match fixedDigits? 2 hour, fixedDigits? 2 minute with
  | some hour, some minute => hour < hourLimit && minute < 60
  | _, _ => false

def isTime (word : List Char) : Bool :=
  match word.splitOnP (· == ':') with
  | [hour, minute, second] =>
    let whole := second.takeWhile (· != '.')
    let fraction := second.dropWhile (· != '.')
    isClock 24 hour minute && ((fixedDigits? 2 whole).any (· ≤ 60)) &&
      (fraction.isEmpty || (fraction.length ≥ 2 && (fraction.drop 1).all isDigit))
  | _ => false

def isOffsetTime (word : List Char) : Bool :=
  match word.getLast? with
  | some last =>
    if last = 'Z' ∨ last = 'z' then isTime word.dropLast
    else
      let isSign (c : Char) : Bool := c == '+' || c == '-'
      let offset := (word.dropWhile (!isSign ·)).drop 1
      match offset.splitOnP (· == ':') with
      | [hour, minute] => isClock 24 hour minute && isTime (word.takeWhile (!isSign ·))
      | _ => false
  | none => false

/-- What may follow a date. -/
def isTimeOfDay (word : List Char) : Bool :=
  isTime word || isOffsetTime word

def isDateTime (word : List Char) : Bool :=
  isDate word || isTime word ||
    ((word[10]?).any (fun c => c == 'T' || c == 't') && isDate (word.take 10) &&
      isTimeOfDay (word.drop 11))

def scalar? (word : List Char) : Option Value :=
  if word = "true".toList then some (.boolean true)
  else if word = "false".toList then some (.boolean false)
  else if isDateTime word then some (.dateTime (String.ofList word))
  else if isFloat word then some (.float (String.ofList word))
  else (integer? word).map .integer

end SecureElement.Toml
