import SecureElement.KeyStore.Basic
import SecureElement.Numeral
import SecureElement.Text
/-!
# Key store text

One slot per line: its name, blanks, and its key in hexadecimal digits. Blank lines and lines that start with
a number sign are passed over. Slots may be in any order, but none twice.
-/

namespace SecureElement.KeyStoreText

def header : String := "# Hashlet key store written from version: "

def slotPrefix : String := "key_slot_"

/-- The hexadecimal text of each slot that has one. -/
abbrev Table := Vector (Option String) 16

def Table.empty : Table := Vector.replicate 16 none

def keyLine (slot : Nat) (key : Block) : String :=
  s!"{slotName slot}    {Hex.encodeUpper key.toList}\n"

def format (keySet : KeySet) (version : String) : String :=
  let lines := keySet.keys.toList.zipIdx.map fun (key, slot) => keyLine slot key
  header ++ version ++ "\n" ++ String.join lines

/-- A slot name is the fixed beginning and a decimal numeral of a slot. -/
def slotOfName? (name : List Char) : Option (Fin 16) := do
  guard (slotPrefix.toList.isPrefixOf name)
  let slot ← (Numeral.parseByte (String.ofList (name.drop slotPrefix.length))).toOption
  if h : slot.toNat < 16 then some ⟨slot.toNat, h⟩ else none

def isHexDigit (c : Char) : Bool :=
  (Numeral.digitValue? 16 c).isSome

def parseEntry (line : List Char) : Except EntryFault (Fin 16 × String) :=
  match Text.fields line with
  | [name, value] =>
    match slotOfName? name with
    | none => .error (.badSlotName (String.ofList name))
    | some slot =>
      if value.length = 64 ∧ value.all isHexDigit then
        .ok (slot, String.ofList (value.map Char.toUpper))
      else .error (.badKey slot)
  | _ => .error .malformed

def addLine (table : Table) (line : List Char) : Except EntryFault Table :=
  let line := Text.trim line
  if line = [] ∨ line.head? = some '#' then .ok table
  else do
    let (slot, value) ← parseEntry line
    match table.get slot with
    | none => return table.setIfInBounds slot (some value)
    | some _ => throw (.recordedTwice slot)

def parseLines (table : Table) (line : Nat) : List (List Char) → Except KeyStoreError Table
  | [] => .ok table
  | first :: rest =>
    match addLine table first with
    | .ok table => parseLines table (line + 1) rest
    | .error fault => .error (.parse line fault)

def parse (text : String) : Except KeyStoreError Table :=
  parseLines .empty 1 (Text.lines text.toList)

def Table.find? (table : Table) (slot : UInt8) : Option String :=
  table[slot.toNat]?.join

def Table.toList (table : Table) : List (Nat × String) :=
  (Vector.toList table).zipIdx.filterMap fun (text, slot) => text.map fun t => (slot, t)

end SecureElement.KeyStoreText
