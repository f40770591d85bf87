/-!
# TOML values

A table remembers how it came about, because that decides which later lines may add to it.
-/

namespace SecureElement.Toml

/-- How a table came about. -/
inductive Origin where
  /-- By a header of its own. -/
  | header
  /-- On the way to a table with a header. -/
  | implied
  /-- On the way to the last part of a dotted key. -/
  | dotted
  /-- Between braces. -/
  | braces
  deriving DecidableEq, Repr

inductive Value where
  | string (text : String)
  | integer (value : Int)
  | float (text : String)
  | boolean (value : Bool)
  | dateTime (text : String)
  | array (elements : List Value)
  | table (origin : Origin) (entries : List (String × Value))
  /-- The tables that one double-bracketed header has opened. -/
  | tables (elements : List (List (String × Value)))

/-- The entries of a table in the order in which they were made. -/
abbrev Entries := List (String × Value)

namespace Entries

def get? (entries : Entries) (key : String) : Option Value :=
  (List.find? (·.1 == key) entries).map (·.2)

def update (entries : Entries) (key : String) (value : Value) : Entries :=
  List.map (fun entry => if entry.1 == key then (key, value) else entry) entries

/-- Changes the table at the end of `path`; tables that are missing on the way are made. A dotted key passes
only through tables that no header has opened, and nothing passes into braces. -/
def alter (dotted : Bool) (change : Origin → Entries → Option Entries) :
    (path : List String) → Origin → Entries → Option Entries
  | [], origin, entries => change origin entries
  | key :: path, _, entries =>
    match entries.get? key with
    | none => do
      let origin := if dotted then Origin.dotted else Origin.implied
      let child ← alter dotted change path origin []
      return entries ++ [(key, .table origin child)]
    | some (.table origin child) => do
      guard (origin ≠ .braces ∧ ¬ (dotted ∧ origin = .header))
      let child ← alter dotted change path origin child
      return entries.update key (.table origin child)
    | some (.tables elements) => do
      let last ← elements.getLast?
      let last ← alter dotted change path .header last
      return entries.update key (.tables (elements.dropLast ++ [last]))
    | some _ => none

/-- Sets a dotted key that is not set yet. Only its own kind of table takes a dotted key's last part. -/
def assign (path : List String) (key : String) (value : Value) (origin : Origin) (entries : Entries) :
    Option Entries :=
  alter true
    (fun origin entries => do
      guard (decide (origin = .dotted) ≠ path.isEmpty)
      guard (entries.get? key).isNone
      return entries ++ [(key, value)])
    path origin entries

def openTable (path : List String) (key : String) (entries : Entries) : Option Entries :=
  alter false
    (fun _ entries =>
      match entries.get? key with
      | none => some (entries ++ [(key, .table .header [])])
      | some (.table .implied child) => some (entries.update key (.table .header child))
      | some _ => none)
    path .header entries

def openElement (path : List String) (key : String) (entries : Entries) : Option Entries :=
  alter false
    (fun _ entries =>
      match entries.get? key with
      | none => some (entries ++ [(key, .tables [[]])])
      | some (.tables elements) => some (entries.update key (.tables (elements ++ [[]])))
      | some _ => none)
    path .header entries

end Entries

end SecureElement.Toml
