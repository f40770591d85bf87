/-!
# Paths and places

A path is a row of steps, to be walked one after the other. A place is where steps have led: it is given by
names alone, without dots.
-/

namespace SecureElement

structure Path where
  /-- Whether the walk starts at the root, not in the working directory. -/
  absolute : Bool := false
  /-- What stands between the slashes, where that is not empty. -/
  steps : List String := []
  /-- Whether a slash ends the path, so that it can only name a directory. -/
  slashed : Bool := false
  deriving DecidableEq, Repr

namespace Path

def endsInSlash (path : String) : Bool :=
  path.toList.getLast? == some '/'

def ofText (path : String) : Path where
  absolute := path.toList.head? == some '/'
  steps := ((path.toList.splitOnP (· == '/')).filter (· ≠ [])).map String.ofList
  slashed := endsInSlash path

/-- `name` inside the directory `path`. -/
def join (path name : String) : String :=
  if endsInSlash path then path ++ name else s!"{path}/{name}"

end Path

/-- The directory from which a place is named. -/
inductive Base where
  | root
  /-- So many levels above the working directory. -/
  | above (levels : Nat)
  deriving DecidableEq, Repr

structure Location where
  base : Base := .above 0
  names : List String := []
  deriving DecidableEq, Repr

namespace Location

def start (path : Path) : Location :=
  { base := if path.absolute then .root else .above 0 }

def child (location : Location) (name : String) : Location :=
  { location with names := location.names ++ [name] }

/-- The directory around a place; around the root there is only the root. -/
def parent (location : Location) : Location :=
  if location.names = [] then
    match location.base with
    | .root => location
    | .above levels => { base := .above (levels + 1) }
  else { location with names := location.names.dropLast }

/-- Whether a step leads to a directory by dots, not by a name. -/
def isDots (step : String) : Bool :=
  step == "." || step == ".."

/-- Where a step leads, should what it names exist. -/
def enter (location : Location) (step : String) : Location :=
  if step = "." then location
  else if step = ".." then location.parent
  else location.child step

def toText (location : Location) : String :=
  let names := "/".intercalate location.names
  match location.base with
  | .root => "/" ++ names
  | .above levels => String.join (List.replicate levels "../") ++ names

def below? (location : Location) : Option String :=
  if location.base = .above 0 then some location.toText else none

@[simp] theorem names_child (location : Location) (name : String) :
    (location.child name).names = location.names ++ [name] := rfl

@[simp] theorem parent_child (location : Location) (name : String) :
    (location.child name).parent = location := by
  simp [child, parent]

end Location

end SecureElement
