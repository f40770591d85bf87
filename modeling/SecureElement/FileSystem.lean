import SecureElement.FileSystem.Path
import SecureElement.Text
/-!
# Files

A small model of a file system: files with contents and permission bits, and directories, each in its place. Only
what a program can see of opening, reading and writing is kept.
-/

namespace SecureElement

/-- Why an operation failed. Systems word these differently, so a message names the kind alone. -/
inductive IoError where
  | notFound
  | isADirectory
  | notADirectory
  /-- The contents are not well-formed text. -/
  | invalidData
  /-- The path holds a zero byte. -/
  | invalidPath
  | nameTooLong
  deriving DecidableEq, Repr

def IoError.message : IoError → String
  | .notFound => "<io:NotFound>"
  | .isADirectory => "<io:IsADirectory>"
  | .notADirectory => "<io:NotADirectory>"
  | .invalidData => "<io:InvalidData>"
  | .invalidPath => "<io:InvalidInput>"
  | .nameTooLong => "<io:InvalidFilename>"

inductive Node where
  | file (content : List UInt8) (mode : Nat)
  | directory (mode : Nat)
  /-- The device that is always empty and forgets what is written to it. -/
  | null
  deriving DecidableEq, Repr

/-- Where a path leads to: to a directory by dots or slashes, or to a name in a directory that exists. -/
inductive Target where
  | directory
  | entry (location : Location) (slashed : Bool)
  deriving DecidableEq, Repr

/-- The known nodes, beside those that are always there. -/
structure FileSystem where
  nodes : List (Location × Node) := []
  deriving DecidableEq, Repr

namespace FileSystem

def maxNameSize : Nat := 255

def maxPathSize : Nat := 4095

def systemDirectories : List String :=
  ["bin", "dev", "etc", "home", "lib", "proc", "root", "sys", "tmp", "usr", "var"]

/-- What is always there: the root, the working directory and those around it, the directories of the system,
and the null device. -/
def fixed? (location : Location) : Option Node :=
  match location with
  | ⟨_, []⟩ => some (.directory 0o755)
  | ⟨.root, [name]⟩ => if systemDirectories.contains name then some (.directory 0o755) else none
  | ⟨.root, ["dev", "null"]⟩ => some .null
  | _ => none

def find? (files : FileSystem) (location : Location) : Option Node :=
  fixed? location <|> (files.nodes.find? (·.1 == location)).map (·.2)

def put (files : FileSystem) (location : Location) (node : Node) : FileSystem :=
  ⟨(location, node) :: files.nodes.filter (·.1 != location)⟩

/-- Puts a node where it is named to be, with the directories on the way to it that are missing. -/
def install (files : FileSystem) (path : String) (node : Node) : FileSystem :=
  let path := Path.ofText path
  let place (count : Nat) : Location := (path.steps.take count).foldl .enter (.start path)
  let files := (List.range path.steps.length).foldl (fun files count =>
    if (files.find? (place count)).isSome then files
    else files.put (place count) (.directory 0o755)) files
  files.put (place path.steps.length) node

/-- Looks a place up in a directory that exists; systems limit the length of its name. -/
def probe (files : FileSystem) (location : Location) : Except IoError (Option Node) :=
  if location.names.getLast?.any (maxNameSize < ·.utf8ByteSize) then .error .nameTooLong
  else .ok (files.find? location)

def step (files : FileSystem) (location : Location) (name : String) : Except IoError Location := do
  if Location.isDots name then return location.enter name
  match ← files.probe (location.child name) with
  | some (.directory _) => return location.child name
  | some _ => throw .notADirectory
  | none => throw .notFound

/-- Walks along a path up to its last step. The first step that does not lead to a directory ends the walk. -/
def resolve (files : FileSystem) (text : String) : Except IoError Target := do
  if text.toList.contains '\x00' then throw .invalidPath
  if text = "" then throw .notFound
  if maxPathSize < text.utf8ByteSize then throw .nameTooLong
  let path := Path.ofText text
  let around ← path.steps.dropLast.foldlM files.step (.start path)
  match path.steps.getLast? with
  | none => return .directory
  | some last =>
    if Location.isDots last then return .directory
    return .entry (around.child last) path.slashed

def lookup (files : FileSystem) (path : String) : Except IoError Node := do
  match ← files.resolve path with
  | .directory => return .directory 0o755
  | .entry location slashed =>
    match ← files.probe location with
    | none => throw .notFound
    | some (.directory mode) => return .directory mode
    | some node => if slashed then throw .notADirectory else return node

def read (files : FileSystem) (path : String) : Except IoError (List UInt8) := do
  match ← files.lookup path with
  | .file content _ => return content
  | .directory _ => throw .isADirectory
  | .null => return []

def readText (files : FileSystem) (path : String) : Except IoError String := do
  match Text.ofUtf8? (← files.read path) with
  | some text => return text
  | none => throw .invalidData

/-- Opens a file for writing and empties it. Only a file that did not exist takes the given mode. -/
def create (files : FileSystem) (path : String) (mode : Nat) : Except IoError FileSystem := do
  match ← files.resolve path with
  | .directory => throw .isADirectory
  | .entry location slashed =>
    if slashed then throw .isADirectory
    match ← files.probe location with
    | some (.directory _) => throw .isADirectory
    | some (.file _ kept) => return files.put location (.file [] kept)
    | some .null => return files
    | none => return files.put location (.file [] mode)

/-- Writes at the start of a file that is open for writing, over what it holds by then. -/
def overwrite (files : FileSystem) (path : String) (bytes : List UInt8) : FileSystem :=
  match files.resolve path with
  | .ok (.entry location _) =>
    match files.find? location with
    | some (.file content mode) =>
      files.put location (.file (bytes ++ content.drop bytes.length) mode)
    | _ => files
  | _ => files

def write (files : FileSystem) (path : String) (mode : Nat) (bytes : List UInt8) :
    Except IoError FileSystem := do
  let files ← files.create path mode
  return files.overwrite path bytes

end FileSystem

end SecureElement
