import PatchTrail.Text.Basic
import PatchTrail.Text.Encoding
import PatchTrail.Text.Quoted

/-!
# Paths and disks

A path is a text of names with slashes between them. Empty names and single dots say nothing; two
dots lead to the directory around. A path that begins with a slash begins at the root, any other at
the current directory.

A disk holds files and directories by the names that lead to them from the root. Operations take
paths and fail as the operating system does: a path is followed name by name, and each name but the
last has to be that of a directory.
-/

/-! ## Paths -/

namespace PatchTrail.Path

/-- The names of a path. -/
def names (path : Text) : List Text := (path.split '/').filter fun name => name ≠ [] ∧ name ≠ ['.']

/-- Whether a path begins at the root. -/
def isAbsolute (path : Text) : Bool := path.head? == some '/'

/-- Whether a path can only mean a directory, because a slash or a dot behind a slash ends it. -/
def endsAsDirectory (path : Text) : Bool :=
  match path.reverse with
  | '/' :: _ => true
  | '.' :: '/' :: _ => true
  | ['.'] => true
  | _ => false

/-- Whether the last name of a path is a single dot, which means the directory before it. -/
def endsInDot (path : Text) : Bool :=
  ((path.split '/').filter (!·.isEmpty)).getLast? == some ['.']

/-- A path as seen from another. -/
def join (base path : Text) : Text :=
  if isAbsolute path ∨ base = [] then path
  else if base.getLast? = some '/' then base ++ path
  else base ++ '/' :: path

/-- A path, backwards, without what says nothing at its end. -/
def trimEnd : Text → Text
  | ['/'] => ['/']
  | '/' :: rest => trimEnd rest
  | ['.', '/'] => ['/']
  | '.' :: '/' :: rest => trimEnd rest
  | path => path

/-- The path of the directory around, or `none` for the root and the empty path. -/
def parent? (path : Text) : Option Text :=
  match trimEnd path.reverse with
  | [] => none
  | ['/'] => none
  | backwards => some (trimEnd (backwards.dropWhile (· != '/'))).reverse

/-- The place of a path below a directory: its names are taken one after the other, whether or not
it begins with a slash. -/
def below (directory path : Text) : Text := (names path).foldl join directory

end PatchTrail.Path

/-! ## Disks -/

namespace PatchTrail

/-- What a place of a disk holds. -/
inductive Disk.Entry where
  | file (content : ByteArray)
  | directory

/-- Whether a place holds a directory. -/
def Disk.Entry.isDirectory : Disk.Entry → Bool
  | directory => true
  | file _ => false

/-- Files and directories, and the current directory. The root is always there. -/
structure Disk where
  here : List Text
  entries : List (List Text × Disk.Entry)

namespace Disk

/-- Why an operation on a disk fails. -/
inductive Fault where
  | missing
  | exists
  | notDirectory
  | isDirectory
  | nameTooLong
  | nulInPath
  | notText
deriving DecidableEq, Repr

namespace Fault

/-- The number and kind of a failure that the operating system reports. -/
def code? : Fault → Option (Nat × Text)
  | missing => some (2, "NotFound")
  | .exists => some (17, "AlreadyExists")
  | notDirectory => some (20, "NotADirectory")
  | isDirectory => some (21, "IsADirectory")
  | nameTooLong => some (36, "InvalidFilename")
  | nulInPath => none
  | notText => none

/-- What has happened. -/
def reason : Fault → Text
  | missing => "No such file or directory"
  | .exists => "File exists"
  | notDirectory => "Not a directory"
  | isDirectory => "Is a directory"
  | nameTooLong => "File name too long"
  | nulInPath => "file name contained an unexpected NUL byte"
  | notText => "stream did not contain valid UTF-8"

/-- Why an operation fails, in words. -/
def message (f : Fault) : Text :=
  match f.code? with
  | some (code, _) => f.reason ++ " (os error " ++ Text.ofNat code ++ ")"
  | none => f.reason

/-- A failure shown part by part. -/
def describe (f : Fault) : Text :=
  let message := ("message".toList, f.reason.quoted)
  match f.code? with
  | some (code, kind) =>
    Text.describeFields "Os" [("code", Text.ofNat code), ("kind", kind), message]
  | none =>
    let kind : Text := if f = notText then "InvalidData" else "InvalidInput"
    Text.describeFields "Error" [("kind", kind), message]

end Fault

/-! ## Places -/

/-- What is at a place. -/
def entry? (d : Disk) (place : List Text) : Option Entry :=
  if place = [] then some .directory else d.entries.lookup place

/-- A disk with something else at a place. -/
def put (d : Disk) (place : List Text) (e : Entry) : Disk :=
  { d with entries := (place, e) :: d.entries.filter fun entry => entry.1 ≠ place }

/-- A disk with nothing at a place. -/
def erase (d : Disk) (place : List Text) : Disk :=
  { d with entries := d.entries.filter fun entry => entry.1 ≠ place }

/-- How many bytes a name may have. -/
def maxName : Nat := 255

/-- How many bytes a path may have. -/
def maxPath : Nat := 4095

/-- The place to which names lead from another. -/
def walk (d : Disk) : List Text → List Text → Except Fault (List Text)
  | place, [] => .ok place
  | place, name :: rest =>
    match d.entry? place with
    | none => .error .missing
    | some (.file _) => .error .notDirectory
    | some .directory =>
      if name = ['.', '.'] then d.walk place.dropLast rest
      else if maxName < name.size then .error .nameTooLong
      else d.walk (place ++ [name]) rest

/-- The place that a path means. All but its last name have to be there, and what stands before a
single dot has to be a directory. -/
def locate (d : Disk) (path : Text) : Except Fault (List Text) :=
  if path.contains ['\u0000'] then .error .nulInPath
  else if path = [] then .error .missing
  else if maxPath < path.size then .error .nameTooLong
  else do
    let place ← d.walk (if Path.isAbsolute path then [] else d.here) (Path.names path)
    match d.entry? place with
    | some (.file _) => if Path.endsAsDirectory path then throw .notDirectory else return place
    | none => if Path.endsInDot path then throw .missing else return place
    | some .directory => return place

/-- Whether a path means a directory. -/
def isDirectory (d : Disk) (path : Text) : Bool :=
  match d.locate path with
  | .ok place => (d.entry? place).any Entry.isDirectory
  | .error _ => false

/-! ## Operations -/

/-- The content of a file. -/
def read (d : Disk) (path : Text) : Except Fault ByteArray := do
  match d.entry? (← d.locate path) with
  | none => throw .missing
  | some .directory => throw .isDirectory
  | some (.file content) => return content

/-- The content of a file that has to be a text. -/
def readText (d : Disk) (path : Text) : Except Fault Text := do
  match Text.decode? (← d.read path) with
  | some t => return t
  | none => throw .notText

/-- Writes a file, whether or not it was there. -/
def write (d : Disk) (path : Text) (content : ByteArray) : Except Fault Disk := do
  let place ← d.locate path
  match d.entry? place with
  | some .directory => throw .isDirectory
  | some (.file _) => return d.put place (.file content)
  | none =>
    if Path.endsAsDirectory path then throw .isDirectory else return d.put place (.file content)

/-- Removes a file. -/
def remove (d : Disk) (path : Text) : Except Fault Disk := do
  let place ← d.locate path
  match d.entry? place with
  | none => throw .missing
  | some .directory => throw .isDirectory
  | some (.file _) => return d.erase place

/-- Makes a directory where nothing is. -/
def makeDirectory (d : Disk) (path : Text) : Except Fault Disk := do
  let place ← d.locate path
  match d.entry? place with
  | none => return d.put place .directory
  | some _ => throw .exists

/-- Makes a directory and those around it, at most `bound` of them, as far as they are missing.
Directories made before a failure stay. -/
def makeDirectoriesUpTo : (bound : Nat) → Disk → (path : Text) → Disk × Option Fault
  | 0, d, _ => (d, some .missing)
  | bound + 1, d, path =>
    if path = [] then (d, none)
    else
      match d.makeDirectory path with
      | .ok d => (d, none)
      | .error fault =>
        if fault = .missing then
          match Path.parent? path with
          | none => (d, some fault)
          | some parent =>
            match makeDirectoriesUpTo bound d parent with
            | (d, some fault) => (d, some fault)
            | (d, none) =>
              match d.makeDirectory path with
              | .ok d => (d, none)
              | .error fault => if d.isDirectory path then (d, none) else (d, some fault)
        else if d.isDirectory path then (d, none)
        else (d, some fault)

/-- Makes a directory and those around it as far as they are missing. -/
def makeDirectories (d : Disk) (path : Text) : Disk × Option Fault :=
  makeDirectoriesUpTo (path.length + 1) d path

end Disk

end PatchTrail
