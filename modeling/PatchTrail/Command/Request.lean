import PatchTrail.Command.Option
import PatchTrail.Text.Numeral
import PatchTrail.Width

/-!
# What the command line asks for

There are two commands. One applies the patches of manifests to a directory, the other lists them.
-/

namespace PatchTrail.Command

/-- Asks to apply the patches of manifests to a directory. -/
structure Application where
  directory : Text
  manifests : List Text
  /-- Where to write the diff besides printing it. -/
  diffPath? : Option Text
  /-- Whether the diff is not printed. -/
  isQuiet : Bool
  skip : List Text
  contextLines : Nat
deriving DecidableEq, Repr

/-- Asks to list the patches of manifests. -/
structure Listing where
  manifests : List Text
  asJson : Bool
deriving DecidableEq, Repr

/-- What the command line asks for. -/
inductive Request where
  | apply (a : Application)
  | list (l : Listing)
deriving DecidableEq, Repr

/-- The option that asks for more to be logged. It may stand in front of the command, too. -/
def Switch.verbose : Switch where
  name := "verbose"
  letter? := some 'v'

/-- The option that names a manifest. -/
def Switch.manifest : Switch where
  name := "manifest"
  letter? := some 'm'
  takesValue := true
  isRepeatable := true

/-- The option that says where to write the diff. -/
def Switch.diff : Switch where
  name := "diff"
  takesValue := true

/-- The option that keeps the diff from being printed. -/
def Switch.quiet : Switch where
  name := "quiet"
  letter? := some 'q'

/-- The option that leaves out a patch. -/
def Switch.skip : Switch where
  name := "skip"
  takesValue := true
  isRepeatable := true

/-- The option that says how many unchanged lines to show around each change. -/
def Switch.context : Switch where
  name := "context"
  takesValue := true

/-- The option that asks for JSON. -/
def Switch.json : Switch where
  name := "json"

/-- The options of the command that applies patches. -/
def applySwitches : List Switch := [.verbose, .manifest, .diff, .quiet, .skip, .context]

/-- The options of the command that lists patches. -/
def listSwitches : List Switch := [.verbose, .manifest, .json]

/-- A path, which must not be empty. -/
def asPath (name value : Text) : Except UsageError Text :=
  if value = [] then .error (.badValue name value) else .ok value

/-- A number below `2^64`, perhaps with a plus sign in front. -/
def asNumber (name value : Text) : Except UsageError Nat :=
  let digits := match value with
    | '+' :: digits => digits
    | digits => digits
  match (Text.toNat? 10 digits).filter (· < Width.bound64) with
  | some n => .ok n
  | none => .error (.badValue name value)

/-- The items that arguments stand for. -/
def itemsOf (known : List Switch) (args : List Text) : Except UsageError (List Item) := do
  let items ← readItems known none args
  checkRepeated known items
  return items

/-- The paths given for an option. -/
def pathsOf (s : Switch) (items : List Item) : Except UsageError (List Text) :=
  (valuesOf s.name items).mapM (asPath s.name)

/-- The manifests that are named, at least one. -/
def manifestsOf (items : List Item) : Except UsageError (List Text) := do
  match ← pathsOf .manifest items with
  | [] => throw (.missingOption Switch.manifest.name)
  | paths => return paths

/-- Whether an option is given. -/
def isGiven (s : Switch) (items : List Item) : Bool := !(valuesOf s.name items).isEmpty

/-- The request of the command that applies patches. -/
def Application.read (args : List Text) : Except UsageError Application := do
  let items ← itemsOf applySwitches args
  let directory ← match operandsOf items with
    | [] => throw (.missingOperand "the directory")
    | [d] => asPath "the directory" d
    | _ :: other :: _ => throw (.unexpectedOperand other)
  let contextLines ← match (valuesOf Switch.context.name items).getLast? with
    | none => pure 3
    | some value => asNumber Switch.context.name value
  return {
    directory
    manifests := ← manifestsOf items
    diffPath? := (← pathsOf .diff items).getLast?
    isQuiet := isGiven .quiet items
    skip := valuesOf Switch.skip.name items
    contextLines }

/-- The request of the command that lists patches. -/
def Listing.read (args : List Text) : Except UsageError Listing := do
  let items ← itemsOf listSwitches args
  match operandsOf items with
  | [] => return { manifests := ← manifestsOf items, asJson := isGiven .json items }
  | other :: _ => throw (.unexpectedOperand other)

/-- Whether an argument stands in front of the command. -/
def isLeading : Text → Bool
  | '-' :: _ :: _ => true
  | _ => false

/-- What arguments ask for. -/
def Request.read (args : List Text) : Except UsageError Request := do
  let leading := args.takeWhile isLeading
  if ['-', '-'] ∈ leading then throw .missingCommand
  discard (itemsOf [.verbose] leading)
  match args.dropWhile isLeading with
  | [] => throw .missingCommand
  | command :: rest =>
    if command = "apply".toList then return .apply (← Application.read rest)
    else if command = "list".toList then return .list (← Listing.read rest)
    else throw (.unknownCommand command)

end PatchTrail.Command
