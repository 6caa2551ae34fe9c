import PatchTrail.Disk.Basic
import PatchTrail.Patcher.Error
import PatchTrail.Resource.Allocation

/-!
# Why an instruction fails

A failure inside a sequence is wrapped in the position of the instruction that failed, so the
positions from the outside in lead to the instruction that is to blame. The root of a failure is
what is left without them.
-/

namespace PatchTrail.Instruction

/-- What was being done to a file or directory. -/
inductive Operation where
  | read
  | write
  | makeDirectory
  | remove
deriving DecidableEq, Repr

/-- The name of an operation. -/
def Operation.name : Operation → Text
  | read => "read"
  | write => "write"
  | makeDirectory => "mkdir"
  | remove => "remove"

/-- Why an instruction fails. -/
inductive Error where
  /-- An operation on a file failed. -/
  | disk (operation : Operation) (path : Text) (fault : Disk.Fault)
  /-- A patcher of a file failed, the one at this position. -/
  | patcher (path : Text) (index : Nat) (cause : Patcher.Error)
  /-- A file that has to be a text is none. -/
  | notText (path : Text)
  /-- The trail had no room for a section. -/
  | trailFull
  /-- No id could be allocated. -/
  | resource (cause : Resource.Error)
  /-- An instruction of a sequence failed, the one at this position. -/
  | sequence (index : Nat) (cause : Error)
deriving DecidableEq, Repr

namespace Error

/-- The failure without the positions in sequences. -/
def root : Error → Error
  | sequence _ cause => cause.root
  | e => e

/-- What a full trail says. -/
def fullReason : Text := "sink full"

/-- Why an instruction fails, in words. -/
def message : Error → Text
  | disk operation path fault => operation.name ++ " " ++ path.quoted ++ ": " ++ fault.message
  | patcher path index cause =>
    "patch " ++ path.quoted ++ ": patcher " ++ Text.ofNat index ++ ": " ++ cause.message
  | notText path => path.quoted ++ " is not a UTF-8 text file"
  | trailFull => "write diff: " ++ fullReason
  | resource cause => cause.message
  | sequence index cause => "inst " ++ Text.ofNat index ++ ": " ++ cause.message

/-- A failure shown part by part. -/
def describe : Error → Text
  | disk operation path fault =>
    Text.describeFields "Io"
      [("op", operation.name.quoted), ("path", path.quoted), ("source", fault.describe)]
  | patcher path index cause =>
    Text.describeFields "Patcher"
      [("path", path.quoted), ("index", Text.ofNat index), ("source", cause.describe)]
  | notText path => Text.describeParts "NotText" [path.quoted]
  | trailFull =>
    Text.describeParts "DiffSink"
      [Text.describeFields "Custom" [("kind", "Other"), ("error", fullReason.quoted)]]
  | resource cause =>
    match cause with
    | .noneOfKind kind => Text.describeParts "ResourceTypeSeedMissing" [kind.quoted]
    | e => Text.describeParts "ResourceTable" [e.reason.quoted]
  | sequence index cause =>
    Text.describeFields "Sequence" [("index", Text.ofNat index), ("source", cause.describe)]

end Error

end PatchTrail.Instruction
