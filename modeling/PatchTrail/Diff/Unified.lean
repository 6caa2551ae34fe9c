import PatchTrail.Diff.Hunk
import PatchTrail.Text.Encoding

/-!
# Unified diffs

The record of a change to one file is a section: two header lines naming the old and the new side,
and then either hunks or the remark that the file is binary. A side that does not exist is called
`/dev/null`. Headers are written even when nothing changed, so that every file that was touched
shows up. A line without a line end is followed by a remark on a line of its own.
-/

namespace PatchTrail.Diff

/-- The lines of a text as far as differences are concerned: a line ends after a line feed, after
a carriage return, or after the two together. -/
def linesOf : Text → List Text
  | [] => []
  | '\r' :: '\n' :: rest => ['\r', '\n'] :: linesOf rest
  | c :: rest =>
    if c = '\n' ∨ c = '\r' then [c] :: linesOf rest
    else
      match linesOf rest with
      | [] => [[c]]
      | line :: more => (c :: line) :: more

/-- Whether a line has a line end of its own. -/
def isTerminated (line : Text) : Bool :=
  match line.getLast? with
  | some c => c = '\n' || c = '\r'
  | none => false

/-- The remark after a line without a line end. -/
def unterminatedRemark : Text := "\n\\ No newline at end of file\n"

/-- A marked line as it is written. -/
def renderLine : Mark × Text → Text
  | (mark, line) =>
    mark.char :: line ++ if isTerminated line then [] else unterminatedRemark

/-- A range of lines as it is written: its first line and its length, where a length of one goes
without saying and an empty range names the line before it. -/
def renderRange (start count : Nat) : Text :=
  if count = 1 then Text.ofNat (start + 1)
  else if count = 0 then Text.ofNat start ++ ",0"
  else Text.ofNat (start + 1) ++ "," ++ Text.ofNat count

/-- The header line of a hunk. -/
def Hunk.header (h : Hunk) : Text :=
  "@@ -" ++ renderRange h.oldStart h.oldCount ++ " +" ++ renderRange h.newStart h.newCount
    ++ " @@\n"

/-- A hunk as it is written. A hunk without lines leaves nothing. -/
def Hunk.render (h : Hunk) : Text :=
  if h.lines = [] then [] else h.header ++ h.lines.flatMap renderLine

/-- The name of a side that does not exist. -/
def nullSide : Text := "/dev/null"

/-- The name of the old side of a file. -/
def oldSideName (path : Text) : Text := "a/" ++ path

/-- The name of the new side of a file. -/
def newSideName (path : Text) : Text := "b/" ++ path

/-- The two header lines of a section. -/
def renderHeader (oldName newName : Text) : Text :=
  "--- " ++ oldName ++ "\n+++ " ++ newName ++ "\n"

/-- The remark in the section of a file that is not shown. -/
def binaryRemark : Text := "Binary file\n"

/-- Writes sections with a fixed number of lines around each change. -/
structure Renderer where
  /-- How many unchanged lines are shown around each change. -/
  contextLines : Nat := 3
deriving DecidableEq, Repr

namespace Renderer

/-- A section with the differences between two texts. -/
def section_ (r : Renderer) (oldName newName old new : Text) : Text :=
  renderHeader oldName newName
    ++ (hunks r.contextLines (linesOf old) (linesOf new)).flatMap Hunk.render

/-- The section of a file changed in place. -/
def modified (r : Renderer) (path old new : Text) : Text :=
  r.section_ (oldSideName path) (newSideName path) old new

/-- The section of a file newly written. Content that is no text is not shown. -/
def created (r : Renderer) (path : Text) (content : ByteArray) : Text :=
  match Text.decode? content with
  | some new => r.section_ nullSide (newSideName path) [] new
  | none => renderHeader nullSide (newSideName path) ++ binaryRemark

/-- The section of a file removed, which is never shown. -/
def deleted (_ : Renderer) (path : Text) : Text :=
  renderHeader (oldSideName path) nullSide ++ binaryRemark

end Renderer

end PatchTrail.Diff
