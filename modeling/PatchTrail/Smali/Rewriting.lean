import PatchTrail.Smali.Method
import PatchTrail.Text.Encoding

/-!
# Other texts in the places of bodies

A unit can be cut at the bodies of the methods with one signature. What is not in any of them are
the gaps: one in front of the first body and one behind each. Other texts are put in the places of
the bodies in two ways: all at once, between the gaps (`Cut.fill`), and one after the other by the
positions of the bodies, the last first, so that those not yet used stay right (`replaceBodies?`).

All bodies of a unit can be rewritten where they stand (`rewrite`). What comes of it is made of the
same methods if every new body is one again: lines with their line ends, on none of which a method
begins or ends (`Whole`). A text without a line end at its end runs into the line on which the
method ends, which survives only behind blanks (`Text.sparesNext`).
-/

/-! ## Cuts -/

namespace PatchTrail.Smali

/-- A body and the gap behind it. -/
structure Part where
  body : Text
  gap : Text
deriving DecidableEq, Repr

/-- A unit cut at bodies. -/
structure Cut where
  front : Text
  parts : List Part
deriving DecidableEq, Repr

namespace Cut

/-- The unit that has been cut. -/
def text (c : Cut) : Text := c.front ++ c.parts.flatMap fun p => p.body ++ p.gap

/-- The unit with other texts in the places of the bodies. -/
def fill (c : Cut) (texts : List Text) : Text :=
  c.front ++ (List.zipWith (fun t p => t ++ p.gap) texts c.parts).flatten

/-- The bodies of parts that begin behind so many bytes. -/
def bodiesFrom (signature : Text) : (offset : Nat) → List Part → List Body
  | _, [] => []
  | offset, p :: rest =>
    ⟨signature, offset, offset + p.body.size, p.body⟩ ::
      bodiesFrom signature (offset + p.body.size + p.gap.size) rest

/-- The bodies and where they lie in the unit. -/
def bodies (signature : Text) (c : Cut) : List Body := bodiesFrom signature c.front.size c.parts

/-- Puts a text in front of a cut. -/
def prepend (t : Text) (c : Cut) : Cut := { c with front := t ++ c.front }

/-- Cuts segments at the bodies of the methods with a signature. -/
def ofSegments (signature : Text) : List Segment → Cut
  | [] => ⟨[], []⟩
  | .between t :: rest => (ofSegments signature rest).prepend t
  | .body s t :: rest =>
    let c := ofSegments signature rest
    if s = signature then ⟨[], ⟨t, c.front⟩ :: c.parts⟩ else c.prepend t

/-- Cuts a unit at the bodies of the methods with a signature. -/
def ofUnit (signature unit_ : Text) : Cut := ofSegments signature (segments unit_)

end Cut

/-- Replaces bodies in a unit by other texts, the last body first. -/
def replaceBodies? (unit_ : Text) : List Body → List Text → Option Text
  | b :: bodies, t :: texts => do
    (← replaceBodies? unit_ bodies texts).replaceRange? b.start b.stop t
  | _, _ => some unit_

end PatchTrail.Smali

/-! ## Rewriting -/

namespace PatchTrail

namespace Text

/-- What stands behind the last line feed of a text. -/
def lastPiece (t : Text) : Text := (t.reverse.takeWhile (· ≠ '\n')).reverse

/-- Whether a text leaves the fields of the line alone that is put behind it. -/
def sparesNext (t : Text) : Bool := t.lastPiece.isBlank

end Text

namespace Smali

/-- Whether a method begins or ends on none of the lines of a text. -/
def isPlain (t : Text) : Bool := t.lines.all fun line => !isBoundary line

/-- A text that can be the body of a method: it has lines, each with its line end, and no method
begins or ends on any of them. -/
structure Whole (t : Text) : Prop where
  feed : t.getLast? = some '\n'
  plain : isPlain t = true

instance (t : Text) : Decidable (Whole t) :=
  decidable_of_iff (t.getLast? = some '\n' ∧ isPlain t = true)
    ⟨fun h => ⟨h.1, h.2⟩, fun h => ⟨h.feed, h.plain⟩⟩

/-- What the lines of a unit on which methods begin and end say, in their order. -/
def markers (unit_ : Text) : List LineKind := (unit_.lines.map kindOf).filter (· ≠ .content)

/-- Some markers of which so many ends are lost, and nothing else. -/
structure EndsLost (lost : Nat) (olds news : List LineKind) : Prop where
  sublist : news.Sublist olds
  starts : news.filter (· ≠ .methodEnd) = olds.filter (· ≠ .methodEnd)
  ends : news.count .methodEnd + lost = olds.count .methodEnd

/-- A segment in which the body is rewritten, given the signature of its method. -/
def Segment.mapBody (f : (signature body : Text) → Text) : Segment → Segment
  | .between t => .between t
  | .body s t => .body s (f s t)

/-- The text of segments in which every body is rewritten. -/
def rewritten (f : (signature body : Text) → Text) (pieces : List Segment) : Text :=
  (pieces.map (Segment.mapBody f)).flatMap Segment.text

/-- A unit in which every body is rewritten, given the signature of its method. -/
def rewrite (f : (signature body : Text) → Text) (unit_ : Text) : Text :=
  rewritten f (segments unit_)

/-- Rewrites the bodies of the methods with one signature and leaves all others alone. -/
def only (signature : Text) (f : Text → Text) (s t : Text) : Text :=
  if s = signature then f t else t

/-- By how many bytes the first `k` of some bodies are longer than those they come from. -/
def growth (olds news : List Body) (k : Nat) : Int :=
  (Text.size ((news.take k).flatMap Body.text) : Int) -
    Text.size ((olds.take k).flatMap Body.text)

end Smali

end PatchTrail
