import PatchTrail.Smali.Line

/-!
# Method bodies

A unit is cut into segments: the bodies of its methods, and the stretches between them. Put
together, the segments are the unit (`flatten_segments`). A body reaches from behind the line on
which its method begins to the line on which it ends, and has at least one line. A method that is
followed by another before it ends has no body.

So a method body is determined by two lines: the one on which the method begins, and the next line
on which a method begins or ends, which has to be an end (`Encloses`). Between them there is at
least one line.
-/

namespace PatchTrail.Smali

/-- A stretch of a unit. -/
inductive Segment where
  /-- A line or lines outside of any body. -/
  | between (text : Text)
  /-- The body of a method with a signature. -/
  | body (signature : Text) (text : Text)
deriving DecidableEq, Repr

/-- The text of a segment. -/
def Segment.text : Segment → Text
  | between t => t
  | body _ t => t

/-- Lines that turn out not to be a body. -/
def betweenAll (lines : List Text) : List Segment := lines.map .between

/-- Cuts lines into segments. `opened` is the signature of the method that has begun last, if it
has not ended yet, and the lines read since, the last first. -/
def segmentsFrom : (opened : Option (Text × List Text)) → List Text → List Segment
  | none, [] => []
  | some (_, lines), [] => betweenAll lines.reverse
  | opened, line :: rest =>
    match kindOf line, opened with
    | .content, none => .between line :: segmentsFrom none rest
    | .content, some (signature, lines) => segmentsFrom (some (signature, line :: lines)) rest
    | .methodStart signature, none => .between line :: segmentsFrom (some (signature, [])) rest
    | .methodStart signature, some (_, lines) =>
      betweenAll lines.reverse ++ .between line :: segmentsFrom (some (signature, [])) rest
    | .methodEnd, none => .between line :: segmentsFrom none rest
    | .methodEnd, some (_, []) => .between line :: segmentsFrom none rest
    | .methodEnd, some (signature, first :: lines) =>
      .body signature (first :: lines).reverse.flatten :: .between line :: segmentsFrom none rest

/-- The segments of a unit. -/
def segments (unit_ : Text) : List Segment := segmentsFrom none unit_.lines

@[simp] theorem flatMap_text_betweenAll (lines : List Text) :
    (betweenAll lines).flatMap Segment.text = lines.flatten := by
  induction lines with
  | nil => rfl
  | cons line rest ih => simpa [betweenAll, Segment.text] using ih

theorem flatMap_text_segmentsFrom (opened : Option (Text × List Text)) (lines : List Text) :
    (segmentsFrom opened lines).flatMap Segment.text
      = (opened.elim [] fun o => o.2.reverse.flatten) ++ lines.flatten := by
  induction lines generalizing opened with
  | nil => cases opened <;> simp [segmentsFrom]
  | cons line rest ih =>
    rw [segmentsFrom.eq_def]
    split <;> simp_all
    split <;> simp_all [Segment.text]

/-- Nothing is lost by cutting a unit into segments. -/
theorem flatten_segments (unit_ : Text) : (segments unit_).flatMap Segment.text = unit_ := by
  simp [segments, flatMap_text_segmentsFrom, Text.flatten_lines]

/-! ## Positions -/

/-- A method body and where it begins and ends, counted in bytes. -/
structure Body where
  signature : Text
  start : Nat
  stop : Nat
  text : Text
deriving DecidableEq, Repr

/-- The bodies with a signature among some segments, the first of which begins at `offset`. -/
def bodiesFrom (signature : Text) : (offset : Nat) → List Segment → List Body
  | _, [] => []
  | offset, .between t :: rest => bodiesFrom signature (offset + t.size) rest
  | offset, .body s t :: rest =>
    let after := bodiesFrom signature (offset + t.size) rest
    if s = signature then ⟨s, offset, offset + t.size, t⟩ :: after else after

/-- The bodies of the methods with a signature, in the order of the unit. -/
def bodies (unit_ signature : Text) : List Body := bodiesFrom signature 0 (segments unit_)

/-! ## Where method bodies lie -/

/-- Whether a method begins or ends on a line. -/
def isBoundary (line : Text) : Bool := kindOf line != .content

/-- The lines `first` and `last` of a unit enclose the body of a method with a signature. -/
structure Encloses (lines : List Text) (signature : Text) (first last : Nat) : Prop where
  begins : (lines[first]?).map kindOf = some (.methodStart signature)
  ends : (lines[last]?).map kindOf = some .methodEnd
  holds : first + 1 < last
  inside : ∀ k line, first < k → k < last → lines[k]? = some line → isBoundary line = false

/-- The body between two lines of a unit. -/
def bodyBetween (lines : List Text) (signature : Text) (first last : Nat) : Body :=
  let start := Text.size (lines.take (first + 1)).flatten
  let text := ((lines.take last).drop (first + 1)).flatten
  ⟨signature, start, start + Text.size text, text⟩

end PatchTrail.Smali
