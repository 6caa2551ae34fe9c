import PatchTrail.Text.Blank
import PatchTrail.Text.Numeral

/-!
# What is wrong with a pattern

A fault names a stretch of the pattern, and sometimes an earlier stretch that it clashes with.
`Fault.message` shows the pattern with the stretches underlined. A pattern of several lines is
shown between two rules with its lines numbered.
-/

namespace PatchTrail.Pattern

/-- A stretch of a pattern: the numbers of the characters before it and up to its end. -/
structure Span where
  start : Nat
  stop : Nat
deriving DecidableEq, Repr

/-- Why a pattern is refused. -/
inductive Reason where
  | badClassEscape
  | badClassRange
  | badRangeEnd
  | unclosedClass
  | decimalMissing
  | decimalTooLarge
  | hexMissing
  | hexNoCharacter
  | badHexDigit
  | unfinishedEscape
  | unknownEscape
  | danglingNegation
  | duplicateFlag
  | repeatedNegation
  | unfinishedFlags
  | unknownFlag
  | duplicateName
  | emptyName
  | badName
  | unfinishedName
  | unclosedGroup
  | unopenedGroup
  | nestedTooDeep
  | badCount
  | countMissing
  | unclosedCount
  | nothingToRepeat
  | unclosedBoundary
  | unknownBoundary
  | unfinishedBoundary
  | badPropertyName
  | backreference
  | lookaround
  | unicodeNotAllowed
  | matchesBrokenText
  | unknownProperty
  | unknownPropertyValue
deriving DecidableEq, Repr

/-- How deep groups and classes may be nested. -/
def maxNesting : Nat := 250

/-- Why a pattern is refused, in words. -/
def Reason.message : Reason → Text
  | badClassEscape => "invalid escape sequence found in character class"
  | badClassRange => "invalid character class range, the start must be <= the end"
  | badRangeEnd => "invalid range boundary, must be a literal"
  | unclosedClass => "unclosed character class"
  | decimalMissing => "decimal literal empty"
  | decimalTooLarge => "decimal literal invalid"
  | hexMissing => "hexadecimal literal empty"
  | hexNoCharacter => "hexadecimal literal is not a Unicode scalar value"
  | badHexDigit => "invalid hexadecimal digit"
  | unfinishedEscape => "incomplete escape sequence, reached end of pattern prematurely"
  | unknownEscape => "unrecognized escape sequence"
  | danglingNegation => "dangling flag negation operator"
  | duplicateFlag => "duplicate flag"
  | repeatedNegation => "flag negation operator repeated"
  | unfinishedFlags => "expected flag but got end of regex"
  | unknownFlag => "unrecognized flag"
  | duplicateName => "duplicate capture group name"
  | emptyName => "empty capture group name"
  | badName => "invalid capture group character"
  | unfinishedName => "unclosed capture group name"
  | unclosedGroup => "unclosed group"
  | unopenedGroup => "unopened group"
  | nestedTooDeep =>
    "exceed the maximum number of nested parentheses/brackets (" ++ Text.ofNat maxNesting ++ ")"
  | badCount => "invalid repetition count range, the start must be <= the end"
  | countMissing => "repetition quantifier expects a valid decimal"
  | unclosedCount => "unclosed counted repetition"
  | nothingToRepeat => "repetition operator missing expression"
  | unclosedBoundary =>
    "special word boundary assertion is either unclosed or contains an invalid character"
  | unknownBoundary =>
    "unrecognized special word boundary assertion, valid choices are: start, end, start-half "
      ++ "or end-half"
  | unfinishedBoundary =>
    "found either the beginning of a special word boundary or a bounded repetition on a \\b "
      ++ "with an opening brace, but no closing brace"
  | badPropertyName => "invalid Unicode character class"
  | backreference => "backreferences are not supported"
  | lookaround => "look-around, including look-ahead and look-behind, is not supported"
  | unicodeNotAllowed => "Unicode not allowed here"
  | matchesBrokenText => "pattern can match invalid UTF-8"
  | unknownProperty => "Unicode property not found"
  | unknownPropertyValue => "Unicode property value not found"

/-- A reason with the stretch it speaks of, and an earlier stretch that it clashes with. -/
structure Fault where
  reason : Reason
  span : Span
  earlier? : Option Span := none
deriving DecidableEq, Repr

/-! ## Showing stretches -/

/-- The line of a character, counted from zero, and the number of characters before it there. -/
def linePosition : Text → (position : Nat) → Nat × Nat
  | [], _ => (0, 0)
  | _, 0 => (0, 0)
  | c :: rest, position + 1 =>
    let (line, column) := linePosition rest position
    if c = '\n' then (line + 1, column)
    else if line = 0 then (0, column + 1)
    else (line, column)

/-- Blanks up to and carets below each of some stretches of one line, given by their first and last
columns. -/
def underline : (column : Nat) → List (Nat × Nat) → Text
  | _, [] => []
  | column, (first, last) :: more =>
    let width := max 1 (last - first)
    List.replicate (first - column) ' ' ++ List.replicate width '^'
      ++ underline (max column first + width) more

/-- The lines of a pattern without their ends. -/
def shownLines (pattern : Text) : List Text :=
  pattern.lines.map fun line =>
    match line.reverse with
    | '\n' :: '\r' :: rest => rest.reverse
    | '\n' :: rest => rest.reverse
    | _ => line

/-- The stretches of a fault in the order in which they begin. -/
def Fault.spans (f : Fault) : List Span :=
  match f.earlier? with
  | none => [f.span]
  | some e => if e.start ≤ f.span.start then [e, f.span] else [f.span, e]

/-- The stretches that lie on one line, as columns of that line. -/
def Fault.columnsOn (pattern : Text) (f : Fault) (line : Nat) : List (Nat × Nat) :=
  f.spans.filterMap fun s =>
    let (first, a) := linePosition pattern s.start
    let (last, b) := linePosition pattern s.stop
    if first = line ∧ last = line then some (a, b) else none

/-- What is said of the stretches that lie on more than one line. -/
def Fault.notes (pattern : Text) (f : Fault) : List Text :=
  f.spans.filterMap fun s =>
    let (first, a) := linePosition pattern s.start
    let (last, b) := linePosition pattern s.stop
    if first = last then none
    else
      some ("on line " ++ Text.ofNat (first + 1) ++ " (column " ++ Text.ofNat (a + 1)
        ++ ") through line " ++ Text.ofNat (last + 1) ++ " (column " ++ Text.ofNat b ++ ")")

/-- The lines of a pattern, each behind its margin and with its stretches underlined. -/
def Fault.shown (pattern : Text) (f : Fault) (margin : Nat → Text) (width : Nat) : Text :=
  (shownLines pattern).zipIdx.flatMap fun (line, number) =>
    let below :=
      match f.columnsOn pattern number with
      | [] => []
      | columns => List.replicate width ' ' ++ underline 0 columns ++ ['\n']
    margin number ++ line ++ '\n' :: below

/-- The rule above and below a pattern of several lines. -/
def rule : Text := List.replicate 79 '~' ++ ['\n']

/-- What is wrong with a pattern, in words. -/
def Fault.message (pattern : Text) (f : Fault) : Text :=
  let ending : Text := "error: " ++ f.reason.message
  if pattern.contains ['\n'] then
    let count := (shownLines pattern).length + if pattern.endsWith ['\n'] then 1 else 0
    let width := if count ≤ 1 then 0 else (Text.ofNat count).length
    let margin (number : Nat) : Text :=
      let digits := Text.ofNat (number + 1)
      if width = 0 then "    " else List.replicate (width - digits.length) ' ' ++ digits ++ ": "
    let notes :=
      match f.notes pattern with
      | [] => []
      | notes => Text.join ['\n'] notes ++ ['\n']
    "regex parse error:\n" ++ rule
      ++ f.shown pattern margin (if width = 0 then 4 else width + 2) ++ rule ++ notes ++ ending
  else "regex parse error:\n" ++ f.shown pattern (fun _ => "    ") 4 ++ ending

end PatchTrail.Pattern
