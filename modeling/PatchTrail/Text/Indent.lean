import PatchTrail.Text.Blank
import PatchTrail.Text.Numeral

/-!
# Fragments with an indentation of their own

A fragment is written on lines of its own, indented with tabulators. It begins with a line feed,
and the tabulators at its very end say how deep its base is. `fixIndent` takes the base off every
line, turns each further leading tabulator into four spaces, and empties blank lines.
-/

namespace PatchTrail.Text

/-- Why a fragment has no usable indentation. -/
inductive IndentError where
  /-- The fragment does not begin with a line feed. -/
  | missingLeadingNewline
  /-- A line, counted from one, does not begin with the base indentation. -/
  | notIndented (line : Nat)
deriving DecidableEq, Repr

/-- The text of an indentation error. -/
def IndentError.message : IndentError → Text
  | .missingLeadingNewline => "text does not start on a new line"
  | .notIndented line => "line " ++ ofNat line ++ " is not indented with the base indentation"

/-- A line without the line feed at its end, and without a carriage return right before that. -/
def stripLineEnd (line : Text) : Text :=
  match line.reverse with
  | '\n' :: '\r' :: rest => rest.reverse
  | '\n' :: rest => rest.reverse
  | _ => line

/-- A line without its terminator on a base of `base` tabulators, or `none` if it is not indented
that far. The result has its own line feed. -/
def fixIndentLine (base : Nat) (line : Text) : Option Text :=
  if line.isBlank then some ['\n']
  else
    match dropPrefix? (List.replicate base '\t') line with
    | none => none
    | some rest =>
      let content := rest.dropWhile (· == '\t')
      let extra := rest.length - content.length
      some (List.replicate (4 * extra) ' ' ++ content ++ ['\n'])

/-- Puts the lines of a fragment on their base, counting them from `number`. -/
def fixIndentLines (base : Nat) : Nat → List Text → Except IndentError Text
  | _, [] => .ok []
  | number, line :: more =>
    match fixIndentLine base (stripLineEnd line) with
    | none => .error (.notIndented number)
    | some fixed => (fixIndentLines base (number + 1) more).map (fixed ++ ·)

/-- A fragment on its base. The empty text stays empty. -/
def fixIndent : Text → Except IndentError Text
  | [] => .ok []
  | c :: rest =>
    if c = '\n' then
      let body := dropEndWhile (· == '\t') rest
      fixIndentLines (rest.length - body.length) 1 (lines body)
    else .error .missingLeadingNewline

end PatchTrail.Text
