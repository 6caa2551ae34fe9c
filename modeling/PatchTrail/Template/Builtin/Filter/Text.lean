import PatchTrail.Template.Builtin.Arguments
import PatchTrail.Template.Value.Basic
import PatchTrail.Text.Blank
import PatchTrail.Text.Indent
import PatchTrail.Text.Replace
import PatchTrail.Unicode.Case

/-!
# Filters on texts

They take any value for a text, namely the text that it is written as. What a filter makes of a
safe text is safe if it only changes its letters, or its blanks.
-/

namespace PatchTrail.Template

/-! ## Upper and lower case -/

/-- Whether a character is a sign of the ASCII set. -/
def isSign (c : Char) : Bool :=
  decide ('!' ≤ c) && decide (c ≤ '~') && !c.isAlphanum

/-- A text with the first letter of every word in upper case and all others in lower case. -/
def titleCase : (isFirst : Bool) → Text → Text
  | _, [] => []
  | isFirst, c :: rest =>
    if isSign c || isBlank c then c :: titleCase true rest
    else
      (if isFirst then Unicode.Case.toUpper c else Unicode.Case.toLower c)
        ++ titleCase false rest

/-- A text with its first letter in upper case and all others in lower case. -/
def capitalize : Text → Text
  | [] => []
  | c :: rest => Unicode.Case.toUpper c ++ Text.lower rest

/-! ## Pieces -/

/-- The pieces of a text between occurrences of another one, at most `more + 1` of them. The empty
text occurs at both ends and between any two characters. -/
def piecesBetween (sought : Text) : (bound : Nat) → (more? : Option Nat) → Text → List Text
  | 0, _, t => [t]
  | _, some 0, t => [t]
  | bound + 1, more?, t =>
    match Text.cut? sought t with
    | some (before, after) => before :: piecesBetween sought bound (more?.map (· - 1)) after
    | none => [t]

/-- The pieces of a text between its characters. -/
def charactersOf (more? : Option Nat) (t : Text) : List Text :=
  let pieces := [] :: (t.map fun c => [c]) ++ [[]]
  match more? with
  | none => pieces
  | some more =>
    if pieces.length ≤ more + 1 then pieces
    else pieces.take more ++ [(pieces.drop more).flatten]

/-- The words of a text, at most `more + 1` of them, the last of which keeps its blanks. -/
def wordsOf : (bound : Nat) → (more : Nat) → Text → List Text
  | 0, _, _ => []
  | bound + 1, more, t =>
    match Text.trimStart t with
    | [] => []
    | t =>
      match more with
      | 0 => [t]
      | more + 1 =>
        t.takeWhile (!isBlank ·) :: wordsOf bound more (t.dropWhile (!isBlank ·))

/-- The pieces of a text, at most `more + 1` of them: between occurrences of another text, or words
if there is none. -/
def pieces (separator? : Option Text) (more? : Option Nat) (t : Text) : List Text :=
  match separator?, more? with
  | none, none => Text.fields t
  | none, some more => wordsOf (t.length + 1) more t
  | some [], more? => charactersOf more? t
  | some separator, more? => piecesBetween separator (t.length + 1) more? t

/-! ## Indentation -/

/-- A text without the line feed at its end, and without a carriage return before that. -/
def dropLineEnd (t : Text) : Text :=
  let drop (c : Char) (t : Text) : Text := if t.getLast? = some c then t.dropLast else t
  drop '\r' (drop '\n' t)

/-- A text with its lines moved to the right: the first one only if `isFirst`, those without any
characters only if `areBlank`. -/
def indent (width : Nat) (isFirst areBlank : Bool) (t : Text) : Text :=
  let blanks := List.replicate width ' '
  let move (line : Text) : Text := if line.isEmpty && !areBlank then line else blanks ++ line
  match Text.split '\n' (dropLineEnd t) with
  | [] => []
  | first :: rest =>
    let lines := (if isFirst then move first else first) :: rest.map move
    dropLineEnd (lines.flatMap (· ++ ['\n']))

/-! ## Replacing -/

/-- A text with one text replaced by another. Where text is escaped, the replacement is escaped in
a safe text, and a text that is not safe is escaped before if what is sought or the replacement is
safe. -/
def replaceMarked (isEscaping : Bool) (whole sought replacement : Text × Bool) : Value :=
  let (t, isSafe) := whole
  if isEscaping && (isSafe || sought.2 || replacement.2) then
    let t := if isSafe then t else escape t
    let replacement := if replacement.2 then replacement.1 else escape replacement.1
    .text (t.replaceAll sought.1 replacement) true
  else .ofText (t.replaceAll sought.1 replacement.1)

/-! ## The filters -/

namespace Filter

/-- A filter that takes a text to another one. -/
def onText (f : Text → Text) : Builtin := .sure do
  let (t, isSafe) ← Arguments.markedText
  return .text (f t) isSafe

/-- The text of a value as a safe one. -/
def safe : Builtin := .sure do return .text (← Arguments.text) true

/-- A value as it stands in a page. -/
def escape : Builtin := .sure do return .text (← Arguments.value).escaped true

/-- A text with one text replaced by another. -/
def replace (isEscaping : Bool) : Builtin := .sure do
  let whole ← Arguments.markedText
  let sought ← Arguments.markedText
  return replaceMarked isEscaping whole sought (← Arguments.markedText)

/-- A text without some characters at both ends, blanks if none are given. -/
def trim : Builtin := .sure do
  let (t, isSafe) ← Arguments.markedText
  match ← Arguments.text? with
  | some characters =>
    let isDropped (c : Char) : Bool := characters.elem c
    return .text (Text.dropEndWhile isDropped (t.dropWhile isDropped)) isSafe
  | none => return .text t.trim isSafe

/-- The pieces of a text. -/
def split : Builtin := .sure do
  let t ← Arguments.text
  let separator? ← Arguments.text?
  let count? ← Arguments.optional Value.asInt64
  let more? := (count?.filter fun n => decide (0 ≤ n)).map Int.toNat
  return .ofList ((pieces separator? more? t).map fun piece => .ofText piece)

/-- The lines of a text. -/
def lines : Builtin := .sure do
  let t ← Arguments.text
  return .ofList (t.lines.map fun line => .ofText (Text.stripLineEnd line))

/-- By how much lines are moved to the right if nothing is said. -/
def usualIndent : Nat := 4

/-- A text with its lines moved to the right. How far and which ones can be said with or without
names. -/
def indented : Builtin := do
  let (t, isSafe) ← Arguments.markedText
  let named ← Arguments.named
  let width? ← Arguments.optional Value.asNatural
  let isFirst? ← Arguments.boolean?
  let areBlank? ← Arguments.boolean?
  return do
    let width := (width?.or (← named.optional "width" Value.asNatural)).getD usualIndent
    let isFirst := (isFirst?.or (← named.optional "first" Value.asBoolean)).getD false
    let areBlank := (areBlank?.or (← named.optional "blank" Value.asBoolean)).getD false
    named.only ["width", "first", "blank"]
    return .text (indent width isFirst areBlank t) isSafe

/-- A value as a text. -/
def string : Builtin := .sure do
  match ← Arguments.value with
  | .text t isSafe => return .text t isSafe
  | v => return .ofText v.display

end Filter

end PatchTrail.Template
