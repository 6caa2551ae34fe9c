import PatchTrail.Template.Token.Literal
import PatchTrail.Text.Blank

/-!
# Cutting a template into tokens

Blocks begin with an opening brace and another brace for expressions, a percent sign for statements
or a number sign for comments. A minus sign behind the beginning or in front of the end of a block
takes away the blanks on that side, and a plus sign does nothing there. What stands between the
statements `raw` and `endraw` is text, whatever it looks like.
-/

namespace PatchTrail.Template

/-- What a block holds. -/
inductive BlockKind where
  | expression
  | statement
  | comment
deriving DecidableEq, Repr

/-- The end of a block. -/
def BlockKind.ending : BlockKind → Text
  | expression => "\x7d\x7d"
  | statement => "%\x7d"
  | comment => "#\x7d"

/-- The kind of block that a character behind an opening brace begins. -/
def BlockKind.ofChar? (c : Char) : Option BlockKind :=
  if c = '{' then some expression
  else if c = '%' then some statement
  else if c = '#' then some comment
  else none

/-- Whether a sign at the edge of a block takes away blanks. -/
def takesBlanks (c? : Option Char) : Bool := c? == some '-'

/-- A text without the sign at the edge of a block, if it begins with one, and whether it takes away
blanks. -/
def dropEdge : Text → Bool × Text
  | '-' :: rest => (true, rest)
  | '+' :: rest => (false, rest)
  | t => (false, t)

/-- The beginning of a block in a text: the text before it, the kind of the block, and what comes
after the two characters. -/
def cutBlock? : Text → Option (Text × BlockKind × Text)
  | '{' :: c :: rest =>
    match BlockKind.ofChar? c with
    | some kind => some ([], kind, rest)
    | none =>
      (cutBlock? (c :: rest)).map fun (before, kind, after) => ('{' :: before, kind, after)
  | c :: rest => (cutBlock? rest).map fun (before, kind, after) => (c :: before, kind, after)
  | [] => none

/-- Whether a character counts as a blank inside of blocks. -/
def isInnerBlank (c : Char) : Bool :=
  c = ' ' || c = '\t' || c = '\n' || c = '\u000c' || c = '\r'

/-- The end of a block at the beginning of a text: whether it takes away blanks, and what comes
after it. -/
def dropEnding? (kind : BlockKind) (t : Text) : Option (Bool × Text) :=
  let (strips, rest) := dropEdge t
  match Text.dropPrefix? kind.ending rest with
  | some after => some (strips, after)
  | none => (Text.dropPrefix? kind.ending t).map fun after => (false, after)

/-- A statement that is a single word, behind its beginning: whether it takes away blanks behind
itself, and what comes after it. -/
def dropWord? (word t : Text) : Option (Bool × Text) :=
  match Text.dropPrefix? word (t.dropWhile isInnerBlank) with
  | none => none
  | some rest => dropEnding? .statement (rest.dropWhile isInnerBlank)

/-- Text that stands raw up to the statement that ends it: the text, whether the statement takes
away blanks in front of itself and behind itself, and what comes after it. -/
def cutRaw? : Text → Option (Text × Bool × Bool × Text)
  | '{' :: '%' :: rest =>
    match dropWord? "endraw" (dropEdge rest).2 with
    | some (after, rest') => some ([], (dropEdge rest).1, after, rest')
    | none => (cutRaw? ('%' :: rest)).map fun (t, more) => ('{' :: t, more)
  | c :: rest => (cutRaw? rest).map fun (t, more) => (c :: t, more)
  | [] => none

/-- The line behind what has been taken off a text. -/
def lineAfter (line : Nat) (t rest : Text) : Nat := line + feeds (t.take (t.length - rest.length))

/-- Tokens read, and the error at which reading ended if it did. -/
structure Tokens where
  placed : List Placed
  error? : Option Error

/-- Tokens with others in front of them. -/
def Tokens.prepend (front : List Placed) (ts : Tokens) : Tokens :=
  { ts with placed := front ++ ts.placed }

/-- Text as a token, unless it is empty. -/
def dataToken (t : Text) (line : Nat) : List Placed := if t = [] then [] else [⟨.data t, line⟩]

/-- Where a reader stands: outside of blocks, or in a block with a number of open brackets, perhaps
right behind a dot. -/
inductive Place where
  | outside
  | inside (kind : BlockKind) (nesting : Int) (isBehindDot : Bool)

/-- Passes over blanks if an edge takes them away. -/
def strip (strips : Bool) (t : Text) : Text := if strips then t.trimStart else t

/-- Reads tokens, at most `bound` steps of them. What does not end is reported at the end of the
text. -/
def readTokens : (bound : Nat) → Place → (line : Nat) → Text → Tokens
  | 0, _, _, _ => ⟨[], none⟩
  | _ + 1, .outside, _, [] => ⟨[], none⟩
  | bound + 1, .outside, line, t =>
    match cutBlock? t with
    | none => ⟨dataToken t line, none⟩
    | some (before, kind, rest) =>
      let (strips, inner) := dropEdge rest
      let front := dataToken (if strips then before.trimEnd else before) line
      let here := line + feeds before
      let last := line + feeds t
      match kind with
      | .comment =>
        match Text.cut? BlockKind.comment.ending inner with
        | none => ⟨front, some ((Error.malformed "unexpected end of comment").onLine last)⟩
        | some (body, after) =>
          let after := strip (takesBlanks body.getLast?) after
          (readTokens bound .outside (lineAfter line t after) after).prepend front
      | .expression =>
        (readTokens bound (.inside .expression 0 false) here inner).prepend
          (front ++ [⟨.startExpression, here⟩])
      | .statement =>
        match dropWord? "raw" inner with
        | none =>
          (readTokens bound (.inside .statement 0 false) here inner).prepend
            (front ++ [⟨.startStatement, here⟩])
        | some (stripsStart, body) =>
          let there := lineAfter line t body
          match cutRaw? body with
          | none => ⟨front, some ((Error.malformed "unexpected end of raw block").onLine last)⟩
          | some (raw, stripsEnd, stripsAfter, after) =>
            let raw := strip stripsStart raw
            let raw := if stripsEnd then raw.trimEnd else raw
            let after := strip stripsAfter after
            (readTokens bound .outside (lineAfter line t after) after).prepend
              (front ++ dataToken raw there)
  | bound + 1, .inside kind nesting isBehindDot, line, t =>
    let inner := t.dropWhile isInnerBlank
    let here := lineAfter line t inner
    if inner = [] then ⟨[], none⟩
    else
      match if nesting = 0 then dropEnding? kind inner else none with
      | some (strips, after) =>
        let token : Token :=
          match kind with
          | .expression => .endExpression
          | _ => .endStatement
        let after := strip strips after
        (readTokens bound .outside (lineAfter line t after) after).prepend [⟨token, here⟩]
      | none =>
        match readToken here isBehindDot inner with
        | .error e => ⟨[], some e⟩
        | .ok (token, after) =>
          let (nesting, isBehindDot) :=
            match token with
            | .sign s => (nesting + s.nesting, s == .dot)
            | _ => (nesting, false)
          (readTokens bound (.inside kind nesting isBehindDot) (lineAfter line t after)
            after).prepend [⟨token, here⟩]

/-- The tokens of a template. -/
def tokens (t : Text) : Tokens := readTokens (2 * t.length + 2) .outside 1 t

end PatchTrail.Template
