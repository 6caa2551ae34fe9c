import PatchTrail.Json.Fault

/-!
# Writing values

Values are written without spaces (`Value.compact`) or over several lines, two spaces deeper for
each array and object around (`Value.indented`). Only what has to be escaped is escaped.
-/

namespace PatchTrail.Json

/-- A character as it is written between quotes. -/
def escapeChar (c : Char) : Text :=
  if c = '"' then ['\\', '"']
  else if c = '\\' then ['\\', '\\']
  else if c = '\n' then ['\\', 'n']
  else if c = '\r' then ['\\', 'r']
  else if c = '\t' then ['\\', 't']
  else if c = '\u0008' then ['\\', 'b']
  else if c = '\u000c' then ['\\', 'f']
  else if c.toNat < 0x20 then
    ['\\', 'u', '0', '0', Nat.digitChar (c.toNat / 16), Nat.digitChar (c.toNat % 16)]
  else [c]

/-- A text between quotes. -/
def quote (t : Text) : Text := '"' :: (t.flatMap escapeChar ++ ['"'])

/-- A number as it is written. What is not finite has no numeral. -/
def Number.render : Number → Text
  | .integer i => Text.ofInt i
  | .decimal x => if x.isFinite then floatLayout.renderFloat x else "null"

mutual

/-- A value written without spaces. -/
def Value.compact : Value → Text
  | .null => "null"
  | .boolean b => if b then "true" else "false"
  | .number n => n.render
  | .string t => quote t
  | .array vs => '[' :: (compactElements vs ++ [']'])
  | .object ms => '{' :: (compactMembers ms ++ ['}'])

/-- Elements with commas between them. -/
def compactElements : List Value → Text
  | [] => []
  | [v] => v.compact
  | v :: w :: rest => v.compact ++ ',' :: compactElements (w :: rest)

/-- Members with commas between them. -/
def compactMembers : List (Text × Value) → Text
  | [] => []
  | [(name, v)] => quote name ++ ':' :: v.compact
  | (name, v) :: m :: rest => quote name ++ ':' :: (v.compact ++ ',' :: compactMembers (m :: rest))

end

/-- A line end and the indentation of a depth. -/
def newLine (depth : Nat) : Text := '\n' :: List.replicate (2 * depth) ' '

mutual

/-- A value written over several lines, at a depth. -/
def Value.indentedAt (depth : Nat) : Value → Text
  | .array [] => "[]"
  | .object [] => "\x7b\x7d"
  | .array (v :: vs) =>
    '[' :: (newLine (depth + 1) ++ indentedElements (depth + 1) (v :: vs) ++ newLine depth ++ [']'])
  | .object (m :: ms) =>
    '{' :: (newLine (depth + 1) ++ indentedMembers (depth + 1) (m :: ms) ++ newLine depth ++ ['}'])
  | .null => "null"
  | .boolean b => if b then "true" else "false"
  | .number n => n.render
  | .string t => quote t

/-- Elements on lines of their own. -/
def indentedElements (depth : Nat) : List Value → Text
  | [] => []
  | [v] => v.indentedAt depth
  | v :: w :: rest =>
    v.indentedAt depth ++ ',' :: (newLine depth ++ indentedElements depth (w :: rest))

/-- Members on lines of their own. -/
def indentedMembers (depth : Nat) : List (Text × Value) → Text
  | [] => []
  | [(name, v)] => quote name ++ ':' :: ' ' :: v.indentedAt depth
  | (name, v) :: m :: rest =>
    quote name ++ ':' :: ' ' :: (v.indentedAt depth ++ ',' :: (newLine depth
      ++ indentedMembers depth (m :: rest)))

end

/-- A value written over several lines. -/
def Value.indented (v : Value) : Text := v.indentedAt 0

end PatchTrail.Json
