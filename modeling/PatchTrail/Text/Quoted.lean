import PatchTrail.Text.Numeral
import PatchTrail.Unicode.Display

/-!
# Quoted texts

Messages show a text between double quotes. A double quote and a backslash are written after a
backslash, the tabulator, carriage return, line feed and NUL as `\t`, `\r`, `\n` and `\0`, every
other character without a look of its own as `\u` with its code in braces, and all else as it is.
What a value is made of is shown part by part (`describeParts`, `describeFields`).
-/

namespace PatchTrail.Text

/-- How a character is written inside quotes. -/
def escapeChar (c : Char) : Text :=
  if c = '\u0000' then ['\\', '0']
  else if c = '\t' then ['\\', 't']
  else if c = '\r' then ['\\', 'r']
  else if c = '\n' then ['\\', 'n']
  else if c = '"' then ['\\', '"']
  else if c = '\\' then ['\\', '\\']
  else if Unicode.Display.isShown c then [c]
  else ['\\', 'u', '{'] ++ hexOfNat c.toNat ++ ['}']

/-- A text between double quotes. -/
def quoted (t : Text) : Text := '"' :: (t.flatMap escapeChar ++ ['"'])

/-!
## Values shown part by part

A value is shown by the name of its kind, followed by its parts with their names in braces, or
without names in parentheses. A list is shown in brackets.
-/

/-- A list of things already shown. -/
def describeList (items : List Text) : Text := '[' :: (join ", " items ++ [']'])

/-- A kind with its parts. -/
def describeParts (kind : Text) (parts : List Text) : Text :=
  kind ++ '(' :: (join ", " parts ++ [')'])

/-- A kind with its named parts. -/
def describeFields (kind : Text) (fields : List (Text × Text)) : Text :=
  kind ++ " \x7b " ++ join ", " (fields.map fun (name, value) => name ++ ": " ++ value) ++ " \x7d"

end PatchTrail.Text
