import PatchTrail.Text.Basic

/-!
# Replacing one text by another

Occurrences are taken from the left and do not overlap. The empty text occurs before every
character and at the end.
-/

namespace PatchTrail.Text

/-- Replaces the occurrences of `find` from the left. `skip` counts the characters still to be
passed over because they belong to an occurrence already replaced. -/
def replaceFrom (find replacement : Text) : Nat → Text → Text
  | _, [] => []
  | skip + 1, _ :: rest => replaceFrom find replacement skip rest
  | 0, c :: rest =>
    if find.isPrefixOf (c :: rest) then
      replacement ++ replaceFrom find replacement (find.length - 1) rest
    else c :: replaceFrom find replacement 0 rest

/-- A text with every occurrence of `find` replaced. -/
def replaceAll (t find replacement : Text) : Text :=
  if find = [] then replacement ++ t.flatMap fun c => c :: replacement
  else replaceFrom find replacement 0 t

/-- A text with every carriage return before a line feed left out. -/
def normalizeLineEndings : Text → Text
  | '\r' :: '\n' :: rest => '\n' :: normalizeLineEndings rest
  | c :: rest => c :: normalizeLineEndings rest
  | [] => []

end PatchTrail.Text
