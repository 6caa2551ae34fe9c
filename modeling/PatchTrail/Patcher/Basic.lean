import PatchTrail.Patcher.Error
import PatchTrail.Pattern.Basic
import PatchTrail.Smali.Line
import PatchTrail.Smali.Method
import PatchTrail.Text.Replace

/-!
# Patchers

A patcher turns a unit of text into another or fails. Those that look for something fail if it is
not there, so that a patch that no longer fits its target cannot pass unnoticed. Two kinds of
patchers are scopes: they run others on the bodies of a method or on the declaration of a constant.
-/

namespace PatchTrail

/-- A transformation of a unit of text. -/
inductive Patcher where
  /-- Replaces every occurrence of a text. -/
  | replaceText (find replacement : Text)
  /-- Replaces every match of a pattern, by a template or, if `isLiteral`, by a text as it is. -/
  | replacePattern (pattern : Pattern) (replacement : Text) (isLiteral : Bool)
  /-- Requires that a text occurs. -/
  | require (text : Text)
  /-- Puts a text at the end. -/
  | append (text : Text)
  /-- Puts a text in the place of the unit. -/
  | overwrite (text : Text)
  /-- Runs patchers, one after the other, on each body of a method. -/
  | inMethod (signature : Text) (patchers : List Patcher)
  /-- Runs a patcher on each line that declares a constant. -/
  | inConstant (identifier : Text) (patcher : Patcher)
  /-- Any other transformation. -/
  | custom (transform : Text → Except Patcher.Error Text)

namespace Patcher

/-- Inserts a text behind every occurrence of another. -/
def insertAfter (find insertion : Text) : Patcher := replaceText find (find ++ insertion)

/-- Inserts a text in front of every occurrence of another. -/
def insertBefore (find insertion : Text) : Patcher := replaceText find (insertion ++ find)

/-- Whether a patcher only checks the unit. -/
def isAssertion : Patcher → Bool
  | require _ => true
  | inMethod _ patchers => areAssertions patchers
  | inConstant _ patcher => patcher.isAssertion
  | _ => false
where
  /-- Whether some patchers only check the unit. -/
  areAssertions : List Patcher → Bool
    | [] => true
    | p :: rest => p.isAssertion && areAssertions rest

/-- Runs a transformation on every body of a method, in the order of the unit. -/
def spliceSegments (signature : Text) (transform : Text → Except Error Text) :
    List Smali.Segment → Except Error Text
  | [] => .ok []
  | .between t :: rest => do return t ++ (← spliceSegments signature transform rest)
  | .body s t :: rest => do
    if s = signature then
      match transform t with
      | .error e => throw (.inMethod signature e)
      | .ok t => return t ++ (← spliceSegments signature transform rest)
    else return t ++ (← spliceSegments signature transform rest)

/-- Whether a segment is the body of a method with a signature. -/
def isBodyOf (signature : Text) : Smali.Segment → Bool
  | .between _ => false
  | .body s _ => s = signature

/-- Runs a transformation on every body of a method. The method has to be there, and unless the
transformation only checks, the unit has to change. -/
def methodPass (signature : Text) (transform : Text → Except Error Text) (isAssertion : Bool)
    (unit_ : Text) : Except Error Text :=
  let segments := Smali.segments unit_
  if segments.any (isBodyOf signature) then do
    let patched ← spliceSegments signature transform segments
    if patched = unit_ ∧ isAssertion = false then throw (.noEffect signature)
    else return patched
  else .error (.methodNotFound signature)

/-- Runs a transformation on every line that declares a constant. -/
def patchLines (identifier : Text) (transform : Text → Except Error Text) :
    List Text → Except Error (List Text)
  | [] => .ok []
  | line :: rest => do
    if Smali.declares line identifier then
      match transform line with
      | .error e => throw (.inConstant identifier e)
      | .ok line => return line :: (← patchLines identifier transform rest)
    else return line :: (← patchLines identifier transform rest)

/-- Runs a transformation on every line that declares a constant; there has to be one. -/
def constantPass (identifier : Text) (transform : Text → Except Error Text) (unit_ : Text) :
    Except Error Text :=
  let lines := unit_.split '\n'
  if lines.any fun line => Smali.declares line identifier then
    (patchLines identifier transform lines).map (Text.join ['\n'])
  else .error (.constantNotFound identifier)

/-- Runs a patcher on a unit. -/
def apply : Patcher → Text → Except Error Text
  | replaceText find replacement, unit_ =>
    if unit_.contains find then .ok (unit_.replaceAll find replacement) else .error (.notFound find)
  | replacePattern pattern replacement isLiteral, unit_ =>
    if pattern.occursIn unit_ then
      .ok (pattern.replaceAll unit_ fun found =>
        if isLiteral then replacement else Pattern.expand replacement found)
    else .error (.notFound pattern.source)
  | require text, unit_ => if unit_.contains text then .ok unit_ else .error (.notFound text)
  | append text, unit_ => .ok (unit_ ++ text)
  | overwrite text, _ => .ok text
  | inMethod signature patchers, unit_ => passes signature patchers unit_
  | inConstant identifier patcher, unit_ => constantPass identifier patcher.apply unit_
  | custom transform, unit_ => transform unit_
where
  /-- Runs patchers on the bodies of a method, each on what the one before has left. -/
  passes (signature : Text) : List Patcher → Text → Except Error Text
    | [], unit_ => .ok unit_
    | p :: rest, unit_ => do
      passes signature rest (← methodPass signature p.apply p.isAssertion unit_)

/-- Runs patchers one after the other. A failure comes with the position of the patcher that
failed, counted from `index`. -/
def applyAll : (index : Nat) → List Patcher → Text → Except (Nat × Error) Text
  | _, [], unit_ => .ok unit_
  | index, p :: rest, unit_ =>
    match p.apply unit_ with
    | .error e => .error (index, e)
    | .ok t => applyAll (index + 1) rest t

/-- A patcher shown part by part. -/
def describe : Patcher → Text
  | replaceText find replacement =>
    Text.describeFields "ReplaceString" [("find", find.quoted), ("replace", replacement.quoted)]
  | replacePattern pattern replacement isLiteral =>
    Text.describeFields "ReplaceRegex"
      [("pattern", Text.describeParts "Regex" [pattern.source.quoted]),
        ("replace", replacement.quoted), ("literal", if isLiteral then "true" else "false")]
  | require text => Text.describeFields "MustContain" [("text", text.quoted)]
  | append text => Text.describeFields "AppendString" [("text", text.quoted)]
  | overwrite text => Text.describeFields "ReplaceWith" [("text", text.quoted)]
  | inMethod signature patchers =>
    Text.describeFields "InMethod"
      [("signature", signature.quoted), ("patchers", Text.describeList (describeAll patchers))]
  | inConstant identifier patcher =>
    Text.describeFields "InConstant"
      [("identifier", identifier.quoted), ("patcher", patcher.describe)]
  | custom _ => Text.describeParts "Func" [Text.describeParts "FnPatcher" [".."]]
where
  /-- Patchers shown part by part. -/
  describeAll : List Patcher → List Text
    | [] => []
    | p :: rest => p.describe :: describeAll rest

end Patcher

end PatchTrail
