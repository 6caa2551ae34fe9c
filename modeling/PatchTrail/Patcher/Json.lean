import PatchTrail.Json.Printer
import PatchTrail.Json.Reader.Shape
import PatchTrail.Patcher.Basic

/-!
# Patchers as JSON

A patcher is a tagged value. Custom transformations have no such form, so a patcher is written
unless one occurs in it (`Patcher.toJson?`).
-/

namespace PatchTrail.Patcher

open Json (Value RecordField Mismatch)

/-- The patchers that can be written down. -/
inductive Tag where
  | replaceText
  | replacePattern
  | require
  | append
  | overwrite
  | inMethod
  | inConstant
deriving DecidableEq, Repr

/-- The name of a tag. -/
def Tag.name : Tag → Text
  | replaceText => "replace_string"
  | replacePattern => "replace_regex"
  | require => "must_contain"
  | append => "append_string"
  | overwrite => "replace_with"
  | inMethod => "in_method"
  | inConstant => "in_constant"

/-- The tags by name. -/
def tags : List (Text × Tag) :=
  [Tag.replaceText, .replacePattern, .require, .append, .overwrite, .inMethod, .inConstant].map
    fun t => (t.name, t)

/-- What patchers are called where one was asked for and something else was found. -/
def kind : Text := "StringPatcher"

/-- What the record of a tag is called where its length was wrong. -/
def recordOf (variant : Text) (n : Nat) : Text := Json.variantRecord kind variant n

/-! ## Reading -/

/-- Decodes a pattern from its source. -/
def asPattern (v : Value) : Except Mismatch Pattern := do
  match Pattern.compile (← Json.asText v) with
  | .ok p => return p
  | .error e => throw (.refused e.message)

/-- The field of a pattern. -/
def patternField : RecordField Pattern where
  name := "pattern"
  decode := asPattern

/-- The field that says whether a replacement is taken as it is. -/
def literalField : RecordField Bool where
  name := "literal"
  decode := Json.asBoolean
  fallback? := some false

/-- Decodes what belongs to a tag, where `patcher` decodes the patchers inside. -/
def decodeTag (patcher : Value → Except Mismatch Patcher) (tag : Tag) (v : Value) :
    Except Mismatch Patcher :=
  match tag with
  | .replaceText => do
    let (find, replacement) ←
      Json.record2 (recordOf "ReplaceString" 2) (RecordField.text "find")
        (RecordField.text "replace") v
    return .replaceText find replacement
  | .replacePattern => do
    let (pattern, replacement, isLiteral) ←
      Json.record3 (recordOf "ReplaceRegex" 3) patternField (RecordField.text "replace")
        literalField v
    return .replacePattern pattern replacement isLiteral
  | .require => do
    return .require (← Json.record1 (recordOf "MustContain" 1) (RecordField.text "text") v)
  | .append => do
    return .append (← Json.record1 (recordOf "AppendString" 1) (RecordField.text "text") v)
  | .overwrite => do
    return .overwrite (← Json.record1 (recordOf "ReplaceWith" 1) (RecordField.text "text") v)
  | .inMethod => do
    let (signature, patchers) ←
      Json.record2 (recordOf "InMethod" 2) (RecordField.text "signature")
        (RecordField.list "patchers" patcher) v
    return .inMethod signature patchers
  | .inConstant => do
    let (identifier, inner) ←
      Json.record2 (recordOf "InConstant" 2) (RecordField.text "identifier")
        { name := "patcher", decode := patcher } v
    return .inConstant identifier inner

/-- Decodes a patcher nested at most `depth` deep. -/
def decodeUpTo : (depth : Nat) → Value → Except Mismatch Patcher
  | 0, v => .error (.wrongKind v.found (Json.taggedKind kind))
  | depth + 1, v => do
    let (tag, rest) ← Json.untag kind (Json.anyTag tags) v
    decodeTag (decodeUpTo depth) tag rest

/-- Decodes a patcher. -/
def decode (v : Value) : Except Mismatch Patcher := decodeUpTo (v.depth + 1) v

/-- Decodes a patcher whose own tag has to be given by its name. -/
def decodeNamed (v : Value) : Except Mismatch Patcher := do
  let (tag, rest) ← Json.untag kind (Json.namedTag tags) v
  decodeTag decode tag rest

/-- Reads a document that is a patcher. -/
def parse (document : Text) : Except Json.Error Patcher :=
  Json.Reader.document (Json.Reader.taggedThen kind tags (decodeTag decode)) document

/-! ## Writing -/

/-- A patcher as a value, unless it has a custom transformation in it. -/
def toJson? : Patcher → Option Value
  | replaceText find replacement =>
    some (Json.tagged Tag.replaceText.name
      [("find", .string find), ("replace", .string replacement)])
  | replacePattern pattern replacement isLiteral =>
    some (Json.tagged Tag.replacePattern.name
      [("pattern", .string pattern.source), ("replace", .string replacement),
        ("literal", .boolean isLiteral)])
  | require text => some (Json.tagged Tag.require.name [("text", .string text)])
  | append text => some (Json.tagged Tag.append.name [("text", .string text)])
  | overwrite text => some (Json.tagged Tag.overwrite.name [("text", .string text)])
  | inMethod signature patchers =>
    (listToJson? patchers).map fun vs =>
      Json.tagged Tag.inMethod.name [("signature", .string signature), ("patchers", .array vs)]
  | inConstant identifier patcher =>
    patcher.toJson?.map fun v =>
      Json.tagged Tag.inConstant.name [("identifier", .string identifier), ("patcher", v)]
  | custom _ => none
where
  /-- Patchers as values, unless one has a custom transformation in it. -/
  listToJson? : List Patcher → Option (List Value)
    | [] => some []
    | p :: rest =>
      match p.toJson?, listToJson? rest with
      | some v, some vs => some (v :: vs)
      | _, _ => none

/-- Why a patcher with a custom transformation cannot be written. -/
def notWritable : Text := "the enum variant StringPatcher::Func cannot be serialized"

end PatchTrail.Patcher
