import PatchTrail.Text.Numeral

/-!
# Why a template cannot be rendered

An error has a kind, often a detail, and the line of the template at which it came up as soon as
that is known. The first line that is noted stays (`Error.onLine`).
-/

namespace PatchTrail.Template

/-- The kinds of errors. -/
inductive ErrorKind where
  | invalidOperation
  | syntaxError
  | templateNotFound
  | tooManyArguments
  | missingArgument
  | unknownFilter
  | unknownFunction
  | unknownTest
  | unknownMethod
  | unknownBlock
  | badEscape
  | undefinedValue
  | cannotUnpack
deriving DecidableEq, Repr

/-- A kind in words. -/
def ErrorKind.name : ErrorKind → Text
  | invalidOperation => "invalid operation"
  | syntaxError => "syntax error"
  | templateNotFound => "template not found"
  | tooManyArguments => "too many arguments"
  | missingArgument => "missing argument"
  | unknownFilter => "unknown filter"
  | unknownFunction => "unknown function"
  | unknownTest => "unknown test"
  | unknownMethod => "unknown method"
  | unknownBlock => "unknown block"
  | badEscape => "bad string escape"
  | undefinedValue => "undefined value"
  | cannotUnpack => "cannot unpack"

/-- Why a template cannot be rendered. -/
structure Error where
  kind : ErrorKind
  detail? : Option Text := none
  line? : Option Nat := none
deriving DecidableEq, Repr

namespace Error

/-- The name under which a template is known that has none of its own. -/
def templateName : Text := "<string>"

/-- An error in words. -/
def summary (e : Error) : Text :=
  let detail : Text :=
    match e.detail? with
    | some detail => ": " ++ detail
    | none => []
  let place : Text :=
    match e.line? with
    | some line => " (in " ++ templateName ++ ":" ++ Text.ofNat line ++ ")"
    | none => []
  e.kind.name ++ detail ++ place

/-- An error in words, as it is reported. -/
def message (e : Error) : Text := "template: " ++ e.summary

/-- An operation that is not possible. -/
def invalid (detail : Text) : Error := { kind := .invalidOperation, detail? := some detail }

/-- A template that is not well-formed. -/
def malformed (detail : Text) : Error := { kind := .syntaxError, detail? := some detail }

/-- An error that came up at a line, unless it already has one. -/
def onLine (line : Nat) (e : Error) : Error := { e with line? := e.line?.or (some line) }

end Error

end PatchTrail.Template
