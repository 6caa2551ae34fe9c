import PatchTrail.Json.Printer
import PatchTrail.Json.Reader.Shape
import PatchTrail.Json.Shape
import PatchTrail.Registry.Basic

/-!
# Runs

A run applies the patches of a registry in the order of their names, except those that the settings
leave out. The first patch that fails ends the run; what was done before stays.

The settings say which patches to leave out and how many unchanged lines to show around each change.
A setting that is left out has its default.
-/

namespace PatchTrail.Run

/-! ## Settings -/

open Json (Value)

/-- What a run is to leave out and how it shows changes. -/
structure Config where
  skip : List Text := []
  contextLines : Nat := 3
deriving DecidableEq, Repr

namespace Config

/-- The name of the setting that says what to leave out. -/
def skipName : Text := "skip"

/-- The name of the setting that says how many lines to show. -/
def contextLinesName : Text := "context_lines"

/-- What settings are called where they were asked for and something else was found. -/
def kind : Text := "ApplyConfig"

/-- Reads a document that holds settings. -/
def parse (document : Text) : Except Json.Error Config := do
  let (skip, contextLines) ← Json.Reader.document
    (Json.Reader.record2 kind
      { name := skipName
        read := Json.Reader.list fun _ => Json.Reader.text
        fallback? := some [] }
      { name := contextLinesName
        read := fun _ => Json.Reader.natural
        fallback? := some 3 }) document
  return { skip, contextLines }

/-- Decodes settings from a value. -/
def decode (v : Value) : Except Json.Mismatch Config := do
  let (skip, contextLines) ← Json.record2 ("struct " ++ kind)
    { name := skipName, decode := Json.asList Json.asText, fallback? := some [] }
    { name := contextLinesName, decode := Json.asNatural, fallback? := some 3 } v
  return { skip, contextLines }

/-- Settings as a value. -/
def toJson (c : Config) : Value :=
  .object
    [(skipName, .array (c.skip.map .string)), (contextLinesName, .number (.integer c.contextLines))]

end Config

/-! ## Runs -/

/-- The names of the patches that a run has applied and of those that it has left out. -/
structure Summary where
  applied : List Text := []
  skipped : List Text := []
deriving DecidableEq, Repr

/-- Applies patches one after the other, given what has been done before. -/
def applyAll (skip : List Text) (done : Summary) : List Patch → Change Patch.Error Summary
  | [] => return done
  | p :: rest => do
    if p.name ∈ skip then applyAll skip { done with skipped := done.skipped ++ [p.name] } rest
    else
      p.apply
      applyAll skip { done with applied := done.applied ++ [p.name] } rest

/-- Applies the patches of a registry below a directory, with a trail that is begun before. -/
def apply (registry : Registry) (config : Config) (root : Text) (disk : Disk) (trail : Trail) :
    EStateM.Result Patch.Error WorkTree Summary :=
  applyAll config.skip {} registry.patches
    { root, disk, trail, renderer := { contextLines := config.contextLines } }

end PatchTrail.Run
