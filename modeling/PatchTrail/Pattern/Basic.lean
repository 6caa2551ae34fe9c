import PatchTrail.Pattern.Meaning
import PatchTrail.Pattern.Reader.Group
import PatchTrail.Pattern.Search
import PatchTrail.Pattern.Size
import PatchTrail.Text.Replace
import PatchTrail.Width

/-!
# Patterns

A pattern is compiled once from its source. It is found in a text at the leftmost position where it
matches, and there the choices written first are preferred. A pattern that is nothing but a text is
looked for as that text.
-/

namespace PatchTrail

/-- A pattern that has been compiled. -/
structure Pattern where
  source : Text
  node : Pattern.Node
  groups : Nat
  names : List (Text × Nat)

namespace Pattern

/-- Why a pattern cannot be used. -/
inductive Error where
  | refused (source : Text) (fault : Fault)
  | tooLarge
deriving DecidableEq, Repr

/-- Why a pattern cannot be used, in words. -/
def Error.message : Error → Text
  | refused source fault => fault.message source
  | tooLarge => "Compiled regex exceeds size limit of " ++ Text.ofNat sizeLimit ++ " bytes."

/-- Compiles a pattern. -/
def compile (source : Text) : Except Error Pattern :=
  match read source with
  | .error fault => .error (.refused source fault)
  | .ok reading =>
    match reading.expr.node {} with
    | .error fault => .error (.refused source fault)
    | .ok (node, _) =>
      if node.isTooLarge then .error .tooLarge
      else .ok { source, node, groups := reading.groups, names := reading.names }

/-- What a match found: the text of each group that took part, the whole match first. -/
structure Captures where
  groups : List (Option Text)
  names : List (Text × Nat)

/-- The matches of a pattern in a text. -/
def matches_ (p : Pattern) (text : Array Char) : List Match :=
  let (first, program) := Program.ofNode p.node
  matchesFrom first program (2 * p.groups + 2) text (text.size + 2) 0 none

/-- Part of a text. -/
def slice (text : Array Char) (start stop : Nat) : Text := (text.extract start stop).toList

/-- What a match found. -/
def Match.captures (p : Pattern) (text : Array Char) (m : Match) : Captures where
  groups :=
    some (slice text m.start m.stop)
      :: (List.range p.groups).map fun i =>
        match m.slots.getD (2 * i + 2) none, m.slots.getD (2 * i + 3) none with
        | some a, some b => some (slice text a b)
        | _, _ => none
  names := p.names

/-- A text with its matches replaced, from a position on. -/
def replaceMatches (text : Array Char) (replacement : Match → Text) :
    (position : Nat) → List Match → Text
  | position, [] => slice text position text.size
  | position, m :: rest =>
    slice text position m.start ++ replacement m ++ replaceMatches text replacement m.stop rest

/-- Whether a pattern matches somewhere in a text. -/
def occursIn (p : Pattern) (t : Text) : Bool :=
  match p.node.literal? with
  | some sought => t.contains sought
  | none => !(matches_ p t.toArray).isEmpty

/-- A text with every match of a pattern replaced by a text that depends on what was found. -/
def replaceAll (p : Pattern) (t : Text) (replacement : Captures → Text) : Text :=
  match p.node.literal? with
  | some sought => t.replaceAll sought (replacement ⟨[some sought], []⟩)
  | none =>
    let text := t.toArray
    replaceMatches text (fun m => replacement (m.captures p text)) 0 (matches_ p text)

/-!
## Replacement templates

In a template, a dollar sign in front of a name or number stands for what a group has found; the
name may be put into braces. A group that is missing or took no part stands for nothing. Two dollar
signs stand for one, and a dollar sign in front of anything else for itself.
-/

/-- Whether a character may stand in a reference without braces. -/
def isReferenceChar (c : Char) : Bool := c.isAlphanum || c = '_'

/-- The group that a reference means: one by its number, or else one by its name. -/
def Captures.lookup (found : Captures) (reference : Text) : Text :=
  let digits :=
    match reference with
    | '+' :: rest => rest
    | _ => reference
  let number? := (Text.toNat? 10 digits).filter (· < Width.bound64)
  let named? := (found.names.find? fun entry => entry.1 == reference).map Prod.snd
  match number?.or named? with
  | some n => (found.groups[n]?.join).getD []
  | none => []

/-- What a template stands for. `skip` counts the characters still to be passed over because they
belong to a reference already dealt with. -/
def expandFrom (found : Captures) : (skip : Nat) → Text → Text
  | _, [] => []
  | skip + 1, _ :: rest => expandFrom found skip rest
  | 0, c :: rest =>
    if c = '$' then
      match rest with
      | '$' :: _ => '$' :: expandFrom found 1 rest
      | '{' :: more =>
        let name := more.takeWhile (· != '}')
        if name.length < more.length then
          found.lookup name ++ expandFrom found (name.length + 2) rest
        else '$' :: expandFrom found 0 rest
      | _ =>
        let name := rest.takeWhile isReferenceChar
        if name = [] then '$' :: expandFrom found 0 rest
        else found.lookup name ++ expandFrom found name.length rest
    else c :: expandFrom found 0 rest

/-- What a template stands for. -/
def expand (template : Text) (found : Captures) : Text := expandFrom found 0 template

end Pattern

end PatchTrail
