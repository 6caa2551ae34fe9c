import PatchTrail.Template.Builtin.Function
import PatchTrail.Template.Value.Object
import PatchTrail.Template.Tree.Names

/-!
# What a template can see while it is rendered

Variables live in frames, of which the innermost comes first: what is assigned goes into it, and
what is looked up comes from the first frame that has it. Under its variables a frame may have the
data that is rendered, or the variables that a macro has kept. A macro keeps the variables around
its declaration, and what is assigned to them in the same frame afterwards.
-/

namespace PatchTrail.Template

/-- What it takes to run through a loop once more with other items. -/
structure Repetition where
  target : Target
  body : List Stmt
  line : Nat

/-- A loop that is being run through. -/
structure RunningLoop where
  /-- The state of the loop as a value, if it can be seen. -/
  state? : Option Value
  depth : Nat
  again? : Option Repetition

/-- What lies under the variables of a frame. -/
inductive Ground where
  | nothing
  | data (v : Value)
  /-- Variables that a macro has kept. -/
  | kept (index : Nat)

/-- Some of the variables that can be seen. -/
structure Frame where
  locals : List (Text × Value) := []
  loop? : Option RunningLoop := none
  ground : Ground := .nothing
  /-- Where the macros that have been declared in the frame keep variables. -/
  keeps? : Option Nat := none

/-- A macro. -/
structure Macro where
  name : Text
  parameters : List Parameter
  body : List Stmt
  line : Nat
  keeps : Nat
  /-- Whether the macro calls the body of its call. -/
  usesCaller : Bool

/-- All that can be seen and changed. -/
structure Scope where
  frames : List Frame
  /-- How deep the frames lie in others that cannot be seen. -/
  outerDepth : Nat := 0
  isEscaping : Bool := false
  block? : Option Text := none
  blocks : List (Text × List Stmt) := []
  kept : Array (List (Text × Value)) := #[]
  macros : Array Macro := #[]
  spaces : Array (List (Value × Value)) := #[]
  /-- The arguments with which loops have last been asked for a change, by the numbers of the
  loops. -/
  changes : List (Nat × List Value) := []
  /-- The next number that no list and no map has yet. -/
  nextId : Nat := 1

/-- Computes something, which may change what can be seen. -/
abbrev Eval := StateT Scope (Except Error)

/-! ## Variables -/

/-- Variables with one of them set. -/
def setVariable (name : Text) (v : Value) (bound : List (Text × Value)) : List (Text × Value) :=
  (name, v) :: bound.filter fun entry => entry.1 != name

namespace Frame

/-- The value of a name in a frame. -/
def find? (kept : Array (List (Text × Value))) (f : Frame) (name : Text) : Option Value :=
  let state? := if name = "loop".toList then f.loop?.bind RunningLoop.state? else none
  let below? :=
    match f.ground with
    | .nothing => none
    | .data v => v.attribute? name
    | .kept i => kept[i]?.bind (·.lookup name)
  ((f.locals.lookup name).or state?).or below?

end Frame

namespace Scope

/-- The value of a name. -/
def find? (s : Scope) (name : Text) : Option Value :=
  (s.frames.findSome? (·.find? s.kept name)).or
    (if Function.isKnown name then some (.function name) else none)

/-- How deep frames are nested. -/
def depth (s : Scope) : Nat := s.outerDepth + s.frames.length

/-- How deep frames can be nested. -/
def maxDepth : Nat := 500

/-- The innermost loop. -/
def loop? (s : Scope) : Option RunningLoop := s.frames.findSome? Frame.loop?

/-- The scope with a change of the innermost frame. -/
def onTop (f : Frame → Frame) (s : Scope) : Scope :=
  match s.frames with
  | [] => s
  | top :: rest => { s with frames := f top :: rest }

/-- Assigns a value to a name in the innermost frame. -/
def assign (name : Text) (v : Value) (s : Scope) : Scope :=
  match s.frames with
  | [] => s
  | top :: rest =>
    { s with
      frames := { top with locals := setVariable name v top.locals } :: rest
      kept := top.keeps?.elim s.kept fun i => s.kept.modify i (setVariable name v) }

/-- Where the macros of the innermost frame keep variables. -/
def keeping (s : Scope) : Nat × Scope :=
  match s.frames with
  | { keeps? := some i, .. } :: _ => (i, s)
  | _ =>
    (s.kept.size,
      { s.onTop fun f => { f with keeps? := some s.kept.size } with kept := s.kept.push [] })

/-- Keeps the values of names for the macros of the innermost frame. -/
def keep (names : List Text) (s : Scope) : Nat × Scope :=
  let (i, s) := s.keeping
  let values := names.foldl
    (fun values name =>
      if (values.lookup name).isSome then values
      else setVariable name ((s.find? name).getD .undefined) values)
    (s.kept[i]?.getD [])
  (i, { s with kept := s.kept.modify i fun _ => values })

/-- Declares a macro. -/
def declare (name : Text) (parameters : List Parameter) (body : List Stmt) (line : Nat)
    (s : Scope) : Value × Scope :=
  let parameterNames := parameters.map Parameter.name
  let names :=
    (namesOfParameters parameters ++ namesOfBody body).eraseDups.filter (!parameterNames.contains ·)
  let (keeps, s) := s.keep (names.filter (· != "caller"))
  let usesCaller := names.contains ("caller" : Text)
  (.ofMacro s.macros.size name parameterNames usesCaller,
    { s with macros := s.macros.push { name, parameters, body, line, keeps, usesCaller } })

/-- A value in which variables that can be changed from everywhere are up to date. -/
def settle (s : Scope) (v : Value) : Value := v.refreshed s.spaces

/-- A value of which the entries are up to date, but not what is in them. -/
def opened (s : Scope) : Value → Value
  | .map id (.space i) es => .map id (.space i) (s.spaces[i]?.getD es)
  | v => v

/-- The attribute of a value. -/
def attribute? (s : Scope) (v : Value) (name : Text) : Option Value := (s.opened v).attribute? name

/-- What a value holds at a key. -/
def part? (s : Scope) (v key : Value) : Option Value := (s.opened v).part? key

/-- Text as a value, which is safe if text is escaped where it is put into the output. -/
def ofOutput (s : Scope) (t : Text) : Value := .text t s.isEscaping

end Scope

namespace Eval

variable {α : Type}

/-- Computes something on a line, on which errors without one are reported. -/
def onLine (line : Nat) (m : Eval α) : Eval α := fun s => (m s).mapError (·.onLine line)

/-- What comes out of a computation that changes nothing. -/
def ofExcept (line : Nat) (r : Except Error α) : Eval α := onLine line (liftM r)

/-- Refuses to go deeper than possible. -/
def checkDepth : Eval Unit := do
  if Scope.maxDepth < (← get).depth then throw (.invalid "recursion limit exceeded")

/-- Computes something in a frame of its own. -/
def within (f : Frame) (m : Eval α) : Eval α := do
  checkDepth
  modify fun s => { s with frames := f :: s.frames }
  let a ← m
  modify fun s => { s with frames := s.frames.tail }
  return a

/-- A value in which variables that can be changed from everywhere are up to date. -/
def settled (v : Value) : Eval Value := return (← get).settle v

/-- Computes something that gives numbers. -/
def numbering (m : Numbering α) : Eval α := fun s =>
  let (a, n) := m s.nextId
  .ok (a, { s with nextId := n })

/-- A value with a number for every list and map in it that has none. -/
def numbered (v : Value) : Eval Value := numbering v.numbered

end Eval

end PatchTrail.Template
