import PatchTrail.Pattern.Node

/-!
# Matching programs

A meaning is turned into a graph of small steps. It is built from the end: `Program.compile` gets
the number of the step that follows and returns the number of the first step. Where a step has two
followers the first is preferred.
-/

namespace PatchTrail.Pattern

/-- A step of a program; the numbers are those of the steps that follow. -/
inductive Step where
  /-- The text has been matched. -/
  | done
  /-- No text is matched. -/
  | fail
  /-- Takes a given character. -/
  | char (c : Char) (next : Nat)
  /-- Takes a character of a set. -/
  | set (s : Unicode.Ranges) (next : Nat)
  /-- Goes on if a condition holds. -/
  | look (l : Look) (next : Nat)
  /-- Notes the position in a slot. -/
  | save (slot next : Nat)
  /-- Goes on at one of two steps. -/
  | fork (first second : Nat)

/-- A program: its steps by number. -/
abbrev Program := Array Step

namespace Program

/-- Appends a step and returns its number. -/
def add (p : Program) (s : Step) : Nat × Program := (p.size, p.push s)

/-- A fork that prefers to go into a repetition, or out of it. -/
def forkTo (greedy : Bool) (body exit : Nat) : Step :=
  if greedy then .fork body exit else .fork exit body

/-- Appends the same part several times. -/
def times (part : Nat → Program → Nat × Program) : (count : Nat) → Nat → Program → Nat × Program
  | 0, next, p => (next, p)
  | count + 1, next, p =>
    let (start, p) := part next p
    times part count start p

/-- Appends a part that may be left out, several times, each inside the one before. -/
def optionals (part : Nat → Program → Nat × Program) (greedy : Bool) (exit : Nat) :
    (count : Nat) → Nat → Program → Nat × Program
  | 0, next, p => (next, p)
  | count + 1, next, p =>
    let (body, p) := part next p
    let (start, p) := p.add (forkTo greedy body exit)
    optionals part greedy exit count start p

/-- Appends a part that is repeated at least once. The fork behind it leads back. -/
def loop (part : Nat → Program → Nat × Program) (greedy : Bool) (exit : Nat) (p : Program) :
    Nat × Program :=
  let (fork, p) := p.add .fail
  let (body, p) := part fork p
  (body, p.setIfInBounds fork (forkTo greedy body exit))

/-- Appends a part that is repeated any number of times. If every repetition takes a character,
the fork that leads back is also the way in; otherwise there is a fork in front. -/
def star (part : Nat → Program → Nat × Program) (consumes greedy : Bool) (exit : Nat)
    (p : Program) : Nat × Program :=
  if consumes then
    let (fork, p) := p.add .fail
    let (body, p) := part fork p
    (fork, p.setIfInBounds fork (forkTo greedy body exit))
  else
    let (body, p) := loop part greedy exit p
    p.add (forkTo greedy body exit)

/-- Appends the steps of a meaning in front of a step, and returns the number of the first. -/
def compile : Node → (next : Nat) → Program → Nat × Program
  | .empty, next, p => (next, p)
  | .literal c, next, p => p.add (.char c next)
  | .set s, next, p => p.add (.set s next)
  | .look l, next, p => p.add (.look l next)
  | .repetition least most? greedy sub, next, p =>
    match most?, least with
    | none, 0 => star (compile sub) sub.consumes greedy next p
    | none, least + 1 =>
      let (start, p) := loop (compile sub) greedy next p
      times (compile sub) least start p
    | some most, least =>
      let (start, p) := optionals (compile sub) greedy next (most - least) next p
      times (compile sub) least start p
  | .group index sub, next, p =>
    let (stop, p) := p.add (.save (2 * index + 1) next)
    let (start, p) := compile sub stop p
    p.add (.save (2 * index) start)
  | .sequence parts, next, p => compileParts parts next p
  | .choice choices, next, p => compileChoices choices next p
where
  /-- Appends the steps of parts in sequence. -/
  compileParts : List Node → (next : Nat) → Program → Nat × Program
    | [], next, p => (next, p)
    | n :: rest, next, p =>
      let (start, p) := compileParts rest next p
      compile n start p
  /-- Appends the steps of choices, the first of which is preferred. -/
  compileChoices : List Node → (next : Nat) → Program → Nat × Program
    | [], _, p => p.add .fail
    | [n], next, p => compile n next p
    | n :: m :: rest, next, p =>
      let (second, p) := compileChoices (m :: rest) next p
      let (first, p) := compile n next p
      p.add (.fork first second)

/-- The program of a meaning, and the number of its first step. -/
def ofNode (n : Node) : Nat × Program := compile n 0 #[.done]

end Program

end PatchTrail.Pattern
