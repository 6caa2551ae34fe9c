import PatchTrail.Pattern.Shape
import PatchTrail.Unicode.Ranges

/-!
# How large a compiled pattern is

A compiled pattern consists of states, which read bytes: each takes a fixed number of bytes, and
more for every way on from it. A pattern is compiled twice, for reading forwards and for reading
backwards, and neither may be too large. The size of a repetition follows from that of its part, so
that nothing has to be compiled to know it.
-/

namespace PatchTrail.Pattern

open Unicode (Ranges)

/-- The bytes of a state. -/
def stateSize : Nat := 32

/-- The bytes of a way on from a state without reading anything. -/
def linkSize : Nat := 4

/-- The bytes of a way on from a state by reading one of some bytes. -/
def stepSize : Nat := 8

/-- The size of a part, and whether the state at its end is one from which several ways lead on, so
that the way to what follows is counted too. -/
structure Size where
  bytes : Nat
  endsOpen : Bool := false
deriving DecidableEq, Repr

/-- The bytes of the way from the end of a part to what follows. -/
def Size.link (s : Size) : Nat := if s.endsOpen then linkSize else 0

/-! ## Sets of characters -/

/-- How many intervals two sequences have in common at their beginnings. -/
def sharedSteps : List (Nat × Nat) → List (Nat × Nat) → Nat
  | r :: rest, r' :: rest' => if r = r' then sharedSteps rest rest' + 1 else 0
  | _, _ => 0

/-- The states for sequences of which neighbours share their beginnings; `before` is the sequence in
front of them. -/
def newSteps (before : List (Nat × Nat)) : List (List (Nat × Nat)) → Nat
  | [] => 0
  | s :: rest => s.length - sharedSteps before s + newSteps s rest

/-- The bytes of a set for reading backwards: a choice between its sequences. -/
def backwardSetSize (s : Ranges) : Nat :=
  let sequences := s.sequences
  2 * stateSize + newSteps [] sequences * stateSize + sequences.length * linkSize

/-- A state for reading forwards: the intervals of bytes, and the number of the state that each
leads to, if it does not lead to the end. -/
abbrev Branches := List ((Nat × Nat) × Option Nat)

/-- The number of a state among others, to which it is added if it is new. -/
def intern (state : Branches) (states : Array Branches) : Nat × Array Branches :=
  match states.idxOf? state with
  | some i => (i, states)
  | none => (states.size, states.push state)

/-- The state from which sequences lead to the end, and all states so far. Sequences with a common
beginning stand side by side; `depth` bounds their length. -/
def forwardState : (depth : Nat) → List (List (Nat × Nat)) → Array Branches → Nat × Array Branches
  | 0, _, states => intern [] states
  | depth + 1, sequences, states =>
    let runs := sequences.splitBy fun s s' => s.head? == s'.head?
    let (branches, states) :=
      runs.foldl
        (fun (branches, states) run =>
          match run with
          | (r :: next :: rest) :: others =>
            let (i, states) :=
              forwardState depth ((next :: rest) :: others.map List.tail) states
            (branches ++ [(r, some i)], states)
          | (r :: []) :: _ => (branches ++ [(r, none)], states)
          | _ => (branches, states))
        (([] : Branches), states)
    intern branches states

/-- The bytes of a set for reading forwards: its sequences share their ends too. -/
def forwardSetSize (s : Ranges) : Nat :=
  let (_, states) := forwardState 4 s.sequences #[]
  states.foldl (fun size branches => size + stateSize + branches.length * stepSize) stateSize

/-- The bytes of a set. -/
def setSize (backward : Bool) (s : Ranges) : Nat :=
  if s.isBelow 128 then 2 * stateSize + s.size * stepSize
  else if backward then backwardSetSize s
  else forwardSetSize s

/-! ## Choices between texts -/

/-- The bytes of a text in the order in which they are read. -/
def readBytes (backward : Bool) (t : Text) : List UInt8 :=
  let bytes := (String.ofList t).toUTF8.toList
  if backward then bytes.reverse else bytes

/-- Cuts a list of texts where one of them has ended. What ends before anything leads on counts only
once. -/
def cutAtEnds (texts : List (List UInt8)) : List (List (List UInt8)) :=
  let step (done : List (List (List UInt8))) (t : List UInt8) : List (List (List UInt8)) :=
    match t, done with
    | [], _ => if 1 < done.length ∧ done.all List.isEmpty then done else [] :: done
    | _, group :: before => (group ++ [t]) :: before
    | _, [] => [[t]]
  (texts.foldl step [[]]).reverse

/-- The bytes of the states that choose between texts that have been read up to some place. Between
two ends each byte leads on once. `depth` bounds the length of the texts. -/
def choiceSize : (depth : Nat) → List (List UInt8) → Nat
  | 0, _ => 0
  | depth + 1, texts =>
    let groups := cutAtEnds texts
    let ofGroup (group : List (List UInt8)) : Nat :=
      let firsts := (group.filterMap List.head?).eraseDups
      let step :=
        match firsts.length with
        | 0 => 0
        | 1 => stateSize + linkSize
        | n => stateSize + n * stepSize + linkSize
      firsts.foldl
        (fun size b =>
          let tails := group.filterMap fun t => if t.head? = some b then t.tail? else none
          if tails.all List.isEmpty then size else size + choiceSize depth tails)
        step
    groups.foldl (fun size group => size + ofGroup group)
      (stateSize + (groups.length - 1) * linkSize)

/-- The texts of shapes, if all of them are texts. -/
def textsOf? : List Shape → Option (List Text)
  | [] => some []
  | .text t :: rest => (textsOf? rest).map (t :: ·)
  | _ => none

/-! ## Shapes -/

/-- The size of so many copies of a part, one after the other. -/
def Size.times (s : Size) : (count : Nat) → Size
  | 0 => { bytes := stateSize }
  | count + 1 => { s with bytes := (count + 1) * s.bytes + count * s.link }

/-- The size of a repetition of a part; `isEager` says that the part always takes a character. -/
def Size.repeated (s : Size) (isEager : Bool) (least : Nat) (most? : Option Nat) : Size :=
  match most? with
  | none =>
    match least with
    | 0 =>
      if isEager then { bytes := s.bytes + stateSize + linkSize + s.link, endsOpen := true }
      else { bytes := s.bytes + 3 * stateSize + 4 * linkSize + s.link }
    | 1 => { bytes := s.bytes + s.link + stateSize + linkSize, endsOpen := true }
    | least + 1 =>
      let front := s.times least
      { bytes := front.bytes + front.link + s.bytes + s.link + stateSize + linkSize
        endsOpen := true }
  | some most =>
    if most ≤ least then s.times least
    else if least = 0 ∧ most = 1 then
      { bytes := s.bytes + s.link + 2 * stateSize + 2 * linkSize }
    else
      let front := s.times least
      let choice := stateSize + 2 * linkSize + s.bytes + s.link
      { bytes := front.bytes + front.link + stateSize + (most - least) * choice }

/-- The size of a shape. -/
def Shape.size (backward : Bool) : Shape → Size
  | text t => { bytes := (readBytes backward t).length * stateSize }
  | set s => { bytes := setSize backward s }
  | look _ => { bytes := stateSize }
  | repetition least most? _ sub =>
    (sub.size backward).repeated (sub.least?.any fun n => decide (0 < n)) least most?
  | group _ sub =>
    let s := sub.size backward
    if backward then s else { bytes := s.bytes + s.link + 2 * stateSize }
  | sequence [] => { bytes := stateSize }
  | sequence parts =>
    let (bytes, last) := inSequence backward parts
    { last with bytes }
  | choice choices =>
    match textsOf? choices with
    | some ts =>
      let texts := ts.map (readBytes backward)
      { bytes := stateSize + choiceSize (texts.foldl (fun n t => max n t.length) 0 + 1) texts }
    | none =>
      { bytes := inChoice backward choices + 2 * stateSize + choices.length * linkSize }
where
  /-- The bytes of parts one after the other, and the size of the one that is read last. -/
  inSequence (backward : Bool) : List Shape → Nat × Size
    | [] => (0, { bytes := 0 })
    | [s] =>
      let size := s.size backward
      (size.bytes, size)
    | s :: rest =>
      let size := s.size backward
      let (bytes, last) := inSequence backward rest
      if backward then (size.bytes + last.link + bytes, size)
      else (size.bytes + size.link + bytes, last)
  /-- The bytes of choices without the states that choose. -/
  inChoice (backward : Bool) : List Shape → Nat
    | [] => 0
    | s :: rest =>
      let size := s.size backward
      size.bytes + size.link + inChoice backward rest

/-- Whether every match begins, or ends if it is read backwards, at that end of the text. -/
def Shape.isAnchored (backward : Bool) : Shape → Bool
  | text _ => false
  | set _ => false
  | look l => decide (l = if backward then .stop else .start)
  | repetition least _ _ sub => decide (0 < least) && sub.isAnchored backward
  | group _ sub => sub.isAnchored backward
  | sequence parts => inSequence backward parts
  | choice choices => inChoice backward choices
where
  /-- Whether one of some parts is anchored from which only empty ones divide the end. -/
  inSequence (backward : Bool) : List Shape → Bool
    | [] => false
    | s :: rest =>
      if backward then
        inSequence backward rest || (s.isAnchored backward && Shape.isBlank.allBlank rest)
      else s.isAnchored backward || (s.isBlank && inSequence backward rest)
  /-- Whether all choices are anchored. -/
  inChoice (backward : Bool) : List Shape → Bool
    | [] => true
    | s :: rest => s.isAnchored backward && inChoice backward rest

/-- The bytes of a compiled pattern for reading in a direction. It passes over the text in front of
the match, unless that is always empty; what is matched as a whole is a group for reading forwards;
and there is a last state. -/
def Shape.compiledSize (backward : Bool) (s : Shape) : Nat :=
  let front :=
    if s.isAnchored backward then stateSize
    else 3 * stateSize + 2 * linkSize + stepSize
  let size := s.size backward
  let whole := if backward then size.bytes else size.bytes + 2 * stateSize
  front + whole + size.link + stateSize

/-- How many bytes a compiled pattern may take. -/
def sizeLimit : Nat := 10485760

/-- Whether a compiled pattern would be too large. -/
def Node.isTooLarge (n : Node) : Bool :=
  let s := n.shape
  decide (sizeLimit < s.compiledSize false ∨ sizeLimit < s.compiledSize true)

end PatchTrail.Pattern
