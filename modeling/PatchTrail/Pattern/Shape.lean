import PatchTrail.Pattern.Node
import PatchTrail.Unicode.Ranges

/-!
# Shapes of patterns

The shape of a pattern is its meaning in a form in which as few parts as possible are left: single
characters that follow each other are one text, choices between single characters are one set, what
all choices begin with stands in front of them, and repetitions that change nothing are gone.
-/

namespace PatchTrail.Pattern

open Unicode (Ranges)

/-- A shape. The empty sequence matches the empty text. -/
inductive Shape where
  | text (t : Text)
  | set (s : Ranges)
  | look (l : Look)
  | repetition (least : Nat) (most? : Option Nat) (greedy : Bool) (sub : Shape)
  | group (index : Nat) (sub : Shape)
  | sequence (parts : List Shape)
  | choice (choices : List Shape)

namespace Shape

/-- Whether two shapes are the same. -/
def same : Shape → Shape → Bool
  | text t, text t' => decide (t = t')
  | set s, set s' => decide (s = s')
  | look l, look l' => decide (l = l')
  | repetition least most? greedy sub, repetition least' most?' greedy' sub' =>
    decide (least = least' ∧ most? = most?' ∧ greedy = greedy') && sub.same sub'
  | group index sub, group index' sub' => decide (index = index') && sub.same sub'
  | sequence parts, sequence parts' => sameParts parts parts'
  | choice parts, choice parts' => sameParts parts parts'
  | _, _ => false
where
  /-- Whether the shapes of two lists are the same one by one. -/
  sameParts : List Shape → List Shape → Bool
    | [], [] => true
    | s :: rest, s' :: rest' => s.same s' && sameParts rest rest'
    | _, _ => false

/-- Whether only the empty text can be matched. -/
def isBlank : Shape → Bool
  | text t => t.isEmpty
  | set _ => false
  | look _ => true
  | repetition _ most? _ sub => most?.isSome && sub.isBlank
  | group _ sub => sub.isBlank
  | sequence parts => allBlank parts
  | choice choices => allBlank choices
where
  /-- Whether some parts match the empty text only. -/
  allBlank : List Shape → Bool
    | [] => true
    | s :: rest => s.isBlank && allBlank rest

/-- The least number of characters that are matched, or `none` if it cannot be told, since there is
a part that never matches. -/
def least? : Shape → Option Nat
  | text t => some t.length
  | set s => if s.isEmpty then none else some 1
  | look _ => some 0
  | repetition least _ _ sub => sub.least?.map (least * ·)
  | group _ sub => sub.least?
  | sequence parts => leastSum? parts
  | choice choices => leastOf? choices
where
  /-- The least number of characters that parts match one after the other. -/
  leastSum? : List Shape → Option Nat
    | [] => some 0
    | s :: rest =>
      match s.least?, leastSum? rest with
      | some m, some n => some (m + n)
      | _, _ => none
  /-- The least number of characters that one of some parts matches. -/
  leastOf? : List Shape → Option Nat
    | [] => none
    | [s] => s.least?
    | s :: rest =>
      match s.least?, leastOf? rest with
      | some m, some n => some (min m n)
      | _, _ => none

/-! ## Putting shapes together -/

/-- The parts of a shape that follow each other. -/
def parts : Shape → List Shape
  | sequence ps => ps
  | s => [s]

/-- Puts a part in front of others. Texts are joined. -/
def consPart : Shape → List Shape → List Shape
  | text t, text t' :: rest => text (t ++ t') :: rest
  | s, rest => s :: rest

/-- Shapes that follow each other. -/
def ofParts (shapes : List Shape) : Shape :=
  match (shapes.flatMap parts).foldr consPart [] with
  | [s] => s
  | ps => sequence ps

/-- The set of a shape that matches exactly one character, either only such that are written as
themselves or only such that are written as sets. -/
def single? (written : Bool) : Shape → Option Ranges
  | text [c] => if written then some #[(c.toNat, c.toNat)] else none
  | set s => if written then none else some s
  | _ => none

/-- The set of a list of shapes that each match exactly one character. -/
def singles? (written : Bool) : List Shape → Option Ranges
  | [] => some #[]
  | s :: rest =>
    match s.single? written, singles? written rest with
    | some a, some b => some (Ranges.union a b)
    | _, _ => none

/-- How many parts two lists have in common at their beginnings. -/
def sharedLength : List Shape → List Shape → Nat
  | s :: rest, s' :: rest' => if s.same s' then sharedLength rest rest' + 1 else 0
  | _, _ => 0

/-- How many parts all choices begin with. Choices that are not sequences share none. -/
def sharedPrefix (choices : List Shape) : Nat :=
  match choices with
  | sequence first :: rest =>
    rest.foldl
      (fun shared s =>
        match s with
        | sequence ps => min shared (sharedLength first ps)
        | _ => 0)
      first.length
  | _ => 0

/-- The choices that shapes are together. -/
def choicesOf : Shape → List Shape
  | choice cs => cs
  | s => [s]

/-- A choice between shapes; `rounds` bounds how often a common beginning is taken out. -/
def ofChoices : (rounds : Nat) → List Shape → Shape
  | 0, shapes => choice shapes
  | rounds + 1, shapes =>
    match shapes.flatMap choicesOf with
    | [] => set #[]
    | [s] => s
    | cs =>
      match (singles? true cs).or (singles? false cs) with
      | some s => set s
      | none =>
        match sharedPrefix cs with
        | 0 => choice cs
        | shared + 1 =>
          let front := (cs.head?.map parts).getD []
          ofParts
            (front.take (shared + 1)
              ++ [ofChoices rounds (cs.map fun s => ofParts (s.parts.drop (shared + 1)))])

/-- A repetition of a shape. -/
def ofRepetition (least : Nat) (most? : Option Nat) (greedy : Bool) (sub : Shape) : Shape :=
  let (least, most?) :=
    if sub.isBlank then (min least 1, some (min (most?.getD 1) 1)) else (least, most?)
  if most? = some 0 then sequence []
  else if least = 1 ∧ most? = some 1 then sub
  else repetition least most? greedy sub

/-- A set of characters. A set of one character is a text. -/
def ofSet (s : Ranges) : Shape :=
  match s.toList with
  | [(low, high)] => if low = high then text [Char.ofNat low] else set s
  | _ => set s

end Shape

/-- The shape of a meaning. -/
def Node.shape : Node → Shape
  | empty => .sequence []
  | literal c => .text [c]
  | set s => .ofSet s
  | look l => .look l
  | repetition least most? greedy sub => .ofRepetition least most? greedy sub.shape
  | group index sub => .group index sub.shape
  | sequence parts => .ofParts (shapes parts)
  | choice choices =>
    let ss := shapes choices
    .ofChoices (ss.length + 1) ss
where
  /-- The shapes of some meanings. -/
  shapes : List Node → List Shape
    | [] => []
    | n :: rest => n.shape :: shapes rest

end PatchTrail.Pattern
