import PatchTrail.Pattern.Program
import PatchTrail.Unicode.Property
import Std.Data.HashSet

/-!
# Searching

A search starts at each position in turn and follows the preferred steps first. A step at a
position that has been tried without success fails again, whatever led there, so no pair of a step
and a position is tried twice; this bounds the search.
-/

namespace PatchTrail.Pattern

open Unicode (Ranges)

/-- The characters of words. -/
def wordChars : Ranges := Ranges.ofHex Unicode.Property.word

/-- Whether a character belongs to words, among ASCII or all characters. -/
def isWordChar (ascii : Bool) (c : Char) : Bool :=
  if c.toNat < 128 then c.isAlphanum || c = '_' else !ascii && wordChars.contains c.toNat

/-- The character before a position. -/
def before? (text : Array Char) (position : Nat) : Option Char :=
  if position = 0 then none else text[position - 1]?

/-- Whether a condition holds at a position of a text. -/
def Look.holds (text : Array Char) (position : Nat) (l : Look) : Bool :=
  let before := before? text position
  let after := text[position]?
  let wordBefore (ascii : Bool) := before.any (isWordChar ascii)
  let wordAfter (ascii : Bool) := after.any (isWordChar ascii)
  match l with
  | start => before.isNone
  | stop => after.isNone
  | startLine => before.all (· == '\n')
  | endLine => after.all (· == '\n')
  | startLineCrlf => before.all fun c => c == '\n' || (c == '\r' && after != some '\n')
  | endLineCrlf => after.all fun c => c == '\r' || (c == '\n' && before != some '\r')
  | boundary ascii => wordBefore ascii != wordAfter ascii
  | noBoundary ascii => wordBefore ascii == wordAfter ascii
  | wordStart ascii => !wordBefore ascii && wordAfter ascii
  | wordEnd ascii => wordBefore ascii && !wordAfter ascii
  | wordStartHalf ascii => !wordBefore ascii
  | wordEndHalf ascii => !wordAfter ascii

/-- The positions noted so far, by slot. -/
abbrev Slots := Array (Option Nat)

/-- A way that has yet to be tried: a step, a position, and what has been noted on the way. -/
structure Way where
  step : Nat
  position : Nat
  slots : Slots

/-- The ways that lead on from a way, the preferred one first; `none` if the text is matched. -/
def Way.next? (program : Program) (text : Array Char) (w : Way) : Option (List Way) :=
  match program[w.step]? with
  | none => some []
  | some s =>
    match s with
    | .done => none
    | .fail => some []
    | .char c next =>
      if text[w.position]? == some c then some [⟨next, w.position + 1, w.slots⟩] else some []
    | .set s next =>
      if text[w.position]?.any fun c => s.contains c.toNat then
        some [⟨next, w.position + 1, w.slots⟩]
      else some []
    | .look l next =>
      if l.holds text w.position then some [⟨next, w.position, w.slots⟩] else some []
    | .save slot next =>
      some [⟨next, w.position, w.slots.setIfInBounds slot (some w.position)⟩]
    | .fork first second =>
      some [⟨first, w.position, w.slots⟩, ⟨second, w.position, w.slots⟩]

/-- Tries some ways, the first first, in at most `bound` rounds. Returns the end of a match and
what was noted, or what has been tried in vain. -/
def tryWays (program : Program) (text : Array Char) :
    (bound : Nat) → List Way → Std.HashSet Nat → (Nat × Slots) ⊕ Std.HashSet Nat
  | 0, _, tried => .inr tried
  | _, [], tried => .inr tried
  | bound + 1, w :: rest, tried =>
    let key := w.step * (text.size + 1) + w.position
    if tried.contains key then tryWays program text bound rest tried
    else
      match w.next? program text with
      | none => .inl (w.position, w.slots)
      | some ways => tryWays program text bound (ways ++ rest) (tried.insert key)

/-- A match: its ends and the positions noted in it. -/
structure Match where
  start : Nat
  stop : Nat
  slots : Slots

/-- Searches from a position on, of which `room` are left. -/
def searchFrom (first : Nat) (program : Program) (slotCount : Nat) (text : Array Char) :
    (room : Nat) → (position : Nat) → Std.HashSet Nat → Option Match
  | 0, _, _ => none
  | room + 1, position, tried =>
    let bound := 2 * program.size * (text.size + 2) + 2
    match tryWays program text bound [⟨first, position, Array.replicate slotCount none⟩] tried with
    | .inl (stop, slots) => some ⟨position, stop, slots⟩
    | .inr tried => searchFrom first program slotCount text room (position + 1) tried

/-- The matches from a position on, at most `bound` of them. A match without characters right
behind the match before it is passed over. -/
def matchesFrom (first : Nat) (program : Program) (slotCount : Nat) (text : Array Char) :
    (bound : Nat) → (position : Nat) → (last? : Option Nat) → List Match
  | 0, _, _ => []
  | bound + 1, position, last? =>
    let search (from_ : Nat) : Option Match :=
      searchFrom first program slotCount text (text.size + 1 - from_) from_ ∅
    let found :=
      match search position with
      | none => none
      | some m =>
        if m.start = m.stop ∧ last? = some m.stop then search (position + 1) else some m
    match found with
    | none => []
    | some m => m :: matchesFrom first program slotCount text bound m.stop (some m.stop)

end PatchTrail.Pattern
