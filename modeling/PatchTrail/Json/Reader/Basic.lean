import PatchTrail.Json.Fault

/-!
# Reading a document from the left

A reader takes something off the front of a text and returns it with what is left. It fails with a
fault that says how much of the document was left at its place, or, if a mismatch has no place yet,
with the text that was left; the array or object around it then gives it a place (`Fault.settle`).
-/

namespace PatchTrail.Json

/-- Why a reader failed. -/
inductive Fault where
  /-- The problem lies where `left` bytes of the document are left. -/
  | placed (problem : Problem) (left : Nat)
  /-- The problem has no place yet; reading stopped in front of `rest`. -/
  | loose (problem : Problem) (rest : Text)

/-- Takes a value off the front of a text. -/
abbrev Reader := StateT Text (Except Fault)

namespace Reader

variable {α : Type}

/-- Fails in front of what is left. -/
def failHere (m : Malformed) : Reader α := fun s => .error (.placed (.malformed m) s.size)

/-- Fails right behind the next byte. -/
def failNext (m : Malformed) : Reader α := fun s => .error (.placed (.malformed m) (s.size - 1))

/-- Fails with a mismatch that has no place yet. -/
def failLoose (m : Mismatch) : Reader α := fun s => .error (.loose (.mismatch m) s)

/-- Fails with a mismatch in front of what is left. -/
def failShape (m : Mismatch) : Reader α := fun s => .error (.placed (.mismatch m) s.size)

/-- Whether a character may stand between the tokens of a document. -/
def isSpace (c : Char) : Bool := c = ' ' || c = '\n' || c = '\t' || c = '\r'

/-- Passes over spaces and returns the character after them. -/
def next? : Reader (Option Char) := fun s =>
  let rest := s.dropWhile isSpace
  .ok (rest.head?, rest)

/-- Passes over one character. -/
def advance : Reader Unit := fun s => .ok ((), s.tail)

/-- Reads the rest of a word. -/
def word : Text → Reader Unit
  | [], s => .ok ((), s)
  | _ :: _, [] => .error (.placed (.malformed .endInValue) 0)
  | e :: es, c :: rest =>
    if c = e then word es rest else failNext .noWord (c :: rest)

end Reader

/-- Gives a place to a problem that has none, in front of what `close` leaves. -/
def Fault.settle (close : Text → Text) : Fault → Fault
  | placed p left => .placed p left
  | loose p rest => .placed p (close rest).size

/-- The error that a fault is in a document. -/
def Fault.toError (document : Text) : Fault → Error
  | placed p left => ⟨p, some (Place.before document left)⟩
  | loose p _ => ⟨p, none⟩

end PatchTrail.Json
