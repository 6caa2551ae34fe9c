import PatchTrail.Json.Reader.Basic
import PatchTrail.Text.Numeral

/-!
# Reading texts between quotes

An escape of the form `\u` gives a character by four hexadecimal digits, or a pair of such escapes
gives one by its two surrogates. Surrogates that make no pair are refused.
-/

namespace PatchTrail.Json.Reader

/-- The character that a letter stands for behind a backslash. -/
def shortEscape? (c : Char) : Option Char :=
  match c with
  | '"' => some '"'
  | '\\' => some '\\'
  | '/' => some '/'
  | 'b' => some '\u0008'
  | 'f' => some '\u000c'
  | 'n' => some '\n'
  | 'r' => some '\r'
  | 't' => some '\t'
  | _ => none

/-- The number that four hexadecimal digits stand for. -/
def unit? (a b c d : Char) : Option Nat := Text.toNat? 16 [a, b, c, d]

/-- Whether a number is the first of two surrogates. -/
def isLeading (n : Nat) : Bool := 0xd800 ≤ n && n ≤ 0xdbff

/-- Whether a number is the second of two surrogates. -/
def isTrailing (n : Nat) : Bool := 0xdc00 ≤ n && n ≤ 0xdfff

/-- The character that two surrogates stand for. -/
def combine (leading trailing : Nat) : Char :=
  Char.ofNat (0x10000 + (leading - 0xd800) * 0x400 + (trailing - 0xdc00))

/-- A fault in a text between quotes, with so many bytes left. -/
def faultAt (m : Malformed) (left : Nat) : Fault := .placed (.malformed m) left

/-- The fault of an escape that has no four hexadecimal digits. -/
def badUnit (s : Text) : Fault :=
  if s.size < 4 then faultAt .endInString 0 else faultAt .badEscape (s.size - 4)

/-- The fault of a first surrogate that is not followed by a whole escape. -/
def badPair : Text → Fault
  | [] => faultAt .endInString 0
  | '\\' :: [] => faultAt .endInString 0
  | '\\' :: 'u' :: rest => badUnit rest
  | '\\' :: c :: rest => faultAt .unfinishedSurrogate (Text.size (c :: rest) - 1)
  | c :: rest => faultAt .unfinishedSurrogate (Text.size (c :: rest) - 1)

/-- Puts a character in front of what was read. -/
def consRead (c : Char) : Except Fault (Text × Text) → Except Fault (Text × Text)
  | .ok (t, rest) => .ok (c :: t, rest)
  | .error f => .error f

/-- Reads a text up to its closing quote. -/
def quotedTail : Text → Except Fault (Text × Text)
  | [] => .error (faultAt .endInString 0)
  | '"' :: rest => .ok ([], rest)
  | '\\' :: rest =>
    match rest with
    | [] => .error (faultAt .endInString 0)
    | 'u' :: a :: b :: c :: d :: more =>
      match unit? a b c d with
      | none => .error (badUnit (a :: b :: c :: d :: more))
      | some n =>
        if isTrailing n then .error (faultAt .loneSurrogate (Text.size more))
        else if isLeading n then
          match more with
          | '\\' :: 'u' :: e :: f :: g :: h :: most =>
            match unit? e f g h with
            | none => .error (badUnit (e :: f :: g :: h :: most))
            | some m =>
              if isTrailing m then consRead (combine n m) (quotedTail most)
              else .error (faultAt .loneSurrogate (Text.size most))
          | _ => .error (badPair more)
        else consRead (Char.ofNat n) (quotedTail more)
    | 'u' :: more => .error (badUnit more)
    | e :: more =>
      match shortEscape? e with
      | some c => consRead c (quotedTail more)
      | none => .error (faultAt .badEscape (Text.size (e :: more) - 1))
  | c :: rest =>
    if c.toNat < 0x20 then .error (faultAt .controlCharacter (Text.size rest))
    else consRead c (quotedTail rest)

/-- Reads a text behind its opening quote. -/
def quoted : Reader Text := quotedTail

end PatchTrail.Json.Reader
