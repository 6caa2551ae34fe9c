import PatchTrail.Decimal.Numeral
import PatchTrail.Template.Error
import PatchTrail.Template.Token.Basic
import PatchTrail.Width

/-!
# Literals and names

A number may have a base of two, eight or sixteen, underscores between its digits, and in base ten
a fraction and an exponent. Behind a dot it is a position and has digits only. A string stands
between two quotes of the same kind and may have escapes. A name consists of letters, digits and
underscores of the ASCII set.
-/

namespace PatchTrail.Template

/-! ## Numbers -/

/-- How much of a number has been read. -/
inductive NumberPart where
  | radixDigits
  | digits
  | fraction
  | exponent
  | exponentDigits
deriving DecidableEq

/-- The part of a number that a character belongs to, if it belongs to the number at all. A point
belongs to it only in front of a digit. -/
def NumberPart.next? (base : Nat) (part : NumberPart) (c : Char) (following? : Option Char) :
    Option NumberPart :=
  if c = '.' then
    if part = .digits && following?.any Char.isDigit then some .fraction else none
  else if (c = 'e' ∨ c = 'E') ∧ (part = .digits ∨ part = .fraction) then some .exponent
  else if (c = '+' ∨ c = '-') ∧ part = .exponent then some .exponentDigits
  else if c.isDigit then some (if part = .exponent then .exponentDigits else part)
  else if base = 16 ∧ part = .radixDigits ∧ (digitValue? c).any (· < 16) then some part
  else if c = '_' then some part
  else none

/-- The characters of a number, what comes after them, and the part that was reached. -/
def takeNumber (base : Nat) : NumberPart → Text → Text × Text × NumberPart
  | part, [] => ([], [], part)
  | part, c :: rest =>
    match part.next? base c rest.head? with
    | none => ([], c :: rest, part)
    | some part =>
      let (taken, after, part) := takeNumber base part rest
      (c :: taken, after, part)

/-- The base of a number and its text without the mark of the base. -/
def baseOf : Text → Nat × Text
  | '0' :: 'b' :: rest => (2, rest)
  | '0' :: 'B' :: rest => (2, rest)
  | '0' :: 'o' :: rest => (8, rest)
  | '0' :: 'O' :: rest => (8, rest)
  | '0' :: 'x' :: rest => (16, rest)
  | '0' :: 'X' :: rest => (16, rest)
  | t => (10, t)

/-- Reads a number off a text that begins with one. -/
def readNumber (isBehindDot : Bool) (t : Text) : Except Error (Token × Text) := do
  let (base, t) := if isBehindDot then (10, t) else baseOf t
  let start : NumberPart := if base = 10 && !isBehindDot then .digits else .radixDigits
  let (taken, after, part) := takeNumber base start t
  if taken.getLast? = some '_' then
    throw (.malformed "'_' may not occur at end of number")
  let digits := taken.filter (· ≠ '_')
  if part = .digits ∨ part = .radixDigits then
    match Text.toNat? base digits with
    | some n =>
      if n < Width.bound128 then return (.integer n, after)
      else throw (.malformed "invalid integer (too large)")
    | none => throw (.malformed "invalid integer")
  else
    match Decimal.parse? digits with
    | some x => return (.decimal x, after)
    | none => throw (.malformed "invalid float")

/-! ## Strings -/

/-- The characters up to a quote, with their escapes, and what comes after the quote. -/
def takeString (quote : Char) : Text → Option (Text × Text)
  | [] => none
  | '\\' :: c :: rest =>
    (takeString quote rest).map fun (taken, after) => ('\\' :: c :: taken, after)
  | c :: rest =>
    if c = quote then some ([], rest)
    else if c = '\\' then none
    else (takeString quote rest).map fun (taken, after) => (c :: taken, after)

/-- Whether a number is one of the halves of a character outside of the first plane. -/
def isSurrogate (n : Nat) : Bool := decide (0xd800 ≤ n) && decide (n ≤ 0xdfff)

/-- The number of the hexadecimal digits of an escape. A plus sign may stand for the first. -/
def escapedNumber? : Text → Option Nat
  | '+' :: digits => Text.toNat? 16 digits
  | digits => Text.toNat? 16 digits

/-- The character of two halves, if the first is a leading one and the second a trailing one. -/
def pairOf? (lead trail : Nat) : Option Char :=
  if isSurrogate trail ∧ lead < 0xdc00 ∧ 0xdc00 ≤ trail then
    some (Char.ofNat (0x10000 + (lead - 0xd800) * 0x400 + (trail - 0xdc00)))
  else none

/-- The character that an escape of one letter stands for. -/
def escaped? (c : Char) : Option Char :=
  if c = '"' ∨ c = '\\' ∨ c = '/' ∨ c = '\'' then some c
  else if c = 'b' then some '\u0008'
  else if c = 'f' then some '\u000c'
  else if c = 'n' then some '\n'
  else if c = 'r' then some '\r'
  else if c = 't' then some '\t'
  else none

/-- Whether a character is a digit of base eight. -/
def isOctal (c : Char) : Bool := decide ('0' ≤ c) && decide (c ≤ '7')

/-- What an escape stands for. -/
inductive Escaped where
  /-- A number of 16 bits, which can be one of the halves of a character. -/
  | half (n : Nat)
  | whole (t : Text)

/-- Reads an escape off a text that begins behind its backslash: four hexadecimal digits behind
`u`, two behind `x`, up to three digits of base eight, or a letter. What is no escape stays as it
is written. -/
def readEscape? : Text → Option (Escaped × Text)
  | [] => none
  | 'u' :: rest =>
    if rest.length < 4 then none
    else (escapedNumber? (rest.take 4)).map fun n => (.half n, rest.drop 4)
  | 'x' :: rest =>
    if rest.length < 2 then none
    else (escapedNumber? (rest.take 2)).map fun n => (.whole [Char.ofNat n], rest.drop 2)
  | c :: rest =>
    if isOctal c then
      let digits := ((c :: rest).take 3).takeWhile isOctal
      (Text.toNat? 8 digits).map fun n =>
        (.whole [Char.ofNat n], (c :: rest).drop digits.length)
    else some (.whole ((escaped? c).elim ['\\', c] fun ch => [ch]), rest)

/-- A string without its escapes, given the half of a character that has been read before, in at
most `bound` steps. -/
def unescapeWithin : (bound : Nat) → (half? : Option Nat) → Text → Option Text
  | _, none, [] => some []
  | _, some _, [] => none
  | 0, _, _ :: _ => none
  | bound + 1, half?, c :: rest =>
    if c = '\\' then
      match half?, readEscape? rest with
      | _, none => none
      | none, some (.whole t, after) => (unescapeWithin bound none after).map (t ++ ·)
      | some _, some (.whole _, _) => none
      | none, some (.half n, after) =>
        if isSurrogate n then unescapeWithin bound (some n) after
        else (unescapeWithin bound none after).map (Char.ofNat n :: ·)
      | some lead, some (.half n, after) =>
        (pairOf? lead n).bind fun ch => (unescapeWithin bound none after).map (ch :: ·)
    else if half?.isSome then none
    else (unescapeWithin bound none rest).map (c :: ·)

/-- A string without its escapes. -/
def unescape (t : Text) : Except Error Text :=
  match unescapeWithin t.length none t with
  | some s => .ok s
  | none => .error { kind := .badEscape }

/-- The number of line feeds in a text. -/
def feeds (t : Text) : Nat := t.count '\n'

/-- Reads a string off a text that begins behind its first quote. One that does not end is reported
at the end of the text. -/
def readString (line : Nat) (quote : Char) (t : Text) : Except Error (Token × Text) :=
  match takeString quote t with
  | none => .error ((Error.malformed "unexpected end of string").onLine (line + feeds t))
  | some (taken, after) => (unescape taken).map fun s => (.string s, after)

/-! ## Names and signs -/

/-- Whether a character may begin a name. -/
def beginsName (c : Char) : Bool := c = '_' || c.isAlpha

/-- Whether a character may stand in a name behind its first. -/
def continuesName (c : Char) : Bool := c = '_' || c.isAlphanum

/-- Reads a sign off a text, a longer one rather than a shorter one. -/
def readSign? (t : Text) : Option (Sign × Text) :=
  (Sign.long ++ Sign.short).findSome? fun s =>
    (Text.dropPrefix? s.spelling t).map fun rest => (s, rest)

/-- Reads a token off a text inside a block that begins with one, on a line. -/
def readToken (line : Nat) (isBehindDot : Bool) (t : Text) : Except Error (Token × Text) :=
  let unknown : Error := (Error.malformed "unexpected character").onLine line
  match readSign? t with
  | some (s, rest) => .ok (.sign s, rest)
  | none =>
    match t with
    | '\'' :: rest => readString line '\'' rest
    | '"' :: rest => readString line '"' rest
    | c :: rest =>
      if c.isDigit then (readNumber isBehindDot t).mapError (·.onLine line)
      else if beginsName c then
        .ok (.name (c :: rest.takeWhile continuesName), rest.dropWhile continuesName)
      else .error unknown
    | [] => .error unknown

end PatchTrail.Template
