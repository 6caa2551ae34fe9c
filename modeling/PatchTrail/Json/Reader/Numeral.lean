import PatchTrail.Json.Reader.Basic
import PatchTrail.Width

/-!
# Reading numbers

Digits are taken into a significand as long as it stays below `2^64`; digits beyond that only count
towards the exponent. A number with a fraction, an exponent or too many digits is of double
precision.
-/

namespace PatchTrail.Json.Reader

/-- The first number that is too large for a significand. -/
def significandBound : Nat := Width.bound64

/-- The largest exponent that is told apart from larger ones. -/
def exponentBound : Nat := Width.half32

/-- Takes digits into a number as long as it stays below a bound, and counts them. -/
def takeDigits (bound : Nat) : Text → (value count : Nat) → Nat × Nat × Text
  | [], value, count => (value, count, [])
  | c :: rest, value, count =>
    if c.isDigit then
      let value' := value * 10 + (c.toNat - 48)
      if value' < bound then takeDigits bound rest value' (count + 1)
      else (value, count, c :: rest)
    else (value, count, c :: rest)

/-- A power of ten of double precision. -/
def powerOfTen (n : Nat) : Float := Float.ofScientific 1 false n

/-- Whether a number of double precision is infinite. -/
def isInfinite (x : Float) : Bool := x.toBits &&& 0x7fffffffffffffff == 0x7ff0000000000000

/-- `x · 10 ^ exponent`, or `none` if that is too large. -/
def scale (x : Float) (exponent : Int) : Option Float :=
  if 0 ≤ exponent then
    if exponent ≤ 308 then
      let y := x * powerOfTen exponent.toNat
      if isInfinite y then none else some y
    else if x == 0 then some x
    else none
  else
    let places := (-exponent).toNat
    if places ≤ 308 then some (x / powerOfTen places)
    else if places ≤ 616 then some (x / powerOfTen 308 / powerOfTen (places - 308))
    else some 0

/-- A number of double precision from its parts. -/
def float (negative : Bool) (significand : Nat) (exponent : Int) : Reader Number := fun s =>
  match scale (Float.ofNat significand) exponent with
  | none => failHere .numberOutOfRange s
  | some x => .ok (.decimal (if negative then -x else x), s)

/-- Reads what follows the letter of an exponent. -/
def exponentTail (negative : Bool) (significand : Nat) (before : Int) : Reader Number := fun s =>
  let (down, digits) :=
    match s with
    | '+' :: rest => (false, rest)
    | '-' :: rest => (true, rest)
    | _ => (false, s)
  match digits with
  | [] => failHere .endInValue digits
  | c :: _ =>
    if c.isDigit then
      let (value, _, rest) := takeDigits exponentBound digits 0 0
      match rest with
      | d :: more =>
        if d.isDigit then
          if significand ≠ 0 ∧ ¬ down then failHere .numberOutOfRange more
          else .ok (.decimal (if negative then -0.0 else 0.0), rest.dropWhile Char.isDigit)
        else float negative significand (if down then before - value else before + value) rest
      | [] => float negative significand (if down then before - value else before + value) rest
    else failNext .badNumber digits

/-- Reads an exponent if there is one. -/
def exponentPart (negative : Bool) (significand : Nat) (before : Int) : Reader Number := fun s =>
  match s with
  | 'e' :: rest => exponentTail negative significand before rest
  | 'E' :: rest => exponentTail negative significand before rest
  | _ => float negative significand before s

/-- Reads what follows the point of a fraction. -/
def fractionTail (negative : Bool) (significand : Nat) (before : Int) : Reader Number := fun s =>
  let (value, count, rest) := takeDigits significandBound s significand 0
  let exponent := before - (count : Int)
  match rest with
  | [] => if count = 0 then failHere .endInValue [] else float negative value exponent []
  | c :: _ =>
    if c.isDigit then exponentPart negative value exponent (rest.dropWhile Char.isDigit)
    else if count = 0 then failNext .badNumber rest
    else exponentPart negative value exponent rest

/-- Reads what may follow the digits before the point. `dropped` digits did not fit. -/
def afterDigits (negative : Bool) (significand dropped : Nat) : Reader Number := fun s =>
  match s with
  | '.' :: rest => fractionTail negative significand dropped rest
  | 'e' :: rest => exponentTail negative significand dropped rest
  | 'E' :: rest => exponentTail negative significand dropped rest
  | _ =>
    if dropped ≠ 0 then float negative significand dropped s
    else if ¬ negative then .ok (.integer significand, s)
    else if significand = 0 ∨ Width.half64 < significand then
      .ok (.decimal (-Float.ofNat significand), s)
    else .ok (.integer (-significand), s)

/-- Reads a number behind its sign. -/
def numeral (negative : Bool) : Reader Number := fun s =>
  match s with
  | [] => failHere .endInValue s
  | '0' :: rest =>
    match rest with
    | c :: _ => if c.isDigit then failNext .badNumber rest else afterDigits negative 0 0 rest
    | [] => afterDigits negative 0 0 rest
  | c :: _ =>
    if c.isDigit then
      let (value, _, rest) := takeDigits significandBound s 0 0
      let after := rest.dropWhile Char.isDigit
      afterDigits negative value (rest.length - after.length) after
    else failNext .badNumber s

/-- Reads a number that begins with a minus sign or a digit. -/
def number : Reader Number := fun s =>
  match s with
  | '-' :: rest => numeral true rest
  | _ => numeral false s

end PatchTrail.Json.Reader
