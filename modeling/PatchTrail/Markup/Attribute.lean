import PatchTrail.Markup.Fault
import PatchTrail.Width

/-!
# Attributes

Behind its name a tag has attributes: a key, an equals sign and a value between quotes of either
kind, with blanks around them as one likes. No key may come twice. In the value a character may be
written as a reference, between an ampersand and a semicolon: by its number in decimal or
hexadecimal digits, or by one of five names.
-/

namespace PatchTrail.Markup

/-! ## References to characters -/

/-- Reads digits from the left into a number of at most thirty-two bits. -/
def readNumber (base : Nat) : Text → (value : Nat) → Except NumberFault Nat
  | [], value => .ok value
  | c :: rest, value =>
    match digitValue? c with
    | none => .error .badDigit
    | some d =>
      if d < base then
        let next := value * base + d
        if next < Width.bound32 then readNumber base rest next else .error .tooLarge
      else .error .badDigit

/-- The number that digits stand for. -/
def numberOf (base : Nat) (digits : Text) : Except NumberFault Nat :=
  match digits with
  | [] => .error .noDigits
  | c :: _ => if c = '+' ∨ c = '-' then .error .sign else readNumber base digits 0

/-- The character with a number. -/
def characterOf (code : Nat) : Except NumberFault Char :=
  if code = 0 then .error .zero
  else if code.isValidChar then .ok (Char.ofNat code)
  else .error (.notCharacter code)

/-- The character that a reference by number stands for, from behind its number sign. -/
def numbered (digits : Text) : Except NumberFault Char :=
  match digits with
  | 'x' :: hex => do characterOf (← numberOf 16 hex)
  | _ => do characterOf (← numberOf 10 digits)

/-- The characters that have a name. -/
def entities : List (Text × Char) :=
  [("lt", '<'), ("gt", '>'), ("amp", '&'), ("apos", '\''), ("quot", '"')]

/-- The character that a reference stands for, which reaches from `start` to `stop`. -/
def resolve (start stop : Nat) (reference : Text) : Except Fault Char :=
  match reference with
  | '#' :: digits =>
    match numbered digits with
    | .ok c => .ok c
    | .error f => .error (.badNumber f)
  | _ =>
    match entities.find? fun e => e.1 == reference with
    | some (_, c) => .ok c
    | none => .error (.unknownEntity start stop reference)

/-- Resolves the references of a text that ends `size` bytes behind the beginning of the value.
`skip` counts the characters still to be passed over because they belong to a reference already
resolved. -/
def unescapeFrom (size : Nat) : (skip : Nat) → Text → Except Fault Text
  | _, [] => .ok []
  | skip + 1, _ :: rest => unescapeFrom size skip rest
  | 0, c :: rest =>
    if c = '&' then
      let start := size - Text.size (c :: rest)
      let reference := rest.takeWhile fun d => d != '&' && d != ';'
      if rest[reference.length]? = some ';' then do
        let d ← resolve (start + 1) (start + 1 + Text.size reference) reference
        return d :: (← unescapeFrom size (reference.length + 1) rest)
      else .error (.openReference start size)
    else do return c :: (← unescapeFrom size 0 rest)

/-- The text that a value stands for. -/
def unescape (raw : Text) : Except Fault Text := unescapeFrom raw.size 0 raw

/-! ## The attributes of a tag -/

/-- Whether a character may separate the parts of a tag. -/
def isSpace (c : Char) : Bool := c = ' ' || c = '\r' || c = '\n' || c = '\t'

/-- A key and the text that its value stands for. -/
structure Attribute where
  key : Text
  value : Text
deriving DecidableEq, Repr

/-- Whether a character ends a key. -/
def endsKey (c : Char) : Bool := c = '=' || isSpace c

/-- Reads the attributes of a text that ends `size` bytes behind the beginning of the tag. `seen`
holds the keys so far and their positions, the first first. -/
def attributesFrom (size : Nat) (seen : List (Text × Nat)) (text : Text) :
    Except Fault (List Attribute) :=
  match _hk : text.dropWhile isSpace with
  | [] => .ok []
  | c :: more =>
    let position := size - Text.size (c :: more)
    let key := c :: more.takeWhile (!endsKey ·)
    match _hv : (more.dropWhile (!endsKey ·)).dropWhile isSpace with
    | '=' :: value =>
      match seen.find? fun k => k.1 == key with
      | some (_, earlier) => .error (.duplicate position earlier)
      | none =>
        match _hq : value.dropWhile isSpace with
        | [] => .error (.noValue size)
        | quote :: body =>
          if quote = '"' ∨ quote = '\'' then
            match _hb : body.dropWhile (· != quote) with
            | [] => .error (.openValue size quote)
            | _ :: rest => do
              let value ← unescape (body.takeWhile (· != quote))
              return ⟨key, value⟩ :: (← attributesFrom size (seen ++ [(key, position)]) rest)
          else .error (.unquotedValue (size - Text.size (quote :: body)))
    | rest => .error (.noEquals (size - Text.size rest))
  termination_by text.length
  decreasing_by
    have h₁ := (List.dropWhile_suffix (l := text) isSpace).length_le
    have h₂ := (List.dropWhile_suffix (l := more) (!endsKey ·)).length_le
    have h₃ := (List.dropWhile_suffix (l := more.dropWhile (!endsKey ·)) isSpace).length_le
    have h₄ := (List.dropWhile_suffix (l := value) isSpace).length_le
    have h₅ := (List.dropWhile_suffix (l := body) (· != quote)).length_le
    simp_all
    omega

/-- The attributes of a tag, of which the inside and the length of its name are given. -/
def attributes (content : Text) (nameLength : Nat) : Except Fault (List Attribute) :=
  attributesFrom content.size [] (content.drop nameLength)

end PatchTrail.Markup
