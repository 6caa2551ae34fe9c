import PatchTrail.Text.Numeral

/-!
# What is wrong with a marked-up document

Markup that never ends, tags that do not match, attributes that are not written as they should be,
and references to characters that cannot be resolved. Positions in a tag are counted in bytes from
behind its opening bracket, positions in a value from its first byte.
-/

namespace PatchTrail.Markup

/-- Why a reference by number is no character. -/
inductive NumberFault where
  | sign
  | noDigits
  | badDigit
  | tooLarge
  | notCharacter (code : Nat)
  | zero
deriving DecidableEq, Repr

/-- Why a reference by number is no character, in words. -/
def NumberFault.message : NumberFault → Text
  | sign => "unexpected number sign"
  | noDigits => "cannot parse integer from empty string"
  | badDigit => "invalid digit found in string"
  | tooLarge => "number too large to fit in target type"
  | notCharacter code => '`' :: Text.ofNat code ++ "` is not a valid codepoint"
  | zero => "0x0 character is not permitted in XML"

/-- What is wrong with a document. -/
inductive Fault where
  | unknownMarkup
  | openTag
  | openComment
  | openInstruction
  | openDoctype
  | openData
  | unnamedDoctype
  | unmatchedEnd (name : Text)
  | mismatchedEnd (expected found : Text)
  | noEquals (position : Nat)
  | noValue (position : Nat)
  | unquotedValue (position : Nat)
  | openValue (position : Nat) (quote : Char)
  | duplicate (position earlier : Nat)
  | openReference (start stop : Nat)
  | badNumber (f : NumberFault)
  | unknownEntity (start stop : Nat) (name : Text)
deriving DecidableEq, Repr

/-- A complaint about one position of a tag. -/
def atPosition (position : Nat) (complaint : Text) : Text :=
  "position " ++ Text.ofNat position ++ ": " ++ complaint

/-- A stretch of a value. -/
def stretch (start stop : Nat) : Text := Text.ofNat start ++ ".." ++ Text.ofNat stop

/-- What is wrong with a document, in words. -/
def Fault.message : Fault → Text
  | unknownMarkup => "syntax error: unknown or missed symbol in markup"
  | openTag => "syntax error: tag not closed: `>` not found before end of input"
  | openComment => "syntax error: comment not closed: `-->` not found before end of input"
  | openInstruction =>
    "syntax error: processing instruction or xml declaration not closed: "
      ++ "`?>` not found before end of input"
  | openDoctype => "syntax error: DOCTYPE not closed: `>` not found before end of input"
  | openData => "syntax error: CDATA not closed: `]]>` not found before end of input"
  | unnamedDoctype =>
    "ill-formed document: `<!DOCTYPE>` declaration does not contain a name of a document type"
  | unmatchedEnd name =>
    "ill-formed document: close tag `</" ++ name ++ ">` does not match any open tag"
  | mismatchedEnd expected found =>
    "ill-formed document: expected `</" ++ expected ++ ">`, but `</" ++ found ++ ">` was found"
  | noEquals position =>
    atPosition position "attribute key must be directly followed by `=` or space"
  | noValue position => atPosition position "`=` must be followed by an attribute value"
  | unquotedValue position =>
    atPosition position "attribute value must be enclosed in `\"` or `'`"
  | openValue position quote =>
    atPosition position ("missing closing quote `" ++ quote :: "` in attribute value".toList)
  | duplicate position earlier =>
    atPosition position
      ("duplicated attribute, previous declaration at position " ++ Text.ofNat earlier)
  | openReference start stop =>
    "Error while escaping character at range " ++ stretch start stop
      ++ ": Cannot find ';' after '&'"
  | badNumber f => "invalid character reference: " ++ f.message
  | unknownEntity start stop name =>
    "at " ++ stretch start stop ++ ": unrecognized entity `" ++ name ++ "`"

end PatchTrail.Markup
