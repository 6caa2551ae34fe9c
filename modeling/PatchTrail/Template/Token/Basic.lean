import PatchTrail.Text.Basic

/-!
# Tokens of a template

A template is text with blocks in it: expressions whose values are put into the text, and
statements. Outside of blocks there is one token for all the text up to the next block.
-/

namespace PatchTrail.Template

/-- Signs that stand for themselves inside blocks. -/
inductive Sign where
  | plus
  | minus
  | times
  | divide
  | floorDivide
  | power
  | modulo
  | dot
  | comma
  | colon
  | tilde
  | assign
  | pipe
  | equal
  | notEqual
  | greater
  | greaterEqual
  | less
  | lessEqual
  | openBracket
  | closeBracket
  | openParen
  | closeParen
  | openBrace
  | closeBrace
deriving DecidableEq, Repr

/-- How a sign is written. -/
def Sign.spelling : Sign → Text
  | plus => "+"
  | minus => "-"
  | times => "*"
  | divide => "/"
  | floorDivide => "//"
  | power => "**"
  | modulo => "%"
  | dot => "."
  | comma => ","
  | colon => ":"
  | tilde => "~"
  | assign => "="
  | pipe => "|"
  | equal => "=="
  | notEqual => "!="
  | greater => ">"
  | greaterEqual => ">="
  | less => "<"
  | lessEqual => "<="
  | openBracket => "["
  | closeBracket => "]"
  | openParen => "("
  | closeParen => ")"
  | openBrace => "\x7b"
  | closeBrace => "\x7d"

/-- Signs of two characters. -/
def Sign.long : List Sign := [floorDivide, power, equal, notEqual, greaterEqual, lessEqual]

/-- Signs of one character. -/
def Sign.short : List Sign :=
  [plus, minus, times, divide, modulo, dot, comma, colon, tilde, assign, pipe, greater, less,
    openBracket, closeBracket, openParen, closeParen, openBrace, closeBrace]

/-- By how much a sign changes the number of open brackets. -/
def Sign.nesting : Sign → Int
  | openBracket => 1
  | openParen => 1
  | openBrace => 1
  | closeBracket => -1
  | closeParen => -1
  | closeBrace => -1
  | _ => 0

/-- A token of a template. -/
inductive Token where
  /-- Text outside of blocks. -/
  | data (t : Text)
  | startExpression
  | endExpression
  | startStatement
  | endStatement
  | name (t : Text)
  | string (t : Text)
  | integer (n : Nat)
  | decimal (x : Float)
  | sign (s : Sign)

/-- What a token is called where another one was asked for. -/
def Token.describe : Token → Text
  | data _ => "template-data"
  | startExpression => "start of variable block"
  | endExpression => "end of variable block"
  | startStatement => "start of block"
  | endStatement => "end of block"
  | name _ => "identifier"
  | string _ => "string"
  | integer _ => "integer"
  | decimal _ => "float"
  | sign s => '`' :: (s.spelling ++ ['`'])

/-- A token and the line on which it begins. -/
structure Placed where
  token : Token
  line : Nat

end PatchTrail.Template
