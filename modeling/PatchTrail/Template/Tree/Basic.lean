import PatchTrail.Template.Arithmetic

/-!
# Templates as trees

Expressions have values; statements have the text that they leave in the output, and may change
variables. Every part knows the line on which it begins. Every block has a name of its own, under
which it can also be shown elsewhere.
-/

namespace PatchTrail.Template

mutual

/-- An expression. -/
inductive Expr where
  /-- A value. It has no line if it stands for a part that has been left out. -/
  | literal (v : Value) (line? : Option Nat)
  | name (name : Text) (line : Nat)
  | list (items : List Expr) (line : Nat)
  | map (entries : List (Expr × Expr)) (line : Nat)
  | negate (e : Expr) (line : Nat)
  | complement (e : Expr) (line : Nat)
  | binary (op : Operator) (left right : Expr) (line : Nat)
  /-- Whether each comparison holds between an operand and the next one. -/
  | comparison (first : Expr) (links : List (Comparison × Expr)) (line : Nat)
  /-- The left operand if it is false, otherwise the right one. -/
  | both (left right : Expr) (line : Nat)
  /-- The left operand if it is true, otherwise the right one. -/
  | either (left right : Expr) (line : Nat)
  | choice (test yes no : Expr) (line : Nat)
  | field (e : Expr) (name : Text) (line : Nat)
  | item (e key : Expr) (line : Nat)
  | slice (e start stop step : Expr) (line : Nat)
  | filter (e : Expr) (name : Text) (arguments : List Argument) (line : Nat)
  | test (e : Expr) (name : Text) (arguments : List Argument) (line : Nat)
  | call (callee : Expr) (arguments : List Argument) (line : Nat)

/-- An argument of a call. -/
inductive Argument where
  | positional (e : Expr)
  /-- All items of a list as arguments. -/
  | spread (e : Expr)
  | named (name : Text) (e : Expr)
  /-- All entries of a map as named arguments. -/
  | spreadNamed (e : Expr)

end

namespace Expr

/-- What an expression is called where it cannot stand. -/
def describe : Expr → Text
  | literal _ _ => "constant"
  | name _ _ => "variable"
  | list _ _ => "list literal"
  | map _ _ => "map literal"
  | filter _ _ _ _ => "filter expression"
  | test _ _ _ _ => "test expression"
  | call _ _ _ => "call"
  | _ => "expression"

/-- Whether an expression is a value as it is written. -/
def isLiteral : Expr → Bool
  | literal _ _ => true
  | _ => false

end Expr

/-- Whether an argument has a name. -/
def Argument.isNamed : Argument → Bool
  | named _ _ => true
  | spreadNamed _ => true
  | _ => false

/-- What a filter is applied to a text with. -/
structure Application where
  name : Text
  arguments : List Argument
  line : Nat

/-- What a value can be assigned to. -/
inductive Target where
  | name (name : Text)
  | field (e : Expr) (name : Text)
  /-- Every item of a list has a target of its own. -/
  | unpack (targets : List Target) (line : Nat)

/-- A parameter of a macro. -/
structure Parameter where
  name : Text
  default? : Option Expr

/-- A statement. -/
inductive Stmt where
  /-- Text as it is written. -/
  | raw (t : Text) (line : Nat)
  /-- The value of an expression as text. -/
  | emit (e : Expr) (line : Nat)
  | cond (test : Expr) (yes no : List Stmt) (line : Nat)
  | loop (target : Target) (source : Expr) (condition? : Option Expr) (isRecursive : Bool)
    (body fallback : List Stmt) (line : Nat)
  | scope (assignments : List (Target × Expr)) (body : List Stmt) (line : Nat)
  | assign (target : Target) (e : Expr) (line : Nat)
  /-- Assigns the text of a body, after filters have been applied to it. -/
  | capture (target : Target) (filters : List Application) (body : List Stmt) (line : Nat)
  /-- The text of a body, after filters have been applied to it. -/
  | filtered (filters : List Application) (body : List Stmt) (line : Nat)
  | escaping (mode : Expr) (body : List Stmt) (line : Nat)
  | block (name : Text) (body : List Stmt) (line : Nat)
  /-- Stands for the body of a block that another template has to provide. -/
  | lacking (name : Text) (line : Nat)
  | extend (source : Expr) (line : Nat)
  | include (source : Expr) (mayBeMissing : Bool) (line : Nat)
  /-- Takes variables or all of another template. -/
  | take (source : Expr) (line : Nat)
  | define (name : Text) (parameters : List Parameter) (body : List Stmt) (line : Nat)
  /-- Calls a macro that can call the body. -/
  | callWith (callee : Expr) (arguments : List Argument) (parameters : List Parameter)
    (body : List Stmt) (line : Nat)
  | evaluate (callee : Expr) (arguments : List Argument) (line : Nat)

/-! ## Blocks -/

mutual

/-- The blocks in a statement, with their names. -/
def Stmt.blocks : Stmt → List (Text × List Stmt)
  | .cond _ yes no _ => blocksOf yes ++ blocksOf no
  | .loop _ _ _ _ body fallback _ => blocksOf body ++ blocksOf fallback
  | .scope _ body _ => blocksOf body
  | .capture _ _ body _ => blocksOf body
  | .filtered _ body _ => blocksOf body
  | .escaping _ body _ => blocksOf body
  | .block name body _ => (name, body) :: blocksOf body
  | _ => []

/-- The blocks in the statements of a body, with their names. -/
def blocksOf : List Stmt → List (Text × List Stmt)
  | [] => []
  | s :: rest => s.blocks ++ blocksOf rest

end

end PatchTrail.Template
