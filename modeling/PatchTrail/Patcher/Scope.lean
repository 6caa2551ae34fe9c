import PatchTrail.Patcher.Basic

/-!
# Patchers inside of patchers

A patcher stands inside of another behind the scopes that enclose it (`Inside`). When the other is
run, each of these scopes cuts its regions out of a text and hands them on, one by one, until a
patcher fails on one, so that the inner patcher is run on a text that has been computed on the way
(`Reached`). A patcher fails by itself (`Fails`) or because one inside of it does.
-/

namespace PatchTrail.Patcher

/-- What a patcher inside of another is enclosed by. -/
inductive Scope where
  /-- The bodies of the methods with this signature. -/
  | method (signature : Text)
  /-- The lines that declare this constant. -/
  | constant (identifier : Text)
deriving DecidableEq, Repr

namespace Scope

/-- The stretches of a text that a scope hands on. -/
def regions : Scope → Text → List Text
  | method signature, t => (Smali.bodies t signature).map Smali.Body.text
  | constant identifier, t => (t.split '\n').filter fun line => Smali.declares line identifier

/-- A failure as it leaves a scope. -/
def wrap : Scope → Error → Error
  | method signature => .inMethod signature
  | constant identifier => .inConstant identifier

end Scope

/-- The scopes in which a failure has happened, the outermost first. -/
def Error.scopes : Error → List Scope
  | inMethod signature cause => .method signature :: cause.scopes
  | inConstant identifier cause => .constant identifier :: cause.scopes
  | _ => []

/-- The patcher `q` stands inside of another, enclosed by scopes, the outermost first. -/
inductive Inside (q : Patcher) : (scopes : List Scope) → Patcher → Prop where
  | self : Inside q [] q
  | inMethod {scopes : List Scope} {p : Patcher} {patchers : List Patcher} (signature : Text)
      (member : p ∈ patchers) (inside : Inside q scopes p) :
      Inside q (.method signature :: scopes) (inMethod signature patchers)
  | inConstant {scopes : List Scope} {p : Patcher} (identifier : Text)
      (inside : Inside q scopes p) :
      Inside q (.constant identifier :: scopes) (inConstant identifier p)

/-- Patchers that are run on a method come to the pass of one of them, for which those in front of
it have left the unit `next`. -/
def Pass (signature : Text) (patchers : List Patcher) (unit_ : Text) (p : Patcher) (next : Text) :
    Prop :=
  ∃ before behind, patchers = before ++ p :: behind ∧
    (inMethod signature before).apply unit_ = .ok next

/-- A patcher that is run on some texts, one after the other, comes to one of them. -/
def ComesTo (p : Patcher) (texts : List Text) (t : Text) : Prop :=
  ∃ before behind, texts = before ++ t :: behind ∧ ∀ s ∈ before, ∃ s', p.apply s = .ok s'

/-- When a patcher is run on a unit, the patcher `q` inside of it, enclosed by scopes, is run on the
text `t`. -/
inductive Reached (q : Patcher) (t : Text) : (scopes : List Scope) → Patcher → Text → Prop where
  | self : Reached q t [] q t
  | inMethod {signature unit_ next region : Text} {scopes : List Scope} {p : Patcher}
      {patchers : List Patcher} (pass : Pass signature patchers unit_ p next)
      (comes : ComesTo p ((Scope.method signature).regions next) region)
      (inside : Reached q t scopes p region) :
      Reached q t (.method signature :: scopes) (inMethod signature patchers) unit_
  | inConstant {identifier unit_ region : Text} {scopes : List Scope} {p : Patcher}
      (comes : ComesTo p ((Scope.constant identifier).regions unit_) region)
      (inside : Reached q t scopes p region) :
      Reached q t (.constant identifier :: scopes) (inConstant identifier p) unit_

/-- A patcher fails on a text by itself, not because of a patcher inside of it. One that runs others
on a method searches anew for the method with each pass, in what the passes so far have left. -/
inductive Fails : Patcher → Text → Error → Prop where
  | replaceText {find t : Text} (replacement : Text) (absent : t.contains find = false) :
      Fails (replaceText find replacement) t (.notFound find)
  | replacePattern {pattern : Pattern} {t : Text} (replacement : Text) (isLiteral : Bool)
      (absent : pattern.occursIn t = false) :
      Fails (replacePattern pattern replacement isLiteral) t (.notFound pattern.source)
  | require {text t : Text} (absent : t.contains text = false) :
      Fails (require text) t (.notFound text)
  | methodNotFound {signature t next : Text} {patchers : List Patcher} {p : Patcher}
      (pass : Pass signature patchers t p next)
      (absent : (Scope.method signature).regions next = []) :
      Fails (inMethod signature patchers) t (.methodNotFound signature)
  | noEffect {signature t next : Text} {patchers : List Patcher} {p : Patcher}
      (pass : Pass signature patchers t p next) (changes : p.isAssertion = false)
      (found : (Scope.method signature).regions next ≠ [])
      (still : ∀ region ∈ (Scope.method signature).regions next, p.apply region = .ok region) :
      Fails (inMethod signature patchers) t (.noEffect signature)
  | constantNotFound {identifier t : Text} (p : Patcher)
      (absent : (Scope.constant identifier).regions t = []) :
      Fails (inConstant identifier p) t (.constantNotFound identifier)
  | custom {transform : Text → Except Error Text} {t : Text} {e : Error}
      (failed : transform t = .error e) : Fails (custom transform) t e

end PatchTrail.Patcher
