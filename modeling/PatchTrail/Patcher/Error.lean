import PatchTrail.Text.Quoted

/-!
# Why a patcher fails

Failures inside a method or a constant are wrapped in the scope in which they happened; the root of
a failure is what is left without its scopes.
-/

namespace PatchTrail.Patcher

/-- Why a patcher fails. -/
inductive Error where
  /-- What was looked for does not occur. -/
  | notFound (sought : Text)
  /-- No method with this signature has a body. -/
  | methodNotFound (signature : Text)
  /-- No line declares this constant. -/
  | constantNotFound (identifier : Text)
  /-- All bodies of the method were patched, and the unit is what it was. -/
  | noEffect (signature : Text)
  /-- A patcher failed on the body of a method. -/
  | inMethod (signature : Text) (cause : Error)
  /-- A patcher failed on the declaration of a constant. -/
  | inConstant (identifier : Text) (cause : Error)
  /-- A custom patcher failed. -/
  | custom (message : Text)
deriving DecidableEq, Repr, Inhabited

namespace Error

/-- The failure without its scopes. -/
def root : Error → Error
  | inMethod _ cause => cause.root
  | inConstant _ cause => cause.root
  | e => e

/-- Why a patcher fails, in words. -/
def message : Error → Text
  | notFound sought => "could not find " ++ sought.quoted
  | methodNotFound signature => "could not find method " ++ signature.quoted
  | constantNotFound identifier => "could not find constant " ++ identifier.quoted
  | noEffect signature => "identical output in method " ++ signature.quoted
  | inMethod signature cause =>
    "could not run patcher in method " ++ signature.quoted ++ ": " ++ cause.message
  | inConstant identifier cause =>
    "replace constant " ++ identifier.quoted ++ ": " ++ cause.message
  | custom message => message

/-- A failure shown part by part. -/
def describe : Error → Text
  | notFound sought => Text.describeParts "NotFound" [sought.quoted]
  | methodNotFound signature => Text.describeParts "MethodNotFound" [signature.quoted]
  | constantNotFound identifier => Text.describeParts "ConstantNotFound" [identifier.quoted]
  | noEffect signature => Text.describeParts "NoEffectiveChange" [signature.quoted]
  | inMethod signature cause =>
    Text.describeFields "InMethod" [("method", signature.quoted), ("source", cause.describe)]
  | inConstant identifier cause =>
    Text.describeFields "InConstant" [("constant", identifier.quoted), ("source", cause.describe)]
  | custom message => Text.describeParts "Other" [message.quoted]

end Error

end PatchTrail.Patcher
