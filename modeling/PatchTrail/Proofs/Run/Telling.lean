import PatchTrail.Patch.Basic
import PatchTrail.Proofs.Text.Quoting

/-!
# What messages tell

The message of a failed patch tells all there is to know: which patch, which of its instructions,
the positions in sequences, what was done to which file or which patcher failed on it, and the
scopes around the failure down to its root (`Patch.message_tells`). Every form of message has a
beginning of its own (`Patcher.unprefixed_openings`, `Instruction.unprefixed_openings`), and a
quoted text or a numeral can be told from what comes behind it, so that a message is read from its
front, one layer after the other. Nothing that a text in it imitates can change that.

Only the message of a custom patcher is not quoted, and it can imitate any other. The words of the
system, of the trail and of the reader of tables come last and can be any (`Instruction.Account`).
-/

namespace PatchTrail

open Text (flatMap_escapeChar_inj ofNat_append_inj escapeChar Unprefixed)

section

variable (label s rest more : Text)

theorem append_quoted :
    label ++ s.quoted = (label ++ ['"']) ++ (s.flatMap escapeChar ++ '"' :: []) := by
  simp [Text.quoted]

theorem quoted_append :
    s.quoted ++ rest = ['"'] ++ (s.flatMap escapeChar ++ '"' :: rest) := by
  simp [Text.quoted]

theorem append_quoted_append :
    label ++ s.quoted ++ rest ++ more =
      (label ++ ['"']) ++ (s.flatMap escapeChar ++ '"' :: (rest ++ more)) := by
  simp [Text.quoted]

/-- A text up to a quoted one, and a number behind it. -/
theorem append_quoted_numbered (n : Nat) (last : Text) :
    label ++ s.quoted ++ rest ++ Text.ofNat n ++ more ++ last =
      (label ++ ['"']) ++
        (s.flatMap escapeChar ++ '"' :: (rest ++ (Text.ofNat n ++ (more ++ last)))) := by
  simp [Text.quoted]

end

/-! ## Patchers -/

namespace Patcher

/-- The forms of the messages of patchers. -/
inductive Form where
  | notFound
  | methodNotFound
  | constantNotFound
  | noEffect
  | inMethod
  | inConstant
deriving DecidableEq

/-- How a message begins, up to the quote in front of its first text. -/
def Form.opening : Form → Text
  | notFound => "could not find " ++ ['"']
  | methodNotFound => "could not find method " ++ ['"']
  | constantNotFound => "could not find constant " ++ ['"']
  | noEffect => "identical output in method " ++ ['"']
  | inMethod => "could not run patcher in method " ++ ['"']
  | inConstant => "replace constant " ++ ['"']

theorem unprefixed_openings : Unprefixed Form.opening := fun f f' h => by
  revert h
  cases f <;> cases f' <;> decide

namespace Error

/-- A failure whose root is not the message of a custom patcher. -/
def Plain (e : Error) : Prop := ∀ message, e.root ≠ .custom message

/-- The form of a message, unless it is that of a custom patcher. -/
def form : Error → Form
  | notFound _ => .notFound
  | methodNotFound _ => .methodNotFound
  | constantNotFound _ => .constantNotFound
  | noEffect _ => .noEffect
  | inMethod _ _ => .inMethod
  | inConstant _ _ => .inConstant
  | custom _ => .notFound

/-- The text that a message quotes first. -/
def subject : Error → Text
  | notFound sought => sought
  | methodNotFound signature => signature
  | constantNotFound identifier => identifier
  | noEffect signature => signature
  | inMethod signature _ => signature
  | inConstant identifier _ => identifier
  | custom message => message

/-- What a message ends with behind the text that it quotes first. -/
def closing : Error → Text
  | inMethod _ cause => ": " ++ cause.message
  | inConstant _ cause => ": " ++ cause.message
  | _ => []

theorem message_eq {e : Error} (plain : e.Plain) :
    e.message = e.form.opening ++ (e.subject.flatMap escapeChar ++ '"' :: e.closing) := by
  cases e with
  | notFound => exact append_quoted _ _
  | methodNotFound => exact append_quoted _ _
  | constantNotFound => exact append_quoted _ _
  | noEffect => exact append_quoted _ _
  | inMethod => exact append_quoted_append _ _ _ _
  | inConstant => exact append_quoted_append _ _ _ _
  | custom message => exact absurd rfl (plain message)

/-- Equal messages have equal parts. -/
theorem parts_eq {e e' : Error} (plain : e.Plain) (plain' : e'.Plain)
    (h : e.message = e'.message) :
    e.form = e'.form ∧ e.subject = e'.subject ∧ e.closing = e'.closing := by
  rw [message_eq plain, message_eq plain'] at h
  obtain ⟨form, rest⟩ := unprefixed_openings.append_inj h
  exact ⟨form, flatMap_escapeChar_inj rest⟩

/-- The message of a patcher tells the scopes around its failure and the root. -/
theorem message_inj {e e' : Error} (plain : e.Plain) (plain' : e'.Plain)
    (h : e.message = e'.message) : e = e' := by
  induction e generalizing e' with
  | notFound text =>
      obtain ⟨form, subject, -⟩ := parts_eq plain plain' h
      cases e' with
      | notFound => exact congrArg notFound subject
      | custom message => exact absurd rfl (plain' message)
      | _ => cases form
  | methodNotFound text =>
      obtain ⟨form, subject, -⟩ := parts_eq plain plain' h
      cases e' with
      | methodNotFound => exact congrArg methodNotFound subject
      | custom message => exact absurd rfl (plain' message)
      | _ => cases form
  | constantNotFound text =>
      obtain ⟨form, subject, -⟩ := parts_eq plain plain' h
      cases e' with
      | constantNotFound => exact congrArg constantNotFound subject
      | custom message => exact absurd rfl (plain' message)
      | _ => cases form
  | noEffect text =>
      obtain ⟨form, subject, -⟩ := parts_eq plain plain' h
      cases e' with
      | noEffect => exact congrArg noEffect subject
      | custom message => exact absurd rfl (plain' message)
      | _ => cases form
  | inMethod text cause ih =>
      obtain ⟨form, subject, closing⟩ := parts_eq plain plain' h
      cases e' with
      | inMethod =>
          exact congrArg₂ inMethod subject (ih plain plain' (List.append_cancel_left closing))
      | custom message => exact absurd rfl (plain' message)
      | _ => cases form
  | inConstant text cause ih =>
      obtain ⟨form, subject, closing⟩ := parts_eq plain plain' h
      cases e' with
      | inConstant =>
          exact congrArg₂ inConstant subject (ih plain plain' (List.append_cancel_left closing))
      | custom message => exact absurd rfl (plain' message)
      | _ => cases form
  | custom message => exact absurd rfl (plain message)

end Error

end Patcher

/-! ## Instructions -/

namespace Instruction

/-- What is told of the failure of an instruction. The words of the system, of the trail and of the
reader of tables are texts that can be any. -/
inductive Account where
  | disk (operation : Operation) (path reason : Text)
  | patcher (path : Text) (index : Nat) (cause : Patcher.Error)
  | notText (path : Text)
  | trail (reason : Text)
  | noneOfKind (kind : Text)
  | table (reason : Text)
  | sequence (index : Nat) (cause : Account)
deriving DecidableEq

/-- What is told of a failure. -/
def Error.account : Error → Account
  | disk operation path fault => .disk operation path fault.message
  | patcher path index cause => .patcher path index cause
  | notText path => .notText path
  | trailFull => .trail fullReason
  | resource (.noneOfKind kind) => .noneOfKind kind
  | resource e => .table e.reason
  | sequence index cause => .sequence index cause.account

/-- The forms of the messages of instructions. -/
inductive Form where
  | disk (operation : Operation)
  | patcher
  | notText
  | trail
  | noneOfKind
  | table
  | sequence
deriving DecidableEq

/-- How a message begins, up to the first text or number in it. -/
def Form.opening : Form → Text
  | disk operation => operation.name ++ " " ++ ['"']
  | patcher => "patch " ++ ['"']
  | notText => [] ++ ['"']
  | trail => "write diff: "
  | noneOfKind => "no existing resources found with type " ++ ['"']
  | table => "parse existing resources: "
  | sequence => "inst "

theorem unprefixed_openings : Unprefixed Form.opening := fun f f' h => by
  revert h
  rcases f with ⟨_ | _⟩ | _ <;> rcases f' with ⟨_ | _⟩ | _ <;> decide

namespace Account

/-- A failure as it is told. -/
def message : Account → Text
  | disk operation path reason => operation.name ++ " " ++ path.quoted ++ ": " ++ reason
  | patcher path index cause =>
    "patch " ++ path.quoted ++ ": patcher " ++ Text.ofNat index ++ ": " ++ cause.message
  | notText path => path.quoted ++ " is not a UTF-8 text file"
  | trail reason => "write diff: " ++ reason
  | noneOfKind kind => "no existing resources found with type " ++ kind.quoted
  | table reason => "parse existing resources: " ++ reason
  | sequence index cause => "inst " ++ Text.ofNat index ++ ": " ++ cause.message

/-- The form of a message. -/
def form : Account → Form
  | disk operation _ _ => .disk operation
  | patcher _ _ _ => .patcher
  | notText _ => .notText
  | trail _ => .trail
  | noneOfKind _ => .noneOfKind
  | table _ => .table
  | sequence _ _ => .sequence

/-- What a message ends with behind its beginning. -/
def closing : Account → Text
  | disk _ path reason => path.flatMap escapeChar ++ '"' :: (": " ++ reason)
  | patcher path index cause =>
    path.flatMap escapeChar ++
      '"' :: (": patcher " ++ (Text.ofNat index ++ ':' :: ' ' :: cause.message))
  | notText path => path.flatMap escapeChar ++ '"' :: " is not a UTF-8 text file"
  | trail reason => reason
  | noneOfKind kind => kind.flatMap escapeChar ++ '"' :: []
  | table reason => reason
  | sequence index cause => Text.ofNat index ++ ':' :: ' ' :: cause.message

theorem message_eq (a : Account) : a.message = a.form.opening ++ a.closing := by
  cases a with
  | disk => exact append_quoted_append _ _ _ _
  | patcher => exact append_quoted_numbered _ _ _ _ _ _
  | notText => exact quoted_append _ _
  | trail => rfl
  | noneOfKind => exact append_quoted _ _
  | table => rfl
  | sequence => exact List.append_assoc _ _ _ |>.trans (List.append_assoc _ _ _)

/-- An account in which no custom patcher speaks. -/
def Plain : Account → Prop
  | patcher _ _ cause => cause.Plain
  | sequence _ cause => cause.Plain
  | _ => True

/-- Equal messages have equal parts. -/
theorem parts_eq {a b : Account} (h : a.message = b.message) :
    a.form = b.form ∧ a.closing = b.closing := by
  rw [message_eq a, message_eq b] at h
  exact unprefixed_openings.append_inj h

/-- The message of an instruction tells which one failed, where and why. -/
theorem message_inj {a b : Account} (plain : a.Plain) (plain' : b.Plain)
    (h : a.message = b.message) : a = b := by
  induction a generalizing b with
  | disk operation path reason =>
      obtain ⟨form, closing⟩ := parts_eq h
      cases b with
      | disk =>
          obtain ⟨rfl, rest⟩ := flatMap_escapeChar_inj closing
          cases form
          exact congrArg _ (List.append_cancel_left rest)
      | _ => cases form
  | patcher path index cause =>
      obtain ⟨form, closing⟩ := parts_eq h
      cases b with
      | patcher =>
          obtain ⟨rfl, behind⟩ := flatMap_escapeChar_inj closing
          obtain ⟨rfl, last⟩ := ofNat_append_inj (c := ':') rfl (List.append_cancel_left behind)
          exact congrArg _ (Patcher.Error.message_inj plain plain' (List.cons.inj last).2)
      | _ => cases form
  | notText path =>
      obtain ⟨form, closing⟩ := parts_eq h
      cases b with
      | notText => exact congrArg notText (flatMap_escapeChar_inj closing).1
      | _ => cases form
  | trail reason =>
      obtain ⟨form, closing⟩ := parts_eq h
      cases b with
      | trail => exact congrArg trail closing
      | _ => cases form
  | noneOfKind kind =>
      obtain ⟨form, closing⟩ := parts_eq h
      cases b with
      | noneOfKind => exact congrArg noneOfKind (flatMap_escapeChar_inj closing).1
      | _ => cases form
  | table reason =>
      obtain ⟨form, closing⟩ := parts_eq h
      cases b with
      | table => exact congrArg table closing
      | _ => cases form
  | sequence index cause ih =>
      obtain ⟨form, closing⟩ := parts_eq h
      cases b with
      | sequence =>
          obtain ⟨rfl, last⟩ := ofNat_append_inj rfl closing
          exact congrArg _ (ih plain plain' (List.cons.inj last).2)
      | _ => cases form

end Account

theorem Error.account_message (e : Error) : e.account.message = e.message := by
  induction e with
  | disk | patcher | notText | trailFull => rfl
  | resource cause => cases cause <;> rfl
  | sequence index cause ih => exact congrArg (_ ++ ·) ih

end Instruction

/-! ## Patches -/

namespace Patch

/-- What is told of the failure of a patch. -/
structure Account where
  patch : Text
  index : Nat
  cause : Instruction.Account
deriving DecidableEq

/-- What is told of a failure. -/
def Error.account (e : Error) : Account := ⟨e.patch, e.index, e.cause.account⟩

namespace Account

/-- A failure as it is told. -/
def message (a : Account) : Text :=
  "apply patch " ++ a.patch.quoted ++ ": inst " ++ Text.ofNat a.index ++ ": " ++ a.cause.message

/-- An account in which no custom patcher speaks. -/
def Plain (a : Account) : Prop := a.cause.Plain

theorem message_inj {a b : Account} (plain : a.Plain) (plain' : b.Plain)
    (h : a.message = b.message) : a = b := by
  obtain ⟨patch, index, cause⟩ := a
  obtain ⟨patch', index', cause'⟩ := b
  have parts := (append_quoted_numbered _ _ _ _ _ _).symm.trans
    (h.trans (append_quoted_numbered _ _ _ _ _ _))
  obtain ⟨rfl, behind⟩ := flatMap_escapeChar_inj (List.append_cancel_left parts)
  obtain ⟨rfl, last⟩ := ofNat_append_inj (c := ':') rfl (List.append_cancel_left behind)
  have same : cause = cause' := Instruction.Account.message_inj plain plain' (List.cons.inj last).2
  rw [same]

end Account

/-- The failures of patches are told as their accounts are, and unless a custom patcher speaks, an
account can be read off its message, whatever texts it holds. -/
theorem message_tells :
    (∀ e : Error, e.account.message = e.message) ∧
      ∀ a b : Account, a.Plain → b.Plain → (a.message = b.message ↔ a = b) := by
  refine ⟨fun e => congrArg (_ ++ ·) e.cause.account_message, fun a b plain plain' => ?_⟩
  exact ⟨Account.message_inj plain plain', congrArg _⟩

/-- The message of a failure inside a scope inside a method is not that of a failure in a method
whose signature imitates the scope. -/
theorem message_tells_imitated_scope :
    let told (cause : Patcher.Error) : Account := ⟨"p", 0, .sequence 1 (.patcher "a\n" 2 cause)⟩
    let nested := told (.inMethod "m" (.inConstant "c" (.notFound "\\")))
    let imitated := told (.inMethod "m\": replace constant \"c" (.notFound "\\"))
    nested.Plain ∧ imitated.Plain ∧ nested.message ≠ imitated.message := by
  intro told nested imitated
  have plain : nested.Plain := fun _ => nofun
  have plain' : imitated.Plain := fun _ => nofun
  have differ : nested ≠ imitated := by decide
  exact ⟨plain, plain', fun same => differ ((message_tells.2 _ _ plain plain').1 same)⟩

end Patch

end PatchTrail
