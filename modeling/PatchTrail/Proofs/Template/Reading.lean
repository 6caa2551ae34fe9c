import PatchTrail.Proofs.Except
import PatchTrail.Template.Tree.Reader.Stmt

/-!
# What a reader makes of tokens

A reader that stands in front of some tokens makes one of some things of them, and stands in front
of others then (`Reads`). Lines play no part in this. Readers are put together from smaller ones by
the rules for one step after another (`Reads.bind`) and for steps that are repeated
(`Repeats.stop`, `Repeats.more`). An operand goes through all levels of operators unchanged if what
follows it goes on with none of them (`Reads.alternatives`, `Reads.expressions`).
-/

namespace PatchTrail.Template

variable {α β : Type}

/-- At a depth, a reader in front of some tokens makes something with a property of them, and leaves
others. -/
def Reads (d : Nat) (ts : List Token) (r : Reader α) (is : α → Prop) (left : List Token) : Prop :=
  ∀ c : Cursor, c.failure? = none → c.depth = d → c.rest.map Placed.token = ts →
    ∃ a c', r c = .ok a c' ∧ is a ∧ c'.failure? = none ∧ c'.depth = d ∧
      c'.rest.map Placed.token = left

theorem isSign_self (s : Sign) : Token.isSign s (.sign s) = true := by simp [Token.isSign]

theorem isSign_eq_false {t : Token} {s : Sign} (h : t ≠ .sign s) : t.isSign s = false := by
  cases t with
  | sign s' => exact beq_false_of_ne fun same => h (congrArg _ same)
  | _ => rfl

theorem get_bind (f : Cursor → Reader α) (c : Cursor) : (get >>= f) c = f c c := rfl

namespace Reads

variable {d : Nat} {t : Token} {ts ts' ts'' : List Token} {r : Reader α} {f : α → Reader β}
  {is is' : α → Prop} {are : β → Prop} {a : α}

/-! ## Steps -/

theorem pure (h : is a) : Reads d ts (pure a) is ts := fun c failure depth tokens =>
  ⟨a, c, rfl, h, failure, depth, tokens⟩

theorem bind (hr : Reads d ts r is ts') (hf : ∀ a, is a → Reads d ts' (f a) are ts'') :
    Reads d ts (r >>= f) are ts'' := by
  intro c failure depth tokens
  obtain ⟨a, c', run, ha, failure, depth, tokens⟩ := hr c failure depth tokens
  obtain ⟨b, c'', run', hb, rest⟩ := hf a ha c' failure depth tokens
  exact ⟨b, c'', (bind_ok run).trans run', hb, rest⟩

/-- The rule for steps of which it is known what comes out. -/
theorem bind_eq (hr : Reads d ts r (· = a) ts') (hf : Reads d ts' (f a) are ts'') :
    Reads d ts (r >>= f) are ts'' :=
  bind hr fun _ same => same ▸ hf

theorem mono (hr : Reads d ts r is ts') (h : ∀ a, is a → is' a) : Reads d ts r is' ts' := by
  intro c failure depth tokens
  obtain ⟨a, c', run, ha, rest⟩ := hr c failure depth tokens
  exact ⟨a, c', run, h a ha, rest⟩

theorem cursor : Reads d ts get (fun c => c.rest.length = ts.length) ts := by
  intro c failure depth tokens
  exact ⟨c, c, rfl, by rw [← tokens, List.length_map], failure, depth, tokens⟩

theorem next? : Reads d (t :: ts) Reader.next? (· = some t) ts := by
  intro c failure depth tokens
  obtain ⟨p, rest, hrest, rfl, rfl⟩ := List.map_eq_cons_iff.1 tokens
  refine ⟨some p.token, { c with rest := rest, line := p.line }, ?_, rfl, failure, depth, rfl⟩
  unfold Reader.next?
  rw [get_bind]
  rw [hrest, failure]
  rfl

theorem next?_nil : Reads d [] Reader.next? (· = none) [] := by
  intro c failure depth tokens
  refine ⟨none, c, ?_, rfl, failure, depth, tokens⟩
  unfold Reader.next?
  rw [get_bind]
  rw [List.map_eq_nil_iff.1 tokens, failure]
  rfl

theorem peek? : Reads d (t :: ts) Reader.peek? (· = some t) (t :: ts) := by
  intro c failure depth tokens
  obtain ⟨p, rest, hrest, rfl, rfl⟩ := List.map_eq_cons_iff.1 tokens
  refine ⟨some p.token, c, ?_, rfl, failure, depth, by rw [hrest]; rfl⟩
  unfold Reader.peek?
  rw [get_bind]
  rw [hrest, failure]
  rfl

theorem lastLine : Reads d ts Reader.lastLine (fun _ => True) ts :=
  bind cursor fun _ _ => pure trivial

theorem nextLine : Reads d ts Reader.nextLine (fun _ => True) ts :=
  bind cursor fun _ _ => pure trivial

theorem anyToken (expected : Text) :
    Reads d (t :: ts) (Reader.anyToken expected) (· = t) ts :=
  bind next? fun _ h => h ▸ pure rfl

theorem expect {form? : Token → Option α} (h : form? t = some a) (expected : Text) :
    Reads d (t :: ts) (Reader.expect form? expected) (· = a) ts :=
  bind (anyToken expected) fun _ same => by
    subst same
    simp only [h]
    exact pure rfl

theorem require {p : Token → Bool} (h : p t = true) (expected : Text) :
    Reads d (t :: ts) (Reader.require p expected) (fun _ => True) ts :=
  (expect (by rw [if_pos h]) expected).mono fun _ _ => trivial

theorem sees (p : Token → Bool) : Reads d (t :: ts) (Reader.sees p) (· = p t) (t :: ts) :=
  bind peek? fun _ same => pure (by rw [same]; rfl)

theorem skip {p : Token → Bool} (h : p t = true) :
    Reads d (t :: ts) (Reader.skip p) (· = true) ts :=
  bind (sees p) fun _ same => by
    rw [same, h]
    exact bind next? fun _ _ => pure rfl

theorem keep {p : Token → Bool} (h : p t = false) :
    Reads d (t :: ts) (Reader.skip p) (· = false) (t :: ts) :=
  bind (sees p) fun _ same => by
    rw [same, h]
    exact pure rfl

/-! ### One way or another -/

section

variable {p : Token → Bool} {yes no : Reader β}

theorem of_skip (h : p t = true) (hyes : Reads d ts yes are ts') :
    Reads d (t :: ts) (do if ← Reader.skip p then yes else no) are ts' :=
  bind (skip h) fun _ same => by rwa [if_pos same]

theorem of_keep (h : p t = false) (hno : Reads d (t :: ts) no are ts') :
    Reads d (t :: ts) (do if ← Reader.skip p then yes else no) are ts' :=
  bind (keep h) fun _ same => by rwa [if_neg (by rw [same]; decide)]

theorem of_seen (h : p t = true) (hyes : Reads d (t :: ts) yes are ts') :
    Reads d (t :: ts) (do if ← Reader.sees p then yes else no) are ts' :=
  bind (sees p) fun _ same => by rwa [if_pos (same.trans h)]

theorem of_unseen (h : p t = false) (hno : Reads d (t :: ts) no are ts') :
    Reads d (t :: ts) (do if ← Reader.sees p then yes else no) are ts' :=
  bind (sees p) fun _ same => by rwa [if_neg (by rw [same, h]; decide)]

end

theorem nested (shallow : d < Reader.maxDepth) (hr : Reads (d + 1) ts r is ts') :
    Reads d ts (Reader.nested r) is ts' := by
  intro c failure depth tokens
  obtain ⟨a, c', run, ha, failure', depth', tokens'⟩ :=
    hr { c with depth := c.depth + 1 } failure (congrArg (· + 1) depth) tokens
  refine ⟨a, { c' with depth := c'.depth - 1 }, ?_, ha, failure', ?_, tokens'⟩
  · unfold Reader.nested
    rw [get_bind, if_neg (by omega)]
    exact (bind_ok run).trans rfl
  · show c'.depth - 1 = d
    omega

end Reads

/-! ## Steps that are repeated -/

/-- Going from step to step ends by itself, within as many steps as there are tokens. -/
def Repeats (d : Nat) (ts : List Token) (step : α → Reader (Option α)) (a : α) (is : α → Prop)
    (left : List Token) : Prop :=
  ∀ bound, ts.length < bound → Reads d ts (Reader.steps step bound a) is left

section

variable {d : Nat} {ts mid left : List Token} {step : α → Reader (Option α)} {a : α}
  {is is' : α → Prop}

theorem Repeats.stop (h : Reads d ts (step a) (· = none) left) (ha : is a) :
    Repeats d ts step a is left := by
  intro bound enough
  obtain ⟨bound, rfl⟩ : ∃ n, bound = n + 1 := ⟨bound - 1, by omega⟩
  refine .bind h fun _ done => ?_
  rw [done]
  exact .pure ha

theorem Repeats.more (h : Reads d ts (step a) (fun o => ∃ b, o = some b ∧ is' b) mid)
    (shorter : mid.length < ts.length) (rest : ∀ b, is' b → Repeats d mid step b is left) :
    Repeats d ts step a is left := by
  intro bound enough
  obtain ⟨bound, rfl⟩ : ∃ n, bound = n + 1 := ⟨bound - 1, by omega⟩
  refine .bind h fun _ next => ?_
  obtain ⟨b, rfl, hb⟩ := next
  exact rest b hb bound (by omega)

theorem Repeats.next {b : α} (h : Reads d ts (step a) (· = some b) mid)
    (shorter : mid.length < ts.length) (rest : Repeats d mid step b is left) :
    Repeats d ts step a is left :=
  .more (h.mono fun _ same => ⟨b, same, rfl⟩) shorter fun _ same => same ▸ rest

theorem Reads.iterate (h : Repeats d ts step a is left) :
    Reads d ts (Reader.iterate step a) is left :=
  .bind .cursor fun c hc => h (c.rest.length + 1) (by omega)

end

/-! ## Operands -/

/-- Tokens that no expression goes on with. -/
inductive EndsExpression : Token → Prop where
  | endExpression : EndsExpression .endExpression
  | endStatement : EndsExpression .endStatement
  | comma : EndsExpression (.sign .comma)
  | closeParen : EndsExpression (.sign .closeParen)

namespace Reads

open Reader

variable {d : Nat} {t : Token} {ts left : List Token} {inner part : Reader Expr} {e : Expr}
  {is is' : Expr → Prop} {w : Text} {n : Nat}

theorem operand_name (shallow : d < maxDepth) (hw : constant? w = none) :
    Reads d (.name w :: ts) (operand inner) (fun e => ∃ line, e = .name w line) ts := by
  refine nested shallow (bind (anyToken _) fun _ same => ?_)
  subst same
  refine bind lastLine fun line _ => ?_
  simp only [hw]
  exact pure ⟨line, rfl⟩

theorem operand_integer (shallow : d < maxDepth) :
    Reads d (.integer n :: ts) (operand inner)
      (fun e => ∃ line?, e = .literal (.ofNat n) line?) ts := by
  refine nested shallow (bind (anyToken _) fun _ same => ?_)
  subst same
  exact bind lastLine fun line _ => pure ⟨some line, rfl⟩

theorem behindMarks {isMark : Token → Bool} {build : Expr → Nat → Expr} (h : isMark t = false)
    (hpart : Reads d (t :: ts) part is left) :
    Reads d (t :: ts) (behindMarks isMark build part) is left := by
  refine bind cursor fun c hc => ?_
  rw [hc]
  exact bind nextLine fun _ _ => of_keep h hpart

theorem operators {build? : Token → Option (Expr → Expr → Nat → Expr)}
    (hpart : Reads d ts part is (t :: left)) (h : build? t = none) :
    Reads d ts (operators build? part) is (t :: left) := by
  refine bind nextLine fun _ _ => bind hpart fun e he => ?_
  refine iterate (.stop (bind peek? fun _ same => ?_) he)
  rw [same, Option.bind_some, h]
  exact pure rfl

/-! ## Behind an operand -/

variable {line : Nat}

theorem no_trailer {made : Expr × Nat → Prop} (h : EndsExpression t) (he : made (e, line)) :
    Repeats d (t :: ts) (trailer? inner) (e, line) made (t :: ts) := by
  refine .stop (bind nextLine fun _ _ => ?_) he
  refine of_keep (by cases h <;> rfl) (of_keep (by cases h <;> rfl) ?_)
  exact of_unseen (by cases h <;> rfl) (pure rfl)

theorem postfixes (h : Repeats d ts (trailer? inner) (e, line) (fun p => is p.1) left) :
    Reads d ts (postfixes inner e line) is left :=
  bind (iterate h) fun _ he => pure he

/-- An attribute behind an operand is read. -/
theorem postfixes_field (h : EndsExpression t) :
    Reads d (.sign .dot :: .name w :: t :: ts) (Reader.postfixes inner e line)
      (fun e' => ∃ line, e' = .field e w line) (t :: ts) := by
  have key : Reads d (.name w :: t :: ts) (dotted e line) (· = .field e w line) (t :: ts) := by
    refine bind (expect (a := (Sum.inl w : Text ⊕ Nat)) rfl _) fun _ same => ?_
    rw [same]
    exact pure rfl
  have step : Reads d (.sign .dot :: .name w :: t :: ts) (trailer? inner (e, line))
      (fun o => ∃ p, o = some p ∧ p.1 = .field e w line) (t :: ts) := by
    refine bind nextLine fun following _ => of_skip rfl ?_
    exact bind key fun e' he' => pure ⟨_, rfl, he'⟩
  exact postfixes (.more step (by simp) fun p hp => no_trailer h ⟨line, hp⟩)

/-- A call behind an operand is read. -/
theorem postfixes_call {are : List Argument → Prop} (h : EndsExpression t)
    (shorter : left.length < ts.length)
    (hargs : Reads d (.sign .openParen :: ts) (arguments inner) are (t :: left)) :
    Reads d (.sign .openParen :: ts) (Reader.postfixes inner e line)
      (fun e' => ∃ args line, e' = .call e args line ∧ are args) (t :: left) := by
  have step : Reads d (.sign .openParen :: ts) (trailer? inner (e, line))
      (fun o => ∃ p, o = some p ∧ ∃ args line, p.1 = .call e args line ∧ are args)
      (t :: left) := by
    refine bind nextLine fun following _ => of_keep rfl (of_keep rfl (of_seen rfl ?_))
    exact bind hargs fun args ha => pure ⟨_, rfl, args, line, rfl, ha⟩
  exact postfixes (.more step (Nat.succ_lt_succ shorter) fun p hp => no_trailer h hp)

/-- An argument without a name is read behind others like it. -/
theorem argument {before : List Argument} {t' : Token} (begins : ∀ s, t ≠ .sign s)
    (hinner : Reads d (t :: ts) inner is (t' :: left)) (h : EndsExpression t')
    (unnamed : before.any Argument.isNamed = false) :
    Reads d (t :: ts) (argument inner before) (fun a => ∃ e, a = .positional e ∧ is e)
      (t' :: left) := by
  refine of_keep (isSign_eq_false (begins _)) (of_keep (isSign_eq_false (begins _)) ?_)
  refine bind hinner fun e he => ?_
  simp only [unnamed]
  have positional : Reads d (t' :: left) (Pure.pure (Argument.positional e))
      (fun a => ∃ e, a = .positional e ∧ is e) (t' :: left) := pure ⟨e, rfl, he⟩
  -- Behind a name an equals sign would make the argument a named one.
  cases e with
  | name => exact of_keep (by cases h <;> rfl) positional
  | _ => exact positional

section

variable {item : List α → Reader α} {close : Sign} {items : List α} {are : α → Prop}
  {t' : Token}

/-- The first item is read. -/
theorem first_item (begins : t ≠ .sign close) (h : Reads d (t :: ts) (item []) are left) :
    Reads d (t :: ts) (nextItem? close item ([], false))
      (fun o => ∃ p, o = some p ∧ ∃ a, p = ([a], false) ∧ are a) left := by
  have goes : Reads d (t :: ts) (endsItems close ([] : List α)) (· = false) (t :: ts) :=
    of_keep (isSign_eq_false begins) (pure rfl)
  refine bind goes fun _ ended => ?_
  rw [ended]
  exact bind h fun a ha => pure ⟨_, rfl, a, rfl, ha⟩

/-- An item behind others is read, with a comma in front of it. -/
theorem next_item (some_ : items ≠ []) (begins : t ≠ .sign close) (comma : close ≠ .comma)
    (h : Reads d (t :: ts) (item items) are left) :
    Reads d (.sign .comma :: t :: ts) (nextItem? close item (items, false))
      (fun o => ∃ p, o = some p ∧ ∃ a, p = (items ++ [a], false) ∧ are a) left := by
  have goes : Reads d (.sign .comma :: t :: ts) (endsItems close items) (· = false) (t :: ts) := by
    refine of_keep (isSign_eq_false ?_) ?_
    · exact fun same => comma (Token.sign.inj same).symm
    · rw [if_neg (by simpa using some_)]
      exact bind (require rfl _) fun _ _ => keep (isSign_eq_false begins)
  refine bind goes fun _ ended => ?_
  rw [ended]
  exact bind h fun a ha => pure ⟨_, rfl, a, rfl, ha⟩

/-- The sign behind items ends them. -/
theorem end_of_items {made : List α × Bool → Prop} (h : made (items, true)) :
    Repeats d (.sign close :: ts) (nextItem? close item) (items, false) made ts := by
  have ends : Reads d (.sign close :: ts) (endsItems close items) (· = true) ts :=
    of_skip (isSign_self close) (pure rfl)
  have last : Reads d (.sign close :: ts) (nextItem? close item (items, false))
      (fun o => ∃ p, o = some p ∧ p = (items, true)) ts :=
    bind ends fun _ ended => by
      rw [ended]
      exact pure ⟨_, rfl, rfl⟩
  refine .more last (by simp) fun p hp => ?_
  subst hp
  exact .stop (pure rfl) h

end

/-- Two arguments of a call are read. -/
theorem arguments_two {t' : Token} {ts' : List Token}
    (begins : ∀ s, t ≠ .sign s) (begins' : ∀ s, t' ≠ .sign s)
    (first : Reads d (t :: ts) inner is (.sign .comma :: t' :: ts'))
    (second : Reads d (t' :: ts') inner is' (.sign .closeParen :: left))
    (shorter : ts'.length + 1 < ts.length) (shorter' : left.length < ts'.length + 1) :
    Reads d (.sign .openParen :: t :: ts) (arguments inner)
      (fun as => ∃ e e', as = [.positional e, .positional e'] ∧ is e ∧ is' e') left := by
  refine bind (require rfl _) fun _ _ => bind (iterate ?_) fun p hp => pure hp
  refine .more (first_item (begins _) (argument begins first .comma rfl))
    (by simpa using shorter) ?_
  rintro _ ⟨_, rfl, e, rfl, he⟩
  refine .more (next_item (by simp) (begins' _) (by decide)
    (argument begins' second .closeParen rfl)) (by simpa using shorter') ?_
  rintro _ ⟨_, rfl, e', rfl, he'⟩
  exact end_of_items ⟨e, e', rfl, he, he'⟩

/-! ## All levels of an expression -/

theorem filters (h : EndsExpression t) (he : is e) :
    Reads d (t :: ts) (filters inner e) is (t :: ts) :=
  iterate (.stop (of_keep (by cases h <;> rfl) (of_keep (by cases h <;> rfl) (pure rfl))) he)

/-- An operand with what stands behind it is read, unless a minus sign stands in front of it. -/
theorem unary (hminus : t ≠ .sign .minus) {mid : List Token} {t' : Token}
    (hoperand : Reads d (t :: ts) (operand inner) is mid)
    (htrailers : ∀ e line, is e → Reads d mid (Reader.postfixes inner e line) is' (t' :: left))
    (h : EndsExpression t') : Reads d (t :: ts) (unary inner) is' (t' :: left) := by
  have signed : Reads d (t :: ts) (signedOperand inner) is mid :=
    behindMarks (isSign_eq_false hminus) hoperand
  refine bind nextLine fun line _ => bind signed fun e he => ?_
  exact bind (htrailers e line he) fun e' he' => filters h he'

theorem comparisonSign (h : EndsExpression t) :
    Reads d (t :: ts) comparisonSign? (· = none) (t :: ts) := by
  refine bind peek? fun _ same => ?_
  rw [same, Option.bind_some, show comparison? t = none by cases h <;> rfl]
  exact of_keep (by cases h <;> rfl) (pure rfl)

theorem comparisons {t' : Token} (h : EndsExpression t')
    (hsums : Reads d ts (sums inner) is (t' :: left)) :
    Reads d ts (comparisons inner) is (t' :: left) := by
  refine bind lastLine fun _ _ => bind hsums fun e he => ?_
  refine bind_eq (a := []) (iterate (.stop ?_ rfl)) (pure he)
  exact bind_eq (comparisonSign h) (pure rfl)

/-- What is read as an operand in front of what no expression goes on with is read so on all levels
of operators. -/
theorem alternatives {t' : Token} (hnot : t.isName "not" = false) (h : EndsExpression t')
    (hunary : Reads d (t :: ts) (Reader.unary inner) is (t' :: left)) :
    Reads d (t :: ts) (alternatives inner) is (t' :: left) := by
  have hsums : Reads d (t :: ts) (sums inner) is (t' :: left) := by
    refine operators (operators (operators (operators hunary ?_) ?_) ?_) ?_ <;> cases h <;> rfl
  refine operators (operators (behindMarks hnot (comparisons h hsums)) ?_) ?_ <;> cases h <;> rfl

theorem choices {t' : Token} (h : EndsExpression t') {bound : Nat}
    (halternatives : Reads d ts (Reader.alternatives inner) is (t' :: left)) :
    Reads d ts (choices inner bound) is (t' :: left) := by
  cases bound with
  | zero => exact halternatives
  | succ bound =>
      refine bind lastLine fun line _ => bind halternatives fun e he => ?_
      refine bind (iterate (.stop (of_keep (by cases h <;> rfl) (pure rfl)) ?_)) fun p hp => pure hp
      exact he

theorem expressions {t' : Token} (h : EndsExpression t') (shallow : d < maxDepth) {bound : Nat}
    (halternatives : Reads (d + 1) ts (Reader.alternatives (expressions bound)) is (t' :: left)) :
    Reads d ts (expressions (bound + 1)) is (t' :: left) :=
  nested shallow (bind cursor fun _ _ => choices h halternatives)

theorem expression {t' : Token} (h : EndsExpression t') (shallow : d < maxDepth)
    (halternatives : ∀ bound, ts.length ≤ bound →
      Reads (d + 1) ts (Reader.alternatives (Reader.expressions bound)) is (t' :: left)) :
    Reads d ts expression is (t' :: left) :=
  bind cursor fun _ hc => expressions h shallow (halternatives _ (Nat.le_of_eq hc.symm))

theorem simpleExpression {t' : Token}
    (halternatives : ∀ bound, ts.length < bound →
      Reads d ts (Reader.alternatives (Reader.expressions bound)) is (t' :: left)) :
    Reads d ts simpleExpression is (t' :: left) :=
  bind cursor fun _ hc => halternatives _ (by omega)

theorem tuple {t' : Token} (hcomma : t'.isSign .comma = false)
    (hpart : Reads d ts part is (t' :: left)) : Reads d ts (tuple part) is (t' :: left) :=
  bind nextLine fun _ _ => bind hpart fun e he => bind (sees _) fun _ same => by
    rw [same, hcomma]
    exact pure he

/-- An operand with nothing behind it is read. -/
theorem alone {t' : Token} (hminus : t ≠ .sign .minus) (hnot : t.isName "not" = false)
    (h : EndsExpression t') (hoperand : Reads d (t :: t' :: ts) (operand inner) is (t' :: ts)) :
    Reads d (t :: t' :: ts) (Reader.alternatives inner) is (t' :: ts) :=
  alternatives hnot h
    (unary hminus hoperand (fun _ _ he => postfixes (no_trailer h he)) h)

/-! ## Statements -/

variable {body : BodyReader}

theorem target_name (hw : reservedNames.contains w = false) (hin : w ≠ "in".toList)
    (hcomma : t.isSign .comma = false) :
    Reads d (.name w :: t :: ts) target (· = .name w) (t :: ts) := by
  have name : Reads d (.name w :: t :: ts) assignableName (· = w) (t :: ts) := by
    refine bind_eq (expect (a := w) rfl _) ?_
    rw [hw]
    exact pure rfl
  have one : Reads d (.name w :: t :: ts) (oneTarget nameTarget) (· = .name w) (t :: ts) :=
    bind cursor fun _ _ => of_keep rfl (bind_eq name (pure rfl))
  have noEnd : endsTargets (.name w) = false := beq_false_of_ne hin
  refine bind nextLine fun line _ => ?_
  refine bind_eq (a := ([.name w], false, true)) (iterate ?_) (pure rfl)
  refine .next (b := ([.name w], false, true)) ?_ (by simp) (.stop (pure rfl) rfl)
  exact of_unseen noEnd (bind_eq one (of_unseen hcomma (pure rfl)))

theorem loopStatement {source : Expr → Prop} {repeated : List Stmt → Prop}
    {mid : List Token} {line : Nat} (hw : reservedNames.contains w = false) (hin : w ≠ "in".toList)
    (hsource : Reads d ts (Reader.tuple Reader.simpleExpression) source (.endStatement :: mid))
    (hbody : Reads d mid (body ["endfor", "else"]) repeated (.name "endfor" :: left)) :
    Reads d (.name w :: .name "in" :: ts) (Reader.loopStatement body line)
      (fun s => ∃ e inside, s = .loop (.name w) e none false inside [] line ∧
        source e ∧ repeated inside) left := by
  refine bind_eq (target_name hw hin rfl) ?_
  refine bind (require (by simp [Token.isName]) _) fun _ _ => bind hsource fun e he => ?_
  refine of_keep rfl (bind_eq (pure rfl) (bind_eq (keep rfl) (bind (require rfl _) fun _ _ => ?_)))
  have noElse : Token.isName "else" (.name "endfor") = false := by decide
  refine bind hbody fun inside hinside => of_keep noElse (bind_eq (pure rfl) ?_)
  refine bind next? fun _ _ => ?_
  exact pure ⟨e, inside, rfl, he, hinside⟩

theorem statement_for {is : Stmt → Prop} (shallow : d < maxDepth)
    (h : ∀ line, Reads (d + 1) ts (Reader.loopStatement body line) is left) :
    Reads d (.name "for" :: ts) (statement body) is left := by
  refine nested shallow (bind_eq (anyToken _) (bind lastLine fun line _ => ?_))
  simp only [String.ofList_toList]
  exact h line

/-! ## Bodies -/

section

variable {other : Reader Stmt} {ends : List Text} {found : List Stmt}
  {made : List Stmt × Bool → Prop}

/-- Text in a body is read. -/
theorem body_text {text : Text}
    (h : ∀ line,
      Repeats d ts (nextStatement? other ends) (.raw text line :: found, false) made left) :
    Repeats d (.data text :: ts) (nextStatement? other ends) (found, false) made left := by
  have step : Reads d (.data text :: ts) (nextStatement? other ends (found, false))
      (fun o => ∃ p, o = some p ∧ ∃ line, p = (.raw text line :: found, false)) ts :=
    bind_eq next? (bind lastLine fun line _ => pure ⟨_, rfl, line, rfl⟩)
  refine .more step (by simp) ?_
  rintro _ ⟨line, rfl⟩
  exact h line

/-- An expression that is to be put into the text is read. -/
theorem body_expression {mid : List Token}
    (hexpr : Reads d ts (Reader.tuple Reader.expression) is (.endExpression :: mid))
    (shorter : mid.length ≤ ts.length)
    (h : ∀ e line, is e →
      Repeats d mid (nextStatement? other ends) (.emit e line :: found, false) made left) :
    Repeats d (.startExpression :: ts) (nextStatement? other ends) (found, false) made left := by
  have step : Reads d (.startExpression :: ts) (nextStatement? other ends (found, false))
      (fun o => ∃ p, o = some p ∧ ∃ e line, is e ∧ p = (.emit e line :: found, false)) mid := by
    refine bind_eq next? (bind lastLine fun line _ => bind hexpr fun e he => ?_)
    exact bind (require rfl _) fun _ _ => pure ⟨_, rfl, e, line, he, rfl⟩
  refine .more step (Nat.lt_succ_of_le shorter) ?_
  rintro _ ⟨e, line, he, rfl⟩
  exact h e line he

/-- A statement is read that does not end the body. -/
theorem body_statement {is : Stmt → Prop} {mid : List Token}
    (goes : (t.name?.map ends.contains).getD false = false)
    (hother : Reads d (t :: ts) other is (.endStatement :: mid))
    (shorter : mid.length ≤ ts.length + 1)
    (h : ∀ s, is s → Repeats d mid (nextStatement? other ends) (s :: found, false) made left) :
    Repeats d (.startStatement :: t :: ts) (nextStatement? other ends) (found, false) made
      left := by
  have step : Reads d (.startStatement :: t :: ts) (nextStatement? other ends (found, false))
      (fun o => ∃ p, o = some p ∧ ∃ s, is s ∧ p = (s :: found, false)) mid := by
    refine bind_eq next? (bind_eq peek? ?_)
    simp only [goes]
    refine bind hother fun s hs => bind (require rfl _) fun _ _ => ?_
    exact pure ⟨_, rfl, s, hs, rfl⟩
  refine .more step (by simp; omega) ?_
  rintro _ ⟨s, hs, rfl⟩
  exact h s hs

/-- A body ends at the word of another statement. -/
theorem body_word (ending : ends.contains w = true) (h : made (found, true)) :
    Repeats d (.startStatement :: .name w :: ts) (nextStatement? other ends) (found, false) made
      (.name w :: ts) := by
  have step : Reads d (.startStatement :: .name w :: ts) (nextStatement? other ends (found, false))
      (· = some (found, true)) (.name w :: ts) := by
    refine bind_eq next? (bind_eq peek? ?_)
    simp only [Token.name?, Option.map_some, Option.getD_some, ending, if_true]
    exact pure rfl
  exact .next step (by simp) (.stop (pure rfl) h)

/-- A body ends with the template. -/
theorem body_end (h : made (found, false)) :
    Repeats d [] (nextStatement? other ends) (found, false) made [] :=
  .stop (bind_eq next?_nil (pure rfl)) h

theorem bodies {bound : Nat} {is : List Stmt → Prop}
    (h : Repeats d ts (nextStatement? (statement (bodies bound)) ends) ([], false)
      (fun p => is p.1.reverse) left) :
    Reads d ts (bodies (bound + 1) ends) is left :=
  bind (iterate h) fun _ hp => pure hp

end

end Reads

/-- What the readers of bodies make of all tokens of a template is its tree. -/
theorem parse_of_reads {t : Text} {placed : List Placed} {is : List Stmt → Prop}
    (ht : tokens t = ⟨placed, none⟩)
    (h : Reads 0 (placed.map Placed.token) (Reader.bodies (placed.length + 1) []) is []) :
    ∃ statements, parse t = .ok statements ∧ is statements := by
  obtain ⟨statements, c, run, good, -⟩ := h
    { rest := placed, failure? := none, line := 0, depth := 0, blocks := [], isInMacro := false }
    rfl rfl rfl
  refine ⟨statements, ?_, good⟩
  unfold parse
  rw [ht]
  simp only [run]

end PatchTrail.Template
