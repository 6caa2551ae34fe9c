import PatchTrail.Proofs.Patcher.Failing

/-!
# Patchers that only check

A patcher that only checks does nothing but stop a patch that no longer fits: it leaves the unit as
it is, or it fails because something it looks for is not there. So wherever it stands among others,
they do with it what they do without it, as long as it succeeds (`Patcher.checks_and_keeps`).
-/

namespace PatchTrail.Patcher

variable {p q : Patcher} {ps : List Patcher} {scopes : List Scope} {t unit_ result : Text}
  {cause : Error} {index : Nat}

/-! ## How a check fails -/

/-- All that stands inside of a patcher that only checks does so, too. -/
theorem Inside.isAssertion (h : Inside q scopes p) (checks : p.isAssertion = true) :
    q.isAssertion = true := by
  induction h with
  | self => exact checks
  | inMethod signature member _ ih =>
      rw [Patcher.isAssertion, areAssertions_eq_all, List.all_eq_true] at checks
      exact ih (checks _ member)
  | inConstant identifier _ ih => exact ih checks

/-- Something that has been looked for has not been found. -/
def Error.IsAbsence (e : Error) : Prop :=
  (∃ sought, e = .notFound sought) ∨ (∃ signature, e = .methodNotFound signature) ∨
    ∃ identifier, e = .constantNotFound identifier

theorem Error.IsAbsence.root_eq {e : Error} (h : e.IsAbsence) : e.root = e := by
  rcases h with ⟨sought, rfl⟩ | ⟨signature, rfl⟩ | ⟨identifier, rfl⟩ <;> rfl

/-- A patcher that only checks fails by itself because it does not find what it looks for. -/
theorem Fails.isAbsence (h : Fails q t cause) (checks : q.isAssertion = true) :
    cause.IsAbsence := by
  cases h with
  | replaceText | replacePattern | custom => cases checks
  | require => exact .inl ⟨_, rfl⟩
  | methodNotFound => exact .inr (.inl ⟨_, rfl⟩)
  | noEffect pass changes =>
      -- only a patcher that does more than check has to have an effect
      rw [isAssertion, areAssertions_eq_all, List.all_eq_true] at checks
      rw [checks _ pass.mem] at changes
      cases changes
  | constantNotFound => exact .inr (.inr ⟨_, rfl⟩)

/-- A patcher that only checks leaves the unit as it is or does not find what it looks for. -/
theorem apply_of_isAssertion (checks : p.isAssertion = true) (unit_ : Text) :
    p.apply unit_ = .ok unit_ ∨ ∃ e, p.apply unit_ = .error e ∧ e.root.IsAbsence := by
  rcases h : p.apply unit_ with e | t
  · obtain ⟨q, t, scopes, cause, reached, fails, rfl⟩ := exists_reached p h
    have absence := fails.isAbsence (reached.isInside.isAssertion checks)
    refine .inr ⟨_, rfl, ?_⟩
    rwa [Error.root_foldr_wrap, absence.root_eq]
  · rw [eq_of_isAssertion p checks unit_ t h]
    exact .inl rfl

/-! ## Checks among other patchers -/

/-- A step that leaves what it is given as it is can be left out, as long as it succeeds. -/
theorem bind_check_eq_ok_iff {ε α β : Type} {x : Except ε α} {check : α → Except ε α}
    {f : α → Except ε β} {b : β} (keeps : ∀ a a', check a = .ok a' → a' = a) :
    (x >>= fun a => check a >>= f) = .ok b ↔
      (x >>= f) = .ok b ∧ ∃ a, x = .ok a ∧ check a = .ok a := by
  simp only [bind_eq_ok_iff]
  constructor
  · rintro ⟨a, hx, a', hcheck, hf⟩
    obtain rfl := keeps a a' hcheck
    exact ⟨⟨a', hx, hf⟩, a', hx, hcheck⟩
  · rintro ⟨⟨a, hx, hf⟩, a', hx', hcheck⟩
    obtain rfl := Except.ok.inj (hx.symm.trans hx')
    exact ⟨a, hx, a, hcheck, hf⟩

/-- Where a patcher stands among others matters only if one of them fails. -/
theorem applyAll_eq_ok_iff :
    applyAll index ps unit_ = .ok result ↔ ps.foldlM (fun t p => p.apply t) unit_ = .ok result := by
  induction ps generalizing index unit_ with
  | nil => simp [applyAll, pure, Except.pure]
  | cons p rest ih =>
      rw [applyAll, List.foldlM_cons]
      rcases p.apply unit_ with e | t
      · simp [bind, Except.bind]
      · exact ih

/-- Patchers that only check are pure, however deep they nest. Run on a unit, one leaves it as it is
or fails with a failure at whose root is something that has not been found. Put among other
patchers, on a unit or on the bodies of a method, it only has to succeed on what those in front of
it have left: what comes of all of them is then what comes of the others alone. -/
theorem checks_and_keeps (p : Patcher) (checks : p.isAssertion = true) :
    (∀ unit_, p.apply unit_ = .ok unit_ ∨
        ∃ e, p.apply unit_ = .error e ∧ e.root.IsAbsence) ∧
      (∀ index before behind unit_ result,
        applyAll index (before ++ p :: behind) unit_ = .ok result ↔
          applyAll index (before ++ behind) unit_ = .ok result ∧
            ∃ t, applyAll index before unit_ = .ok t ∧ p.apply t = .ok t) ∧
      ∀ signature before behind unit_ result,
        (inMethod signature (before ++ p :: behind)).apply unit_ = .ok result ↔
          (inMethod signature (before ++ behind)).apply unit_ = .ok result ∧
            ∃ t, (inMethod signature before).apply unit_ = .ok t ∧
              (inMethod signature [p]).apply t = .ok t := by
  have keeps := eq_of_isAssertion p checks
  refine ⟨apply_of_isAssertion checks, fun index before behind unit_ result => ?_,
    fun signature before behind unit_ result => ?_⟩
  · simp only [applyAll_eq_ok_iff, List.foldlM_append, List.foldlM_cons]
    exact bind_check_eq_ok_iff keeps
  · rw [apply_inMethod_append, apply_inMethod_append,
      funext (apply_inMethod_cons signature p behind)]
    exact bind_check_eq_ok_iff fun t t' => inMethod_eq_self keeps

/-- A check of a constant inside of a method, between two patchers. -/
theorem checks_and_keeps_constant :
    (inMethod "f" [inConstant "A:I" (require "0x1")]).isAssertion = true ∧
      applyAll 0 [append "# a\n", inMethod "f" [inConstant "A:I" (require "0x1")], append "# b\n"]
          ".method f\n.field A:I = 0x1\n.end method\n" =
        .ok ".method f\n.field A:I = 0x1\n.end method\n# a\n# b\n" ∧
      applyAll 0 [append "# a\n", append "# b\n"] ".method f\n.field A:I = 0x1\n.end method\n" =
        .ok ".method f\n.field A:I = 0x1\n.end method\n# a\n# b\n" := by
  have checks : (inMethod "f" [inConstant "A:I" (require "0x1")]).isAssertion = true := rfl
  have h : applyAll 0
      [append "# a\n", inMethod "f" [inConstant "A:I" (require "0x1")], append "# b\n"]
      ".method f\n.field A:I = 0x1\n.end method\n" =
        .ok ".method f\n.field A:I = 0x1\n.end method\n# a\n# b\n" := rfl
  exact ⟨checks, h, (((checks_and_keeps _ checks).2.1 0 [append "# a\n"] [append "# b\n"] _ _).mp
    h).1⟩

end PatchTrail.Patcher
