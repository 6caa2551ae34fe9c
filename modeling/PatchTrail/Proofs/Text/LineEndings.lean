import PatchTrail.Text.Replace

/-!
# Normalizing line endings again and again

A text that is edited several times has its line endings normalized each time. Unless there were two
carriage returns before a line feed, the first time leaves none before a line feed
(`bare_normalizeLineEndings_iff`) and the others change nothing
(`normalizeLineEndings_eq_self_iff`). But where lines were put behind a text, a carriage return that
was its last character is before a line feed now, so the next time leaves it out
(`Bare.normalizeLineEndings_append`). Carriage returns that were put before line feeds of a text
without such pairs are left out again, however many of the line feeds got one
(`Returned.normalizeLineEndings`).
-/

namespace PatchTrail.Text

variable {s t : Text}

/-- No carriage return stands right before a line feed. -/
def Bare (t : Text) : Prop := ¬ (['\r', '\n'] : Text) <:+: t

/-- No carriage return stands right before another with a line feed behind it. -/
def Single (t : Text) : Prop := ¬ (['\r', '\r', '\n'] : Text) <:+: t

/-- A text without the carriage return at its end, if there is one. -/
def dropReturn (t : Text) : Text := if t.getLast? = some '\r' then t.dropLast else t

/-- A text without so many carriage returns at its end, as far as there are any. -/
def dropReturns : Nat → Text → Text
  | 0, t => t
  | n + 1, t => dropReturn (dropReturns n t)

/-! ## Texts without pairs -/

theorem Bare.of_infix (h : Bare t) (hs : s <:+: t) : Bare s := fun pair => h (pair.trans hs)

theorem Bare.tail {c : Char} (h : Bare (c :: t)) : Bare t :=
  h.of_infix (List.suffix_cons c t).isInfix

theorem isPrefix_dropReturn (t : Text) : dropReturn t <+: t := by
  unfold dropReturn
  split
  · exact List.dropLast_prefix t
  · exact List.prefix_rfl

theorem isPrefix_dropReturns (n : Nat) (t : Text) : dropReturns n t <+: t := by
  induction n with
  | zero => exact List.prefix_rfl
  | succ n ih => exact (isPrefix_dropReturn _).trans ih

theorem Bare.dropReturns (h : Bare t) (n : Nat) : Bare (dropReturns n t) :=
  h.of_infix (isPrefix_dropReturns n t).isInfix

theorem bare_of_not_mem (h : '\r' ∉ t) : Bare t := fun pair =>
  h (pair.subset List.mem_cons_self)

theorem single_of_not_mem (h : '\r' ∉ t) : Single t := fun pair =>
  h (pair.subset List.mem_cons_self)

theorem Bare.append (hs : Bare s) (ht : Bare t)
    (apart : s.getLast? = some '\r' → t.head? ≠ some '\n') : Bare (s ++ t) := by
  induction s with
  | nil => exact ht
  | cons c s ih =>
      intro pair
      rcases List.infix_cons_iff.mp pair with first | pair
      · obtain ⟨rfl, feed⟩ := List.cons_prefix_cons.mp first
        cases s with
        | nil =>
            obtain ⟨more, rfl⟩ := feed
            exact apart rfl rfl
        | cons b s =>
            obtain ⟨hb, -⟩ := List.cons_prefix_cons.mp feed
            subst hb
            exact hs (List.prefix_append ['\r', '\n'] s).isInfix
      · refine ih hs.tail (fun last => apart ?_) pair
        cases s with
        | nil => cases last
        | cons b s => rwa [List.getLast?_cons_cons]

theorem Bare.getLast?_ne (h : Bare (s ++ t)) (begins : t.head? = some '\n') :
    s.getLast? ≠ some '\r' := by
  intro last
  obtain ⟨s, rfl⟩ := List.getLast?_eq_some_iff.mp last
  obtain ⟨t, rfl⟩ := List.head?_eq_some_iff.mp begins
  exact h ⟨s, t, by simp⟩

/-! ## Normalizing -/

/-- Where there is nothing to normalize nothing changes. -/
theorem Bare.normalizeLineEndings (h : Bare t) : t.normalizeLineEndings = t := by
  fun_induction Text.normalizeLineEndings t with
  | case1 rest ih => exact absurd (List.prefix_append _ rest).isInfix h
  | case2 c rest _ ih => rw [ih h.tail]
  | case3 => rfl

theorem normalizeLineEndings_cons {c : Char} (h : ¬ (c = '\r' ∧ t.head? = some '\n')) :
    normalizeLineEndings (c :: t) = c :: t.normalizeLineEndings := by
  rw [normalizeLineEndings]
  rintro rest rfl rfl
  exact h ⟨rfl, rfl⟩

/-- A line feed that begins a normalized text began the text, or a carriage return stood before
it. -/
theorem head?_of_normalizeLineEndings (h : t.normalizeLineEndings.head? = some '\n') :
    t.head? = some '\n' ∨ (['\r', '\n'] : Text) <+: t := by
  fun_induction Text.normalizeLineEndings t with
  | case1 rest _ => exact .inr (List.prefix_append _ rest)
  | case2 c rest _ _ => exact .inl h
  | case3 => cases h

theorem bare_normalizeLineEndings (h : Single t) : Bare t.normalizeLineEndings := by
  fun_induction Text.normalizeLineEndings t with
  | case1 rest ih =>
      intro pair
      rcases List.infix_cons_iff.mp pair with first | pair
      · exact absurd (List.cons_prefix_cons.mp first).1 (by decide)
      · refine ih (fun pair => h ?_) pair
        exact pair.trans ((List.suffix_cons _ _).trans (List.suffix_cons _ _)).isInfix
  | case2 c rest alone ih =>
      intro pair
      rcases List.infix_cons_iff.mp pair with first | pair
      · -- the line feed behind this return was the end of a pair, so two returns stood before it
        obtain ⟨rfl, more, hmore⟩ := List.cons_prefix_cons.mp first
        have begins : (normalizeLineEndings rest).head? = some '\n' := by
          rw [← hmore]
          rfl
        rcases head?_of_normalizeLineEndings begins with hfeed | hpair
        · obtain ⟨more, rfl⟩ := List.head?_eq_some_iff.mp hfeed
          exact alone more rfl rfl
        · exact h (List.cons_prefix_cons.mpr ⟨rfl, hpair⟩).isInfix
      · exact ih (fun pair => h (pair.trans (List.suffix_cons _ _).isInfix)) pair
  | case3 => exact bare_of_not_mem List.not_mem_nil

theorem single_of_bare_normalizeLineEndings (h : Bare t.normalizeLineEndings) : Single t := by
  fun_induction Text.normalizeLineEndings t with
  | case1 rest ih =>
      intro triple
      rcases List.infix_cons_iff.mp triple with first | triple
      · exact absurd (List.cons_prefix_cons.mp (List.cons_prefix_cons.mp first).2).1 (by decide)
      · rcases List.infix_cons_iff.mp triple with first | triple
        · exact absurd (List.cons_prefix_cons.mp first).1 (by decide)
        · exact ih h.tail triple
  | case2 c rest alone ih =>
      intro triple
      rcases List.infix_cons_iff.mp triple with first | triple
      · -- of the pair behind this return the line feed stays, right behind this return
        obtain ⟨rfl, more, rfl⟩ := List.cons_prefix_cons.mp first
        exact h (List.prefix_append ['\r', '\n'] _).isInfix
      · exact ih h.tail triple
  | case3 => exact single_of_not_mem List.not_mem_nil

/-- Normalizing leaves no pair if and only if no return stands before a pair. -/
theorem bare_normalizeLineEndings_iff : Bare t.normalizeLineEndings ↔ Single t :=
  ⟨single_of_bare_normalizeLineEndings, bare_normalizeLineEndings⟩

/-- Normalizing changes nothing if and only if there are no pairs. -/
theorem normalizeLineEndings_eq_self_iff : t.normalizeLineEndings = t ↔ Bare t := by
  refine ⟨fun h => ?_, Bare.normalizeLineEndings⟩
  fun_induction Text.normalizeLineEndings t with
  | case1 rest _ => exact absurd (List.cons.inj h).1 (by decide)
  | case2 c rest alone ih =>
      intro pair
      rcases List.infix_cons_iff.mp pair with first | pair
      · obtain ⟨rfl, more, rfl⟩ := List.cons_prefix_cons.mp first
        exact alone more rfl rfl
      · exact ih (List.cons.inj h).2 pair
  | case3 => exact bare_of_not_mem List.not_mem_nil

/-- What is put behind a text in lines of its own is left alone, and of the text a carriage return
at its end is left out. -/
theorem Bare.normalizeLineEndings_append (h : Bare s) (lines : '\r' ∉ t)
    (begins : t.head? = some '\n') : (s ++ t).normalizeLineEndings = dropReturn s ++ t := by
  induction s with
  | nil => exact (bare_of_not_mem lines).normalizeLineEndings
  | cons c s ih =>
      cases s with
      | nil =>
          by_cases hc : c = '\r'
          · subst hc
            obtain ⟨more, rfl⟩ := List.head?_eq_some_iff.mp begins
            have rest := (bare_of_not_mem lines).tail.normalizeLineEndings
            change '\n' :: Text.normalizeLineEndings more = '\n' :: more
            rw [rest]
          · have last : dropReturn [c] = [c] := if_neg (by simpa using hc)
            rw [List.singleton_append, normalizeLineEndings_cons fun h => hc h.1,
              (bare_of_not_mem lines).normalizeLineEndings, last]
            rfl
      | cons b s =>
          have apart : ¬ (c = '\r' ∧ (b :: s ++ t).head? = some '\n') := by
            rintro ⟨rfl, hb⟩
            cases hb
            exact h (List.prefix_append ['\r', '\n'] s).isInfix
          have last : dropReturn (c :: b :: s) = c :: dropReturn (b :: s) := by
            unfold dropReturn
            rw [List.getLast?_cons_cons, List.dropLast_cons_cons]
            split <;> rfl
          rw [List.cons_append, normalizeLineEndings_cons apart, ih h.tail, last]
          rfl

/-! ## Returns put before line feeds -/

/-- Carriage returns have been put before some of the line feeds of a text. -/
inductive Returned : Text → Text → Prop where
  | nil : Returned [] []
  | same {s t : Text} (c : Char) (rest : Returned s t) : Returned (c :: s) (c :: t)
  | feed {s t : Text} (rest : Returned s t) : Returned ('\n' :: s) ('\r' :: '\n' :: t)

/-- A line feed stands at the beginning only if there was one. -/
theorem Returned.head? (h : Returned s t) (begins : t.head? = some '\n') : s.head? = some '\n' := by
  cases h with
  | nil => exact begins
  | same => exact begins
  | feed => exact absurd (Option.some.inj begins) (by decide)

/-- The carriage returns that have been put before line feeds are left out again. -/
theorem Returned.normalizeLineEndings (h : Returned s t) (bare : Bare s) :
    t.normalizeLineEndings = s := by
  induction h with
  | nil => rfl
  | @same s t c rest ih =>
      rw [normalizeLineEndings_cons, ih bare.tail]
      rintro ⟨rfl, begins⟩
      obtain ⟨more, rfl⟩ := List.head?_eq_some_iff.mp (rest.head? begins)
      exact bare (List.prefix_append ['\r', '\n'] more).isInfix
  | @feed s t rest ih =>
      rw [Text.normalizeLineEndings, ih bare.tail]

end PatchTrail.Text
