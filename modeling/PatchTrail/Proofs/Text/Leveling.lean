import PatchTrail.Proofs.Text.Indenting

/-!
# Fragments that are on their base

What `fixIndent` returns is made of level lines, each with a line feed behind it (`Level`,
`Settled.level`), and level lines are left as they are: behind a line feed they are a fragment
again, whose base is nothing and all of whose lines stay (`fixIndent_unlines`). A fragment that has
been put on its base therefore passes through unchanged (`fixIndent_normal`).
-/

namespace PatchTrail.Text

variable {line out : Text} {ls : List Text} {base : Nat}

/-! ## Level lines -/

/-- A line that nothing has to be done about: it does not begin with a tabulator, and it is empty if
it is blank. -/
structure Level (line : Text) : Prop where
  untabbed : line.head? ≠ some '\t'
  bare : line.isBlank → line = []

theorem level_nil : Level [] := ⟨nofun, fun _ => rfl⟩

theorem level_of_full (first : line.head? ≠ some '\t') (full : ¬ line.isBlank) : Level line :=
  ⟨first, fun blank => absurd blank full⟩

theorem isBlank_append {s t : Text} : (s ++ t).isBlank ↔ s.isBlank ∧ t.isBlank := by
  simp [isBlank]

/-- Spaces in front of a line that is not blank, in the place of tabulators. -/
theorem level_spaces {content : Text} (first : content.head? ≠ some '\t')
    (full : ¬ content.isBlank) (n : Nat) : Level (List.replicate n ' ' ++ content) := by
  refine level_of_full ?_ fun blank => full (isBlank_append.mp blank).2
  cases n with
  | zero => exact first
  | succ n => simp [List.replicate_succ]

/-- Of a line a level line is made, with a line feed behind it. No line end comes into it. -/
theorem Settled.level (h : Settled base line out) (inside : '\n' ∉ line)
    (unreturned : '\r' ∉ line) :
    ∃ level, out = level ++ ['\n'] ∧ Level level ∧ '\n' ∉ level ∧ '\r' ∉ level := by
  cases h with
  | blank => exact ⟨[], rfl, level_nil, List.not_mem_nil, List.not_mem_nil⟩
  | @indented deeper content first full =>
      have spaced : ∀ c, c ≠ ' ' → c ∉ content →
          c ∉ List.replicate (4 * deeper) ' ' ++ content := fun c hc hcontent hmem =>
        (List.mem_append.mp hmem).elim (fun h => hc (List.eq_of_mem_replicate h)) hcontent
      have part : ∀ c ∈ content,
          c ∈ List.replicate base '\t' ++ (List.replicate deeper '\t' ++ content) := fun c hc =>
        List.mem_append_right _ (List.mem_append_right _ hc)
      exact ⟨_, rfl, level_spaces first full _,
        spaced '\n' (by decide) fun hmem => inside (part _ hmem),
        spaced '\r' (by decide) fun hmem => unreturned (part _ hmem)⟩

/-- A level line stays what it is if the base is nothing. -/
theorem Level.settled (h : Level line) : Settled 0 line (line ++ ['\n']) := by
  by_cases blank : line.isBlank
  · cases h.bare blank
    exact .blank rfl
  · have whole : Settled 0 (List.replicate 0 '\t' ++ (List.replicate 0 '\t' ++ line))
        (List.replicate (4 * 0) ' ' ++ line ++ ['\n']) := .indented h.untabbed blank
    exact whole

/-! ## Texts of level lines -/

theorem not_mem_of_hasLines {c : Char} {t : Text} (h : HasLines t ls) (absent : c ∉ t) :
    ∀ line ∈ ls, c ∉ line := by
  induction h with
  | nil => exact nofun
  | unended => exact fun line hline => List.mem_singleton.mp hline ▸ absent
  | feed _ _ _ ih =>
      rw [List.mem_append, not_or, List.mem_cons, not_or] at absent
      exact List.forall_mem_cons.mpr ⟨absent.1, ih absent.2.2⟩
  | returned _ _ ih =>
      rw [List.mem_append, not_or, List.mem_cons, not_or, List.mem_cons, not_or] at absent
      exact List.forall_mem_cons.mpr ⟨absent.1, ih absent.2.2.2⟩

theorem feedless_of_hasLines {t : Text} (h : HasLines t ls) : ∀ line ∈ ls, '\n' ∉ line := by
  induction h with
  | nil => exact nofun
  | unended _ inside => exact List.forall_mem_cons.mpr ⟨inside, nofun⟩
  | feed inside _ _ ih => exact List.forall_mem_cons.mpr ⟨inside, ih⟩
  | returned inside _ ih => exact List.forall_mem_cons.mpr ⟨inside, ih⟩

/-- Lines with a line feed behind each are what their text falls into. -/
theorem hasLines_unlines (inside : ∀ line ∈ ls, '\n' ∉ line)
    (unreturned : ∀ line ∈ ls, '\r' ∉ line) : HasLines (unlines ls) ls := by
  induction ls with
  | nil => exact .nil
  | cons line ls ih =>
      obtain ⟨inside, hinside⟩ := List.forall_mem_cons.mp inside
      obtain ⟨unreturned, hunreturned⟩ := List.forall_mem_cons.mp unreturned
      have last : line.getLast? ≠ some '\r' := fun h => unreturned (List.mem_of_getLast? h)
      have split : unlines (line :: ls) = line ++ '\n' :: unlines ls := by simp [unlines]
      rw [split]
      exact .feed inside last (ih hinside hunreturned)

theorem unlines_eq_nil_or (ls : List Text) :
    unlines ls = [] ∨ (unlines ls).getLast? = some '\n' := by
  rcases List.eq_nil_or_concat ls with rfl | ⟨ls, line, rfl⟩
  · exact .inl rfl
  · refine .inr ?_
    simp [unlines, ← List.append_assoc]

/-- What becomes of the lines of a fragment are level lines. -/
theorem exists_level {outs : List Text} (each : List.Forall₂ (Settled base) ls outs)
    (inside : ∀ line ∈ ls, '\n' ∉ line) (unreturned : ∀ line ∈ ls, '\r' ∉ line) :
    ∃ levels, outs.flatten = unlines levels ∧
      ∀ line ∈ levels, Level line ∧ '\n' ∉ line ∧ '\r' ∉ line := by
  induction each with
  | nil => exact ⟨[], rfl, nofun⟩
  | cons settled _ ih =>
      obtain ⟨inside, hinside⟩ := List.forall_mem_cons.mp inside
      obtain ⟨unreturned, hunreturned⟩ := List.forall_mem_cons.mp unreturned
      obtain ⟨levels, more, hlevels⟩ := ih hinside hunreturned
      obtain ⟨level, rfl, hlevel⟩ := settled.level inside unreturned
      exact ⟨level :: levels, by simp [unlines, more], List.forall_mem_cons.mpr ⟨hlevel, hlevels⟩⟩

/-- A text of level lines is on its base. -/
theorem fixIndent_unlines (h : ∀ line ∈ ls, Level line ∧ '\n' ∉ line ∧ '\r' ∉ line) :
    fixIndent ('\n' :: unlines ls) = .ok (unlines ls) := by
  have lined : HasLines (unlines ls) ls :=
    hasLines_unlines (fun line hline => (h line hline).2.1) fun line hline => (h line hline).2.2
  obtain ⟨body, base, ls', split, -, hls', run⟩ := exists_base (unlines ls)
  -- the text ends in a line feed, so there are no tabulators at its end
  have none : base = 0 := by
    cases base with
    | zero => rfl
    | succ n =>
        rw [List.replicate_succ', ← List.append_assoc] at split
        rcases unlines_eq_nil_or ls with empty | feed
        · rw [empty] at split
          exact absurd split (by simp)
        · rw [split, List.getLast?_concat] at feed
          exact absurd feed (by decide)
  subst none
  rw [List.replicate_zero, List.append_nil] at split
  subst split
  rw [run, fixIndentLines_eq_ok_iff, ← hasLines_iff.mp lined]
  refine ⟨ls.map (· ++ ['\n']), ?_, by rw [unlines, List.flatMap_def]⟩
  rw [List.forall₂_map_right_iff, List.forall₂_same]
  exact fun line hline => (h line hline).1.settled

/-- What a fragment becomes is a text of level lines. -/
theorem exists_level_of_fixIndent {t : Text} (unreturned : '\r' ∉ t)
    (h : fixIndent t = .ok out) :
    ∃ levels, out = unlines levels ∧
      ∀ line ∈ levels, Level line ∧ '\n' ∉ line ∧ '\r' ∉ line := by
  cases t with
  | nil =>
      cases h
      exact ⟨[], rfl, nofun⟩
  | cons c t =>
      obtain ⟨-, ⟨body, base, ls, split, -, hls, -, run⟩, -⟩ := fixIndent_linewise c t
      obtain ⟨-, outs, each, rfl⟩ := (run out).mp h
      have absent : '\r' ∉ body := fun hmem =>
        unreturned (List.mem_cons_of_mem c (split ▸ List.mem_append_left _ hmem))
      exact exists_level each (feedless_of_hasLines hls) (not_mem_of_hasLines hls absent)

/-- **A fragment on its base is a normal form.** If a text without carriage returns can be put on
its base, then the outcome is empty or ends in a line feed, none of the lines it falls into begins
with a tabulator, those that are blank are empty, and behind a line feed it is a fragment that is on
its base already. -/
theorem fixIndent_normal (t out : Text) (unreturned : '\r' ∉ t) (h : fixIndent t = .ok out) :
    (out = [] ∨ out.getLast? = some '\n') ∧
    (∃ ls, HasLines out ls ∧
      ∀ line ∈ ls, line.head? ≠ some '\t' ∧ (line.isBlank → line = [])) ∧
    fixIndent ('\n' :: out) = .ok out := by
  obtain ⟨ls, rfl, hls⟩ := exists_level_of_fixIndent unreturned h
  refine ⟨unlines_eq_nil_or ls, ⟨ls, ?_, ?_⟩, fixIndent_unlines hls⟩
  · exact hasLines_unlines (fun line hline => (hls line hline).2.1)
      fun line hline => (hls line hline).2.2
  · exact fun line hline => ⟨(hls line hline).1.untabbed, (hls line hline).1.bare⟩

/-- Spaces behind the base, a blank line, a deeper line, and tabulators inside of the last line. -/
theorem fixIndent_normal_mixed :
    fixIndent "\n\t \ta\n\t\u00a0\n\t\t\tb\tc\t\n\t" = .ok " \ta\n\n        b\tc\t\n".toList ∧
    fixIndent ('\n' :: " \ta\n\n        b\tc\t\n".toList) =
      .ok " \ta\n\n        b\tc\t\n".toList := by
  have h : fixIndent "\n\t \ta\n\t\u00a0\n\t\t\tb\tc\t\n\t" =
      .ok " \ta\n\n        b\tc\t\n".toList := by decide
  exact ⟨h, (fixIndent_normal _ _ (by decide) h).2.2⟩

end PatchTrail.Text
