import PatchTrail.Proofs.Text.Pieces
import PatchTrail.Text.Encoding
import PatchTrail.Text.Indent
import Mathlib.Data.List.Forall2

/-!
# Fragments line by line

A text falls into lines without their ends in one way (`hasLines_iff`). Putting a fragment on its
base is a matter of each of its lines: a line either strays from the base or becomes what `Settled`
says (`fixIndentLine_eq_none_iff`, `fixIndentLine_eq_some_iff`), the first line that strays is
reported, and otherwise the lines are put together again (`fixIndent_linewise`). It makes no
difference that the base is cut off by a number of bytes: as many bytes that are all tabulators end
where a character ends (`fixIndentBySize?_eq`).
-/

namespace PatchTrail.Text

variable {t line out : Text} {ls : List Text} {base n : Nat}

/-! ## Lines without their ends -/

/-- A text falls into lines. Each ends in a line feed, perhaps with a carriage return in front of
it, which do not belong to the line; the last one may do without if it is not empty. -/
inductive HasLines : Text → List Text → Prop where
  | nil : HasLines [] []
  | unended {line : Text} (full : line ≠ []) (inside : '\n' ∉ line) : HasLines line [line]
  | feed {line t : Text} {ls : List Text} (inside : '\n' ∉ line)
      (last : line.getLast? ≠ some '\r') (more : HasLines t ls) :
      HasLines (line ++ '\n' :: t) (line :: ls)
  | returned {line t : Text} {ls : List Text} (inside : '\n' ∉ line) (more : HasLines t ls) :
      HasLines (line ++ '\r' :: '\n' :: t) (line :: ls)

theorem stripLineEnd_unended (h : '\n' ∉ line) : stripLineEnd line = line := by
  unfold stripLineEnd
  split
  all_goals first | rfl | skip
  all_goals
    rename_i heq
    exact absurd (List.mem_reverse.mp (heq ▸ List.mem_cons_self)) h

theorem stripLineEnd_returned (line : Text) : stripLineEnd (line ++ ['\r', '\n']) = line := by
  unfold stripLineEnd
  simp

theorem stripLineEnd_feed (last : line.getLast? ≠ some '\r') :
    stripLineEnd (line ++ ['\n']) = line := by
  unfold stripLineEnd
  rw [List.reverse_append]
  split
  · next rest heq =>
      have returned : line.reverse = '\r' :: rest := (List.cons.inj heq).2
      rw [← List.head?_reverse, returned] at last
      exact absurd rfl last
  · next rest _ heq =>
      have others : line.reverse = rest := (List.cons.inj heq).2
      rw [← others, List.reverse_reverse]
  · next other => exact absurd rfl (other _)

theorem lines_unended (full : line ≠ []) (inside : '\n' ∉ line) : lines line = [line] := by
  induction line with
  | nil => exact absurd rfl full
  | cons c line ih =>
      obtain ⟨hc, hline⟩ := List.ne_and_not_mem_of_not_mem_cons inside
      rw [lines, if_neg (Ne.symm hc)]
      by_cases more : line = []
      · rw [more]
        rfl
      · rw [ih more hline]

theorem HasLines.eq (h : HasLines t ls) : ls = (lines t).map stripLineEnd := by
  induction h with
  | nil => rfl
  | unended full inside =>
      rw [lines_unended full inside, List.map_singleton, stripLineEnd_unended inside]
  | feed inside last more ih =>
      rw [lines_append_feed inside, List.map_cons, stripLineEnd_feed last, ih]
  | @returned line t ls inside more ih =>
      have inside' : '\n' ∉ line ++ ['\r'] := by simpa using inside
      have split : line ++ '\r' :: '\n' :: t = (line ++ ['\r']) ++ '\n' :: t := by simp
      rw [split, lines_append_feed inside', List.map_cons, ih, List.append_assoc]
      exact congrArg (· :: _) (stripLineEnd_returned line).symm

theorem exists_hasLines (t : Text) : ∃ ls, HasLines t ls := by
  induction hlength : t.length using Nat.strongRecOn generalizing t with
  | _ n ih =>
  by_cases feed : '\n' ∈ t
  · obtain ⟨line, rest, rfl, inside⟩ := List.eq_append_cons_of_mem feed
    obtain ⟨ls, more⟩ := ih rest.length (by rw [← hlength]; simp; omega) rest rfl
    by_cases last : line.getLast? = some '\r'
    · obtain ⟨line, rfl⟩ := List.getLast?_eq_some_iff.mp last
      rw [List.append_assoc]
      exact ⟨_, .returned (fun hmem => inside (List.mem_append_left _ hmem)) more⟩
    · exact ⟨_, .feed inside last more⟩
  · by_cases full : t = []
    · exact ⟨[], full ▸ .nil⟩
    · exact ⟨[t], .unended full feed⟩

/-- A text falls into the lines that it is cut into, less their line ends. -/
theorem hasLines_iff : HasLines t ls ↔ ls = (lines t).map stripLineEnd := by
  refine ⟨HasLines.eq, fun h => ?_⟩
  obtain ⟨ls', h'⟩ := exists_hasLines t
  rwa [h, ← h'.eq]

/-! ## One line -/

/-- A line is not blank, and not indented as far as the base. -/
def Strays (base : Nat) (line : Text) : Prop :=
  ¬ line.isBlank ∧ ¬ List.replicate base '\t' <+: line

/-- What becomes of a line on a base of so many tabulators: nothing is left of a blank line but its
end, and of any other line the base is left out and each tabulator behind it becomes four spaces. -/
inductive Settled (base : Nat) : Text → Text → Prop where
  | blank {line : Text} (h : line.isBlank) : Settled base line ['\n']
  | indented {deeper : Nat} {content : Text} (first : content.head? ≠ some '\t')
      (full : ¬ content.isBlank) :
      Settled base (List.replicate base '\t' ++ (List.replicate deeper '\t' ++ content))
        (List.replicate (4 * deeper) ' ' ++ content ++ ['\n'])

theorem isBlank_tabs (n : Nat) : isBlank (List.replicate n '\t') :=
  List.all_eq_true.mpr fun _ hc => List.eq_of_mem_replicate hc ▸ rfl

theorem isBlank_tabs_append (n : Nat) (t : Text) :
    isBlank (List.replicate n '\t' ++ t) = t.isBlank := by
  have tabs : (List.replicate n '\t').all PatchTrail.isBlank = true := isBlank_tabs n
  unfold isBlank
  rw [List.all_append, tabs, Bool.true_and]

/-- Some tabulators begin a text, and something else is behind them. -/
theorem exists_tabs (t : Text) : ∃ deeper content,
    t = List.replicate deeper '\t' ++ content ∧ content.head? ≠ some '\t' := by
  refine ⟨(t.takeWhile (· == '\t')).length, t.dropWhile (· == '\t'), ?_, fun h => ?_⟩
  · have tabs : t.takeWhile (· == '\t') =
        List.replicate (t.takeWhile (· == '\t')).length '\t' :=
      List.eq_replicate_iff.mpr ⟨rfl, fun c hc => by simpa using List.mem_takeWhile_imp hc⟩
    rw [← tabs, List.takeWhile_append_dropWhile]
  · have head := List.head?_dropWhile_not (· == '\t') t
    rw [h] at head
    exact absurd head (by decide)

theorem dropWhile_tabs {content : Text} (first : content.head? ≠ some '\t') (n : Nat) :
    (List.replicate n '\t' ++ content).dropWhile (· == '\t') = content := by
  have tabs : ∀ c ∈ List.replicate n '\t', (c == '\t') = true := fun c hc =>
    beq_iff_eq.mpr (List.eq_of_mem_replicate hc)
  rw [List.dropWhile_append_of_pos tabs]
  cases content with
  | nil => rfl
  | cons c content =>
      exact List.dropWhile_cons_of_neg (by simpa using first)

/-- A line that is indented as far as the base, and is not blank. -/
theorem fixIndentLine_indented {deeper : Nat} {content : Text}
    (first : content.head? ≠ some '\t') (full : ¬ content.isBlank) :
    fixIndentLine base (List.replicate base '\t' ++ (List.replicate deeper '\t' ++ content)) =
      some (List.replicate (4 * deeper) ' ' ++ content ++ ['\n']) := by
  have extra : (List.replicate deeper '\t' ++ content).length - content.length = deeper := by simp
  unfold fixIndentLine
  rw [isBlank_tabs_append, isBlank_tabs_append, if_neg full, dropPrefix?_append]
  simp only [dropWhile_tabs first, extra]

/-- A line strays, or something becomes of it. -/
theorem strays_or_settled (base : Nat) (line : Text) :
    Strays base line ∧ fixIndentLine base line = none ∨
      ∃ out, Settled base line out ∧ fixIndentLine base line = some out := by
  by_cases blank : line.isBlank
  · exact .inr ⟨['\n'], .blank blank, if_pos blank⟩
  · cases hdrop : dropPrefix? (List.replicate base '\t') line with
    | none =>
        have off : ¬ List.replicate base '\t' <+: line := by
          rintro ⟨rest, rfl⟩
          rw [dropPrefix?_append] at hdrop
          cases hdrop
        refine .inl ⟨⟨blank, off⟩, ?_⟩
        unfold fixIndentLine
        rw [if_neg blank, hdrop]
    | some rest =>
        obtain rfl := dropPrefix?_eq_some.mp hdrop
        obtain ⟨deeper, content, rfl, first⟩ := exists_tabs rest
        rw [isBlank_tabs_append, isBlank_tabs_append] at blank
        exact .inr ⟨_, .indented first blank, fixIndentLine_indented first blank⟩

theorem Settled.not_strays (h : Settled base line out) : ¬ Strays base line := by
  rintro ⟨full, off⟩
  cases h with
  | blank blank => exact full blank
  | indented => exact off (List.prefix_append _ _)

theorem fixIndentLine_eq_none_iff : fixIndentLine base line = none ↔ Strays base line := by
  rcases strays_or_settled base line with ⟨strays, h⟩ | ⟨out, settled, h⟩
  · exact iff_of_true h strays
  · rw [h]
    exact iff_of_false nofun settled.not_strays

/-- What becomes of a line is determined by it. -/
theorem Settled.fixIndentLine_eq (h : Settled base line out) :
    fixIndentLine base line = some out := by
  cases h with
  | blank blank => exact if_pos blank
  | indented first full => exact fixIndentLine_indented first full

theorem fixIndentLine_eq_some_iff : fixIndentLine base line = some out ↔ Settled base line out := by
  refine ⟨fun h => ?_, Settled.fixIndentLine_eq⟩
  rcases strays_or_settled base line with ⟨-, h'⟩ | ⟨out', settled, h'⟩
  · cases h.symm.trans h'
  · cases h.symm.trans h'
    exact settled

/-! ## The base as a number of bytes -/

/-- What becomes of a line if the base is a number of bytes. If the line has as many bytes in front
of one of its characters or its end, and they are tabulators, then it is cut there: the answer is
`none` if it cannot be cut. -/
def fixIndentBySize? (base : Nat) (line : Text) : Option (Option Text) :=
  if line.isBlank then some (some ['\n'])
  else
    match (splitAtSize? base line).map Prod.fst with
    | none => some none
    | some indent =>
      if indent.all (· == '\t') then do
        let (_, rest) ← splitAtSize? base line
        let content := rest.dropWhile (· == '\t')
        return some (List.replicate (4 * (rest.size - size content)) ' ' ++ content ++ ['\n'])
      else some none

theorem size_tabs (n : Nat) : size (List.replicate n '\t') = n := by
  induction n with
  | zero => rfl
  | succ n ih =>
      rw [List.replicate_succ, size_cons, ih, Nat.add_comm]
      rfl

theorem eq_of_splitAtSize? {before after : Text} (h : splitAtSize? n t = some (before, after)) :
    t = before ++ after ∧ before.size = n := by
  induction t generalizing n before with
  | nil =>
      rw [splitAtSize?] at h
      split at h
      · next zero =>
          cases h
          exact ⟨rfl, zero.symm⟩
      · cases h
  | cons c t ih =>
      rw [splitAtSize?] at h
      split at h
      · next zero =>
          cases h
          exact ⟨rfl, zero.symm⟩
      · split at h
        · next le =>
            obtain ⟨⟨a, b⟩, hab, he⟩ := Option.map_eq_some_iff.mp h
            cases he
            obtain ⟨rfl, hsize⟩ := ih hab
            refine ⟨rfl, ?_⟩
            rw [size_cons, hsize]
            omega
        · cases h

/-- **A line can always be cut behind its base**, and the outcome is that of leaving out as many
tabulators. -/
theorem fixIndentBySize?_eq (base : Nat) (line : Text) :
    fixIndentBySize? base line = some (fixIndentLine base line) := by
  unfold fixIndentBySize?
  by_cases blank : line.isBlank
  · rw [if_pos blank, (Settled.blank blank).fixIndentLine_eq]
  · rw [if_neg blank]
    by_cases tabs : List.replicate base '\t' <+: line
    · obtain ⟨rest, rfl⟩ := tabs
      obtain ⟨deeper, content, rfl, first⟩ := exists_tabs rest
      have cut := splitAtSize?_append (List.replicate base '\t')
        (List.replicate deeper '\t' ++ content)
      rw [size_tabs] at cut
      have extra : size (List.replicate deeper '\t' ++ content) - size content = deeper := by
        rw [size_append, size_tabs, Nat.add_sub_cancel]
      have all : (List.replicate base '\t').all (· == '\t') = true :=
        List.all_eq_true.mpr fun c hc => beq_iff_eq.mpr (List.eq_of_mem_replicate hc)
      rw [isBlank_tabs_append, isBlank_tabs_append] at blank
      rw [cut, fixIndentLine_indented first blank]
      simp only [Option.map_some, if_pos all, Option.bind_eq_bind, Option.bind_some,
        dropWhile_tabs first, extra]
      rfl
    · rw [fixIndentLine_eq_none_iff.mpr ⟨blank, tabs⟩]
      cases cut : splitAtSize? base line with
      | none => rfl
      | some parts =>
          obtain ⟨indent, rest⟩ := parts
          obtain ⟨rfl, hsize⟩ := eq_of_splitAtSize? cut
          have other : ¬ indent.all (· == '\t') = true := by
            intro all
            have same := List.eq_replicate_iff.mpr
              ⟨rfl, fun c hc => beq_iff_eq.mp (List.all_eq_true.mp all c hc)⟩
            rw [same, size_tabs] at hsize
            rw [same, hsize] at tabs
            exact tabs (List.prefix_append _ _)
          simp only [Option.map_some, if_neg other]

/-! ## All lines -/

/-- The line at a position is the first of some lines that strays from the base. -/
def FirstStray (base : Nat) (ls : List Text) (k : Nat) : Prop :=
  (∃ line, ls[k]? = some line ∧ Strays base line) ∧ ∀ i < k, ∀ line ∈ ls[i]?, ¬ Strays base line

theorem firstStray_nil (k : Nat) : ¬ FirstStray base [] k := by
  rintro ⟨⟨line, h, -⟩, -⟩
  cases h

/-- The first line that strays is the first line, or the first of the others. -/
theorem firstStray_cons_iff {k : Nat} : FirstStray base (line :: ls) k ↔
    Strays base line ∧ k = 0 ∨ ¬ Strays base line ∧ ∃ k', k = k' + 1 ∧ FirstStray base ls k' := by
  unfold FirstStray
  cases k with
  | zero => simp
  | succ k =>
      simp only [List.getElem?_cons_succ, Nat.succ_ne_zero, and_false, false_or,
        Nat.add_right_cancel_iff, exists_eq_left']
      constructor
      · rintro ⟨found, before⟩
        exact ⟨before 0 (Nat.succ_pos k) line rfl, found,
          fun i hi => before (i + 1) (Nat.succ_lt_succ hi)⟩
      · rintro ⟨first, found, before⟩
        refine ⟨found, fun i hi => ?_⟩
        cases i with
        | zero =>
            rintro _ ⟨⟩
            exact first
        | succ i => exact before i (Nat.lt_of_succ_lt_succ hi)

/-- The first line that strays is reported, and nothing else. -/
theorem fixIndentLines_eq_error_iff {e : IndentError} {number : Nat} :
    fixIndentLines base number ls = .error e ↔
      ∃ k, e = .notIndented (number + k) ∧ FirstStray base (ls.map stripLineEnd) k := by
  induction ls generalizing number with
  | nil =>
      refine iff_of_false nofun ?_
      rintro ⟨k, -, first⟩
      exact firstStray_nil k first
  | cons line ls ih =>
      rw [fixIndentLines, List.map_cons]
      simp only [firstStray_cons_iff]
      rcases strays_or_settled base (stripLineEnd line) with ⟨strays, h⟩ | ⟨out, settled, h⟩
      · simp only [h, strays, not_true_eq_false, true_and, false_and, or_false]
        constructor
        · rintro ⟨⟩
          exact ⟨0, rfl, rfl⟩
        · rintro ⟨_, rfl, rfl⟩
          rfl
      · simp only [h, settled.not_strays, not_false_eq_true, true_and, false_and, false_or]
        have step : (fixIndentLines base (number + 1) ls).map (out ++ ·) = .error e ↔
            fixIndentLines base (number + 1) ls = .error e := by
          cases fixIndentLines base (number + 1) ls <;> simp [Except.map]
        rw [step, ih]
        constructor
        · rintro ⟨k, rfl, first⟩
          exact ⟨k + 1, by rw [Nat.add_assoc, Nat.add_comm 1], k, rfl, first⟩
        · rintro ⟨_, rfl, k, rfl, first⟩
          exact ⟨k, by rw [Nat.add_assoc, Nat.add_comm 1], first⟩

/-- If no line strays, then what becomes of the lines is put together. -/
theorem fixIndentLines_eq_ok_iff {number : Nat} : fixIndentLines base number ls = .ok out ↔
    ∃ outs, List.Forall₂ (Settled base) (ls.map stripLineEnd) outs ∧ out = outs.flatten := by
  induction ls generalizing number out with
  | nil =>
      rw [fixIndentLines, List.map_nil]
      simp [eq_comm]
  | cons line ls ih =>
      rw [fixIndentLines, List.map_cons]
      cases h : fixIndentLine base (stripLineEnd line) with
      | none =>
          refine iff_of_false nofun ?_
          rintro ⟨outs, each, -⟩
          obtain ⟨out, others, settled, -, -⟩ := List.forall₂_cons_left_iff.mp each
          exact settled.not_strays (fixIndentLine_eq_none_iff.mp h)
      | some first =>
          have settled := fixIndentLine_eq_some_iff.mp h
          constructor
          · intro run
            cases hmore : fixIndentLines base (number + 1) ls with
            | error e =>
                rw [hmore] at run
                cases run
            | ok more =>
                rw [hmore] at run
                cases run
                obtain ⟨outs, houts, rfl⟩ := ih.mp hmore
                exact ⟨first :: outs, .cons settled houts, rfl⟩
          · rintro ⟨outs, each, rfl⟩
            obtain ⟨out, others, settled', houts, rfl⟩ := List.forall₂_cons_left_iff.mp each
            cases h.symm.trans settled'.fixIndentLine_eq
            simp only [ih.mpr ⟨_, houts, rfl⟩]
            rfl

/-! ## Fragments -/

/-- A fragment consists of a line feed, of its lines, and of the base at its very end. -/
theorem exists_base (t : Text) : ∃ body base ls, t = body ++ List.replicate base '\t' ∧
    body.getLast? ≠ some '\t' ∧ HasLines body ls ∧
      fixIndent ('\n' :: t) = fixIndentLines base 1 (lines body) := by
  obtain ⟨rest, split, tabs, last⟩ := exists_dropEndWhile (· == '\t') t
  have base : rest = List.replicate rest.length '\t' :=
    List.eq_replicate_iff.mpr ⟨rfl, fun c hc => beq_iff_eq.mp (tabs c hc)⟩
  have length : t.length - (dropEndWhile (· == '\t') t).length = rest.length := by
    have := congrArg List.length split
    rw [List.length_append] at this
    omega
  obtain ⟨ls, hls⟩ := exists_hasLines (dropEndWhile (· == '\t') t)
  refine ⟨_, rest.length, ls, base ▸ split, fun h => ?_, hls, ?_⟩
  · exact absurd (last '\t' h) (by decide)
  · rw [fixIndent, if_pos rfl]
    simp only [length]

/-- **Putting a fragment on its base, line by line.** A text that is not empty is a fragment if it
begins with a line feed. The base is the number of tabulators at its end, and what stands before
them falls into lines. The first line that strays from the base is reported by its number. If there
is none, then the outcome is what becomes of the lines, one behind the other. Every line can be cut
behind its base, as a number of bytes. -/
theorem fixIndent_linewise (c : Char) (t : Text) :
    (fixIndent (c :: t) = .error .missingLeadingNewline ↔ c ≠ '\n') ∧
    (∃ body base ls, t = body ++ List.replicate base '\t' ∧ body.getLast? ≠ some '\t' ∧
      HasLines body ls ∧
      (∀ n, fixIndent (c :: t) = .error (.notIndented n) ↔
        c = '\n' ∧ ∃ k, n = k + 1 ∧ FirstStray base ls k) ∧
      ∀ out, fixIndent (c :: t) = .ok out ↔
        c = '\n' ∧ ∃ outs, List.Forall₂ (Settled base) ls outs ∧ out = outs.flatten) ∧
    ∀ base line, fixIndentBySize? base line = some (fixIndentLine base line) := by
  obtain ⟨body, base, ls, split, last, hls, run⟩ := exists_base t
  have lined := hasLines_iff.mp hls
  by_cases feed : c = '\n'
  · subst feed
    simp only [run, fixIndentLines_eq_error_iff, fixIndentLines_eq_ok_iff, ← lined]
    refine ⟨by simp, ⟨body, base, ls, split, last, hls, fun n => ?_, fun out => by simp⟩,
      fixIndentBySize?_eq⟩
    simp [Nat.add_comm]
  · have refused : fixIndent (c :: t) = .error .missingLeadingNewline := by
      rw [fixIndent, if_neg feed]
    rw [refused]
    exact ⟨by simp [feed], ⟨body, base, ls, split, last, hls, by simp [feed], by simp [feed]⟩,
      fixIndentBySize?_eq⟩

/-- The second line has one tabulator too few, although it has as many bytes. -/
example : fixIndent "\n\t\ta\n\té\n\t\t" = .error (.notIndented 2) := by decide

end PatchTrail.Text
