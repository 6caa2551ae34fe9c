import PatchTrail.Proofs.Text.Pieces
import PatchTrail.Text.Replace

/-!
# A text between the occurrences of another

The occurrences of a text that is not empty are taken from the left, each behind the one before it.
They cut a text into pieces in exactly one way (`exists_cuts`, `Cuts.unique`). The pieces with the
sought text between them are the text again (`Cuts.join_eq`), and with another text between them
they are the text in which all occurrences are replaced (`Cuts.replaceAll_eq`). The empty text has a
place in front of each character and at the end, which gives pieces too (`replaceAll_nil`). If what
comes between the pieces is the sought text with an insertion, nothing is lost
(`inserted_join_append`). A text can also be cut at the last occurrence only
(`cutLast?_eq_some_iff`).
-/

namespace PatchTrail.Text

variable {sought replacement insertion s t before after : Text} {pieces pieces' : List Text}

/-! ## The first occurrence -/

/-- A text falls into what stands in front of the first occurrence of another, the occurrence, and
what stands behind it. -/
structure FirstAt (sought t before after : Text) : Prop where
  whole : t = before ++ sought ++ after
  first : ∀ earlier later, t = earlier ++ sought ++ later → before.length ≤ earlier.length

theorem FirstAt.of_append (after : Text) : FirstAt sought (sought ++ after) [] after :=
  ⟨rfl, fun _ _ _ => Nat.zero_le _⟩

theorem FirstAt.cons {c : Char} (h : FirstAt sought t before after)
    (later : ¬ sought <+: c :: t) : FirstAt sought (c :: t) (c :: before) after := by
  refine ⟨by rw [h.whole]; rfl, fun earlier rest whole => ?_⟩
  cases earlier with
  | nil => exact absurd ⟨rest, whole.symm⟩ later
  | cons d earlier => exact Nat.succ_le_succ (h.first earlier rest (List.cons.inj whole).2)

theorem FirstAt.not_begins {c : Char} (h : FirstAt sought t (c :: before) after) :
    ¬ sought <+: t := by
  rintro ⟨later, rfl⟩
  exact absurd (h.first [] later rfl) (by simp)

theorem FirstAt.tail {c d : Char} (h : FirstAt sought (c :: t) (d :: before) after) :
    FirstAt sought t before after := by
  refine ⟨(List.cons.inj h.whole).2, fun earlier later whole => ?_⟩
  exact Nat.le_of_succ_le_succ (h.first (c :: earlier) later (by rw [whole]; rfl))

theorem FirstAt.isInfix (h : FirstAt sought t before after) : sought <:+: t :=
  ⟨before, after, h.whole.symm⟩

theorem FirstAt.unique {before' after' : Text} (h : FirstAt sought t before after)
    (h' : FirstAt sought t before' after') : before' = before ∧ after' = after := by
  have same : before'.length = before.length :=
    Nat.le_antisymm (h'.first before after h.whole) (h.first before' after' h'.whole)
  have whole := h'.whole.symm.trans h.whole
  rw [List.append_assoc, List.append_assoc] at whole
  obtain ⟨rfl, rest⟩ := List.append_inj whole same
  exact ⟨rfl, List.append_cancel_left rest⟩

theorem exists_firstAt (h : sought <:+: t) : ∃ before after, FirstAt sought t before after := by
  induction t with
  | nil =>
    obtain rfl := List.infix_nil.mp h
    exact ⟨[], [], .of_append []⟩
  | cons c t ih =>
    by_cases begins : sought <+: c :: t
    · obtain ⟨after, whole⟩ := begins
      exact ⟨[], after, whole ▸ .of_append after⟩
    · obtain ⟨before, after, h⟩ := ih ((List.infix_cons_iff.mp h).resolve_left begins)
      exact ⟨c :: before, after, h.cons begins⟩

theorem dropPrefix?_eq_none_iff : dropPrefix? sought t = none ↔ ¬ sought <+: t := by
  rw [Option.eq_none_iff_forall_ne_some]
  constructor
  · rintro h ⟨after, whole⟩
    exact h after (dropPrefix?_eq_some.mpr whole.symm)
  · intro h after whole
    exact h ⟨after, (dropPrefix?_eq_some.mp whole).symm⟩

theorem cut?_of_firstAt (h : FirstAt sought t before after) :
    cut? sought t = some (before, after) := by
  induction before generalizing t with
  | nil =>
    obtain rfl : t = sought ++ after := h.whole
    cases hwhole : sought ++ after with
    | nil =>
      obtain ⟨rfl, rfl⟩ := List.append_eq_nil_iff.mp hwhole
      rfl
    | cons c rest => rw [cut?, ← hwhole, dropPrefix?_append]
  | cons c before ih =>
    obtain ⟨rest, rfl⟩ : ∃ rest, t = c :: rest := ⟨_, h.whole⟩
    rw [cut?, dropPrefix?_eq_none_iff.mpr h.not_begins, ih h.tail]
    rfl

/-- **A text occurs in another** if it stands somewhere in it. -/
theorem contains_iff_isInfix : t.contains sought = true ↔ sought <:+: t := by
  unfold contains
  constructor
  · intro h
    obtain ⟨⟨before, after⟩, h⟩ := Option.isSome_iff_exists.mp h
    exact ⟨before, after, (eq_of_cut? h).symm⟩
  · intro h
    obtain ⟨before, after, h⟩ := exists_firstAt h
    rw [cut?_of_firstAt h]
    rfl

/-! ## The last occurrence -/

/-- A text falls into what stands in front of the last occurrence of another, the occurrence, and
what stands behind it. -/
structure LastAt (sought t before after : Text) : Prop where
  whole : t = before ++ sought ++ after
  last : ∀ earlier later, t = earlier ++ sought ++ later → earlier.length ≤ before.length

theorem LastAt.unique {before' after' : Text} (h : LastAt sought t before after)
    (h' : LastAt sought t before' after') : before' = before ∧ after' = after := by
  have same : before'.length = before.length :=
    Nat.le_antisymm (h.last before' after' h'.whole) (h'.last before after h.whole)
  have whole := h'.whole.symm.trans h.whole
  rw [List.append_assoc, List.append_assoc] at whole
  obtain ⟨rfl, rest⟩ := List.append_inj whole same
  exact ⟨rfl, List.append_cancel_left rest⟩

theorem cutLast?_eq_none_iff : cutLast? sought t = none ↔ ¬ sought <:+: t := by
  induction t with
  | nil =>
    rw [cutLast?, List.infix_nil]
    split
    · next h => simp [h]
    · next h => simp [h]
  | cons c t ih =>
    rw [cutLast?, List.infix_cons_iff, not_or, ← ih]
    cases hcut : cutLast? sought t with
    | none => simp [dropPrefix?_eq_none_iff]
    | some parts => simp

theorem lastAt_of_cutLast? (h : cutLast? sought t = some (before, after)) :
    LastAt sought t before after := by
  refine ⟨eq_of_cutLast? h, ?_⟩
  induction t generalizing before with
  | nil =>
    intro earlier later whole
    obtain ⟨front, -⟩ := List.append_eq_nil_iff.mp whole.symm
    rw [(List.append_eq_nil_iff.mp front).1]
    exact Nat.zero_le _
  | cons c t ih =>
    intro earlier later whole
    cases earlier with
    | nil => exact Nat.zero_le _
    | cons d earlier =>
      have behind : t = earlier ++ sought ++ later := (List.cons.inj whole).2
      rw [cutLast?] at h
      split at h
      · next front rest hrest =>
        cases h
        exact Nat.succ_le_succ (ih hrest earlier later behind)
      · next hrest => exact absurd ⟨earlier, later, behind.symm⟩ (cutLast?_eq_none_iff.mp hrest)

/-- **A text is cut at the last occurrence of another** if there is one. -/
theorem cutLast?_eq_some_iff :
    cutLast? sought t = some (before, after) ↔ LastAt sought t before after := by
  refine ⟨lastAt_of_cutLast?, fun h => ?_⟩
  cases hcut : cutLast? sought t with
  | none => exact absurd ⟨before, after, h.whole.symm⟩ (cutLast?_eq_none_iff.mp hcut)
  | some parts =>
    obtain ⟨front, behind⟩ := h.unique (lastAt_of_cutLast? hcut)
    rw [← front, ← behind]

theorem exists_lastAt (h : sought <:+: t) : ∃ before after, LastAt sought t before after := by
  cases hcut : cutLast? sought t with
  | none => exact absurd h (cutLast?_eq_none_iff.mp hcut)
  | some parts => exact ⟨_, _, lastAt_of_cutLast? hcut⟩

/-- A text whose first character comes only once in it does not occur in part of itself, so an
occurrence is the last one if there is none behind it. -/
theorem lastAt_iff {c : Char} (h : c ∉ sought) :
    LastAt (c :: sought) (before ++ (c :: sought) ++ after) before after ↔
      ¬ (c :: sought) <:+: after := by
  constructor
  · rintro last ⟨earlier, later, rfl⟩
    have le := last.last (before ++ (c :: sought) ++ earlier) later (by simp)
    simp only [List.length_append, List.length_cons] at le
    omega
  · refine fun absent => ⟨rfl, fun earlier later whole => Nat.le_of_not_lt fun lt => ?_⟩
    rw [List.append_assoc, List.append_assoc] at whole
    rcases List.append_eq_append_iff.mp whole with ⟨w, rfl, behind⟩ | ⟨w, rfl, -⟩
    · cases w with
      | nil => simp at lt
      | cons d w =>
        have rest : sought ++ after = w ++ (c :: sought ++ later) := (List.cons.inj behind).2
        obtain ⟨v, -, hafter⟩ := mem_back_of_append h rest
        exact absent ⟨v, later, by simp [hafter]⟩
    · simp only [List.length_append] at lt
      omega

/-! ## Pieces between occurrences -/

/-- The pieces into which a text falls at the occurrences of another, taken from the left. -/
inductive Cuts (sought : Text) : Text → List Text → Prop where
  /-- The text does not occur in what is left. -/
  | last {t : Text} (absent : ¬ sought <:+: t) : Cuts sought t [t]
  /-- What is left is cut again behind the first occurrence. -/
  | next {t before after : Text} {pieces : List Text} (found : FirstAt sought t before after)
      (rest : Cuts sought after pieces) : Cuts sought t (before :: pieces)

theorem Cuts.ne_nil (h : Cuts sought t pieces) : pieces ≠ [] := by
  cases h <;> exact List.cons_ne_nil _ _

theorem exists_cuts (full : sought ≠ []) (t : Text) : ∃ pieces, Cuts sought t pieces := by
  by_cases occurs : sought <:+: t
  · obtain ⟨before, after, found⟩ := exists_firstAt occurs
    have shorter : after.length < t.length := by
      have := List.length_pos_iff.mpr full
      rw [found.whole, List.length_append, List.length_append]
      omega
    obtain ⟨pieces, rest⟩ := exists_cuts full after
    exact ⟨before :: pieces, .next found rest⟩
  · exact ⟨[t], .last occurs⟩
termination_by t.length

/-- There is one way only to cut a text. -/
theorem Cuts.unique (h : Cuts sought t pieces) (h' : Cuts sought t pieces') : pieces' = pieces := by
  induction h generalizing pieces' with
  | last absent =>
    cases h' with
    | last => rfl
    | next found => exact absurd found.isInfix absent
  | next found rest ih =>
    cases h' with
    | last absent => exact absurd found.isInfix absent
    | next found' rest' =>
      obtain ⟨rfl, rfl⟩ := found.unique found'
      rw [ih rest']

theorem Cuts.two_le_length (h : Cuts sought t pieces) (occurs : sought <:+: t) :
    2 ≤ pieces.length := by
  cases h with
  | last absent => exact absurd occurs absent
  | next _ rest => exact Nat.succ_le_succ (List.length_pos_iff.mpr rest.ne_nil)

/-- Each occurrence takes a character at least. -/
theorem Cuts.length_le (full : sought ≠ []) (h : Cuts sought t pieces) :
    pieces.length ≤ t.length + 1 := by
  induction h with
  | last => exact Nat.le_add_left _ _
  | next found rest ih =>
    have := List.length_pos_iff.mpr full
    rw [found.whole, List.length_append, List.length_append, List.length_cons]
    omega

theorem join_cons (separator piece : Text) {more : List Text} (h : more ≠ []) :
    join separator (piece :: more) = piece ++ separator ++ join separator more := by
  cases more with
  | nil => exact absurd rfl h
  | cons next more => rfl

/-- The pieces with the sought text between them are the text. -/
theorem Cuts.join_eq (h : Cuts sought t pieces) : join sought pieces = t := by
  induction h with
  | last => rfl
  | next found rest ih => rw [join_cons _ _ rest.ne_nil, ih, ← found.whole]

/-! ## Replacing -/

theorem replaceFrom_eq_drop (skip : Nat) (t : Text) :
    replaceFrom sought replacement skip t = replaceFrom sought replacement 0 (t.drop skip) := by
  induction skip generalizing t with
  | zero => rfl
  | succ skip ih =>
    cases t with
    | nil => rfl
    | cons c t => rw [replaceFrom, ih, List.drop_succ_cons]

theorem replaceFrom_of_absent (absent : ¬ sought <:+: t) :
    replaceFrom sought replacement 0 t = t := by
  induction t with
  | nil => rfl
  | cons c t ih =>
    have begins : ¬ sought.isPrefixOf (c :: t) = true := fun h =>
      absent (List.isPrefixOf_iff_prefix.mp h).isInfix
    rw [replaceFrom, if_neg begins, ih fun h => absent (List.infix_cons h)]

/-- The first occurrence is replaced, and behind it replacing begins anew. -/
theorem replaceFrom_of_firstAt (full : sought ≠ []) (h : FirstAt sought t before after) :
    replaceFrom sought replacement 0 t =
      before ++ replacement ++ replaceFrom sought replacement 0 after := by
  induction before generalizing t with
  | nil =>
    obtain ⟨c, more, rfl⟩ := List.exists_cons_of_ne_nil full
    obtain rfl : t = c :: (more ++ after) := h.whole
    have begins : (c :: more).isPrefixOf (c :: (more ++ after)) = true :=
      List.isPrefixOf_iff_prefix.mpr (List.prefix_append (c :: more) after)
    rw [replaceFrom, if_pos begins, replaceFrom_eq_drop]
    simp
  | cons c before ih =>
    obtain ⟨rest, rfl⟩ : ∃ rest, t = c :: rest := ⟨_, h.whole⟩
    have later : ¬ sought.isPrefixOf (c :: rest) = true := fun begins =>
      h.not_begins (List.isPrefixOf_iff_prefix.mp begins)
    rw [replaceFrom, if_neg later, ih h.tail]
    simp

/-- **Replacing puts the replacement between the pieces.** -/
theorem Cuts.replaceAll_eq (full : sought ≠ []) (h : Cuts sought t pieces) :
    t.replaceAll sought replacement = join replacement pieces := by
  rw [replaceAll, if_neg full]
  induction h with
  | last absent => exact replaceFrom_of_absent absent
  | next found rest ih =>
    rw [replaceFrom_of_firstAt full found, ih, join_cons _ _ rest.ne_nil]

/-- The pieces between the places of the empty text. -/
def characters (t : Text) : List Text := [] :: t.map (fun c => [c]) ++ [[]]

theorem join_characters (replacement t : Text) :
    join replacement (characters t) = replacement ++ t.flatMap fun c => c :: replacement := by
  have behind (t : Text) : join replacement (t.map (fun c => [c]) ++ [[]]) =
      t.flatMap fun c => c :: replacement := by
    induction t with
    | nil => rfl
    | cons c t ih =>
      rw [List.map_cons, List.cons_append, join_cons _ _ (by simp), ih, List.flatMap_cons]
      rfl
  rw [characters, List.cons_append, join_cons _ _ (by simp), behind]
  rfl

theorem replaceAll_nil : t.replaceAll [] replacement = join replacement (characters t) := by
  rw [replaceAll, if_pos rfl, join_characters]

theorem join_nil_characters (t : Text) : join [] (characters t) = t := by
  rw [join_characters]
  simp

/-! ## Insertions -/

/-- A text has been put into another at so many places. -/
inductive Inserted (insertion : Text) : Nat → Text → Text → Prop where
  | nil : Inserted insertion 0 [] []
  | same {n : Nat} {s t : Text} (c : Char) (rest : Inserted insertion n s t) :
      Inserted insertion n (c :: s) (c :: t)
  | here {n : Nat} {s t : Text} (rest : Inserted insertion n s t) :
      Inserted insertion (n + 1) s (insertion ++ t)

theorem Inserted.append_left {n : Nat} (h : Inserted insertion n s t) (front : Text) :
    Inserted insertion n (front ++ s) (front ++ t) := by
  induction front with
  | nil => exact h
  | cons c front ih => exact .same c ih

theorem Inserted.refl (insertion t : Text) : Inserted insertion 0 t t := by
  simpa using (.nil : Inserted insertion 0 [] []).append_left t

/-- Where the sought text comes between pieces it can come with an insertion behind it. -/
theorem inserted_join_append (sought insertion : Text) (pieces : List Text) :
    Inserted insertion (pieces.length - 1) (join sought pieces)
      (join (sought ++ insertion) pieces) := by
  induction pieces with
  | nil => exact .nil
  | cons piece rest ih =>
    cases rest with
    | nil => exact .refl insertion piece
    | cons next more =>
      have behind := (Inserted.here ih).append_left (piece ++ sought)
      simpa [join] using behind

/-- Where the sought text comes between pieces it can come with an insertion in front of it. -/
theorem inserted_join_prepend (sought insertion : Text) (pieces : List Text) :
    Inserted insertion (pieces.length - 1) (join sought pieces)
      (join (insertion ++ sought) pieces) := by
  induction pieces with
  | nil => exact .nil
  | cons piece rest ih =>
    cases rest with
    | nil => exact .refl insertion piece
    | cons next more =>
      have front := (Inserted.here (ih.append_left sought)).append_left piece
      simpa [join] using front

end PatchTrail.Text
