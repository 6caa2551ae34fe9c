import PatchTrail.Patcher.Basic
import PatchTrail.Proofs.Except
import PatchTrail.Proofs.Pattern.Escaping
import PatchTrail.Proofs.Pattern.Searching

/-!
# Patchers that replace

A patcher that replaces a text cuts the unit at the occurrences of the text, taken from the left,
and puts the replacement between the pieces; there is at least one occurrence, or it fails
(`replaceText_replaces_leftmost`). A patcher that replaces a pattern does the same if the pattern
stands for a text and the replacement for itself (`replacePattern_agrees`), and a replacement can be
made to stand for itself by doubling its dollar signs (`replacePattern_doubled`).
-/

namespace PatchTrail.Patcher

open Pattern (compile escaped doubled)
open Text (Cuts Inserted characters join)

variable {find replacement insertion unit_ out : Text} {p : Pattern} {isLiteral : Bool} {e : Error}

/-! ## Texts -/

theorem apply_replaceText_of_isInfix (h : find <:+: unit_) :
    (replaceText find replacement).apply unit_ = .ok (unit_.replaceAll find replacement) := by
  rw [apply, if_pos (Text.contains_iff_isInfix.mpr h)]

theorem apply_replaceText_of_not_isInfix (h : ¬ find <:+: unit_) :
    (replaceText find replacement).apply unit_ = .error (.notFound find) := by
  rw [apply, if_neg fun occurs => h (Text.contains_iff_isInfix.mp occurs)]

theorem apply_replaceText_eq_ok_iff : (replaceText find replacement).apply unit_ = .ok out ↔
    find <:+: unit_ ∧ unit_.replaceAll find replacement = out := by
  by_cases h : find <:+: unit_
  · rw [apply_replaceText_of_isInfix h, Except.ok.injEq, and_iff_right h]
  · rw [apply_replaceText_of_not_isInfix h]
    exact iff_of_false nofun fun occurs => h occurs.1

theorem apply_replaceText_eq_error_iff : (replaceText find replacement).apply unit_ = .error e ↔
    e = .notFound find ∧ ¬ find <:+: unit_ := by
  by_cases h : find <:+: unit_
  · rw [apply_replaceText_of_isInfix h]
    exact iff_of_false nofun fun absent => absent.2 h
  · rw [apply_replaceText_of_not_isInfix h, Except.error.injEq, and_iff_left h, eq_comm]

/-- The pieces of a unit between which a text is replaced, whatever by. -/
theorem exists_pieces (h : find <:+: unit_) : ∃ pieces,
    (find ≠ [] → Cuts find unit_ pieces) ∧ (find = [] → pieces = characters unit_) ∧
      2 ≤ pieces.length ∧ join find pieces = unit_ ∧
      ∀ replacement, unit_.replaceAll find replacement = join replacement pieces := by
  by_cases full : find = []
  · subst full
    exact ⟨characters unit_, fun full => absurd rfl full, fun _ => rfl, by simp [characters],
      Text.join_nil_characters unit_, fun _ => Text.replaceAll_nil⟩
  · obtain ⟨pieces, cuts⟩ := Text.exists_cuts full unit_
    exact ⟨pieces, fun _ => cuts, fun empty => absurd empty full, cuts.two_le_length h,
      cuts.join_eq, fun _ => cuts.replaceAll_eq full⟩

/-- **Replacing a text** fails if and only if the text does not occur. Otherwise the replacement is
put between two or more pieces of the unit. They are the only ones into which the unit falls at the
occurrences of the text that are found from the left, each behind the one before it; the empty text
is found in front of each character and at the end. Insertions in front of or behind the text come
between the same pieces, so that without them the unit is as it was. -/
theorem replaceText_replaces_leftmost (find unit_ : Text) :
    (∀ replacement e, (replaceText find replacement).apply unit_ = .error e ↔
        e = .notFound find ∧ ¬ find <:+: unit_) ∧
      (find <:+: unit_ → ∃ pieces,
        (find ≠ [] → ∀ others, Cuts find unit_ others ↔ others = pieces) ∧
        (find = [] → pieces = characters unit_ ∧ ∀ replacement,
          join replacement pieces = replacement ++ unit_.flatMap fun c => c :: replacement) ∧
        2 ≤ pieces.length ∧ join find pieces = unit_ ∧
        (∀ replacement,
          (replaceText find replacement).apply unit_ = .ok (join replacement pieces)) ∧
        ∀ insertion,
          (insertAfter find insertion).apply unit_ = .ok (join (find ++ insertion) pieces) ∧
          Inserted insertion (pieces.length - 1) unit_ (join (find ++ insertion) pieces) ∧
          (insertBefore find insertion).apply unit_ = .ok (join (insertion ++ find) pieces) ∧
          Inserted insertion (pieces.length - 1) unit_ (join (insertion ++ find) pieces)) := by
  refine ⟨fun _ _ => apply_replaceText_eq_error_iff, fun h => ?_⟩
  obtain ⟨pieces, cuts, places, many, whole, replaced⟩ := exists_pieces h
  have applied (replacement : Text) :
      (replaceText find replacement).apply unit_ = .ok (join replacement pieces) := by
    rw [apply_replaceText_of_isInfix h, replaced]
  refine ⟨pieces, fun full others => ⟨fun h' => (cuts full).unique h', ?_⟩, fun empty => ?_, many,
    whole, applied, fun insertion => ⟨applied _, ?_, applied _, ?_⟩⟩
  · rintro rfl
    exact cuts full
  · obtain rfl := places empty
    exact ⟨rfl, fun replacement => Text.join_characters replacement unit_⟩
  · have behind := Text.inserted_join_append find insertion pieces
    rwa [whole] at behind
  · have front := Text.inserted_join_prepend find insertion pieces
    rwa [whole] at front

/-- A text that overlaps itself. -/
theorem replaceText_replaces_leftmost_overlapping :
    (("aa" : Text) <:+: "aaaaa") ∧ (replaceText "aa" "ab").apply "aaaaa" = .ok "ababa" ∧
      (insertAfter "aa" "-").apply "aaaaa" = .ok "aa-aa-a" ∧
      (insertBefore "aa" "-").apply "aaaaa" = .ok "-aa-aaa" := by
  have occurs : ("aa" : Text) <:+: "aaaaa" := by decide
  obtain ⟨pieces, only, -, -, -, replaced, inserted⟩ :=
    (replaceText_replaces_leftmost "aa" "aaaaa").2 occurs
  have cuts : Cuts "aa" "aaaaa" [[], [], "a"] :=
    .next (.of_append "aaa") (.next (.of_append "a") (.last (by decide)))
  obtain rfl := (only (by decide) _).mp cuts
  obtain ⟨behind, -, front, -⟩ := inserted "-"
  exact ⟨occurs, replaced "ab", behind, front⟩

/-! ## Patterns -/

theorem apply_replacePattern_eq_ok_iff (h : p.node.literal? = some find) :
    (replacePattern p replacement true).apply unit_ = .ok out ↔
      find <:+: unit_ ∧ unit_.replaceAll find replacement = out := by
  have occurs : p.occursIn unit_ = true ↔ find <:+: unit_ := by
    rw [Pattern.occursIn_iff_matches, (Pattern.matches_of_literal? h unit_ []).1]
  have replaced : (p.replaceAll unit_ fun _ => replacement) = unit_.replaceAll find replacement := by
    rw [Pattern.replaceAll_eq_replaceMatches, (Pattern.matches_of_literal? h unit_ replacement).2]
  rw [apply]
  by_cases found : find <:+: unit_
  · rw [if_pos (occurs.mpr found), and_iff_right found, Except.ok.injEq]
    exact Eq.congr_left replaced
  · rw [if_neg fun h => found (occurs.mp h)]
    exact iff_of_false nofun fun h => found h.1

/-- **A pattern that stands for a text is replaced as the text is**, if the replacement stands for
itself. Such a pattern is refused only if it is too large. Otherwise replacing it succeeds where
replacing the text does, with the same result. This is no matter of recognizing such a pattern: the
general search for matches finds some if and only if the text occurs, and what stands between them
is what stands between the occurrences of the text. -/
theorem replacePattern_agrees (find : Text) :
    (∀ e, compile (escaped find) = .error e → e = .tooLarge) ∧
      ∀ p, compile (escaped find) = .ok p →
        (∀ replacement unit_ out, (replacePattern p replacement true).apply unit_ = .ok out ↔
          (replaceText find replacement).apply unit_ = .ok out) ∧
        ∀ unit_ : Text, (p.matches_ unit_.toArray ≠ [] ↔ find <:+: unit_) ∧ ∀ replacement,
          Pattern.replaceMatches unit_.toArray (fun _ => replacement) 0
            (p.matches_ unit_.toArray) = unit_.replaceAll find replacement := by
  rcases Pattern.compile_escaped find with refused | ⟨node, literal, compiled⟩
  · rw [refused]
    exact ⟨fun e h => (Except.error.inj h).symm, nofun⟩
  · rw [compiled]
    refine ⟨nofun, fun p h => ?_⟩
    obtain rfl := Except.ok.inj h
    refine ⟨fun replacement unit_ out => ?_, fun unit_ => ⟨?_, fun replacement => ?_⟩⟩
    · rw [apply_replaceText_eq_ok_iff]
      exact apply_replacePattern_eq_ok_iff literal
    · exact (Pattern.matches_of_literal? literal unit_ []).1
    · exact (Pattern.matches_of_literal? literal unit_ replacement).2

/-- A text with signs that mean something in a pattern is not too large for one. -/
theorem exists_compile_signs : ∃ p, compile (escaped "a.$") = .ok p ∧
    p.node.literal? = some "a.$".toList := by
  have size : (compile (escaped "a.$")).toOption.isSome = true := by with_unfolding_all rfl
  rcases Pattern.compile_escaped "a.$" with refused | ⟨node, literal, compiled⟩
  · rw [refused] at size
    cases size
  · exact ⟨_, compiled, literal⟩

/-- The replacement has a sign that means something in a template. -/
theorem replacePattern_agrees_signs : ∃ p, compile (escaped "a.$") = .ok p ∧
    (replacePattern p "$0" true).apply "aa.$a.$$" = .ok "a$0$0$" := by
  obtain ⟨p, compiled, -⟩ := exists_compile_signs
  exact ⟨p, compiled, (((replacePattern_agrees "a.$").2 p compiled).1 "$0" "aa.$a.$$" _).mpr rfl⟩

/-- What matters about a template is what it stands for. -/
theorem apply_replacePattern_of_expand {template : Text}
    (h : ∀ found, Pattern.expand template found = replacement) :
    (replacePattern p template false).apply unit_ =
      (replacePattern p replacement true).apply unit_ := by
  simp only [apply, h, if_true, Bool.false_eq_true, if_false]

/-- **Doubling the dollar signs of a replacement makes it stand for itself**, whatever the pattern
finds, and without dollar signs it does so anyway. -/
theorem replacePattern_doubled (p : Pattern) (replacement unit_ : Text) :
    (replacePattern p (doubled replacement) false).apply unit_ =
        (replacePattern p replacement true).apply unit_ ∧
      ('$' ∉ replacement → (replacePattern p replacement false).apply unit_ =
        (replacePattern p replacement true).apply unit_) := by
  refine ⟨apply_replacePattern_of_expand (Pattern.expand_doubled replacement), fun h => ?_⟩
  exact apply_replacePattern_of_expand (Pattern.expand_of_not_mem h)

/-- A replacement with a dollar sign, and one without. -/
theorem replacePattern_doubled_signs : ∃ p, compile (escaped "a.$") = .ok p ∧
    (replacePattern p "<$$0>" false).apply "a.$b" = .ok "<$0>b" ∧
      '$' ∉ "<0>".toList ∧ (replacePattern p "<0>" false).apply "a.$b" = .ok "<0>b" := by
  obtain ⟨p, compiled, literal⟩ := exists_compile_signs
  have occurs : ("a.$" : Text) <:+: "a.$b" := by decide
  have without : '$' ∉ "<0>".toList := by decide
  refine ⟨p, compiled, ?_, without, ?_⟩
  · refine (replacePattern_doubled p "<$0>" "a.$b").1.trans ?_
    exact (apply_replacePattern_eq_ok_iff literal).mpr ⟨occurs, rfl⟩
  · refine ((replacePattern_doubled p "<0>" "a.$b").2 without).trans ?_
    exact (apply_replacePattern_eq_ok_iff literal).mpr ⟨occurs, rfl⟩

end PatchTrail.Patcher
