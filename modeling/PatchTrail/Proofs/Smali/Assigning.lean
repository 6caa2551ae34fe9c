import PatchTrail.Proofs.Patcher.Declaring

/-!
# The constant of a declaration and what its value looks like

The name of a constant is the field right before the first equals sign of its declaration
(`named?`). But every equals sign that is a field of its own counts, those in the value of the
constant included: a line declares its own constant and whatever its value seems to assign
(`declares_iff`). So a line declares no other constant than its own if and only if its value does
not look like the declaration of another (`Unmistakable`), and where this is true of all lines of a
unit, a patcher that is run on a constant leaves the declarations of all others alone
(`declares_only_named_iff`). A text with an equals sign between blanks is enough for the opposite
(`declares_quoted`).
-/

namespace PatchTrail.Smali

open Patcher (inConstant LineBecomes)
open Text (split join)

variable {line identifier : Text} {fields : List Text}

/-- The constant that a declaration is one of: the last field in front of the first equals sign. -/
def named? (line : Text) : Option Text :=
  if line.fields.head? = some ".field".toList ∧ line.fields.contains ['='] then
    (line.fields.takeWhile (· ≠ ['='])).getLast?
  else none

/-- The fields of a line from the first equals sign on. -/
def valueFields (line : Text) : List Text := line.fields.dropWhile (· ≠ ['='])

/-- In the value of a declaration no equals sign stands behind another field than the name. -/
def Unmistakable (line : Text) : Prop :=
  line.fields.head? = some ".field".toList → ∀ identifier,
    [identifier, ['=']] <:+: valueFields line → named? line = some identifier

theorem assigns_iff : assigns identifier fields = true ↔ [identifier, ['=']] <:+: fields := by
  fun_induction assigns identifier fields with
  | case1 a b rest ih =>
    have front : [identifier, ['=']] <+: a :: b :: rest ↔ a = identifier ∧ b = ['='] := by
      simp [List.cons_prefix_cons, eq_comm]
    rw [Bool.or_eq_true, ih, @List.infix_cons_iff _ _ a, front, Bool.and_eq_true,
      decide_eq_true_eq, decide_eq_true_eq]
  | case2 fields short =>
    refine ⟨nofun, fun found => ?_⟩
    rcases fields with _ | ⟨a, _ | ⟨b, rest⟩⟩
    · simpa using found.length_le
    · simpa using found.length_le
    · exact absurd rfl (short a b rest)

/-- A field right before an equals sign stands before the first one or in what begins with it. -/
theorem infix_append_equals {front value : List Text} (first : ['='] ∉ front) :
    [identifier, ['=']] <:+: front ++ ['='] :: value ↔
      front.getLast? = some identifier ∨ [identifier, ['=']] <:+: ['='] :: value := by
  induction front with
  | nil => simp
  | cons a front ih =>
    rw [List.cons_append, List.infix_cons_iff, ih (List.not_mem_of_not_mem_cons first),
      List.cons_prefix_cons]
    cases front with
    | nil => simp [eq_comm]
    | cons b front =>
      have other : ['='] ≠ b := fun h => first (by simp [h])
      simp [List.cons_prefix_cons, other]

/-- Where there is an equals sign, the fields in front of the first one and those from it on are the
fields of the line. -/
theorem exists_value (equals : ['='] ∈ line.fields) : ∃ front value,
    line.fields = front ++ ['='] :: value ∧ ['='] ∉ front ∧
      line.fields.takeWhile (· ≠ ['=']) = front ∧ valueFields line = ['='] :: value := by
  obtain ⟨front, value, whole, first⟩ := List.eq_append_cons_of_mem equals
  have front_ : ∀ field ∈ front, decide (field ≠ ['=']) = true := fun field hfield =>
    decide_eq_true fun h => first (h ▸ hfield)
  refine ⟨front, value, whole, first, ?_, ?_⟩
  · rw [whole, List.takeWhile_append_of_pos front_]
    simp
  · rw [valueFields, whole, List.dropWhile_append_of_pos front_]
    simp

/-- **What a line declares**: its own constant, and what its value seems to assign. -/
theorem declares_iff : declares line identifier = true ↔
    named? line = some identifier ∨
      line.fields.head? = some ".field".toList ∧ [identifier, ['=']] <:+: valueFields line := by
  unfold declares named?
  rw [Bool.and_eq_true, beq_iff_eq, assigns_iff]
  by_cases begins : line.fields.head? = some ".field".toList
  · by_cases equals : ['='] ∈ line.fields
    · obtain ⟨front, value, whole, first, before, behind⟩ := exists_value equals
      rw [if_pos ⟨begins, List.contains_iff_mem.mpr equals⟩, before, behind, and_iff_right begins, and_iff_right begins,
        whole, infix_append_equals first]
    · rw [if_neg fun h => equals (List.contains_iff_mem.mp h.2)]
      have nowhere : ¬ [identifier, ['=']] <:+: line.fields := fun h => equals (h.subset (by simp))
      have behind : ¬ [identifier, ['=']] <:+: valueFields line := fun h =>
        nowhere (h.trans (List.dropWhile_suffix _).isInfix)
      simp [nowhere, behind]
  · simp only [begins, false_and, if_false, or_false]
    exact ⟨False.elim, nofun⟩

/-- A line declares the constant whose name stands in front of its first equals sign. -/
theorem declares_of_named? (h : named? line = some identifier) : declares line identifier = true :=
  declares_iff.mpr (.inl h)

/-- The value of a declaration with a single equals sign looks like no other declaration. -/
theorem unmistakable_of_not_mem (h : ['='] ∉ (valueFields line).tail) : Unmistakable line := by
  rintro - identifier ⟨front, behind, whole⟩
  refine absurd ?_ h
  rw [← whole]
  cases front <;> simp

/-- A line whose value looks like no other declaration declares its own constant only. -/
theorem Unmistakable.declares_iff (h : Unmistakable line) :
    declares line identifier = true ↔ named? line = some identifier := by
  refine ⟨fun declared => ?_, declares_of_named?⟩
  rcases Smali.declares_iff.mp declared with own | ⟨begins, inside⟩
  · exact own
  · exact h begins identifier inside

/-- A line declares at most one constant, namely its own, if and only if its value looks like no
other declaration. -/
theorem declares_unique_iff_unmistakable :
    (∀ a b, declares line a = true → declares line b = true → a = b ∧ named? line = some a) ↔
      Unmistakable line := by
  constructor
  · intro unique begins identifier inside
    have declared := declares_iff.mpr (.inr ⟨begins, inside⟩)
    exact (unique identifier identifier declared declared).2
  · intro h a b ha hb
    have own := h.declares_iff.mp ha
    exact ⟨Option.some.inj (own.symm.trans (h.declares_iff.mp hb)), own⟩

/-- What one pass over a constant makes of a line whose value looks like no other declaration. -/
theorem Unmistakable.lineBecomes_iff (h : Unmistakable line) {p : Patcher} {line' : Text} :
    LineBecomes identifier p line line' ↔
      if named? line = some identifier then p.apply line = .ok line' else line' = line := by
  unfold LineBecomes
  simp only [h.declares_iff]

/-- **A declaration declares its own constant, and no other unless its value looks like one.** A line
declares the constant whose name stands right before its first equals sign. It is the only one that
it declares if and only if behind the first equals sign there is no other with another field before
it. If this is true of all lines of a unit, a patcher that is run on a constant rewrites the lines
that are its own declarations and leaves all others as they are, whatever their values say. -/
theorem declares_only_named_iff (declaration identifier unit_ : Text) (p : Patcher) :
    (named? declaration = some identifier → declares declaration identifier = true) ∧
      ((∀ a b, declares declaration a = true → declares declaration b = true →
        a = b ∧ named? declaration = some a) ↔ Unmistakable declaration) ∧
      ((∀ line ∈ split '\n' unit_, Unmistakable line) → ∀ result,
        (inConstant identifier p).apply unit_ = .ok result ↔
          (∃ line ∈ split '\n' unit_, named? line = some identifier) ∧
            ∃ news, List.Forall₂ (fun line line' =>
                if named? line = some identifier then p.apply line = .ok line' else line' = line)
              (split '\n' unit_) news ∧ join ['\n'] news = result) := by
  refine ⟨declares_of_named?, declares_unique_iff_unmistakable, fun clear result => ?_⟩
  have found : (∃ line ∈ split '\n' unit_, declares line identifier = true) ↔
      ∃ line ∈ split '\n' unit_, named? line = some identifier :=
    exists_congr fun line => and_congr_right fun hline => (clear line hline).declares_iff
  have becomes (news : List Text) :
      List.Forall₂ (LineBecomes identifier p) (split '\n' unit_) news ↔
        List.Forall₂ (fun line line' =>
            if named? line = some identifier then p.apply line = .ok line' else line' = line)
          (split '\n' unit_) news := by
    constructor
    · intro h
      exact ((List.forall₂_and_left _ _).mpr ⟨clear, h⟩).imp fun _ _ h =>
        h.1.lineBecomes_iff.mp h.2
    · intro h
      exact ((List.forall₂_and_left _ _).mpr ⟨clear, h⟩).imp fun _ _ h =>
        h.1.lineBecomes_iff.mpr h.2
  simp only [Patcher.apply_inConstant_eq_ok_iff, found, becomes]

/-- Two declarations. The text that is the value of the first has equals signs, but none between
blanks. -/
def twoConstants : List Text :=
  [".field A:Ljava/lang/String; = \"B:I= 1 =\"", ".field B:I = 1"]

/-- Only the second declaration is one of the constant. -/
theorem declares_only_named_iff_twoConstants :
    named? ".field B:I = 1" = some "B:I".toList ∧ declares ".field B:I = 1" "B:I" = true ∧
      (∀ line ∈ split '\n' (join ['\n'] twoConstants), Unmistakable line) ∧
      (inConstant "B:I" (.replaceText "1" "2")).apply (join ['\n'] twoConstants) =
        .ok (join ['\n'] [".field A:Ljava/lang/String; = \"B:I= 1 =\"", ".field B:I = 2"]) := by
  have lines : split '\n' (join ['\n'] twoConstants) = twoConstants :=
    Text.split_join (by decide) (List.cons_ne_nil _ _)
  have clear : ∀ line ∈ split '\n' (join ['\n'] twoConstants), Unmistakable line := by
    rw [lines, twoConstants, List.forall_mem_cons, List.forall_mem_singleton]
    exact ⟨unmistakable_of_not_mem (by decide), unmistakable_of_not_mem (by decide)⟩
  have own : named? ".field B:I = 1" = some "B:I".toList := rfl
  have only := declares_only_named_iff ".field B:I = 1" "B:I" (join ['\n'] twoConstants)
    (.replaceText "1" "2")
  refine ⟨own, only.1 own, clear, (only.2.2 clear _).mpr ?_⟩
  rw [lines]
  refine ⟨⟨_, List.mem_cons_of_mem _ List.mem_cons_self, own⟩, _, .cons ?_ (.cons ?_ .nil), rfl⟩
  · rw [if_neg (by decide)]
  · rw [if_pos own]
    rfl

/-- A text that looks like the declaration of another constant. -/
def quoted : Text := ".field static A:Ljava/lang/String; = \"x B:I = y\""

/-- The line declares the other constant too, and is edited in its place. -/
theorem declares_quoted :
    named? quoted = some "A:Ljava/lang/String;".toList ∧
      declares quoted "A:Ljava/lang/String;" = true ∧ declares quoted "B:I" = true ∧
      (inConstant "B:I" (.overwrite "")).apply quoted = .ok [] :=
  ⟨rfl, rfl, rfl, rfl⟩

end PatchTrail.Smali
