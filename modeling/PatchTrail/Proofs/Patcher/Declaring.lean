import PatchTrail.Proofs.Patcher.Failing

/-!
# Declarations rewritten where they stand

The lines of a unit between its line feeds put together again are the unit, so a patcher that is run
on the declarations of a constant rewrites them where they stand and leaves every other character
alone (`apply_inConstant_eq_ok_iff`). As long as what it makes of a declaration is again one line
that declares the constant, the next pass finds the same lines, and two passes can be drawn together
into one (`andThen_inConstant_eq_ok_iff`).
-/

namespace PatchTrail

/-- Lists whose elements are related by two relations, one after the other, are related by both. -/
theorem forall₂_comp_iff {α β γ : Type} {R : α → β → Prop} {S : β → γ → Prop} {as : List α}
    {cs : List γ} : (∃ bs, List.Forall₂ R as bs ∧ List.Forall₂ S bs cs) ↔
      List.Forall₂ (fun a c => ∃ b, R a b ∧ S b c) as cs := by
  constructor
  · rintro ⟨bs, first, second⟩
    induction first generalizing cs with
    | nil =>
        cases second
        exact .nil
    | cons hab _ ih =>
        cases second with
        | cons hbc second => exact .cons ⟨_, hab, hbc⟩ (ih second)
  · intro both
    induction both with
    | nil => exact ⟨[], .nil, .nil⟩
    | cons hac _ ih =>
        obtain ⟨b, hab, hbc⟩ := hac
        obtain ⟨bs, first, second⟩ := ih
        exact ⟨b :: bs, .cons hab first, .cons hbc second⟩

/-- Pieces without separators that are put together are split into the same pieces again. -/
theorem Text.split_join {c : Char} {pieces : List Text} (h : ∀ piece ∈ pieces, c ∉ piece)
    (some_ : pieces ≠ []) : Text.split c (Text.join [c] pieces) = pieces := by
  induction pieces with
  | nil => exact absurd rfl some_
  | cons piece rest ih =>
      obtain ⟨first, others⟩ := List.forall_mem_cons.mp h
      cases rest with
      | nil => exact Text.split_of_not_mem first
      | cons next more =>
          rw [Text.join, List.append_assoc, List.singleton_append, Text.split_append_cons first,
            ih others (List.cons_ne_nil next more)]

namespace Patcher

open Smali (declares)
open Text (split join)

variable {identifier unit_ result : Text} {p q : Patcher} {lines news : List Text}

/-! ## One pass -/

/-- What a pass over the declarations of a constant makes of a line: of a declaration what the
patcher makes of it, of any other line the line itself. -/
def LineBecomes (identifier : Text) (p : Patcher) (line line' : Text) : Prop :=
  if declares line identifier then p.apply line = .ok line' else line' = line

theorem patchLines_eq_ok_iff : patchLines identifier p.apply lines = .ok news ↔
    List.Forall₂ (LineBecomes identifier p) lines news := by
  induction lines generalizing news with
  | nil =>
      rw [patchLines, List.forall₂_nil_left_iff, Except.ok.injEq, eq_comm]
  | cons line rest ih =>
      rw [patchLines, List.forall₂_cons_left_iff]
      unfold LineBecomes
      by_cases declared : declares line identifier = true
      · simp only [if_pos declared]
        rcases p.apply line with e | line'
        · refine ⟨fun h => ?_, ?_⟩
          · cases h
          · rintro ⟨_, _, h, _⟩
            cases h
        · rw [bind_eq_ok_iff]
          constructor
          · rintro ⟨more, hrest, h⟩
            exact ⟨line', more, rfl, ih.mp hrest, (Except.ok.inj h).symm⟩
          · rintro ⟨_, more, h, hrest, rfl⟩
            cases h
            exact ⟨more, ih.mpr hrest, rfl⟩
      · simp only [if_neg declared]
        rw [bind_eq_ok_iff]
        constructor
        · rintro ⟨more, hrest, h⟩
          exact ⟨line, more, rfl, ih.mp hrest, (Except.ok.inj h).symm⟩
        · rintro ⟨_, more, rfl, hrest, rfl⟩
          exact ⟨more, ih.mpr hrest, rfl⟩

/-- A pass succeeds if and only if the constant is declared and the patcher succeeds on each
declaration. What it leaves is the unit with each declaration rewritten where it stands. -/
theorem apply_inConstant_eq_ok_iff : (inConstant identifier p).apply unit_ = .ok result ↔
    (∃ line ∈ split '\n' unit_, declares line identifier = true) ∧
      ∃ news, List.Forall₂ (LineBecomes identifier p) (split '\n' unit_) news ∧
        join ['\n'] news = result := by
  rw [← List.any_eq_true, apply, constantPass]
  split
  · next found =>
    simp only [found, true_and, ← patchLines_eq_ok_iff]
    rcases patchLines identifier p.apply (split '\n' unit_) with e | news
    · refine ⟨fun h => ?_, ?_⟩
      · cases h
      · rintro ⟨_, h, _⟩
        cases h
    · simp [Except.map]
  · next absent =>
    refine ⟨fun h => ?_, fun h => absurd h.1 absent⟩
    cases h

/-! ## Two passes -/

/-- A patcher and then another, as one. -/
def andThen (p q : Patcher) : Patcher := custom fun t => p.apply t >>= q.apply

/-- What a patcher makes of a line that declares a constant is again one line that declares it. -/
def KeepsDeclaration (identifier : Text) (p : Patcher) (line : Text) : Prop :=
  declares line identifier = true →
    ∀ line', p.apply line = .ok line' → '\n' ∉ line' ∧ declares line' identifier = true

theorem LineBecomes.declares_eq {line line' : Text} (h : LineBecomes identifier p line line')
    (keeps : KeepsDeclaration identifier p line) :
    declares line' identifier = declares line identifier := by
  unfold LineBecomes at h
  split at h
  · next declared => rw [(keeps declared line' h).2, declared]
  · rw [h]

theorem LineBecomes.not_mem {line line' : Text} (h : LineBecomes identifier p line line')
    (keeps : KeepsDeclaration identifier p line) (single : '\n' ∉ line) : '\n' ∉ line' := by
  unfold LineBecomes at h
  split at h
  · next declared => exact (keeps declared line' h).1
  · rwa [h]

/-- A line becomes the same in two passes and in one. -/
theorem lineBecomes_andThen_iff {line line'' : Text} (keeps : KeepsDeclaration identifier p line) :
    (∃ line', LineBecomes identifier p line line' ∧ LineBecomes identifier q line' line'') ↔
      LineBecomes identifier (andThen p q) line line'' := by
  have again : ∀ line', LineBecomes identifier p line line' →
      (LineBecomes identifier q line' line'' ↔
        if declares line identifier then q.apply line' = .ok line'' else line'' = line') := by
    intro line' h
    rw [LineBecomes, h.declares_eq keeps]
  rw [LineBecomes]
  by_cases declared : declares line identifier = true
  · have first : ∀ line', LineBecomes identifier p line line' ↔ p.apply line = .ok line' :=
      fun line' => by rw [LineBecomes, if_pos declared]
    rw [if_pos declared, andThen, apply, bind_eq_ok_iff]
    refine exists_congr fun line' => ?_
    rw [first]
    refine and_congr_right fun h => ?_
    rw [again line' ((first line').mpr h), if_pos declared]
  · have first : ∀ line', LineBecomes identifier p line line' ↔ line' = line :=
      fun line' => by rw [LineBecomes, if_neg declared]
    rw [if_neg declared]
    constructor
    · rintro ⟨line', h, h'⟩
      rw [again line' h, if_neg declared] at h'
      rw [h', (first line').mp h]
    · rintro rfl
      have still := (first line'').mpr rfl
      exact ⟨line'', still, by rw [again line'' still, if_neg declared]⟩

/-- A pass leaves lines that declare the constant where there were some, and no others. -/
theorem declared_iff_of_forall₂ (keeps : ∀ line ∈ lines, KeepsDeclaration identifier p line)
    (h : List.Forall₂ (LineBecomes identifier p) lines news) :
    (∃ line ∈ news, declares line identifier = true) ↔
      ∃ line ∈ lines, declares line identifier = true := by
  induction h with
  | nil => rfl
  | cons first _ ih =>
      obtain ⟨keeps, others⟩ := List.forall_mem_cons.mp keeps
      rw [List.exists_mem_cons_iff, List.exists_mem_cons_iff, ih others, first.declares_eq keeps]

theorem not_mem_of_forall₂ (keeps : ∀ line ∈ lines, KeepsDeclaration identifier p line)
    (single : ∀ line ∈ lines, '\n' ∉ line)
    (h : List.Forall₂ (LineBecomes identifier p) lines news) : ∀ line ∈ news, '\n' ∉ line := by
  induction h with
  | nil => exact nofun
  | cons first _ ih =>
      obtain ⟨keeps, others⟩ := List.forall_mem_cons.mp keeps
      obtain ⟨single, more⟩ := List.forall_mem_cons.mp single
      exact List.forall_mem_cons.mpr ⟨first.not_mem keeps single, ih others more⟩

/-- Two passes over the declarations of a constant succeed with the same result as one pass of both
patchers, if the first leaves the declarations what they are. -/
theorem andThen_inConstant_eq_ok_iff
    (keeps : ∀ line ∈ split '\n' unit_, KeepsDeclaration identifier p line) :
    ((inConstant identifier p).apply unit_ >>= (inConstant identifier q).apply) = .ok result ↔
      (inConstant identifier (andThen p q)).apply unit_ = .ok result := by
  have single : ∀ line ∈ split '\n' unit_, '\n' ∉ line := fun _ => Text.not_mem_of_mem_split
  -- the second pass splits what the first has put together into the same lines
  have again : ∀ news, List.Forall₂ (LineBecomes identifier p) (split '\n' unit_) news →
      split '\n' (join ['\n'] news) = news := by
    intro news h
    refine Text.split_join (not_mem_of_forall₂ keeps single h) ?_
    rintro rfl
    exact Text.splitBy_ne_nil _ unit_ (List.forall₂_nil_right_iff.mp h)
  have lines : ∀ ends, (∃ news, List.Forall₂ (LineBecomes identifier p) (split '\n' unit_) news ∧
      List.Forall₂ (LineBecomes identifier q) news ends) ↔
        List.Forall₂ (LineBecomes identifier (andThen p q)) (split '\n' unit_) ends := by
    intro ends
    rw [forall₂_comp_iff]
    constructor
    · intro h
      exact ((List.forall₂_and_left _ _).mpr ⟨keeps, h⟩).imp fun _ _ h =>
        (lineBecomes_andThen_iff h.1).mp h.2
    · intro h
      exact ((List.forall₂_and_left _ _).mpr ⟨keeps, h⟩).imp fun _ _ h =>
        (lineBecomes_andThen_iff h.1).mpr h.2
  simp only [bind_eq_ok_iff, apply_inConstant_eq_ok_iff]
  constructor
  · rintro ⟨_, ⟨found, news, first, rfl⟩, -, ends, second, rfl⟩
    rw [again news first] at second
    exact ⟨found, ends, (lines ends).mp ⟨news, first, second⟩, rfl⟩
  · rintro ⟨found, ends, h, rfl⟩
    obtain ⟨news, first, second⟩ := (lines ends).mpr h
    refine ⟨_, ⟨found, news, first, rfl⟩, ?_⟩
    rw [again news first]
    exact ⟨(declared_iff_of_forall₂ keeps first).mpr found, ends, second, rfl⟩

/-- A patcher that is run on a constant edits the lines that declare it and nothing else. The lines
between the line feeds of a unit put together are the unit. If none of them declares the constant,
and only then, the constant is reported as not found. If the patcher fails on a declaration, the
failure is the one on the first such declaration. Else each declaration is rewritten where it stands
and all else is as it was. If what the patcher makes of declarations are again declarations, each on
one line, another one that is run on the constant after it could as well have been run on each line
right away. -/
theorem inConstant_edits_declarations (identifier : Text) (p : Patcher) (unit_ : Text) :
    (join ['\n'] (split '\n' unit_) = unit_ ∧ ∀ line ∈ split '\n' unit_, '\n' ∉ line) ∧
      (∀ absent, (inConstant identifier p).apply unit_ = .error (.constantNotFound absent) ↔
        absent = identifier ∧ ∀ line ∈ split '\n' unit_, declares line identifier = false) ∧
      (∀ line ∈ split '\n' unit_, declares line identifier = true →
        ∀ e, p.apply line = .error e → ∃ first cause,
          ComesTo p ((split '\n' unit_).filter fun line => declares line identifier) first ∧
            p.apply first = .error cause ∧
            (inConstant identifier p).apply unit_ = .error (.inConstant identifier cause)) ∧
      (∀ result, (inConstant identifier p).apply unit_ = .ok result ↔
        (∃ line ∈ split '\n' unit_, declares line identifier = true) ∧
          ∃ news, List.Forall₂ (LineBecomes identifier p) (split '\n' unit_) news ∧
            join ['\n'] news = result) ∧
      ((∀ line ∈ split '\n' unit_, KeepsDeclaration identifier p line) → ∀ q result,
        ((inConstant identifier p).apply unit_ >>= (inConstant identifier q).apply) = .ok result ↔
          (inConstant identifier (andThen p q)).apply unit_ = .ok result) := by
  refine ⟨⟨Text.join_split '\n' unit_, fun _ => Text.not_mem_of_mem_split⟩, fun absent => ?_,
    fun line hline declared e failed => ?_, fun result => apply_inConstant_eq_ok_iff,
    fun keeps q result => andThen_inConstant_eq_ok_iff keeps⟩
  · have none_ : (Scope.constant identifier).regions unit_ = [] ↔
        ∀ line ∈ split '\n' unit_, declares line identifier = false := by
      simp [Scope.regions]
    rw [apply_inConstant_eq_error_iff, none_]
    constructor
    · rintro (⟨h, he⟩ | ⟨_, _, _, _, he⟩)
      · cases he
        exact ⟨rfl, h⟩
      · cases he
    · rintro ⟨rfl, h⟩
      exact .inl ⟨h, rfl⟩
  · rcases forall₂_or_comesTo p ((Scope.constant identifier).regions unit_) with
      ⟨news, patched⟩ | ⟨first, cause, comes, stopped⟩
    · obtain ⟨line', -, h⟩ := exists_of_mem_left patched (List.mem_filter.mpr ⟨hline, declared⟩)
      cases failed.symm.trans h
    · exact ⟨first, cause, comes, stopped, apply_inConstant_failed comes stopped⟩

/-- A constant that is declared twice, on the first and on the last line, which has no line feed. -/
def declaredTwice : Text := ".field A:I = 0x1\nnop\n.field A:I = 0x1"

/-- The first pass makes the value longer, the second puts a remark behind it. -/
theorem inConstant_edits_declarations_twice :
    (∀ line ∈ split '\n' declaredTwice,
      KeepsDeclaration "A:I" (replaceText "0x1" "0x11") line) ∧
    (inConstant "A:I" (andThen (replaceText "0x1" "0x11") (append " # b"))).apply declaredTwice =
      .ok ".field A:I = 0x11 # b\nnop\n.field A:I = 0x11 # b" ∧
    ((inConstant "A:I" (replaceText "0x1" "0x11")).apply declaredTwice >>=
      (inConstant "A:I" (append " # b")).apply) =
        .ok ".field A:I = 0x11 # b\nnop\n.field A:I = 0x11 # b" := by
  have keeps : ∀ line ∈ split '\n' declaredTwice,
      KeepsDeclaration "A:I" (replaceText "0x1" "0x11") line := by
    have lines : split '\n' declaredTwice =
        ([".field A:I = 0x1", "nop", ".field A:I = 0x1"] : List Text) := rfl
    have first : KeepsDeclaration "A:I" (replaceText "0x1" "0x11") ".field A:I = 0x1" := by
      intro _ line' h
      have patched : (replaceText "0x1" "0x11").apply ".field A:I = 0x1" =
          .ok ".field A:I = 0x11" := rfl
      obtain rfl := Except.ok.inj (patched.symm.trans h)
      decide
    rw [lines, List.forall_mem_cons, List.forall_mem_cons, List.forall_mem_singleton]
    exact ⟨first, fun declared => absurd declared (by decide), first⟩
  have h : (inConstant "A:I" (andThen (replaceText "0x1" "0x11") (append " # b"))).apply
      declaredTwice = .ok ".field A:I = 0x11 # b\nnop\n.field A:I = 0x11 # b" := rfl
  exact ⟨keeps, h,
    ((inConstant_edits_declarations "A:I" _ declaredTwice).2.2.2.2 keeps _ _).mpr h⟩

end Patcher

end PatchTrail
