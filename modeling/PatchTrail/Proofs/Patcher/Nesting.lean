import PatchTrail.Proofs.Patcher.Failing
import PatchTrail.Proofs.Smali.Closing

/-!
# Methods are not found inside of scopes

On none of the lines that a scope hands on does a method begin or end (`Scope.plain`), so there is
no body of any method among them. A patcher that looks for one inside of a scope fails whatever it
is run on, and with it all that encloses it (`Patcher.nested_method_fails`).
-/

namespace PatchTrail

namespace Smali

variable {t : Text} {ls : List Text}

theorem segmentsFrom_contents (h : ∀ l ∈ ls, kindOf l = .content) :
    segmentsFrom none ls = betweenAll ls := by
  induction ls with
  | nil => rfl
  | cons line rest ih =>
      obtain ⟨first, others⟩ := List.forall_mem_cons.mp h
      have closed : slotBehind line = none := by simp [slotBehind, first]
      rw [segmentsFrom_closed, closed, ih others]
      rfl

/-- Without a line on which a method begins or ends there is no body. -/
theorem bodies_of_isPlain (plain : isPlain t = true) (signature : Text) :
    bodies t signature = [] := by
  refine List.eq_nil_iff_forall_not_mem.mpr fun b hb => ?_
  have piece := exists_bodies_iff.mp ⟨b, hb, rfl⟩
  rw [segments, segmentsFrom_contents (isPlain_iff.mp plain)] at piece
  simp [betweenAll] at piece

/-- A method neither begins nor ends on a line that declares a constant. -/
theorem kindOf_of_declares {line identifier : Text} (h : declares line identifier = true) :
    kindOf line = .content := by
  obtain ⟨first, -⟩ := Bool.and_eq_true_iff.mp h
  obtain ⟨rest, hfields⟩ := List.head?_eq_some_iff.mp (eq_of_beq first)
  rw [kindOf, hfields]
  exact kindOfFields_cons_eq_content_iff.mpr ⟨by decide, fun ends => absurd ends.1 (by decide)⟩

end Smali

namespace Patcher

open Smali (bodies isPlain)

variable {p q : Patcher} {ps : List Patcher} {scope : Scope} {scopes : List Scope}
  {signature identifier t unit_ : Text}

/-! ## What scopes hand on -/

/-- No method begins or ends in what a scope hands on. -/
theorem Scope.plain (h : t ∈ scope.regions unit_) : isPlain t = true := by
  cases scope with
  | method signature =>
      obtain ⟨b, hb, rfl⟩ := List.mem_map.mp h
      exact (Smali.whole_of_mem_segments (Smali.exists_bodies_iff.mp ⟨b, hb, rfl⟩)).plain
  | constant identifier =>
      obtain ⟨hline, declares⟩ := List.mem_filter.mp h
      have some_ : t ≠ [] := by
        rintro rfl
        exact absurd declares Bool.false_ne_true
      rw [Smali.isPlain_iff, Text.lines_eq_singleton (Text.not_mem_of_mem_split hline) some_,
        List.forall_mem_singleton]
      exact Smali.kindOf_of_declares declares

theorem ComesTo.mem {texts : List Text} (h : ComesTo p texts t) : t ∈ texts := by
  obtain ⟨before, behind, rfl, -⟩ := h
  simp

/-- Whatever is reached behind a scope is run on what some scope hands on. -/
theorem Reached.exists_region (h : Reached q t scopes p unit_) (enclosed : scopes ≠ []) :
    ∃ scope next, t ∈ Scope.regions scope next := by
  induction h with
  | self => exact absurd rfl enclosed
  | inMethod _ comes inside ih =>
      cases inside with
      | self => exact ⟨_, _, comes.mem⟩
      | _ => exact ih (List.cons_ne_nil _ _)
  | inConstant comes inside ih =>
      cases inside with
      | self => exact ⟨_, _, comes.mem⟩
      | _ => exact ih (List.cons_ne_nil _ _)

/-! ## What fails on all that scopes hand on -/

/-- A patcher fails on every text in which no method begins or ends. -/
def FailsOnPlain (p : Patcher) : Prop := ∀ t, isPlain t = true → ∃ e, p.apply t = .error e

/-- On the regions of a scope such a patcher comes to one on which it fails. -/
theorem FailsOnPlain.exists_comesTo (h : FailsOnPlain p) (found : scope.regions unit_ ≠ []) :
    ∃ region e, ComesTo p (scope.regions unit_) region ∧ p.apply region = .error e := by
  rcases forall₂_or_comesTo p (scope.regions unit_) with ⟨news, patched⟩ | stopped
  · obtain ⟨region, hregion⟩ := List.exists_mem_of_ne_nil _ found
    obtain ⟨new, -, ok⟩ := exists_of_mem_left patched hregion
    obtain ⟨e, failed⟩ := h region (Scope.plain hregion)
    cases failed.symm.trans ok
  · exact stopped

theorem FailsOnPlain.pass (h : FailsOnPlain p) (signature unit_ : Text) :
    ∃ e, (inMethod signature [p]).apply unit_ = .error e := by
  by_cases absent : (Scope.method signature).regions unit_ = []
  · exact ⟨_, apply_pass_absent absent⟩
  · obtain ⟨region, e, comes, failed⟩ := h.exists_comesTo absent
    exact ⟨_, apply_pass_failed comes failed⟩

theorem FailsOnPlain.inMethod (h : FailsOnPlain p) (member : p ∈ ps) (signature unit_ : Text) :
    ∃ e, (inMethod signature ps).apply unit_ = .error e := by
  rcases hps : (Patcher.inMethod signature ps).apply unit_ with e | result
  · exact ⟨e, rfl⟩
  · obtain ⟨before, behind, rfl⟩ := List.append_of_mem member
    obtain ⟨u, v, -, hpass, -⟩ := exists_pass hps
    obtain ⟨e, failed⟩ := h.pass signature u
    cases failed.symm.trans hpass

theorem FailsOnPlain.inConstant (h : FailsOnPlain p) (identifier unit_ : Text) :
    ∃ e, (inConstant identifier p).apply unit_ = .error e := by
  by_cases absent : (Scope.constant identifier).regions unit_ = []
  · exact ⟨_, apply_inConstant_absent absent⟩
  · obtain ⟨region, e, comes, failed⟩ := h.exists_comesTo absent
    exact ⟨_, apply_inConstant_failed comes failed⟩

/-- A method is not found in a text in which none begins, nor does anything help that looks for it
inside of scopes. -/
theorem failsOnPlain_of_inside (h : Inside (inMethod signature ps) scopes p) (some_ : ps ≠ []) :
    FailsOnPlain p := by
  intro t plain
  -- from the inside out: each scope on the way fails on what it is handed, whatever that is
  induction h generalizing t with
  | self =>
      obtain ⟨first, rest, rfl⟩ := List.exists_cons_of_ne_nil some_
      have absent : (Scope.method signature).regions t = [] := by
        rw [Scope.regions, Smali.bodies_of_isPlain plain, List.map_nil]
      exact ⟨.methodNotFound signature, apply_inMethod_eq_error_iff.mpr
        ⟨first, t, ⟨[], rest, rfl, rfl⟩, apply_pass_absent absent⟩⟩
  | inMethod outer member _ ih => exact FailsOnPlain.inMethod ih member outer t
  | inConstant outer _ ih => exact FailsOnPlain.inConstant ih outer t

/-- A method inside of a scope is never found. If patchers that are to be run on a method stand
inside of a patcher behind a scope or more, the patcher fails on every unit: whatever is handed on
by a scope, in whichever pass, has no body of any method. -/
theorem nested_method_fails (p : Patcher) :
    (∀ scopes signature ps, Inside (inMethod signature ps) scopes p → ps ≠ [] → scopes ≠ [] →
      ∀ unit_, ∃ e, p.apply unit_ = .error e) ∧
      ∀ scopes q t unit_, Reached q t scopes p unit_ → scopes ≠ [] →
        ∀ signature, bodies t signature = [] := by
  refine ⟨fun scopes signature ps inside some_ enclosed unit_ => ?_,
    fun scopes q t unit_ reached enclosed => ?_⟩
  · -- the outermost scope is run on any unit, but what it hands on is plain
    cases inside with
    | self => exact absurd rfl enclosed
    | inMethod outer member inside =>
        exact (failsOnPlain_of_inside inside some_).inMethod member outer unit_
    | inConstant outer inside =>
        exact (failsOnPlain_of_inside inside some_).inConstant outer unit_
  · obtain ⟨scope, next, hregion⟩ := reached.exists_region enclosed
    exact Smali.bodies_of_isPlain (Scope.plain hregion)

/-- A pass puts a whole method into a body, and the next one looks for it there. -/
def inserted : Patcher :=
  inMethod "f" [overwrite ".method g\na\n.end method\n", inMethod "g" [require "a"]]

/-- What has been put into a body is not found there. -/
theorem nested_method_fails_inserted :
    Inside (inMethod "g" [require "a"]) [.method "f"] inserted ∧ [require "a"] ≠ [] ∧
      [Scope.method "f"] ≠ [] ∧ (∀ unit_, ∃ e, inserted.apply unit_ = .error e) ∧
      Reached (overwrite ".method g\na\n.end method\n") "nop\n" [.method "f"] inserted
        ".method f\nnop\n.end method\n" ∧
      ∀ signature, bodies "nop\n" signature = [] := by
  have inside : Inside (inMethod "g" [require "a"]) [.method "f"] inserted :=
    .inMethod "f" (by simp) .self
  have reached : Reached (overwrite ".method g\na\n.end method\n") "nop\n" [.method "f"] inserted
      ".method f\nnop\n.end method\n" :=
    .inMethod ⟨[], _, rfl, rfl⟩ ⟨[], [], rfl, by simp⟩ .self
  have some_ : [require "a"] ≠ [] := List.cons_ne_nil _ _
  have enclosed : [Scope.method "f"] ≠ [] := List.cons_ne_nil _ _
  exact ⟨inside, some_, enclosed, (nested_method_fails inserted).1 _ _ _ inside some_ enclosed,
    reached, (nested_method_fails inserted).2 _ _ _ _ reached enclosed⟩

end Patcher

end PatchTrail
