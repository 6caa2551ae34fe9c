import Mathlib.Data.List.TakeWhile
import PatchTrail.Proofs.Smali.Rescanning

/-!
# Ends of methods that are run into

The line on which a method ends is read behind whatever stands on its line in front of it. Behind
blanks it ends the method still, behind anything else no more (`kindOf_append`). So a body that is
rewritten to a text without a line end costs the unit this marker, and nothing else does, as long as
no method begins or ends in the new bodies: patchers that are run on a method leave the markers of
the unit as they are if and only if each of the texts they make spares the line behind it
(`Patcher.inMethod_markers`).
-/

namespace PatchTrail

namespace Text

variable {t piece line : Text}

/-! ## The last piece of a text -/

/-- A text is made of lines with their line ends and what stands behind the last of them. -/
theorem exists_lines_lastPiece (t : Text) :
    ∃ ls : List Text, (∀ l ∈ ls, Terminated l) ∧ t = ls.flatten ++ t.lastPiece := by
  have whole : t = (t.reverse.dropWhile (· ≠ '\n')).reverse ++ t.lastPiece := by
    rw [lastPiece, ← List.reverse_append, List.takeWhile_append_dropWhile, List.reverse_reverse]
  cases hrest : t.reverse.dropWhile (· ≠ '\n') with
  | nil =>
      rw [hrest] at whole
      exact ⟨[], by simp, whole⟩
  | cons c rest =>
      have feed : c = '\n' := by
        have stops := List.head?_dropWhile_not (· ≠ '\n') t.reverse
        rw [hrest] at stops
        simpa using stops
      rw [hrest, feed, List.reverse_cons] at whole
      obtain ⟨ls, feeds, heq⟩ := exists_lines_of_feed rest.reverse
      exact ⟨ls, feeds, heq ▸ whole⟩

theorem not_mem_lastPiece (t : Text) : '\n' ∉ t.lastPiece := by
  intro h
  rw [lastPiece, List.mem_reverse] at h
  simpa using List.mem_takeWhile_imp h

theorem sparesNext_of_feed (h : t.getLast? = some '\n') : t.sparesNext = true := by
  obtain ⟨t, rfl⟩ := List.getLast?_eq_some_iff.mp h
  simp [sparesNext, lastPiece, isBlank]

theorem lines_eq_singleton (h : '\n' ∉ t) (some_ : t ≠ []) : lines t = [t] := by
  obtain ⟨front, c, rfl⟩ := List.eq_nil_or_concat' t |>.resolve_left some_
  obtain ⟨hfront, hc⟩ : '\n' ∉ front ∧ '\n' ≠ c := by simpa using h
  exact lines_append_piece hfront (by simp [lines, hc.symm])

/-! ## Fields of texts that are put together -/

/-- Around the place where two texts are put together, two pieces become one. -/
theorem splitBy_append_of_eq {p : Char → Bool} {before behind : List Text} {last first : Text}
    (h : splitBy p piece = before ++ [last]) (h' : splitBy p line = first :: behind) :
    splitBy p (piece ++ line) = before ++ (last ++ first) :: behind := by
  induction piece generalizing before last with
  | nil =>
      obtain ⟨rfl, rfl⟩ : before = [] ∧ last = [] := by
        cases before <;> simp_all [splitBy]
      exact h'
  | cons c piece ih =>
      obtain ⟨word, more, hpiece⟩ := List.exists_cons_of_ne_nil (splitBy_ne_nil p piece)
      rw [splitBy, hpiece] at h
      rw [List.cons_append, splitBy]
      by_cases hc : p c = true
      · rw [if_pos hc] at h ⊢
        obtain _ | ⟨b, before⟩ := before
        · simp at h
        · obtain ⟨rfl, hmore⟩ := List.cons.inj h
          rw [ih (hpiece.trans hmore)]
          rfl
      · rw [if_neg hc] at h ⊢
        obtain _ | ⟨b, before⟩ := before
        · obtain ⟨rfl, rfl⟩ := List.cons.inj h
          have joined : splitBy p (piece ++ line) = [] ++ (word ++ first) :: behind := ih hpiece
          rw [joined]
          rfl
        · obtain ⟨rfl, rfl⟩ := List.cons.inj h
          have joined : splitBy p (piece ++ line) =
              (word :: before) ++ (last ++ first) :: behind := ih hpiece
          rw [joined]
          rfl

theorem fields_eq_nil_iff : t.fields = [] ↔ t.isBlank = true := by
  induction t with
  | nil => decide
  | cons c t ih =>
      obtain ⟨word, more, ht⟩ := List.exists_cons_of_ne_nil (splitBy_ne_nil PatchTrail.isBlank t)
      by_cases hc : PatchTrail.isBlank c = true
      · simpa [fields, splitBy, isBlank, hc] using ih
      · simp [fields, splitBy, isBlank, hc, ht]

theorem fields_append_of_isBlank (h : isBlank piece = true) (t : Text) :
    fields (piece ++ t) = fields t := by
  induction piece with
  | nil => rfl
  | cons c piece ih =>
      obtain ⟨hc, hpiece⟩ : PatchTrail.isBlank c = true ∧ isBlank piece = true := by
        simpa [isBlank] using h
      rw [List.cons_append, fields, splitBy, if_pos hc, List.filter_cons_of_neg (by simp)]
      exact ih hpiece

section

variable {before behind : List Text} {last first : Text}
  (hpiece : splitBy PatchTrail.isBlank piece = before ++ [last])
  (hline : splitBy PatchTrail.isBlank line = first :: behind)

include hpiece hline

/-- With a blank between them, two texts have the fields of both. -/
theorem fields_append_of_apart (apart : last = [] ∨ first = []) :
    fields (piece ++ line) = fields piece ++ fields line := by
  rw [fields, fields, fields, splitBy_append_of_eq hpiece hline, hpiece, hline]
  rcases apart with rfl | rfl
  · simp
  · cases last <;> simp

/-- Without a blank between them, the last field of a text and the first of another become one. -/
theorem fields_append_of_full (full : first ≠ []) :
    fields (piece ++ line) =
      before.filter (· ≠ []) ++ (last ++ first) :: behind.filter (· ≠ []) := by
  rw [fields, splitBy_append_of_eq hpiece hline, List.filter_append, List.filter_cons_of_pos]
  simp [full]

end

end Text

namespace Smali

open Text (Terminated)

variable {piece line : Text}

/-! ## Lines with something in front -/

theorem kindOfFields_cons_eq_content_iff {first : Text} {rest : List Text} :
    kindOfFields (first :: rest) = .content ↔
      first ≠ methodField ∧ ¬(first = (".end" : Text) ∧ rest.head? = some ("method" : Text)) := by
  rw [kindOfFields]
  split_ifs with begins ends
  · exact iff_of_false (by simp) fun h => h.1 begins
  · exact iff_of_false (by simp) fun h => h.2 ends
  · exact iff_of_true rfl ⟨begins, ends⟩

theorem exists_fields_of_methodEnd {fields : List Text} (h : kindOfFields fields = .methodEnd) :
    ∃ more, fields = (".end" : Text) :: ("method" : Text) :: more := by
  obtain _ | ⟨first, rest⟩ := fields
  · cases h
  · rw [kindOfFields] at h
    split_ifs at h with begins ends
    obtain ⟨more, rfl⟩ := List.head?_eq_some_iff.mp ends.2
    exact ⟨more, by rw [ends.1]⟩

/-- Whatever else comes behind the first fields of a line on which no method begins or ends. -/
theorem kindOfFields_append {fields front more : List Text} {word : Text}
    (content : kindOfFields fields = .content) (h : front <+: fields)
    (apart : word ≠ "method" ∧ word ≠ methodField) (alone : front = [] → word ≠ ".end") :
    kindOfFields (front ++ word :: more) = .content := by
  obtain ⟨others, rfl⟩ := h
  obtain _ | ⟨first, front⟩ := front
  · exact kindOfFields_cons_eq_content_iff.mpr ⟨apart.2, fun h => alone rfl h.1⟩
  · obtain ⟨start, ends⟩ := kindOfFields_cons_eq_content_iff.mp content
    refine kindOfFields_cons_eq_content_iff.mpr ⟨start, fun h => ends ⟨h.1, ?_⟩⟩
    obtain _ | ⟨second, front⟩ := front
    · exact absurd (by simpa using h.2) apart.1
    · simpa using h.2

/-- The line on which a method ends ends it behind blanks, and behind nothing else. -/
theorem kindOf_append (content : kindOf piece = .content) (ends : kindOf line = .methodEnd) :
    kindOf (piece ++ line) = if piece.isBlank then .methodEnd else .content := by
  split
  · next blank => rwa [kindOf, Text.fields_append_of_isBlank blank]
  · next some_ =>
    obtain ⟨more, hfields⟩ := exists_fields_of_methodEnd ends
    obtain ⟨before, last, hpiece⟩ := List.eq_nil_or_concat' _ |>.resolve_left
      (Text.splitBy_ne_nil PatchTrail.isBlank piece)
    obtain ⟨first, behind, hline⟩ :=
      List.exists_cons_of_ne_nil (Text.splitBy_ne_nil PatchTrail.isBlank line)
    rw [kindOf]
    by_cases apart : last = [] ∨ first = []
    · rw [Text.fields_append_of_apart hpiece hline apart, hfields]
      exact kindOfFields_append content (List.prefix_refl _) (by decide) fun none_ =>
        absurd (Text.fields_eq_nil_iff.mp none_) some_
    · obtain ⟨filled, full⟩ := not_or.mp apart
      have front : before.filter (· ≠ []) <+: piece.fields := by
        rw [Text.fields, hpiece, List.filter_append]
        exact List.prefix_append _ _
      obtain ⟨rfl, -⟩ : first = ".end" ∧ behind.filter (· ≠ []) = ("method" : Text) :: more := by
        rw [Text.fields, hline, List.filter_cons_of_pos (by simpa using full)] at hfields
        exact List.cons.inj hfields
      rw [Text.fields_append_of_full hpiece hline full]
      refine kindOfFields_append content front ⟨fun h => ?_, fun h => ?_⟩ fun _ h => ?_
      · exact absurd (h ▸ List.suffix_append last _ : (".end" : Text) <:+ "method") (by decide)
      · exact absurd (h ▸ List.suffix_append last _ : (".end" : Text) <:+ methodField) (by decide)
      · exact filled (by simpa using h)

/-! ## Markers that are lost -/

variable {olds news mids olds' news' : List LineKind} {k k' : Nat}

theorem EndsLost.refl (ks : List LineKind) : EndsLost 0 ks ks := ⟨.refl ks, rfl, rfl⟩

theorem EndsLost.single : EndsLost 1 [.methodEnd] [] := ⟨List.nil_sublist _, rfl, rfl⟩

theorem EndsLost.append (h : EndsLost k olds news) (h' : EndsLost k' olds' news') :
    EndsLost (k + k') (olds ++ olds') (news ++ news') where
  sublist := h.sublist.append h'.sublist
  starts := by rw [List.filter_append, List.filter_append, h.starts, h'.starts]
  ends := by
    have := h.ends
    have := h'.ends
    rw [List.count_append, List.count_append]
    omega

theorem EndsLost.trans (h : EndsLost k olds mids) (h' : EndsLost k' mids news) :
    EndsLost (k + k') olds news where
  sublist := h'.sublist.trans h.sublist
  starts := h'.starts.trans h.starts
  ends := by
    have := h.ends
    have := h'.ends
    omega

/-- If no end is lost, all markers are there. -/
theorem EndsLost.eq_iff (h : EndsLost k olds news) : news = olds ↔ k = 0 := by
  refine ⟨fun same => ?_, fun none_ => h.sublist.eq_of_length ?_⟩
  · have := h.ends
    rw [same] at this
    omega
  · have split : ∀ ks : List LineKind,
        ks.length = ks.count .methodEnd + (ks.filter (· ≠ .methodEnd)).length := fun ks => by
      rw [List.length_eq_countP_add_countP (· == .methodEnd), ← List.countP_eq_length_filter]
      congr 2
      funext kind
      simp
    rw [split news, split olds, h.starts, ← h.ends, none_]
    omega

/-- What the lines on which methods begin and end say. -/
def markersOf (ls : List Text) : List LineKind := (ls.map kindOf).filter (· ≠ .content)

theorem markersOf_append (ls ls' : List Text) :
    markersOf (ls ++ ls') = markersOf ls ++ markersOf ls' := by
  simp [markersOf]

theorem markersOf_cons (l : Text) (ls : List Text) :
    markersOf (l :: ls) = markersOf [l] ++ markersOf ls := markersOf_append [l] ls

theorem markersOf_of_content {ls : List Text} (h : ∀ l ∈ ls, kindOf l = .content) :
    markersOf ls = [] := by
  simpa [markersOf] using h

/-- A new body and the line behind it: the method ends there still if the body spares this line. -/
theorem markersOf_append_end {x rest : Text} (plain : isPlain x = true)
    (ends : kindOf line = .methodEnd) (read : Text.lines (line ++ rest) = line :: rest.lines) :
    markersOf (Text.lines (x ++ (line ++ rest))) =
      (if x.sparesNext then [.methodEnd] else []) ++ markersOf rest.lines := by
  obtain ⟨ls, feeds, heq⟩ := Text.exists_lines_lastPiece x
  have kinds : ∀ l ∈ ls ++ Text.lines x.lastPiece, kindOf l = .content := by
    rw [← Text.lines_flatten_append feeds, ← heq]
    exact isPlain_iff.mp plain
  obtain ⟨front, last⟩ := List.forall_mem_append.mp kinds
  have last : kindOf x.lastPiece = .content := by
    by_cases none_ : x.lastPiece = []
    · rw [none_]
      rfl
    · exact last _ (by rw [Text.lines_eq_singleton (Text.not_mem_lastPiece x) none_]; simp)
  have glued : Text.lines (x ++ (line ++ rest)) = ls ++ (x.lastPiece ++ line) :: rest.lines := by
    conv_lhs => rw [heq, List.append_assoc, Text.lines_flatten_append feeds]
    rw [Text.lines_append_piece (Text.not_mem_lastPiece x) read]
  have kind : markersOf [x.lastPiece ++ line] = if x.sparesNext then [.methodEnd] else [] := by
    rw [markersOf, List.map_singleton, kindOf_append last ends, Text.sparesNext]
    split <;> rfl
  rw [glued, markersOf_append, markersOf_of_content front, List.nil_append, markersOf_cons, kind]

/-! ## Markers of a rewritten unit -/

variable {f : Text → Text → Text} {opened : Option (Text × List Text)} {ls : List Text}
  {pieces : List Segment}

/-- Whether a segment is a body that is rewritten to a text which runs into the next line. -/
def Segment.runsOn (f : (signature body : Text) → Text) : Segment → Bool
  | .between _ => false
  | .body s t => !(f s t).sparesNext

theorem countP_runsOn_betweenAll (lines : List Text) :
    (betweenAll lines).countP (Segment.runsOn f) = 0 := by
  simp [betweenAll, Segment.runsOn]

theorem EndsLost.behind {rest rest' : List Text} (h : EndsLost k (markersOf rest) (markersOf rest'))
    (line : Text) : EndsLost k (markersOf (line :: rest)) (markersOf (line :: rest')) := by
  rw [markersOf_cons line rest, markersOf_cons line rest', ← Nat.zero_add k]
  exact (EndsLost.refl _).append h

/-- With each new body that runs into the line behind it the end of a method is lost, and nothing
else is, as long as no method begins or ends in a new body. -/
theorem Segmented.endsLost (h : Segmented opened ls pieces) (reads : Reads opened ls)
    (plain : ∀ s t, .body s t ∈ pieces → isPlain (f s t) = true) :
    EndsLost (pieces.countP (Segment.runsOn f)) (markersOf ls)
      (markersOf (rewritten f pieces).lines) := by
  induction h with
  | done => exact .refl []
  | unended s lines =>
      have read : Text.lines lines.reverse.flatten = lines.reverse := reads.over
      have none_ : markersOf lines.reverse = [] := markersOf_of_content reads.content
      rw [countP_runsOn_betweenAll, rewritten_betweenAll, read, none_]
      exact .refl []
  | @outside line rest pieces behind ih =>
      rw [rewritten_between, reads.first behind.rewritten_eq_nil,
        List.countP_cons_of_neg Bool.false_ne_true]
      exact (ih reads.behind fun s t h => plain s t (List.mem_cons_of_mem _ h)).behind line
  | content kind _ ih =>
      rw [markersOf_cons, markersOf_of_content (List.forall_mem_singleton.mpr kind)]
      exact ih (reads.next kind) plain
  | @body s line lines rest pieces kind nonempty behind ih =>
      have ih := ih reads.behind fun s t h =>
        plain s t (List.mem_cons_of_mem _ (List.mem_cons_of_mem _ h))
      have read := reads.first (behind.rewritten_eq_nil (f := f))
      have ended : markersOf [line] = [.methodEnd] := by
        rw [markersOf, List.map_singleton, kind]
        rfl
      rw [rewritten_body, rewritten_between,
        markersOf_append_end (plain s _ List.mem_cons_self) kind read, markersOf_cons, ended]
      by_cases spares : (f s lines.reverse.flatten).sparesNext = true
      · rw [List.countP_cons_of_neg (by simp [Segment.runsOn, spares]),
          List.countP_cons_of_neg Bool.false_ne_true, if_pos spares,
          ← Nat.zero_add (List.countP _ _)]
        exact (EndsLost.refl _).append ih
      · rw [List.countP_cons_of_pos (by simp [Segment.runsOn, spares]),
          List.countP_cons_of_neg Bool.false_ne_true, if_neg spares, Nat.add_comm]
        exact EndsLost.single.append ih
  | @between s line lines rest pieces kind empty behind ih =>
      rw [rewritten_betweenAll_append, rewritten_between]
      have read : Text.lines (lines.reverse.flatten ++ (line ++ rewritten f pieces)) =
          lines.reverse ++ line :: (rewritten f pieces).lines := reads.both behind.rewritten_eq_nil
      have none_ : markersOf lines.reverse = [] := markersOf_of_content reads.content
      rw [read, markersOf_append, none_, List.nil_append, List.countP_append,
        countP_runsOn_betweenAll, List.countP_cons_of_neg Bool.false_ne_true, Nat.zero_add]
      exact (ih reads.behind fun s t h =>
        plain s t (List.mem_append_right _ (List.mem_cons_of_mem _ h))).behind line

variable {signature : Text} {g : Text → Text}

theorem countP_runsOn_only (others : ∀ s t, .body s t ∈ pieces → t.sparesNext = true)
    (offset : Nat) :
    pieces.countP (Segment.runsOn (only signature g)) =
      (bodiesFrom signature offset pieces).countP fun b => !(g b.text).sparesNext := by
  induction pieces generalizing offset with
  | nil => rfl
  | cons piece rest ih =>
      obtain ih := ih (fun s t h => others s t (List.mem_cons_of_mem _ h))
      rcases piece with t | ⟨s, t⟩
      · rw [List.countP_cons_of_neg Bool.false_ne_true, bodiesFrom, ih]
      · by_cases hs : s = signature
        · simp [bodiesFrom, hs, List.countP_cons, ih (offset + t.size), Segment.runsOn, only]
        · have spares : t.sparesNext = true := others s t List.mem_cons_self
          simp [bodiesFrom, hs, ih (offset + t.size), Segment.runsOn, only, spares]

/-- If the bodies of a method are rewritten, the ends that are lost are those of its own bodies. -/
theorem endsLost_rewrite_only {unit_ : Text}
    (plain : ∀ b ∈ bodies unit_ signature, isPlain (g b.text) = true) :
    EndsLost ((bodies unit_ signature).countP fun b => !(g b.text).sparesNext) (markers unit_)
      (markers (rewrite (only signature g) unit_)) := by
  have whole : ∀ s t, .body s t ∈ segments unit_ → Whole t := fun _ _ => whole_of_mem_segments
  rw [bodies, ← countP_runsOn_only fun s t h => Text.sparesNext_of_feed (whole s t h).feed]
  refine (segmented_segments unit_).endsLost (reads_lines unit_) fun s t h => ?_
  unfold only
  split
  · next hs => exact (forall_bodies_iff fun t => isPlain (g t) = true).mp plain t (hs ▸ h)
  · exact (whole s t h).plain

end Smali

namespace Patcher

open Smali (EndsLost isPlain markers)

variable {signature unit_ result : Text} {ps : List Patcher}

theorem endsLost_of_apply (h : (inMethod signature ps).apply unit_ = .ok result)
    (plain : ∀ x ∈ yields signature ps unit_, isPlain x = true) :
    EndsLost ((yields signature ps unit_).countP (!·.sparesNext)) (markers unit_)
      (markers result) := by
  induction ps generalizing unit_ with
  | nil =>
      cases h
      exact .refl _
  | cons p rest ih =>
      rw [apply_inMethod_cons] at h
      obtain ⟨next, hnext, hrest⟩ := bind_eq_ok_iff.mp h
      rw [yields_cons hnext] at plain ⊢
      obtain ⟨first, others⟩ := List.forall_mem_append.mp plain
      obtain ⟨-, -, rfl, -⟩ := apply_inMethod_eq_ok_iff.mp hnext
      rw [List.countP_append, List.countP_map]
      exact (Smali.endsLost_rewrite_only (List.forall_mem_map.mp first)).trans (ih hrest others)

/-- Patchers that make of the bodies of a method texts in which no method begins or ends lose the
end of a method with each text that runs into the line behind it, and no other marker. So the
markers stay what they are if and only if behind its last line feed none of these texts has anything
but blanks. -/
theorem inMethod_markers (h : (inMethod signature ps).apply unit_ = .ok result)
    (plain : ∀ x ∈ yields signature ps unit_, isPlain x = true) :
    EndsLost ((yields signature ps unit_).countP (!·.sparesNext)) (markers unit_)
        (markers result) ∧
      (markers result = markers unit_ ↔
        ∀ x ∈ yields signature ps unit_, x.sparesNext = true) := by
  have lost := endsLost_of_apply h plain
  refine ⟨lost, lost.eq_iff.trans ?_⟩
  rw [List.countP_eq_zero]
  simp

/-- A comment with its line end and a text of blanks, put behind both bodies of a method. -/
theorem inMethod_markers_comment :
    (inMethod "f" [append "// marked\n", append "  "]).apply
        (threeBodies "a\n" "a\n" "x\na\n") =
      .ok (threeBodies "a\n// marked\n  " "a\n" "x\na\n// marked\n  ") ∧
    (∀ x ∈ yields "f" [append "// marked\n", append "  "] (threeBodies "a\n" "a\n" "x\na\n"),
      isPlain x = true) ∧
    markers (threeBodies "a\n// marked\n  " "a\n" "x\na\n// marked\n  ") =
      markers (threeBodies "a\n" "a\n" "x\na\n") := by
  have h : (inMethod "f" [append "// marked\n", append "  "]).apply
      (threeBodies "a\n" "a\n" "x\na\n") =
        .ok (threeBodies "a\n// marked\n  " "a\n" "x\na\n// marked\n  ") := rfl
  have plain : ∀ x ∈ yields "f" [append "// marked\n", append "  "]
      (threeBodies "a\n" "a\n" "x\na\n"), isPlain x = true := by decide
  exact ⟨h, plain, (inMethod_markers h plain).2.mpr (by decide)⟩

/-- A comment without its line end takes the end of the method away. -/
theorem inMethod_end_lost :
    (inMethod "f" [append "// marked"]).apply ".method f\nnop\n.end method\n" =
      .ok ".method f\nnop\n// marked.end method\n" ∧
    (∀ x ∈ yields "f" [append "// marked"] ".method f\nnop\n.end method\n", isPlain x = true) ∧
    markers ".method f\nnop\n.end method\n" = [.methodStart "f", .methodEnd] ∧
    markers ".method f\nnop\n// marked.end method\n" = [.methodStart "f"] :=
  ⟨rfl, by decide, rfl, rfl⟩

end Patcher

end PatchTrail
