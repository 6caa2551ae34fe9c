import PatchTrail.Proofs.Smali.Framing
import PatchTrail.Proofs.Smali.Rewriting

/-!
# Units are read alike after their bodies have been rewritten

If every body of a unit is rewritten to one that is whole, the new unit is cut into the segments of
the old one with the new bodies in them (`segments_rewrite`), so every body is found again, behind
as many bytes more or less as the bodies in front of it have grown (`Patcher.inMethod_rescans`).
-/

namespace PatchTrail

namespace Smali

open Text (Terminated)

variable {f g : Text → Text → Text} {signature s t : Text} {opened : Option (Text × List Text)}
  {ls : List Text} {pieces : List Segment}

/-! ## Whole texts -/

theorem isPlain_iff : isPlain t = true ↔ ∀ l ∈ t.lines, kindOf l = .content := by
  simp only [isPlain, List.all_eq_true, Bool.not_eq_true']
  exact forall₂_congr fun l _ => ⟨isBoundary_eq_false, isBoundary_content⟩

/-- A whole text consists of lines with their line ends, on which no method begins or ends. -/
theorem whole_iff : Whole t ↔ t ≠ [] ∧ Inner t := by
  constructor
  · rintro ⟨feed, plain⟩
    obtain ⟨t, rfl⟩ := List.getLast?_eq_some_iff.mp feed
    obtain ⟨ls, feeds, heq⟩ := Text.exists_lines_of_feed t
    refine ⟨by simp, ls, heq.symm, fun l hl => ⟨feeds l hl, isPlain_iff.mp plain l ?_⟩⟩
    rwa [← heq, Text.lines_flatten feeds]
  · rintro ⟨some_, ls, rfl, hls⟩
    have feeds : ∀ l ∈ ls, Terminated l := fun l hl => (hls l hl).1
    refine ⟨?_, isPlain_iff.mpr fun l hl => (hls l ?_).2⟩
    · have nonempty : ls ≠ [] := fun h => some_ (by rw [h]; rfl)
      obtain ⟨lines, line, rfl⟩ := List.eq_nil_or_concat ls |>.resolve_left nonempty
      obtain ⟨body, -, rfl⟩ := feeds line (by simp)
      simp
    · rwa [Text.lines_flatten feeds] at hl

/-! ## The segments of a rewritten unit -/

/-- The lines since the method that is open has begun. -/
def held (opened : Option (Text × List Text)) : List Text := opened.elim [] fun o => o.2.reverse

/-- A method as it is open before any of its lines. -/
def reopened (opened : Option (Text × List Text)) : Option (Text × List Text) :=
  opened.map fun o => (o.1, [])

theorem held_slotBehind (line : Text) : held (slotBehind line) = [] := by
  unfold slotBehind
  split <;> rfl

theorem reopened_slotBehind (line : Text) : reopened (slotBehind line) = slotBehind line := by
  unfold slotBehind
  split <;> rfl

theorem map_mapBody_betweenAll (lines : List Text) :
    (betweenAll lines).map (Segment.mapBody f) = betweenAll lines := by
  simp [betweenAll, Segment.mapBody]

/-- What has been read so far: with the lines that are left, these are the lines of a text, and no
method begins or ends on those of the method that is open. -/
structure Reads (opened : Option (Text × List Text)) (ls : List Text) : Prop where
  lines : Text.lines (held opened ++ ls).flatten = held opened ++ ls
  content : ∀ l ∈ held opened, kindOf l = .content

variable {line x : Text} {lines rest : List Text}

theorem reads_lines (unit_ : Text) : Reads none unit_.lines :=
  ⟨congrArg Text.lines (Text.flatten_lines unit_), by simp [held]⟩

theorem Reads.append (h : Reads opened ls) (hx : ls = [] → x = []) :
    Text.lines ((held opened).flatten ++ x) = held opened ++ x.lines :=
  Text.lines_append_of_lines h.lines hx

theorem Reads.over (h : Reads opened []) : Text.lines (held opened).flatten = held opened := by
  simpa using h.lines

theorem Reads.first (h : Reads opened (line :: rest)) (hx : rest = [] → x = []) :
    Text.lines (line ++ x) = line :: x.lines := by
  have more : Text.lines ([line] ++ rest).flatten = [line] ++ rest := Text.lines_of_append h.lines
  simpa using Text.lines_append_of_lines more hx

theorem Reads.both (h : Reads opened (line :: rest)) (hx : rest = [] → x = []) :
    Text.lines ((held opened).flatten ++ (line ++ x)) = held opened ++ line :: x.lines := by
  rw [h.append fun none_ => absurd none_ (List.cons_ne_nil line rest), h.first hx]

/-- Behind a line that does not go on with a body. -/
theorem Reads.behind (h : Reads opened (line :: rest)) : Reads (slotBehind line) rest := by
  have more : Text.lines ([line] ++ rest).flatten = [line] ++ rest := Text.lines_of_append h.lines
  refine ⟨?_, ?_⟩
  · rw [held_slotBehind]
    exact Text.lines_of_append more
  · rw [held_slotBehind]
    simp

/-- Behind another line of the method that is open. -/
theorem Reads.next (h : Reads (some (s, lines)) (line :: rest)) (kind : kindOf line = .content) :
    Reads (some (s, line :: lines)) rest := by
  have same : held (some (s, line :: lines)) = held (some (s, lines)) ++ [line] := by simp [held]
  refine ⟨?_, ?_⟩
  · simpa [same] using h.lines
  · rw [same]
    exact List.forall_mem_append.mpr ⟨h.content, List.forall_mem_singleton.mpr kind⟩

theorem Segmented.rewritten_eq_nil (h : Segmented (slotBehind line) rest pieces)
    (hrest : rest = []) : rewritten f pieces = [] := by
  subst hrest
  rw [h.eq_nil]
  rfl

/-- The lines of a rewritten unit are cut into its rewritten segments. -/
theorem Segmented.mapBody (h : Segmented opened ls pieces) (reads : Reads opened ls)
    (whole : ∀ s t, .body s t ∈ pieces → Whole (f s t)) :
    Segmented (reopened opened) (rewritten f pieces).lines (pieces.map (Segment.mapBody f)) := by
  induction h with
  | done => exact .done
  | unended s lines =>
      have read : Text.lines lines.reverse.flatten = lines.reverse := reads.over
      rw [rewritten_betweenAll, read, map_mapBody_betweenAll, ← List.append_nil lines.reverse]
      exact .contents (by simpa using Segmented.unended s lines) reads.content
  | @outside line rest pieces behind ih =>
      rw [rewritten_between, reads.first behind.rewritten_eq_nil]
      have ih := ih reads.behind fun s t h => whole s t (List.mem_cons_of_mem _ h)
      exact .outside (reopened_slotBehind line ▸ ih)
  | content kind _ ih => exact ih (reads.next kind) whole
  | @body s line lines rest pieces kind nonempty behind ih =>
      obtain ⟨some_, inner, heq, hinner⟩ := whole_iff.mp (whole s _ List.mem_cons_self)
      rw [rewritten_body, rewritten_between, heq,
        Text.lines_flatten_append fun l hl => (hinner l hl).1,
        reads.first behind.rewritten_eq_nil]
      have ih := ih reads.behind fun s t h =>
        whole s t (List.mem_cons_of_mem _ (List.mem_cons_of_mem _ h))
      have body : Segmented (some (s, inner.reverse)) (line :: (rewritten f pieces).lines)
          (.body s inner.reverse.reverse.flatten :: .between line ::
            pieces.map (Segment.mapBody f)) :=
        .body kind (fun h => some_ (by simp_all)) (reopened_slotBehind line ▸ ih)
      refine .contents ?_ fun l hl => (hinner l hl).2
      simpa [Segment.mapBody, heq] using body
  | @between s line lines rest pieces kind empty behind ih =>
      rw [rewritten_betweenAll_append, rewritten_between]
      have read : Text.lines (lines.reverse.flatten ++ (line ++ rewritten f pieces)) =
          lines.reverse ++ line :: (rewritten f pieces).lines := reads.both behind.rewritten_eq_nil
      rw [read]
      have ih := ih reads.behind fun s t h =>
        whole s t (List.mem_append_right _ (List.mem_cons_of_mem _ h))
      have between : Segmented (some (s, lines)) (line :: (rewritten f pieces).lines)
          (betweenAll lines.reverse ++ .between line :: pieces.map (Segment.mapBody f)) :=
        .between kind empty (reopened_slotBehind line ▸ ih)
      refine .contents ?_ reads.content
      simpa [Segment.mapBody, map_mapBody_betweenAll] using between

/-- The bodies into which a unit is cut are whole. -/
theorem Segmented.whole (h : Segmented opened ls pieces) (reads : Reads opened ls) :
    ∀ s t, .body s t ∈ pieces → Whole t := by
  induction h with
  | done => simp
  | unended s lines => simp [betweenAll]
  | outside _ ih => simpa using ih reads.behind
  | content kind _ ih => exact ih (reads.next kind)
  | @body s line lines rest pieces _ nonempty _ ih =>
      have feeds := Text.terminated_of_append reads.lines (List.cons_ne_nil line rest)
      have inner : Inner lines.reverse.flatten :=
        ⟨_, rfl, fun l hl => ⟨feeds l hl, reads.content l hl⟩⟩
      have some_ : lines.reverse.flatten ≠ [] := by
        obtain ⟨l, hl⟩ := List.exists_mem_of_ne_nil _ (mt List.reverse_eq_nil_iff.mp nonempty)
        obtain ⟨body, -, rfl⟩ := feeds l hl
        exact fun h => by simpa using List.flatten_eq_nil_iff.mp h _ hl
      intro s' t ht
      rcases List.mem_cons.mp ht with heq | ht
      · cases heq
        exact whole_iff.mpr ⟨some_, inner⟩
      · exact ih reads.behind s' t (by simpa using ht)
  | between _ _ _ ih => simpa [betweenAll] using ih reads.behind

/-- If every body is rewritten to one that is whole, the segments of a unit stay what they are but
for the bodies. -/
theorem segments_rewrite {unit_ : Text}
    (whole : ∀ s t, .body s t ∈ segments unit_ → Whole (f s t)) :
    segments (rewrite f unit_) = (segments unit_).map (Segment.mapBody f) :=
  ((segmented_segments unit_).mapBody (reads_lines unit_) whole).eq.symm

theorem whole_of_mem_segments {unit_ : Text} (h : .body s t ∈ segments unit_) : Whole t :=
  (segmented_segments unit_).whole (reads_lines unit_) s t h

/-- It is enough that the bodies which are not left alone are whole again. -/
theorem segments_rewrite_only {unit_ : Text} {g : Text → Text}
    (whole : ∀ b ∈ bodies unit_ signature, Whole (g b.text)) :
    segments (rewrite (only signature g) unit_) =
      (segments unit_).map (Segment.mapBody (only signature g)) := by
  refine segments_rewrite fun s t h => ?_
  unfold only
  split
  · next hs => exact (forall_bodies_iff fun t => Whole (g t)).mp whole t (hs ▸ h)
  · exact whole_of_mem_segments h

/-! ## Where the new bodies lie -/

theorem bodies_rewrite_only {unit_ : Text} {g : Text → Text}
    (whole : ∀ b ∈ bodies unit_ signature, Whole (g b.text)) (s : Text) :
    bodies (rewrite (only signature g) unit_) s =
      bodiesFrom s 0 ((segments unit_).map (Segment.mapBody (only signature g))) := by
  rw [bodies, segments_rewrite_only whole]

theorem map_text_mapBody (signature : Text) (pieces : List Segment) (offset offset' : Nat) :
    (bodiesFrom signature offset' (pieces.map (Segment.mapBody f))).map Body.text =
      (bodiesFrom signature offset pieces).map fun b => f signature b.text := by
  induction pieces generalizing offset offset' with
  | nil => rfl
  | cons piece rest ih =>
      rcases piece with t | ⟨s, t⟩
      · exact ih _ _
      · by_cases hs : s = signature
        · simp [bodiesFrom, Segment.mapBody, hs, ih (offset + t.size)]
        · simpa [bodiesFrom, Segment.mapBody, hs] using ih _ _

theorem growth_zero (olds news : List Body) : growth olds news 0 = 0 := by simp [growth]

theorem growth_succ (b b' : Body) (olds news : List Body) (k : Nat) :
    growth (b :: olds) (b' :: news) (k + 1) =
      (b'.text.size - b.text.size : Int) + growth olds news k := by
  simp [growth]
  omega

/-- A body that has been rewritten lies as many bytes further behind as the bodies in front of it
have grown. -/
theorem shift_bodiesFrom {g : Text → Text} {offset offset' k : Nat} {olds news : List Body}
    {b b' : Body} (holds : olds = bodiesFrom signature offset pieces)
    (hnews : news = bodiesFrom signature offset' (pieces.map (Segment.mapBody (only signature g))))
    (hb : olds[k]? = some b) (hb' : news[k]? = some b') :
    (b'.start : Int) - b.start = (offset' : Int) - offset + growth olds news k ∧
      (b'.stop : Int) - b.stop = (offset' : Int) - offset + growth olds news (k + 1) := by
  induction pieces generalizing offset offset' k olds news with
  | nil =>
      subst holds
      cases hb
  | cons piece rest ih =>
      rcases piece with t | ⟨s, t⟩
      · have moved := ih holds hnews hb hb'
        omega
      · by_cases hs : s = signature
        · rw [bodiesFrom, if_pos hs] at holds
          rw [List.map_cons, Segment.mapBody, bodiesFrom, if_pos hs] at hnews
          subst holds hnews
          cases k with
          | zero =>
              cases hb
              cases hb'
              simp only [growth_succ, growth_zero]
              omega
          | succ k =>
              have moved := ih rfl rfl hb hb'
              simp only [growth_succ]
              omega
        · rw [bodiesFrom, if_neg hs] at holds
          rw [List.map_cons, Segment.mapBody, bodiesFrom, if_neg hs, only, if_neg hs] at hnews
          have moved := ih holds hnews hb hb'
          omega

end Smali

namespace Patcher

open Smali (Body bodies growth only)

/-- A patcher that makes of each body of a method one that is whole leaves a unit that is read as
before. Of the method it has as many bodies as before, each of them what the patcher has made of the
old one; they begin and end as many bytes later as the bodies up to there have grown in all. Of any
other method it has the same bodies. -/
theorem inMethod_rescans {unit_ signature result : Text} {p : Patcher}
    (h : (inMethod signature [p]).apply unit_ = .ok result)
    (whole : ∀ b ∈ bodies unit_ signature, ∀ t, p.apply b.text = .ok t → Smali.Whole t) :
    List.Forall₂ (fun b b' => p.apply b.text = .ok b'.text)
        (bodies unit_ signature) (bodies result signature) ∧
      (∀ k b b', (bodies unit_ signature)[k]? = some b →
        (bodies result signature)[k]? = some b' →
        (b'.start : Int) =
            b.start + growth (bodies unit_ signature) (bodies result signature) k ∧
          (b'.stop : Int) =
            b.stop + growth (bodies unit_ signature) (bodies result signature) (k + 1)) ∧
      ∀ other, other ≠ signature →
        (bodies result other).map Body.text = (bodies unit_ other).map Body.text := by
  obtain ⟨-, patched, rfl, -⟩ := apply_inMethod_eq_ok_iff.mp h
  have news := Smali.bodies_rewrite_only fun b hb => whole b hb _ (patched b hb)
  have texts : ∀ s, (bodies (Smali.rewrite (only signature p.made) unit_) s).map Body.text =
      (bodies unit_ s).map fun b => only signature p.made s b.text := fun s => by
    rw [news]
    exact Smali.map_text_mapBody s _ 0 0
  refine ⟨?_, fun k b b' hb hb' => ?_, fun other apart => ?_⟩
  · refine (List.forall₂_map_right_iff (f := Body.text)
      (R := fun (b : Body) t => p.apply b.text = .ok t)).mp ?_
    rw [texts, List.forall₂_map_right_iff, List.forall₂_same]
    simpa [only] using patched
  · have olds : bodies unit_ signature = Smali.bodiesFrom signature 0 _ := rfl
    have moved := Smali.shift_bodiesFrom olds (news signature) hb hb'
    omega
  · rw [texts]
    simp [only, apart]

/-- A unit with two methods, one of them twice. -/
def threeBodies (first second third : Text) : Text :=
  ".method f\n" ++ first ++ ".end method\n.method g\n" ++ second ++
    ".end method\n.method f\n" ++ third ++ ".end method"

/-- Two bodies that grow, with the body of another method between them. -/
theorem inMethod_rescans_longer :
    (inMethod "f" [replaceText "a" "é\nb"]).apply (threeBodies "a\n" "a\n" "x\na\n") =
      .ok (threeBodies "é\nb\n" "a\n" "x\né\nb\n") ∧
    (∀ b ∈ bodies (threeBodies "a\n" "a\n" "x\na\n") "f", ∀ t,
      (replaceText "a" "é\nb").apply b.text = .ok t → Smali.Whole t) ∧
    (bodies (threeBodies "é\nb\n" "a\n" "x\né\nb\n") "f").length =
      (bodies (threeBodies "a\n" "a\n" "x\na\n") "f").length ∧
    (bodies (threeBodies "é\nb\n" "a\n" "x\né\nb\n") "g").map Body.text =
      (bodies (threeBodies "a\n" "a\n" "x\na\n") "g").map Body.text := by
  have h : (inMethod "f" [replaceText "a" "é\nb"]).apply (threeBodies "a\n" "a\n" "x\na\n") =
      .ok (threeBodies "é\nb\n" "a\n" "x\né\nb\n") := rfl
  have whole : ∀ b ∈ bodies (threeBodies "a\n" "a\n" "x\na\n") "f",
      Smali.Whole ((replaceText "a" "é\nb").made b.text) := by decide
  have whole : ∀ b ∈ bodies (threeBodies "a\n" "a\n" "x\na\n") "f", ∀ t,
      (replaceText "a" "é\nb").apply b.text = .ok t → Smali.Whole t := fun b hb t ht =>
    made_eq ht ▸ whole b hb
  obtain ⟨patched, -, others⟩ := inMethod_rescans h whole
  exact ⟨h, whole, patched.length_eq.symm, others "g" (by decide)⟩

end Patcher

end PatchTrail
