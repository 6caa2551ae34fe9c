import PatchTrail.Proofs.Except
import PatchTrail.Proofs.Smali.Framing
import PatchTrail.Proofs.Smali.Splicing

/-!
# Texts cannot be shifted into one another

Texts of other lengths that are put in the places of bodies move the gaps between them. If the unit
is to stay what it was all the same, a gap that has moved has to be found at two places, and the
lines on which methods begin are against that: a body has none of them.

* A gap cannot be found earlier, since the first of these lines behind the body in front of it would
  come earlier than it does (`length_le_of_earlier`).
* A gap that is found later has to be back in its place behind the next body, and the line on which
  the method of this body begins would come in the body itself (`eq_nil_of_later`).

So if the unit is what it was, each body is (`eq_bodies_of_fill`), and comparing units is as good as
comparing bodies one by one (`Patcher.inMethod_noEffect_iff`).
-/

namespace PatchTrail

namespace Smali

open Text (Terminated)

variable {signature ahead body line behind x c w w' : Text} {rest : List Part}

/-! ## Lines on which a method begins -/

/-- Whether a method begins on a line. -/
def begins (line : Text) : Bool :=
  match kindOf line with
  | .methodStart _ => true
  | _ => false

theorem begins_of_methodStart (h : kindOf line = .methodStart signature) : begins line = true := by
  simp [begins, h]

theorem begins_of_content (h : kindOf line = .content) : begins line = false := by
  simp [begins, h]

theorem begins_of_methodEnd (h : kindOf line = .methodEnd) : begins line = false := by
  simp [begins, h]

section

variable {α : Type} {p : α → Bool} {as bs xs ys : List α} {a b : α}

/-- Where there is none of a kind, the first of this kind does not come earlier. -/
theorem prefix_of_first (h : as ++ a :: xs = bs ++ b :: ys) (hb : p b = true)
    (free : ∀ l ∈ as, p l = false) : as <+: bs := by
  rcases List.append_eq_append_iff.mp h with ⟨d, rfl, -⟩ | ⟨d, rfl, hd⟩
  · exact List.prefix_append as d
  · obtain _ | ⟨b', d⟩ := d
    · simp
    · obtain ⟨rfl, -⟩ := List.cons.inj hd
      have := free b (by simp)
      simp [hb] at this

/-- Where there is none of a kind, the last of this kind does not come later. -/
theorem prefix_of_last (h : as ++ a :: xs = bs ++ b :: ys) (hb : p b = true)
    (free : ∀ l ∈ xs, p l = false) : bs <+: as := by
  rcases List.append_eq_append_iff.mp h with ⟨d, rfl, hd⟩ | ⟨d, rfl, -⟩
  · obtain _ | ⟨a', d⟩ := d
    · simp
    · obtain ⟨-, rfl⟩ := List.cons.inj hd
      have := free b (by simp)
      simp [hb] at this
  · exact List.prefix_append bs d

end

theorem length_flatten_le {ls ls' : List Text} (h : ls <+: ls') :
    ls.flatten.length ≤ ls'.flatten.length := by
  obtain ⟨d, rfl⟩ := h
  simp

/-- In front of the line end of a line there may stand anything, the text consists of lines with
their line ends. -/
theorem exists_lines_append (t : Text) (h : Terminated line) :
    ∃ ls : List Text, (∀ l ∈ ls, Terminated l) ∧ ls.flatten = t ++ line := by
  obtain ⟨body, -, rfl⟩ := h
  rw [← List.append_assoc]
  exact Text.exists_lines_of_feed (t ++ body)

theorem lines_of_eq {t : Text} {ls : List Text} (h : t = ls.flatten ++ w)
    (feeds : ∀ l ∈ ls, Terminated l) : t.lines = ls ++ w.lines :=
  h ▸ Text.lines_flatten_append feeds w

/-! ## Gaps -/

/-- A gap is not found earlier than behind its body. -/
theorem length_le_of_earlier (inner : Inner body) (ends : kindOf line = .methodEnd)
    (feed : Terminated line) (opening : Opening signature behind)
    (h : body ++ (line ++ behind ++ w) = c ++ (line ++ behind ++ w')) :
    body.length ≤ c.length := by
  obtain ⟨bs, rfl, hbs⟩ := inner
  obtain ⟨_, last, rfl, ⟨ls, rfl, hls⟩, hlast, hkind⟩ := opening
  obtain ⟨ks, hks, heq⟩ := exists_lines_append c feed
  -- the first line of the gap on which a method begins, which may be its last
  have found : ((ls ++ [last]).find? begins).isSome = true := by
    rw [List.find?_isSome]
    exact ⟨last, by simp, begins_of_methodStart hkind⟩
  obtain ⟨m, hm⟩ := Option.isSome_iff_exists.mp found
  obtain ⟨hbegins, before, after, hgap, free⟩ := List.find?_eq_some_iff_append.mp hm
  have feeds : ∀ l ∈ before ++ m :: after, Terminated l :=
    hgap ▸ List.forall_mem_append.mpr ⟨hls, List.forall_mem_singleton.mpr hlast⟩
  have old : Text.lines (bs.flatten ++ (line ++ (ls.flatten ++ last) ++ w)) =
      bs ++ line :: (before ++ m :: after) ++ w.lines :=
    lines_of_eq (by simp [← hgap]) (List.forall_mem_append.mpr
      ⟨fun l hl => (hbs l hl).1, List.forall_mem_cons.mpr ⟨feed, feeds⟩⟩)
  have new : Text.lines (c ++ (line ++ (ls.flatten ++ last) ++ w')) =
      ks ++ (before ++ m :: after) ++ w'.lines :=
    lines_of_eq (by simp [← hgap, heq]) (List.forall_mem_append.mpr ⟨hks, feeds⟩)
  have both : (bs ++ line :: before) ++ m :: (after ++ w.lines) =
      (ks ++ before) ++ m :: (after ++ w'.lines) := by
    simpa using old.symm.trans ((congrArg Text.lines h).trans new)
  have none_ : ∀ l ∈ bs ++ line :: before, begins l = false :=
    List.forall_mem_append.mpr ⟨fun l hl => begins_of_content (hbs l hl).2,
      List.forall_mem_cons.mpr ⟨begins_of_methodEnd ends, by simpa using free⟩⟩
  have sizes := length_flatten_le (prefix_of_first both hbegins none_)
  simp only [List.flatten_append, List.flatten_cons, List.length_append, heq] at sizes
  omega

/-- A gap is not found later, with no more behind it than the next body. -/
theorem eq_nil_of_later (inner : Inner body) (feed : Terminated line)
    (opening : Opening signature behind)
    (h : line ++ behind ++ body = x ++ (line ++ behind) ++ w) : x = [] := by
  obtain ⟨bs, rfl, hbs⟩ := inner
  obtain ⟨_, last, rfl, ⟨ls, rfl, hls⟩, hlast, hkind⟩ := opening
  obtain ⟨ks, hks, heq⟩ := exists_lines_append x feed
  have old : Text.lines (line ++ (ls.flatten ++ last) ++ bs.flatten) =
      line :: (ls ++ last :: bs) ++ Text.lines [] :=
    lines_of_eq (by simp) (List.forall_mem_cons.mpr ⟨feed, List.forall_mem_append.mpr
      ⟨hls, List.forall_mem_cons.mpr ⟨hlast, fun l hl => (hbs l hl).1⟩⟩⟩)
  have new : Text.lines (x ++ (line ++ (ls.flatten ++ last)) ++ w) =
      ks ++ (ls ++ [last]) ++ w.lines :=
    lines_of_eq (by simp [heq]) (List.forall_mem_append.mpr
      ⟨hks, List.forall_mem_append.mpr ⟨hls, List.forall_mem_singleton.mpr hlast⟩⟩)
  have both : (line :: ls) ++ last :: bs = (ks ++ ls) ++ last :: w.lines := by
    simpa [Text.lines] using old.symm.trans ((congrArg Text.lines h).trans new)
  have final : (ks ++ ls) <+: (line :: ls) :=
    prefix_of_last both (begins_of_methodStart hkind) fun l hl => begins_of_content (hbs l hl).2
  have sizes := length_flatten_le final
  simp only [List.flatten_append, List.flatten_cons, List.length_append, heq] at sizes
  exact List.length_eq_zero_iff.mp (by omega)

/-! ## All gaps -/

/-- A gap that is found later than in its place would never come back to it. -/
theorem eq_nil_of_shifted {texts : List Text} (framed : Framed signature behind rest)
    (feed : behind ≠ [] → Terminated line) (length : texts.length = rest.length)
    (h : (Cut.mk (x ++ (line ++ behind)) rest).fill texts = (Cut.mk (line ++ behind) rest).text) :
    x = [] := by
  induction framed generalizing line x texts with
  | nil behind => simpa [Cut.fill, Cut.text] using h
  | @cons behind body line' behind' rest opening inner _ feed' _ ih =>
    obtain _ | ⟨c, texts⟩ := texts
    · simp at length
    have length : texts.length = rest.length := by simpa using length
    have feed : Terminated line := feed opening.ne_nil
    have filled : (Cut.mk (x ++ (line ++ behind)) (⟨body, line' ++ behind'⟩ :: rest)).fill
        (c :: texts) =
          x ++ (line ++ behind) ++ c ++ (Cut.mk (line' ++ behind') rest).fill texts := by
      simp [Cut.fill]
    have old : (Cut.mk (line ++ behind) (⟨body, line' ++ behind'⟩ :: rest)).text =
        line ++ behind ++ body ++ (Cut.mk (line' ++ behind') rest).text := by
      simp [Cut.text]
    rw [filled, old] at h
    rcases List.append_eq_append_iff.mp h with ⟨d, heq, -⟩ | ⟨d, heq, hnext⟩
    · exact eq_nil_of_later (w := c ++ d) inner feed opening (by simpa using heq)
    · have apart : d = [] := by
        refine ih feed' length (x := d) (hnext.symm ▸ ?_)
        simp [Cut.fill]
      rw [apart, List.append_nil] at heq
      exact eq_nil_of_later (w := c) inner feed opening heq.symm

/-- If a unit is what it was with other texts in the places of its bodies, they are the bodies. -/
theorem eq_bodies_of_fill {parts : List Part} {texts : List Text}
    (framed : Framed signature ahead parts) (length : texts.length = parts.length)
    (h : (Cut.mk ahead parts).fill texts = (Cut.mk ahead parts).text) :
    texts = parts.map Part.body := by
  induction framed generalizing texts with
  | nil => simpa using length
  | @cons ahead body line behind rest opening inner ends feed framed ih =>
    obtain _ | ⟨c, texts⟩ := texts
    · simp at length
    have lengths : texts.length = rest.length := by simpa using length
    have both : c ++ (line ++ (Cut.mk behind rest).fill texts) =
        body ++ (line ++ (Cut.mk behind rest).text) := by
      simpa [Cut.fill, Cut.text] using h
    have first : c = body := by
      rcases List.append_eq_append_iff.mp both with ⟨d, rfl, hnext⟩ | ⟨d, rfl, hnext⟩
      · by_cases some_ : rest = []
        · obtain rfl : texts = [] := by simpa [some_] using lengths
          simpa [some_, Cut.fill, Cut.text] using hnext
        · have opening := framed.opening some_
          have shifted : c ++ d ++ (line ++ behind ++ (Cut.mk [] rest).text) =
              c ++ (line ++ behind ++ (Cut.mk [] rest).fill texts) := by
            simpa [Cut.fill, Cut.text] using both.symm
          have earlier := length_le_of_earlier inner ends (feed opening.ne_nil) opening shifted
          rw [List.length_append] at earlier
          obtain rfl : d = [] := List.eq_nil_of_length_eq_zero (by omega)
          simp
      · have apart : d = [] := by
          refine eq_nil_of_shifted (x := d) framed feed lengths ?_
          simpa [Cut.fill, Cut.text] using hnext.symm
        simp [apart]
    subst first
    have others : texts = rest.map Part.body := ih lengths (by simpa using both)
    simp [others]

end Smali

namespace Patcher

open Smali (Cut)

/-- A pass over the bodies of a method that does not only check fails for want of an effect if and
only if there are bodies and the patcher leaves every one of them as it is. -/
theorem inMethod_noEffect_iff (unit_ signature : Text) (p : Patcher)
    (changes : p.isAssertion = false) :
    (inMethod signature [p]).apply unit_ = .error (.noEffect signature) ↔
      Smali.bodies unit_ signature ≠ [] ∧
        ∀ b ∈ Smali.bodies unit_ signature, p.apply b.text = .ok b.text := by
  have bodies := Cut.map_body_ofUnit signature unit_
  have found : (Cut.ofUnit signature unit_).parts ≠ [] ↔ Smali.bodies unit_ signature ≠ [] :=
    not_congr (by rw [← List.map_eq_nil_iff, bodies, List.map_eq_nil_iff])
  have unchanged : List.Forall₂ (fun q t => p.apply q.body = .ok t)
      (Cut.ofUnit signature unit_).parts ((Cut.ofUnit signature unit_).parts.map Smali.Part.body) ↔
        ∀ b ∈ Smali.bodies unit_ signature, p.apply b.text = .ok b.text := by
    rw [List.forall₂_map_right_iff, List.forall₂_same,
      ← List.forall_mem_map (f := Smali.Part.body) (P := fun t => p.apply t = .ok t), bodies,
      List.forall_mem_map]
  rw [← found, ← unchanged]
  constructor
  · intro h
    have some_ : (Cut.ofUnit signature unit_).parts ≠ [] := fun none_ => by
      simp [apply_inMethod_none none_] at h
    refine ⟨some_, ?_⟩
    rcases forall₂_or_first_error (fun q : Smali.Part => p.apply q.body)
        (Cut.ofUnit signature unit_).parts with
      ⟨texts, patched⟩ | ⟨before, part, behind, e, parts, done, failed⟩
    · have same : (Cut.ofUnit signature unit_).fill texts = unit_ := by
        by_contra hne
        simp [apply_inMethod_ok some_ patched, hne] at h
      have old : texts = (Cut.ofUnit signature unit_).parts.map Smali.Part.body :=
        Smali.eq_bodies_of_fill (Smali.framed_ofUnit signature unit_) patched.length_eq.symm
          (same.trans (Cut.text_ofUnit signature unit_).symm)
      exact old ▸ patched
    · simp [apply_inMethod_error parts done failed] at h
  · rintro ⟨some_, patched⟩
    have same : (Cut.ofUnit signature unit_).fill
        ((Cut.ofUnit signature unit_).parts.map Smali.Part.body) = unit_ := by
      rw [Cut.fill_bodies, Cut.text_ofUnit]
    rw [apply_inMethod_ok some_ patched, if_pos ⟨same, changes⟩]

/-- Two bodies in which what is sought is replaced by itself, one of them twice. -/
theorem inMethod_noEffect_itself :
    (replaceText "a" "a").isAssertion = false ∧
      (inMethod "f" [replaceText "a" "a"]).apply
          ".method f\nab\n.end method\n.method f\na\na\n.end method".toList =
        .error (.noEffect "f".toList) := by
  refine ⟨rfl, (inMethod_noEffect_iff _ _ _ rfl).mpr ⟨by decide, ?_⟩⟩
  intro b hb
  have bodies : Smali.bodies ".method f\nab\n.end method\n.method f\na\na\n.end method".toList
      "f".toList =
        [⟨"f".toList, 10, 13, "ab\n".toList⟩, ⟨"f".toList, 35, 39, "a\na\n".toList⟩] := by
    rfl
  rw [bodies] at hb
  simp only [List.mem_cons, List.not_mem_nil, or_false] at hb
  rcases hb with rfl | rfl
  · rfl
  · rfl

end Patcher

end PatchTrail
