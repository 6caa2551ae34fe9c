import PatchTrail.Proofs.Markup.Passing
import PatchTrail.Resource.Allocation
import Mathlib.Data.List.Basic

/-!
# The end of a table

A table may end with the text that closes it without being closed by it: the text can stand in a
tag that an earlier bracket begins, and then it is a part of that tag. It cannot end a comment, a
declaration or an instruction, and no open tag has a name with a line feed. So if the last tag is an
end tag, then whatever stands before the closing text is a stretch of its own, behind which the
table is open (`passes_of_closed`).
-/

namespace PatchTrail.Resource

open Markup
open Definition (tableEnd)

variable {opened opened' : List Text} {s space rest content before : Text} {es : List Event}

/-- The closing text up to its last bracket. -/
def closing : Text := "\n</resources"

theorem tableEnd_append (space : Text) : tableEnd ++ space = closing ++ '>' :: space := rfl

/-- A text without brackets. -/
def Plain (t : Text) : Prop := '<' ∉ t ∧ '>' ∉ t

theorem Plain.of_isBlank (h : space.isBlank) : Plain space :=
  ⟨fun hc => absurd (List.all_eq_true.mp h _ hc) (by decide),
    fun hc => absurd (List.all_eq_true.mp h _ hc) (by decide)⟩

/-- The closing text has one closing bracket. -/
theorem eq_closing (plain : Plain space) (h : tableEnd ++ space = content ++ '>' :: rest) :
    content = closing ∧ rest = space := by
  rw [tableEnd_append] at h
  obtain ⟨rfl, -, rfl⟩ := (List.append_cons_inj_of_notMem (by decide) plain.2).mp h
  exact ⟨rfl, rfl⟩

theorem startsWith_closing {p : Text} (begun : p ≠ []) (h : p.head? ≠ some 's') (t : Text) :
    Text.startsWith (closing.reverse ++ t) p = false := by
  have last : closing.reverse = 's' :: closing.reverse.tail := by decide
  obtain ⟨c, p, rfl⟩ := List.exists_cons_of_ne_nil begun
  have hc : c ≠ 's' := fun heq => h (congrArg Option.some heq)
  rw [last, List.cons_append]
  unfold Text.startsWith
  rw [List.isPrefixOf, beq_false_of_ne hc, Bool.false_and]

/-! ## Markup that runs into the closing text -/

/-- What a condition ends does not end with the closing text if the condition fails there. -/
theorem cutWhere?_closing {holds : Text → Bool} (plain : Plain space)
    (h : holds (closing.reverse ++ before) = false) :
    cutWhere? holds before (tableEnd ++ space) = none := by
  cases hcut : cutWhere? holds before (tableEnd ++ space) with
  | none => rfl
  | some p =>
      obtain ⟨passed, hpassed, hcontent, hholds⟩ := eq_of_cutWhere? hcut
      obtain ⟨rfl, -⟩ := eq_closing plain hpassed
      rw [hcontent, List.reverse_append, List.reverse_reverse, h] at hholds
      cases hholds

/-- A tag that runs into the closing text ends with it. -/
theorem cutTag?_closing (plain : Plain space) (open_ : cutTag? none s = none)
    (h : cutTag? none (s ++ (tableEnd ++ space)) = some (content, rest)) :
    content = s ++ closing ∧ rest = space := by
  obtain ⟨quote?, -, hcut⟩ := cutTag?_append_none open_ (fun _ h => nomatch h)
  rw [hcut] at h
  obtain ⟨⟨a, b⟩, hab, he⟩ := Option.map_eq_some_iff.mp h
  cases he
  obtain ⟨rfl, rfl⟩ := eq_closing plain (eq_of_cutTag? hab)
  exact ⟨rfl, rfl⟩

/-- A tag in front of the closing text ends where it ended without it, or runs into it. -/
theorem cutTag?_or_closing (plain : Plain space)
    (h : cutTag? none (s ++ (tableEnd ++ space)) = some (content, rest)) :
    (∃ after, cutTag? none s = some (content, after)) ∨ content = s ++ closing ∧ rest = space := by
  cases hcut : cutTag? none s with
  | none => exact .inr (cutTag?_closing plain hcut h)
  | some found =>
      rw [cutTag?_append hcut] at h
      cases h
      exact .inl ⟨_, rfl⟩

/-- No instruction runs into the closing text. -/
theorem cutWhere?_instruction_closing (plain : Plain space)
    (h : cutWhere? endsInstruction [] (s ++ (tableEnd ++ space)) = some (content, rest)) :
    ∃ after, cutWhere? endsInstruction [] s = some (content, after) := by
  rw [cutWhere?_append] at h
  cases hcut : cutWhere? endsInstruction [] s with
  | none =>
      have goesOn : endsInstruction (closing.reverse ++ (s.reverse ++ [])) = false :=
        startsWith_closing (by decide) (by decide) _
      rw [hcut] at h
      simp only at h
      rw [cutWhere?_closing plain goesOn] at h
      cases h
  | some found =>
      rw [hcut] at h
      cases h
      exact ⟨_, rfl⟩

theorem endedBy_closing {holds : Text → Bool} {fault f : Fault}
    {isProper : Text → Except Fault Unit}
    (plain : Plain space) (h : endedBy holds fault isProper s = .error f)
    (not : cutWhere? holds [] s = none → holds (closing.reverse ++ s.reverse) = false) :
    ∃ f', endedBy holds fault isProper (s ++ (tableEnd ++ space)) = .error f' := by
  unfold endedBy at h ⊢
  rw [cutWhere?_append]
  split at h
  · next hcut =>
      rw [hcut]
      simp only
      rw [cutWhere?_closing plain (by rw [List.append_nil]; exact not hcut)]
      exact ⟨fault, rfl⟩
  · next content rest hcut =>
      rw [hcut]
      simp only
      split at h
      · cases h
      · next hproper => exact ⟨_, rfl⟩

/-- Where a document's type may not end yet, no more brackets are closed than opened. -/
theorem count_le_of_doctype (h : cutWhere? endsDoctype before s = none)
    (le : before.count '>' ≤ before.count '<') :
    (s.reverse ++ before).count '>' ≤ (s.reverse ++ before).count '<' := by
  induction s generalizing before with
  | nil => exact le
  | cons c s ih =>
      rw [cutWhere?] at h
      split at h
      · cases h
      · next hends =>
          rw [List.reverse_cons, List.append_assoc]
          refine ih h ?_
          rw [List.singleton_append, List.count_cons, List.count_cons]
          by_cases hc : c = '>'
          · have ne : before.count '<' ≠ before.count '>' := fun heq =>
              hends ⟨hc, beq_iff_eq.mpr heq⟩
            subst hc
            rw [if_pos (by decide), if_neg (by decide)]
            omega
          · rw [if_neg (by simpa using hc)]
            omega

/-- No declaration ends with the closing text. -/
theorem declaration_closing {f : Fault} (plain : Plain space)
    (h : declaration ('!' :: s) = .error f) :
    ∃ f', declaration ('!' :: s ++ (tableEnd ++ space)) = .error f' := by
  cases s with
  | nil => exact ⟨_, rfl⟩
  | cons d s =>
      unfold declaration at h ⊢
      simp only [List.cons_append, List.getElem?_cons_succ, List.getElem?_cons_zero] at h ⊢
      simp only [← List.cons_append]
      split at h
      · next heq =>
          cases heq
          exact endedBy_closing plain h fun _ => by
            unfold endsComment
            rw [startsWith_closing (by decide) (by decide), Bool.and_false]
      · next heq =>
          cases heq
          exact endedBy_closing plain h fun _ => startsWith_closing (by decide) (by decide) _
      · next c hdash hbox heq =>
          cases heq
          split at h
          · next hletter =>
              rw [if_pos hletter]
              refine endedBy_closing plain h fun hcut => ?_
              have le := count_le_of_doctype hcut (Nat.le_refl _)
              rw [List.append_nil] at le
              unfold endsDoctype
              rw [List.count_append, List.count_append]
              have one : closing.reverse.count '<' = 1 := by decide
              have zero : closing.reverse.count '>' = 0 := by decide
              rw [one, zero]
              exact beq_eq_false_iff_ne.mpr (by omega)
          · next hletter =>
              rw [if_neg hletter]
              exact ⟨_, rfl⟩
      · next heq => cases heq

/-- Markup that the closing text ends, if it was not ended before, is a start tag. -/
theorem markup_closing {f : Fault} (plain : Plain space) (names : Spaceless opened)
    (h : markup opened s = .error f)
    (all : markup opened (s ++ (tableEnd ++ space)) = .ok (es, opened', rest)) :
    (∃ content, es = [.start content]) ∧ rest = space := by
  cases s with
  | nil =>
      cases all
      exact ⟨⟨_, rfl⟩, rfl⟩
  | cons c s =>
      -- if the piece ended before the closing text, it would have been markup already
      have unfinished {es : List Event} {opened' : List Text} {rest : Text}
          (piece : Piece opened (c :: s) es opened' rest) : False := by
        rw [piece.markup_eq] at h
        cases h
      cases piece_of_markup all with
      | declaration first passed =>
          cases first
          cases hrest : declaration ('!' :: s) with
          | error f =>
              obtain ⟨f', hf'⟩ := declaration_closing plain hrest
              rw [hf'] at passed
              cases passed
          | ok after => exact (unfinished (.declaration rfl hrest)).elim
      | instruction first cut long =>
          cases first
          obtain ⟨after, hcut⟩ := cutWhere?_instruction_closing plain cut
          exact (unfinished (.instruction rfl hcut long)).elim
      | stop first cut name =>
          cases first
          rcases cutTag?_or_closing plain cut with ⟨after, hcut⟩ | ⟨rfl, rfl⟩
          · exact (unfinished (.stop rfl hcut name)).elim
          · -- the name of the tag would have the closing text's line feed
            rw [← name] at names
            exact absurd List.mem_cons_self
              (names.not_mem rfl (mem_endName (c := '\n') (d := '<') rfl s _))
      | empty hbang hquestion hslash first cut slash =>
          cases first
          rcases cutTag?_or_closing plain cut with ⟨after, hcut⟩ | ⟨rfl, rfl⟩
          · exact (unfinished (.empty hbang hquestion hslash rfl hcut slash)).elim
          · have last : (c :: s ++ closing).getLast? = some 's' := by
              rw [List.getLast?_append]
              rfl
            rw [last] at slash
            exact absurd slash (by decide)
      | start hbang hquestion hslash first cut slash =>
          cases first
          rcases cutTag?_or_closing plain cut with ⟨after, hcut⟩ | ⟨rfl, rfl⟩
          · exact (unfinished (.start hbang hquestion hslash rfl hcut slash)).elim
          · exact ⟨⟨_, rfl⟩, rfl⟩

/-! ## Tables that are closed at their end -/

theorem markup_tableEnd (opened : List Text) (space : Text) :
    markup opened ("/resources>" ++ space) =
      match opened with
      | [] => .error (.unmatchedEnd "resources")
      | expected :: outer =>
        if ("resources" : Text) = expected then .ok ([.stop expected], outer, space)
        else .error (.mismatchedEnd expected "resources") := rfl

theorem readFrom_space (plain : Plain space) (opened : List Text) :
    readFrom opened space = ⟨[], none⟩ := (Passes.of_not_mem plain.1 opened).read

theorem readFrom_tableEnd (space : Text) (opened : List Text) :
    readFrom opened (tableEnd ++ space) =
      match markup opened ("/resources>" ++ space) with
      | .error f => ⟨[], some f⟩
      | .ok (es, opened', after) => (readFrom opened' after).prepend es :=
  readFrom_bracket opened ['\n'] ("/resources>" ++ space) (by decide)

/-- The end of a table is read as the end tag it is if the table is open. -/
theorem readFrom_closed (plain : Plain space) (outer : List Text) :
    readFrom ("resources" :: outer) (tableEnd ++ space) = ⟨[.stop "resources"], none⟩ := by
  rw [readFrom_tableEnd, markup_tableEnd]
  simp only [if_true]
  rw [readFrom_space plain]
  rfl

/-- The end of a table is an end tag only if the table is open. -/
theorem opened_of_readFrom (h : (readFrom opened (tableEnd ++ space)).fault? = none) :
    ∃ outer, opened = ("resources" : Text) :: outer := by
  rw [readFrom_tableEnd, markup_tableEnd] at h
  cases opened with
  | nil => cases h
  | cons expected outer =>
      by_cases hname : ("resources" : Text) = expected
      · exact ⟨outer, by rw [← hname]⟩
      · simp only [if_neg hname] at h
        cases h

theorem passes_or_start (plain : Plain space) (names : Spaceless opened)
    (h : (readFrom opened (s ++ (tableEnd ++ space))).fault? = none) :
    (∃ es outer, Passes opened s es ("resources" :: outer)) ∨
      ∃ content, (readFrom opened (s ++ (tableEnd ++ space))).events.getLast? =
        some (.start content) := by
  obtain ⟨es, opened', names', pass | ⟨inside, ⟨f, hf⟩, read⟩⟩ := passes_or_inside names s
  · rw [pass] at h
    obtain ⟨outer, rfl⟩ := opened_of_readFrom h
    exact .inl ⟨es, outer, pass⟩
  · have reading := readFrom_bracket opened' [] (inside ++ (tableEnd ++ space)) List.not_mem_nil
    rw [List.nil_append] at reading
    rw [read, reading] at h ⊢
    split at h
    · cases h
    · next es' opened'' after hall =>
        obtain ⟨⟨content, rfl⟩, rfl⟩ := markup_closing plain names' hf hall
        refine .inr ⟨content, ?_⟩
        rw [readFrom_space plain]
        exact List.getLast?_concat

/-- If a document ends with the end of a table, and its last tag is an end tag, then what stands
before is a stretch of its own, and the table is open behind it. -/
theorem passes_of_closed {name : Text} (plain : Plain space)
    (h : (Markup.read (s ++ (tableEnd ++ space))).fault? = none)
    (last : (Markup.read (s ++ (tableEnd ++ space))).events.getLast? = some (.stop name)) :
    ∃ es outer, Passes [] s es ("resources" :: outer) := by
  unfold Markup.read at h last
  rcases passes_or_start plain (fun _ hname => absurd hname List.not_mem_nil) h with
    pass | ⟨content, hstart⟩
  · exact pass
  · rw [hstart] at last
    cases last

end PatchTrail.Resource
