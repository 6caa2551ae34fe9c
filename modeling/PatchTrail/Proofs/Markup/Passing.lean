import PatchTrail.Markup.Event
import Mathlib.Data.List.TakeWhile

/-!
# Passing over a stretch of a document

A document is read markup by markup (`readFrom_eq`). Each piece of markup is a declaration, an
instruction, or one of three tags (`Piece`), and where it ends depends on nothing behind it
(`Piece.append`). So a stretch that ends between two pieces is passed over in the same way whatever
comes after it (`Passes`), and what is put between two such stretches is read on its own. Every
stretch is such a one or ends inside of a piece (`passes_or_inside`), and it can be read as a whole
only if it is such a one (`readable_iff`).
-/

namespace PatchTrail.Markup

/-! ## Cutting -/

section

variable {quote? : Option Char} {s t content rest before : Text} {holds : Text → Bool}

theorem consFirst_comp (s : Text) (c : Char) :
    (consFirst c ∘ fun p : Text × Text => (s ++ p.1, p.2)) = fun p => ((c :: s) ++ p.1, p.2) := rfl

theorem eq_of_cutTag? (h : cutTag? quote? s = some (content, rest)) :
    s = content ++ '>' :: rest := by
  induction s generalizing quote? content with
  | nil => cases quote? <;> simp [cutTag?] at h
  | cons c s ih =>
      cases quote? with
      | none =>
          rw [cutTag?] at h
          split at h
          · next hc =>
              simp only [Option.some.injEq, Prod.mk.injEq] at h
              obtain ⟨rfl, rfl⟩ := h
              rw [hc]
              rfl
          · split at h <;>
            · obtain ⟨⟨a, b⟩, hab, he⟩ := Option.map_eq_some_iff.mp h
              cases he
              rw [ih hab]
              rfl
      | some q =>
          rw [cutTag?] at h
          obtain ⟨⟨a, b⟩, hab, he⟩ := Option.map_eq_some_iff.mp h
          cases he
          rw [ih hab]
          rfl

/-- A tag that ends within a text ends there whatever stands behind the text. -/
theorem cutTag?_append (h : cutTag? quote? s = some (content, rest)) (t : Text) :
    cutTag? quote? (s ++ t) = some (content, rest ++ t) := by
  induction s generalizing quote? content with
  | nil => cases quote? <;> simp [cutTag?] at h
  | cons c s ih =>
      cases quote? with
      | none =>
          rw [List.cons_append]
          rw [cutTag?] at h ⊢
          split at h
          · next hc =>
              simp only [Option.some.injEq, Prod.mk.injEq] at h
              obtain ⟨rfl, rfl⟩ := h
              rw [if_pos hc]
          · next hc =>
              rw [if_neg hc]
              split at h <;>
              · next hq =>
                obtain ⟨⟨a, b⟩, hab, he⟩ := Option.map_eq_some_iff.mp h
                cases he
                simp only [hq, if_true, if_false, ih hab]
                rfl
      | some q =>
          rw [List.cons_append]
          rw [cutTag?] at h ⊢
          obtain ⟨⟨a, b⟩, hab, he⟩ := Option.map_eq_some_iff.mp h
          cases he
          rw [ih hab]
          rfl

/-- A tag that does not end within a text goes on behind it, between quotes or not. -/
theorem cutTag?_append_none (h : cutTag? quote? s = none)
    (quotes : ∀ q ∈ quote?, q = '"' ∨ q = '\'') :
    ∃ quote?', (∀ q ∈ quote?', q = '"' ∨ q = '\'') ∧ ∀ t, cutTag? quote? (s ++ t) =
      (cutTag? quote?' t).map fun p => (s ++ p.1, p.2) := by
  induction s generalizing quote? with
  | nil => exact ⟨quote?, quotes, fun t => by simp⟩
  | cons c s ih =>
      -- the state behind the character, and what it makes of the rest
      obtain ⟨next, hnext, step⟩ : ∃ next, (∀ q ∈ next, q = '"' ∨ q = '\'') ∧
          ∀ t, cutTag? quote? (c :: t) = (cutTag? next t).map (consFirst c) := by
        cases quote? with
        | none =>
            rw [cutTag?] at h
            split at h
            · cases h
            · next hc =>
                by_cases hq : c = '"' ∨ c = '\''
                · refine ⟨some c, fun q hq' => Option.mem_some.mp hq' ▸ hq, fun t => ?_⟩
                  rw [cutTag?, if_neg hc, if_pos hq]
                · refine ⟨none, fun q hq' => absurd hq' (by simp), fun t => ?_⟩
                  rw [cutTag?, if_neg hc, if_neg hq]
        | some q =>
            refine ⟨if c = q then none else some q, fun d hd => ?_, fun t => by rw [cutTag?]⟩
            split at hd
            · cases hd
            · exact quotes d hd
      rw [step] at h
      obtain ⟨quote?', hquotes, hrest⟩ := ih (Option.map_eq_none_iff.mp h) hnext
      refine ⟨quote?', hquotes, fun t => ?_⟩
      rw [List.cons_append, step, hrest, Option.map_map, consFirst_comp]

theorem cutWhere?_append (s t : Text) :
    cutWhere? holds before (s ++ t) =
      match cutWhere? holds before s with
      | some (content, rest) => some (content, rest ++ t)
      | none => cutWhere? holds (s.reverse ++ before) t := by
  induction s generalizing before with
  | nil => rfl
  | cons c s ih =>
      rw [List.cons_append, cutWhere?, cutWhere?]
      split
      · rfl
      · rw [ih, List.reverse_cons, List.append_assoc]
        rfl

theorem eq_of_cutWhere? (h : cutWhere? holds before s = some (content, rest)) :
    ∃ passed, s = passed ++ '>' :: rest ∧ content = before.reverse ++ passed ∧
      holds content.reverse = true := by
  induction s generalizing before with
  | nil => simp [cutWhere?] at h
  | cons c s ih =>
      rw [cutWhere?] at h
      split at h
      · next hc =>
          simp only [Option.some.injEq, Prod.mk.injEq] at h
          obtain ⟨rfl, rfl⟩ := h
          exact ⟨[], by rw [hc.1]; rfl, by simp, by simpa using hc.2⟩
      · obtain ⟨passed, rfl, rfl, hholds⟩ := ih h
        exact ⟨c :: passed, rfl, by simp, hholds⟩

end

/-! ## Markup -/

/-- Passes over a piece of markup that a condition ends. -/
def endedBy (holds : Text → Bool) (fault : Fault) (isProper : Text → Except Fault Unit)
    (text : Text) : Except Fault Text :=
  match cutWhere? holds [] text with
  | none => .error fault
  | some (content, rest) =>
    match isProper content with
    | .ok () => .ok rest
    | .error f => .error f

/-- Passes over a declaration. -/
def declaration (text : Text) : Except Fault Text :=
  match text[1]? with
  | some '-' =>
    endedBy endsComment .openComment
      (fun content => if content.startsWith "!--" then .ok () else .error .openComment) text
  | some '[' =>
    endedBy endsData .openData
      (fun content => if content.startsWith "![CDATA[" then .ok () else .error .openData) text
  | some c =>
    if c = 'D' ∨ c = 'd' then
      endedBy endsDoctype .openDoctype
        (fun content =>
          if startsWithAnyCase content "!DOCTYPE" then
            if (content.drop 8).all isSpace then .error .unnamedDoctype else .ok ()
          else .error .openDoctype) text
    else .error .unknownMarkup
  | none => .error .unknownMarkup

/-- Passes over a piece of markup that a condition ends, and takes at least one character. -/
def endedShorter (holds : Text → Bool) (fault : Fault) (isProper : Text → Except Fault Unit)
    (text : Text) : Except Fault { rest : Text // rest.length < text.length } :=
  match h : cutWhere? holds [] text with
  | none => .error fault
  | some (content, rest) =>
    match isProper content with
    | .ok () => .ok ⟨rest, length_lt_of_cutWhere? h⟩
    | .error f => .error f

theorem endedShorter_eq (holds : Text → Bool) (fault : Fault) (isProper : Text → Except Fault Unit)
    (text : Text) :
    (endedShorter holds fault isProper text).map Subtype.val =
      endedBy holds fault isProper text := by
  unfold endedShorter endedBy
  split
  · next hcut =>
      rw [hcut]
      rfl
  · next content rest hcut =>
      simp only [hcut]
      cases isProper content <;> rfl

theorem skipDeclaration_eq (text : Text) :
    (skipDeclaration text).map Subtype.val = declaration text := by
  unfold skipDeclaration declaration
  split
  · next h =>
      simp only [h]
      exact endedShorter_eq ..
  · next h =>
      simp only [h]
      exact endedShorter_eq ..
  · next c hdash hbox h =>
      simp only [h]
      split
      · exact endedShorter_eq ..
      · rfl
  · next h =>
      simp only [h]
      rfl

/-- Passes over what an opening bracket begins, with some tags open. Returns the tag, if it is one,
the tags that are open then, and the rest. -/
def markup (opened : List Text) (text : Text) : Except Fault (List Event × List Text × Text) :=
  match text.head? with
  | none => .error .openTag
  | some '!' => (declaration text).map fun rest => ([], opened, rest)
  | some '?' =>
    match cutWhere? endsInstruction [] text with
    | none => .error .openInstruction
    | some (content, rest) =>
      if content.length < 2 then .error .openInstruction else .ok ([], opened, rest)
  | some '/' =>
    match cutTag? none text with
    | none => .error .openTag
    | some (content, rest) =>
      match opened with
      | [] => .error (.unmatchedEnd (endName content.tail))
      | expected :: outer =>
        if endName content.tail = expected then .ok ([.stop expected], outer, rest)
        else .error (.mismatchedEnd expected (endName content.tail))
  | some _ =>
    match cutTag? none text with
    | none => .error .openTag
    | some (content, rest) =>
      if content.getLast? = some '/' then .ok ([.empty content.dropLast], opened, rest)
      else .ok ([.start content], tagName content :: opened, rest)

/-- A reading with tags put in front. -/
def Reading.prepend (es : List Event) (r : Reading) : Reading := { r with events := es ++ r.events }

theorem readFrom_end {opened : List Text} {text : Text} (h : text.dropWhile (· != '<') = []) :
    readFrom opened text = ⟨[], none⟩ := by
  rw [readFrom]
  split
  · rfl
  · next h' =>
      rw [h] at h'
      cases h'

section

variable {opened : List Text} {text : Text}

theorem markup_declaration (h : text.head? = some '!') :
    markup opened text = (declaration text).map fun rest => ([], opened, rest) := by
  unfold markup
  rw [h]
  rfl

theorem markup_instruction (h : text.head? = some '?') :
    markup opened text = match cutWhere? endsInstruction [] text with
      | none => .error .openInstruction
      | some (content, rest) =>
        if content.length < 2 then .error .openInstruction else .ok ([], opened, rest) := by
  unfold markup
  rw [h]
  rfl

theorem markup_stop (h : text.head? = some '/') :
    markup opened text = match cutTag? none text with
      | none => .error .openTag
      | some (content, rest) =>
        match opened with
        | [] => .error (.unmatchedEnd (endName content.tail))
        | expected :: outer =>
          if endName content.tail = expected then .ok ([.stop expected], outer, rest)
          else .error (.mismatchedEnd expected (endName content.tail)) := by
  unfold markup
  rw [h]
  rfl

theorem markup_tag {c : Char} (hbang : c ≠ '!') (hquestion : c ≠ '?') (hslash : c ≠ '/')
    (h : text.head? = some c) :
    markup opened text = match cutTag? none text with
      | none => .error .openTag
      | some (content, rest) =>
        if content.getLast? = some '/' then .ok ([.empty content.dropLast], opened, rest)
        else .ok ([.start content], tagName content :: opened, rest) := by
  unfold markup
  split
  · next h' =>
      rw [h] at h'
      cases h'
  · next h' =>
      rw [h] at h'
      exact absurd (Option.some.inj h') hbang
  · next h' =>
      rw [h] at h'
      exact absurd (Option.some.inj h') hquestion
  · next h' =>
      rw [h] at h'
      exact absurd (Option.some.inj h') hslash
  · rfl

end

/-- A document is read markup by markup. -/
theorem readFrom_eq {opened : List Text} {text rest : Text} {c : Char}
    (h : text.dropWhile (· != '<') = c :: rest) :
    readFrom opened text =
      match markup opened rest with
      | .error f => ⟨[], some f⟩
      | .ok (es, opened', after) => (readFrom opened' after).prepend es := by
  rw [readFrom]
  split
  · next h' =>
      rw [h] at h'
      cases h'
  · next c' rest' h' =>
      rw [h] at h'
      cases h'
      simp only
      split
      · next hhead =>
          unfold markup
          rw [hhead]
      · next hhead =>
          rw [markup_declaration hhead, ← skipDeclaration_eq]
          cases skipDeclaration rest with
          | error f => rfl
          | ok after => rfl
      · next hhead =>
          rw [markup_instruction hhead]
          split
          · next hcut => rw [hcut]
          · next content after hcut =>
              rw [hcut]
              simp only
              split <;> rfl
      · next hhead =>
          rw [markup_stop hhead]
          split
          · next hcut => rw [hcut]
          · next content after hcut =>
              rw [hcut]
              cases opened with
              | nil => rfl
              | cons expected outer =>
                  simp only
                  split
                  · next hname =>
                      rw [hname]
                      rfl
                  · rfl
      · next c hbang hquestion hslash hhead =>
          rw [markup_tag hbang hquestion hslash hhead]
          split
          · next hcut => rw [hcut]
          · next content after hcut =>
              rw [hcut]
              simp only
              split <;> rfl

/-! ## Pieces of markup -/

section

variable {opened opened' : List Text} {text rest : Text} {es : List Event}

/-- A text begins with a piece of markup, which is the given tag or none. The tags that are open
before it and behind it are these, and the rest of the text is behind it. -/
inductive Piece : List Text → Text → List Event → List Text → Text → Prop where
  | declaration {opened : List Text} {text rest : Text} (first : text.head? = some '!')
      (passed : declaration text = .ok rest) : Piece opened text [] opened rest
  | instruction {opened : List Text} {text content rest : Text} (first : text.head? = some '?')
      (cut : cutWhere? endsInstruction [] text = some (content, rest))
      (long : ¬ content.length < 2) : Piece opened text [] opened rest
  | stop {expected : Text} {outer : List Text} {text content rest : Text}
      (first : text.head? = some '/') (cut : cutTag? none text = some (content, rest))
      (name : endName content.tail = expected) :
      Piece (expected :: outer) text [.stop expected] outer rest
  | empty {opened : List Text} {text content rest : Text} {c : Char} (hbang : c ≠ '!')
      (hquestion : c ≠ '?') (hslash : c ≠ '/') (first : text.head? = some c)
      (cut : cutTag? none text = some (content, rest)) (slash : content.getLast? = some '/') :
      Piece opened text [.empty content.dropLast] opened rest
  | start {opened : List Text} {text content rest : Text} {c : Char} (hbang : c ≠ '!')
      (hquestion : c ≠ '?') (hslash : c ≠ '/') (first : text.head? = some c)
      (cut : cutTag? none text = some (content, rest)) (slash : content.getLast? ≠ some '/') :
      Piece opened text [.start content] (tagName content :: opened) rest

theorem Piece.markup_eq (h : Piece opened text es opened' rest) :
    markup opened text = .ok (es, opened', rest) := by
  cases h with
  | declaration first passed =>
      rw [markup_declaration first, passed]
      rfl
  | instruction first cut long =>
      rw [markup_instruction first, cut]
      exact if_neg long
  | stop first cut name =>
      rw [markup_stop first, cut]
      exact if_pos name
  | empty hbang hquestion hslash first cut slash =>
      rw [markup_tag hbang hquestion hslash first, cut]
      exact if_pos slash
  | start hbang hquestion hslash first cut slash =>
      rw [markup_tag hbang hquestion hslash first, cut]
      exact if_neg slash

theorem piece_of_markup (h : markup opened text = .ok (es, opened', rest)) :
    Piece opened text es opened' rest := by
  cases first : text.head? with
  | none =>
      unfold markup at h
      rw [first] at h
      cases h
  | some c =>
      by_cases hbang : c = '!'
      · rw [hbang] at first
        rw [markup_declaration first] at h
        cases passed : declaration text with
        | error f =>
            rw [passed] at h
            cases h
        | ok after =>
            rw [passed] at h
            cases h
            exact .declaration first passed
      by_cases hquestion : c = '?'
      · rw [hquestion] at first
        rw [markup_instruction first] at h
        split at h
        · cases h
        · next content after cut =>
            split at h
            · cases h
            · next long =>
                cases h
                exact .instruction first cut long
      by_cases hslash : c = '/'
      · rw [hslash] at first
        rw [markup_stop first] at h
        split at h
        · cases h
        · next content after cut =>
            cases opened with
            | nil => cases h
            | cons expected outer =>
                simp only at h
                split at h
                · next name =>
                    cases h
                    exact .stop first cut name
                · cases h
      · rw [markup_tag hbang hquestion hslash first] at h
        split at h
        · cases h
        · next content after cut =>
            split at h
            · next slash =>
                cases h
                exact .empty hbang hquestion hslash first cut slash
            · next slash =>
                cases h
                exact .start hbang hquestion hslash first cut slash

end

/-! ## What is behind a piece of markup -/

section

variable {opened opened' opened'' : List Text} {s t rest : Text} {es es' : List Event}

theorem endedBy_append {holds : Text → Bool} {fault : Fault} {isProper : Text → Except Fault Unit}
    (h : endedBy holds fault isProper s = .ok rest) (t : Text) :
    endedBy holds fault isProper (s ++ t) = .ok (rest ++ t) := by
  unfold endedBy at h ⊢
  rw [cutWhere?_append]
  split at h
  · cases h
  · next content after hcut =>
      simp only [hcut]
      split at h
      · next hproper =>
          cases h
          rfl
      · cases h

theorem declaration_append (h : declaration s = .ok rest) (t : Text) :
    declaration (s ++ t) = .ok (rest ++ t) := by
  unfold declaration at h ⊢
  cases hsecond : s[1]? with
  | none =>
      rw [hsecond] at h
      cases h
  | some c =>
      have hsecond' : (s ++ t)[1]? = some c := by
        rw [List.getElem?_append_left (List.getElem?_eq_some_iff.mp hsecond).1, hsecond]
      rw [hsecond] at h
      rw [hsecond']
      split at h
      · next heq =>
          cases heq
          exact endedBy_append h t
      · next heq =>
          cases heq
          exact endedBy_append h t
      · next d hdash hbox heq =>
          cases heq
          split at h
          · next hletter =>
              rw [if_pos hletter]
              exact endedBy_append h t
          · cases h
      · next heq => cases heq

/-- A piece of markup ends where it ends whatever stands behind it. -/
theorem Piece.append (h : Piece opened s es opened' rest) (t : Text) :
    Piece opened (s ++ t) es opened' (rest ++ t) := by
  have begins {c : Char} (first : s.head? = some c) : (s ++ t).head? = some c := by
    rw [List.head?_append, first]
    rfl
  cases h with
  | declaration first passed =>
      exact .declaration (begins first) (declaration_append passed t)
  | instruction first cut long =>
      exact .instruction (begins first) (by rw [cutWhere?_append, cut]) long
  | stop first cut name => exact .stop (begins first) (cutTag?_append cut t) name
  | empty hbang hquestion hslash first cut slash =>
      exact .empty hbang hquestion hslash (begins first) (cutTag?_append cut t) slash
  | start hbang hquestion hslash first cut slash =>
      exact .start hbang hquestion hslash (begins first) (cutTag?_append cut t) slash

theorem markup_append (h : markup opened s = .ok (es, opened', rest)) (t : Text) :
    markup opened (s ++ t) = .ok (es, opened', rest ++ t) :=
  ((piece_of_markup h).append t).markup_eq

/-! ## Open tags -/

/-- A piece of markup is the given tag or none, and the tags that are open before it and behind it
are these. -/
inductive Tags : List Text → List Event → List Text → Prop where
  | nothing (opened : List Text) : Tags opened [] opened
  | empty (content : Text) (opened : List Text) : Tags opened [.empty content] opened
  | start (content : Text) (opened : List Text) :
      Tags opened [.start content] (tagName content :: opened)
  | stop (name : Text) (opened : List Text) : Tags (name :: opened) [.stop name] opened

/-- The names of open tags hold no spaces. -/
def Spaceless (opened : List Text) : Prop := ∀ name ∈ opened, ∀ c ∈ name, isSpace c = false

theorem Spaceless.tags (h : Spaceless opened) (tags : Tags opened es opened') :
    Spaceless opened' := by
  cases tags with
  | nothing => exact h
  | empty => exact h
  | start content =>
      intro name hname c hc
      rcases List.mem_cons.mp hname with rfl | hname
      · simpa using List.mem_takeWhile_imp hc
      · exact h name hname c hc
  | stop name => exact fun name' hname' => h name' (List.mem_cons_of_mem _ hname')

theorem Spaceless.not_mem {name : Text} {c : Char} (h : Spaceless opened) (hc : isSpace c = true)
    (hmem : c ∈ name) : name ∉ opened := fun hname => by
  rw [h name hname c hmem] at hc
  cases hc

/-- The name of an end tag goes on to its last character that is not blank. -/
theorem mem_endName {c d : Char} (hd : isSpace d = false) (s t : Text) :
    c ∈ endName (s ++ c :: d :: t) := by
  unfold endName
  split
  · exact List.mem_append_right _ List.mem_cons_self
  · have ends : (d :: c :: s.reverse).dropWhile isSpace = d :: c :: s.reverse :=
      List.dropWhile_cons_of_neg (by rw [hd]; decide)
    have split : (s ++ c :: d :: t).reverse = t.reverse ++ d :: c :: s.reverse := by simp
    unfold Text.dropEndWhile
    rw [List.mem_reverse, split, List.dropWhile_append]
    split
    · simp [ends]
    · simp

theorem length_lt_of_declaration (h : declaration s = .ok rest) : rest.length < s.length := by
  rw [← skipDeclaration_eq] at h
  cases hskip : skipDeclaration s with
  | error f =>
      rw [hskip] at h
      cases h
  | ok after =>
      rw [hskip] at h
      cases h
      exact after.2

/-- Every piece of markup is a tag or none, and takes at least one character. -/
theorem tags_of_markup (h : markup opened s = .ok (es, opened', rest)) :
    Tags opened es opened' ∧ rest.length < s.length := by
  cases piece_of_markup h with
  | declaration first passed => exact ⟨.nothing _, length_lt_of_declaration passed⟩
  | instruction first cut long => exact ⟨.nothing _, length_lt_of_cutWhere? cut⟩
  | stop first cut name => exact ⟨.stop _ _, length_lt_of_cutTag? cut⟩
  | empty hbang hquestion hslash first cut slash =>
      exact ⟨.empty _ _, length_lt_of_cutTag? cut⟩
  | start hbang hquestion hslash first cut slash =>
      exact ⟨.start _ _, length_lt_of_cutTag? cut⟩

/-! ## Stretches -/

theorem Reading.prepend_prepend (es es' : List Event) (r : Reading) :
    (r.prepend es').prepend es = r.prepend (es ++ es') := by
  unfold prepend
  rw [List.append_assoc]

/-- With some tags open, a stretch of a document is passed over with some events, and then other
tags are open, whatever comes behind it. -/
def Passes (opened : List Text) (s : Text) (es : List Event) (opened' : List Text) : Prop :=
  ∀ t, readFrom opened (s ++ t) = (readFrom opened' t).prepend es

theorem Passes.append (first : Passes opened s es opened')
    (second : Passes opened' t es' opened'') :
    Passes opened (s ++ t) (es ++ es') opened'' := by
  intro u
  rw [List.append_assoc, first, second, Reading.prepend_prepend]

/-- What is read of a document that ends with a stretch. -/
theorem Passes.read (h : Passes opened s es opened') : readFrom opened s = ⟨es, none⟩ := by
  have h := h []
  rw [List.append_nil, readFrom_end (List.dropWhile_nil ..)] at h
  rw [h]
  unfold Reading.prepend
  rw [List.append_nil]

theorem readFrom_congr (h : s.dropWhile (· != '<') = t.dropWhile (· != '<')) :
    readFrom opened s = readFrom opened t := by
  cases ht : t.dropWhile (· != '<') with
  | nil => rw [readFrom_end ht, readFrom_end (h.trans ht)]
  | cons c rest => rw [readFrom_eq ht, readFrom_eq (h.trans ht)]

theorem dropWhile_of_not_mem (h : '<' ∉ s) (t : Text) :
    (s ++ t).dropWhile (· != '<') = t.dropWhile (· != '<') := by
  have all : s.dropWhile (· != '<') = [] := by
    rw [List.dropWhile_eq_nil_iff]
    intro c hc
    exact bne_iff_ne.mpr fun heq => h (heq ▸ hc)
  rw [List.dropWhile_append, all]
  rfl

theorem dropWhile_bracket (h : '<' ∉ s) (t : Text) :
    (s ++ '<' :: t).dropWhile (· != '<') = '<' :: t := by
  rw [dropWhile_of_not_mem h, List.dropWhile_cons_of_neg (by decide)]

/-- Text between the tags is passed over. -/
theorem Passes.of_not_mem (h : '<' ∉ s) (opened : List Text) : Passes opened s [] opened :=
  fun t => readFrom_congr (dropWhile_of_not_mem h t)

theorem readFrom_bracket (opened : List Text) (before inside : Text) (h : '<' ∉ before) :
    readFrom opened (before ++ '<' :: inside) =
      match markup opened inside with
      | .error f => ⟨[], some f⟩
      | .ok (es, opened', after) => (readFrom opened' after).prepend es :=
  readFrom_eq (dropWhile_bracket h inside)

/-- A piece of markup is passed over, and then what is behind it. -/
theorem Passes.of_markup (h : markup opened s = .ok (es, opened', rest))
    (behind : Passes opened' rest es' opened'') :
    Passes opened ('<' :: s) (es ++ es') opened'' := by
  intro t
  have reading := readFrom_bracket opened [] (s ++ t) List.not_mem_nil
  rw [markup_append h t] at reading
  change readFrom opened ('<' :: (s ++ t)) = _
  rw [show '<' :: (s ++ t) = [] ++ '<' :: (s ++ t) from rfl, reading]
  simp only
  rw [behind, Reading.prepend_prepend]

/-! ## Where a stretch may end -/

/-- With some tags open, a text ends inside of a piece of markup, of which the bracket and a text are
there. The whole is read behind some events, and other tags are open. -/
structure EndsInside (opened : List Text) (s : Text) (es : List Event) (opened' : List Text)
    (inside : Text) : Prop where
  unfinished : ∃ f, markup opened' inside = .error f
  read : ∀ t, readFrom opened (s ++ t) = (readFrom opened' ('<' :: (inside ++ t))).prepend es

/-- A text ends between two pieces of markup or inside of one. -/
theorem passes_or_inside (names : Spaceless opened) (s : Text) :
    ∃ es opened', Spaceless opened' ∧
      (Passes opened s es opened' ∨ ∃ inside, EndsInside opened s es opened' inside) := by
  induction hlength : s.length using Nat.strongRecOn generalizing s opened with
  | _ n ih =>
  by_cases hmem : '<' ∈ s
  · obtain ⟨before, inside, rfl, hbefore⟩ := List.eq_append_cons_of_mem hmem
    cases hinside : markup opened inside with
    | error f =>
        refine ⟨[], opened, names, .inr ⟨inside, ⟨f, hinside⟩, fun t => ?_⟩⟩
        rw [List.append_assoc, Passes.of_not_mem hbefore opened]
        rfl
    | ok p =>
        obtain ⟨es, opened', rest⟩ := p
        obtain ⟨tags, shorter⟩ := tags_of_markup hinside
        have len : rest.length < n := by
          rw [← hlength, List.length_append, List.length_cons]
          omega
        obtain ⟨es', opened'', names', pass | ⟨inside', unfinished, read⟩⟩ :=
          ih _ len (names.tags tags) rest rfl
        · exact ⟨_, opened'', names', .inl ((Passes.of_not_mem hbefore opened).append
            (Passes.of_markup hinside pass))⟩
        · refine ⟨es ++ es', opened'', names', .inr ⟨inside', unfinished, fun t => ?_⟩⟩
          rw [List.append_assoc, List.cons_append, readFrom_bracket _ _ _ hbefore,
            markup_append hinside]
          simp only
          rw [read, Reading.prepend_prepend]
  · exact ⟨[], opened, names, .inl (Passes.of_not_mem hmem opened)⟩

/-- A text can be read on its own if it ends between two pieces of markup. -/
theorem readable_iff (names : Spaceless opened) :
    (readFrom opened s).fault? = none ↔ ∃ es opened', Passes opened s es opened' := by
  refine ⟨fun h => ?_, fun ⟨es, opened', pass⟩ => by rw [pass.read]⟩
  obtain ⟨es, opened', -, pass | ⟨inside, ⟨f, hf⟩, read⟩⟩ := passes_or_inside names s
  · exact ⟨es, opened', pass⟩
  · have reading := readFrom_bracket opened' [] inside List.not_mem_nil
    rw [List.nil_append, hf] at reading
    have read := read []
    rw [List.append_nil, List.append_nil, reading] at read
    rw [read] at h
    cases h

/-! ## Readings with other tags open -/

theorem markup_events {rest' : Text} (h : markup opened s = .ok (es, opened', rest))
    {outer : List Text} (h' : markup outer s = .ok (es', opened'', rest')) :
    es' = es ∧ rest' = rest := by
  cases piece_of_markup h with
  | declaration first passed =>
      rw [markup_declaration first, passed] at h'
      cases h'
      exact ⟨rfl, rfl⟩
  | instruction first cut long =>
      rw [markup_instruction first, cut] at h'
      simp only [if_neg long] at h'
      cases h'
      exact ⟨rfl, rfl⟩
  | stop first cut name =>
      rw [markup_stop first, cut] at h'
      simp only at h'
      split at h'
      · cases h'
      · split at h'
        · next name' =>
            cases h'
            exact ⟨by rw [← name, name'], rfl⟩
        · cases h'
  | empty hbang hquestion hslash first cut slash =>
      rw [markup_tag hbang hquestion hslash first, cut] at h'
      simp only [if_pos slash] at h'
      cases h'
      exact ⟨rfl, rfl⟩
  | start hbang hquestion hslash first cut slash =>
      rw [markup_tag hbang hquestion hslash first, cut] at h'
      simp only [if_neg slash] at h'
      cases h'
      exact ⟨rfl, rfl⟩

/-- The tags of a text do not depend on those that are open in front of it, if it can be read. -/
theorem events_eq {outer : List Text} (h : (readFrom opened s).fault? = none)
    (h' : (readFrom outer s).fault? = none) :
    (readFrom outer s).events = (readFrom opened s).events := by
  induction hlength : s.length using Nat.strongRecOn generalizing s opened outer with
  | _ n ih =>
  by_cases hmem : '<' ∈ s
  · obtain ⟨before, inside, rfl, hbefore⟩ := List.eq_append_cons_of_mem hmem
    rw [readFrom_bracket _ _ _ hbefore] at h h' ⊢
    rw [readFrom_bracket _ _ _ hbefore]
    cases hinside : markup opened inside with
    | error f =>
        rw [hinside] at h
        cases h
    | ok p =>
        cases hinside' : markup outer inside with
        | error f =>
            rw [hinside'] at h'
            cases h'
        | ok p' =>
            obtain ⟨es, opened', rest⟩ := p
            obtain ⟨es', outer', rest'⟩ := p'
            obtain ⟨rfl, rfl⟩ := markup_events hinside hinside'
            rw [hinside] at h
            rw [hinside'] at h'
            have len : rest'.length < n := by
              have := (tags_of_markup hinside).2
              rw [← hlength, List.length_append, List.length_cons]
              omega
            exact congrArg (es' ++ ·) (ih _ len h h' rfl)
  · rw [(Passes.of_not_mem hmem outer).read, (Passes.of_not_mem hmem opened).read]

end

end PatchTrail.Markup
