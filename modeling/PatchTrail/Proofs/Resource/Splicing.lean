import PatchTrail.Proofs.Resource.Tables

/-!
# A line inside of markup

The line of a resource is put in front of the last line of a table that begins with the closing
text, which may be a place inside of a piece of markup. There the line is no tag: a comment, a
declaration or an instruction goes on behind it as if it was not there (`declaration_line`), and
between quotes it becomes a part of a value.
-/

namespace PatchTrail.Resource

open Markup
open Definition (tableEnd)

variable {d : Definition} {id s t rest rest' before : Text} {holds : Text → Bool} {c : Char}

/-! ## Inert texts -/

/-- Whether a character means nothing in a tag, a comment or a declaration. -/
def isInert (c : Char) : Bool := c != '<' && c != '>' && c != '"' && c != '\'' && c != '='

/-- A resource has a kind and a name without brackets, quotes and equals signs. -/
structure Definition.Inert (d : Definition) : Prop where
  kind : d.kind.all isInert
  name : d.name.all isInert

theorem not_mem_of_inert (h : s.all isInert) (hc : isInert c = false) : c ∉ s := fun hmem => by
  rw [List.all_eq_true.mp h c hmem] at hc
  cases hc

theorem count_line (d : Definition) (id : Text) (c : Char) : (d.line id).count c =
    (Definition.line ⟨[], [], []⟩ []).count c + d.kind.count c + d.name.count c + id.count c := by
  unfold Definition.line
  simp only [List.count_append, List.count_nil]
  omega

/-- Of the characters that mean something the line of an inert resource has its own. -/
theorem count_line_of_inert (inert : d.Inert) (word : id.all isWordChar)
    (hc : isInert c = false) (hc' : isWordChar c = false) :
    (d.line id).count c = (Definition.line ⟨[], [], []⟩ []).count c := by
  rw [count_line, List.count_eq_zero.mpr (not_mem_of_inert inert.kind hc),
    List.count_eq_zero.mpr (not_mem_of_inert inert.name hc),
    List.count_eq_zero.mpr (not_mem_of_word word hc')]
  rfl

theorem single_not_mem_line (inert : d.Inert) (word : id.all isWordChar) : '\'' ∉ d.line id :=
  List.count_eq_zero.mp ((count_line_of_inert inert word rfl rfl).trans (by decide))

/-- The line of a resource up to its last bracket. -/
def lineBody (d : Definition) (id : Text) : Text := "\n    " ++ '<' :: (lineTag d id ++ ['/'])

theorem line_eq_body (d : Definition) (id : Text) : d.line id = lineBody d id ++ ['>'] := by
  rw [line_eq, lineBody]
  simp

theorem bracket_not_mem_lineBody (inert : d.Inert) (word : id.all isWordChar) :
    '>' ∉ lineBody d id := by
  have count := count_line_of_inert inert word (c := '>') rfl rfl
  rw [line_eq_body, List.count_append] at count
  have one : (Definition.line ⟨[], [], []⟩ []).count '>' = 1 := by decide
  have last : List.count '>' ['>'] = 1 := by decide
  exact List.count_eq_zero.mp (by omega)

/-! ## Comments, declarations and instructions -/

theorem cutWhere?_of_not_mem (h : '>' ∉ s) (t : Text) :
    cutWhere? holds before (s ++ t) = cutWhere? holds (s.reverse ++ before) t := by
  rw [cutWhere?_append]
  cases hcut : cutWhere? holds before s with
  | none => rfl
  | some p =>
      obtain ⟨passed, rfl, -⟩ := eq_of_cutWhere? hcut
      exact absurd (by simp) h

/-- What stood before makes no difference if the condition does not see it. -/
theorem cutWhere?_congr {before' : Text} (h : ∀ u, holds (u ++ before') = holds (u ++ before))
    (t : Text) :
    (cutWhere? holds before' t).map Prod.snd = (cutWhere? holds before t).map Prod.snd := by
  induction t generalizing before before' with
  | nil => rfl
  | cons c t ih =>
      have now : holds before' = holds before := h []
      have later : ∀ u, holds (u ++ c :: before') = holds (u ++ c :: before) := fun u => by
        simpa using h (u ++ [c])
      rw [cutWhere?, cutWhere?, now]
      split
      · rfl
      · exact ih later

/-- A condition fails at the end of a line and does not see the line behind the closing text. -/
structure Overlooks (holds : Text → Bool) (d : Definition) (id before : Text) : Prop where
  line : holds ((lineBody d id).reverse ++ before) = false
  behind : ∀ u, holds (u ++ (closing.reverse ++ ((d.line id).reverse ++ before))) =
    holds (u ++ (closing.reverse ++ before))

theorem Overlooks.cutWhere?_eq (h : Overlooks holds d id before) (inert : d.Inert)
    (word : id.all isWordChar) (t : Text) :
    (cutWhere? holds before (d.line id ++ (tableEnd ++ t))).map Prod.snd =
      (cutWhere? holds before (tableEnd ++ t)).map Prod.snd := by
  have plain : '>' ∉ closing := by decide
  have line : cutWhere? holds before (d.line id ++ (tableEnd ++ t)) =
      cutWhere? holds ((d.line id).reverse ++ before) (tableEnd ++ t) := by
    rw [line_eq_body, List.append_assoc,
      cutWhere?_of_not_mem (bracket_not_mem_lineBody inert word), List.singleton_append, cutWhere?,
      if_neg (by simp [h.line]), List.reverse_append]
    rfl
  rw [line, tableEnd_append, cutWhere?_of_not_mem plain, cutWhere?_of_not_mem plain]
  exact cutWhere?_congr h.behind _

theorem cut_of_endedBy {fault : Fault} {isProper : Text → Except Fault Unit}
    (h : endedBy holds fault isProper s = .ok rest) :
    (cutWhere? holds [] s).map Prod.snd = some rest := by
  unfold endedBy at h
  split at h
  · cases h
  · next hcut =>
      split at h
      · cases h
        rw [hcut]
        rfl
      · cases h

theorem endedBy_line {fault f : Fault} {isProper : Text → Except Fault Unit}
    (inert : d.Inert) (word : id.all isWordChar) (h : endedBy holds fault isProper s = .error f)
    (overlooks : cutWhere? holds [] s = none → Overlooks holds d id s.reverse)
    (all : endedBy holds fault isProper (s ++ (tableEnd ++ t)) = .ok rest)
    (spliced : endedBy holds fault isProper (s ++ (d.line id ++ (tableEnd ++ t))) = .ok rest') :
    rest' = rest := by
  have all' := cut_of_endedBy all
  have spliced' := cut_of_endedBy spliced
  rw [cutWhere?_append] at all' spliced'
  cases hcut : cutWhere? holds [] s with
  | none =>
      simp only [hcut, List.append_nil] at all' spliced'
      rw [(overlooks hcut).cutWhere?_eq inert word, all'] at spliced'
      exact (Option.some.inj spliced').symm
  | some p =>
      unfold endedBy at h all
      rw [cutWhere?_append] at all
      simp only [hcut] at h all
      split at h
      · cases h
      · next hproper =>
          rw [hproper] at all
          cases all

theorem Overlooks.of_startsWith {p : Text} (full : p ≠ []) (short : p.length ≤ closing.length)
    (h : p.head? ≠ some '/') (id before : Text) :
    Overlooks (fun before => before.startsWith p) d id before where
  line := by
    have last : (lineBody d id).reverse = '/' :: (lineTag d id).reverse ++ ['<'] ++
        ("\n    " : Text).reverse := by
      simp [lineBody]
    obtain ⟨c, p, rfl⟩ := List.exists_cons_of_ne_nil full
    have hc : c ≠ '/' := fun heq => h (congrArg some heq)
    rw [last]
    simp only [List.cons_append]
    unfold Text.startsWith
    rw [List.isPrefixOf, beq_false_of_ne hc, Bool.false_and]
  behind u := by
    have long : p.length ≤ (u ++ closing.reverse).length := by
      rw [List.length_append, List.length_reverse]
      omega
    have only (x : Text) : (u ++ (closing.reverse ++ x)).startsWith p =
        (u ++ closing.reverse).startsWith p := by
      unfold Text.startsWith
      rw [← List.append_assoc, Bool.eq_iff_iff, List.isPrefixOf_iff_prefix,
        List.isPrefixOf_iff_prefix]
      exact ⟨fun hp => List.prefix_of_prefix_length_le hp (List.prefix_append _ _) long,
        fun hp => hp.trans (List.prefix_append _ _)⟩
    rw [only, only]

theorem overlooks_comment (d : Definition) (id before : Text) :
    Overlooks endsComment d id before := by
  have dashes := Overlooks.of_startsWith (d := d) (p := "--") (by decide) (by decide) (by decide)
    id before
  refine ⟨?_, fun u => ?_⟩
  · unfold endsComment
    rw [dashes.line, Bool.and_false]
  · have twelve : closing.length = 12 := by decide
    have long (x : Text) : decide (4 < (u ++ (closing.reverse ++ x)).length) = true := by
      simp only [List.length_append, List.length_reverse, decide_eq_true_eq]
      omega
    unfold endsComment
    rw [long, long, dashes.behind]

/-- Where a document's type may not end yet, a line opens as many brackets as it closes. -/
theorem overlooks_doctype (inert : d.Inert) (word : id.all isWordChar)
    (h : cutWhere? endsDoctype [] s = none) : Overlooks endsDoctype d id s.reverse := by
  have opening := count_line_of_inert inert word (c := '<') rfl rfl
  have closes := count_line_of_inert inert word (c := '>') rfl rfl
  have one : (Definition.line ⟨[], [], []⟩ []).count '<' = 1 := by decide
  have one' : (Definition.line ⟨[], [], []⟩ []).count '>' = 1 := by decide
  have le := count_le_of_doctype h (Nat.le_refl _)
  rw [List.append_nil] at le
  refine ⟨?_, fun u => ?_⟩
  · rw [line_eq_body, List.count_append] at opening closes
    have last : List.count '<' ['>'] = 0 := by decide
    have last' : List.count '>' ['>'] = 1 := by decide
    refine beq_eq_false_iff_ne.mpr ?_
    simp only [List.count_append, List.count_reverse] at le ⊢
    omega
  · unfold endsDoctype
    rw [Bool.eq_iff_iff, beq_iff_eq, beq_iff_eq]
    simp only [List.count_append, List.count_reverse]
    omega

/-- A declaration goes on behind a line as if it was not there. -/
theorem declaration_line {f : Fault} (inert : d.Inert) (word : id.all isWordChar)
    (h : declaration s = .error f) (all : declaration (s ++ (tableEnd ++ t)) = .ok rest)
    (spliced : declaration (s ++ (d.line id ++ (tableEnd ++ t))) = .ok rest') : rest' = rest := by
  rcases s with _ | ⟨a, _ | ⟨b, s⟩⟩
  · cases all
  · cases all
  · unfold declaration at h all spliced
    simp only [List.cons_append, List.getElem?_cons_succ, List.getElem?_cons_zero] at h all spliced
    simp only [← List.cons_append] at all spliced
    split at h
    · next heq =>
        cases heq
        exact endedBy_line inert word h (fun _ => overlooks_comment d id _) all spliced
    · next heq =>
        cases heq
        exact endedBy_line inert word h
          (fun _ => .of_startsWith (by decide) (by decide) (by decide) id _) all spliced
    · next c hdash hbox heq =>
        cases heq
        simp only at all spliced
        split at h
        · next hletter =>
            rw [if_pos hletter] at all spliced
            exact endedBy_line inert word h (overlooks_doctype inert word) all spliced
        · next hletter =>
            rw [if_neg hletter] at all
            cases all
    · next heq => cases heq

/-- An instruction goes on behind a line as if it was not there. -/
theorem instruction_line {content content' : Text} (inert : d.Inert) (word : id.all isWordChar)
    (h : cutWhere? endsInstruction [] s = none)
    (all : cutWhere? endsInstruction [] (s ++ (tableEnd ++ t)) = some (content, rest))
    (spliced : cutWhere? endsInstruction [] (s ++ (d.line id ++ (tableEnd ++ t))) =
      some (content', rest')) : rest' = rest := by
  have overlooks : Overlooks endsInstruction d id (s.reverse ++ []) :=
    .of_startsWith (by decide) (by decide) (by decide) id _
  have same := overlooks.cutWhere?_eq inert word t
  rw [cutWhere?_append, h] at all spliced
  simp only at all spliced
  rw [all, spliced] at same
  exact Option.some.inj same

/-! ## Tags -/

theorem all_isPlain_of_inert (h : s.all isInert) : s.all isPlain :=
  List.all_eq_true.mpr fun c hc => by
    have inert := List.all_eq_true.mp h c hc
    simp only [isInert, Bool.and_eq_true] at inert
    obtain ⟨⟨⟨⟨-, bracket⟩, double⟩, single⟩, -⟩ := inert
    rw [isPlain, bracket, double, single]
    rfl

theorem all_isPlain_of_word (h : s.all isWordChar) : s.all isPlain :=
  List.all_eq_true.mpr fun c hc => by
    have ne {e : Char} (he : isWordChar e = false) : c != e :=
      bne_iff_ne.mpr fun heq => not_mem_of_word h he (heq ▸ hc)
    rw [isPlain, ne rfl, ne rfl, ne rfl]
    rfl

/-- Outside of quotes the line ends a tag at its end. -/
theorem cutTag?_line (hkind : '"' ∉ d.kind) (hname : '"' ∉ d.name) (hid : '"' ∉ id) (t : Text) :
    cutTag? none (d.line id ++ t) = some (lineBody d id, t) := by
  have begins : ("\n    <" : Text).all isPlain := rfl
  have split : d.line id ++ t = "\n    <" ++ (lineTag d id ++ ['/', '>'] ++ t) := by
    rw [line_eq]
    simp
  rw [split, cutTag?_plain begins, cutTag?_append (cutTag?_lineTag hkind hname hid)]
  rfl

theorem cutTag?_value {value : Text} (hs : '"' ∉ s) (hvalue : value.all isPlain) (t : Text) :
    cutTag? (some '"') (s ++ '"' :: (value ++ '"' :: t)) =
      (cutTag? (some '"') t).map (prependFirst (s ++ '"' :: (value ++ ['"']))) := by
  rw [cutTag?_quoted hs, cutTag?_plain hvalue, cutTag?, if_neg (by decide), if_pos (.inl rfl),
    Option.map_map, Option.map_map]
  congr 1
  funext p
  simp [prependFirst, consFirst]

/-- Between quotes of either kind the line ends nothing: it has no single quotes, and its double
quotes close three times what they open three times. -/
theorem cutTag?_line_quoted {q : Char} (hq : IsQuote q) (inert : d.Inert)
    (word : id.all isWordChar) (t : Text) :
    cutTag? (some q) (d.line id ++ t) = (cutTag? (some q) t).map (prependFirst (d.line id)) := by
  rcases hq with rfl | rfl
  · have split : d.line id ++ t = "\n    <public type=" ++ '"' :: (d.kind ++ '"' ::
        (" name=" ++ '"' :: (d.name ++ '"' :: (" id=" ++ '"' :: (id ++ '"' :: (" />" ++ t)))))) := by
      unfold Definition.line
      simp only [List.append_assoc]
      rfl
    rw [split, cutTag?_value (by decide) (all_isPlain_of_inert inert.kind),
      cutTag?_value (by decide) (all_isPlain_of_inert inert.name),
      cutTag?_value (by decide) (all_isPlain_of_word word), cutTag?_inside (by decide)]
    simp only [Option.map_map, prependFirst_comp]
    congr 2
    unfold Definition.line
    simp only [List.append_assoc, List.cons_append, List.nil_append]
    rfl
  · exact cutTag?_inside (single_not_mem_line inert word) t

/-- A tag that runs into the closing text either ends there, and then with the line in front of it
it ends at the line, or is between quotes there, and then the line becomes a part of it. -/
theorem cutTag?_spliced {content : Text} (inert : d.Inert) (word : id.all isWordChar)
    (unfinished : cutTag? none s = none)
    (all : cutTag? none (s ++ (tableEnd ++ t)) = some (content, rest)) :
    (content = s ++ closing ∧ rest = t ∧ cutTag? none (s ++ (d.line id ++ (tableEnd ++ t))) =
        some (s ++ lineBody d id, tableEnd ++ t)) ∨
      ∃ z, content = s ++ (tableEnd ++ z) ∧ cutTag? none (s ++ (d.line id ++ (tableEnd ++ t))) =
        some (s ++ (d.line id ++ (tableEnd ++ z)), rest) := by
  obtain ⟨quote?, quotes, hcut⟩ := cutTag?_append_none unfinished (fun _ h => nomatch h)
  rw [hcut] at all ⊢
  obtain ⟨⟨a, b⟩, hab, he⟩ := Option.map_eq_some_iff.mp all
  cases he
  cases quote? with
  | none =>
      have ends : cutTag? none (tableEnd ++ t) = some (closing, t) := rfl
      rw [ends] at hab
      cases hab
      refine .inl ⟨rfl, rfl, ?_⟩
      rw [cutTag?_line (not_mem_of_inert inert.kind rfl) (not_mem_of_inert inert.name rfl)
        (not_mem_of_word word rfl)]
      rfl
  | some q =>
      have hq : IsQuote q := quotes q rfl
      have absent : q ∉ tableEnd := by rcases hq with rfl | rfl <;> decide
      rw [cutTag?_inside absent] at hab
      obtain ⟨⟨z, b⟩, hz, he⟩ := Option.map_eq_some_iff.mp hab
      cases he
      refine .inr ⟨z, rfl, ?_⟩
      rw [cutTag?_line_quoted hq inert word, cutTag?_inside absent, hz]
      rfl

/-! ## Attributes -/

/-- An attribute has the same key as another, and the same value or one with a bracket. -/
def Marked (a a' : Attribute) : Prop := a'.key = a.key ∧ (a'.value = a.value ∨ '<' ∈ a'.value)

/-- A line is no attribute, since it begins with two words. -/
theorem not_reads_line {keys : List Text} {attrs : List Attribute}
    (blank : ∀ c ∈ s, isSpace c = true) (t : Text) : ¬ Reads keys (s ++ (d.line id ++ t)) attrs := by
  have equals : '=' ∉ s ++ "\n    <publi" := fun hmem =>
    (List.mem_append.mp hmem).elim (fun h => absurd (blank _ h) (by decide)) (by decide)
  have split : s ++ (d.line id ++ t) = s ++ "\n    <publi" ++ 'c' :: ' ' :: 't' ::
      ("ype=\"" ++ d.kind ++ "\" name=\"" ++ d.name ++ "\" id=\"" ++ id ++ "\" />" ++ t) := by
    unfold Definition.line
    simp only [List.append_assoc]
    rfl
  rw [split]
  exact Reads.not_twoWords equals (by decide) (by decide) (by decide) _

/-- In a value between double quotes the first quote of a line ends the value, and behind it stands
no attribute. -/
theorem not_reads_double {keys : List Text} {attrs : List Attribute} {a : Spelling} {u v : Text}
    (hraw : a.raw = u ++ v) (hq : a.quote = '"') (new : a.key ∉ keys) (inert : d.Inert)
    (t : Text) : ¬ Reads keys (a.head ++ u ++ (d.line id ++ t)) attrs := by
  let b : Spelling :=
    { a with
      raw := u ++ "\n    <public type="
      raw_closed := fun hmem => by
        rw [hq] at hmem
        refine (List.mem_append.mp hmem).elim (fun hu => a.raw_closed ?_) (by decide)
        rw [hraw, hq]
        exact List.mem_append_left _ hu }
  have split : a.head ++ u ++ (d.line id ++ t) = b.text (d.kind ++ '"' :: ' ' :: 'n' ::
      ("ame=\"" ++ d.name ++ "\" id=\"" ++ id ++ "\" />" ++ t)) := by
    have head : b.head = a.head := rfl
    have quote : b.quote = '"' := hq
    unfold Spelling.text Definition.line
    rw [head, quote]
    simp only [List.append_assoc, b]
    rfl
  intro h
  rw [split] at h
  obtain ⟨-, more, -, hmore, -⟩ := (reads_text_iff b new).mp h
  exact Reads.not_twoWords (not_mem_of_inert inert.kind rfl) (by decide) (by decide) (by decide) _
    hmore

/-- In a value between single quotes a line is a part of the value, which has a bracket then. -/
theorem reads_single {keys : List Text} {attrs : List Attribute} {a : Spelling} {u v : Text}
    (hraw : a.raw = u ++ v) (hq : a.quote = '\'') (new : a.key ∉ keys) (inert : d.Inert)
    (word : id.all isWordChar)
    (h : Reads keys (a.head ++ u ++ (d.line id ++ (v ++ a.quote :: rest))) attrs) :
    ∃ value more, '<' ∈ value ∧ Reads (keys ++ [a.key]) rest more ∧
      attrs = ⟨a.key, value⟩ :: more := by
  let b : Spelling :=
    { a with
      raw := u ++ (d.line id ++ v)
      raw_closed := fun hmem => by
        have absent := a.raw_closed
        have absent' := single_not_mem_line inert word
        rw [hraw, hq] at absent
        rw [hq] at hmem
        simp_all }
  have split : a.head ++ u ++ (d.line id ++ (v ++ a.quote :: rest)) = b.text rest := by
    have head : b.head = a.head := rfl
    unfold Spelling.text
    rw [head]
    simp only [List.append_assoc, b]
  rw [split] at h
  obtain ⟨value, more, hvalue, hmore, hattrs⟩ := (reads_text_iff b new).mp h
  have bracket : '<' ∈ b.raw := by
    refine List.mem_append_right _ (List.mem_append_left _ ?_)
    rw [line_eq]
    simp
  exact ⟨value, more, bracket_mem_of_unescape hvalue bracket, hmore, hattrs⟩

/-- If a line is put in front of the closing text inside of a tag and there still are attributes,
then it has become a part of a value. -/
theorem forall₂_marked {keys : List Text} {attrs attrs' : List Attribute} {z : Text}
    (inert : d.Inert) (word : id.all isWordChar) (h : Reads keys (s ++ (tableEnd ++ z)) attrs)
    (h' : Reads keys (s ++ (d.line id ++ (tableEnd ++ z))) attrs') :
    List.Forall₂ Marked attrs attrs' := by
  obtain ⟨z, hz⟩ : ∃ z', tableEnd ++ z = '\n' :: '<' :: z' := ⟨_, rfl⟩
  rw [hz] at h h'
  generalize hs : s ++ '\n' :: '<' :: z = text at h
  induction h generalizing s attrs' with
  | done blank => exact absurd (blank '<' (hs ▸ by simp)) (by decide)
  | next a hvalue new more ih =>
      rcases a.feed hs.symm with blank | ⟨u, v, rfl, hraw, hrest⟩ | ⟨x, rfl, rfl⟩
      · exact absurd h' (not_reads_line blank _)
      · rcases a.quote_kind with hq | hq
        · exact absurd h' (not_reads_double hraw hq new inert _)
        · rw [← hrest, ← List.cons_append] at h'
          obtain ⟨value, more', bracket, hmore, rfl⟩ := reads_single hraw hq new inert word h'
          refine .cons ⟨rfl, .inr bracket⟩ ?_
          rw [more.unique hmore]
          exact List.forall₂_same.mpr fun a _ => ⟨rfl, .inl rfl⟩
      · have split : a.head ++ (a.raw ++ a.quote :: x) ++ (d.line id ++ '\n' :: '<' :: z) =
            a.text (x ++ (d.line id ++ '\n' :: '<' :: z)) := by
          simp [Spelling.text]
        rw [split] at h'
        obtain ⟨value', more', hvalue', hmore, rfl⟩ := (reads_text_iff a new).mp h'
        cases hvalue.symm.trans hvalue'
        exact .cons ⟨rfl, .inl rfl⟩ (ih hmore rfl)

/-! ## Entries -/

theorem valueOf_marked {attrs attrs' : List Attribute} (h : List.Forall₂ Marked attrs attrs')
    (key : Text) : valueOf key attrs' = valueOf key attrs ∨ '<' ∈ valueOf key attrs' := by
  induction h with
  | nil => exact .inl rfl
  | @cons a a' attrs attrs' marked _ ih =>
      obtain ⟨same, value⟩ := marked
      unfold valueOf at ih ⊢
      by_cases hkey : a.key = key
      · rw [List.find?_cons_of_pos (by simpa [same] using hkey),
          List.find?_cons_of_pos (by simpa using hkey)]
        exact value
      · rw [List.find?_cons_of_neg (by simpa [same] using hkey),
          List.find?_cons_of_neg (by simpa using hkey)]
        exact ih

theorem tagName_append (hc : isSpace c = true) (s t : Text) :
    tagName (s ++ c :: t) = tagName s := by
  unfold tagName
  rw [List.takeWhile_append]
  split
  · next whole =>
      rw [List.takeWhile_cons_of_neg (by rw [hc]; decide), List.append_nil,
        (List.takeWhile_prefix _).eq_of_length whole]
  · rfl

/-- What a tag with a name stands for, if it is the name of the tags that stand for resources. -/
theorem entryOf_eq_ok_iff {content : Text} {es : List Entry} (name : tagName s = entryTag)
    (hc : isSpace c = true) (hcontent : content = s ++ c :: t) :
    entryOf content = .ok es ↔ ∃ attrs, Reads [] (s.drop entryTag.length ++ c :: t) attrs ∧
      es = [⟨valueOf "type" attrs, valueOf "name" attrs, valueOf "id" attrs⟩] := by
  have behind : content.drop entryTag.length = s.drop entryTag.length ++ c :: t := by
    rw [hcontent, List.drop_append_of_le_length]
    rw [← name]
    exact (List.takeWhile_prefix _).length_le
  unfold entryOf
  rw [if_pos (by rw [hcontent, tagName_append hc, name]), bind_eq_ok_iff]
  unfold Markup.attributes
  rw [behind]
  refine exists_congr fun attrs => ?_
  rw [attributesFrom_eq_ok_iff]
  exact and_congr_right fun _ => ⟨fun h => (Except.ok.inj h).symm, fun h => congrArg _ h.symm⟩

theorem entryOf_other (name : tagName s ≠ entryTag) (hc : isSpace c = true) (t : Text) :
    entryOf (s ++ c :: t) = .ok [] := by
  unfold entryOf
  rw [tagName_append hc, if_neg name]

/-- Each of some entries has the kind and the name of one of others, or a bracket in one of them. -/
def Known (es es' : List Entry) : Prop :=
  ∀ e' ∈ es', ∃ e ∈ es, (e'.kind = e.kind ∨ '<' ∈ e'.kind) ∧ (e'.name = e.name ∨ '<' ∈ e'.name)

theorem Known.refl (es : List Entry) : Known es es := fun e he => ⟨e, he, .inl rfl, .inl rfl⟩

theorem Known.append {es₁ es₁' es₂ es₂' : List Entry} (first : Known es₁ es₁')
    (second : Known es₂ es₂') : Known (es₁ ++ es₂) (es₁' ++ es₂') := by
  intro e' he'
  rcases List.mem_append.mp he' with he' | he'
  · obtain ⟨e, he, known⟩ := first e' he'
    exact ⟨e, List.mem_append_left _ he, known⟩
  · obtain ⟨e, he, known⟩ := second e' he'
    exact ⟨e, List.mem_append_right _ he, known⟩

/-- A resource without brackets is none of the entries if it was none of the others. -/
theorem Known.not_mem {es es' : List Entry} (h : Known es es') (inert : d.Inert)
    (new : d.key ∉ es.map Entry.key) : d.key ∉ es'.map Entry.key := by
  intro hmem
  obtain ⟨e', he', hkey⟩ := List.mem_map.mp hmem
  obtain ⟨e, he, kind, name⟩ := h e' he'
  have kind' : e'.kind = d.kind := congrArg Prod.fst hkey
  have name' : e'.name = d.name := congrArg Prod.snd hkey
  rw [kind'] at kind
  rw [name'] at name
  have sameKind := kind.resolve_right (not_mem_of_inert inert.kind rfl)
  have sameName := name.resolve_right (not_mem_of_inert inert.name rfl)
  exact new (List.mem_map.mpr ⟨e, he, (Prod.ext sameKind sameName).symm⟩)

/-- A tag with a line inside stands for no other resource than without it. -/
theorem known_of_entryOf {es es' : List Entry} {z : Text} (inert : d.Inert)
    (word : id.all isWordChar) (h : entryOf (s ++ (tableEnd ++ z)) = .ok es)
    (h' : entryOf (s ++ (d.line id ++ (tableEnd ++ z))) = .ok es') : Known es es' := by
  have feed : tableEnd ++ z = '\n' :: ("</resources>" ++ z) := rfl
  have feed' : d.line id ++ (tableEnd ++ z) = '\n' :: ((d.line id).tail ++ (tableEnd ++ z)) := rfl
  by_cases name : tagName s = entryTag
  · obtain ⟨attrs, reads, rfl⟩ := (entryOf_eq_ok_iff name rfl (congrArg (s ++ ·) feed)).mp h
    obtain ⟨attrs', reads', rfl⟩ := (entryOf_eq_ok_iff name rfl (congrArg (s ++ ·) feed')).mp h'
    rw [← feed] at reads
    rw [← feed'] at reads'
    have marked := valueOf_marked (forall₂_marked inert word reads reads')
    intro e' he'
    obtain rfl := List.mem_singleton.mp he'
    exact ⟨_, List.mem_cons_self, marked "type", marked "name"⟩
  · rw [feed', entryOf_other name rfl] at h'
    cases h'
    exact fun e' he' => absurd he' List.not_mem_nil

/-- A tag that the closing text ends stands for no resource, and for none if the line ends it. -/
theorem entryOf_closing {es : List Entry} (h : entryOf (s ++ closing) = .ok es) (t : Text) :
    entryOf (s ++ '\n' :: t) = .ok [] := by
  have feed : closing = '\n' :: "</resources" := rfl
  by_cases name : tagName s = entryTag
  · obtain ⟨attrs, reads, -⟩ := (entryOf_eq_ok_iff name rfl (congrArg (s ++ ·) feed)).mp h
    have last := reads.last 's' (by rw [← feed, List.getLast?_append]; rfl)
    exact absurd last (by unfold IsQuote; decide)
  · exact entryOf_other name rfl t

/-! ## Tables -/

theorem exists_markup {opened : List Text} (h : (readFrom opened ('<' :: s)).fault? = none) :
    ∃ es opened' rest, markup opened s = .ok (es, opened', rest) ∧
      readFrom opened ('<' :: s) = (readFrom opened' rest).prepend es := by
  have reading := readFrom_bracket opened [] s List.not_mem_nil
  rw [List.nil_append] at reading
  cases hmarkup : markup opened s with
  | error f =>
      rw [reading, hmarkup] at h
      cases h
  | ok p =>
      refine ⟨_, _, _, rfl, ?_⟩
      rw [reading, hmarkup]

theorem head?_line (s t : Text) (d : Definition) (id : Text) :
    (s ++ (d.line id ++ (tableEnd ++ t))).head? = (s ++ (tableEnd ++ t)).head? := by
  cases s <;> rfl

/-- What a tag and what is behind it stand for. -/
theorem entriesOf_tag_iff {content : Text} {ev : Event} {evs : List Event} {es : List Entry}
    (hev : ev = .start content ∨ ev = .empty content) : entriesOf (ev :: evs) = .ok es ↔
      ∃ es₁ es₂, entryOf content = .ok es₁ ∧ entriesOf evs = .ok es₂ ∧ es = es₁ ++ es₂ := by
  have tag : entriesOf (ev :: evs) = do return (← entryOf content) ++ (← entriesOf evs) := by
    rcases hev with rfl | rfl <;> rfl
  rw [tag, append_eq_ok_iff]

section Inside

variable {opened : List Text} {es es' : List Entry} {content : Text} {f : Fault}

/-- If the closing text ends a tag, then the line ends it in its place. The closing text behind the
line is an end tag then, and the rest of the table has the same tags as before. -/
theorem known_of_ended {name : Text}
    (sound : (readFrom (name :: opened) t).fault? = none)
    (sound' : (readFrom opened (tableEnd ++ t)).fault? = none)
    (found : entriesOf (.start (s ++ closing) :: (readFrom (name :: opened) t).events) = .ok es)
    (found' : entriesOf (.empty (s ++ lineBody d id).dropLast ::
      (readFrom opened (tableEnd ++ t)).events) = .ok es') : Known es es' := by
  obtain ⟨outer, rfl⟩ := opened_of_readFrom sound'
  have closed : readFrom ("resources" :: outer) (tableEnd ++ t) =
      (readFrom outer t).prepend [.stop "resources"] := by
    rw [readFrom_tableEnd, markup_tableEnd]
    simp only [if_true]
  rw [closed] at sound' found'
  have body : (s ++ lineBody d id).dropLast = s ++ '\n' :: ("    <" ++ lineTag d id) := by
    have split : s ++ lineBody d id = (s ++ '\n' :: ("    <" ++ lineTag d id)) ++ ['/'] := by
      unfold lineBody
      simp only [List.append_assoc]
      rfl
    rw [split, List.dropLast_concat]
  obtain ⟨es₁, es₂, h₁, h₂, rfl⟩ := (entriesOf_tag_iff (.inl rfl)).mp found
  obtain ⟨es₁', es₂', h₁', h₂', rfl⟩ := (entriesOf_tag_iff (.inr rfl)).mp found'
  rw [body, entryOf_closing h₁] at h₁'
  cases h₁'
  have same : entriesOf (readFrom outer t).events = .ok es₂' := h₂'
  rw [events_eq sound sound', h₂] at same
  cases same
  exact .append (fun e' he' => absurd he' List.not_mem_nil) (.refl _)

/-- Inside of a tag, a line is a part of a value or ends the tag, and adds no resource. -/
theorem known_of_tag {c : Char} (inert : d.Inert) (word : id.all isWordChar) (hbang : c ≠ '!')
    (hquestion : c ≠ '?') (hslash : c ≠ '/') (first : (s ++ (tableEnd ++ t)).head? = some c)
    (unfinished : cutTag? none s = none)
    (cut : cutTag? none (s ++ (tableEnd ++ t)) = some (content, rest))
    (sound : (readFrom opened ('<' :: (s ++ (tableEnd ++ t)))).fault? = none)
    (sound' : (readFrom opened ('<' :: (s ++ (d.line id ++ (tableEnd ++ t))))).fault? = none)
    (found : entriesOf (readFrom opened ('<' :: (s ++ (tableEnd ++ t)))).events = .ok es)
    (found' : entriesOf (readFrom opened ('<' :: (s ++ (d.line id ++ (tableEnd ++ t))))).events =
      .ok es') : Known es es' := by
  obtain ⟨evs, opened₁, rest₁, hmarkup, reading⟩ := exists_markup sound
  obtain ⟨evs', opened₂, rest₂, hmarkup', reading'⟩ := exists_markup sound'
  rw [reading] at sound found
  rw [reading'] at sound' found'
  rw [markup_tag hbang hquestion hslash first, cut] at hmarkup
  rw [markup_tag hbang hquestion hslash ((head?_line ..).trans first)] at hmarkup'
  rcases cutTag?_spliced inert word unfinished cut with ⟨rfl, rfl, cut'⟩ | ⟨z, rfl, cut'⟩
  · have last : (s ++ closing).getLast? ≠ some '/' := by
      rw [List.getLast?_append_of_ne_nil _ (by decide)]
      decide
    have last' : (s ++ lineBody d id).getLast? = some '/' := by
      simp [lineBody, List.getLast?_append, List.getLast?_cons]
    rw [cut'] at hmarkup'
    simp only [if_neg last] at hmarkup
    simp only [if_pos last'] at hmarkup'
    cases hmarkup
    cases hmarkup'
    exact known_of_ended sound sound' found found'
  · have full : tableEnd ++ z ≠ [] := fun h => by cases h
    have last : (s ++ (d.line id ++ (tableEnd ++ z))).getLast? = (s ++ (tableEnd ++ z)).getLast? := by
      rw [← List.append_assoc, List.getLast?_append_of_ne_nil _ full,
        List.getLast?_append_of_ne_nil _ full]
    rw [cut'] at hmarkup'
    simp only [last] at hmarkup'
    by_cases slash : (s ++ (tableEnd ++ z)).getLast? = some '/'
    · simp only [if_pos slash] at hmarkup hmarkup'
      cases hmarkup
      cases hmarkup'
      have more : z ≠ [] := by
        rintro rfl
        rw [List.getLast?_append_of_ne_nil _ full] at slash
        exact absurd slash (by decide)
      obtain ⟨es₁, es₂, h₁, h₂, rfl⟩ := (entriesOf_tag_iff (.inr rfl)).mp found
      obtain ⟨es₁', es₂', h₁', h₂', rfl⟩ := (entriesOf_tag_iff (.inr rfl)).mp found'
      cases h₂.symm.trans h₂'
      refine .append (known_of_entryOf (s := s) (z := z.dropLast) inert word ?_ ?_) (.refl _)
      · rwa [← List.append_assoc, List.dropLast_append_of_ne_nil more, List.append_assoc] at h₁
      · rwa [← List.append_assoc, ← List.append_assoc, List.dropLast_append_of_ne_nil more,
          List.append_assoc, List.append_assoc] at h₁'
    · simp only [if_neg slash] at hmarkup hmarkup'
      cases hmarkup
      cases hmarkup'
      obtain ⟨es₁, es₂, h₁, h₂, rfl⟩ := (entriesOf_tag_iff (.inl rfl)).mp found
      obtain ⟨es₁', es₂', h₁', h₂', rfl⟩ := (entriesOf_tag_iff (.inl rfl)).mp found'
      rw [events_eq sound sound', h₂] at h₂'
      cases h₂'
      exact .append (known_of_entryOf inert word h₁ h₁') (.refl _)

/-- A text that ends inside of a piece of markup does not begin with one. -/
theorem not_piece {evs : List Event} {opened' : List Text} (h : markup opened s = .error f) :
    ¬ Piece opened s evs opened' rest := fun piece => by
  rw [piece.markup_eq] at h
  cases h

/-- A piece that is no tag ends where it ended before the line was put there. -/
theorem markup_overlooked {evs : List Event} {opened₁ opened₂ : List Text} (inert : d.Inert)
    (word : id.all isWordChar) (h : markup opened s = .error f)
    (all : markup opened (s ++ (tableEnd ++ t)) = .ok ([], opened₁, rest))
    (spliced : markup opened (s ++ (d.line id ++ (tableEnd ++ t))) = .ok (evs, opened₂, rest')) :
    evs = [] ∧ opened₂ = opened₁ ∧ rest' = rest := by
  have begins {c : Char} (hc : c ≠ '\n') (first : (s ++ (tableEnd ++ t)).head? = some c) :
      s.head? = some c := by
    cases s with
    | nil => exact absurd (Option.some.inj first).symm hc
    | cons a s => exact first
  cases piece_of_markup all with
  | declaration first passed =>
      rw [markup_declaration ((head?_line ..).trans first)] at spliced
      cases alone : declaration s with
      | ok after => exact absurd (.declaration (begins (by decide) first) alone) (not_piece h)
      | error f =>
          cases passed' : declaration (s ++ (d.line id ++ (tableEnd ++ t))) with
          | error f =>
              rw [passed'] at spliced
              cases spliced
          | ok after =>
              rw [passed', declaration_line inert word alone passed passed'] at spliced
              cases spliced
              exact ⟨rfl, rfl, rfl⟩
  | instruction first cut long =>
      rw [markup_instruction ((head?_line ..).trans first)] at spliced
      cases alone : cutWhere? endsInstruction [] s with
      | some p =>
          rw [cutWhere?_append, alone] at cut
          cases cut
          exact absurd (.instruction (begins (by decide) first) alone long) (not_piece h)
      | none =>
          split at spliced
          · cases spliced
          · next cut' =>
              split at spliced
              · cases spliced
              · cases spliced
                exact ⟨rfl, rfl, instruction_line inert word alone cut cut'⟩

/-- The closing text ends no end tag, whose name would hold a line feed. -/
theorem not_stop_closing {name : Text} {opened₁ : List Text} (inert : d.Inert)
    (word : id.all isWordChar) (names : Spaceless opened) (h : markup opened s = .error f) :
    ¬ Piece opened (s ++ (tableEnd ++ t)) [.stop name] opened₁ rest := by
  intro piece
  cases piece with
  | @stop _ _ _ content _ first cut name =>
      cases s with
      | nil => cases first
      | cons c s =>
          obtain rfl : c = '/' := Option.some.inj first
          cases alone : cutTag? none ('/' :: s) with
          | some p =>
              rw [cutTag?_append alone] at cut
              cases cut
              exact not_piece h (.stop rfl alone name)
          | none =>
              have feed : ∃ x, content = '/' :: s ++ '\n' :: '<' :: x := by
                rcases cutTag?_spliced inert word alone cut with ⟨rfl, -⟩ | ⟨z, rfl, -⟩
                · exact ⟨_, rfl⟩
                · exact ⟨_, rfl⟩
              obtain ⟨x, rfl⟩ := feed
              rw [← name] at names
              exact absurd List.mem_cons_self
                (names.not_mem rfl (mem_endName (c := '\n') (d := '<') rfl s x))

/-- **A line that is put inside of a piece of markup adds no resource.** -/
theorem known_of_inside (inert : d.Inert) (word : id.all isWordChar) (names : Spaceless opened)
    (h : markup opened s = .error f)
    (sound : (readFrom opened ('<' :: (s ++ (tableEnd ++ t)))).fault? = none)
    (sound' : (readFrom opened ('<' :: (s ++ (d.line id ++ (tableEnd ++ t))))).fault? = none)
    (found : entriesOf (readFrom opened ('<' :: (s ++ (tableEnd ++ t)))).events = .ok es)
    (found' : entriesOf (readFrom opened ('<' :: (s ++ (d.line id ++ (tableEnd ++ t))))).events =
      .ok es') : Known es es' := by
  obtain ⟨evs, opened₁, rest, all, reading⟩ := exists_markup sound
  have tag {c : Char} {content : Text} (hbang : c ≠ '!') (hquestion : c ≠ '?') (hslash : c ≠ '/')
      (first : (s ++ (tableEnd ++ t)).head? = some c)
      (cut : cutTag? none (s ++ (tableEnd ++ t)) = some (content, rest)) : Known es es' := by
    refine known_of_tag inert word hbang hquestion hslash first ?_ cut sound sound' found found'
    cases s with
    | nil => rfl
    | cons a s =>
        obtain rfl : a = c := Option.some.inj first
        cases alone : cutTag? none (a :: s) with
        | none => rfl
        | some p =>
            by_cases slash : p.1.getLast? = some '/'
            · exact absurd (.empty hbang hquestion hslash rfl alone slash) (not_piece h)
            · exact absurd (.start hbang hquestion hslash rfl alone slash) (not_piece h)
  have overlooked (all : markup opened (s ++ (tableEnd ++ t)) = .ok ([], opened₁, rest))
      (reading : readFrom opened ('<' :: (s ++ (tableEnd ++ t))) =
        (readFrom opened₁ rest).prepend []) : Known es es' := by
    obtain ⟨evs', opened₂, rest', spliced, reading'⟩ := exists_markup sound'
    obtain ⟨rfl, rfl, rfl⟩ := markup_overlooked inert word h all spliced
    rw [reading, ← reading', found'] at found
    cases found
    exact .refl _
  cases piece_of_markup all with
  | declaration first passed => exact overlooked all reading
  | instruction first cut long => exact overlooked all reading
  | stop first cut name =>
      exact absurd (.stop first cut name) (not_stop_closing inert word names h)
  | empty hbang hquestion hslash first cut slash => exact tag hbang hquestion hslash first cut
  | start hbang hquestion hslash first cut slash => exact tag hbang hquestion hslash first cut

end Inside

end PatchTrail.Resource
