import PatchTrail.Proofs.Markup.Attributes
import PatchTrail.Proofs.Markup.Passing
import PatchTrail.Proofs.Markup.References
import PatchTrail.Proofs.Text.Pieces

/-!
# Documents as they may be written

A document is made of tags and of what stands beside them: text, comments, plain data and
instructions (`Content`). A tag may have its attributes in any order, with quotes of either kind,
with blanks as one likes, and with characters of their values written as references or not (`Tag`).
However a document is written, it is read as its tags, in order (`Content.passes`).
-/

namespace PatchTrail.Markup

variable {s t key rest : Text} {holds : Text → Bool} {opened : List Text} {c : Char}

/-! ## Names and attributes -/

/-- Whether a character may stand in a name: it means nothing between the brackets of a tag. -/
def isNameChar (c : Char) : Bool := isPlain c && !endsKey c && c != '/' && c != '!' && c != '?'

/-- A name of a tag or of an attribute. -/
structure IsName (name : Text) : Prop where
  full : name ≠ []
  chars : ∀ c ∈ name, isNameChar c = true

/-- An attribute as a tag may show it: it stands behind blanks, its key is a name, and what stands
between its quotes is a way to write its value. -/
structure Shown extends Spelling where
  value : Text
  apart : lead ≠ []
  named : IsName key
  spells : Spells value raw

/-- A tag as a document may show it. -/
structure Tag where
  name : Text
  attributes : List Shown
  space : Text
  named : IsName name
  distinct : (attributes.map (·.key)).Nodup
  blank : ∀ c ∈ space, isSpace c = true

/-- Attributes in front of a text. -/
def shownBefore (attributes : List Shown) (rest : Text) : Text :=
  attributes.foldr (fun a rest => a.text rest) rest

/-- What stands between the brackets of a tag. -/
def Tag.inside (tag : Tag) : Text := tag.name ++ shownBefore tag.attributes tag.space

/-- A tag that opens an element. -/
def Tag.start (tag : Tag) : Text := '<' :: (tag.inside ++ ['>'])

/-- A tag that is an element of its own. -/
def Tag.empty (tag : Tag) : Text := '<' :: (tag.inside ++ ['/', '>'])

/-- The tag that closes an element, with blanks behind the name. -/
def Tag.stop (tag : Tag) (space : Text) : Text := '<' :: '/' :: (tag.name ++ (space ++ ['>']))

/-! ## Where a tag ends -/

theorem isSpace_of_isNameChar (h : isNameChar c = true) : isSpace c = false := by
  simp only [isNameChar, endsKey, Bool.and_eq_true, Bool.not_eq_true', Bool.or_eq_false_iff] at h
  exact h.1.1.1.2.2

theorem isPlain_of_isNameChar (h : isNameChar c = true) : isPlain c = true := by
  simp only [isNameChar, Bool.and_eq_true] at h
  exact h.1.1.1.1

theorem isPlain_of_isSpace (h : isSpace c = true) : isPlain c = true := by
  simp only [isSpace, Bool.or_eq_true, decide_eq_true_eq] at h
  rcases h with ((rfl | rfl) | rfl) | rfl <;> rfl

theorem all_isPlain_of_blank (h : ∀ c ∈ s, isSpace c = true) : s.all isPlain :=
  List.all_eq_true.mpr fun c hc => isPlain_of_isSpace (h c hc)

theorem IsName.all_isPlain (h : IsName s) : s.all isPlain :=
  List.all_eq_true.mpr fun c hc => isPlain_of_isNameChar (h.chars c hc)

theorem IsName.not_isSpace (h : IsName s) : ∀ c ∈ s, isSpace c = false :=
  fun c hc => isSpace_of_isNameChar (h.chars c hc)

theorem IsName.isKey (h : IsName s) : IsKey s := by
  have word (c : Char) (hc : c ∈ s) : endsKey c = false := by
    have chars := h.chars c hc
    simp only [isNameChar, Bool.and_eq_true, Bool.not_eq_true'] at chars
    exact chars.1.1.1.2
  exact ⟨h.full, fun c hc => h.not_isSpace c (List.mem_of_mem_head? hc),
    fun c hc => word c (List.mem_of_mem_tail hc)⟩

/-- The bracket that closes a tag is found behind an attribute. -/
theorem Shown.cutTag?_text (a : Shown) (rest : Text) :
    cutTag? none (a.text rest) = (cutTag? none rest).map (prependFirst (a.text [])) := by
  have equals : (['='] : Text).all isPlain := rfl
  have plain : (a.lead ++ (a.key ++ (a.left ++ (['='] ++ a.right)))).all isPlain := by
    simp only [List.all_append, Bool.and_eq_true]
    exact ⟨all_isPlain_of_blank a.lead_blank, a.named.all_isPlain,
      all_isPlain_of_blank a.left_blank, equals, all_isPlain_of_blank a.right_blank⟩
  have split (rest : Text) : a.text rest = (a.lead ++ (a.key ++ (a.left ++ (['='] ++ a.right)))) ++
      a.quote :: (a.raw ++ a.quote :: rest) := by
    simp [a.text_eq]
  rw [split, cutTag?_pair plain a.quote_kind a.raw_closed, split]

theorem shownBefore_append (attributes : List Shown) (s t : Text) :
    shownBefore attributes s ++ t = shownBefore attributes (s ++ t) := by
  induction attributes with
  | nil => rfl
  | cons a attributes ih =>
      simp only [shownBefore, List.foldr_cons, Spelling.text, List.append_assoc,
        List.cons_append] at ih ⊢
      rw [ih]

theorem cutTag?_shownBefore (attributes : List Shown) (rest : Text) :
    cutTag? none (shownBefore attributes rest) =
      (cutTag? none rest).map (prependFirst (shownBefore attributes [])) := by
  induction attributes with
  | nil => exact (Option.map_id_apply ..).symm
  | cons a attributes ih =>
      have split (rest : Text) : shownBefore (a :: attributes) rest =
          a.text (shownBefore attributes rest) := rfl
      have whole : a.text (shownBefore attributes []) = a.text [] ++ shownBefore attributes [] := by
        simp [Spelling.text]
      rw [split, a.cutTag?_text, ih, Option.map_map, prependFirst_comp, split, whole]

/-- The bracket that closes a tag is found behind what stands between its brackets. -/
theorem Tag.cutTag?_inside (tag : Tag) (rest : Text) :
    cutTag? none (tag.inside ++ rest) = (cutTag? none rest).map (prependFirst tag.inside) := by
  have blank := all_isPlain_of_blank tag.blank
  have behind : shownBefore tag.attributes tag.space =
      shownBefore tag.attributes [] ++ tag.space := by
    rw [shownBefore_append, List.nil_append]
  unfold Tag.inside
  rw [List.append_assoc, cutTag?_plain tag.named.all_isPlain, shownBefore_append,
    cutTag?_shownBefore, cutTag?_plain blank, Option.map_map, Option.map_map, prependFirst_comp,
    prependFirst_comp, behind, List.append_assoc]

/-! ## What a tag has -/

/-- The attributes of a tag, as they are read. -/
def Tag.values (tag : Tag) : List Attribute := tag.attributes.map fun a => ⟨a.key, a.value⟩

theorem reads_shownBefore {keys : List Text} {attributes : List Shown}
    (distinct : (keys ++ attributes.map (·.key)).Nodup) (blank : ∀ c ∈ s, isSpace c = true) :
    Reads keys (shownBefore attributes s) (attributes.map fun a => ⟨a.key, a.value⟩) := by
  induction attributes generalizing keys with
  | nil => exact .done blank
  | cons a attributes ih =>
      have later : (keys ++ [a.key] ++ attributes.map (·.key)).Nodup := by
        rw [List.append_assoc]
        exact distinct
      have new : a.key ∉ keys := fun hmem =>
        (List.nodup_append.mp distinct).2.2 _ hmem _ List.mem_cons_self rfl
      exact .next a.toSpelling a.spells.unescape_eq new (ih later)

/-- The attributes that a tag shows are read, whatever their order. -/
theorem Tag.reads (tag : Tag) : Reads [] (shownBefore tag.attributes tag.space) tag.values :=
  reads_shownBefore tag.distinct tag.blank

/-- What stands behind the name of a tag begins with a blank, if it is not empty. -/
theorem Tag.head?_shown (tag : Tag) :
    ∀ c ∈ (shownBefore tag.attributes tag.space).head?, isSpace c = true := by
  cases tag.attributes with
  | nil => exact fun c hc => tag.blank c (List.mem_of_mem_head? hc)
  | cons a attributes =>
      intro c hc
      obtain ⟨d, lead, hlead⟩ := List.exists_cons_of_ne_nil a.apart
      have first : (shownBefore (a :: attributes) tag.space).head? = some d := by
        simp only [shownBefore, List.foldr_cons, a.text_eq, hlead]
        rfl
      rw [first] at hc
      cases hc
      exact a.lead_blank _ (hlead ▸ List.mem_cons_self)

theorem Tag.tagName_inside (tag : Tag) : tagName tag.inside = tag.name := by
  have word : ∀ c ∈ tag.name, (!isSpace c) = true := fun c hc => by
    rw [tag.named.not_isSpace c hc]
    rfl
  have behind : (shownBefore tag.attributes tag.space).takeWhile (!isSpace ·) = [] := by
    have first := tag.head?_shown
    cases hshown : shownBefore tag.attributes tag.space with
    | nil => rfl
    | cons c rest =>
        rw [hshown] at first
        exact List.takeWhile_cons_of_neg (by rw [first c rfl]; decide)
  unfold tagName Tag.inside
  rw [List.takeWhile_append_of_pos word, behind, List.append_nil]

theorem IsName.not_mem (h : IsName s) (hc : isNameChar c = false) : c ∉ s := fun hmem => by
  rw [h.chars c hmem] at hc
  cases hc

/-- What stands between the brackets of a tag does not end with a slash. -/
theorem Tag.getLast?_inside (tag : Tag) : tag.inside.getLast? ≠ some '/' := by
  intro last
  unfold Tag.inside at last
  by_cases empty : shownBefore tag.attributes tag.space = []
  · rw [empty, List.append_nil] at last
    exact tag.named.not_mem rfl (List.mem_of_getLast? last)
  · rw [List.getLast?_append_of_ne_nil _ empty] at last
    rcases tag.reads.last _ last with blank | quote | quote
    · cases blank
    · cases quote
    · cases quote

/-- A tag begins with a letter of its name. -/
theorem Tag.head?_inside (tag : Tag) (rest : Text) :
    ∃ c, (tag.inside ++ rest).head? = some c ∧ c ≠ '!' ∧ c ≠ '?' ∧ c ≠ '/' := by
  obtain ⟨c, name, hname⟩ := List.exists_cons_of_ne_nil tag.named.full
  have other {d : Char} (hd : isNameChar d = false) : c ≠ d := fun heq =>
    tag.named.not_mem hd (heq ▸ hname ▸ List.mem_cons_self)
  refine ⟨c, ?_, other rfl, other rfl, other rfl⟩
  unfold Tag.inside
  rw [hname]
  rfl

/-! ## Tags are passed over -/

theorem Passes.nil (opened : List Text) : Passes opened [] [] opened :=
  .of_not_mem List.not_mem_nil opened

theorem Tag.passes_start (tag : Tag) (opened : List Text) :
    Passes opened tag.start [.start tag.inside] (tag.name :: opened) := by
  obtain ⟨c, first, hbang, hquestion, hslash⟩ := tag.head?_inside ['>']
  have piece : markup opened (tag.inside ++ ['>']) =
      .ok ([.start tag.inside], tag.name :: opened, []) := by
    have ends : cutTag? none ['>'] = some ([], []) := rfl
    rw [markup_tag hbang hquestion hslash first, tag.cutTag?_inside, ends]
    simp only [Option.map_some, prependFirst, List.append_nil]
    rw [if_neg tag.getLast?_inside, tag.tagName_inside]
  exact .of_markup piece (.nil _)

theorem Tag.passes_empty (tag : Tag) (opened : List Text) :
    Passes opened tag.empty [.empty tag.inside] opened := by
  obtain ⟨c, first, hbang, hquestion, hslash⟩ := tag.head?_inside ['/', '>']
  have piece : markup opened (tag.inside ++ ['/', '>']) =
      .ok ([.empty tag.inside], opened, []) := by
    have ends : cutTag? none ['/', '>'] = some (['/'], []) := by decide
    rw [markup_tag hbang hquestion hslash first, tag.cutTag?_inside, ends]
    simp only [Option.map_some, prependFirst]
    rw [List.getLast?_concat, if_pos rfl, List.dropLast_concat]
  exact .of_markup piece (.nil _)

theorem endName_of_blank (word : IsName s) (blank : ∀ c ∈ t, isSpace c = true) :
    endName (s ++ t) = s := by
  have last : ∀ c ∈ s.getLast?, isSpace c = false := fun c hc =>
    word.not_isSpace c (List.mem_of_getLast? hc)
  obtain ⟨c, more, rfl⟩ := List.exists_cons_of_ne_nil word.full
  have some : ¬ (c :: more ++ t).all isSpace := fun all => by
    have first := List.all_eq_true.mp all c List.mem_cons_self
    rw [word.not_isSpace c List.mem_cons_self] at first
    cases first
  unfold endName
  rw [if_neg some, Text.dropEndWhile_append last blank]

theorem Tag.passes_stop (tag : Tag) (blank : ∀ c ∈ s, isSpace c = true) (opened : List Text) :
    Passes (tag.name :: opened) (tag.stop s) [.stop tag.name] opened := by
  have piece : markup (tag.name :: opened) ('/' :: (tag.name ++ (s ++ ['>']))) =
      .ok ([.stop tag.name], opened, []) := by
    have plain : ('/' :: (tag.name ++ s)).all isPlain := by
      simp only [List.all_cons, List.all_append, Bool.and_eq_true]
      exact ⟨rfl, tag.named.all_isPlain, all_isPlain_of_blank blank⟩
    have split : '/' :: (tag.name ++ (s ++ ['>'])) = '/' :: (tag.name ++ s) ++ ['>'] := by simp
    have ends : cutTag? none ['>'] = some ([], []) := rfl
    rw [split, markup_stop rfl, cutTag?_plain plain, ends]
    simp only [Option.map_some, prependFirst, List.append_nil]
    exact if_pos (endName_of_blank tag.named blank)
  exact .of_markup piece (.nil _)

/-! ## What stands beside the tags -/

/-- What a document may show beside its tags: text, and comments, plain data and instructions that
are not ended before their ends. -/
inductive Aside where
  | words (t : Text) (plain : '<' ∉ t)
  | comment (t : Text) (proper : ¬ ("-->" : Text) <:+: t)
  | data (t : Text) (proper : ¬ ("]]>" : Text) <:+: t)
  | instruction (t : Text) (proper : ¬ ("?>" : Text) <:+: '?' :: t)

/-- How it is written. -/
def Aside.text : Aside → Text
  | words t _ => t
  | comment t _ => '<' :: ("!--" ++ t ++ "--" ++ ['>'])
  | data t _ => '<' :: ("![CDATA[" ++ t ++ "]]" ++ ['>'])
  | instruction t _ => '<' :: ('?' :: t ++ "?" ++ ['>'])

theorem cutWhere?_first {before : Text} (ends : holds (s.reverse ++ before) = true)
    (earlier : ∀ x y, s = x ++ '>' :: y → holds (x.reverse ++ before) = false) (rest : Text) :
    cutWhere? holds before (s ++ '>' :: rest) = some (before.reverse ++ s, rest) := by
  induction s generalizing before with
  | nil =>
      rw [List.nil_append, cutWhere?, if_pos ⟨rfl, ends⟩, List.append_nil]
  | cons c s ih =>
      have now : ¬ (c = '>' ∧ holds before = true) := by
        rintro ⟨rfl, hholds⟩
        have not : holds before = false := earlier [] s rfl
        rw [not] at hholds
        cases hholds
      have later : ∀ x y, s = x ++ '>' :: y → holds (x.reverse ++ c :: before) = false :=
        fun x y whole => by simpa using earlier (c :: x) y (by rw [whole]; rfl)
      rw [List.cons_append, cutWhere?, if_neg now, ih (by simpa using ends) later]
      simp

/-- A piece of markup that a condition ends is ended by its mark, if the condition holds behind the
mark only and the mark is not there before. -/
theorem cutWhere?_marked {front mark : Text} (hfront : '>' ∉ front) (hmark : '>' ∉ mark)
    (ends : holds (front ++ s ++ mark).reverse = true)
    (only : ∀ x, holds (front ++ x).reverse = true → mark <:+ x)
    (absent : ¬ mark ++ ['>'] <:+: s) (rest : Text) :
    cutWhere? holds [] (front ++ s ++ mark ++ '>' :: rest) = some (front ++ s ++ mark, rest) := by
  refine cutWhere?_first (by rwa [List.append_nil]) (fun x y whole => ?_) rest
  obtain ⟨y', inside, -⟩ := Text.mem_front_of_append hmark whole
  obtain ⟨x', rfl, rfl⟩ := Text.mem_back_of_append hfront inside
  rw [List.append_nil]
  refine Bool.eq_false_iff.mpr fun hholds => ?_
  obtain ⟨x, rfl⟩ := only x' hholds
  exact absent ⟨x, y', by simp⟩

theorem suffix_of_startsWith {m x : Text} (h : Text.startsWith x.reverse m.reverse = true) :
    m <:+ x := by
  unfold Text.startsWith at h
  rwa [List.isPrefixOf_iff_prefix, List.reverse_prefix] at h

theorem startsWith_of_suffix {m x : Text} (h : m <:+ x) :
    Text.startsWith x.reverse m.reverse = true := by
  unfold Text.startsWith
  rwa [List.isPrefixOf_iff_prefix, List.reverse_prefix]

theorem endedBy_eq {fault : Fault} {isProper : Text → Except Fault Unit} {content : Text}
    (cut : cutWhere? holds [] s = some (content, rest)) (proper : isProper content = .ok ()) :
    endedBy holds fault isProper s = .ok rest := by
  unfold endedBy
  rw [cut]
  simp only [proper]

theorem declaration_comment (proper : ¬ ("-->" : Text) <:+: t) :
    declaration ("!--" ++ t ++ "--" ++ ['>']) = .ok [] := by
  have ends : endsComment (("!--" : Text) ++ t ++ "--").reverse = true := by
    have mark := startsWith_of_suffix (List.suffix_append (("!--" : Text) ++ t) "--")
    have long : 4 < ((("!--" : Text) ++ t ++ "--").reverse).length := by
      have three : ("!--" : Text).length = 3 := by decide
      have two : ("--" : Text).length = 2 := by decide
      simp only [List.length_reverse, List.length_append, three, two]
      omega
    unfold endsComment
    rw [decide_eq_true long, Bool.true_and]
    exact mark
  have only : ∀ x, endsComment (("!--" : Text) ++ x).reverse = true → ("--" : Text) <:+ x := by
    intro x h
    obtain ⟨long, mark⟩ := Bool.and_eq_true_iff.mp h
    have three : ("!--" : Text).length = 3 := by decide
    have two : ("--" : Text).length = 2 := by decide
    have long := of_decide_eq_true long
    rw [List.length_reverse, List.length_append, three] at long
    exact List.suffix_of_suffix_length_le (suffix_of_startsWith (m := "--") mark)
      (List.suffix_append _ _) (by omega)
  have cut := cutWhere?_marked (by decide) (by decide) ends only proper []
  exact endedBy_eq cut rfl

theorem declaration_data (proper : ¬ ("]]>" : Text) <:+: t) :
    declaration ("![CDATA[" ++ t ++ "]]" ++ ['>']) = .ok [] := by
  have ends : endsData (("![CDATA[" : Text) ++ t ++ "]]").reverse = true :=
    startsWith_of_suffix (List.suffix_append (("![CDATA[" : Text) ++ t) "]]")
  have only : ∀ x, endsData (("![CDATA[" : Text) ++ x).reverse = true → ("]]" : Text) <:+ x := by
    intro x h
    obtain ⟨w, whole⟩ := suffix_of_startsWith (m := "]]") h
    have absent : ']' ∉ ("![CDATA[" : Text) := by decide
    obtain ⟨x', -, rfl⟩ := Text.mem_back_of_append absent whole.symm
    exact List.suffix_append x' _
  have cut := cutWhere?_marked (by decide) (by decide) ends only proper []
  exact endedBy_eq cut rfl

theorem markup_instruction_text (proper : ¬ ("?>" : Text) <:+: '?' :: t) (opened : List Text) :
    markup opened ('?' :: t ++ "?" ++ ['>']) = .ok ([], opened, []) := by
  have nothing : '>' ∉ ([] : Text) := List.not_mem_nil
  have ends : endsInstruction ([] ++ '?' :: t ++ ['?']).reverse = true :=
    startsWith_of_suffix (m := ['?']) (List.suffix_append _ _)
  have only : ∀ x, endsInstruction ([] ++ x).reverse = true → ['?'] <:+ x :=
    fun x h => suffix_of_startsWith (m := ['?']) h
  have cut := cutWhere?_marked nothing (by decide) ends only proper []
  have whole : '?' :: t ++ ("?" : Text) ++ ['>'] = [] ++ '?' :: t ++ ['?'] ++ '>' :: [] := rfl
  rw [whole, markup_instruction rfl, cut]
  have long : ¬ ([] ++ '?' :: t ++ ['?']).length < 2 := by simp
  exact if_neg long

/-- What stands beside the tags is passed over. -/
theorem Aside.passes (a : Aside) (opened : List Text) : Passes opened a.text [] opened := by
  cases a with
  | words t plain => exact .of_not_mem plain opened
  | comment t proper =>
      have piece : markup opened ("!--" ++ t ++ "--" ++ ['>']) = .ok ([], opened, []) := by
        rw [markup_declaration rfl, declaration_comment proper]
        rfl
      exact .of_markup piece (.nil _)
  | data t proper =>
      have piece : markup opened ("![CDATA[" ++ t ++ "]]" ++ ['>']) = .ok ([], opened, []) := by
        rw [markup_declaration rfl, declaration_data proper]
        rfl
      exact .of_markup piece (.nil _)
  | instruction t proper => exact .of_markup (markup_instruction_text proper opened) (.nil _)

/-! ## Documents -/

/-- What a document may consist of, or an element between its tags. -/
inductive Content where
  | nil
  | aside (a : Aside) (rest : Content)
  | empty (tag : Tag) (rest : Content)
  | element (tag : Tag) (inside : Content) (space : Text) (blank : ∀ c ∈ space, isSpace c = true)
      (rest : Content)

/-- How it is written. -/
def Content.text : Content → Text
  | nil => []
  | aside a rest => a.text ++ rest.text
  | empty tag rest => tag.empty ++ rest.text
  | element tag inside space _ rest => tag.start ++ (inside.text ++ (tag.stop space ++ rest.text))

/-- The tags of a document, in order. -/
def Content.events : Content → List Event
  | nil => []
  | aside _ rest => rest.events
  | empty tag rest => .empty tag.inside :: rest.events
  | element tag inside _ _ rest =>
    .start tag.inside :: (inside.events ++ .stop tag.name :: rest.events)

/-- **A document is read as its tags**, and it closes what it opens. -/
theorem Content.passes (content : Content) (opened : List Text) :
    Passes opened content.text content.events opened := by
  induction content generalizing opened with
  | nil => exact .nil opened
  | aside a rest ih => exact (a.passes opened).append (ih opened)
  | empty tag rest ih => exact (tag.passes_empty opened).append (ih opened)
  | element tag inside space blank rest ihInside ihRest =>
      exact (tag.passes_start opened).append
        ((ihInside _).append ((tag.passes_stop blank opened).append (ihRest opened)))

end PatchTrail.Markup
