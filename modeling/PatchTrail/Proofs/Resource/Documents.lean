import PatchTrail.Proofs.Markup.Document
import PatchTrail.Proofs.Resource.Tables

/-!
# Tables as they may be written

A table is a document, and its tags named `public` show resources (`Shows`). A resource is shown
with its attributes in any order and among others, in a tag of its own or by the tags of an element,
and between whatever else a document may hold. All of this makes no difference: exactly the
resources that a document shows are read from it, in order (`entries_document_iff`).
-/

namespace PatchTrail.Resource

open Markup

variable {tag : Tag} {content inside : Content} {es es' es'' : List Entry} {key value : Text}
  {e : Entry}

/-! ## What a document shows -/

/-- A tag says a text under a key: by its attribute with the key, or the empty text if it has
none. -/
inductive Says (tag : Tag) (key : Text) : Text → Prop where
  | shown {a : Shown} (ha : a ∈ tag.attributes) (hkey : a.key = key) : Says tag key a.value
  | missing (h : ∀ a ∈ tag.attributes, a.key ≠ key) : Says tag key []

/-- A tag named `public` shows the resource that it says, and other tags show none. -/
inductive TagShows (tag : Tag) : List Entry → Prop where
  | entry {e : Entry} (named : tag.name = entryTag) (kind : Says tag "type" e.kind)
      (name : Says tag "name" e.name) (id : Says tag "id" e.id) : TagShows tag [e]
  | other (named : tag.name ≠ entryTag) : TagShows tag []

/-- A document shows resources by its tags, in order. -/
inductive Shows : Content → List Entry → Prop where
  | nil : Shows .nil []
  | aside {a : Aside} {rest : Content} {es : List Entry} (more : Shows rest es) :
      Shows (.aside a rest) es
  | empty {tag : Tag} {rest : Content} {es es' : List Entry} (first : TagShows tag es)
      (more : Shows rest es') : Shows (.empty tag rest) (es ++ es')
  | element {tag : Tag} {inside rest : Content} {space : Text}
      {blank : ∀ c ∈ space, isSpace c = true} {es es' es'' : List Entry} (first : TagShows tag es)
      (within : Shows inside es') (more : Shows rest es'') :
      Shows (.element tag inside space blank rest) (es ++ (es' ++ es''))

/-! ## Every document shows something -/

theorem exists_says (tag : Tag) (key : Text) : ∃ value, Says tag key value := by
  by_cases h : ∃ a ∈ tag.attributes, a.key = key
  · obtain ⟨a, ha, hkey⟩ := h
    exact ⟨a.value, .shown ha hkey⟩
  · exact ⟨[], .missing fun a ha hkey => h ⟨a, ha, hkey⟩⟩

theorem exists_tagShows (tag : Tag) : ∃ es, TagShows tag es := by
  by_cases named : tag.name = entryTag
  · obtain ⟨kind, hkind⟩ := exists_says tag "type"
    obtain ⟨name, hname⟩ := exists_says tag "name"
    obtain ⟨id, hid⟩ := exists_says tag "id"
    exact ⟨[⟨kind, name, id⟩], .entry named hkind hname hid⟩
  · exact ⟨[], .other named⟩

theorem exists_shows (content : Content) : ∃ es, Shows content es := by
  induction content with
  | nil => exact ⟨[], .nil⟩
  | aside a rest ih =>
      obtain ⟨es, more⟩ := ih
      exact ⟨es, .aside more⟩
  | empty tag rest ih =>
      obtain ⟨es, more⟩ := ih
      obtain ⟨shown, first⟩ := exists_tagShows tag
      exact ⟨_, .empty first more⟩
  | element tag inside space blank rest ihInside ihRest =>
      obtain ⟨es', within⟩ := ihInside
      obtain ⟨es'', more⟩ := ihRest
      obtain ⟨shown, first⟩ := exists_tagShows tag
      exact ⟨_, .element first within more⟩

/-! ## What is read -/

/-- Among attributes with different keys the one with a key is found. -/
theorem find?_shown {attributes : List Shown} {a : Shown}
    (distinct : (attributes.map (·.key)).Nodup) (ha : a ∈ attributes) :
    (attributes.map fun a => (⟨a.key, a.value⟩ : Attribute)).find? (·.key == a.key) =
      some ⟨a.key, a.value⟩ := by
  induction attributes with
  | nil => cases ha
  | cons b attributes ih =>
      obtain ⟨new, distinct⟩ := List.nodup_cons.mp distinct
      rw [List.map_cons]
      rcases List.mem_cons.mp ha with rfl | ha
      · exact List.find?_cons_of_pos (by simp)
      · have other : b.key ≠ a.key := by
          intro heq
          exact new (List.mem_map.mpr ⟨a, ha, heq.symm⟩)
        rw [List.find?_cons_of_neg (by simpa using other)]
        exact ih distinct ha

theorem Says.valueOf_eq (h : Says tag key value) : valueOf key tag.values = value := by
  unfold valueOf Tag.values
  cases h with
  | shown ha hkey =>
      subst hkey
      rw [find?_shown tag.distinct ha]
      rfl
  | missing h =>
      have absent : (tag.attributes.map fun a => (⟨a.key, a.value⟩ : Attribute)).find?
          (·.key == key) = none := by
        rw [List.find?_eq_none]
        intro a ha
        obtain ⟨b, hb, rfl⟩ := List.mem_map.mp ha
        simpa using h b hb
      rw [absent]
      rfl

/-- What a tag shows is read from it. -/
theorem TagShows.entryOf_eq (h : TagShows tag es) : entryOf tag.inside = .ok es := by
  unfold entryOf
  rw [tag.tagName_inside]
  cases h with
  | other named => exact if_neg named
  | @entry e named kind name id =>
      have behind : tag.inside.drop entryTag.length = shownBefore tag.attributes tag.space := by
        unfold Tag.inside
        rw [named]
        exact List.drop_left
      have attributes : Markup.attributes tag.inside entryTag.length = .ok tag.values := by
        unfold Markup.attributes
        rw [behind]
        exact tag.reads.attributesFrom_eq rfl _
      rw [if_pos named, attributes]
      change Except.ok [(⟨valueOf "type" tag.values, valueOf "name" tag.values,
        valueOf "id" tag.values⟩ : Entry)] = _
      rw [kind.valueOf_eq, name.valueOf_eq, id.valueOf_eq]

/-- What a document shows is what its tags stand for. -/
theorem Shows.entriesOf_eq (h : Shows content es) : entriesOf content.events = .ok es := by
  induction h with
  | nil => rfl
  | aside more ih => exact ih
  | empty first more ih => exact append_eq_ok_iff.mpr ⟨_, _, first.entryOf_eq, ih, rfl⟩
  | element first within more ihWithin ihMore =>
      refine append_eq_ok_iff.mpr ⟨_, _, first.entryOf_eq, ?_, rfl⟩
      rw [entriesOf_append]
      exact append_eq_ok_iff.mpr ⟨_, _, ihWithin, ihMore, rfl⟩

theorem Shows.entries_eq (h : Shows content es) : entries content.text = .ok es := by
  have reading : Markup.read content.text = ⟨content.events, none⟩ := (content.passes []).read
  rw [entries_eq_ok_iff, reading]
  exact ⟨rfl, h.entriesOf_eq⟩

/-- What is read from a document is what it shows. -/
theorem shows_of_entries (read : entries content.text = .ok es) : Shows content es := by
  obtain ⟨es', shown⟩ := exists_shows content
  cases read.symm.trans shown.entries_eq
  exact shown

/-! ## Tables that are printed -/

theorem isName_of_word {name : Text} (full : name ≠ []) (word : name.all isNameChar) :
    IsName name :=
  ⟨full, List.all_eq_true.mp word⟩

/-- An attribute as it is printed. -/
def printedAttribute (key value : Text) (named : IsName key) : Shown where
  lead := [' ']
  key := key
  left := []
  right := []
  quote := '"'
  raw := escaped value
  value := value
  lead_blank := List.all_eq_true.mp rfl
  key_word := named.isKey
  left_blank := List.forall_mem_nil _
  right_blank := List.forall_mem_nil _
  quote_kind := .inl rfl
  raw_closed := quote_not_mem_escaped value
  apart := List.cons_ne_nil _ _
  named := named
  spells := spells_escaped value

/-- The tag of a resource as it is printed. -/
def printedTag (e : Entry) : Tag where
  name := entryTag
  attributes := [printedAttribute "type" e.kind (isName_of_word (by decide) rfl),
    printedAttribute "name" e.name (isName_of_word (by decide) rfl),
    printedAttribute "id" e.id (isName_of_word (by decide) rfl)]
  space := [' ']
  named := isName_of_word (by decide) rfl
  distinct := show ([("type" : Text), ("name" : Text), ("id" : Text)]).Nodup by decide
  blank := List.all_eq_true.mp rfl

/-- The tag of a table as it is printed. -/
def tableTag : Tag where
  name := "resources"
  attributes := []
  space := []
  named := isName_of_word (by decide) rfl
  distinct := List.nodup_nil
  blank := List.forall_mem_nil _

/-- The lines of a table as they are printed, up to its end. -/
def printedRows : List Entry → Content
  | [] => .aside (.words "\n" (by decide)) .nil
  | e :: es => .aside (.words "\n    " (by decide)) (.empty (printedTag e) (printedRows es))

/-- A table as it is printed. -/
def printedTable (es : List Entry) : Content :=
  .element tableTag (printedRows es) [] (List.forall_mem_nil _)
    (.aside (.words "\n" (by decide)) .nil)

theorem printedAttribute_text (key value : Text) (named : IsName key) (rest : Text) :
    (printedAttribute key value named).text rest = written key (escaped value) rest := by
  rw [Spelling.text_eq]
  rfl

theorem inside_printedTag (e : Entry) : (printedTag e).inside =
    lineTag ⟨[], escaped e.kind, escaped e.name⟩ (escaped e.id) := by
  unfold Tag.inside printedTag lineTag
  simp only [shownBefore, List.foldr_cons, List.foldr_nil, printedAttribute_text]
  rfl

theorem text_printedRows (es : List Entry) : (printedRows es).text =
    (es.flatMap fun e => Definition.line ⟨[], escaped e.kind, escaped e.name⟩ (escaped e.id)) ++
      ['\n'] := by
  induction es with
  | nil => rfl
  | cons e es ih =>
      rw [List.flatMap_cons, line_eq, ← inside_printedTag]
      simp only [printedRows, Content.text, Aside.text, Tag.empty, ih, List.append_assoc,
        List.cons_append]

/-- The document is written as the table is. -/
theorem text_printedTable (es : List Entry) : (printedTable es).text = printed es := by
  have start : tableTag.start = ("<resources>" : Text) := by decide
  have stop : ['\n'] ++ tableTag.stop [] = Definition.tableEnd := by decide
  unfold printed printedLines
  rw [← start, ← stop]
  simp only [printedTable, Content.text, Aside.text, text_printedRows, List.append_assoc,
    List.append_nil]

theorem shows_printedRows (es : List Entry) : Shows (printedRows es) es := by
  induction es with
  | nil => exact .aside .nil
  | cons e es ih =>
      have shown (a : Shown) (ha : a ∈ (printedTag e).attributes) :
          Says (printedTag e) a.key a.value := .shown ha rfl
      have first : TagShows (printedTag e) [e] :=
        .entry rfl (shown _ List.mem_cons_self)
          (shown _ (List.mem_cons_of_mem _ List.mem_cons_self))
          (shown _ (List.mem_cons_of_mem _ (List.mem_cons_of_mem _ List.mem_cons_self)))
      exact .aside (.empty first ih)

/-- The table of some entries is a document that shows them. -/
theorem shows_printedTable (es : List Entry) : Shows (printedTable es) es := by
  have root : TagShows tableTag [] := .other (by decide)
  have shown : Shows (printedTable es) ([] ++ (es ++ [])) :=
    .element root (shows_printedRows es) (.aside .nil)
  rwa [List.append_nil] at shown

/-- **Exactly the resources that a document shows are read from it**, in order, however the document
is written; and any resources are shown by their table. -/
theorem entries_document_iff :
    (∀ (content : Content) (es : List Entry),
      entries content.text = .ok es ↔ Shows content es) ∧
    ∀ es, Shows (printedTable es) es ∧ (printedTable es).text = printed es :=
  ⟨fun _ _ => ⟨shows_of_entries, Shows.entries_eq⟩,
    fun es => ⟨shows_printedTable es, text_printedTable es⟩⟩

end PatchTrail.Resource
