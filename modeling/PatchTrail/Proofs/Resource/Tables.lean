import PatchTrail.Proofs.Resource.Closing
import PatchTrail.Proofs.Resource.Line
import PatchTrail.Proofs.Resource.Numbering

/-!
# Tables that grow

A table with a stretch of tags before its end holds the entries of these tags (`Holds`). Putting the
line of a new resource there appends its entry to them, and the table keeps its shape
(`Holds.line`). So any entries can be written as a table and are read back from it
(`entries_printed`), and resources can be allocated one after the other: the entries of the table stay as
they were and in front, each resource that is not among them gets an entry once, and the ids of a
kind count on from the greatest one of the table (`allocateAll_entries`).
-/

namespace PatchTrail.Resource

open Markup
open Definition (tableEnd)

variable {d : Definition} {ds : List Definition} {es es' added : List Entry}
  {text space table : Text} {kind : Text} {id m : Nat}

/-! ## One table -/

theorem entriesOf_append (evs evs' : List Event) :
    entriesOf (evs ++ evs') = do return (← entriesOf evs) ++ (← entriesOf evs') := by
  induction evs with
  | nil =>
      rw [List.nil_append]
      cases entriesOf evs' <;> rfl
  | cons ev evs ih =>
      have tag (content : Text) : (do return (← entryOf content) ++ (← entriesOf (evs ++ evs'))) =
          (do return (← (do return (← entryOf content) ++ (← entriesOf evs))) ++
            (← entriesOf evs')) := by
        rw [ih]
        cases entryOf content with
        | error fault => rfl
        | ok first =>
            cases entriesOf evs with
            | error fault => rfl
            | ok es =>
                cases entriesOf evs' with
                | error fault => rfl
                | ok es' => exact congrArg Except.ok (List.append_assoc first es es').symm
      cases ev with
      | start content => exact tag content
      | empty content => exact tag content
      | stop name => exact ih

/-- End tags stand for no resource. -/
theorem entriesOf_stop (evs : List Event) (name : Text) :
    entriesOf (evs ++ [.stop name]) = entriesOf evs := by
  rw [entriesOf_append]
  cases entriesOf evs with
  | error fault => rfl
  | ok es => exact congrArg Except.ok (List.append_nil es)

/-- A table can be read if its markup can be read and each of its tags. -/
theorem entries_eq_ok_iff : entries table = .ok es ↔
    (Markup.read table).fault? = none ∧ entriesOf (Markup.read table).events = .ok es := by
  unfold entries
  simp only
  rw [bind_eq_ok_iff]
  cases (Markup.read table).fault? with
  | none =>
      rw [and_iff_right rfl]
      constructor
      · rintro ⟨found, hfound, h⟩
        cases h
        exact hfound
      · exact fun h => ⟨es, h, rfl⟩
  | some fault =>
      refine iff_of_false ?_ (fun h => nomatch h.1)
      rintro ⟨found, -, h⟩
      cases h

/-- The entries of a table that is read as some tags and then the rest. -/
theorem entries_of_prepend {evs : List Event} {r : Reading}
    (h : Markup.read table = r.prepend evs) : entries table = .ok es ↔
      r.fault? = none ∧ ∃ es₁ es₂, entriesOf evs = .ok es₁ ∧ entriesOf r.events = .ok es₂ ∧
        es = es₁ ++ es₂ := by
  rw [entries_eq_ok_iff, h]
  refine and_congr_right fun _ => ?_
  rw [← append_eq_ok_iff, ← entriesOf_append]
  rfl

/-- What stands before the end of a table is a stretch of its own with these entries, and the table
is open behind it. -/
def Holds (text : Text) (es : List Entry) : Prop :=
  ∃ evs outer, Passes [] text evs ("resources" :: outer) ∧ entriesOf evs = .ok es

theorem read_of_passes {evs : List Event} {outer : List Text} (plain : Plain space)
    (pass : Passes [] text evs ("resources" :: outer)) :
    Markup.read (text ++ (tableEnd ++ space)) = ⟨evs ++ [.stop "resources"], none⟩ := by
  unfold Markup.read
  rw [pass, readFrom_closed plain]
  rfl

/-- A table with such a stretch has the entries of the stretch. -/
theorem Holds.entries (h : Holds text es) (plain : Plain space) :
    entries (text ++ (tableEnd ++ space)) = .ok es := by
  obtain ⟨evs, outer, pass, hes⟩ := h
  rw [entries_eq_ok_iff, read_of_passes plain pass, entriesOf_stop]
  exact ⟨rfl, hes⟩

/-- A table that can be read and whose last tag is the end tag at its end has such a stretch. -/
theorem Holds.of_entries (plain : Plain space)
    (read : Resource.entries (text ++ (tableEnd ++ space)) = .ok es)
    (closed : (Markup.read (text ++ (tableEnd ++ space))).events.getLast? =
      some (.stop "resources")) : Holds text es := by
  obtain ⟨sound, hes⟩ := entries_eq_ok_iff.mp read
  obtain ⟨evs, outer, pass⟩ := passes_of_closed plain sound closed
  rw [read_of_passes plain pass, entriesOf_stop] at hes
  exact ⟨evs, outer, pass, hes⟩

theorem Holds.closed (h : Holds text es) (plain : Plain space) :
    (Markup.read (text ++ (tableEnd ++ space))).events.getLast? = some (.stop "resources") := by
  obtain ⟨evs, outer, pass, -⟩ := h
  rw [read_of_passes plain pass]
  exact List.getLast?_concat

/-- A line whose values hold no quotes adds the entry with what they stand for. -/
theorem Holds.values {written : Text} {e : Entry} (h : Holds text es) (hkind : '"' ∉ d.kind)
    (hname : '"' ∉ d.name) (hid : '"' ∉ written) (kind : unescape d.kind = .ok e.kind)
    (name : unescape d.name = .ok e.name) (id : unescape written = .ok e.id) :
    Holds (text ++ d.line written) (es ++ [e]) := by
  obtain ⟨evs, outer, pass, hes⟩ := h
  refine ⟨_, outer, pass.append (passes_line hkind hname hid _), ?_⟩
  rw [entriesOf_append, hes]
  simp only [entriesOf, entryOf_lineTag hkind hname hid, kind, name, id]
  rfl

/-- The line of a resource adds its entry behind the others. -/
theorem Holds.line {written : Text} (h : Holds text es) (hkind : d.kind.all isWordChar)
    (hname : d.name.all isWordChar) (hid : written.all isWordChar) :
    Holds (text ++ d.line written) (es ++ [⟨d.kind, d.name, written⟩]) :=
  h.values (not_mem_of_word hkind (by decide)) (not_mem_of_word hname (by decide))
    (not_mem_of_word hid (by decide)) (unescape_plain (not_mem_of_word hkind (by decide)))
    (unescape_plain (not_mem_of_word hname (by decide)))
    (unescape_plain (not_mem_of_word hid (by decide)))

/-- A table begins with its start tag, which stands for no resource. -/
theorem holds_start : Holds "<resources>" [] :=
  ⟨_, [], Passes.of_markup
    (rfl : markup [] "resources>" = .ok ([.start "resources"], ["resources"], []))
    (Passes.of_not_mem List.not_mem_nil _), rfl⟩

/-- The last line that begins with the end of a table is the one at its end. -/
theorem cutLast?_tableEnd (h : '<' ∉ space) (text : Text) :
    Text.cutLast? tableEnd (text ++ (tableEnd ++ space)) = some (text, space) := by
  refine Text.cutLast?_append_pair (by decide) (fun hmem => ?_) text
  rcases List.mem_append.mp hmem with hmem | hmem
  · exact absurd hmem (by decide)
  · exact h hmem

/-! ## One resource -/

/-- A resource that is there already changes nothing. -/
theorem allocate_defined (legible : Legible es) (h : entries table = .ok es)
    (there : d.key ∈ es.map Entry.key) : d.allocate table = .ok none :=
  allocate_eq_none_iff.mpr
    ⟨es, h, standing_eq_defined_iff.mp (standing_defined legible there none)⟩

/-- A new resource gets the id behind the greatest one of its kind, if there is room. -/
theorem allocate_new (h : Holds text es) (plain : Plain space) (legible : Legible es)
    (new : d.key ∉ es.map Entry.key) (greatest : greatest? d.kind es = some id)
    (room : id + 1 < idBound) :
    d.allocate (text ++ (tableEnd ++ space)) =
      .ok (some (text ++ d.line (renderId (id + 1)) ++ (tableEnd ++ space),
        renderId (id + 1))) :=
  allocate_eq_some_iff.mpr ⟨es, id, text, space, h.entries plain, new, legible.of d.kind, greatest,
    room, Text.cutLast?_eq_some_iff.mp (cutLast?_tableEnd plain.1 text), rfl,
    (List.append_assoc _ _ _).symm⟩

/-! ## Tables of given entries -/

/-- The lines of some entries, behind the start tag of a table. -/
def printedLines (es : List Entry) : Text :=
  "<resources>" ++ es.flatMap fun e =>
    Definition.line ⟨[], escaped e.kind, escaped e.name⟩ (escaped e.id)

/-- A table of some entries. -/
def printed (es : List Entry) : Text := printedLines es ++ (tableEnd ++ "\n")

theorem plain_feed : Plain "\n" := Plain.of_isBlank (by decide)

theorem holds_printedLines (es : List Entry) : Holds (printedLines es) es := by
  induction es using List.reverseRecOn with
  | nil => exact holds_start
  | append_singleton es e ih =>
      have last : printedLines (es ++ [e]) = printedLines es ++
          Definition.line ⟨[], escaped e.kind, escaped e.name⟩ (escaped e.id) := by
        unfold printedLines
        rw [List.flatMap_append, List.flatMap_singleton, List.append_assoc]
      rw [last]
      exact ih.values (quote_not_mem_escaped _) (quote_not_mem_escaped _)
        (quote_not_mem_escaped _) (unescape_escaped _) (unescape_escaped _) (unescape_escaped _)

/-- **Any entries are read back from their table.** -/
theorem entries_printed (es : List Entry) : entries (printed es) = .ok es :=
  (holds_printedLines es).entries plain_feed

/-- A new resource gets the id behind the greatest one of its kind in a table of entries. -/
theorem allocate_printed (legible : Legible es) (new : d.key ∉ es.map Entry.key)
    (greatest : greatest? d.kind es = some m) (room : m + 1 < idBound) :
    ∃ out, d.allocate (printed es) = .ok (some (out, renderId (m + 1))) :=
  ⟨_, allocate_new (holds_printedLines es) plain_feed legible new greatest room⟩

/-! ## One resource after the other -/

/-- Allocates resources one after the other, each in the table that the one before it left. -/
def allocateAll : List Definition → Text → Except Error Text
  | [], table => .ok table
  | d :: ds, table =>
    match d.allocate table with
    | .error e => .error e
    | .ok none => allocateAll ds table
    | .ok (some (next, _)) => allocateAll ds next

theorem allocateAll_append {last : Text} (h : allocateAll ds table = .ok last)
    (ds' : List Definition) : allocateAll (ds ++ ds') table = allocateAll ds' last := by
  induction ds generalizing table with
  | nil =>
      cases h
      rfl
  | cons d ds ih =>
      rw [List.cons_append]
      rw [allocateAll] at h ⊢
      split at h
      · cases h
      · exact ih h
      · exact ih h

theorem allocateAll_singleton_of_none (h : d.allocate table = .ok none) :
    allocateAll [d] table = .ok table := by
  rw [allocateAll, h, allocateAll]

theorem allocateAll_singleton_of_some {next id : Text}
    (h : d.allocate table = .ok (some (next, id))) : allocateAll [d] table = .ok next := by
  rw [allocateAll, h]
  rfl

/-- The ids of each kind, counted on for the resources that are new, stay below the bound. -/
def HasRoom (es : List Entry) (ds : List Definition) : Prop :=
  ∀ d ∈ ds, ∀ id, greatest? d.kind es = some id →
    id + (fresh es ds).countP (·.1 = d.kind) < idBound

theorem HasRoom.init (h : HasRoom es (ds ++ [d])) : HasRoom es ds := by
  intro d' hd' id hid
  have room := h d' (List.mem_append_left _ hd') id hid
  by_cases hmem : d.key ∈ es.map Entry.key ∨ d.key ∈ ds.map Definition.key
  · rwa [fresh_concat_of_mem hmem] at room
  · obtain ⟨hes, hds⟩ := not_or.mp hmem
    rw [fresh_concat_of_not_mem hes hds, List.countP_append] at room
    omega

theorem HasRoom.of_append {ds' : List Definition} (h : HasRoom es (ds ++ ds')) :
    HasRoom es ds := by
  induction ds' using List.reverseRecOn with
  | nil => rwa [List.append_nil] at h
  | append_singleton ds' d ih =>
      rw [← List.append_assoc] at h
      exact ih h.init

/-- What allocating resources makes of a table: its stretch of tags has grown, and what has been
added to its entries are the new resources with ids that count on. -/
structure Grown (es : List Entry) (space : Text) (ds : List Definition) (last : Text)
    (added : List Entry) : Prop where
  shape : ∃ text, last = text ++ (tableEnd ++ space) ∧ Holds text (es ++ added)
  keys : added.map Entry.key = fresh es ds
  counts : CountsOn es added

theorem Grown.count (h : Grown es space ds table added) (kind : Text) :
    added.countP (·.kind = kind) = (fresh es ds).countP (·.1 = kind) := by
  rw [← h.keys, List.countP_map]
  rfl

theorem Grown.mem_keys (h : Grown es space ds table added) {key : Text × Text} :
    key ∈ (es ++ added).map Entry.key ↔
      key ∈ es.map Entry.key ∨ key ∈ ds.map Definition.key := by
  rw [List.map_append, List.mem_append, h.keys, mem_fresh]
  constructor
  · rintro (hes | ⟨hds, -⟩)
    · exact .inl hes
    · exact .inr hds
  · rintro (hes | hds)
    · exact .inl hes
    · by_cases hes : key ∈ es.map Entry.key
      · exact .inl hes
      · exact .inr ⟨hds, hes⟩

theorem Grown.entries (h : Grown es space ds table added) (plain : Plain space) :
    entries table = .ok (es ++ added) := by
  obtain ⟨text, rfl, holds⟩ := h.shape
  exact holds.entries plain

/-- A resource that is there already is passed over. -/
theorem Grown.skip (h : Grown es space ds table added)
    (there : d.key ∈ (es ++ added).map Entry.key) :
    Grown es space (ds ++ [d]) table added := by
  refine ⟨h.shape, ?_, h.counts⟩
  rw [h.keys, fresh_concat_of_mem (h.mem_keys.mp there)]

/-- A new resource is added with the id behind the greatest one of its kind if that is an id. -/
theorem Grown.grow (h : Grown es space ds table added) (plain : Plain space)
    (legible : Legible es) (hkind : d.kind.all isWordChar) (hname : d.name.all isWordChar)
    (new : d.key ∉ (es ++ added).map Entry.key) (seed : greatest? d.kind es = some id)
    (fits : id + added.countP (·.kind = d.kind) + 1 < idBound) :
    ∃ next, d.allocate table =
        .ok (some (next, renderId (id + added.countP (·.kind = d.kind) + 1))) ∧
      Grown es space (ds ++ [d]) next
        (added ++ [⟨d.kind, d.name, renderId (id + added.countP (·.kind = d.kind) + 1)⟩]) := by
  obtain ⟨text, rfl, holds⟩ := h.shape
  obtain ⟨hes, hds⟩ := not_or.mp (mt h.mem_keys.mpr new)
  have hid := all_isWordChar_renderId (id + added.countP (·.kind = d.kind) + 1)
  refine ⟨_, allocate_new holds plain (h.counts.legible legible) new (h.counts.greatest seed) fits,
    ?_, ?_, ?_⟩
  · refine ⟨_, rfl, ?_⟩
    rw [← List.append_assoc]
    exact holds.line hkind hname hid
  · rw [List.map_append, h.keys, fresh_concat_of_not_mem hes hds]
    rfl
  · exact h.counts.concat seed (parseId?_renderId fits)

/-- A new resource is added, and there is room for it. -/
theorem Grown.add (h : Grown es space ds table added) (plain : Plain space)
    (legible : Legible es) (hkind : d.kind.all isWordChar) (hname : d.name.all isWordChar)
    (new : d.key ∉ (es ++ added).map Entry.key) (seed : greatest? d.kind es = some id)
    (room : HasRoom es (ds ++ [d])) :
    ∃ next written e, d.allocate table = .ok (some (next, written)) ∧
      Grown es space (ds ++ [d]) next (added ++ [e]) := by
  obtain ⟨hes, hds⟩ := not_or.mp (mt h.mem_keys.mpr new)
  have fits : id + added.countP (·.kind = d.kind) + 1 < idBound := by
    have room := room d (List.mem_append_right _ List.mem_cons_self) id seed
    rw [fresh_concat_of_not_mem hes hds, List.countP_append,
      List.countP_cons_of_pos (by simp [Definition.key]), List.countP_nil, ← h.count] at room
    exact room
  obtain ⟨next, some, grown⟩ := h.grow plain legible hkind hname new seed fits
  exact ⟨next, _, _, some, grown⟩

/-- Resources of kinds that are there can be allocated one after the other as long as there is
room. -/
theorem exists_grown (plain : Plain space) (legible : Legible es) (holds : Holds text es)
    (seeded : ∀ d ∈ ds, ∃ e ∈ es, e.kind = d.kind)
    (words : ∀ d ∈ ds, d.kind.all isWordChar ∧ d.name.all isWordChar) (room : HasRoom es ds) :
    ∃ last added, allocateAll ds (text ++ (tableEnd ++ space)) = .ok last ∧
      Grown es space ds last added := by
  induction ds using List.reverseRecOn with
  | nil =>
      refine ⟨_, [], rfl, ⟨text, rfl, ?_⟩, rfl, CountsOn.nil es⟩
      rwa [List.append_nil]
  | append_singleton ds d ih =>
      have hd : d ∈ ds ++ [d] := List.mem_append_right _ List.mem_cons_self
      obtain ⟨table, added, hrun, grown⟩ := ih
        (fun d' hd' => seeded d' (List.mem_append_left _ hd'))
        (fun d' hd' => words d' (List.mem_append_left _ hd')) room.init
      rw [allocateAll_append hrun]
      by_cases there : d.key ∈ (es ++ added).map Entry.key
      · have none := allocate_defined (grown.counts.legible legible) (grown.entries plain) there
        exact ⟨table, added, allocateAll_singleton_of_none none, grown.skip there⟩
      · obtain ⟨e, he, hkind⟩ := seeded d hd
        obtain ⟨id, seed⟩ := exists_greatest legible he
        rw [hkind] at seed
        obtain ⟨next, written, e, some, grown⟩ :=
          grown.add plain legible (words d hd).1 (words d hd).2 there seed room
        exact ⟨next, added ++ [e], allocateAll_singleton_of_some some, grown⟩

/-- A table that can be read, ends with its own end tag and blanks, and has only ids that can be
read, takes resources one after the other, if their kinds are there, their kinds and names are words
and the ids stay below the bound. In the end its entries are followed by one for each new resource,
in the order of their first definitions, with ids that count on from the greatest ones of the kinds.
Whenever a resource is there already, nothing is returned and the table stays as it is. -/
theorem allocateAll_entries (shape : table = text ++ (tableEnd ++ space))
    (blank : space.isBlank) (read : entries table = .ok es)
    (closed : (Markup.read table).events.getLast? = some (.stop "resources"))
    (legible : Legible es) (seeded : ∀ d ∈ ds, ∃ e ∈ es, e.kind = d.kind)
    (words : ∀ d ∈ ds, d.kind.all isWordChar ∧ d.name.all isWordChar) (room : HasRoom es ds) :
    ∃ last added, allocateAll ds table = .ok last ∧ entries last = .ok (es ++ added) ∧
      added.map Entry.key = fresh es ds ∧ CountsOn es added ∧
      ∀ before d after, ds = before ++ d :: after →
        ∃ current present, allocateAll before table = .ok current ∧
          entries current = .ok present ∧
          (d.key ∈ present.map Entry.key →
            d.allocate current = .ok none ∧ allocateAll (before ++ [d]) table = .ok current) := by
  subst shape
  have plain := Plain.of_isBlank blank
  have holds := Holds.of_entries plain read closed
  obtain ⟨last, added, hrun, grown⟩ := exists_grown plain legible holds seeded words room
  refine ⟨last, added, hrun, grown.entries plain, grown.keys, grown.counts, ?_⟩
  rintro before d after rfl
  obtain ⟨current, added, hbefore, grown⟩ := exists_grown plain legible holds
    (fun d' hd' => seeded d' (List.mem_append_left _ hd'))
    (fun d' hd' => words d' (List.mem_append_left _ hd')) room.of_append
  refine ⟨current, es ++ added, hbefore, grown.entries plain, ?_⟩
  intro there
  have none := allocate_defined (grown.counts.legible legible) (grown.entries plain) there
  refine ⟨none, ?_⟩
  rw [allocateAll_append hbefore]
  exact allocateAll_singleton_of_none none

/-- Of three definitions in a table with one resource, the first is new, the second is there in the
table and the third is there because of the first. -/
theorem allocateAll_entries_again :
    ∃ last added,
      allocateAll [⟨"smali", "id", "b"⟩, ⟨"smali", "id", "a"⟩, ⟨"smali", "id", "b"⟩]
        ("<resources>" ++ Definition.line ⟨[], "id", "a"⟩ "0x7f010001" ++ (tableEnd ++ "\n")) =
          .ok last ∧
      entries last = .ok (⟨"id", "a", "0x7f010001"⟩ :: added) ∧
      added.map Entry.key = [(("id" : Text), ("b" : Text))] := by
  have opens : Passes [] "<resources>" [.start "resources"] ["resources"] :=
    Passes.of_markup (rfl : markup [] "resources>" = .ok ([.start "resources"], ["resources"], []))
      (Passes.of_not_mem List.not_mem_nil _)
  have empty : Holds "<resources>" [] := ⟨_, [], opens, rfl⟩
  have holds : Holds ("<resources>" ++ Definition.line ⟨[], "id", "a"⟩ "0x7f010001")
      [⟨"id", "a", "0x7f010001"⟩] := empty.line (by decide) (by decide) (by decide)
  have blank : Text.isBlank "\n" := by decide
  have plain := Plain.of_isBlank blank
  have legible : Legible [⟨"id", "a", "0x7f010001"⟩] := by
    unfold Legible
    decide
  have greatest : greatest? "id" [⟨"id", "a", "0x7f010001"⟩] = some 0x7f010001 := by decide
  have keys : fresh [⟨"id", "a", "0x7f010001"⟩]
      [⟨"smali", "id", "b"⟩, ⟨"smali", "id", "a"⟩, ⟨"smali", "id", "b"⟩] =
      [(("id" : Text), ("b" : Text))] := by decide
  have room : HasRoom [⟨"id", "a", "0x7f010001"⟩]
      [⟨"smali", "id", "b"⟩, ⟨"smali", "id", "a"⟩, ⟨"smali", "id", "b"⟩] := by
    intro d hd id hid
    have kind : d.kind = "id" := by
      clear hid
      revert d
      decide
    rw [kind, greatest] at hid
    cases hid
    rw [kind, keys]
    decide
  obtain ⟨last, added, hrun, hread, hkeys, -⟩ := allocateAll_entries rfl blank
    (holds.entries plain) (holds.closed plain) legible (by decide) (by decide) room
  rw [keys] at hkeys
  exact ⟨last, added, hrun, hread, hkeys⟩

end PatchTrail.Resource
