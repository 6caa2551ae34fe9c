import PatchTrail.Proofs.Resource.Splicing

/-!
# Reading a new resource back

The line of a new resource is written without references and put in front of the last line of the
table that begins with the closing text. So it is read back as the resource it was written for if
what stands before can be read on its own, which means that the place is not inside of a comment or
another piece of markup, and if the kind and the name stand for themselves as values
(`allocate_reads_back`). Then defining the resource again changes nothing. Otherwise it is put into
the table again and again (`allocate_repeats`).
-/

namespace PatchTrail.Resource

open Markup
open Definition (tableEnd)

variable {d : Definition} {es es' : List Entry} {table out id before after : Text}

/-- A text stands for itself as a value between double quotes. -/
structure Verbatim (t : Text) : Prop where
  closed : '"' ∉ t
  bare : '&' ∉ t

theorem Verbatim.unescape_eq {t : Text} (h : Verbatim t) : unescape t = .ok t :=
  unescape_plain h.bare

theorem Verbatim.of_word {t : Text} (h : t.all isWordChar) : Verbatim t :=
  ⟨not_mem_of_word h rfl, not_mem_of_word h rfl⟩

/-- Behind a text that can be read on its own, the line of a resource adds one entry. -/
theorem entries_line {evs : List Event} {opened : List Text} (pass : Passes [] before evs opened)
    (hkind : '"' ∉ d.kind) (hname : '"' ∉ d.name) (word : id.all isWordChar)
    (read : entries (before ++ (tableEnd ++ after)) = .ok es) :
    ∃ es₁ es₂, es = es₁ ++ es₂ ∧ ∀ es',
      entries (before ++ (d.line id ++ (tableEnd ++ after))) = .ok es' ↔
        ∃ kind name, unescape d.kind = .ok kind ∧ unescape d.name = .ok name ∧
          es' = es₁ ++ ⟨kind, name, id⟩ :: es₂ := by
  have hid := Verbatim.of_word word
  have pass' := pass.append (passes_line hkind hname hid.closed opened)
  obtain ⟨sound, es₁, es₂, h₁, h₂, rfl⟩ := (entries_of_prepend (pass _)).mp read
  refine ⟨es₁, es₂, rfl, fun es' => ?_⟩
  have tag (es : List Entry) : entriesOf [.empty (lineTag d id)] = .ok es ↔
      ∃ kind name, unescape d.kind = .ok kind ∧ unescape d.name = .ok name ∧
        es = [⟨kind, name, id⟩] := by
    simp only [entriesOf, entryOf_lineTag hkind hname hid.closed, hid.unescape_eq]
    cases unescape d.kind <;> cases unescape d.name <;>
      simp [bind, Except.bind, pure, Except.pure, eq_comm]
  rw [← List.append_assoc, entries_of_prepend (pass' _), and_iff_right sound]
  constructor
  · rintro ⟨front, behind, hfront, hbehind, rfl⟩
    rw [entriesOf_append] at hfront
    obtain ⟨es, new, hes, hnew, rfl⟩ := append_eq_ok_iff.mp hfront
    obtain ⟨kind, name, hkind, hname, rfl⟩ := (tag new).mp hnew
    cases h₁.symm.trans hes
    cases h₂.symm.trans hbehind
    exact ⟨kind, name, hkind, hname, by simp⟩
  · rintro ⟨kind, name, hkind, hname, rfl⟩
    refine ⟨es₁ ++ [⟨kind, name, id⟩], es₂, ?_, h₂, by simp⟩
    rw [entriesOf_append]
    exact append_eq_ok_iff.mpr ⟨_, _, h₁, (tag _).mpr ⟨kind, name, hkind, hname, rfl⟩, rfl⟩

/-- What stands in front of the closing text can be read on its own, and the kind and the name of a
resource stand for themselves. -/
structure Definition.Readable (d : Definition) (before : Text) : Prop where
  sound : (Markup.read before).fault? = none
  kind : Verbatim d.kind
  name : Verbatim d.name

/-- What is among the entries with the line and was not before is what was written, if the line stands
where it is read or means nothing elsewhere. -/
theorem readable_of_mem (word : id.all isWordChar)
    (alone : d.Inert ∨ (Markup.read before).fault? = none ∧ '"' ∉ d.kind ∧ '"' ∉ d.name)
    (read : entries (before ++ (tableEnd ++ after)) = .ok es)
    (read' : entries (before ++ (d.line id ++ (tableEnd ++ after))) = .ok es')
    (new : d.key ∉ es.map Entry.key) (there : d.key ∈ es'.map Entry.key) : d.Readable before := by
  have names : Spaceless [] := fun _ hname => absurd hname List.not_mem_nil
  by_cases sound : (Markup.read before).fault? = none
  · have closed : '"' ∉ d.kind ∧ '"' ∉ d.name := by
      rcases alone with inert | ⟨-, closed⟩
      · exact ⟨not_mem_of_inert inert.kind rfl, not_mem_of_inert inert.name rfl⟩
      · exact closed
    obtain ⟨evs, opened, pass⟩ := (readable_iff names).mp sound
    obtain ⟨es₁, es₂, rfl, hline⟩ := entries_line pass closed.1 closed.2 word read
    obtain ⟨kind, name, kindValue, nameValue, rfl⟩ := (hline es').mp read'
    obtain ⟨e, he, hkey⟩ := List.mem_map.mp there
    have hnew : e = ⟨kind, name, id⟩ := by
      by_contra other
      have old : e ∈ es₁ ++ es₂ := by simp_all
      exact new (hkey ▸ List.mem_map_of_mem old)
    rw [hnew] at hkey
    obtain rfl : kind = d.kind := congrArg Prod.fst hkey
    obtain rfl : name = d.name := congrArg Prod.snd hkey
    exact ⟨sound, ⟨closed.1, not_mem_of_unescape kindValue⟩,
      ⟨closed.2, not_mem_of_unescape nameValue⟩⟩
  · have inert := alone.resolve_right fun h => sound h.1
    obtain ⟨evs, opened, names', pass | ⟨inside, ⟨f, hf⟩, whole⟩⟩ := passes_or_inside names before
    · exact absurd ((readable_iff names).mpr ⟨_, _, pass⟩) sound
    · obtain ⟨fine, es₁, es₂, h₁, h₂, rfl⟩ := (entries_of_prepend (whole _)).mp read
      obtain ⟨fine', es₁', es₂', h₁', h₂', rfl⟩ := (entries_of_prepend (whole _)).mp read'
      cases h₁.symm.trans h₁'
      have known := (Known.refl es₁).append
        (known_of_inside inert word names' hf fine fine' h₂ h₂')
      exact absurd there (known.not_mem inert new)

/-- **A new resource is read back, and found when it is defined again, if the line stands where it is
read and its kind and its name stand for themselves.** Without double quotes in the kind and the name
this is so only then, where the line is read; and everywhere if they have no brackets, quotes and
equals signs. -/
theorem allocate_reads_back (h : d.allocate table = .ok (some (out, id)))
    (last : Text.LastAt tableEnd table before after) :
    (d.Readable before →
      (∃ es₁ es₂, entries table = .ok (es₁ ++ es₂) ∧
        entries out = .ok (es₁ ++ ⟨d.kind, d.name, id⟩ :: es₂)) ∧ d.allocate out = .ok none) ∧
    (d.Inert ∨ (Markup.read before).fault? = none ∧ '"' ∉ d.kind ∧ '"' ∉ d.name →
      ((∃ es, entries out = .ok es ∧ ⟨d.kind, d.name, id⟩ ∈ es) ↔ d.Readable before) ∧
      (d.allocate out = .ok none ↔ d.Readable before)) := by
  obtain ⟨es, m, before', after', read, new, legible, -, -, last', rfl, rfl⟩ :=
    allocate_eq_some_iff.mp h
  obtain ⟨rfl, rfl⟩ := last.unique last'
  have word := all_isWordChar_renderId (m + 1)
  have out_eq : before' ++ d.line (renderId (m + 1)) ++ tableEnd ++ after' =
      before' ++ (d.line (renderId (m + 1)) ++ (tableEnd ++ after')) := by
    simp only [List.append_assoc]
  rw [last.whole, List.append_assoc] at read
  rw [last.whole, List.append_assoc, out_eq]
  have back (readable : d.Readable before') :
      (∃ es₁ es₂, entries (before' ++ (tableEnd ++ after')) = .ok (es₁ ++ es₂) ∧
        entries (before' ++ (d.line (renderId (m + 1)) ++ (tableEnd ++ after'))) =
          .ok (es₁ ++ ⟨d.kind, d.name, renderId (m + 1)⟩ :: es₂)) ∧
      d.allocate (before' ++ (d.line (renderId (m + 1)) ++ (tableEnd ++ after'))) = .ok none := by
    obtain ⟨evs, opened, pass⟩ := (readable_iff fun _ hname => absurd hname List.not_mem_nil).mp
      readable.sound
    obtain ⟨es₁, es₂, rfl, hline⟩ :=
      entries_line pass readable.kind.closed readable.name.closed word read
    have read' := (hline _).mpr
      ⟨_, _, readable.kind.unescape_eq, readable.name.unescape_eq, rfl⟩
    refine ⟨⟨es₁, es₂, read, read'⟩, allocate_eq_none_iff.mpr
      ⟨_, read', es₁, _, es₂, rfl, rfl, fun e he => ?_⟩⟩
    exact legible e (List.mem_append_left _ he)
  have only {es' : List Entry}
      (alone : d.Inert ∨ (Markup.read before').fault? = none ∧ '"' ∉ d.kind ∧ '"' ∉ d.name)
      (read' : entries (before' ++ (d.line (renderId (m + 1)) ++ (tableEnd ++ after'))) = .ok es')
      (there : d.key ∈ es'.map Entry.key) : d.Readable before' :=
    readable_of_mem word alone read read' new there
  refine ⟨back, fun alone => ⟨⟨?_, fun readable => ?_⟩, ⟨?_, fun readable => (back readable).2⟩⟩⟩
  · rintro ⟨es', read', he⟩
    exact only alone read' (List.mem_map.mpr ⟨_, he, rfl⟩)
  · obtain ⟨es₁, es₂, -, read'⟩ := (back readable).1
    exact ⟨_, read', List.mem_append_right _ List.mem_cons_self⟩
  · intro again
    obtain ⟨es', read', front, e, behind, rfl, hkey, -⟩ := allocate_eq_none_iff.mp again
    exact only alone read'
      (List.mem_map.mpr ⟨e, List.mem_append_right _ List.mem_cons_self, hkey⟩)

/-- The resource of the following tables. -/
def seed : List Entry := [⟨"id", "a", "0x1"⟩]

theorem greatest?_seed : greatest? "id" seed = some 1 := by decide

theorem legible_seed : Legible seed := by
  unfold Legible
  decide

/-- A second resource is read back from the table of one. -/
theorem allocate_reads_back_second :
    ∃ out, Definition.allocate ⟨[], "id", "b"⟩ (printed seed) = .ok (some (out, "0x2")) ∧
      (∃ es, entries out = .ok es ∧ ⟨"id", "b", "0x2"⟩ ∈ es) ∧
      Definition.allocate ⟨[], "id", "b"⟩ out = .ok none := by
  have allocated := allocate_new (d := ⟨[], "id", "b"⟩) (holds_printedLines seed) plain_feed
    legible_seed (by decide) greatest?_seed (by decide)
  have last := Text.cutLast?_eq_some_iff.mp (cutLast?_tableEnd plain_feed.1 (printedLines seed))
  obtain ⟨evs, outer, pass, -⟩ := holds_printedLines seed
  have readable : Definition.Readable ⟨[], "id", "b"⟩ (printedLines seed) :=
    ⟨(readable_iff fun _ hname => absurd hname List.not_mem_nil).mpr ⟨_, _, pass⟩,
      ⟨by decide, by decide⟩, ⟨by decide, by decide⟩⟩
  obtain ⟨⟨es₁, es₂, -, read⟩, again⟩ := (allocate_reads_back allocated last).1 readable
  exact ⟨_, allocated, ⟨_, read, List.mem_append_right _ List.mem_cons_self⟩, again⟩

/-- A table with a comment behind its end, which has some lines and the closing text inside. -/
def commented (lines : Text) : Text :=
  printedLines seed ++ (tableEnd ++ ("\n<!--" ++ (lines ++ (tableEnd ++ "\n-->\n"))))

/-- What stands in the comment is not read. -/
theorem entries_commented {lines : Text} (comment : ∀ opened,
    markup opened ("!--" ++ (lines ++ (tableEnd ++ "\n-->\n"))) = .ok ([], opened, "\n")) :
    entries (commented lines) = .ok seed := by
  obtain ⟨evs, outer, pass, found⟩ := holds_printedLines seed
  have behind : Passes outer ("\n<!--" ++ (lines ++ (tableEnd ++ "\n-->\n"))) [] outer :=
    (Passes.of_not_mem (s := "\n") (by decide) outer).append
      (Passes.of_markup (comment outer) (Passes.of_not_mem (by decide) outer))
  refine (entries_of_prepend (pass _)).mpr ?_
  rw [readFrom_tableEnd, markup_tableEnd]
  simp only [if_true, behind.read]
  exact ⟨rfl, seed, [], found, rfl, rfl⟩

/-- A second resource is put into the comment behind what is there. -/
theorem allocate_commented {lines : Text} (comment : ∀ opened,
    markup opened ("!--" ++ (lines ++ (tableEnd ++ "\n-->\n"))) = .ok ([], opened, "\n")) :
    Definition.allocate ⟨[], "id", "b"⟩ (commented lines) =
      .ok (some (commented (lines ++ Definition.line ⟨[], "id", "b"⟩ "0x2"), "0x2")) := by
  have whole : commented lines =
      printedLines seed ++ (tableEnd ++ ("\n<!--" ++ lines)) ++ (tableEnd ++ "\n-->\n") := by
    simp only [commented, List.append_assoc]
  have space : '<' ∉ ("\n-->\n" : Text) := by decide
  have last := cutLast?_tableEnd space (printedLines seed ++ (tableEnd ++ ("\n<!--" ++ lines)))
  rw [← whole] at last
  refine allocate_eq_some_iff.mpr ⟨seed, 1, _, _, entries_commented comment, by decide,
    legible_seed.of _, greatest?_seed, by decide, Text.cutLast?_eq_some_iff.mp last, rfl, ?_⟩
  simp only [commented, List.append_assoc]

/-- The last line of this table that begins with the closing text stands in the comment. A new
resource is put there and is not read back, so it is put there once more when it is defined again. -/
theorem allocate_repeats :
    ∃ out again, Definition.allocate ⟨[], "id", "b"⟩ (commented []) = .ok (some (out, "0x2")) ∧
      entries out = .ok seed ∧ ⟨"id", "b", "0x2"⟩ ∉ seed ∧
      Definition.allocate ⟨[], "id", "b"⟩ out = .ok (some (again, "0x2")) :=
  ⟨_, _, allocate_commented fun _ => rfl, entries_commented fun _ => rfl, by decide,
    allocate_commented fun _ => rfl⟩

end PatchTrail.Resource
