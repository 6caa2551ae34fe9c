import PatchTrail.Proofs.Resource.ReadingBack
import PatchTrail.Proofs.Resource.Successor

/-!
# Tables that take a new resource

A table is read whatever the layout of its end tag is, but the place of a new resource is searched
for as a text: a line feed with the end tag right behind it. So a table to which a resource could be
added is refused if its end tag has blanks or other tags in front of it on its line, or blanks
inside, and no other line begins with the text (`allocate_extends_iff`, `allocate_unaligned`). The
line goes directly in front of the end tag that closes the table just if this tag begins a line,
without blanks inside, and no later line begins with it; and then the resource is read back.
-/

namespace PatchTrail.Resource

open Markup
open Definition (tableEnd)

variable {d : Definition} {es : List Entry} {table front space rest before after out id : Text}
  {s t s' t' w : Text} {m : Nat}

/-! ## Where a table is closed -/

/-- The end tag of a table, with blanks behind its name. -/
def endTag (space : Text) : Text := "</resources" ++ (space ++ ">")

/-- A table is closed by an end tag: it is open behind what stands in front of the tag. -/
structure ClosedAt (table front space rest : Text) : Prop where
  whole : table = front ++ (endTag space ++ rest)
  blank : ∀ c ∈ space, isSpace c = true
  opened : ∃ evs outer, Passes [] front evs ("resources" :: outer)

/-- An end tag begins a line and has no blanks inside, and no later line begins with it. -/
structure Aligned (front space rest : Text) : Prop where
  feed : front.getLast? = some '\n'
  tight : space = []
  last : ¬ tableEnd <:+: rest

/-- The line of a resource is put in front of a text, with nothing but blanks in between. -/
def Definition.Extends (d : Definition) (id front behind out : Text) : Prop :=
  ∃ first gap, front = first ++ gap ∧ Text.isBlank gap ∧
    out = first ++ (d.line id ++ (gap ++ behind))

/-! ## One place for a line -/

/-- The first tag of a text is an end tag. -/
def StopsFirst (t : Text) : Prop := ∃ gap more, '<' ∉ gap ∧ t = gap ++ '<' :: '/' :: more

theorem stopsFirst_tableEnd (after : Text) : StopsFirst (tableEnd ++ after) :=
  ⟨"\n", "resources>" ++ after, by decide, rfl⟩

theorem stopsFirst_endTag {gap : Text} (blank : gap.isBlank) (space rest : Text) :
    StopsFirst (gap ++ (endTag space ++ rest)) :=
  ⟨gap, _, fun hmem => absurd (List.all_eq_true.mp blank _ hmem) (by decide), rfl⟩

theorem line_begins (d : Definition) (id : Text) :
    ∃ more, d.line id = "\n    " ++ '<' :: 'p' :: more := ⟨_, line_eq d id⟩

/-- No beginning of a text whose first tag is an end tag commutes with a line, which is a tag of
another kind. -/
theorem eq_nil_of_commutes (same : d.line id ++ w = w ++ d.line id) (stops : StopsFirst (w ++ t)) :
    w = [] := by
  obtain ⟨gap, more, hgap, whole⟩ := stops
  obtain ⟨tag, hline⟩ := line_begins d id
  have feed : '<' ∉ ("\n    " : Text) := by decide
  -- the first tag on either side
  have tags := congrArg (List.dropWhile (· != '<')) same
  rw [hline, List.append_assoc, List.cons_append, dropWhile_bracket feed] at tags
  by_cases hmem : '<' ∈ w
  · obtain ⟨blanks, inside, rfl, plain⟩ := List.eq_append_cons_of_mem hmem
    have stop := congrArg (List.dropWhile (· != '<')) whole
    simp only [List.append_assoc, List.cons_append] at stop tags
    rw [dropWhile_bracket plain, dropWhile_bracket hgap] at stop
    rw [dropWhile_bracket plain] at tags
    have kind := (List.cons.inj tags).2
    cases inside with
    | nil => cases kind
    | cons c inside =>
        obtain rfl : c = '/' := (List.cons.inj (List.cons.inj stop).2).1
        cases kind
  · rw [dropWhile_of_not_mem hmem, dropWhile_bracket feed] at tags
    simpa using tags

/-- Two texts that are the same with a line and without it have it in the same place, if what stands
behind the line is an end tag in both. -/
theorem place_unique (whole : s ++ t = s' ++ t')
    (spliced : s ++ (d.line id ++ t) = s' ++ (d.line id ++ t')) (stops : StopsFirst t)
    (stops' : StopsFirst t') : s = s' ∧ t = t' := by
  have commutes {w x : Text} (h : d.line id ++ (w ++ x) = w ++ (d.line id ++ x)) :
      d.line id ++ w = w ++ d.line id := by
    rw [← List.append_assoc, ← List.append_assoc] at h
    exact List.append_cancel_right h
  rcases List.append_eq_append_iff.mp whole with ⟨w, rfl, rfl⟩ | ⟨w, rfl, rfl⟩
  · rw [List.append_assoc] at spliced
    obtain rfl := eq_nil_of_commutes (commutes (List.append_cancel_left spliced)) stops
    exact ⟨(List.append_nil s).symm, rfl⟩
  · rw [List.append_assoc] at spliced
    obtain rfl := eq_nil_of_commutes (commutes (List.append_cancel_left spliced).symm) stops'
    exact ⟨List.append_nil s', rfl⟩

/-! ## What is refused and where the line goes -/

theorem lastAt_tableEnd_iff :
    Text.LastAt tableEnd (before ++ tableEnd ++ after) before after ↔ ¬ tableEnd <:+: after :=
  Text.lastAt_iff (c := '\n') (by decide)

/-- A kind with entries whose ids can all be read and leave room has a greatest id that does. -/
theorem exists_greatest_below (seeded : ∃ e ∈ es, e.kind = d.kind)
    (room : ∀ e ∈ es, e.kind = d.kind → ∃ n, parseId? e.id = some n ∧ n + 1 < Nat.pow 2 32) :
    ∃ m, greatest? d.kind es = some m ∧ m + 1 < idBound := by
  obtain ⟨e, he, hkind⟩ := seeded
  obtain ⟨n, hid, -⟩ := room e he hkind
  obtain ⟨m, greatest⟩ := exists_greatest_of he hid
  rw [hkind] at greatest
  obtain ⟨⟨e', he', hkind', hid'⟩, -⟩ := greatest?_eq_some_iff.mp greatest
  obtain ⟨n', hid'', lt⟩ := room e' he' hkind'
  cases hid'.symm.trans hid''
  exact ⟨m, greatest, lt⟩

/-- A new resource is refused only if no line begins with the end of a table. -/
theorem allocate_eq_cutLast? (read : entries table = .ok es) (new : d.key ∉ es.map Entry.key)
    (legible : LegibleOf d.kind es) (greatest : greatest? d.kind es = some m)
    (room : m + 1 < idBound) :
    d.allocate table =
      match Text.cutLast? tableEnd table with
      | none => .error .noEnd
      | some (before, after) =>
        .ok (some (before ++ d.line (renderId (m + 1)) ++ tableEnd ++ after, renderId (m + 1))) := by
  have standing : d.standing none es = .ok (.new (some m)) :=
    standing_eq_new_iff.mpr ⟨new, legible, greatest.symm⟩
  unfold Definition.allocate
  simp only [read, standing]
  refine (if_pos room).trans ?_
  rfl

/-- Behind a stretch of its own a line feed adds nothing to what is read. -/
theorem entries_feed {evs : List Event} {opened : List Text} (pass : Passes [] front evs opened)
    (t : Text) : entries (front ++ '\n' :: t) = entries (front ++ t) := by
  have same : Markup.read (front ++ '\n' :: t) = Markup.read (front ++ t) := by
    unfold Markup.read
    rw [pass, pass, readFrom_congr (List.dropWhile_cons_of_pos (by decide))]
  unfold entries
  rw [same]

theorem endTag_append (space rest : Text) :
    endTag space ++ rest = '<' :: ("/resources" ++ (space ++ '>' :: rest)) := by
  unfold endTag
  rw [List.append_assoc, List.append_assoc]
  rfl

theorem tableEnd_append_eq (after : Text) :
    tableEnd ++ after = ['\n'] ++ (endTag [] ++ after) := by
  rw [endTag_append]
  rfl

/-- The end of a table on a new line is an end tag without blanks inside. -/
theorem tableEnd_eq_gap {gap : Text} (blank : gap.isBlank) (spaces : ∀ c ∈ space, isSpace c = true)
    (h : tableEnd ++ after = gap ++ (endTag space ++ rest)) :
    gap = ['\n'] ∧ space = [] ∧ after = rest := by
  have plain : '<' ∉ gap := fun hmem => absurd (List.all_eq_true.mp blank _ hmem) (by decide)
  have feed : '<' ∉ ['\n'] := by decide
  rw [tableEnd_append_eq, endTag_append, endTag_append] at h
  have tags := congrArg (List.dropWhile (· != '<')) h
  rw [dropWhile_bracket feed, dropWhile_bracket plain] at tags
  rw [tags] at h
  have names := List.append_cancel_left (List.cons.inj tags).2
  refine ⟨(List.append_cancel_right h).symm, ?_⟩
  cases space with
  | nil => exact ⟨rfl, (List.cons.inj names).2⟩
  | cons c space =>
      obtain rfl : '>' = c := (List.cons.inj names).1
      exact absurd (spaces _ List.mem_cons_self) (by decide)

/-- An aligned end tag of a table is the last line that begins with one. -/
theorem Aligned.lastAt (aligned : Aligned front space rest)
    (closed : ClosedAt table front space rest) :
    ∃ first, front = first ++ ['\n'] ∧ Text.LastAt tableEnd table first rest := by
  obtain ⟨feed, rfl, behind⟩ := aligned
  obtain ⟨first, rfl⟩ := List.getLast?_eq_some_iff.mp feed
  refine ⟨first, rfl, ?_⟩
  have whole : table = first ++ tableEnd ++ rest := by
    rw [closed.whole, List.append_assoc, List.append_assoc, tableEnd_append_eq]
  rw [whole]
  exact lastAt_tableEnd_iff.mpr behind

/-- The line of a resource is put directly in front of the end tag of a table just if the tag is
aligned. -/
theorem extends_iff_aligned (closed : ClosedAt table front space rest)
    (last : Text.LastAt tableEnd table before after) :
    d.Extends id front (endTag space ++ rest) (before ++ d.line id ++ tableEnd ++ after) ↔
      Aligned front space rest := by
  constructor
  · rintro ⟨first, gap, rfl, blank, out⟩
    have whole : before ++ (tableEnd ++ after) = first ++ (gap ++ (endTag space ++ rest)) := by
      simpa only [List.append_assoc] using last.whole.symm.trans closed.whole
    have spliced : before ++ (d.line id ++ (tableEnd ++ after)) =
        first ++ (d.line id ++ (gap ++ (endTag space ++ rest))) := by
      simpa only [List.append_assoc] using out
    obtain ⟨rfl, behind⟩ := place_unique whole spliced (stopsFirst_tableEnd after)
      (stopsFirst_endTag blank space rest)
    obtain ⟨rfl, rfl, rfl⟩ := tableEnd_eq_gap blank closed.blank behind
    rw [last.whole] at last
    exact ⟨List.getLast?_concat, rfl, lastAt_tableEnd_iff.mp last⟩
  · intro aligned
    obtain ⟨first, rfl, last'⟩ := aligned.lastAt closed
    obtain ⟨rfl, rfl⟩ := last.unique last'
    refine ⟨first, ['\n'], rfl, by decide, ?_⟩
    rw [aligned.tight, List.append_assoc, List.append_assoc, tableEnd_append_eq]

/-- In front of a line that begins with the end of a table, a resource is read back if the table can
be read up to this line. -/
theorem entries_aligned {first : Text} {evs : List Event} {opened : List Text}
    (pass : Passes [] (first ++ ['\n']) evs opened) (hkind : Verbatim d.kind)
    (hname : Verbatim d.name) (word : id.all isWordChar)
    (read : entries (first ++ tableEnd ++ rest) = .ok es) :
    ∃ es₁ es₂, es = es₁ ++ es₂ ∧ entries (first ++ d.line id ++ tableEnd ++ rest) =
      .ok (es₁ ++ ⟨d.kind, d.name, id⟩ :: es₂) := by
  obtain ⟨inner, hline⟩ : ∃ inner, d.line id = '\n' :: inner := ⟨_, line_eq d id⟩
  -- the line feed in front of the end tag may as well be read twice
  have read' : entries (first ++ ['\n'] ++ (tableEnd ++ rest)) = .ok es := by
    rw [tableEnd_append_eq, List.singleton_append, entries_feed pass, List.append_assoc,
      ← tableEnd_append_eq, ← List.append_assoc, read]
  obtain ⟨es₁, es₂, split, spliced⟩ := entries_line pass hkind.closed hname.closed word read'
  refine ⟨es₁, es₂, split, ?_⟩
  have behind := (spliced _).mpr ⟨_, _, hkind.unescape_eq, hname.unescape_eq, rfl⟩
  rw [hline, List.cons_append, entries_feed pass] at behind
  rw [hline, ← behind]
  simp only [List.append_assoc, List.cons_append, List.nil_append]

/-- **A table that has room for a new resource takes it if a line begins with the end of a table,
and directly in front of its own end tag just if this tag is aligned**; and then the resource is
read back. -/
theorem allocate_extends_iff (closed : ClosedAt table front space rest)
    (read : entries table = .ok es) (seeded : ∃ e ∈ es, e.kind = d.kind)
    (new : ∀ e ∈ es, e.kind = d.kind → e.name ≠ d.name)
    (room : ∀ e ∈ es, e.kind = d.kind → ∃ n, parseId? e.id = some n ∧ n + 1 < Nat.pow 2 32) :
    (d.allocate table = .error .noEnd ↔ ¬ tableEnd <:+: table) ∧
    ((∃ out id, d.allocate table = .ok (some (out, id))) ↔ tableEnd <:+: table) ∧
    ((∃ out id, d.allocate table = .ok (some (out, id)) ∧
      d.Extends id front (endTag space ++ rest) out) ↔ Aligned front space rest) ∧
    (Aligned front space rest → Verbatim d.kind → Verbatim d.name →
      ∃ out id es₁ es₂, d.allocate table = .ok (some (out, id)) ∧
        d.Extends id front (endTag space ++ rest) out ∧ es = es₁ ++ es₂ ∧
        entries out = .ok (es₁ ++ ⟨d.kind, d.name, id⟩ :: es₂)) := by
  obtain ⟨m, greatest, fits⟩ := exists_greatest_below seeded room
  have fresh : d.key ∉ es.map Entry.key := fun there => by
    obtain ⟨e, he, hkind, hname⟩ := mem_keys_iff.mp there
    exact new e he hkind hname
  have legible : LegibleOf d.kind es := fun e he hkind => by
    obtain ⟨n, hid, -⟩ := room e he hkind
    rw [hid]
    rfl
  have outcome := allocate_eq_cutLast? read fresh legible greatest fits
  by_cases occurs : tableEnd <:+: table
  · obtain ⟨before, after, last⟩ := Text.exists_lastAt occurs
    rw [Text.cutLast?_eq_some_iff.mpr last] at outcome
    have aligned_iff : d.Extends (renderId (m + 1)) front (endTag space ++ rest)
        (before ++ d.line (renderId (m + 1)) ++ tableEnd ++ after) ↔ Aligned front space rest :=
      extends_iff_aligned closed last
    simp only at outcome
    refine ⟨?_, ?_, ?_, fun aligned hkind hname => ?_⟩
    · simp [outcome, occurs]
    · simp [outcome, occurs]
    · constructor
      · rintro ⟨out, id, allocated, extended⟩
        cases outcome.symm.trans allocated
        exact aligned_iff.mp extended
      · exact fun aligned => ⟨_, _, outcome, aligned_iff.mpr aligned⟩
    · obtain ⟨first, rfl, last'⟩ := aligned.lastAt closed
      obtain ⟨rfl, rfl⟩ := last.unique last'
      obtain ⟨evs, outer, pass⟩ := closed.opened
      obtain ⟨es₁, es₂, split, read'⟩ := entries_aligned pass hkind hname
        (all_isWordChar_renderId (m + 1)) (last.whole ▸ read)
      exact ⟨_, _, es₁, es₂, outcome, aligned_iff.mpr aligned, split, read'⟩
  · rw [Text.cutLast?_eq_none_iff.mpr occurs] at outcome
    have unaligned : ¬ Aligned front space rest := by
      intro aligned
      obtain ⟨first, -, last⟩ := aligned.lastAt closed
      exact occurs ⟨first, rest, last.whole.symm⟩
    simp [outcome, occurs, unaligned]

theorem room_seed :
    ∀ e ∈ seed, e.kind = "id" → ∃ n, parseId? e.id = some n ∧ n + 1 < Nat.pow 2 32 := by
  intro e he _
  obtain rfl := List.mem_singleton.mp he
  exact ⟨1, by decide, by decide⟩

/-- The table of one resource takes a second one. -/
theorem allocate_extends_iff_seed :
    ∃ out id es₁ es₂, Definition.allocate ⟨[], "id", "b"⟩ (printed seed) = .ok (some (out, id)) ∧
      Definition.Extends ⟨[], "id", "b"⟩ id (printedLines seed ++ ['\n']) (endTag [] ++ "\n") out ∧
      seed = es₁ ++ es₂ ∧ entries out = .ok (es₁ ++ ⟨"id", "b", id⟩ :: es₂) := by
  obtain ⟨evs, outer, pass, -⟩ := holds_printedLines seed
  have closed : ClosedAt (printed seed) (printedLines seed ++ ['\n']) [] "\n" :=
    { whole := by rw [List.append_assoc, ← tableEnd_append_eq, printed]
      blank := List.forall_mem_nil _
      opened := ⟨_, outer, pass.append (Passes.of_not_mem (by decide) _)⟩ }
  have aligned : Aligned (printedLines seed ++ ['\n']) [] "\n" :=
    ⟨List.getLast?_concat, rfl, by decide⟩
  exact (allocate_extends_iff (d := ⟨[], "id", "b"⟩) closed (entries_printed seed) (by decide)
    (by decide) room_seed).2.2.2 aligned ⟨by decide, by decide⟩ ⟨by decide, by decide⟩

/-- The table of one resource with its end tag on the line of the resource. -/
def unaligned : Text := printedLines seed ++ endTag []

/-- This table is closed and has room, but a second resource is refused. -/
theorem allocate_unaligned :
    ClosedAt unaligned (printedLines seed) [] [] ∧ entries unaligned = .ok seed ∧
      (∃ e ∈ seed, e.kind = "id") ∧ (∀ e ∈ seed, e.kind = "id" → e.name ≠ "b") ∧
      (∀ e ∈ seed, e.kind = "id" → ∃ n, parseId? e.id = some n ∧ n + 1 < Nat.pow 2 32) ∧
      Definition.allocate ⟨[], "id", "b"⟩ unaligned = .error .noEnd := by
  obtain ⟨evs, outer, pass, found⟩ := holds_printedLines seed
  have read : entries unaligned = .ok seed := by
    have nothing : Plain [] := ⟨List.not_mem_nil, List.not_mem_nil⟩
    have aligned := (holds_printedLines seed).entries nothing
    rw [tableEnd_append_eq, List.singleton_append, entries_feed pass, List.append_nil] at aligned
    exact aligned
  have absent : ¬ tableEnd <:+: unaligned := Text.cutLast?_eq_none_iff.mp (by decide +kernel)
  have closed : ClosedAt unaligned (printedLines seed) [] [] :=
    { whole := by rw [List.append_nil, unaligned]
      blank := List.forall_mem_nil _
      opened := ⟨evs, outer, pass⟩ }
  refine ⟨closed, read, by decide, by decide, room_seed, ?_⟩
  rw [allocate_eq_cutLast? read (by decide) (legible_seed.of _) greatest?_seed (by decide),
    Text.cutLast?_eq_none_iff.mpr absent]

end PatchTrail.Resource
