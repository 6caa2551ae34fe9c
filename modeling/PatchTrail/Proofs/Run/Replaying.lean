import PatchTrail.Diff.Section
import PatchTrail.Proofs.Diff.Delimiting
import PatchTrail.Proofs.Diff.RoundTrip
import PatchTrail.Proofs.Disk.Same
import PatchTrail.Proofs.Run.Moments

/-!
# Replaying what a run has recorded

What is recorded at the moments of a run is a section for each of them. Done again one after the
other, these sections lead from the files that the run has begun with to those that it has left
(`Carries.replay`). From the trail they are read back as they are exactly if the headers of all
hunks announce what the reader has to know, because a header that does not leaves lines over that
count for a section of their own (`readAll?_sections_iff`). Together these are
`Run.apply_replays_iff`.
-/

namespace PatchTrail

open Diff Text

namespace Record

/-! ## What a record shows -/

/-- The names of the two sides in a section. -/
def names : Record → Text × Text
  | created path _ => (nullSide, newSideName path)
  | deleted path => (oldSideName path, nullSide)
  | modified path _ _ => (oldSideName path, newSideName path)

/-- The two texts that a section shows, if it shows any. -/
def texts? : Record → Option (Text × Text)
  | created _ content => (Text.decode? content).map fun new => ([], new)
  | deleted _ => none
  | modified _ old new => some (old, new)

/-- What a section says has been done. -/
def change : Record → Diff.Change
  | created path _ => .created path
  | deleted path => .deleted path
  | modified path _ _ => .edited path

/-- A path without line feeds, and texts without carriage returns; what is written is a text. -/
def Plain : Record → Prop
  | created path content => '\n' ∉ path ∧ ∃ new, Text.decode? content = some new ∧ '\r' ∉ new
  | deleted path => '\n' ∉ path
  | modified path old new => '\n' ∉ path ∧ '\r' ∉ old ∧ '\r' ∉ new

/-- The headers of the hunks that a section shows announce what the reader has to know. -/
def Announced (r : Renderer) (rec : Record) : Prop :=
  ∀ texts ∈ rec.texts?, Diff.Announced r texts.1 texts.2

/-- What a section is read back as. -/
def reading (r : Renderer) (rec : Record) : Section :=
  match rec.texts? with
  | some (old, new) => sectionBetween r rec.names.1 rec.names.2 old new
  | none => ⟨rec.names.1, rec.names.2, true, []⟩

/-- The lines that a section is written in. -/
def lines (r : Renderer) (rec : Record) : List Text :=
  match rec.texts? with
  | some (old, new) =>
    sectionLines rec.names.1 rec.names.2 (shown (hunks r.contextLines (linesOf old) (linesOf new)))
  | none => ["--- " ++ rec.names.1, "+++ " ++ rec.names.2, binaryLine]

variable {r : Renderer} {rec : Record}

theorem Plain.names (h : rec.Plain) : '\n' ∉ rec.names.1 ∧ '\n' ∉ rec.names.2 := by
  have null : '\n' ∉ nullSide := by decide
  have side : ∀ (mark : Char) (path : Text), '\n' ≠ mark → '\n' ∉ path →
      '\n' ∉ mark :: '/' :: path := by
    intro mark path hmark hpath hmem
    rcases List.mem_cons.mp hmem with h | h
    · exact hmark h
    · rcases List.mem_cons.mp h with h | h
      · exact absurd h (by decide)
      · exact hpath h
  cases rec with
  | created path content => exact ⟨null, side 'b' path (by decide) h.1⟩
  | deleted path => exact ⟨side 'a' path (by decide) h, null⟩
  | modified path old new => exact ⟨side 'a' path (by decide) h.1, side 'b' path (by decide) h.1⟩

theorem Plain.texts (h : rec.Plain) :
    ∀ texts ∈ rec.texts?, '\r' ∉ texts.1 ∧ '\r' ∉ texts.2 := by
  intro texts htexts
  cases rec with
  | created path content =>
      obtain ⟨-, new, hnew, hreturn⟩ := h
      rw [texts?, hnew] at htexts
      cases htexts
      exact ⟨List.not_mem_nil, hreturn⟩
  | deleted path => cases htexts
  | modified path old new =>
      cases htexts
      exact h.2

theorem render_eq (r : Renderer) (rec : Record) :
    rec.render r =
      match rec.texts? with
      | some (old, new) => r.section_ rec.names.1 rec.names.2 old new
      | none => renderHeader rec.names.1 rec.names.2 ++ binaryRemark := by
  cases rec with
  | created path content =>
      rw [render, texts?, Renderer.created]
      cases Text.decode? content <;> rfl
  | deleted path => rfl
  | modified path old new => rfl

/-! ## Reading a record back -/

theorem render_eq_unlines (h : rec.Plain) : rec.render r = unlines (rec.lines r) := by
  rw [render_eq, lines]
  cases htexts : rec.texts? with
  | none =>
      change renderHeader rec.names.1 rec.names.2 ++ binaryRemark =
        unlines ["--- " ++ rec.names.1, "+++ " ++ rec.names.2, binaryLine]
      unfold renderHeader
      simp only [unlines_cons, unlines_nil, List.append_assoc]
      rfl
  | some texts =>
      have plain := h.texts texts htexts
      exact section_eq_unlines r rec.names.1 rec.names.2 plain.1 plain.2

theorem feed_notMem_lines (h : rec.Plain) : ∀ t ∈ rec.lines r, '\n' ∉ t := by
  rw [lines]
  cases htexts : rec.texts? with
  | none =>
      have header : ∀ t ∈ sectionLines rec.names.1 rec.names.2 [], '\n' ∉ t :=
        feed_notMem_sectionLines h.names.1 h.names.2 nofun
      intro t ht
      change t ∈ sectionLines rec.names.1 rec.names.2 [] ++ [binaryLine] at ht
      rcases List.mem_append.mp ht with ht | ht
      · exact header t ht
      · cases List.mem_singleton.mp ht
        decide
  | some texts =>
      have plain := h.texts texts htexts
      exact feed_notMem_sectionLines h.names.1 h.names.2 (hunks_plain _ plain.1 plain.2)

theorem boundary_lines (r : Renderer) (rec : Record) (rest : List Text) :
    Boundary (rec.lines r ++ rest) := by
  rw [lines]
  intro t ht
  cases htexts : rec.texts? with
  | none =>
      rw [htexts] at ht
      exact .inr ⟨_, (Option.some.inj ht).symm⟩
  | some texts =>
      rw [htexts] at ht
      exact .inr ⟨_, (Option.some.inj ht).symm⟩

theorem change?_eq {s : Section} (old : s.oldName = rec.names.1) (new : s.newName = rec.names.2)
    (binary : rec.texts? = none → s.isBinary = true) : s.change? = some rec.change := by
  have oldSide : ∀ path, dropPrefix? "a/" (oldSideName path) = some path :=
    dropPrefix?_append "a/"
  have newSide : ∀ path, dropPrefix? "b/" (newSideName path) = some path :=
    dropPrefix?_append "b/"
  have oldNull : dropPrefix? "a/" nullSide = none := by decide
  have newNull : dropPrefix? "b/" nullSide = none := by decide
  unfold Section.change?
  rw [old, new]
  cases rec with
  | created path content => simp only [names, oldNull, newSide, if_pos, change]
  | deleted path => simp only [names, oldSide, newNull, binary rfl, and_self, if_pos, change]
  | modified path old new => simp only [names, oldSide, newSide, if_pos, change]

theorem change?_reading (r : Renderer) (rec : Record) :
    (rec.reading r).change? = some rec.change := by
  rw [reading]
  cases htexts : rec.texts? with
  | none => exact change?_eq rfl rfl fun _ => rfl
  | some texts => exact change?_eq rfl rfl fun hnone => by rw [htexts] at hnone; cases hnone

theorem announced_deleted (r : Renderer) (path : Text) : (deleted path).Announced r := by
  intro texts htexts
  cases htexts

/-- Before other lines, the section of a record is read back if its headers are right. -/
theorem Announced.readsAs {rest : List Text} {ss : List Section} (h : rec.Announced r)
    (behind : ReadsAs rest ss) (boundary : Boundary rest) :
    ReadsAs (rec.lines r ++ rest) (rec.reading r :: ss) := by
  rw [lines, reading]
  cases htexts : rec.texts? with
  | none => exact behind.binary boundary rec.names.1 rec.names.2
  | some texts => exact behind.between boundary (h texts htexts)

/-- Before other lines, the section of a record is read as a section at least, and as two at least
if a header is not right. -/
theorem atLeast_lines {rest : List Text} {count : Nat} (r : Renderer) (rec : Record)
    (behind : AtLeast count rest) (boundary : Boundary rest) :
    AtLeast (count + 1) (rec.lines r ++ rest) ∧
      (¬ rec.Announced r → AtLeast (count + 2) (rec.lines r ++ rest)) := by
  rw [lines]
  cases htexts : rec.texts? with
  | none =>
      refine ⟨behind.binary boundary rec.names.1 rec.names.2, fun hnot => (hnot ?_).elim⟩
      intro texts hmem
      rw [htexts] at hmem
      cases hmem
  | some texts =>
      have sound := hunks_sound r.contextLines (linesOf texts.1) (linesOf texts.2)
      refine ⟨(behind.section boundary _ _ fun h hh => (sound h hh).1).1, fun hnot => ?_⟩
      refine behind.between boundary fun announced => hnot ?_
      intro texts' hmem
      rw [htexts] at hmem
      cases hmem
      exact announced

/-! ## Doing a record again -/

theorem rebuild?_created {path : Text} {content : ByteArray} {new : Text}
    (hnew : Text.decode? content = some new) (hreturn : '\r' ∉ new) :
    ((created path content).reading r).rebuild? [] = some new := by
  have texts : (created path content).texts? = some ([], new) := by rw [texts?, hnew]; rfl
  rw [reading, texts]
  exact rebuild?_between nullSide (newSideName path) List.not_mem_nil hreturn

/-- What a section makes of the text that it is about. Where nothing changes the text keeps its line
ends. -/
theorem edit?_modified (r : Renderer) (path : Text) {old new text : Text} (hold : '\r' ∉ old)
    (hnew : '\r' ∉ new) (htext : text.normalizeLineEndings = old) :
    ((modified path old new).reading r).edit? text = some (if new = old then text else new) := by
  have hunks : ((modified path old new).reading r).hunks = [] ↔ new = old :=
    List.map_eq_nil_iff.trans (shown_hunks_linesOf_eq_nil_iff.trans eq_comm)
  unfold Section.edit?
  by_cases hsame : new = old
  · rw [if_pos (hunks.mpr hsame), if_pos hsame]
  · rw [if_neg fun hnil => hsame (hunks.mp hnil), if_neg hsame, htext]
    exact rebuild?_between (oldSideName path) (newSideName path) hold hnew

section

variable {root path : Text} {d d' e : Disk}

theorem replay_created {content : ByteArray} (h : (created path content).Carried root d d')
    (plain : (created path content).Plain) (same : d.Same e) :
    ∃ e', ((created path content).reading r).replay? root e = some e' ∧ d'.Same e' := by
  obtain ⟨around, hmade, hwrite⟩ := h
  obtain ⟨-, new, hnew, hreturn⟩ := plain
  have made := (same.makeDirectories ((Path.parent? (Path.below root path)).getD [])).1
  rw [show d.makeDirectories ((Path.parent? (Path.below root path)).getD []) = (around, none)
    from hmade] at made
  obtain ⟨e', he', same'⟩ := made.write_ok hwrite
  change Disk.write _ (Path.below root path) content = .ok e' at he'
  refine ⟨e', ?_, same'⟩
  unfold Section.replay?
  simp only [change?_reading, change, Option.bind_eq_bind, Option.bind_some,
    rebuild?_created hnew hreturn, encode_of_decode? hnew, he']
  rfl

theorem replay_deleted (h : (deleted path).Carried root d d') (same : d.Same e) :
    ∃ e', ((deleted path).reading r).replay? root e = some e' ∧ d'.Same e' := by
  obtain ⟨e', he', same'⟩ := same.remove_ok h
  change e.remove (Path.below root path) = .ok e' at he'
  refine ⟨e', ?_, same'⟩
  unfold Section.replay?
  simp only [change?_reading, change, Option.bind_eq_bind, Option.bind_some, he']
  rfl

theorem replay_modified {old new : Text} (h : (modified path old new).Carried root d d')
    (plain : (modified path old new).Plain) (same : d.Same e) :
    ∃ e', ((modified path old new).reading r).replay? root e = some e' ∧ d'.Same e' := by
  obtain ⟨⟨bytes, text, hread, htext, hold⟩, h⟩ := h
  obtain ⟨-, oldPlain, newPlain⟩ := plain
  have read : e.readText (Path.below root path) = .ok text := by
    rw [← same.readText]
    exact Disk.readText_eq hread htext
  have edited := edit?_modified r path oldPlain newPlain hold
  -- A text that stays is written again as it was, which changes nothing.
  have written : ∃ e', e.write (Path.below root path)
      (Text.encode (if new = old then text else new)) = .ok e' ∧ d'.Same e' := by
    by_cases hsame : new = old
    · rw [if_pos hsame] at h ⊢
      rw [encode_of_decode? htext]
      obtain ⟨e', he', same'⟩ := Disk.write_read (same.read _ ▸ hread)
      exact ⟨e', he', h ▸ same.trans same'⟩
    · rw [if_neg hsame] at h ⊢
      exact same.write_ok h
  obtain ⟨e', he', same'⟩ := written
  refine ⟨e', ?_, same'⟩
  unfold Section.replay?
  simp only [change?_reading, change, Option.bind_eq_bind, Option.bind_some, read,
    Except.toOption, edited, he']

end

/-- What a record says is carried out again by doing its section. -/
theorem Carried.replay {root : Text} {d d' e : Disk} (h : rec.Carried root d d')
    (plain : rec.Plain) (same : d.Same e) :
    ∃ e', (rec.reading r).replay? root e = some e' ∧ d'.Same e' := by
  cases rec with
  | created path content => exact replay_created h plain same
  | deleted path => exact replay_deleted h same
  | modified path old new => exact replay_modified h plain same

end Record

/-! ## The sections of moments -/

variable {r : Renderer} {root : Text} {ms : List Moment}

/-- The lines that the sections of moments are written in, up to the end of the diff. -/
def momentLines (r : Renderer) (ms : List Moment) : List Text :=
  (ms.flatMap fun m => m.record.lines r) ++ [[]]

theorem sections_eq_unlines (plain : ∀ m ∈ ms, m.record.Plain) :
    sections r ms = unlines (ms.flatMap fun m => m.record.lines r) := by
  induction ms with
  | nil => rfl
  | cons m ms ih =>
      rw [List.flatMap_cons, unlines_append,
        ← Record.render_eq_unlines (plain m List.mem_cons_self),
        ← ih fun m' hm' => plain m' (List.mem_cons_of_mem _ hm')]
      rfl

theorem split_sections (plain : ∀ m ∈ ms, m.record.Plain) :
    split '\n' (sections r ms) = momentLines r ms := by
  have lines : ∀ t ∈ ms.flatMap fun m => m.record.lines r, '\n' ∉ t := by
    intro t ht
    obtain ⟨m, hm, ht⟩ := List.mem_flatMap.mp ht
    exact Record.feed_notMem_lines (plain m hm) t ht
  have := split_unlines lines []
  rwa [List.append_nil, ← sections_eq_unlines plain] at this

theorem boundary_momentLines (r : Renderer) (ms : List Moment) : Boundary (momentLines r ms) := by
  cases ms with
  | nil => exact boundary_end
  | cons m ms =>
      unfold momentLines
      rw [List.flatMap_cons, List.append_assoc]
      exact m.record.boundary_lines r _

theorem readsAs_momentLines (announced : ∀ m ∈ ms, m.record.Announced r) :
    ReadsAs (momentLines r ms) (ms.map fun m => m.record.reading r) := by
  induction ms with
  | nil => exact readsAs_end
  | cons m ms ih =>
      have behind := ih fun m' hm' => announced m' (List.mem_cons_of_mem _ hm')
      have first := (announced m List.mem_cons_self).readsAs behind (boundary_momentLines r ms)
      unfold momentLines at first ⊢
      rwa [List.flatMap_cons, List.append_assoc]

theorem atLeast_momentLines (r : Renderer) (ms : List Moment) :
    AtLeast ms.length (momentLines r ms) ∧
      ((∃ m ∈ ms, ¬ m.record.Announced r) → AtLeast (ms.length + 1) (momentLines r ms)) := by
  induction ms with
  | nil => exact ⟨fun _ _ _ => Nat.zero_le _, fun ⟨_, hm, _⟩ => by cases hm⟩
  | cons m ms ih =>
      have boundary := boundary_momentLines r ms
      have first := Record.atLeast_lines r m.record ih.1 boundary
      unfold momentLines at first ⊢
      rw [List.flatMap_cons, List.append_assoc]
      refine ⟨first.1, ?_⟩
      rintro ⟨m', hm', hnot⟩
      rcases List.mem_cons.mp hm' with rfl | hm'
      · exact first.2 hnot
      · exact (Record.atLeast_lines r m.record (ih.2 ⟨m', hm', hnot⟩) boundary).1

/-- The sections of moments are read back as so many sections exactly if their headers are right,
and then as what was recorded. -/
theorem readAll?_sections_iff (plain : ∀ m ∈ ms, m.record.Plain) :
    ((∃ ss, Section.readAll? (sections r ms) = some ss ∧ ss.length = ms.length) ↔
        ∀ m ∈ ms, m.record.Announced r) ∧
      ((∀ m ∈ ms, m.record.Announced r) →
        Section.readAll? (sections r ms) = some (ms.map fun m => m.record.reading r)) := by
  have read : (∀ m ∈ ms, m.record.Announced r) →
      Section.readAll? (sections r ms) = some (ms.map fun m => m.record.reading r) := by
    intro announced
    unfold Section.readAll?
    rw [split_sections plain]
    exact readsAs_momentLines announced _ (Nat.le_refl _)
  refine ⟨⟨?_, fun announced => ⟨_, read announced, List.length_map _⟩⟩, read⟩
  rintro ⟨ss, hss, hlength⟩ m hm
  unfold Section.readAll? at hss
  rw [split_sections plain] at hss
  refine Classical.byContradiction fun hnot => ?_
  have more := (atLeast_momentLines r ms).2 ⟨m, hm, hnot⟩ _ ss hss
  omega

/-- The sections of what is carried out lead over the same files when they are done again. -/
theorem Carries.replay {d last e : Disk} (h : Carries root d ms last)
    (plain : ∀ m ∈ ms, m.record.Plain) (same : d.Same e) :
    ∃ e', (ms.map fun m => m.record.reading r).foldlM (fun disk s => s.replay? root disk) e =
      some e' ∧ last.Same e' := by
  induction h generalizing e with
  | nil => exact ⟨e, rfl, same⟩
  | cons first rest ih =>
      obtain ⟨e₁, h₁, same₁⟩ := first.replay (r := r) (plain _ List.mem_cons_self) same
      obtain ⟨e', h', same'⟩ := ih (fun m hm => plain m (List.mem_cons_of_mem _ hm)) same₁
      refine ⟨e', ?_, same'⟩
      rw [List.map_cons, List.foldlM_cons, h₁]
      exact h'

/-! ## Runs -/

namespace Run

/-- The tree that a run begins with. -/
def start (config : Config) (root : Text) (disk : Disk) : WorkTree :=
  { root, disk, renderer := { contextLines := config.contextLines } }

/-- The moments of a run. -/
def recorded (registry : Registry) (config : Config) (root : Text) (disk : Disk) : List Moment :=
  moments config.skip registry.patches (start config root disk)

/-- The trail of a run that succeeds is read back as the sections that it has recorded, and these
lead from the files that it has begun with to those that it has left, exactly if the headers of all
hunks announce the inserted lines that the hunks end with. -/
theorem apply_replays_iff {registry : Registry} {config : Config} {root : Text} {disk : Disk}
    {summary : Summary} {final : WorkTree}
    (done : apply registry config root disk {} = .ok summary final)
    (plain : ∀ m ∈ recorded registry config root disk, m.record.Plain) :
    let r := (start config root disk).renderer
    let ms := recorded registry config root disk
    final.trail.text = sections r ms ∧
      ((∃ ss last, Section.readAll? final.trail.text = some ss ∧
          ss.map Section.change? = ms.map (fun m => some m.record.change) ∧
          Diff.replay? root final.trail.text disk = some last ∧ last.Same final.disk) ↔
        ∀ m ∈ ms, m.record.Announced r) := by
  intro r ms
  have reached : final.trail.text = sections r ms ∧ Carries root disk ms final.disk := by
    have free : (start config root disk).trail.room? = none := rfl
    obtain ⟨value, last, plays, -, carries⟩ := journaled config.skip {} registry.patches free
    have run := plays.unbounded rfl
    change apply registry config root disk {} = _ at run
    rw [done] at run
    cases value with
    | error e => cases run
    | ok a =>
        cases run
        exact ⟨rfl, carries _ rfl⟩
  obtain ⟨text, carried⟩ := reached
  obtain ⟨again, hagain, same⟩ := carried.replay (r := r) plain (.refl disk)
  have readable := readAll?_sections_iff (r := r) plain
  rw [text]
  refine ⟨rfl, ?_, fun announced => ?_⟩
  · rintro ⟨ss, last, hss, hchanges, -⟩
    refine readable.1.mp ⟨ss, hss, ?_⟩
    have := congrArg List.length hchanges
    rwa [List.length_map, List.length_map] at this
  · have read := readable.2 announced
    refine ⟨_, again, read, ?_, ?_, same.symm⟩
    · rw [List.map_map]
      exact List.map_congr_left fun m _ => Record.change?_reading r m.record
    · unfold Diff.replay?
      rw [read]
      exact hagain

/-- The registry of a single patch. -/
def single (p : Patch) (named : p.name ≠ []) : Registry :=
  ⟨[p], List.pairwise_singleton _ p, fun _ hq => List.mem_singleton.mp hq ▸ named⟩

theorem apply_replays_sequence :
    let registry := single ⟨"p",
      [.sequence [.patchFiles ["f"] [.append "b\n"], .deleteFile "f"]]⟩ (List.cons_ne_nil 'p' [])
    let disk : Disk := ⟨[], [(["f"], .file (encode "a\nc\n"))]⟩
    ∃ summary final, apply registry {} "/" disk {} = .ok summary final ∧
      (∀ m ∈ recorded registry {} "/" disk, m.record.Plain) ∧
      ∃ ss last, Section.readAll? final.trail.text = some ss ∧
        ss.map Section.change? = [some (.edited "f"), some (.deleted "f")] ∧
        Diff.replay? "/" final.trail.text disk = some last ∧ last.Same final.disk := by
  intro registry disk
  have records : (recorded registry {} "/" disk).map Moment.record =
      [.modified "f" "a\nc\n" "a\nc\nb\n", .deleted "f"] := rfl
  have each : ∀ {P : Record → Prop}, P (.modified "f" "a\nc\n" "a\nc\nb\n") →
      P (.deleted "f") → ∀ m ∈ recorded registry {} "/" disk, P m.record := by
    intro P edited deleted m hm
    have := List.mem_map_of_mem (f := Moment.record) hm
    rw [records] at this
    rcases List.mem_cons.mp this with h | h
    · rwa [h]
    · rwa [List.mem_singleton.mp h]
  have plain : ∀ m ∈ recorded registry {} "/" disk, m.record.Plain :=
    each ⟨by decide, by decide, by decide⟩ (by decide : '\n' ∉ ("f" : Text))
  have edits : difference (linesOf "a\nc\n") (linesOf "a\nc\nb\n") =
      [.keep 0 0 2, .insert 2 2 1] := by cbv
  have found : hunks 3 (linesOf "a\nc\n") (linesOf "a\nc\nb\n") =
      [⟨0, 2, 0, 3, [(.kept, "a\n"), (.kept, "c\n"), (.inserted, "b\n")]⟩] := by
    unfold hunks
    rw [edits]
    rfl
  have announced : Record.Announced {} (.modified "f" "a\nc\n" "a\nc\nb\n") := by
    intro texts htexts h hh
    cases htexts
    rw [show hunks _ _ _ = _ from found] at hh
    cases List.mem_singleton.mp hh
    exact fun _ _ => rfl
  obtain ⟨summary, final, done⟩ : ∃ summary final,
      apply registry {} "/" disk {} = .ok summary final := ⟨_, _, rfl⟩
  obtain ⟨ss, last, hss, hchanges, rest⟩ :=
    (apply_replays_iff done plain).2.mpr (each announced (Record.announced_deleted {} "f"))
  refine ⟨summary, final, done, plain, ss, last, hss, hchanges.trans ?_, rest⟩
  change (recorded registry {} "/" disk).map ((fun rec => some rec.change) ∘ Moment.record) = _
  rw [← List.map_map, records]
  rfl

/-- The trail of this run cannot be read back: the header of its hunk announces one new line where
there are four. -/
theorem apply_unreadable :
    let registry := single ⟨"p", [.patchFiles ["f"] [.overwrite "c\nb\nb\nc\n"]]⟩
      (List.cons_ne_nil 'p' [])
    let disk : Disk := ⟨[], [(["f"], .file (encode "a\nc\n"))]⟩
    ∃ summary final, apply registry {} "/" disk {} = .ok summary final ∧
      (∀ m ∈ recorded registry {} "/" disk, m.record.Plain) ∧
      Section.readAll? final.trail.text = none := by
  intro registry disk
  have records : recorded registry {} "/" disk =
      [⟨disk, .modified "f" "a\nc\n" "c\nb\nb\nc\n"⟩] := rfl
  have text : ({} : Renderer).modified "f" "a\nc\n" "c\nb\nb\nc\n" =
      "--- a/f\n+++ b/f\n@@ -1 +4 @@\n-a\n c\n+b\n+b\n+c\n" := by
    unfold Renderer.modified Renderer.section_
    rw [hunks_misplaced]
    rfl
  refine ⟨_, _, rfl, fun m hm => ?_, ?_⟩
  · rw [records] at hm
    cases List.mem_singleton.mp hm
    exact ⟨by decide, by decide, by decide⟩
  · change Section.readAll? (({} : Renderer).modified "f" "a\nc\n" "c\nb\nb\nc\n") = none
    rw [text]
    rfl

end Run

end PatchTrail
