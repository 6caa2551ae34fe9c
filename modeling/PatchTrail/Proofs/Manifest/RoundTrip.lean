import PatchTrail.Manifest.Json
import PatchTrail.Proofs.Patcher.RoundTrip

/-!
# Manifests written and read

Every manifest that was read can be written, since no custom transformation occurs in it, and it is
nested no deeper than a document may be (`writable_of_parse`). What was written is read as the same
manifest (`parse_compact`), so that a document written anew is not changed when it is written anew
again (`rewrite?`).

Instructions are a family of tagged values, like the patchers in them (`Step.family`). The records
around them are read member by member; for each layer it is proved what its reader returns
(`yields_item`, `yields_items`) and what it reads of what was written (`printed_item`,
`printed_items`).
-/

namespace PatchTrail.Manifest

open Json (Value Mismatch Numberless Writable AllWritable Yields Printed)

variable {v : Value} {vs : List Value} {n depth : Nat}

namespace Step

variable {s s' : Step} {ss : List Step} {tag : Tag}

/-! ## Instructions inside of instructions -/

/-- The instructions that an instruction runs. -/
def children : Step → List Step
  | sequence steps => steps
  | _ => []

theorem sizeOf_lt_of_mem_children (h : s' ∈ s.children) : sizeOf s' < sizeOf s := by
  cases s with
  | sequence steps =>
      have := List.sizeOf_lt_of_mem h
      rw [sequence.sizeOf_spec]
      simp only [children] at this
      omega
  | _ => cases h

/-- All patterns in the patchers of an instruction, if it has some, are what their sources compile
to. -/
def OwnCompiled : Step → Prop
  | patchFiles _ patchers => ∀ p ∈ patchers, p.Compiled
  | _ => True

/-- All patterns in an instruction are what their sources compile to. -/
def Compiled (s : Step) : Prop := ∀ s', Json.Within children s' s → s'.OwnCompiled

/-- Instructions as a family of tagged values. -/
def family : Json.Family Step Tag where
  toJson? := toJson?
  children := children
  Own := OwnCompiled
  kind := kind
  name := Tag.name
  known := tags
  decodeTag := decodeTag

theorem decodeUpTo_eq (n : Nat) (v : Value) : decodeUpTo n v = family.decodeUpTo n v := by
  induction n generalizing v with
  | zero => rfl
  | succ n ih =>
      rw [decodeUpTo, Json.Family.decodeUpTo, funext ih]
      rfl

theorem decode_eq (v : Value) : decode v = family.decodeUpTo (v.depth + 1) v :=
  decodeUpTo_eq (v.depth + 1) v

theorem compiled_leaf (hchildren : s.children = []) (own : s.OwnCompiled) : s.Compiled :=
  Json.Family.sound_leaf (F := family) hchildren own

/-! ## Writing instructions -/

theorem listToJson?_eq (ss : List Step) : toJson?.listToJson? ss = ss.mapM toJson? := by
  induction ss with
  | nil => rfl
  | cons s ss ih =>
      rw [toJson?.listToJson?, List.mapM_cons, ih]
      cases s.toJson? with
      | none => rfl
      | some v => cases ss.mapM toJson? <;> rfl

theorem asText_mapM (ts : List Text) : Json.asList Json.asText (.array (ts.map .string)) = .ok ts :=
  mapM_eq_ok_iff.mpr (List.forall₂_map_left_iff.mpr (List.forall₂_same.mpr fun _ _ => rfl))

theorem form_patchFiles (paths : List Text) {patchers : List Patcher}
    (h : patchers.mapM Patcher.toJson? = some vs) :
    family.Form (patchFiles paths patchers) .patchFiles
      [("paths", .array (paths.map .string)), ("patchers", .array vs)] := by
  refine ⟨Json.not_tagName (n := ["paths", "patchers"]) rfl (by decide), ?_, ?_, ?_⟩
  · intro _
    refine List.forall_mem_cons.mpr ⟨.array ?_, List.forall_mem_singleton.mpr ?_⟩
    · exact List.forall_mem_map.mpr fun t _ => .string t
    · exact Json.numberless_values h fun p _ v hv => Patcher.lawful.numberless hv
  · exact fun c hc => absurd hc List.not_mem_nil
  · intro _ _ compiled
    refine bind_eq_ok_iff.mpr ⟨_, Json.record2_object (f := .list "paths" Json.asText)
      (g := .list "patchers" Patcher.decode) (by decide : ("patchers" : Text) ≠ "paths")
      (asText_mapM paths) (Json.asList_values h fun p hp v hv => ?_), rfl⟩
    exact Patcher.decode_of_toJson? hv (compiled p hp)

theorem form_sequence (h : ss.mapM toJson? = some vs) :
    family.Form (sequence ss) .sequence [("instructions", .array vs)] := by
  refine ⟨Json.not_tagName (n := ["instructions"]) rfl (by decide), ?_, ?_, ?_⟩
  · intro inner
    exact List.forall_mem_singleton.mpr (Json.numberless_values h inner)
  · intro c hc
    obtain ⟨v, hv, hdepth⟩ := Json.exists_value_depth_lt h hc
    exact ⟨v, hv, Nat.lt_trans hdepth (Json.depth_lt_of_mem_object (m := ("instructions", _))
      (List.mem_cons_of_mem _ List.mem_cons_self))⟩
  · intro decode inner _
    exact bind_eq_ok_iff.mpr ⟨_, Json.record1_object (f := .list "instructions" decode)
      (Json.asList_values h inner), rfl⟩

theorem exists_form (h : s.toJson? = some v) :
    ∃ tag ms, v = Json.tagged (Tag.name tag) ms ∧ family.Form s tag ms := by
  cases s with
  | writeFile path content =>
      cases h
      refine ⟨.writeFile, _, rfl, .leaf (n := ["path", "content"]) rfl rfl (by decide) ?_ ?_⟩
      · simp [Numberless.string]
      · exact fun _ _ => rfl
  | copyFile path source =>
      cases h
      refine ⟨.copyFile, _, rfl, .leaf (n := ["path", "source"]) rfl rfl (by decide) ?_ ?_⟩
      · simp [Numberless.string]
      · exact fun _ _ => rfl
  | deleteFile path =>
      cases h
      refine ⟨.deleteFile, _, rfl, .leaf (n := ["path"]) rfl rfl (by decide) ?_ ?_⟩
      · simp [Numberless.string]
      · exact fun _ _ => rfl
  | patchFiles paths patchers =>
      obtain ⟨vs, hvs, rfl⟩ := Option.map_eq_some_iff.mp h
      exact ⟨_, _, rfl, form_patchFiles paths (Patcher.listToJson?_eq patchers ▸ hvs)⟩
  | defineResource definition =>
      cases h
      refine ⟨.defineResource, _, rfl,
        .leaf (n := ["r_path", "resource_type", "name"]) rfl rfl (by decide) ?_ ?_⟩
      · simp [Numberless.string]
      · exact fun _ _ => rfl
  | sequence steps =>
      obtain ⟨vs, hvs, rfl⟩ := Option.map_eq_some_iff.mp h
      exact ⟨_, _, rfl, form_sequence (listToJson?_eq steps ▸ hvs)⟩

/-! ## Writing instructions that were read -/

theorem writable_leaf (h : s.toJson? = some v) (hdepth : v.depth ≤ n) (hchildren : s.children = [])
    (own : s.OwnCompiled) : Writable toJson? family.Sound n s :=
  ⟨v, h, hdepth, compiled_leaf hchildren own⟩

/-- What is decoded of a tag's value can be written, if that holds of the instructions inside. -/
theorem writable_of_decodeTag {decode : Value → Except Mismatch Step}
    (inner : ∀ w s, decode w = .ok s → Writable toJson? family.Sound w.depth s)
    (h : decodeTag decode tag v = .ok s) : Writable toJson? family.Sound v.depth s := by
  cases tag with
  | writeFile =>
      obtain ⟨⟨path, content⟩, hrecord, hs⟩ := bind_eq_ok_iff.mp h
      cases hs
      exact writable_leaf rfl (Json.record2_from hrecord).1 rfl trivial
  | copyFile =>
      obtain ⟨⟨path, source⟩, hrecord, hs⟩ := bind_eq_ok_iff.mp h
      cases hs
      exact writable_leaf rfl (Json.record2_from hrecord).1 rfl trivial
  | deleteFile =>
      obtain ⟨path, hrecord, hs⟩ := bind_eq_ok_iff.mp h
      cases hs
      exact writable_leaf rfl (Json.record1_from hrecord).1 rfl trivial
  | patchFiles =>
      obtain ⟨⟨paths, patchers⟩, hrecord, hs⟩ := bind_eq_ok_iff.mp h
      cases hs
      obtain ⟨hdepth, hpaths, hpatchers⟩ := Json.record2_from hrecord
      obtain ⟨w, inside, decoded⟩ := hpaths.exists_part rfl
      obtain ⟨w', inside', decoded'⟩ := hpatchers.exists_part rfl
      obtain ⟨⟨vs, hvs, hvsdepth⟩, compiled⟩ := Json.allWritable_of_asList
        (fun w p hp => Patcher.writable_of_decode hp) decoded'
      refine writable_leaf
        (Option.map_eq_some_iff.mpr ⟨vs, Patcher.listToJson?_eq patchers ▸ hvs, rfl⟩) ?_ rfl
        compiled
      have hpathsdepth : (Value.array (paths.map .string)).depth ≤ 1 :=
        Json.depth_array_le_iff.mpr (List.forall_mem_map.mpr fun t _ => Nat.le_refl 0)
      have hpos := (Json.parts_of_asList decoded).1
      refine Json.tagged_depth_le hdepth (List.forall_mem_cons.mpr ⟨?_, ?_⟩)
      · exact Nat.lt_of_le_of_lt hpathsdepth (Nat.lt_of_le_of_lt hpos inside)
      · exact List.forall_mem_singleton.mpr (Nat.lt_of_le_of_lt hvsdepth inside')
  | defineResource =>
      obtain ⟨⟨directory, kind, name⟩, hrecord, hs⟩ := bind_eq_ok_iff.mp h
      cases hs
      exact writable_leaf rfl (Json.record3_from hrecord).1 rfl trivial
  | sequence =>
      obtain ⟨steps, hrecord, hs⟩ := bind_eq_ok_iff.mp h
      cases hs
      obtain ⟨hdepth, hsteps⟩ := Json.record1_from hrecord
      obtain ⟨w, inside, decoded⟩ := hsteps.exists_part rfl
      obtain ⟨⟨vs, hvs, hvsdepth⟩, sound⟩ := Json.allWritable_of_asList inner decoded
      refine ⟨_, Option.map_eq_some_iff.mpr ⟨vs, listToJson?_eq steps ▸ hvs, rfl⟩, ?_,
        Json.Family.sound_of_children trivial sound⟩
      refine Json.tagged_depth_le hdepth (List.forall_mem_singleton.mpr ?_)
      exact Nat.lt_of_le_of_lt hvsdepth inside

theorem lawful : family.Lawful where
  tag_of_name tag := by cases tag <;> rfl
  smaller := sizeOf_lt_of_mem_children
  form := exists_form
  decoded := writable_of_decodeTag

/-- Reads an instruction. -/
def read (depth : Nat) : Json.Reader Step :=
  Json.Reader.taggedThen kind tags (decodeTag decode) depth

theorem yields_read (depth : Nat) : Yields (read depth) (Writable toJson? Compiled depth) :=
  lawful.yields decode_eq depth

/-- What was written is read as the instruction, unless it is nested too deep. -/
theorem printed_read (h : s.toJson? = some v) (compiled : s.Compiled) (hdepth : v.depth ≤ depth) :
    Printed (read depth) v.compact s := lawful.printed h compiled hdepth decode_eq

end Step

/-! ## Patches -/

/-- All patterns in a patch are what their sources compile to. -/
def Item.Compiled (item : Item) : Prop := ∀ s ∈ item.steps, s.Compiled

/-- Reads the name and the instructions of a patch. -/
def readParts : (depth : Nat) → Json.Reader (Text × List Step) :=
  Json.Reader.record2 "PatchDef" { name := "name", read := fun _ => Json.Reader.text }
    { name := "instructions", read := Json.Reader.list Step.read }

/-- Reads a patch. -/
def Item.read (depth : Nat) : Json.Reader Item := do
  let (name, steps) ← readParts depth
  return Item.mk name steps

theorem yields_item (depth : Nat) :
    Yields (Item.read depth) (Writable Item.toJson? Item.Compiled depth) := by
  refine (Yields.record2 (P := fun _ _ => True) (fun d => .any _)
    (Json.yields_allWritable Step.yields_read) rfl rfl depth).bind ?_
  rintro ⟨name, steps⟩ ⟨d, rfl, -, ⟨vs, hvs, hdepth⟩, compiled⟩
  refine .pure ⟨_, Option.map_eq_some_iff.mpr ⟨vs, Step.listToJson?_eq steps ▸ hvs, rfl⟩, ?_,
    compiled⟩
  refine Json.depth_object_le_iff.mpr (List.forall_mem_cons.mpr ⟨Nat.zero_le _, ?_⟩)
  exact List.forall_mem_singleton.mpr hdepth

/-- What was written is read as the patch, unless it is nested too deep. -/
theorem printed_item {item : Item} (h : item.toJson? = some v) (compiled : item.Compiled)
    (hdepth : v.depth ≤ depth) : Printed (Item.read depth) v.compact item := by
  obtain ⟨vs, hvs, rfl⟩ := Option.map_eq_some_iff.mp h
  cases depth with
  | zero => cases hdepth
  | succ depth =>
      obtain ⟨-, hvsdepth⟩ := List.forall_mem_cons.mp (Json.depth_object_le_iff.mp hdepth)
      have steps : Printed (Json.Reader.list Step.read depth) (Value.array vs).compact item.steps :=
        Json.printed_values (Step.listToJson?_eq _ ▸ hvs) (hvsdepth _ List.mem_cons_self)
          fun s hs v d hv hd => Step.printed_read hv (compiled s hs) hd
      rw [Json.compact_object]
      have parts : Printed (readParts (depth + 1)) _ (item.name, item.steps) :=
        Json.printed_record2 (by decide) (Json.printed_text item.name).reads steps.reads
      exact ⟨fun rest => Json.bind_of_ok (parts.reads rest), parts.begins⟩

/-! ## Manifests -/

/-- All patterns in a manifest are what their sources compile to. -/
def Compiled (m : Manifest) : Prop := ∀ item ∈ m.items, item.Compiled

/-- Reads the patches of a manifest, as `parse` does. -/
def readItems : (depth : Nat) → Json.Reader (List Item) :=
  Json.Reader.record1 "Manifest" { name := "patches", read := Json.Reader.list Item.read }

theorem parse_eq_ok_iff {document : Text} {m : Manifest} :
    parse document = .ok m ↔ Json.Reader.document readItems document = .ok m.items := by
  unfold parse
  simp only
  split
  · next items hread =>
      have hread : Json.Reader.document readItems document = .ok items := hread
      rw [hread]
      constructor
      · rintro ⟨⟩
        rfl
      · rintro ⟨⟩
        rfl
  · next e hread =>
      have hread : Json.Reader.document readItems document = .error e := hread
      rw [hread]
      constructor
      · rintro ⟨⟩
      · rintro ⟨⟩

theorem yields_items (depth : Nat) : Yields (readItems depth) fun items =>
    Writable toJson? Compiled depth ⟨items⟩ := by
  refine (Yields.record1 (Json.yields_allWritable yields_item) rfl depth).mono ?_
  rintro items ⟨d, rfl, ⟨vs, hvs, hdepth⟩, compiled⟩
  refine ⟨_, Option.map_eq_some_iff.mpr ⟨vs, hvs, rfl⟩, ?_, compiled⟩
  exact Json.depth_object_le_iff.mpr (List.forall_mem_singleton.mpr hdepth)

theorem printed_items {m : Manifest} (h : m.toJson? = some v) (compiled : m.Compiled)
    (hdepth : v.depth ≤ depth) : Printed (readItems depth) v.compact m.items := by
  obtain ⟨vs, hvs, rfl⟩ := Option.map_eq_some_iff.mp h
  cases depth with
  | zero => cases hdepth
  | succ depth =>
      have items := Json.printed_values hvs
        (Json.depth_object_le_iff.mp hdepth _ List.mem_cons_self)
        fun item hitem v d hv hd => printed_item hv (compiled item hitem) hd
      rw [Json.compact_object]
      exact Json.printed_record1 (f := { name := "patches", read := Json.Reader.list Item.read })
        items.reads

/-- A manifest that was read can be written, and is nested no deeper than a document may be. -/
theorem writable_of_parse {document : Text} {m : Manifest} (h : parse document = .ok m) :
    Writable toJson? Compiled Json.Reader.maxDepth m :=
  Json.of_document (P := fun items => Writable toJson? Compiled Json.Reader.maxDepth ⟨items⟩)
    (parse_eq_ok_iff.mp h) (yields_items Json.Reader.maxDepth)

/-- A document that is a manifest as it is written is read as the manifest. -/
theorem parse_compact {m : Manifest} (h : m.toJson? = some v) (compiled : m.Compiled)
    (hdepth : v.depth ≤ Json.Reader.maxDepth) : parse v.compact = .ok m :=
  parse_eq_ok_iff.mpr (Json.document_of_reads (printed_items h compiled hdepth).reads)

/-- A document that is a manifest, written anew. -/
def rewrite? (document : Text) : Option Text := do
  let m ← (parse document).toOption
  return (← m.toJson?).compact

/-- **A manifest that was read is written, and what was written is read as the same manifest**, so
that it is not changed when it is written anew. A patcher is written if and only if no custom
transformation stands in it, and is then read again, unless it is nested too deep. -/
theorem documents_round_trip :
    (∀ document m, parse document = .ok m → ∃ v, m.toJson? = some v ∧ parse v.compact = .ok m ∧
      rewrite? document = some v.compact ∧ rewrite? v.compact = some v.compact) ∧
    ∀ p : Patcher, (p.toJson?.isSome ↔ ∀ transform, ¬ Patcher.Within (.custom transform) p) ∧
      ∀ v, p.toJson? = some v → v.depth ≤ Json.Reader.maxDepth → p.Compiled →
        Patcher.parse v.compact = .ok p := by
  constructor
  · intro document m h
    obtain ⟨v, hv, hdepth, compiled⟩ := writable_of_parse h
    have again : parse v.compact = .ok m := parse_compact hv compiled hdepth
    have rewritten {text : Text} (htext : parse text = .ok m) :
        rewrite? text = some v.compact := by
      unfold rewrite?
      rw [htext]
      simp only [Except.toOption, hv, Option.bind_eq_bind, Option.bind_some, Option.pure_def]
    exact ⟨v, hv, again, rewritten h, rewritten again⟩
  · intro p
    exact ⟨Patcher.isSome_toJson?_iff,
      fun v hv hdepth compiled => Patcher.parse_compact hv compiled hdepth⟩

theorem documents_round_trip_pattern : ∃ pattern : Pattern,
    Pattern.compile "a+" = .ok pattern ∧
    (let p := Patcher.inConstant "c" (.replacePattern pattern "b" true)
     let m : Manifest := ⟨[⟨"p", [.sequence [.patchFiles ["f"] [p]]]⟩]⟩
     ∃ document v w, parse document = .ok m ∧ m.toJson? = some v ∧ parse v.compact = .ok m ∧
       rewrite? document = some v.compact ∧ rewrite? v.compact = some v.compact ∧
       p.toJson? = some w ∧ w.depth ≤ Json.Reader.maxDepth ∧ p.Compiled ∧
       Patcher.parse w.compact = .ok p) := by
  obtain ⟨pattern, hpattern⟩ : ∃ pattern, Pattern.compile "a+" = .ok pattern := by
    have h : (Pattern.compile "a+").toOption.isSome = true := by decide +kernel
    obtain ⟨pattern, h⟩ := Option.isSome_iff_exists.mp h
    exact ⟨pattern, of_toOption h⟩
  have inner : (Patcher.replacePattern pattern "b" true).Compiled :=
    Json.Family.sound_leaf (F := Patcher.family) rfl (Patcher.compile_again hpattern)
  have compiled : (Patcher.inConstant "c" (.replacePattern pattern "b" true)).Compiled :=
    Json.Family.sound_of_children (F := Patcher.family) trivial
      (List.forall_mem_singleton.mpr inner)
  have steps : (Step.sequence
      [.patchFiles ["f"] [.inConstant "c" (.replacePattern pattern "b" true)]]).Compiled :=
    Json.Family.sound_of_children (F := Step.family) trivial (List.forall_mem_singleton.mpr
      (Step.compiled_leaf rfl (List.forall_mem_singleton.mpr compiled)))
  refine ⟨pattern, hpattern, ?_⟩
  intro p m
  have document := parse_compact (m := m) rfl
    (List.forall_mem_singleton.mpr (List.forall_mem_singleton.mpr steps))
    (Nat.le_of_ble_eq_true rfl)
  obtain ⟨v, hv, again, first, second⟩ := documents_round_trip.1 _ m document
  have hdepth : ∃ w, p.toJson? = some w ∧ w.depth ≤ Json.Reader.maxDepth :=
    ⟨_, rfl, Nat.le_of_ble_eq_true rfl⟩
  obtain ⟨w, hw, hdepth⟩ := hdepth
  exact ⟨_, v, w, document, hv, again, first, second, hw, hdepth, compiled,
    (documents_round_trip.2 p).2 w hw hdepth compiled⟩

end PatchTrail.Manifest
