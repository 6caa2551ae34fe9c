import PatchTrail.Patcher.Json
import PatchTrail.Proofs.Json.Family

/-!
# Patchers written and read

A patcher is written unless a custom transformation stands somewhere inside of it
(`isSome_toJson?_iff`), and what was written is read as the patcher, as long as its patterns are
what their sources compile to (`parse_compact`). What is read can be written, and is then nested no
deeper than what it was read from (`writable_of_decode`).

Patchers are a family of tagged values (`family`), so all of this follows from how a patcher with
each of the tags is written (`exists_form`) and decoded (`writable_of_decodeTag`).
-/

namespace PatchTrail.Patcher

open Json (Value Mismatch Numberless RecordField Writable)

variable {p q : Patcher} {ps : List Patcher} {v : Value} {vs : List Value} {tag : Tag}
  {n depth : Nat}

/-! ## Patchers inside of patchers -/

/-- The patchers that a patcher runs. -/
def children : Patcher → List Patcher
  | inMethod _ patchers => patchers
  | inConstant _ patcher => [patcher]
  | _ => []

theorem sizeOf_lt_of_mem_children (h : q ∈ p.children) : sizeOf q < sizeOf p := by
  cases p with
  | inMethod signature patchers =>
      have := List.sizeOf_lt_of_mem h
      rw [inMethod.sizeOf_spec]
      simp only [children] at this
      omega
  | inConstant identifier patcher =>
      obtain rfl := List.mem_singleton.mp h
      rw [inConstant.sizeOf_spec]
      omega
  | _ => cases h

/-- A patcher is another or stands somewhere inside of it. -/
abbrev Within (q p : Patcher) : Prop := Json.Within children q p

/-- The pattern of a patcher, if it has one, is what its source compiles to. -/
def OwnCompiled : Patcher → Prop
  | replacePattern pattern _ _ => Pattern.compile pattern.source = .ok pattern
  | _ => True

/-- All patterns in a patcher are what their sources compile to, as every pattern is that was ever
compiled (`compile_again`). -/
def Compiled (p : Patcher) : Prop := ∀ q, Within q p → q.OwnCompiled

/-- Patchers as a family of tagged values. -/
def family : Json.Family Patcher Tag where
  toJson? := toJson?
  children := children
  Own := OwnCompiled
  kind := kind
  name := Tag.name
  known := tags
  decodeTag := decodeTag

theorem decodeUpTo_eq (n : Nat) (v : Value) : decodeUpTo n v = family.decodeUpTo n v := by
  induction n generalizing v with
  | zero => rfl
  | succ n ih =>
      rw [decodeUpTo, Json.Family.decodeUpTo, funext ih]
      rfl

theorem decode_eq (v : Value) : decode v = family.decodeUpTo (v.depth + 1) v :=
  decodeUpTo_eq (v.depth + 1) v

/-! ## Writing -/

theorem listToJson?_eq (ps : List Patcher) : toJson?.listToJson? ps = ps.mapM toJson? := by
  induction ps with
  | nil => rfl
  | cons p ps ih =>
      rw [toJson?.listToJson?, List.mapM_cons, ih]
      cases p.toJson? with
      | none => rfl
      | some v => cases ps.mapM toJson? <;> rfl

theorem form_text (text : Text) (hchildren : p.children = [])
    (hdecode : ∀ decode, decodeTag decode tag (.object [("text", .string text)]) = .ok p) :
    family.Form p tag [("text", .string text)] := by
  refine .leaf (n := ["text"]) hchildren rfl (by decide) ?_ fun _ => hdecode
  simp [Numberless.string]

theorem form_replacePattern (pattern : Pattern) (replacement : Text) (isLiteral : Bool) :
    family.Form (replacePattern pattern replacement isLiteral) .replacePattern
      [("pattern", .string pattern.source), ("replace", .string replacement),
        ("literal", .boolean isLiteral)] := by
  refine .leaf (n := ["pattern", "replace", "literal"]) rfl rfl (by decide) ?_ ?_
  · simp [Numberless.string, Numberless.boolean]
  · intro compiled decode
    have hpattern : asPattern (.string pattern.source) = .ok pattern := by
      refine bind_eq_ok_iff.mpr ⟨pattern.source, rfl, ?_⟩
      rw [show Pattern.compile pattern.source = .ok pattern from compiled]
      rfl
    exact bind_eq_ok_iff.mpr ⟨_, Json.record3_object (f := patternField)
      (g := .text "replace") (h := literalField) (by decide) (by decide) (by decide) hpattern
      rfl rfl, rfl⟩

theorem form_inMethod (signature : Text) (h : ps.mapM toJson? = some vs) :
    family.Form (inMethod signature ps) .inMethod
      [("signature", .string signature), ("patchers", .array vs)] := by
  refine ⟨Json.not_tagName (n := ["signature", "patchers"]) rfl (by decide), ?_, ?_, ?_⟩
  · intro inner
    refine List.forall_mem_cons.mpr ⟨.string _, List.forall_mem_singleton.mpr ?_⟩
    exact Json.numberless_values h inner
  · intro c hc
    obtain ⟨v, hv, hdepth⟩ := Json.exists_value_depth_lt h hc
    refine ⟨v, hv, Nat.lt_trans hdepth ?_⟩
    exact Json.depth_lt_of_mem_object (m := ("patchers", _))
      (List.mem_cons_of_mem _ (List.mem_cons_of_mem _ List.mem_cons_self))
  · intro decode inner _
    exact bind_eq_ok_iff.mpr ⟨_, Json.record2_object (f := .text "signature")
      (g := .list "patchers" decode) (by decide : ("patchers" : Text) ≠ "signature") rfl
      (Json.asList_values h inner), rfl⟩

theorem form_inConstant (identifier : Text) (h : p.toJson? = some v) :
    family.Form (inConstant identifier p) .inConstant
      [("identifier", .string identifier), ("patcher", v)] := by
  refine ⟨Json.not_tagName (n := ["identifier", "patcher"]) rfl (by decide), ?_, ?_, ?_⟩
  · intro inner
    refine List.forall_mem_cons.mpr ⟨.string _, List.forall_mem_singleton.mpr ?_⟩
    exact inner p List.mem_cons_self v h
  · intro c hc
    obtain rfl := List.mem_singleton.mp hc
    exact ⟨v, h, Json.depth_lt_of_mem_object (m := ("patcher", v))
      (List.mem_cons_of_mem _ (List.mem_cons_of_mem _ List.mem_cons_self))⟩
  · intro decode inner _
    exact bind_eq_ok_iff.mpr ⟨_, Json.record2_object (f := .text "identifier")
      (g := { name := "patcher", decode := decode })
      (by decide : ("patcher" : Text) ≠ "identifier") rfl (inner p List.mem_cons_self v h), rfl⟩

theorem exists_form (h : p.toJson? = some v) :
    ∃ tag ms, v = Json.tagged (Tag.name tag) ms ∧ family.Form p tag ms := by
  cases p with
  | replaceText find replacement =>
      cases h
      refine ⟨.replaceText, _, rfl, .leaf (n := ["find", "replace"]) rfl rfl (by decide) ?_ ?_⟩
      · simp [Numberless.string]
      · exact fun _ _ => rfl
  | replacePattern pattern replacement isLiteral =>
      cases h
      exact ⟨_, _, rfl, form_replacePattern pattern replacement isLiteral⟩
  | require text =>
      cases h
      exact ⟨.require, _, rfl, form_text text rfl fun _ => rfl⟩
  | append text =>
      cases h
      exact ⟨.append, _, rfl, form_text text rfl fun _ => rfl⟩
  | overwrite text =>
      cases h
      exact ⟨.overwrite, _, rfl, form_text text rfl fun _ => rfl⟩
  | inMethod signature patchers =>
      obtain ⟨vs, hvs, rfl⟩ := Option.map_eq_some_iff.mp h
      exact ⟨_, _, rfl, form_inMethod signature (listToJson?_eq patchers ▸ hvs)⟩
  | inConstant identifier patcher =>
      obtain ⟨w, hw, rfl⟩ := Option.map_eq_some_iff.mp h
      exact ⟨_, _, rfl, form_inConstant identifier hw⟩
  | custom transform => cases h

/-- A patcher with a custom transformation in it cannot be written. -/
theorem toJson?_eq_none_of_within {transform : Text → Except Error Text}
    (h : Within (.custom transform) p) : p.toJson? = none := by
  induction h with
  | self => rfl
  | @child p c hc _ ih =>
      cases hv : p.toJson? with
      | none => rfl
      | some v =>
          obtain ⟨tag, ms, -, form⟩ := exists_form hv
          obtain ⟨w, hw, -⟩ := form.inside c hc
          rw [show c.toJson? = some w from hw] at ih
          cases ih

/-! ## Writing what was read -/

theorem compile_source {source : Text} {pattern : Pattern}
    (h : Pattern.compile source = .ok pattern) : pattern.source = source := by
  unfold Pattern.compile at h
  split at h
  · cases h
  · split at h
    · cases h
    · split at h
      · cases h
      · cases h
        rfl

/-- A pattern that was compiled once is compiled again from its source. -/
theorem compile_again {source : Text} {pattern : Pattern}
    (h : Pattern.compile source = .ok pattern) :
    Pattern.compile pattern.source = .ok pattern := by
  rw [compile_source h, h]

theorem compile_of_asPattern {pattern : Pattern} (h : asPattern v = .ok pattern) :
    Pattern.compile pattern.source = .ok pattern := by
  obtain ⟨source, -, h⟩ := bind_eq_ok_iff.mp h
  split at h
  · next p hp =>
      cases h
      exact compile_again hp
  · cases h

/-- A patcher that runs no others can be written if its pattern is compiled. -/
theorem writable_leaf (h : p.toJson? = some v) (hdepth : v.depth ≤ n) (hchildren : p.children = [])
    (own : p.OwnCompiled) : Writable toJson? family.Sound n p :=
  ⟨v, h, hdepth, Json.Family.sound_leaf hchildren own⟩

/-- What is decoded of a tag's value can be written, if that holds of the patchers inside. -/
theorem writable_of_decodeTag {decode : Value → Except Mismatch Patcher}
    (inner : ∀ w q, decode w = .ok q → Writable toJson? family.Sound w.depth q)
    (h : decodeTag decode tag v = .ok p) : Writable toJson? family.Sound v.depth p := by
  cases tag with
  | replaceText =>
      obtain ⟨⟨find, replacement⟩, hrecord, hp⟩ := bind_eq_ok_iff.mp h
      cases hp
      exact writable_leaf rfl (Json.record2_from hrecord).1 rfl trivial
  | replacePattern =>
      obtain ⟨⟨pattern, replacement, isLiteral⟩, hrecord, hp⟩ := bind_eq_ok_iff.mp h
      cases hp
      obtain ⟨hdepth, hpattern, -⟩ := Json.record3_from hrecord
      obtain ⟨w, -, decoded⟩ := hpattern.exists_part rfl
      exact writable_leaf rfl hdepth rfl (compile_of_asPattern decoded)
  | require =>
      obtain ⟨text, hrecord, hp⟩ := bind_eq_ok_iff.mp h
      cases hp
      exact writable_leaf rfl (Json.record1_from hrecord).1 rfl trivial
  | append =>
      obtain ⟨text, hrecord, hp⟩ := bind_eq_ok_iff.mp h
      cases hp
      exact writable_leaf rfl (Json.record1_from hrecord).1 rfl trivial
  | overwrite =>
      obtain ⟨text, hrecord, hp⟩ := bind_eq_ok_iff.mp h
      cases hp
      exact writable_leaf rfl (Json.record1_from hrecord).1 rfl trivial
  | inMethod =>
      obtain ⟨⟨signature, patchers⟩, hrecord, hp⟩ := bind_eq_ok_iff.mp h
      cases hp
      obtain ⟨hdepth, -, hpatchers⟩ := Json.record2_from hrecord
      obtain ⟨w, inside, decoded⟩ := hpatchers.exists_part rfl
      obtain ⟨⟨vs, hvs, hvsdepth⟩, sound⟩ := Json.allWritable_of_asList inner decoded
      refine ⟨_, Option.map_eq_some_iff.mpr ⟨vs, listToJson?_eq patchers ▸ hvs, rfl⟩, ?_,
        Json.Family.sound_of_children trivial sound⟩
      refine Json.tagged_depth_le hdepth (List.forall_mem_cons.mpr ⟨hdepth, ?_⟩)
      exact List.forall_mem_singleton.mpr (Nat.lt_of_le_of_lt hvsdepth inside)
  | inConstant =>
      obtain ⟨⟨identifier, patcher⟩, hrecord, hp⟩ := bind_eq_ok_iff.mp h
      cases hp
      obtain ⟨hdepth, -, hpatcher⟩ := Json.record2_from hrecord
      obtain ⟨w, inside, decoded⟩ := hpatcher.exists_part rfl
      obtain ⟨u, hu, hudepth, sound⟩ := inner w patcher decoded
      refine ⟨_, Option.map_eq_some_iff.mpr ⟨u, hu, rfl⟩, ?_,
        Json.Family.sound_of_children trivial (List.forall_mem_singleton.mpr sound)⟩
      refine Json.tagged_depth_le hdepth (List.forall_mem_cons.mpr ⟨hdepth, ?_⟩)
      exact List.forall_mem_singleton.mpr (Nat.lt_of_le_of_lt hudepth inside)

/-! ## The laws of the family -/

theorem lawful : family.Lawful where
  tag_of_name tag := by cases tag <;> rfl
  smaller := sizeOf_lt_of_mem_children
  form := exists_form
  decoded := writable_of_decodeTag

/-- A patcher without custom transformations in it can be written. -/
theorem exists_toJson? (h : ∀ transform, ¬ Within (.custom transform) p) :
    ∃ v, p.toJson? = some v := by
  induction p using lawful.induction with
  | step p ih =>
      have inside (c : Patcher) (hc : c ∈ p.children) : ∃ v, c.toJson? = some v :=
        ih c hc fun transform inner => h transform (.child hc inner)
      cases p with
      | inMethod signature patchers =>
          obtain ⟨vs, hvs, -⟩ := Json.exists_values (P := fun _ => True) fun c hc =>
            (inside c hc).imp fun v hv => ⟨hv, trivial⟩
          exact ⟨_, Option.map_eq_some_iff.mpr ⟨vs, listToJson?_eq patchers ▸ hvs, rfl⟩⟩
      | inConstant identifier patcher =>
          obtain ⟨v, hv⟩ := inside patcher List.mem_cons_self
          exact ⟨_, Option.map_eq_some_iff.mpr ⟨v, hv, rfl⟩⟩
      | custom transform => exact absurd .self (h transform)
      | _ => exact ⟨_, rfl⟩

/-- A patcher is written if and only if no custom transformation stands in it. -/
theorem isSome_toJson?_iff : p.toJson?.isSome ↔ ∀ transform, ¬ Within (.custom transform) p := by
  constructor
  · intro h transform inner
    rw [toJson?_eq_none_of_within inner] at h
    cases h
  · intro h
    obtain ⟨v, hv⟩ := exists_toJson? h
    rw [hv]
    rfl

/-- What was written is decoded to the patcher. -/
theorem decode_of_toJson? (h : p.toJson? = some v) (compiled : p.Compiled) : decode v = .ok p :=
  (decode_eq v).trans (lawful.decodeUpTo_of_toJson? h compiled (Nat.le_succ _))

/-- What is decoded can be written, and is then nested no deeper. -/
theorem writable_of_decode (h : decode v = .ok p) : Writable toJson? Compiled v.depth p :=
  lawful.writable_of_decodeUpTo ((decode_eq v).symm.trans h)

/-- A document that is a patcher as it is written is read as the patcher. -/
theorem parse_compact (h : p.toJson? = some v) (compiled : p.Compiled)
    (hdepth : v.depth ≤ Json.Reader.maxDepth) : parse v.compact = .ok p :=
  Json.document_of_reads (lawful.printed h compiled hdepth decode_eq).reads

end PatchTrail.Patcher
