import PatchTrail.Proofs.Json.Decoded
import PatchTrail.Proofs.Json.PrintedShape

/-!
# Families of tagged values

Things of some kind are written as tagged values, and others of the same kind may stand in them. For
such a family it is enough to know how one thing is written if it is known how those in it are
(`Family.Form`), and that what is decoded of a tag's value can be written if that holds of what is
decoded inside (`Lawful.decoded`). From that, by induction on what stands in a thing, what was
written is decoded and read as the thing (`Lawful.decodeUpTo_of_toJson?`, `Lawful.printed`), and by
induction on the depth, what was decoded can be written (`Lawful.writable_of_decodeUpTo`).

What stands in a thing often stands there as a list. Things that can each be written, nested at most
so deep, can be written as an array. What is decoded or read as a list is such a list if that holds
of its elements (`allWritable_of_asList`, `yields_allWritable`), and the array that was written is
decoded and read as the list (`asList_values`, `printed_values`).
-/

namespace PatchTrail.Json

/-! ## Lists that can be written -/

section Lists

variable {α : Type} {write : α → Option Value} {Sound : α → Prop} {as : List α} {v : Value}
  {vs : List Value} {n depth : Nat}

/-- A thing can be written, nested at most so deep, and can be read again. -/
def Writable (write : α → Option Value) (Sound : α → Prop) (n : Nat) (a : α) : Prop :=
  ∃ v, write a = some v ∧ v.depth ≤ n ∧ Sound a

/-- The things of a list can be written as an array, nested at most so deep, and can be read
again. -/
def AllWritable (write : α → Option Value) (Sound : α → Prop) (n : Nat) (as : List α) : Prop :=
  (∃ vs, as.mapM write = some vs ∧ (Value.array vs).depth ≤ n) ∧ ∀ a ∈ as, Sound a

theorem exists_values {P : Value → Prop} (h : ∀ a ∈ as, ∃ v, write a = some v ∧ P v) :
    ∃ vs, as.mapM write = some vs ∧ ∀ v ∈ vs, P v := by
  induction as with
  | nil => exact ⟨[], rfl, fun v hv => absurd hv List.not_mem_nil⟩
  | cons a as ih =>
      obtain ⟨⟨v, hv, hP⟩, has⟩ := List.forall_mem_cons.mp h
      obtain ⟨vs, hvs, hPs⟩ := ih has
      refine ⟨v :: vs, ?_, List.forall_mem_cons.mpr ⟨hP, hPs⟩⟩
      rw [List.mapM_cons, hv, hvs]
      rfl

theorem allWritable_of_forall (h : ∀ a ∈ as, Writable write Sound n a) :
    AllWritable write Sound (n + 1) as := by
  constructor
  · obtain ⟨vs, hvs, hdepth⟩ := exists_values (P := fun v => v.depth ≤ n) fun a ha => by
      obtain ⟨v, hv, hdepth, -⟩ := h a ha
      exact ⟨v, hv, hdepth⟩
    exact ⟨vs, hvs, depth_array_le_iff.mpr hdepth⟩
  · intro a ha
    obtain ⟨-, -, -, sound⟩ := h a ha
    exact sound

/-- A list that was decoded can be written, and its array is then nested no deeper. -/
theorem allWritable_of_asList {decode : Value → Except Mismatch α}
    (inner : ∀ w a, decode w = .ok a → Writable write Sound w.depth a)
    (h : asList decode v = .ok as) : AllWritable write Sound v.depth as := by
  obtain ⟨hpos, hparts⟩ := parts_of_asList h
  obtain ⟨n, hn⟩ := Nat.exists_eq_succ_of_ne_zero (Nat.ne_of_gt hpos)
  rw [hn]
  refine allWritable_of_forall fun a ha => ?_
  obtain ⟨w, hdepth, hdecode⟩ := hparts a ha
  obtain ⟨u, hu, hudepth, sound⟩ := inner w a hdecode
  exact ⟨u, hu, by omega, sound⟩

/-- A list that was read can be written, nested no deeper than its reader allows. -/
theorem yields_allWritable {element : Nat → Reader α}
    (h : ∀ d, Yields (element d) (Writable write Sound d)) (depth : Nat) :
    Yields (Reader.list element depth) (AllWritable write Sound depth) := by
  refine (Yields.list h depth).mono ?_
  rintro as ⟨d, rfl, has⟩
  exact allWritable_of_forall has

/-! ## The values of a list -/

theorem numberless_values (h : as.mapM write = some vs)
    (inner : ∀ a ∈ as, ∀ v, write a = some v → Numberless v) : Numberless (.array vs) := by
  refine .array fun v hv => ?_
  obtain ⟨a, ha, hav⟩ := exists_of_mem_right (mapM_eq_some_iff.mp h) hv
  exact inner a ha v hav

theorem exists_value_depth_lt (h : as.mapM write = some vs) {a : α} (ha : a ∈ as) :
    ∃ v, write a = some v ∧ v.depth < (Value.array vs).depth := by
  obtain ⟨v, hv, hav⟩ := exists_of_mem_left (mapM_eq_some_iff.mp h) ha
  exact ⟨v, hav, depth_lt_of_mem_array hv⟩

/-- What the written values stand in relation to, if each does to what it was written from. -/
theorem forall₂_values {R : Value → α → Prop} (h : as.mapM write = some vs)
    (inner : ∀ a ∈ as, ∀ v, write a = some v → R v a) : List.Forall₂ R vs as := by
  have among := (List.forall₂_and_left _ _).mpr
    ⟨fun a (ha : a ∈ as) => ha, mapM_eq_some_iff.mp h⟩
  exact List.Forall₂.flip (among.imp fun a v hav => inner a hav.1 v hav.2)

/-- The array that was written is decoded to the list. -/
theorem asList_values {decode : Value → Except Mismatch α} (h : as.mapM write = some vs)
    (inner : ∀ a ∈ as, ∀ v, write a = some v → decode v = .ok a) :
    asList decode (.array vs) = .ok as :=
  mapM_eq_ok_iff.mpr (forall₂_values h inner)

/-- The array that was written is read as the list. -/
theorem printed_values {element : Nat → Reader α} (h : as.mapM write = some vs)
    (hdepth : (Value.array vs).depth ≤ depth)
    (inner : ∀ a ∈ as, ∀ v d, write a = some v → v.depth ≤ d → Printed (element d) v.compact a) :
    Printed (Reader.list element depth) (Value.array vs).compact as := by
  cases depth with
  | zero => cases hdepth
  | succ depth =>
      rw [compact_array]
      refine printed_list (List.forall₂_map_left_iff.mpr (forall₂_values h fun a ha v hv => ?_))
      obtain ⟨w, hw, hwdepth⟩ := exists_value_depth_lt h ha
      rw [hv] at hw
      cases hw
      exact inner a ha v depth hv (Nat.lt_succ_iff.mp (Nat.lt_of_lt_of_le hwdepth hdepth))

end Lists

/-! ## Families -/

variable {α τ : Type}

/-- A thing is another or stands somewhere inside of it. -/
inductive Within (children : α → List α) (b : α) : α → Prop where
  | self : Within children b b
  | child {a c : α} (h : c ∈ children a) (inner : Within children b c) : Within children b a

/-- How the things of a kind are written and decoded: the value of one, those of the same kind that
stand directly in it, what has to hold of it, apart from them, to be decoded from its value, and the
tags. -/
structure Family (α τ : Type) where
  toJson? : α → Option Value
  children : α → List α
  Own : α → Prop
  kind : Text
  name : τ → Text
  known : List (Text × τ)
  decodeTag : (Value → Except Mismatch α) → τ → Value → Except Mismatch α

namespace Family

variable {F : Family α τ} {a c : α} {v : Value} {tag : τ} {ms : List (Text × Value)}
  {n depth : Nat}

/-! ## Things inside of things -/

/-- A thing will be decoded from its value. -/
def Sound (F : Family α τ) (a : α) : Prop := ∀ b, Within F.children b a → F.Own b

theorem Sound.own (h : F.Sound a) : F.Own a := h a .self

theorem Sound.child (h : F.Sound a) (hc : c ∈ F.children a) : F.Sound c :=
  fun b inner => h b (.child hc inner)

theorem sound_of_children (own : F.Own a) (inner : ∀ c ∈ F.children a, F.Sound c) :
    F.Sound a := by
  intro b within
  cases within with
  | self => exact own
  | child hc within => exact inner _ hc b within

theorem sound_leaf (hchildren : F.children a = []) (own : F.Own a) : F.Sound a := by
  refine sound_of_children own fun c hc => ?_
  rw [hchildren] at hc
  exact absurd hc List.not_mem_nil

/-! ## Written members -/

/-- The value of a thing has a tag and these members, which hold the values of the things in it, and
the members are decoded to the thing. -/
structure Form (F : Family α τ) (a : α) (tag : τ) (ms : List (Text × Value)) : Prop where
  names : ∀ m ∈ ms, m.1 ≠ tagName
  numberless : (∀ c ∈ F.children a, ∀ v, F.toJson? c = some v → Numberless v) →
    ∀ m ∈ ms, Numberless m.2
  inside : ∀ c ∈ F.children a, ∃ v, F.toJson? c = some v ∧ v.depth < (tagged (F.name tag) ms).depth
  decodes : ∀ decode, (∀ c ∈ F.children a, ∀ v, F.toJson? c = some v → decode v = .ok c) →
    F.Own a → F.decodeTag decode tag (.object ms) = .ok a

/-- A thing with no others in it has a form if its members have no numbers in them, and it is
decoded from them. -/
theorem Form.leaf {n : List Text} (hchildren : F.children a = [])
    (hnames : ms.map Prod.fst = n) (hname : tagName ∉ n)
    (hnumber : ∀ m ∈ ms, Numberless m.2)
    (hdecode : F.Own a → ∀ decode, F.decodeTag decode tag (.object ms) = .ok a) :
    F.Form a tag ms := by
  refine ⟨not_tagName hnames hname, fun _ => hnumber, ?_, fun decode _ own => hdecode own decode⟩
  intro c hc
  rw [hchildren] at hc
  exact absurd hc List.not_mem_nil

/-- What a family has to satisfy. -/
structure Lawful [SizeOf α] (F : Family α τ) : Prop where
  tag_of_name : ∀ t, tagOfText F.known (F.name t) = .ok t
  smaller : ∀ {a c}, c ∈ F.children a → sizeOf c < sizeOf a
  form : ∀ {a v}, F.toJson? a = some v → ∃ tag ms, v = tagged (F.name tag) ms ∧ F.Form a tag ms
  decoded : ∀ {decode tag v a},
    (∀ w b, decode w = .ok b → Writable F.toJson? F.Sound w.depth b) →
      F.decodeTag decode tag v = .ok a → Writable F.toJson? F.Sound v.depth a

/-- Decodes a thing that is nested at most `depth` deep. -/
def decodeUpTo (F : Family α τ) : (depth : Nat) → Value → Except Mismatch α
  | 0, v => .error (.wrongKind v.found (taggedKind F.kind))
  | depth + 1, v => do
    let (tag, rest) ← untag F.kind (anyTag F.known) v
    F.decodeTag (F.decodeUpTo depth) tag rest

namespace Lawful

variable [SizeOf α] (lawful : F.Lawful)

include lawful

/-- What holds of a thing whenever it holds of those in it holds of all. -/
theorem induction {motive : α → Prop} (step : ∀ a, (∀ c ∈ F.children a, motive c) → motive a)
    (a : α) : motive a :=
  step a fun c hc => have := lawful.smaller hc; induction step c
termination_by sizeOf a

theorem numberless (h : F.toJson? a = some v) : Numberless v := by
  induction a using lawful.induction generalizing v with
  | step a ih =>
      obtain ⟨tag, ms, rfl, form⟩ := lawful.form h
      exact .object (List.forall_mem_cons.mpr ⟨.string _, form.numberless fun c hc w => ih c hc⟩)

/-- What was written is decoded to the thing. -/
theorem decodeUpTo_of_toJson? (h : F.toJson? a = some v) (sound : F.Sound a) (hn : v.depth ≤ n) :
    F.decodeUpTo n v = .ok a := by
  induction a using lawful.induction generalizing v n with
  | step a ih =>
      obtain ⟨tag, ms, rfl, form⟩ := lawful.form h
      cases n with
      | zero => cases hn
      | succ n =>
          rw [decodeUpTo, untag_tagged F.kind (lawful.tag_of_name tag) form.names]
          refine form.decodes (F.decodeUpTo n) (fun c hc w hw => ?_) sound.own
          obtain ⟨w', hw', hdepth⟩ := form.inside c hc
          rw [hw] at hw'
          cases hw'
          exact ih c hc hw (sound.child hc) (by omega)

/-- What was written is read as the thing, unless it is nested too deep. -/
theorem printed (h : F.toJson? a = some v) (sound : F.Sound a) (hdepth : v.depth ≤ depth)
    {decode : Value → Except Mismatch α} (hdecode : ∀ v, decode v = F.decodeUpTo (v.depth + 1) v) :
    Printed (Reader.taggedThen F.kind F.known (F.decodeTag decode) depth) v.compact a := by
  obtain ⟨tag, ms, rfl, form⟩ := lawful.form h
  cases depth with
  | zero => cases hdepth
  | succ depth =>
      refine printed_taggedThen F.kind (lawful.tag_of_name tag) form.names
        (form.numberless fun c hc w hw => lawful.numberless hw) (tagged_depth_le_iff.mp hdepth) ?_
      refine form.decodes decode (fun c hc w hw => ?_) sound.own
      rw [hdecode]
      exact lawful.decodeUpTo_of_toJson? hw (sound.child hc) (Nat.le_succ _)

/-- What was decoded can be written, and is then nested no deeper. -/
theorem writable_of_decodeUpTo (h : F.decodeUpTo n v = .ok a) :
    Writable F.toJson? F.Sound v.depth a := by
  induction n generalizing v a with
  | zero => cases h
  | succ n ih =>
      obtain ⟨⟨tag, rest⟩, huntag, hdecode⟩ := bind_eq_ok_iff.mp h
      obtain ⟨u, hu, hdepth, sound⟩ := lawful.decoded (fun w b hb => ih hb) hdecode
      exact ⟨u, hu, Nat.le_trans hdepth (untag_depth_le huntag), sound⟩

/-- What a reader of tagged values returns can be written, nested no deeper than the reader
allows. -/
theorem yields {decode : Value → Except Mismatch α}
    (hdecode : ∀ v, decode v = F.decodeUpTo (v.depth + 1) v) (depth : Nat) :
    Yields (Reader.taggedThen F.kind F.known (F.decodeTag decode) depth)
      (Writable F.toJson? F.Sound depth) := by
  refine (yields_taggedThen F.kind F.known (F.decodeTag decode) depth).mono ?_
  rintro a ⟨tag, v, hdepth, h⟩
  obtain ⟨u, hu, hudepth, sound⟩ := lawful.decoded
    (fun w b hb => lawful.writable_of_decodeUpTo (n := w.depth + 1) (hdecode w ▸ hb)) h
  exact ⟨u, hu, Nat.le_trans hudepth hdepth, sound⟩

end Lawful

end Family

end PatchTrail.Json
