import PatchTrail.Proofs.Json.Printed

/-!
# Reading what was printed in its shape

The readers that check a value's shape while they read it find what was printed: texts, lists,
records whose fields are all written, and tagged values, whose members are read as values first and
decoded afterwards (`printed_taggedThen`). A document that is just one printed value is read as a
whole (`document_of_reads`).
-/

namespace PatchTrail.Json

open Reader

variable {α β τ : Type} {s t u : Text} {c : Char} {depth : Nat}

theorem firstOfValue_cons (h : isSpace c = false) (s : Text) :
    firstOfValue (c :: s) = .ok (c, c :: s) := by
  unfold firstOfValue
  rw [bind_of_ok (next?_cons h s)]
  rfl

/-- A text is read back. -/
theorem printed_text (t : Text) : Printed Reader.text (quote t) t := by
  refine ⟨fun rest => ?_, begins_value _ (by decide) (by decide)⟩
  unfold quote Reader.text
  rw [List.cons_append, List.append_assoc, bind_of_ok (firstOfValue_cons (by decide) _)]
  simp only [if_true]
  rw [bind_of_ok (advance_cons _ _)]
  exact quoted_flatMap t rest

/-- A list is read back. -/
theorem printed_list {element : Nat → Reader α} {ts : List Text} {as : List α}
    (h : List.Forall₂ (Printed (element depth)) ts as) :
    Printed (Reader.list element (depth + 1)) (bracketed '[' ']' ts) as := by
  refine ⟨fun rest => ?_, begins_value _ (by decide) (by decide)⟩
  unfold Reader.list
  rw [bracketed_append, bind_of_ok (firstOfValue_cons (by decide) _)]
  simp only [if_true]
  unfold descend
  simp only
  rw [bind_of_ok (advance_cons _ _)]
  exact inArray_of_ok (elements_joined h rest)

/-! ## Records -/

/-- What the members of an object lead to is read of the object. -/
theorem printed_members {σ : Type} {expected : Text} {ofArray : Nat → Reader α}
    {member : Nat → σ → Text → Reader σ} {finish : Nat → σ → Reader α} {state last : σ}
    {ms : List (Text × Text)} {a : α} (h : ReadsMembers (member depth) state ms last)
    (hfinish : finish depth last = pure a) :
    Printed (either expected ofArray (fun depth => members (member depth) state >>= finish depth)
      (depth + 1)) (bracketed '{' '}' (ms.map memberText)) a := by
  refine ⟨fun rest => ?_, begins_value _ (by decide) (by decide)⟩
  unfold either
  rw [bracketed_append, bind_of_ok (firstOfValue_cons (by decide) _)]
  simp only
  rw [if_neg (by decide)]
  simp only [if_true]
  unfold descend
  simp only
  rw [bind_of_ok (advance_cons _ _)]
  refine inObject_of_ok ((bind_of_ok (members_joined h rest)).trans ?_)
  rw [hfinish]
  rfl

/-- A field that has not been seen is read. -/
theorem reads_fill {f : Slot α} {a : α} (h : Reads (f.read depth) t a) :
    Reads (f.fill depth none) (':' :: t) (some a) := by
  intro rest
  unfold Slot.fill
  simp only
  rw [List.cons_append, bind_of_ok (colon_cons _), bind_of_ok (h rest)]
  rfl

/-- A record of one field is read back. -/
theorem printed_record1 {kind : Text} {f : Slot α} {a : α} (h : Reads (f.read depth) t a) :
    Printed (Reader.record1 kind f (depth + 1)) (bracketed '{' '}' [memberText (f.name, t)]) a := by
  refine printed_members (.cons (?_ : Reads _ _ (some a)) (.nil _)) rfl
  intro rest
  simp only [if_true]
  exact reads_fill h rest

/-- A record of two fields is read back. -/
theorem printed_record2 {kind : Text} {f : Slot α} {g : Slot β} {a : α} {b : β}
    (hname : g.name ≠ f.name) (hf : Reads (f.read depth) t a) (hg : Reads (g.read depth) u b) :
    Printed (Reader.record2 kind f g (depth + 1))
      (bracketed '{' '}' [memberText (f.name, t), memberText (g.name, u)]) (a, b) := by
  refine printed_members (.cons (?_ : Reads _ _ (some a, none))
    (.cons (?_ : Reads _ _ (some a, some b)) (.nil _))) rfl
  · intro rest
    simp only [if_true]
    rw [bind_of_ok (reads_fill hf rest)]
    rfl
  · intro rest
    simp only
    rw [if_neg hname]
    simp only [if_true]
    rw [bind_of_ok (reads_fill hg rest)]
    rfl

/-! ## Decoding members -/

section

variable {γ : Type} {record : Text} {f : RecordField α} {g : RecordField β} {h : RecordField γ}
  {x y z : Value} {a : α} {b : β} {c : γ}

theorem record1_object (hf : f.decode x = .ok a) :
    Json.record1 record f (.object [(f.name, x)]) = .ok a := by
  unfold Json.record1
  simp only [List.foldlM_cons, List.foldlM_nil, if_true, RecordField.fill, hf]
  rfl

theorem record2_object (hgf : g.name ≠ f.name) (hf : f.decode x = .ok a) (hg : g.decode y = .ok b) :
    Json.record2 record f g (.object [(f.name, x), (g.name, y)]) = .ok (a, b) := by
  unfold Json.record2
  simp only [List.foldlM_cons, List.foldlM_nil, if_true, if_neg hgf, RecordField.fill, hf, hg]
  rfl

theorem record3_object (hgf : g.name ≠ f.name) (hhf : h.name ≠ f.name) (hhg : h.name ≠ g.name)
    (hf : f.decode x = .ok a) (hg : g.decode y = .ok b) (hh : h.decode z = .ok c) :
    Json.record3 record f g h (.object [(f.name, x), (g.name, y), (h.name, z)]) =
      .ok (a, b, c) := by
  unfold Json.record3
  simp only [List.foldlM_cons, List.foldlM_nil, if_true, if_neg hgf, if_neg hhf, if_neg hhg,
    RecordField.fill, hf, hg, hh]
  rfl

end

/-! ## Tagged values -/

theorem tagged_depth_le_iff {name : Text} {ms : List (Text × Value)} {n : Nat} :
    (tagged name ms).depth ≤ n + 1 ↔ ∀ m ∈ ms, m.2.depth ≤ n := by
  unfold Json.tagged
  rw [depth_object_le_iff, List.forall_mem_cons]
  exact and_iff_right (Nat.zero_le n)

/-- A tagged value is nested one deeper than its members. -/
theorem tagged_depth_le {name : Text} {ms : List (Text × Value)} {n : Nat} (hn : 0 < n)
    (h : ∀ m ∈ ms, m.2.depth < n) : (tagged name ms).depth ≤ n := by
  obtain ⟨n, rfl⟩ := Nat.exists_eq_succ_of_ne_zero (Nat.ne_of_gt hn)
  exact tagged_depth_le_iff.mpr fun m hm => Nat.lt_succ_iff.mp (h m hm)

theorem not_tagName {ms : List (Text × Value)} {n : List Text} (hnames : ms.map Prod.fst = n)
    (h : tagName ∉ n) : ∀ m ∈ ms, m.1 ≠ tagName := by
  rintro m hm heq
  exact h (hnames ▸ List.mem_map.mpr ⟨m, hm, heq⟩)

theorem takeTag_others (tag : Value → Except Mismatch τ) (t : τ) {ms : List (Text × Value)}
    (hname : ∀ m ∈ ms, m.1 ≠ tagName) (others : List (Text × Value)) :
    takeTag tag ms (some t) others = .ok (t, .object (others.reverse ++ ms)) := by
  induction ms generalizing others with
  | nil =>
      rw [List.append_nil]
      rfl
  | cons m ms ih =>
      obtain ⟨hm, hms⟩ := List.forall_mem_cons.mp hname
      rw [takeTag.eq_def]
      simp only
      rw [if_neg hm, ih hms, List.reverse_cons, List.append_assoc]
      rfl

/-- The tag of a tagged value is taken out. -/
theorem untag_tagged {known : List (Text × τ)} {name : Text} {t : τ} {ms : List (Text × Value)}
    (kind : Text) (htag : tagOfText known name = .ok t) (hname : ∀ m ∈ ms, m.1 ≠ tagName) :
    untag kind (anyTag known) (tagged name ms) = .ok (t, .object ms) := by
  unfold Json.tagged untag
  simp only
  rw [takeTag.eq_def]
  simp only [if_true]
  have htext : anyTag known (.string name) = .ok t := htag
  rw [htext]
  exact takeTag_others _ t hname []

theorem reads_tag {known : List (Text × τ)} {name : Text} {tag : τ}
    (h : tagOfText known name = .ok tag) :
    Reads (Reader.tag known) (Value.string name).compact tag := by
  intro rest
  unfold Reader.tag
  rw [Value.compact, quote, List.cons_append, List.append_assoc,
    bind_of_ok (firstOfValue_cons (by decide) _)]
  simp only [if_true]
  rw [bind_of_ok (advance_cons _ _)]
  refine (bind_of_ok (quoted_flatMap name rest)).trans ?_
  rw [h]
  rfl

/-- What is read of the members behind a tag, the last member first. -/
theorem readsMembers_tagged (known : List (Text × τ)) (tag : τ) {ms : List (Text × Value)}
    (hname : ∀ m ∈ ms, m.1 ≠ tagName) (h : ∀ m ∈ ms, Reads (value depth) m.2.compact m.2)
    (done : List (Text × Value)) :
    ReadsMembers (fun ((seen : Option τ), (others : List (Text × Value))) name => do
        if name = tagName then
          match seen with
          | some _ => failLoose (.duplicateMember tagName)
          | none =>
            colon
            return (some (← Reader.tag known), others)
        else
          colon
          return (seen, (name, ← value depth) :: others))
      (some tag, done) (ms.map writtenMember) (some tag, ms.reverse ++ done) := by
  induction ms generalizing done with
  | nil => exact .nil _
  | cons m ms ih =>
      rw [List.reverse_cons, List.append_assoc]
      refine .cons (fun rest => ?_) (ih (fun m' hm' => hname m' (List.mem_cons_of_mem _ hm'))
        (fun m' hm' => h m' (List.mem_cons_of_mem _ hm')) (m :: done))
      simp only
      rw [if_neg (hname m List.mem_cons_self), List.cons_append, bind_of_ok (colon_cons _),
        bind_of_ok (h m List.mem_cons_self rest)]
      rfl

/-- A tagged value is read back as its tag and its members. -/
theorem printed_tagged (kind : Text) {known : List (Text × τ)} {name : Text} {tag : τ}
    {ms : List (Text × Value)} (htag : tagOfText known name = .ok tag)
    (hname : ∀ m ∈ ms, m.1 ≠ tagName) (hnumber : ∀ m ∈ ms, Numberless m.2)
    (hdepth : ∀ m ∈ ms, m.2.depth ≤ depth) :
    Printed (Reader.tagged kind known (depth + 1)) (tagged name ms).compact (tag, .object ms) := by
  have others := readsMembers_tagged known tag hname
    (fun m hm => (printed_value (hnumber m hm) (hdepth m hm)).reads) []
  unfold Json.tagged
  rw [compact_object, List.map_cons]
  refine printed_members (.cons (?_ : Reads _ _ (some tag, [])) others) ?_
  · intro rest
    simp only [if_true]
    rw [List.cons_append, bind_of_ok (colon_cons _), bind_of_ok (reads_tag htag rest)]
    rfl
  · simp only
    rw [List.append_nil, List.reverse_reverse]

/-- A tagged value is read back as what its members decode to. -/
theorem printed_taggedThen (kind : Text) {known : List (Text × τ)}
    {decode : τ → Value → Except Mismatch α} {name : Text} {tag : τ} {ms : List (Text × Value)}
    {a : α} (htag : tagOfText known name = .ok tag) (hname : ∀ m ∈ ms, m.1 ≠ tagName)
    (hnumber : ∀ m ∈ ms, Numberless m.2) (hdepth : ∀ m ∈ ms, m.2.depth ≤ depth)
    (hdecode : decode tag (.object ms) = .ok a) :
    Printed (taggedThen kind known decode (depth + 1)) (tagged name ms).compact a := by
  have printed := printed_tagged kind htag hname hnumber hdepth
  refine ⟨fun rest => ?_, printed.begins⟩
  unfold taggedThen
  rw [bind_of_ok (printed.reads rest)]
  simp only [hdecode]
  rfl

/-! ## Documents -/

/-- A document that is just what a reader takes off its front is read as a whole. -/
theorem document_of_reads {body : Nat → Reader α} {a : α} (h : Reads (body maxDepth) t a) :
    document body t = .ok a := by
  have h := h []
  rw [List.append_nil] at h
  unfold document
  simp only
  rw [bind_of_ok h]
  rfl

end PatchTrail.Json
