import PatchTrail.Json.Printer
import PatchTrail.Proofs.Json.Yields
import PatchTrail.Proofs.Text.Pieces
import Mathlib.Data.List.Forall2

/-!
# Reading what was printed

What was printed without spaces is read back, whatever stands behind it (`Reads`). The loops that
read elements and members are followed for any reader of one of them, so the same lemmas serve
values (`printed_value`) and what is checked for its shape while it is read (`printed_list`,
`printed_record1`, `printed_record2`, `printed_taggedThen`). Numbers are left out, because where a
number ends depends on what stands behind it.
-/

namespace PatchTrail.Json

open Reader

variable {α β σ τ : Type} {s t rest : Text} {c : Char}

/-- A reader takes a text off the front of any document and returns a value for it. -/
def Reads (r : Reader α) (t : Text) (a : α) : Prop := ∀ rest, r (t ++ rest) = .ok (a, rest)

theorem bind_of_ok {r : Reader α} {f : α → Reader β} {a : α} (h : r s = .ok (a, rest)) :
    (r >>= f) s = f a rest := by
  change (r s >>= fun p => f p.1 p.2) = _
  rw [h]
  rfl

theorem next?_cons (h : isSpace c = false) (s : Text) : next? (c :: s) = .ok (some c, c :: s) := by
  unfold next?
  rw [List.dropWhile_cons_of_neg (by rw [h]; decide)]
  rfl

theorem advance_cons (c : Char) (s : Text) : advance (c :: s) = .ok ((), s) := rfl

/-! ## Texts between quotes -/

theorem unit?_digitChar {n : Nat} (h : n < 0x20) :
    unit? '0' '0' (Nat.digitChar (n / 16)) (Nat.digitChar (n % 16)) = some n := by
  have all : ∀ n < 0x20,
      unit? '0' '0' (Nat.digitChar (n / 16)) (Nat.digitChar (n % 16)) = some n := by
    decide
  exact all n h

/-- A character as it is written between quotes is read back. -/
theorem quotedTail_escapeChar (c : Char) (s : Text) :
    quotedTail (escapeChar c ++ s) = consRead c (quotedTail s) := by
  unfold escapeChar
  split
  · next h => rw [h]; rfl
  split
  · next h => rw [h]; rfl
  split
  · next h => rw [h]; rfl
  split
  · next h => rw [h]; rfl
  split
  · next h => rw [h]; rfl
  split
  · next h => rw [h]; rfl
  split
  · next h => rw [h]; rfl
  split
  · next h =>
      have trailing : isTrailing c.toNat = false := by
        unfold isTrailing
        rw [Bool.and_eq_false_iff, decide_eq_false_iff_not]
        exact .inl (by omega)
      have leading : isLeading c.toNat = false := by
        unfold isLeading
        rw [Bool.and_eq_false_iff, decide_eq_false_iff_not]
        exact .inl (by omega)
      simp only [List.cons_append, List.nil_append]
      rw [quotedTail]
      simp only [unit?_digitChar h, trailing, leading, Char.ofNat_toNat]
      rfl
  · next hquote hback _ _ _ _ _ hcontrol =>
      rw [List.singleton_append, quotedTail, if_neg hcontrol]
      · exact hquote
      · exact hback

/-- A text between quotes is read back. -/
theorem quoted_flatMap (t rest : Text) :
    quoted (t.flatMap escapeChar ++ '"' :: rest) = .ok (t, rest) := by
  unfold quoted
  induction t with
  | nil => rfl
  | cons c t ih =>
      rw [List.flatMap_cons, List.append_assoc, quotedTail_escapeChar, ih]
      rfl

/-! ## Parts between brackets -/

/-- A reader takes a text off the front of any document, and the text begins like a value: with
neither a space nor the end of an array. -/
structure Printed (r : Reader α) (t : Text) (a : α) : Prop where
  reads : Reads r t a
  begins : ∃ c u, t = c :: u ∧ isSpace c = false ∧ c ≠ ']'

/-- Parts between brackets, with commas between them. -/
def bracketed (opening closing : Char) (parts : List Text) : Text :=
  opening :: (Text.join [','] parts ++ [closing])

theorem bracketed_append (opening closing : Char) (parts : List Text) (rest : Text) :
    bracketed opening closing parts ++ rest =
      opening :: (Text.join [','] parts ++ closing :: rest) := by
  unfold bracketed
  rw [List.cons_append, List.append_assoc]
  rfl

theorem join_cons (t : Text) (ts : List Text) :
    Text.join [','] (t :: ts) = t ++ ts.flatMap (',' :: ·) := by
  induction ts generalizing t with
  | nil => exact (List.append_nil t).symm
  | cons u ts ih =>
      rw [Text.join, ih, List.flatMap_cons, List.append_assoc]
      rfl

theorem length_le_flatMap (ts : List Text) : ts.length ≤ (ts.flatMap (',' :: ·)).length := by
  induction ts with
  | nil => exact Nat.le_refl 0
  | cons t ts ih =>
      rw [List.flatMap_cons, List.length_append, List.length_cons, List.length_cons]
      omega

/-! ## Arrays -/

theorem hasElement_close (first : Bool) (rest : Text) :
    hasElement first (']' :: rest) = .ok (false, ']' :: rest) := by
  unfold hasElement
  rw [bind_of_ok (next?_cons (by decide) rest)]
  rfl

theorem hasElement_first {r : Reader α} {a : α} (h : Printed r t a) (rest : Text) :
    hasElement true (t ++ rest) = .ok (true, t ++ rest) := by
  obtain ⟨c, u, rfl, hspace, hclose⟩ := h.begins
  unfold hasElement
  rw [List.cons_append, bind_of_ok (next?_cons hspace _)]
  simp only
  rw [if_neg hclose]
  rfl

theorem hasElement_comma {r : Reader α} {a : α} (h : Printed r t a) (rest : Text) :
    hasElement false (',' :: (t ++ rest)) = .ok (true, t ++ rest) := by
  obtain ⟨c, u, rfl, hspace, hclose⟩ := h.begins
  unfold hasElement
  rw [List.cons_append, bind_of_ok (next?_cons (by decide) _)]
  simp only
  rw [if_neg (by decide), if_neg (by decide)]
  simp only [if_true]
  rw [bind_of_ok (advance_cons _ _), bind_of_ok (next?_cons hspace _)]
  simp only
  rw [if_neg hclose]
  rfl

/-- Elements behind the first are read up to the closing bracket. -/
theorem elementsUpTo_more {element : Reader α} {ts : List Text} {as : List α}
    (h : List.Forall₂ (Printed element) ts as) {bound : Nat} (hbound : ts.length < bound)
    (rest : Text) :
    elementsUpTo element bound false (ts.flatMap (',' :: ·) ++ ']' :: rest) =
      .ok (as, ']' :: rest) := by
  induction h generalizing bound with
  | nil =>
      cases bound with
      | zero => cases hbound
      | succ bound =>
          rw [elementsUpTo, List.flatMap_nil, List.nil_append,
            bind_of_ok (hasElement_close false rest)]
          rfl
  | cons ht hts ih =>
      cases bound with
      | zero => cases hbound
      | succ bound =>
          rw [elementsUpTo, List.flatMap_cons, List.append_assoc, List.cons_append,
            bind_of_ok (hasElement_comma ht _)]
          simp only [if_true]
          rw [bind_of_ok (ht.reads _), bind_of_ok (ih (by simpa using hbound))]
          rfl

/-- The elements of an array are read up to the closing bracket. -/
theorem elements_joined {element : Reader α} {ts : List Text} {as : List α}
    (h : List.Forall₂ (Printed element) ts as) (rest : Text) :
    elements element (Text.join [','] ts ++ ']' :: rest) = .ok (as, ']' :: rest) := by
  unfold elements
  rw [elementsUpTo]
  cases h with
  | nil =>
      rw [Text.join, List.nil_append, bind_of_ok (hasElement_close true rest)]
      rfl
  | @cons t a ts as ht hts =>
      have enough : ts.length < (Text.join [','] (t :: ts) ++ ']' :: rest).length := by
        have := length_le_flatMap ts
        rw [join_cons, List.length_append, List.length_append, List.length_cons]
        omega
      have more := elementsUpTo_more hts enough rest
      rw [join_cons] at more ⊢
      rw [List.append_assoc] at more ⊢
      rw [bind_of_ok (hasElement_first ht _)]
      simp only [if_true]
      rw [bind_of_ok (ht.reads _), bind_of_ok more]
      rfl

theorem inArray_of_ok {body : Reader α} {a : α} (h : body s = .ok (a, ']' :: rest)) :
    inArray body s = .ok (a, rest) := by
  unfold inArray enclosed
  rw [h]
  rfl

/-! ## Objects -/

/-- A member as it is written: its name between quotes, a colon and its value. -/
def memberText (m : Text × Text) : Text := quote m.1 ++ ':' :: m.2

/-- The rest of each member is read one after the other, each with the state that the one before it
left. -/
inductive ReadsMembers (member : σ → Text → Reader σ) : σ → List (Text × Text) → σ → Prop where
  | nil (state : σ) : ReadsMembers member state [] state
  | cons {state next last : σ} {name t : Text} {ms : List (Text × Text)}
      (first : Reads (member state name) (':' :: t) next)
      (more : ReadsMembers member next ms last) :
      ReadsMembers member state ((name, t) :: ms) last

theorem colon_cons (rest : Text) : colon (':' :: rest) = .ok ((), rest) := by
  unfold colon
  rw [bind_of_ok (next?_cons (by decide) rest)]
  rfl

theorem hasMember_close (first : Bool) (rest : Text) :
    hasMember first ('}' :: rest) = .ok (false, '}' :: rest) := by
  unfold hasMember
  rw [bind_of_ok (next?_cons (by decide) rest)]
  rfl

theorem memberText_append (m : Text × Text) (rest : Text) :
    memberText m ++ rest = '"' :: (m.1.flatMap escapeChar ++ '"' :: (':' :: m.2 ++ rest)) := by
  unfold memberText quote
  simp only [List.cons_append, List.append_assoc, List.nil_append]

theorem hasMember_first (m : Text × Text) (rest : Text) :
    hasMember true (memberText m ++ rest) = .ok (true, memberText m ++ rest) := by
  rw [memberText_append]
  unfold hasMember
  rw [bind_of_ok (next?_cons (by decide) _)]
  rfl

theorem hasMember_comma (m : Text × Text) (rest : Text) :
    hasMember false (',' :: (memberText m ++ rest)) = .ok (true, memberText m ++ rest) := by
  rw [memberText_append]
  unfold hasMember
  rw [bind_of_ok (next?_cons (by decide) _)]
  rfl

/-- A member is read, and then those behind it. -/
theorem membersUpTo_step {member : σ → Text → Reader σ} {state next : σ} {name t : Text}
    (h : Reads (member state name) (':' :: t) next) {bound : Nat} {first : Bool} {before : Text}
    (has : hasMember first before = .ok (true, memberText (name, t) ++ rest)) :
    membersUpTo member (bound + 1) first state before =
      membersUpTo member bound false next rest := by
  rw [membersUpTo, bind_of_ok has]
  simp only [if_true]
  rw [memberText_append, bind_of_ok (advance_cons _ _), bind_of_ok (quoted_flatMap name _),
    bind_of_ok (h rest)]

/-- Members behind the first are read up to the closing bracket. -/
theorem membersUpTo_more {member : σ → Text → Reader σ} {state last : σ} {ms : List (Text × Text)}
    (h : ReadsMembers member state ms last) {bound : Nat} (hbound : ms.length < bound)
    (rest : Text) :
    membersUpTo member bound false state ((ms.map memberText).flatMap (',' :: ·) ++ '}' :: rest) =
      .ok (last, '}' :: rest) := by
  induction h generalizing bound with
  | nil state =>
      cases bound with
      | zero => cases hbound
      | succ bound =>
          rw [membersUpTo, List.map_nil, List.flatMap_nil, List.nil_append,
            bind_of_ok (hasMember_close false rest)]
          rfl
  | @cons state next last name t ms first more ih =>
      cases bound with
      | zero => cases hbound
      | succ bound =>
          rw [List.map_cons, List.flatMap_cons, List.append_assoc, List.cons_append,
            membersUpTo_step first (hasMember_comma (name, t) _)]
          exact ih (by simpa using hbound)

/-- The members of an object are read up to the closing bracket. -/
theorem members_joined {member : σ → Text → Reader σ} {state last : σ} {ms : List (Text × Text)}
    (h : ReadsMembers member state ms last) (rest : Text) :
    members member state (Text.join [','] (ms.map memberText) ++ '}' :: rest) =
      .ok (last, '}' :: rest) := by
  unfold members
  cases h with
  | nil =>
      rw [membersUpTo, List.map_nil, Text.join, List.nil_append,
        bind_of_ok (hasMember_close true rest)]
      rfl
  | @cons _ next _ name t ms first more =>
      have enough : ms.length <
          (Text.join [','] (((name, t) :: ms).map memberText) ++ '}' :: rest).length := by
        have := length_le_flatMap (ms.map memberText)
        rw [List.length_map] at this
        rw [List.map_cons, join_cons, List.length_append, List.length_append, List.length_cons]
        omega
      have more := membersUpTo_more more enough rest
      rw [List.map_cons, join_cons] at more ⊢
      rw [List.append_assoc] at more ⊢
      rw [membersUpTo_step first (hasMember_first (name, t) _)]
      exact more

theorem inObject_of_ok {body : Reader α} {a : α} (h : body s = .ok (a, '}' :: rest)) :
    inObject body s = .ok (a, rest) := by
  unfold inObject enclosed
  rw [h]
  rfl

/-! ## Values -/

/-- A value in which no number occurs. -/
inductive Numberless : Value → Prop where
  | null : Numberless .null
  | boolean (b : Bool) : Numberless (.boolean b)
  | string (t : Text) : Numberless (.string t)
  | array {vs : List Value} (elements : ∀ v ∈ vs, Numberless v) : Numberless (.array vs)
  | object {ms : List (Text × Value)} (members : ∀ m ∈ ms, Numberless m.2) : Numberless (.object ms)

theorem compactElements_eq (vs : List Value) :
    compactElements vs = Text.join [','] (vs.map Value.compact) := by
  induction vs with
  | nil => rfl
  | cons v vs ih =>
      cases vs with
      | nil => rfl
      | cons w vs =>
          rw [compactElements, ih]
          simp only [List.map_cons, Text.join, List.append_assoc, List.singleton_append]

theorem compact_array (vs : List Value) :
    (Value.array vs).compact = bracketed '[' ']' (vs.map Value.compact) := by
  rw [Value.compact, compactElements_eq]
  rfl

/-- A member with its value as it is written. -/
def writtenMember (m : Text × Value) : Text × Text := (m.1, m.2.compact)

theorem compactMembers_eq (ms : List (Text × Value)) :
    compactMembers ms = Text.join [','] ((ms.map writtenMember).map memberText) := by
  induction ms with
  | nil => rfl
  | cons m ms ih =>
      cases ms with
      | nil => rfl
      | cons m' ms =>
          rw [compactMembers, ih]
          simp only [List.map_cons, Text.join, List.append_assoc, memberText, writtenMember,
            List.cons_append, List.nil_append]

theorem compact_object (ms : List (Text × Value)) :
    (Value.object ms).compact = bracketed '{' '}' ((ms.map writtenMember).map memberText) := by
  rw [Value.compact, compactMembers_eq]
  rfl

theorem value_scalar (h : isSpace c = false) (hbracket : c ≠ '[') (hbrace : c ≠ '{') (depth : Nat)
    (s : Text) : value depth (c :: s) = scalar c (c :: s) := by
  cases depth with
  | zero =>
      rw [value, bind_of_ok (next?_cons h s)]
      simp only
      rw [if_neg (by simp [hbracket, hbrace])]
  | succ depth =>
      rw [value, bind_of_ok (next?_cons h s)]
      simp only
      rw [if_neg hbracket, if_neg hbrace]

theorem begins_value {c : Char} (u : Text) (hspace : isSpace c = false) (hclose : c ≠ ']') :
    ∃ d w, c :: u = d :: w ∧ isSpace d = false ∧ d ≠ ']' := ⟨c, u, rfl, hspace, hclose⟩

/-- What is read of an object's members, the last member first. -/
theorem readsMembers_value {depth : Nat} {ms : List (Text × Value)}
    (h : ∀ m ∈ ms, Reads (value depth) m.2.compact m.2) (done : List (Text × Value)) :
    ReadsMembers (fun done name => do
      colon
      return (name, ← value depth) :: done) done (ms.map writtenMember) (ms.reverse ++ done) := by
  induction ms generalizing done with
  | nil => exact .nil done
  | cons m ms ih =>
      rw [List.reverse_cons, List.append_assoc]
      refine .cons (fun rest => ?_)
        (ih (fun m' hm' => h m' (List.mem_cons_of_mem _ hm')) (m :: done))
      rw [List.cons_append, bind_of_ok (colon_cons _), bind_of_ok (h m List.mem_cons_self rest)]
      rfl

/-- A value without numbers that was printed is read back, if it is not nested too deep. -/
theorem printed_value {v : Value} (h : Numberless v) {depth : Nat} (hdepth : v.depth ≤ depth) :
    Printed (value depth) v.compact v := by
  induction h generalizing depth with
  | null =>
      refine ⟨fun rest => ?_, begins_value _ (by decide) (by decide)⟩
      exact value_scalar (by decide) (by decide) (by decide) depth ("ull" ++ rest)
  | boolean b =>
      cases b with
      | false =>
          refine ⟨fun rest => ?_, begins_value _ (by decide) (by decide)⟩
          exact value_scalar (by decide) (by decide) (by decide) depth ("alse" ++ rest)
      | true =>
          refine ⟨fun rest => ?_, begins_value _ (by decide) (by decide)⟩
          exact value_scalar (by decide) (by decide) (by decide) depth ("rue" ++ rest)
  | string t =>
      refine ⟨fun rest => ?_, begins_value _ (by decide) (by decide)⟩
      have scalar_quote : scalar '"' = (do advance; return .string (← quoted)) := rfl
      rw [Value.compact, quote, List.cons_append, List.append_assoc,
        value_scalar (by decide) (by decide) (by decide), scalar_quote,
        bind_of_ok (advance_cons _ _)]
      exact bind_of_ok (quoted_flatMap t rest)
  | @array vs elements ih =>
      rw [compact_array]
      refine ⟨fun rest => ?_, begins_value _ (by decide) (by decide)⟩
      cases depth with
      | zero => cases hdepth
      | succ depth =>
          have parts : List.Forall₂ (Printed (value depth)) (vs.map Value.compact) vs := by
            rw [List.forall₂_map_left_iff, List.forall₂_same]
            exact fun v hv => ih v hv (depth_array_le_iff.mp hdepth v hv)
          rw [bracketed_append, value, bind_of_ok (next?_cons (by decide) _)]
          simp only [if_true]
          rw [bind_of_ok (advance_cons _ _),
            bind_of_ok (inArray_of_ok (elements_joined parts rest))]
          rfl
  | @object ms members ih =>
      rw [compact_object]
      refine ⟨fun rest => ?_, begins_value _ (by decide) (by decide)⟩
      cases depth with
      | zero => cases hdepth
      | succ depth =>
          have parts := readsMembers_value (fun m hm =>
            (ih m hm (depth_object_le_iff.mp hdepth m hm)).reads) []
          rw [bracketed_append, value, bind_of_ok (next?_cons (by decide) _)]
          simp only
          rw [if_neg (by decide)]
          simp only [if_true]
          rw [bind_of_ok (advance_cons _ _),
            bind_of_ok (inObject_of_ok (members_joined parts rest)), List.append_nil,
            List.reverse_reverse]
          rfl

end PatchTrail.Json
