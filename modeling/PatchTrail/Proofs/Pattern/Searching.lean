import PatchTrail.Pattern.Basic
import PatchTrail.Proofs.Text.Replacing
import Std.Data.HashSet.Lemmas

/-!
# Searching for a pattern that is a text

The program of a pattern that is nothing but a text takes the characters of the text one after the
other (`Spells`). So from a position on the search finds the first occurrence of the text
(`searchFrom_of_firstAt`, `searchFrom_of_absent`): pairs of a step and a position that have been
tried in vain are such from which the rest of the text cannot be taken (`Vain`). The matches are the
occurrences from the left (`replaceMatches_of_cuts`), or all positions if the text is empty
(`replaceMatches_behind`). Looking for the text itself is therefore a shortcut and no other meaning
(`occursIn_iff_matches`, `replaceAll_eq_replaceMatches`).
-/

namespace PatchTrail.Pattern

variable {program program' : Program} {text : Array Char} {t t' before after : Text}

/-! ## Programs that spell a text -/

/-- A program leads from one step to another by taking the characters of a text. -/
inductive Spells (program : Program) : Nat → Text → Nat → Prop where
  | nil (step : Nat) : Spells program step [] step
  | cons {step next last : Nat} {c : Char} {t : Text} (takes : program[step]? = some (.char c next))
      (rest : Spells program next t last) : Spells program step (c :: t) last

/-- All steps of a program are steps of another, with the same numbers. -/
def Extends (program program' : Program) : Prop :=
  ∀ (i : Nat) (step : Step), program[i]? = some step → program'[i]? = some step

theorem Extends.trans {program'' : Program} (h : Extends program program')
    (h' : Extends program' program'') : Extends program program'' :=
  fun i step hstep => h' i step (h i step hstep)

theorem extends_push (program : Program) (step : Step) : Extends program (program.push step) := by
  intro i step' h
  rw [Array.getElem?_push, if_neg, h]
  rintro rfl
  rw [Array.getElem?_size] at h
  cases h

theorem Spells.of_extends {first last : Nat} (h : Spells program first t last)
    (more : Extends program program') : Spells program' first t last := by
  induction h with
  | nil => exact .nil _
  | cons takes _ ih => exact .cons (more _ _ takes) ih

theorem Spells.append {first middle last : Nat} (h : Spells program first t middle)
    (h' : Spells program middle t' last) : Spells program first (t ++ t') last := by
  induction h with
  | nil => exact h'
  | cons takes _ ih => exact .cons takes (ih h')

/-- What is left to take follows from the step that has been reached. -/
theorem Spells.unique {step : Nat} (done : program[0]? = some .done)
    (h : Spells program step t 0) (h' : Spells program step t' 0) : t' = t := by
  generalize hlast : 0 = last at h
  induction h generalizing t' with
  | nil =>
    subst hlast
    cases h' with
    | nil => rfl
    | cons takes => cases done.symm.trans takes
  | cons takes _ ih =>
    cases h' with
    | nil => cases done.symm.trans takes
    | cons takes' rest' =>
      obtain ⟨rfl, rfl⟩ := Step.char.inj (Option.some.inj (takes.symm.trans takes'))
      rw [ih rest' hlast]

/-- Steps have been put to a program, one for each character of a text, which lead to a given
step. -/
structure Spelled (t : Text) (next : Nat) (program : Program) (compiled : Nat × Program) :
    Prop where
  more : Extends program compiled.2
  spells : Spells compiled.2 compiled.1 t next
  size : compiled.2.size = program.size + t.length

mutual

theorem spelled_compile : ∀ {n : Node} {t : Text}, n.literal? = some t →
    ∀ next program, Spelled t next program (Program.compile n next program)
  | .empty, _, h, next, program => by
    cases h
    exact ⟨fun _ _ h => h, .nil _, rfl⟩
  | .literal c, _, h, next, program => by
    cases h
    exact ⟨extends_push _ _, .cons Array.getElem?_push_size (.nil _), Array.size_push _⟩
  | .sequence parts, _, h, next, program => spelled_compileParts h next program

theorem spelled_compileParts : ∀ {parts : List Node} {t : Text},
    Node.literal?.literals? parts = some t →
      ∀ next program, Spelled t next program (Program.compile.compileParts parts next program)
  | [], _, h, next, program => by
    cases h
    exact ⟨fun _ _ h => h, .nil _, rfl⟩
  | n :: rest, t, h, next, program => by
    obtain ⟨s, u, hs, hu, rfl⟩ : ∃ s u, n.literal? = some s ∧
        Node.literal?.literals? rest = some u ∧ s ++ u = t := by
      rw [Node.literal?.literals?] at h
      split at h
      · next s u hs hu => exact ⟨s, u, hs, hu, Option.some.inj h⟩
      · cases h
    have behind := spelled_compileParts hu next program
    have front := spelled_compile hs (Program.compile.compileParts rest next program).1
      (Program.compile.compileParts rest next program).2
    refine ⟨behind.more.trans front.more,
      front.spells.append (behind.spells.of_extends front.more), ?_⟩
    rw [Program.compile.compileParts]
    rw [front.size, behind.size, List.length_append]
    omega

end

/-- The program of a meaning that is a text spells the text and is done then. -/
structure Reads (program : Program) (first : Nat) (t : Text) : Prop where
  done : program[0]? = some .done
  spells : Spells program first t 0
  size : t.length < program.size

theorem reads_ofNode {n : Node} (h : n.literal? = some t) :
    Reads (Program.ofNode n).2 (Program.ofNode n).1 t := by
  have spelled := spelled_compile h 0 #[.done]
  refine ⟨spelled.more 0 _ rfl, spelled.spells, ?_⟩
  rw [Program.ofNode, spelled.size, Nat.add_comm]
  exact Nat.lt_succ_self _

/-! ## One position -/

/-- The number under which a step at a position of a text is noted. -/
def keyOf (text : Array Char) (step position : Nat) : Nat := step * (text.size + 1) + position

theorem keyOf_inj {step position step' position' : Nat} (inside : position ≤ text.size)
    (inside' : position' ≤ text.size) (h : keyOf text step position = keyOf text step' position') :
    step = step' ∧ position = position' := by
  have parts (step position : Nat) (inside : position ≤ text.size) :
      keyOf text step position / (text.size + 1) = step ∧
        keyOf text step position % (text.size + 1) = position := by
    have below : position < text.size + 1 := Nat.lt_succ_of_le inside
    unfold keyOf
    constructor
    · rw [Nat.mul_comm, Nat.mul_add_div (Nat.succ_pos _), Nat.div_eq_of_lt below, Nat.add_zero]
    · rw [Nat.mul_add_mod', Nat.mod_eq_of_lt below]
  have first := parts step position inside
  rw [h] at first
  have second := parts step' position' inside'
  exact ⟨first.1.symm.trans second.1, first.2.symm.trans second.2⟩

/-- A step at a position from which the rest of what the program spells does not follow. -/
def Vain (program : Program) (text : Array Char) (key : Nat) : Prop :=
  ∃ step position t, Spells program step t 0 ∧ position ≤ text.size ∧
    key = keyOf text step position ∧ ¬ t <+: text.toList.drop position

/-- What has been tried was in vain or lies before a position. -/
def Fair (program : Program) (text : Array Char) (position : Nat) (tried : Std.HashSet Nat) :
    Prop :=
  ∀ key ∈ tried, Vain program text key ∨ ∃ step before, before < position ∧
    key = keyOf text step before

variable {step position : Nat} {tried : Std.HashSet Nat} {slots : Slots}

theorem Fair.of_vain (h : ∀ key ∈ tried, Vain program text key) :
    Fair program text position tried :=
  fun key hkey => .inl (h key hkey)

/-- Trying a step is fair from the next position on. -/
theorem Fair.insert (fair : Fair program text position tried) :
    Fair program text (position + 1) (tried.insert (keyOf text step position)) := by
  intro key hkey
  rcases Std.HashSet.mem_insert.mp hkey with same | hkey
  · exact .inr ⟨step, position, Nat.lt_succ_self _, (eq_of_beq same).symm⟩
  · rcases fair key hkey with vain | ⟨step', before, earlier, rfl⟩
    · exact .inl vain
    · exact .inr ⟨step', before, Nat.lt_succ_of_lt earlier, rfl⟩

/-- A step from which the text follows has not been tried. -/
theorem Fair.not_mem (fair : Fair program text position tried) (done : program[0]? = some .done)
    (spells : Spells program step t 0) (inside : position ≤ text.size)
    (follows : t <+: text.toList.drop position) : keyOf text step position ∉ tried := by
  intro hkey
  rcases fair _ hkey with ⟨step', position', t', spells', inside', key, fails⟩ |
    ⟨step', before, earlier, key⟩
  · obtain ⟨rfl, rfl⟩ := keyOf_inj inside inside' key
    obtain rfl := spells.unique done spells'
    exact fails follows
  · obtain ⟨-, rfl⟩ := keyOf_inj inside (Nat.le_of_lt (Nat.lt_of_lt_of_le earlier inside)) key
    exact absurd earlier (Nat.lt_irrefl _)

/-- A character and more follow at a position if it stands there and the others follow behind it. -/
theorem cons_prefix_drop_iff {c : Char} : c :: t <+: text.toList.drop position ↔
    text[position]? = some c ∧ t <+: text.toList.drop (position + 1) := by
  rw [← Array.getElem?_toList]
  rcases Nat.lt_or_ge position text.toList.length with inside | outside
  · rw [List.drop_eq_getElem_cons inside, List.cons_prefix_cons, List.getElem?_eq_getElem inside,
      Option.some.injEq, eq_comm]
  · rw [List.drop_eq_nil_of_le outside, List.getElem?_eq_none outside]
    simp

theorem tryWays_nil (bound : Nat) : tryWays program text bound [] tried = .inr tried := by
  cases bound <;> rfl

theorem tryWays_tried {bound : Nat} {w : Way} {rest : List Way}
    (h : keyOf text w.step w.position ∈ tried) :
    tryWays program text (bound + 1) (w :: rest) tried = tryWays program text bound rest tried := by
  rw [tryWays]
  exact if_pos h

theorem tryWays_next {bound : Nat} {w : Way} (h : keyOf text w.step w.position ∉ tried) :
    tryWays program text (bound + 1) [w] tried =
      match w.next? program text with
      | none => .inl (w.position, w.slots)
      | some ways =>
        tryWays program text bound ways (tried.insert (keyOf text w.step w.position)) := by
  rw [tryWays]
  refine (if_neg h).trans ?_
  cases w.next? program text with
  | none => rfl
  | some ways => simp [keyOf]

/-- Where the text follows it is matched. -/
theorem tryWays_of_follows (done : program[0]? = some .done) (spells : Spells program step t 0)
    (inside : position ≤ text.size) (fair : Fair program text position tried) {bound : Nat}
    (room : t.length < bound) (follows : t <+: text.toList.drop position) :
    tryWays program text bound [⟨step, position, slots⟩] tried =
      .inl (position + t.length, slots) := by
  generalize hlast : 0 = last at spells
  induction spells generalizing position tried bound with
  | nil =>
    subst hlast
    obtain ⟨bound, rfl⟩ := Nat.exists_eq_succ_of_ne_zero (Nat.ne_zero_of_lt room)
    rw [Nat.succ_eq_add_one, tryWays_next (fair.not_mem done (.nil 0) inside follows)]
    unfold Way.next?
    simp only [done]
    rfl
  | @cons step next _ c t takes rest ih =>
    subst hlast
    obtain ⟨bound, rfl⟩ := Nat.exists_eq_succ_of_ne_zero (Nat.ne_zero_of_lt room)
    obtain ⟨here, behind⟩ := cons_prefix_drop_iff.mp follows
    have within : position < text.size := (Array.getElem?_eq_some_iff.mp here).1
    rw [Nat.succ_eq_add_one, tryWays_next (fair.not_mem done (.cons takes rest) inside follows)]
    unfold Way.next?
    simp only [takes, here, beq_self_eq_true, if_true]
    have sum : position + 1 + t.length = position + (c :: t).length := by
      rw [List.length_cons]
      omega
    exact (ih within fair.insert (Nat.lt_of_succ_lt_succ room) behind rfl).trans (by rw [sum])

/-- Where the text does not follow everything that is tried is in vain. -/
theorem exists_tryWays_of_not_follows (spells : Spells program step t 0)
    (inside : position ≤ text.size) (bound : Nat) (fails : ¬ t <+: text.toList.drop position)
    (slots : Slots) (tried : Std.HashSet Nat) :
    ∃ tried', tryWays program text bound [⟨step, position, slots⟩] tried = .inr tried' ∧
      ∀ key ∈ tried', key ∈ tried ∨ Vain program text key := by
  generalize hlast : 0 = last at spells
  induction spells generalizing position tried bound with
  | nil => exact absurd List.nil_prefix fails
  | @cons step next _ c t takes rest ih =>
    subst hlast
    cases bound with
    | zero => exact ⟨tried, rfl, fun key hkey => .inl hkey⟩
    | succ bound =>
      by_cases known : keyOf text step position ∈ tried
      · rw [tryWays_tried known, tryWays_nil]
        exact ⟨tried, rfl, fun key hkey => .inl hkey⟩
      · have vain : Vain program text (keyOf text step position) :=
          ⟨step, position, c :: t, .cons takes rest, inside, rfl, fails⟩
        have inserted {tried' : Std.HashSet Nat}
            (h : ∀ key ∈ tried', key ∈ tried.insert (keyOf text step position) ∨
              Vain program text key) : ∀ key ∈ tried', key ∈ tried ∨ Vain program text key := by
          intro key hkey
          rcases h key hkey with hkey | hvain
          · rcases Std.HashSet.mem_insert.mp hkey with same | hkey
            · exact .inr (eq_of_beq same ▸ vain)
            · exact .inl hkey
          · exact .inr hvain
        rw [tryWays_next known]
        unfold Way.next?
        simp only [takes]
        by_cases here : text[position]? = some c
        · have within : position < text.size := (Array.getElem?_eq_some_iff.mp here).1
          have behind : ¬ t <+: text.toList.drop (position + 1) := fun h =>
            fails (cons_prefix_drop_iff.mpr ⟨here, h⟩)
          simp only [here, beq_self_eq_true, if_true]
          obtain ⟨tried', run, only⟩ := ih within bound behind _ rfl
          exact ⟨tried', run, inserted only⟩
        · simp only [beq_iff_eq, here, if_false]
          rw [tryWays_nil]
          exact ⟨_, rfl, inserted fun key hkey => .inl hkey⟩

/-! ## The first match -/

open Text (FirstAt Cuts join)

variable {first slotCount : Nat}

/-- The match of a text that stands at a position. -/
def matchAt (slotCount : Nat) (t : Text) (position : Nat) : Match :=
  ⟨position, position + t.length, Array.replicate slotCount none⟩

@[simp] theorem matchAt_start (slotCount : Nat) (t : Text) (position : Nat) :
    (matchAt slotCount t position).start = position := rfl

@[simp] theorem matchAt_stop (slotCount : Nat) (t : Text) (position : Nat) :
    (matchAt slotCount t position).stop = position + t.length := rfl

/-- A text is matched in as many rounds as a search takes at one position. -/
theorem Reads.lt_bound (reads : Reads program first t) (text : Array Char) :
    t.length < 2 * program.size * (text.size + 2) + 2 := by
  have once : program.size ≤ program.size * (2 * (text.size + 2)) :=
    Nat.le_mul_of_pos_right _ (by omega)
  have same : 2 * program.size * (text.size + 2) = program.size * (2 * (text.size + 2)) := by
    rw [Nat.mul_comm 2, Nat.mul_assoc]
  have := reads.size
  omega

/-- A search finds the first occurrence. -/
theorem searchFrom_of_firstAt (reads : Reads program first t)
    (vain : ∀ key ∈ tried, Vain program text key) (inside : position ≤ text.size)
    (h : FirstAt t (text.toList.drop position) before after) :
    searchFrom first program slotCount text (text.size + 1 - position) position tried =
      some (matchAt slotCount t (position + before.length)) := by
  induction before generalizing position tried with
  | nil =>
    have follows : t <+: text.toList.drop position := ⟨after, h.whole.symm⟩
    rw [Nat.succ_sub inside, searchFrom]
    simp only [tryWays_of_follows reads.done reads.spells inside (.of_vain vain)
      (reads.lt_bound text) follows]
    rfl
  | cons c before ih =>
    have within : position < text.toList.length := Nat.lt_of_not_le fun outside => by
      have whole := h.whole
      rw [List.drop_eq_nil_of_le outside] at whole
      cases whole
    have behind := h
    rw [List.drop_eq_getElem_cons within] at behind
    obtain ⟨tried', run, only⟩ := exists_tryWays_of_not_follows reads.spells inside
      (2 * program.size * (text.size + 2) + 2) h.not_begins (Array.replicate slotCount none) tried
    have sum : position + 1 + before.length = position + (c :: before).length := by
      rw [List.length_cons]
      omega
    rw [Nat.succ_sub inside, searchFrom]
    simp only [run]
    rw [← Nat.add_sub_add_right text.size 1 position, ← sum]
    exact ih (fun key hkey => (only key hkey).elim (vain key) id) within behind.tail

/-- A search finds nothing if there is no occurrence. -/
theorem searchFrom_of_absent (reads : Reads program first t)
    (vain : ∀ key ∈ tried, Vain program text key) {room : Nat}
    (whole : position + room = text.size + 1) (absent : ¬ t <:+: text.toList.drop position) :
    searchFrom first program slotCount text room position tried = none := by
  induction room generalizing position tried with
  | zero => rfl
  | succ room ih =>
    obtain ⟨tried', run, only⟩ := exists_tryWays_of_not_follows reads.spells
      (show position ≤ text.size by omega) (2 * program.size * (text.size + 2) + 2)
      (fun h => absent h.isInfix) (Array.replicate slotCount none) tried
    rw [searchFrom]
    simp only [run]
    refine ih (fun key hkey => (only key hkey).elim (vain key) id) (by omega) fun h => absent ?_
    rw [← List.drop_drop] at h
    exact h.trans (List.drop_suffix _ _).isInfix

/-! ## All matches -/

theorem slice_eq_drop (text : Array Char) (position : Nat) :
    slice text position text.size = text.toList.drop position := by
  rw [slice, Array.toList_extract, List.extract_eq_take_drop, ← Array.length_toList,
    ← List.length_drop, List.take_length]

theorem slice_of_drop {front rest : Text} (h : text.toList.drop position = front ++ rest) :
    slice text position (position + front.length) = front := by
  simp [slice, h]

variable {bound : Nat} {last? : Option Nat} {replacement : Text}

/-- A search for more matches. -/
abbrev searchAt (first : Nat) (program : Program) (slotCount : Nat) (text : Array Char)
    (position : Nat) : Option Match :=
  searchFrom first program slotCount text (text.size + 1 - position) position ∅

theorem Reads.searchAt_of_firstAt (reads : Reads program first t) (inside : position ≤ text.size)
    (h : FirstAt t (text.toList.drop position) before after) :
    searchAt first program slotCount text position =
      some (matchAt slotCount t (position + before.length)) :=
  searchFrom_of_firstAt reads (fun _ h => absurd h Std.HashSet.not_mem_empty) inside h

theorem Reads.searchAt_of_absent (reads : Reads program first t) (inside : position ≤ text.size)
    (absent : ¬ t <:+: text.toList.drop position) :
    searchAt first program slotCount text position = none :=
  searchFrom_of_absent reads (fun _ h => absurd h Std.HashSet.not_mem_empty) (by omega) absent

theorem matchesFrom_of_none (h : searchAt first program slotCount text position = none) :
    matchesFrom first program slotCount text (bound + 1) position last? = [] := by
  rw [matchesFrom]
  simp only [searchAt] at h
  simp only [h]

/-- What is found is a match unless it is empty and directly behind the one before it. -/
theorem matchesFrom_of_some {m : Match}
    (h : searchAt first program slotCount text position = some m)
    (apart : ¬ (m.start = m.stop ∧ last? = some m.stop)) :
    matchesFrom first program slotCount text (bound + 1) position last? =
      m :: matchesFrom first program slotCount text bound m.stop (some m.stop) := by
  rw [matchesFrom]
  simp only [searchAt] at h
  simp only [h, apart, if_false]

theorem matchesFrom_first {m : Match}
    (h : searchAt first program slotCount text position = some m) :
    matchesFrom first program slotCount text (bound + 1) position none =
      m :: matchesFrom first program slotCount text bound m.stop (some m.stop) :=
  matchesFrom_of_some h fun directly => nomatch directly.2

/-- A text that is not empty is matched where it occurs, from the left. So the text with its matches
replaced has the replacement between the pieces. -/
theorem replaceMatches_of_cuts (reads : Reads program first t) (full : t ≠ []) {rest : Text}
    {pieces : List Text} (h : Cuts t rest pieces) (inside : position ≤ text.size)
    (whole : text.toList.drop position = rest) (room : pieces.length ≤ bound) :
    replaceMatches text (fun _ => replacement) position
        (matchesFrom first program slotCount text bound position last?) =
      join replacement pieces := by
  induction h generalizing position bound last? with
  | last absent =>
    subst whole
    cases bound with
    | zero => exact absurd room (by simp)
    | succ bound =>
      rw [matchesFrom_of_none (reads.searchAt_of_absent inside absent), replaceMatches,
        slice_eq_drop]
      rfl
  | @next _ before after pieces found rest ih =>
    subst whole
    cases bound with
    | zero => exact absurd room (by simp)
    | succ bound =>
      have apart : position + before.length ≠ position + before.length + t.length := by
        have := List.length_pos_iff.mpr full
        omega
      have behind : text.toList.drop (position + before.length + t.length) = after := by
        rw [← List.drop_drop, ← List.drop_drop, found.whole, List.append_assoc,
          List.drop_left, List.drop_left]
      have within : position + before.length + t.length ≤ text.size := by
        have := congrArg List.length found.whole
        simp only [List.length_drop, List.length_append, Array.length_toList] at this
        omega
      have front : slice text position (position + before.length) = before :=
        slice_of_drop (found.whole.trans (List.append_assoc _ _ _))
      rw [matchesFrom_of_some (reads.searchAt_of_firstAt inside found) fun h => apart h.1,
        replaceMatches, matchAt_start, matchAt_stop, front,
        ih within behind (Nat.le_of_succ_le_succ room), Text.join_cons _ _ rest.ne_nil]

/-- The empty text is matched at the next position behind a match, if there is one. -/
theorem replaceMatches_behind (reads : Reads program first []) {room : Nat}
    (whole : position + room = text.size) (enough : room < bound) :
    replaceMatches text (fun _ => replacement) position
        (matchesFrom first program slotCount text bound position (some position)) =
      (text.toList.drop position).flatMap fun c => c :: replacement := by
  have here {position : Nat} (inside : position ≤ text.size) :
      searchAt first program slotCount text position = some (matchAt slotCount [] position) :=
    reads.searchAt_of_firstAt inside (.of_append (text.toList.drop position))
  induction room generalizing position bound with
  | zero =>
    obtain rfl : position = text.size := whole
    cases bound with
    | zero => exact absurd enough (Nat.lt_irrefl 0)
    | succ bound =>
      have outside : searchAt first program slotCount text (text.size + 1) = none := by
        rw [searchAt, Nat.sub_self]
        rfl
      rw [matchesFrom]
      simp only [here (Nat.le_refl _), matchAt_start, matchAt_stop, List.length_nil, Nat.add_zero,
        true_and, if_true, outside]
      rw [replaceMatches, slice_eq_drop, ← Array.length_toList, List.drop_length]
      rfl
  | succ room ih =>
    cases bound with
    | zero => exact absurd enough (Nat.not_lt_zero _)
    | succ bound =>
      have within : position < text.toList.length := by
        rw [Array.length_toList]
        omega
      have next : position + 1 ≤ text.size := within
      have split : text.toList.drop position =
          [text.toList[position]] ++ text.toList.drop (position + 1) :=
        List.drop_eq_getElem_cons within
      have one : slice text position (position + 1) = [text.toList[position]] := slice_of_drop split
      rw [matchesFrom]
      simp only [here (Nat.le_of_lt next), here next, matchAt_start, matchAt_stop, List.length_nil,
        Nat.add_zero, true_and, if_true]
      rw [replaceMatches, matchAt_start, matchAt_stop, List.length_nil, Nat.add_zero,
        ih (by omega) (Nat.lt_of_succ_lt_succ enough), one, List.drop_eq_getElem_cons within,
        List.flatMap_cons]
      rfl

/-! ## The shortcut -/

variable {p : Pattern} {sought : Text}

/-- The matches of a pattern that is a text are where the text stands, and there are some if and
only if it occurs. -/
theorem matches_of_literal? (h : p.node.literal? = some sought) (t replacement : Text) :
    (p.matches_ t.toArray ≠ [] ↔ sought <:+: t) ∧
      replaceMatches t.toArray (fun _ => replacement) 0 (p.matches_ t.toArray) =
        t.replaceAll sought replacement := by
  obtain ⟨first, program, reads, run⟩ : ∃ first program, Reads program first sought ∧
      p.matches_ t.toArray =
        matchesFrom first program (2 * p.groups + 2) t.toArray (t.length + 2) 0 none :=
    ⟨_, _, reads_ofNode h, rfl⟩
  have start : t.toArray.toList.drop 0 = t := by simp
  rw [run]
  constructor
  · by_cases occurs : sought <:+: t
    · obtain ⟨before, after, found⟩ := Text.exists_firstAt occurs
      rw [matchesFrom_first (reads.searchAt_of_firstAt (Nat.zero_le _) (start.symm ▸ found))]
      exact iff_of_true (List.cons_ne_nil _ _) occurs
    · rw [matchesFrom_of_none (reads.searchAt_of_absent (Nat.zero_le _) (start.symm ▸ occurs))]
      exact iff_of_false (fun h => h rfl) occurs
  · by_cases full : sought = []
    · subst full
      have found : FirstAt [] (t.toArray.toList.drop 0) [] (t.toArray.toList.drop 0) := .of_append _
      rw [matchesFrom_first (reads.searchAt_of_firstAt (Nat.zero_le _) found), replaceMatches,
        matchAt_start, matchAt_stop, List.length_nil, Nat.add_zero, Nat.add_zero,
        replaceMatches_behind reads (Nat.zero_add _) (by simp), start, Text.replaceAll, if_pos rfl]
      simp [slice]
    · obtain ⟨pieces, cuts⟩ := Text.exists_cuts full t
      rw [cuts.replaceAll_eq full]
      refine replaceMatches_of_cuts reads full cuts (Nat.zero_le _) start ?_
      exact Nat.le_succ_of_le (cuts.length_le full)

/-- **Looking for the text that a pattern is means looking for the pattern.** -/
theorem occursIn_iff_matches (p : Pattern) (t : Text) :
    p.occursIn t = true ↔ p.matches_ t.toArray ≠ [] := by
  unfold occursIn
  split
  · next sought h => rw [Text.contains_iff_isInfix, (matches_of_literal? h t []).1]
  · simp

/-- **Replacing the text that a pattern is means replacing the matches of the pattern.** -/
theorem replaceAll_eq_replaceMatches (p : Pattern) (t replacement : Text) :
    p.replaceAll t (fun _ => replacement) =
      replaceMatches t.toArray (fun _ => replacement) 0 (p.matches_ t.toArray) := by
  unfold replaceAll
  split
  · next sought h => exact (matches_of_literal? h t replacement).2.symm
  · rfl

end PatchTrail.Pattern
