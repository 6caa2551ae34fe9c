import PatchTrail.Proofs.Smali.Segmenting
import PatchTrail.Proofs.Text.Pieces
import PatchTrail.Smali.Method

/-!
# Method bodies are the spans between two lines

The bodies that are found in a unit by going through its lines once are exactly those that two lines
enclose (`bodies_eq_spans`). The method that is open in front of a line is determined by the lines
before it (`Opens`), and what has been read so far agrees with it (`Slot`). From that each line says
which spans end on it: one at most, and only if it ends a method.
-/

namespace PatchTrail.Smali

variable {ls : List Text} {signature : Text} {i j n m : Nat} {line : Text}

/-! ## Open methods -/

/-- The method that begins on a line is open in front of another: no method begins or ends between
the two. -/
structure Opens (ls : List Text) (signature : Text) (first n : Nat) : Prop where
  begins : (ls[first]?).map kindOf = some (.methodStart signature)
  before : first < n
  inside : ∀ k line, first < k → k < n → ls[k]? = some line → isBoundary line = false

theorem isBoundary_eq_false (h : isBoundary line = false) : kindOf line = .content := by
  unfold isBoundary at h
  simpa using h

theorem isBoundary_content (h : kindOf line = .content) : isBoundary line = false := by
  unfold isBoundary
  rw [h]
  rfl

theorem Opens.start (h : ls[n]? = some line) (hkind : kindOf line = .methodStart signature) :
    Opens ls signature n (n + 1) := by
  refine ⟨by rw [h, ← hkind]; rfl, Nat.lt_succ_self n, fun k _ hk hk' => ?_⟩
  omega

theorem Opens.next (h : Opens ls signature i n) (hline : ls[n]? = some line)
    (hkind : kindOf line = .content) : Opens ls signature i (n + 1) := by
  refine ⟨h.begins, Nat.lt_succ_of_lt h.before, fun k line' hk hk' hline' => ?_⟩
  rcases Nat.lt_succ_iff_lt_or_eq.mp hk' with hlt | rfl
  · exact h.inside k line' hk hlt hline'
  · cases hline.symm.trans hline'
    exact isBoundary_content hkind

/-- A method that is open behind a line begins on it or was open in front of it. -/
theorem Opens.of_next (h : Opens ls signature i (n + 1)) (hline : ls[n]? = some line) :
    (i = n ∧ kindOf line = .methodStart signature) ∨
      (kindOf line = .content ∧ Opens ls signature i n) := by
  have hbefore := h.before
  by_cases hi : i = n
  · subst hi
    have hbegins := h.begins
    rw [hline] at hbegins
    exact .inl ⟨rfl, Option.some.inj hbegins⟩
  · have hcontent := h.inside n line (by omega) (Nat.lt_succ_self n) hline
    exact .inr ⟨isBoundary_eq_false hcontent, h.begins, by omega, fun k line' hk hk' =>
      h.inside k line' hk (Nat.lt_succ_of_lt hk')⟩

/-- Only one method is open in front of a line. -/
theorem Opens.unique {signature' : Text} (h : Opens ls signature i n)
    (h' : Opens ls signature' j n) : i = j ∧ signature = signature' := by
  have separate : ∀ {s s' : Text} {i j : Nat}, Opens ls s i n → Opens ls s' j n → ¬ i < j := by
    intro s s' i j h h' hlt
    obtain ⟨line, hline, hkind⟩ := Option.map_eq_some_iff.mp h'.begins
    have := isBoundary_eq_false (h.inside j line hlt h'.before hline)
    rw [this] at hkind
    cases hkind
  have first := separate h h'
  have second := separate h' h
  obtain rfl : i = j := by omega
  have := h.begins.symm.trans h'.begins
  cases this
  exact ⟨rfl, rfl⟩

/-! ## Spans -/

theorem encloses_iff : Encloses ls signature i j ↔
    Opens ls signature i j ∧ (ls[j]?).map kindOf = some .methodEnd ∧ i + 1 < j := by
  constructor
  · intro h
    have := h.holds
    exact ⟨⟨h.begins, by omega, h.inside⟩, h.ends, h.holds⟩
  · rintro ⟨opens, ends, holds⟩
    exact ⟨opens.begins, ends, holds, opens.inside⟩

/-- Spans that end on different lines lie one behind the other. -/
theorem Encloses.apart {i' j' : Nat} (h : Encloses ls signature i j)
    (h' : Encloses ls signature i' j') (hlt : j < j') : j < i' := by
  obtain ⟨line, hline, hkind⟩ := Option.map_eq_some_iff.mp h.ends
  refine Classical.byContradiction fun hnot => ?_
  by_cases heq : i' = j
  · have hbegins := h'.begins
    rw [heq, hline] at hbegins
    have := hkind.symm.trans (Option.some.inj hbegins)
    cases this
  · have := isBoundary_eq_false (h'.inside j line (by omega) hlt hline)
    rw [this] at hkind
    cases hkind

/-- The spans that end behind so many lines, in their order. -/
structure Remaining (ls : List Text) (signature : Text) (n : Nat) (spans : List (Nat × Nat)) :
    Prop where
  mem_iff : ∀ i j, (i, j) ∈ spans ↔ Encloses ls signature i j ∧ n ≤ j
  ordered : spans.Pairwise fun p q => p.2 < q.1

theorem Remaining.nil (h : ls.length ≤ n) : Remaining ls signature n [] := by
  refine ⟨fun i j => ⟨nofun, fun ⟨hspan, hj⟩ => ?_⟩, .nil⟩
  have ends := hspan.ends
  rw [List.getElem?_eq_none (by omega)] at ends
  cases ends

/-- No span ends on a line. -/
theorem Remaining.skip {spans : List (Nat × Nat)} (h : Remaining ls signature (n + 1) spans)
    (none : ∀ i, ¬ Encloses ls signature i n) : Remaining ls signature n spans := by
  refine ⟨fun i j => (h.mem_iff i j).trans ⟨fun ⟨hspan, hj⟩ => ⟨hspan, by omega⟩, ?_⟩, h.ordered⟩
  rintro ⟨hspan, hj⟩
  have : j ≠ n := fun heq => none i (heq ▸ hspan)
  exact ⟨hspan, by omega⟩

/-- A span ends on a line. -/
theorem Remaining.cons {spans : List (Nat × Nat)} (h : Remaining ls signature (n + 1) spans)
    (hspan : Encloses ls signature i n) : Remaining ls signature n ((i, n) :: spans) := by
  refine ⟨fun i' j' => ?_, List.pairwise_cons.mpr ⟨fun p hp => ?_, h.ordered⟩⟩
  · rw [List.mem_cons, h.mem_iff]
    constructor
    · rintro (heq | ⟨hspan', hj⟩)
      · cases heq
        exact ⟨hspan, Nat.le_refl n⟩
      · exact ⟨hspan', by omega⟩
    · rintro ⟨hspan', hj⟩
      by_cases heq : j' = n
      · subst heq
        have := (encloses_iff.mp hspan').1.unique (encloses_iff.mp hspan).1
        exact .inl (by rw [this.1])
      · exact .inr ⟨hspan', by omega⟩
  · obtain ⟨hspan', hj⟩ := (h.mem_iff p.1 p.2).mp hp
    exact hspan.apart hspan' hj

/-! ## Reading the lines -/

/-- What has been read behind so many lines agrees with them: the method that is open, and the lines
since it has begun. The lines before that have been cut into segments. -/
inductive Slot (ls : List Text) : Option (Text × List Text) → (n cut : Nat) → Prop where
  | closed {n : Nat} (free : ∀ s i, ¬ Opens ls s i n) : Slot ls none n n
  | opened {n first : Nat} {s : Text} {lines : List Text} (opens : Opens ls s first n)
      (seen : lines.reverse = (ls.take n).drop (first + 1)) :
      Slot ls (some (s, lines)) n (first + 1)

theorem bodiesFrom_betweenAll (offset : Nat) (lines : List Text) (rest : List Segment) :
    bodiesFrom signature offset (betweenAll lines ++ rest) =
      bodiesFrom signature (offset + Text.size lines.flatten) rest := by
  induction lines generalizing offset with
  | nil => rfl
  | cons line lines ih =>
      change bodiesFrom signature offset (.between line :: (betweenAll lines ++ rest)) = _
      rw [bodiesFrom, ih, List.flatten_cons, Text.size_append, Nat.add_assoc]

theorem size_take_succ (hline : ls[n]? = some line) :
    Text.size (ls.take (n + 1)).flatten = Text.size (ls.take n).flatten + Text.size line := by
  rw [List.take_add_one, hline, List.flatten_append, Text.size_append]
  simp

/-- Lines in front of one line and those between it and another are the lines in front of the
other. -/
theorem take_append_between (ls : List Text) (h : i < j) :
    ls.take (i + 1) ++ (ls.take j).drop (i + 1) = ls.take j := by
  have := List.take_append_drop (i + 1) (ls.take j)
  rwa [List.take_take, Nat.min_eq_left (by omega)] at this

theorem size_take_between (ls : List Text) (h : i < j) :
    Text.size (ls.take (i + 1)).flatten + Text.size ((ls.take j).drop (i + 1)).flatten =
      Text.size (ls.take j).flatten := by
  rw [← Text.size_append, ← List.flatten_append, take_append_between ls h]

theorem bodyBetween_eq (ls : List Text) (signature : Text) (h : i < j) :
    bodyBetween ls signature i j =
      ⟨signature, Text.size (ls.take (i + 1)).flatten, Text.size (ls.take j).flatten,
        ((ls.take j).drop (i + 1)).flatten⟩ := by
  rw [← size_take_between ls h]
  rfl

/-- Behind a line that does not go on with a body. -/
theorem Slot.behind (hline : ls[n]? = some line)
    (closed : kindOf line = .content → ∀ s i, ¬ Opens ls s i n) :
    Slot ls (slotBehind line) (n + 1) (n + 1) := by
  unfold slotBehind
  cases hkind : kindOf line with
  | methodStart s =>
      refine .opened (.start hline hkind) ?_
      rw [List.drop_eq_nil_of_le (by rw [List.length_take]; omega)]
      rfl
  | methodEnd =>
      refine .closed fun s i opens => ?_
      rcases opens.of_next hline with ⟨-, h⟩ | ⟨h, -⟩
      · rw [hkind] at h
        cases h
      · rw [hkind] at h
        cases h
  | content =>
      refine .closed fun s i opens => ?_
      rcases opens.of_next hline with ⟨-, h⟩ | ⟨-, h⟩
      · rw [hkind] at h
        cases h
      · exact closed hkind s i h

theorem length_seen {first : Nat} {lines : List Text} (hline : ls[n]? = some line)
    (seen : lines.reverse = (ls.take n).drop (first + 1)) : lines.length = n - (first + 1) := by
  have hn : n < ls.length := (List.getElem?_eq_some_iff.mp hline).1
  have := congrArg List.length seen
  rw [List.length_reverse, List.length_drop, List.length_take] at this
  omega

theorem seen_cons {first : Nat} {lines : List Text} (hline : ls[n]? = some line)
    (hfirst : first < n) (seen : lines.reverse = (ls.take n).drop (first + 1)) :
    (line :: lines).reverse = (ls.take (n + 1)).drop (first + 1) := by
  have hn : n < ls.length := (List.getElem?_eq_some_iff.mp hline).1
  have hle : first + 1 ≤ (ls.take n).length := by
    rw [List.length_take]
    omega
  rw [List.reverse_cons, seen, List.take_add_one, hline, List.drop_append_of_le_length hle]
  rfl

/-- The bodies among segments that begin behind so many lines are the spans that end behind `n`. -/
def Finds (ls : List Text) (signature : Text) (n cut : Nat) (segments : List Segment) : Prop :=
  ∃ spans, Remaining ls signature n spans ∧
    bodiesFrom signature (Text.size (ls.take cut).flatten) segments =
      spans.map fun p => bodyBetween ls signature p.1 p.2

section

variable {segments : List Segment} {first : Nat} {s : Text} {lines : List Text}

theorem Encloses.kindOf_last (h : Encloses ls signature i n) (hline : ls[n]? = some line) :
    kindOf line = .methodEnd := by
  have ends := h.ends
  rw [hline] at ends
  exact Option.some.inj ends

/-- No method is open in front of the line. -/
theorem Finds.closed (h : Finds ls signature (n + 1) (n + 1) segments) (hline : ls[n]? = some line)
    (free : ∀ s i, ¬ Opens ls s i n) : Finds ls signature n n (.between line :: segments) := by
  obtain ⟨spans, remaining, found⟩ := h
  refine ⟨spans, remaining.skip fun i hspan => free _ i (encloses_iff.mp hspan).1, ?_⟩
  rw [bodiesFrom, ← size_take_succ hline, found]

/-- The line goes on with the method that is open. -/
theorem Finds.content {cut : Nat} (h : Finds ls signature (n + 1) cut segments)
    (hline : ls[n]? = some line) (hkind : kindOf line = .content) :
    Finds ls signature n cut segments := by
  obtain ⟨spans, remaining, found⟩ := h
  refine ⟨spans, remaining.skip fun i hspan => ?_, found⟩
  have := hkind.symm.trans (hspan.kindOf_last hline)
  cases this

/-- The line ends the method that is open, and there are lines in it. -/
theorem Finds.body (h : Finds ls signature (n + 1) (n + 1) segments) (hline : ls[n]? = some line)
    (hkind : kindOf line = .methodEnd) (opens : Opens ls s first n)
    (seen : lines.reverse = (ls.take n).drop (first + 1)) (nonempty : lines ≠ []) :
    Finds ls signature n (first + 1)
      (.body s lines.reverse.flatten :: .between line :: segments) := by
  obtain ⟨spans, remaining, found⟩ := h
  have rest : bodiesFrom signature (Text.size (ls.take (first + 1)).flatten)
      (.body s lines.reverse.flatten :: .between line :: segments) =
        if s = signature then bodyBetween ls s first n ::
          spans.map fun p => bodyBetween ls signature p.1 p.2
        else spans.map fun p => bodyBetween ls signature p.1 p.2 := by
    rw [bodiesFrom, bodiesFrom, bodyBetween_eq ls s opens.before, seen,
      size_take_between ls opens.before, ← size_take_succ hline, found]
  by_cases hs : s = signature
  · subst hs
    have holds : first + 1 < n := by
      have := length_seen hline seen
      have := List.length_pos_iff.mpr nonempty
      omega
    have ends : (ls[n]?).map kindOf = some .methodEnd := by rw [hline, ← hkind]; rfl
    refine ⟨(first, n) :: spans, remaining.cons (encloses_iff.mpr ⟨opens, ends, holds⟩), ?_⟩
    rw [rest, if_pos rfl, List.map_cons]
  · refine ⟨spans, remaining.skip fun i hspan => hs ?_, ?_⟩
    · exact (opens.unique (encloses_iff.mp hspan).1).2
    · rw [rest, if_neg hs]

/-- The line does not go on with the method that is open, and there is no body in front of it. -/
theorem Finds.between (h : Finds ls signature (n + 1) (n + 1) segments)
    (hline : ls[n]? = some line) (opens : Opens ls s first n)
    (seen : lines.reverse = (ls.take n).drop (first + 1))
    (hbody : kindOf line = .methodEnd → lines = []) :
    Finds ls signature n (first + 1) (betweenAll lines.reverse ++ .between line :: segments) := by
  obtain ⟨spans, remaining, found⟩ := h
  refine ⟨spans, remaining.skip fun i hspan => ?_, ?_⟩
  · have hempty := length_seen hline seen
    rw [hbody (hspan.kindOf_last hline), List.length_nil] at hempty
    have hspan := encloses_iff.mp hspan
    have := (opens.unique hspan.1).1
    omega
  · rw [bodiesFrom_betweenAll, bodiesFrom, seen, size_take_between ls opens.before,
      ← size_take_succ hline, found]

end

/-- The bodies that are found from a line on are the spans that end there or later. -/
theorem finds_segmentsFrom {rest : List Text} {opened : Option (Text × List Text)} {cut : Nat}
    (hrest : ls.drop n = rest) (slot : Slot ls opened n cut) :
    Finds ls signature n cut (segmentsFrom opened rest) := by
  have hline : ∀ {n : Nat} {line : Text} {rest : List Text}, ls.drop n = line :: rest →
      ls[n]? = some line ∧ ls.drop (n + 1) = rest := fun h =>
    ⟨by rw [← List.head?_drop, h]; rfl, by rw [← List.tail_drop, h]; rfl⟩
  have h := segmented_segmentsFrom opened rest
  generalize segmentsFrom opened rest = segments at h ⊢
  induction h generalizing n cut with
  | done =>
      cases slot
      exact ⟨[], .nil (List.drop_eq_nil_iff.mp hrest), rfl⟩
  | unended s lines =>
      refine ⟨[], .nil (List.drop_eq_nil_iff.mp hrest), ?_⟩
      rw [← List.append_nil (betweenAll lines.reverse), bodiesFrom_betweenAll]
      rfl
  | outside _ ih =>
      obtain ⟨hline, hrest⟩ := hline hrest
      obtain ⟨free⟩ := slot
      exact (ih hrest (.behind hline fun _ => free)).closed hline free
  | content kind _ ih =>
      obtain ⟨hline, hrest⟩ := hline hrest
      obtain ⟨-⟩ | ⟨opens, seen⟩ := slot
      have slot := Slot.opened (opens.next hline kind) (seen_cons hline opens.before seen)
      exact (ih hrest slot).content hline kind
  | body kind nonempty _ ih =>
      obtain ⟨hline, hrest⟩ := hline hrest
      obtain ⟨-⟩ | ⟨opens, seen⟩ := slot
      have slot := Slot.behind hline fun h => by simp [kind] at h
      exact (ih hrest slot).body hline kind opens seen nonempty
  | between kind empty _ ih =>
      obtain ⟨hline, hrest⟩ := hline hrest
      obtain ⟨-⟩ | ⟨opens, seen⟩ := slot
      have slot := Slot.behind hline fun h => (kind h).elim
      exact (ih hrest slot).between hline opens seen empty

/-! ## Bodies of a unit -/

/-- Where a body lies in a unit: its range begins and ends between two characters, and the bytes in
it are the body's. -/
structure Body.Lies (unit_ : Text) (b : Body) : Prop where
  parts : ∃ before behind, unit_ = before ++ b.text ++ behind ∧ b.start = Text.size before ∧
    b.stop = Text.size (before ++ b.text)
  bytes : (Text.encode unit_).extract b.start b.stop = Text.encode b.text

theorem lies_bodyBetween (unit_ signature : Text) (h : i < j) :
    (bodyBetween unit_.lines signature i j).Lies unit_ := by
  have whole : unit_ = (unit_.lines.take (i + 1)).flatten ++
      ((unit_.lines.take j).drop (i + 1)).flatten ++ (unit_.lines.drop j).flatten := by
    rw [← List.flatten_append, take_append_between _ h, ← List.flatten_append,
      List.take_append_drop, Text.flatten_lines]
  have stop : (bodyBetween unit_.lines signature i j).stop =
      Text.size ((unit_.lines.take (i + 1)).flatten ++
        ((unit_.lines.take j).drop (i + 1)).flatten) := (Text.size_append _ _).symm
  refine ⟨⟨_, _, whole, rfl, stop⟩, ?_⟩
  have bytes := Text.extract_encode (unit_.lines.take (i + 1)).flatten
    ((unit_.lines.take j).drop (i + 1)).flatten (unit_.lines.drop j).flatten
  rw [← whole, ← stop] at bytes
  exact bytes

/-- A line between two others. -/
theorem mem_between {line : Text} (h : line ∈ (ls.take j).drop (i + 1)) :
    ∃ k, i < k ∧ k < j ∧ ls[k]? = some line := by
  obtain ⟨k, hk⟩ := List.mem_iff_getElem?.mp h
  rw [List.getElem?_drop] at hk
  have hlt : i + 1 + k < j := by
    have := (List.getElem?_eq_some_iff.mp hk).1
    rw [List.length_take] at this
    omega
  rw [List.getElem?_take_of_lt hlt] at hk
  exact ⟨i + 1 + k, by omega, hlt, hk⟩

/-- The lines of an enclosed body are those between the lines that enclose it, where no method
begins or ends. -/
theorem Encloses.content {unit_ : Text} (h : Encloses unit_.lines signature i j) :
    ∀ line ∈ (bodyBetween unit_.lines signature i j).text.lines, kindOf line = .content := by
  have hj : j < unit_.lines.length := by
    obtain ⟨line, hline, -⟩ := Option.map_eq_some_iff.mp h.ends
    exact (List.getElem?_eq_some_iff.mp hline).1
  have terminated : ∀ line ∈ (unit_.lines.take j).drop (i + 1), Text.Terminated line := by
    intro line hline
    obtain ⟨k, -, hk, hline⟩ := mem_between hline
    exact Text.terminated_of_lines hline (by omega)
  intro line hline
  change line ∈ Text.lines ((unit_.lines.take j).drop (i + 1)).flatten at hline
  rw [Text.lines_flatten terminated] at hline
  obtain ⟨k, hik, hkj, hline⟩ := mem_between hline
  exact isBoundary_eq_false (h.inside k line hik hkj hline)

theorem size_take_le (ls : List Text) (h : i ≤ j) :
    Text.size (ls.take i).flatten ≤ Text.size (ls.take j).flatten := by
  have := List.take_append_drop i (ls.take j)
  rw [List.take_take, Nat.min_eq_left h] at this
  rw [← this, List.flatten_append, Text.size_append]
  exact Nat.le_add_right _ _

/-- The line on which a method ends keeps its body apart from the next. -/
theorem Encloses.stop_lt_start {i' j' : Nat} (h : Encloses ls signature i j) (hlt : j < i') :
    (bodyBetween ls signature i j).stop < (bodyBetween ls signature i' j').start := by
  have hij : i < j := by
    have := h.holds
    omega
  obtain ⟨line, hline, hkind⟩ := Option.map_eq_some_iff.mp h.ends
  have pos : 0 < Text.size line := by
    cases line with
    | nil => cases hkind
    | cons c line =>
        have := c.utf8Size_pos
        rw [Text.size_cons]
        omega
  have next := size_take_succ hline
  have later := size_take_le ls (show j + 1 ≤ i' + 1 by omega)
  rw [bodyBetween_eq ls signature hij]
  change Text.size (ls.take j).flatten < Text.size (ls.take (i' + 1)).flatten
  omega

/-- The bodies of the methods with a signature are exactly those that two lines of the unit enclose,
each of them once and in the order of the unit. Each reaches from behind the first line to the
second and has no line on which a method begins or ends, and no two of them touch. -/
theorem bodies_eq_spans (unit_ signature : Text) :
    ∃ spans : List (Nat × Nat),
      bodies unit_ signature =
        spans.map (fun p => bodyBetween unit_.lines signature p.1 p.2) ∧
      (∀ i j, (i, j) ∈ spans ↔ Encloses unit_.lines signature i j) ∧
      spans.Pairwise (fun p q => p.2 < q.1) ∧
      (∀ i j, (i, j) ∈ spans →
        (bodyBetween unit_.lines signature i j).start =
          Text.size (unit_.lines.take (i + 1)).flatten ∧
        (bodyBetween unit_.lines signature i j).stop = Text.size (unit_.lines.take j).flatten) ∧
      (bodies unit_ signature).Pairwise (fun b c => b.stop < c.start) ∧
      ∀ b ∈ bodies unit_ signature, b.signature = signature ∧ b.Lies unit_ ∧
        ∀ line ∈ b.text.lines, kindOf line = .content := by
  have none : ∀ s i, ¬ Opens unit_.lines s i 0 := fun s i opens => Nat.not_lt_zero i opens.before
  have finds : Finds unit_.lines signature 0 0 (segments unit_) :=
    finds_segmentsFrom rfl (.closed none)
  obtain ⟨spans, remaining, found⟩ := finds
  have found : bodies unit_ signature =
      spans.map fun p => bodyBetween unit_.lines signature p.1 p.2 := found
  have mem_iff : ∀ i j, (i, j) ∈ spans ↔ Encloses unit_.lines signature i j := fun i j =>
    (remaining.mem_iff i j).trans (and_iff_left (Nat.zero_le j))
  have before : ∀ p ∈ spans, p.1 < p.2 := fun p hp => by
    have := ((mem_iff p.1 p.2).mp hp).holds
    omega
  refine ⟨spans, found, mem_iff, remaining.ordered, fun i j hspan => ⟨rfl, ?_⟩, ?_, ?_⟩
  · rw [bodyBetween_eq _ _ (before _ hspan)]
  · rw [found, List.pairwise_map]
    refine remaining.ordered.imp_of_mem fun hp _ hlt => ?_
    exact ((mem_iff _ _).mp hp).stop_lt_start hlt
  · intro b hb
    rw [found] at hb
    obtain ⟨p, hp, rfl⟩ := List.mem_map.mp hb
    exact ⟨rfl, lies_bodyBetween unit_ signature (before p hp), ((mem_iff _ _).mp hp).content⟩

/-- A method that does not end has no body, and an end alone closes nothing. -/
example : bodies ".method f\n.method f\né\n.end method\n.end method\n.method f\nx" "f" =
    [⟨"f", 20, 23, "é\n"⟩] := by rfl

end PatchTrail.Smali
