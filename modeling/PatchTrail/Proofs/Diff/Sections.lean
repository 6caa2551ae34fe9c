import PatchTrail.Proofs.Diff.Reading

/-!
# Reading sections back

Sections whose hunks have right headers are read back one by one, whatever the lines of their hunks
look like (`ReadsAs.section`). A hunk whose header is not right leaves lines over, and the reader
looks for a section where they begin. A line of a hunk can be taken for the first line of a section,
so this need not fail; but what it reads then is a section more than was written
(`AtLeast.section`).
-/

namespace PatchTrail.Diff

open Text

/-! ## One section -/

/-- The remark in the section of a file that is not shown, without its line feed. -/
def binaryLine : Text := "Binary file"

theorem eq_binaryLine {t : Text} (h : t ++ ['\n'] = binaryRemark) : t = binaryLine :=
  List.append_cancel_right (h : t ++ ['\n'] = binaryLine ++ ['\n'])

theorem readBinaryRemark_binary (rest : List Text) :
    readBinaryRemark (binaryLine :: rest) = (true, rest) := rfl

theorem readBinaryRemark_other {ls : List Text} (h : binaryLine ∉ ls.head?) :
    readBinaryRemark ls = (false, ls) := by
  cases ls with
  | nil => rfl
  | cons t ls =>
      have ht : ¬ t ++ ['\n'] = binaryRemark := fun heq => h (congrArg some (eq_binaryLine heq))
      rw [readBinaryRemark, if_neg ht]

theorem binaryLine_notMem_head? {left : List Text} {hs : List Hunk} {rest : List Text}
    (marked : ∀ t ∈ left, (HunkLine.ofText? t).isSome) (boundary : Boundary rest) :
    binaryLine ∉ (left ++ (hs.flatMap Hunk.written ++ rest)).head? := by
  intro ht
  cases left with
  | cons t left =>
      obtain rfl : t = binaryLine := Option.some.inj ht
      cases marked binaryLine List.mem_cons_self
  | nil =>
      cases hs with
      | cons h hs =>
          have : '@' :: _ = 'B' :: _ := Option.some.inj ht
          cases this
      | nil =>
          rcases boundary binaryLine ht with hnil | ⟨name, hname⟩
          · cases hnil
          · cases hname

theorem binaryLine_notMem_written {hs : List Hunk} {rest : List Text} (boundary : Boundary rest) :
    binaryLine ∉ (hs.flatMap Hunk.written ++ rest).head? := by
  have marked : ∀ t ∈ ([] : List Text), (HunkLine.ofText? t).isSome := nofun
  exact binaryLine_notMem_head? marked boundary

/-- A section is read from its first two lines on. -/
theorem readLines?_header (bound : Nat) (oldName newName : Text) (rest : List Text) :
    Section.readLines? (bound + 1) (("--- " ++ oldName) :: ("+++ " ++ newName) :: rest) = do
      let (hunks, left) ← readHunks? (readBinaryRemark rest).2.length (readBinaryRemark rest).2
      return ⟨oldName, newName, (readBinaryRemark rest).1, hunks⟩ ::
        (← Section.readLines? bound left) := by
  have nonempty : ("--- " : Text) ++ oldName = '-' :: ("-- " ++ oldName) := rfl
  have old : dropPrefix? "--- " ('-' :: ("-- " ++ oldName)) = some oldName :=
    dropPrefix?_append "--- " oldName
  rw [nonempty, Section.readLines?]
  · simp only [old, List.head?_cons, List.tail_cons, Option.bind_eq_bind, Option.bind_some,
      dropPrefix?_append]
  · exact nofun

/-- What is read from a line that is not empty begins with a section. -/
theorem readLines?_cons {bound : Nat} {t : Text} {rest : List Text} {ss : List Section}
    (ht : t ≠ []) (h : Section.readLines? bound (t :: rest) = some ss) :
    ∃ (b : Nat) (oldName newName : Text) (rest' left : List Text) (hunks : List HunkReading)
      (more : List Section), t = "--- " ++ oldName ∧ rest = ("+++ " ++ newName) :: rest' ∧
      readHunks? (readBinaryRemark rest').2.length (readBinaryRemark rest').2 =
        some (hunks, left) ∧
      Section.readLines? b left = some more ∧
      ss = ⟨oldName, newName, (readBinaryRemark rest').1, hunks⟩ :: more := by
  cases bound with
  | zero => cases h
  | succ b =>
      rw [Section.readLines?] at h
      · simp only [Option.bind_eq_bind, Option.bind_eq_some_iff] at h
        obtain ⟨oldName, hold, second, hsecond, newName, hnew, ⟨hunks, left⟩, hhunks, more, hmore,
          heq⟩ := h
        obtain ⟨rest', rfl⟩ : ∃ rest', rest = second :: rest' := by
          cases rest with
          | nil => cases hsecond
          | cons first rest' =>
              cases hsecond
              exact ⟨rest', rfl⟩
        cases dropPrefix?_eq_some.mp hold
        cases dropPrefix?_eq_some.mp hnew
        cases heq
        exact ⟨b, oldName, newName, rest', left, hunks, more, rfl, rfl, hhunks, hmore, rfl⟩
      · exact ht

/-! ## Sections with right headers -/

/-- Lines are read as sections, with any bound that is not below their number. -/
def ReadsAs (ls : List Text) (ss : List Section) : Prop :=
  ∀ bound, ls.length ≤ bound → Section.readLines? bound ls = some ss

/-- Behind the last line feed of a diff there is an empty line. -/
theorem readsAs_end : ReadsAs [[]] [] := by
  intro bound hbound
  cases bound with
  | zero => cases hbound
  | succ bound => cases bound <;> rfl

theorem length_le_written (hs : List Hunk) : hs.length ≤ (hs.flatMap Hunk.written).length := by
  induction hs with
  | nil => exact Nat.le_refl _
  | cons h hs ih =>
      rw [List.flatMap_cons, List.length_append, List.length_cons, Hunk.written, List.length_cons]
      omega

theorem length_le_written_append (hs : List Hunk) (rest : List Text) :
    hs.length ≤ (hs.flatMap Hunk.written ++ rest).length := by
  rw [List.length_append]
  exact Nat.le_trans (length_le_written hs) (Nat.le_add_right _ _)

theorem ReadsAs.section {rest : List Text} {ss : List Section} (h : ReadsAs rest ss)
    (boundary : Boundary rest) (oldName newName : Text) {hs : List Hunk}
    (legible : ∀ h ∈ hs, Legible h.oldCount h.newCount h.lines) :
    ReadsAs (sectionLines oldName newName hs ++ rest)
      (⟨oldName, newName, false, hs.map Hunk.read⟩ :: ss) := by
  intro bound hbound
  unfold sectionLines at hbound ⊢
  rw [List.cons_append, List.cons_append] at hbound ⊢
  rw [List.length_cons, List.length_cons, List.length_append] at hbound
  cases bound with
  | zero => cases hbound
  | succ bound =>
      have enough := length_le_written_append hs rest
      have shown : readBinaryRemark (hs.flatMap Hunk.written ++ rest) =
          (false, hs.flatMap Hunk.written ++ rest) :=
        readBinaryRemark_other (binaryLine_notMem_written boundary)
      rw [readLines?_header, shown]
      simp only [readHunks?_written legible boundary enough, h bound (by omega),
        Option.bind_eq_bind, Option.bind_some]
      rfl

theorem ReadsAs.binary {rest : List Text} {ss : List Section} (h : ReadsAs rest ss)
    (boundary : Boundary rest) (oldName newName : Text) :
    ReadsAs (("--- " ++ oldName) :: ("+++ " ++ newName) :: binaryLine :: rest)
      (⟨oldName, newName, true, []⟩ :: ss) := by
  intro bound hbound
  simp only [List.length_cons] at hbound
  cases bound with
  | zero => cases hbound
  | succ bound =>
      rw [readLines?_header, readBinaryRemark_binary]
      simp only [readHunks?_stop rest.length boundary.startsWith, h bound (by omega),
        Option.bind_eq_bind, Option.bind_some]
      rfl

/-! ## Sections with headers that need not be right -/

/-- If lines can be read at all, then as so many sections or more. -/
def AtLeast (count : Nat) (ls : List Text) : Prop :=
  ∀ bound ss, Section.readLines? bound ls = some ss → count ≤ ss.length

theorem AtLeast.mono {n m : Nat} {ls : List Text} (h : AtLeast n ls) (hm : m ≤ n) : AtLeast m ls :=
  fun bound ss hss => Nat.le_trans hm (h bound ss hss)

/-- No section begins with a hunk. -/
theorem AtLeast.behindHunks {count : Nat} {rest : List Text} (h : AtLeast count rest)
    (hs : List Hunk) : AtLeast count (hs.flatMap Hunk.written ++ rest) := by
  intro bound ss hss
  cases hs with
  | nil => exact h bound ss hss
  | cons hunk hs =>
      have hne : hunk.headerLine ≠ [] := nofun
      obtain ⟨_, _, _, _, _, _, _, hhead, -⟩ := readLines?_cons hne hss
      cases hhead

theorem ne_nil_of_ofText? {t : Text} (h : (HunkLine.ofText? t).isSome) : t ≠ [] := by
  rintro rfl
  cases h

/-- A line that is left over alone begins no section, because its second line is missing. -/
theorem readLines?_single {bound : Nat} {first : Text} {hs : List Hunk} {rest : List Text}
    (marked : (HunkLine.ofText? first).isSome) (boundary : Boundary rest) (ss : List Section) :
    Section.readLines? bound (first :: (hs.flatMap Hunk.written ++ rest)) ≠ some ss := by
  intro hss
  obtain ⟨_, _, newName, _, _, _, _, -, hrest, -⟩ :=
    readLines?_cons (ne_nil_of_ofText? marked) hss
  cases hs with
  | cons hunk hs => cases hrest
  | nil =>
      have hhead : rest.head? = some ("+++ " ++ newName) := congrArg List.head? hrest
      rcases boundary _ hhead with hnil | ⟨name, hname⟩
      · cases hnil
      · cases hname

/-- Where hunks are looked for among lines that are left over and hunks behind them, lines and hunks
are left over again, and not more. -/
theorem readHunks?_leftover {left : List Text} {hs : List Hunk} {rest : List Text}
    (marked : ∀ t ∈ left, (HunkLine.ofText? t).isSome) (sound : ∀ h ∈ hs, h.Sound)
    (boundary : Boundary rest) :
    ∃ (read : List HunkReading) (left' : List Text) (hs' : List Hunk),
      readHunks? (left ++ (hs.flatMap Hunk.written ++ rest)).length
        (left ++ (hs.flatMap Hunk.written ++ rest)) =
          some (read, left' ++ (hs'.flatMap Hunk.written ++ rest)) ∧
      (∀ t ∈ left', (HunkLine.ofText? t).isSome) ∧ (∀ h ∈ hs', h.Sound) ∧
      left'.length + (hs'.flatMap Hunk.written).length ≤
        left.length + (hs.flatMap Hunk.written).length := by
  by_cases hleft : left = []
  · subst hleft
    obtain ⟨read, left', hs', hread, marked', suffix, hlen, -⟩ :=
      readHunks?_sound sound boundary (length_le_written_append hs rest)
    refine ⟨read, left', hs', hread, marked', fun h hh => sound h (suffix.subset hh), ?_⟩
    rwa [List.length_nil, Nat.zero_add]
  · have noHeader : ∀ t ∈ (left ++ (hs.flatMap Hunk.written ++ rest)).head?,
        startsWith t "@@ -" = false := by
      intro t ht
      rw [List.head?_append, List.head?_eq_some_head hleft, Option.some_or] at ht
      cases ht
      exact startsWith_eq_false (marked _ (List.head_mem hleft))
    exact ⟨[], left, hs, readHunks?_stop _ noHeader, marked, sound, Nat.le_refl _⟩

/-- Lines of a hunk that are left over do not take away from the sections behind them, and if there
are any, they make a section more. -/
theorem AtLeast.leftover {count : Nat} {rest : List Text} (h : AtLeast count rest)
    (boundary : Boundary rest) {left : List Text} {hs : List Hunk}
    (marked : ∀ t ∈ left, (HunkLine.ofText? t).isSome) (sound : ∀ h ∈ hs, h.Sound) :
    AtLeast (if left = [] then count else count + 1)
      (left ++ (hs.flatMap Hunk.written ++ rest)) := by
  -- Every section that is read takes two lines at least, so fewer are left over each time.
  generalize hsize : left.length + (hs.flatMap Hunk.written).length = size
  induction size using Nat.strongRecOn generalizing left hs with
  | _ size ih =>
      match left with
      | [] =>
          rw [if_pos rfl]
          exact h.behindHunks hs
      | [first] =>
          intro bound ss hss
          exact (readLines?_single (marked first List.mem_cons_self) boundary ss hss).elim
      | first :: second :: left =>
          intro bound ss hss
          have hmarked : ∀ t ∈ left, (HunkLine.ofText? t).isSome := fun t ht =>
            marked t (List.mem_cons_of_mem _ (List.mem_cons_of_mem _ ht))
          obtain ⟨b, _, _, rest', behind, hunks, more, -, hrest, hhunks, hmore, rfl⟩ :=
            readLines?_cons (ne_nil_of_ofText? (marked first List.mem_cons_self)) hss
          obtain rfl : rest' = left ++ (hs.flatMap Hunk.written ++ rest) := by
            cases hrest
            rfl
          rw [readBinaryRemark_other (binaryLine_notMem_head? hmarked boundary)] at hhunks
          obtain ⟨read, left', hs', hread, marked', sound', hlen⟩ :=
            readHunks?_leftover hmarked sound boundary
          obtain ⟨-, rfl⟩ := Prod.mk.inj (Option.some.inj (hhunks.symm.trans hread))
          rw [List.length_cons, List.length_cons] at hsize
          have fewer : count ≤ if left' = [] then count else count + 1 := by
            split <;> omega
          have behind := (ih _ (by omega) marked' sound' rfl).mono fewer
          exact Nat.succ_le_succ (behind b more hmore)

/-- A section is read as a section at least. -/
theorem AtLeast.section {count : Nat} {rest : List Text} (h : AtLeast count rest)
    (boundary : Boundary rest) (oldName newName : Text) {hs : List Hunk}
    (sound : ∀ h ∈ hs, h.Sound) :
    AtLeast (count + 1) (sectionLines oldName newName hs ++ rest) ∧
      ((∃ h ∈ hs, ¬ Legible h.oldCount h.newCount h.lines) →
        AtLeast (count + 2) (sectionLines oldName newName hs ++ rest)) := by
  have enough := length_le_written_append hs rest
  obtain ⟨read, left, hs', hread, marked, suffix, -, legible⟩ :=
    readHunks?_sound sound boundary enough
  have sound' : ∀ h ∈ hs', h.Sound := fun h hh => sound h (suffix.subset hh)
  have behind := h.leftover boundary marked sound'
  have whole : ∀ n, AtLeast n (left ++ (hs'.flatMap Hunk.written ++ rest)) →
      AtLeast (n + 1) (sectionLines oldName newName hs ++ rest) := by
    intro n hn bound ss hss
    have hne : ("--- " : Text) ++ oldName ≠ [] := nofun
    obtain ⟨b, _, _, rest', left', hunks, more, -, hrest, hhunks, hmore, rfl⟩ :=
      readLines?_cons hne hss
    obtain rfl : rest' = hs.flatMap Hunk.written ++ rest := by
      cases hrest
      rfl
    have shown : readBinaryRemark (hs.flatMap Hunk.written ++ rest) =
        (false, hs.flatMap Hunk.written ++ rest) :=
      readBinaryRemark_other (binaryLine_notMem_written boundary)
    rw [shown, hread] at hhunks
    cases hhunks
    exact Nat.succ_le_succ (hn b more hmore)
  constructor
  · refine whole count (behind.mono ?_)
    split <;> omega
  · rintro ⟨hunk, hmem, hnot⟩
    refine whole (count + 1) (behind.mono ?_)
    have hleft : left ≠ [] := fun hleft => hnot ((legible hleft).2 hunk hmem)
    exact Nat.le_of_eq (if_neg hleft).symm

theorem AtLeast.binary {count : Nat} {rest : List Text} (h : AtLeast count rest)
    (boundary : Boundary rest) (oldName newName : Text) :
    AtLeast (count + 1) (("--- " ++ oldName) :: ("+++ " ++ newName) :: binaryLine :: rest) := by
  intro bound ss hss
  have hne : ("--- " : Text) ++ oldName ≠ [] := nofun
  obtain ⟨b, _, _, rest', left, hunks, more, -, hrest, hhunks, hmore, rfl⟩ :=
    readLines?_cons hne hss
  obtain rfl : rest' = binaryLine :: rest := by
    cases hrest
    rfl
  rw [readBinaryRemark_binary, readHunks?_stop _ boundary.startsWith] at hhunks
  cases hhunks
  exact Nat.succ_le_succ (h b more hmore)

end PatchTrail.Diff
