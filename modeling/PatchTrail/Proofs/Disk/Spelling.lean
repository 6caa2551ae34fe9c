import PatchTrail.Disk.Basic
import PatchTrail.Proofs.Text.Pieces

/-!
# The names of a path

The names of a path that is put together are the names of its parts (`Path.names_append`), so a path
below a directory has the names of the directory and then its own (`Path.names_below`). Where a path
has names, the path of the directory around is a shorter beginning of it with all names but the last
(`Path.exists_around`).
-/

namespace PatchTrail

namespace Path

variable {path name parent : Text}

/-! ## Names -/

theorem names_append (s t : Text) : names (s ++ '/' :: t) = names s ++ names t := by
  unfold names
  rw [Text.split_append, List.filter_append]

theorem names_nil : names [] = [] := rfl

theorem names_concat_slash (t : Text) : names (t ++ ['/']) = names t := by
  rw [names_append, names_nil, List.append_nil]

theorem names_of_name (slash : '/' ∉ name) (some : name ≠ []) (dot : name ≠ ['.']) :
    names name = [name] := by
  unfold names
  rw [Text.split_of_not_mem slash, List.filter_cons_of_pos (by simpa using ⟨some, dot⟩),
    List.filter_nil]

theorem mem_names (h : name ∈ names path) : '/' ∉ name ∧ name ≠ [] ∧ name ≠ ['.'] := by
  obtain ⟨hmem, hname⟩ := List.mem_filter.mp h
  exact ⟨Text.not_mem_of_mem_split hmem, by simpa using hname⟩

/-! ## Paths below a directory -/

theorem isAbsolute_of_not_mem (h : '/' ∉ name) : isAbsolute name = false := by
  cases name with
  | nil => rfl
  | cons c name =>
      have : c ≠ '/' := fun hc => h (hc ▸ List.mem_cons_self)
      simpa [isAbsolute] using this

theorem names_join (base : Text) (h : isAbsolute path = false) :
    names (join base path) = names base ++ names path := by
  unfold join
  split
  · next hbase =>
      rcases hbase with habsolute | rfl
      · rw [h] at habsolute
        cases habsolute
      · rfl
  · split
    · next hslash =>
        obtain ⟨base, rfl⟩ := List.getLast?_eq_some_iff.mp hslash
        rw [List.append_assoc, List.singleton_append, names_append, names_concat_slash]
    · exact names_append base path

theorem isAbsolute_join (base : Text) (h : isAbsolute path = false) :
    isAbsolute (join base path) = isAbsolute base := by
  unfold join
  split
  · next hbase =>
      rcases hbase with habsolute | rfl
      · rw [h] at habsolute
        cases habsolute
      · exact h
  · next hbase =>
      cases base with
      | nil => exact absurd (.inr rfl) hbase
      | cons c base =>
          split
          · rfl
          · rfl

/-- A path below a directory has the names of the directory and its own. -/
theorem names_below (directory path : Text) :
    names (below directory path) = names directory ++ names path := by
  have joined : ∀ ns : List Text, (∀ n ∈ ns, n ∈ names path) →
      ∀ base, names (ns.foldl join base) = names base ++ ns := by
    intro ns
    induction ns with
    | nil => exact fun _ base => (List.append_nil _).symm
    | cons n ns ih =>
        intro hns base
        obtain ⟨slash, some, dot⟩ := mem_names (hns n List.mem_cons_self)
        rw [List.foldl_cons, ih (fun m hm => hns m (List.mem_cons_of_mem _ hm)),
          names_join base (isAbsolute_of_not_mem slash), names_of_name slash some dot,
          List.append_assoc]
        rfl
  exact joined _ (fun _ h => h) directory

theorem isAbsolute_below (directory path : Text) :
    isAbsolute (below directory path) = isAbsolute directory := by
  have joined : ∀ ns : List Text, (∀ n ∈ ns, n ∈ names path) →
      ∀ base, isAbsolute (ns.foldl join base) = isAbsolute base := by
    intro ns
    induction ns with
    | nil => exact fun _ base => rfl
    | cons n ns ih =>
        intro hns base
        rw [List.foldl_cons, ih (fun m hm => hns m (List.mem_cons_of_mem _ hm)),
          isAbsolute_join base (isAbsolute_of_not_mem (mem_names (hns n List.mem_cons_self)).1)]
  exact joined _ (fun _ h => h) directory

/-! ## The directory around -/

/-- Paths, backwards, at the end of which nothing can be left out. -/
inductive Trimmed : Text → Prop where
  | nil : Trimmed []
  | root : Trimmed ['/']
  | dot : Trimmed ['.']
  | name {word rest : Text} (slash : '/' ∉ word) (named : word ≠ []) (dot : word ≠ ['.'])
      (front : rest = [] ∨ ∃ more, rest = '/' :: more) : Trimmed (word ++ rest)

theorem trimEnd_suffix (t : Text) : trimEnd t <:+ t := by
  fun_induction trimEnd t with
  | case1 => exact List.suffix_rfl
  | case2 rest _ ih => exact ih.trans (List.suffix_cons _ _)
  | case3 => exact ⟨['.'], rfl⟩
  | case4 rest _ ih => exact ih.trans ((List.suffix_cons _ _).trans (List.suffix_cons _ _))
  | case5 => exact List.suffix_rfl

theorem names_trimEnd (t : Text) : names (trimEnd t).reverse = names t.reverse := by
  fun_induction trimEnd t with
  | case1 => rfl
  | case2 rest _ ih => rw [ih, List.reverse_cons, names_concat_slash]
  | case3 => rfl
  | case4 rest _ ih =>
      rw [ih, List.reverse_cons, List.reverse_cons, List.append_assoc, List.singleton_append,
        names_append]
      exact (List.append_nil _).symm
  | case5 => rfl

theorem getLast?_trimEnd {t : Text} (h : t.getLast? = some '/') :
    (trimEnd t).getLast? = some '/' := by
  fun_induction trimEnd t with
  | case1 => rfl
  | case2 rest hroot ih =>
      refine ih ?_
      cases rest with
      | nil => exact absurd rfl hroot
      | cons c rest => rwa [List.getLast?_cons_cons] at h
  | case3 => rfl
  | case4 rest hroot ih =>
      refine ih ?_
      cases rest with
      | nil => exact absurd rfl hroot
      | cons c rest => rwa [List.getLast?_cons_cons, List.getLast?_cons_cons] at h
  | case5 => exact h

theorem dropWhile_name (t : Text) :
    t.dropWhile (· != '/') = [] ∨ ∃ more, t.dropWhile (· != '/') = '/' :: more := by
  induction t with
  | nil => exact .inl rfl
  | cons c t ih =>
      by_cases hc : c = '/'
      · subst hc
        exact .inr ⟨t, rfl⟩
      · rw [List.dropWhile_cons_of_pos (by simpa using hc)]
        exact ih

theorem trimmed_trimEnd (t : Text) : Trimmed (trimEnd t) := by
  fun_induction trimEnd t with
  | case1 => exact .root
  | case2 _ _ ih => exact ih
  | case3 => exact .root
  | case4 _ _ ih => exact ih
  | case5 t _ slash _ dotSlash =>
      cases t with
      | nil => exact .nil
      | cons c t =>
          have hc : c ≠ '/' := fun hc => slash t (hc ▸ rfl)
          by_cases alone : c = '.' ∧ t = []
          · rw [alone.1, alone.2]
            exact .dot
          · have first : (c :: t).takeWhile (· != '/') = c :: t.takeWhile (· != '/') :=
              List.takeWhile_cons_of_pos (by simpa using hc)
            rw [← List.takeWhile_append_dropWhile (p := (· != '/')) (l := c :: t)]
            refine .name (fun h => ?_) (first ▸ List.cons_ne_nil _ _) (fun h => ?_)
              (dropWhile_name _)
            · simpa using List.all_eq_true.mp List.all_takeWhile _ h
            · rw [first] at h
              obtain ⟨rfl, hrest⟩ := List.cons.inj h
              have whole := List.takeWhile_append_dropWhile (p := (· != '/')) (l := t)
              rw [hrest, List.nil_append] at whole
              rcases dropWhile_name t with hnil | ⟨more, hmore⟩
              · exact alone ⟨rfl, whole.symm.trans hnil⟩
              · exact dotSlash more (by rw [← whole, hmore])

theorem Trimmed.of_reverse_name {word rest : Text} (slash : '/' ∉ word) (named : word ≠ [])
    (dot : word ≠ ['.']) (front : rest = [] ∨ ∃ more, rest = '/' :: more) :
    names (word ++ rest).reverse = names rest.reverse ++ [word.reverse] ∧
      endsInDot (word ++ rest).reverse = false := by
  have slash : '/' ∉ word.reverse := by simpa using slash
  have named : word.reverse ≠ [] := by simpa using named
  have dot : word.reverse ≠ ['.'] := fun h => dot (List.reverse_eq_iff.mp h)
  have kept : [word.reverse].filter (fun name => !name.isEmpty) = [word.reverse] :=
    List.filter_cons_of_pos (by simpa using named)
  have last : (some word.reverse == some ['.']) = false := by simpa using dot
  rw [List.reverse_append]
  unfold endsInDot
  rcases front with rfl | ⟨more, rfl⟩
  · rw [List.reverse_nil, List.nil_append, Text.split_of_not_mem slash, kept]
    exact ⟨names_of_name slash named dot, last⟩
  · rw [List.reverse_cons, List.append_assoc, List.singleton_append, names_append,
      names_concat_slash, names_of_name slash named dot, Text.split_append,
      Text.split_of_not_mem slash, List.filter_append, kept, List.getLast?_concat]
    exact ⟨rfl, last⟩

/-- A path with names at the end of which nothing can be left out does not end in a dot. -/
theorem Trimmed.endsInDot {t : Text} (h : Trimmed t) (named : names t.reverse ≠ []) :
    endsInDot t.reverse = false := by
  cases h with
  | nil => rfl
  | root => rfl
  | dot => exact absurd rfl named
  | name slash word dot front => exact (of_reverse_name slash word dot front).2

/-- One path is that of the directory around another: a shorter beginning with all names but the
last, at the end of which nothing can be left out. -/
structure Around (parent path : Text) : Prop where
  names : ∃ last, names path = Path.names parent ++ [last]
  isAbsolute : isAbsolute parent = Path.isAbsolute path
  before : parent <+: path
  shorter : parent.length < path.length
  dot : Path.names parent ≠ [] → endsInDot parent = false

/-- What is left of a path without its last name begins with a slash if the path does. -/
theorem isAbsolute_of_trimEnd {word rest : Text} (h : trimEnd path.reverse = word ++ rest)
    (slash : '/' ∉ word) : isAbsolute (trimEnd rest).reverse = isAbsolute path := by
  have before : (trimEnd rest).reverse <+: path := by
    rw [← List.reverse_suffix, List.reverse_reverse]
    exact (trimEnd_suffix rest).trans ((List.suffix_append word rest).trans
      (h ▸ trimEnd_suffix path.reverse))
  unfold isAbsolute
  rw [Bool.eq_iff_iff, beq_iff_eq, beq_iff_eq]
  refine ⟨fun first => ?_, fun first => ?_⟩
  · obtain ⟨more, rfl⟩ := before
    rw [List.head?_append, first]
    rfl
  · rw [← List.getLast?_reverse] at first
    have last := getLast?_trimEnd first
    rw [h] at last
    rw [List.head?_reverse]
    refine getLast?_trimEnd ?_
    cases hrest : rest.getLast? with
    | some c => rwa [List.getLast?_append, hrest] at last
    | none =>
        rw [List.getLast?_append, hrest] at last
        exact absurd (List.mem_of_getLast? last) slash

/-- A path with names has a directory around. -/
theorem exists_around (named : names path ≠ []) :
    ∃ parent, parent? path = some parent ∧ Around parent path := by
  have hnames := names_trimEnd path.reverse
  have suffix := trimEnd_suffix path.reverse
  have trimmed := trimmed_trimEnd path.reverse
  rw [List.reverse_reverse] at hnames
  unfold parent?
  generalize hbackwards : trimEnd path.reverse = backwards at *
  cases trimmed with
  | nil => exact absurd hnames.symm named
  | root => exact absurd hnames.symm named
  | dot => exact absurd hnames.symm named
  | @name word rest slash full dot front =>
      have last := (Trimmed.of_reverse_name slash full dot front).1
      have passed : ∀ c ∈ word, (c != '/') = true := fun c hc => by
        simpa using fun h : c = '/' => slash (h ▸ hc)
      have dropped : (word ++ rest).dropWhile (· != '/') = rest := by
        rw [List.dropWhile_append_of_pos passed]
        rcases front with rfl | ⟨more, rfl⟩
        · rfl
        · rfl
      have before : (trimEnd rest).reverse <+: path := by
        rw [← List.reverse_suffix, List.reverse_reverse]
        exact (trimEnd_suffix rest).trans ((List.suffix_append word rest).trans suffix)
      refine ⟨(trimEnd rest).reverse, ?_, ⟨word.reverse, ?_⟩,
        isAbsolute_of_trimEnd hbackwards slash, before, ?_, (trimmed_trimEnd rest).endsInDot⟩
      · cases word with
        | nil => exact absurd rfl full
        | cons c word =>
            have hc : c ≠ '/' := fun h => slash (h ▸ List.mem_cons_self)
            split
            · next h => cases h
            · next h => exact absurd (List.cons.inj h).1 hc
            · rw [dropped]
      · rw [names_trimEnd, ← hnames, last]
      · have shorter := List.length_pos_iff.mpr full
        have hrest := (trimEnd_suffix rest).length_le
        have hwhole := suffix.length_le
        rw [List.length_append, List.length_reverse] at hwhole
        rw [List.length_reverse]
        omega

/-- The directory around a path without names has the empty path, if there is one. -/
theorem parent_eq_nil (bare : names path = []) (h : parent? path = some parent) : parent = [] := by
  have hnames := names_trimEnd path.reverse
  have trimmed := trimmed_trimEnd path.reverse
  rw [List.reverse_reverse, bare] at hnames
  unfold parent? at h
  generalize trimEnd path.reverse = backwards at *
  cases trimmed with
  | nil => cases h
  | root => cases h
  | dot =>
      cases h
      rfl
  | name slash full dot front =>
      rw [(Trimmed.of_reverse_name slash full dot front).1] at hnames
      exact absurd hnames (by simp)

/-- A path without names that does not begin at the root ends in a dot. -/
theorem endsInDot_of_names_eq_nil (bare : names path = []) (full : path ≠ [])
    (relative : isAbsolute path = false) : endsInDot path = true := by
  have piece : ∀ p ∈ path.split '/', p ≠ [] → p = ['.'] := by
    refine fun p hp some => Classical.byContradiction fun dot => ?_
    have : p ∈ names path := List.mem_filter.mpr ⟨hp, by simpa using ⟨some, dot⟩⟩
    rw [bare] at this
    cases this
  have found : (path.split '/').filter (!·.isEmpty) ≠ [] := by
    cases path with
    | nil => exact absurd rfl full
    | cons c path =>
        have hc : ¬ (c == '/') = true := by simpa [isAbsolute] using relative
        unfold Text.split
        rw [Text.splitBy, if_neg hc]
        split
        · exact List.cons_ne_nil _ _
        · exact List.cons_ne_nil _ _
  unfold endsInDot
  rw [List.getLast?_eq_some_getLast found, beq_iff_eq]
  obtain ⟨hmem, some⟩ := List.mem_filter.mp (List.getLast_mem found)
  exact congrArg _ (piece _ hmem (by simpa using some))

/-- A path that ends in a dot can only mean a directory. -/
theorem endsAsDirectory_of_endsInDot (h : endsInDot path = true) : endsAsDirectory path = true := by
  have h : ((path.split '/').filter (!·.isEmpty)).getLast? = some ['.'] := by
    simpa [endsInDot] using h
  by_cases slash : '/' ∈ path.reverse
  · obtain ⟨last, front, backwards, free⟩ := List.eq_append_cons_of_mem slash
    have forwards : path = front.reverse ++ '/' :: last.reverse := by
      rw [← List.reverse_reverse path, backwards]
      simp
    have free : '/' ∉ last.reverse := by simpa using free
    rw [forwards, Text.split_append, Text.split_of_not_mem free, List.filter_append] at h
    unfold endsAsDirectory
    rw [backwards]
    cases last with
    | nil => rfl
    | cons c last =>
        have dot : (c :: last).reverse = ['.'] := by simpa using h
        obtain ⟨rfl, rfl⟩ : c = '.' ∧ last = [] := by simpa using congrArg List.reverse dot
        rfl
  · rw [List.mem_reverse] at slash
    rw [Text.split_of_not_mem slash] at h
    cases path with
    | nil => simp at h
    | cons c path =>
        obtain ⟨rfl, rfl⟩ : c = '.' ∧ path = [] := by simpa using h
        rfl

end Path

end PatchTrail
