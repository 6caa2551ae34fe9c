import PatchTrail.Diff.Compaction

/-!
# Stretches that agree

Edits speak of stretches of two sequences by position and length. `Agree` says that two stretches
are the same, element by element, which is the form in which edits are moved along them. What the
search and the compaction measure by comparing, the shared beginning and the shared end of two
stretches, are stretches that agree (`agree_sharedPrefix_slice`, `agree_sharedSuffix_slice`), and
the shared beginning is empty only where the first elements differ (`sharedPrefix_slice_pos`).
-/

namespace PatchTrail.Diff

variable {α : Type}

/-- The `count` elements from `i` on in one sequence are those from `j` on in another. -/
def Agree (xs ys : List α) (i j count : Nat) : Prop := ∀ t < count, xs[i + t]? = ys[j + t]?

namespace Agree

variable {xs ys zs : List α} {i j k c d : Nat}

/-- A part of what agrees, `d` elements further on, agrees. -/
theorem within {i' j' c' : Nat} (h : Agree xs ys i j c) (d : Nat) (hi : i' = i + d)
    (hj : j' = j + d) (hc : c' + d ≤ c) : Agree xs ys i' j' c' := by
  intro t ht
  subst hi hj
  rw [Nat.add_assoc, Nat.add_assoc]
  exact h (d + t) (by omega)

/-- Two stretches that agree and follow each other on both sides agree as one. -/
theorem append (h : Agree xs ys i j c) (h' : Agree xs ys (i + c) (j + c) d) :
    Agree xs ys i j (c + d) := by
  intro t ht
  by_cases htc : t < c
  · exact h t htc
  · have := h' (t - c) (by omega)
    rwa [show i + c + (t - c) = i + t by omega, show j + c + (t - c) = j + t by omega] at this

theorem trans (h : Agree xs ys i j c) (h' : Agree ys zs j k c) : Agree xs zs i k c :=
  fun t ht => (h t ht).trans (h' t ht)

theorem symm (h : Agree xs ys i j c) : Agree ys xs j i c := fun t ht => (h t ht).symm

theorem zero : Agree xs ys i j 0 := fun t ht => (Nat.not_lt_zero t ht).elim

theorem whole (xs : List α) : Agree xs xs 0 0 xs.length := fun _ _ => rfl

/-- Taken from a stretch, elements stand where the stretch stands. -/
theorem of_take (h : Agree xs ys 0 i xs.length) :
    Agree (xs.take d) ys 0 i (xs.take d).length := by
  intro t ht
  rw [List.length_take] at ht
  rw [← h t (by omega), List.getElem?_take, if_pos (by omega)]

/-- What is left of a stretch stands further on. -/
theorem of_drop (h : Agree xs ys 0 i xs.length) :
    Agree (xs.drop d) ys 0 (i + d) (xs.drop d).length := by
  intro t ht
  rw [List.length_drop] at ht
  rw [List.getElem?_drop, Nat.zero_add, Nat.add_assoc, ← h (d + t) (by omega), Nat.zero_add]

end Agree

/-! ## Slices -/

theorem getElem?_slice (xs : List α) (i c t : Nat) :
    (Edit.slice xs i c)[t]? = if t < c then xs[i + t]? else none := by
  unfold Edit.slice
  rw [List.getElem?_take, List.getElem?_drop]

theorem length_slice {xs : List α} {i c : Nat} (h : i + c ≤ xs.length) :
    (Edit.slice xs i c).length = c := by
  unfold Edit.slice
  rw [List.length_take, List.length_drop]
  omega

theorem length_slice_le (xs : List α) (i c : Nat) : (Edit.slice xs i c).length ≤ c :=
  List.length_take_le ..

theorem agree_slice (xs : List α) (i c : Nat) : Agree (Edit.slice xs i c) xs 0 i c := by
  intro t ht
  rw [Nat.zero_add, getElem?_slice, if_pos ht]

/-- Slices of stretches that agree are equal. -/
theorem Agree.slice_eq {xs ys : List α} {i j c : Nat} (h : Agree xs ys i j c) :
    Edit.slice xs i c = Edit.slice ys j c := by
  apply List.ext_getElem?
  intro t
  rw [getElem?_slice, getElem?_slice]
  split
  · next ht => exact h t ht
  · rfl

/-- From a position on a sequence is a slice and what comes behind it. -/
theorem drop_eq_slice_append (xs : List α) (i c : Nat) :
    xs.drop i = Edit.slice xs i c ++ xs.drop (i + c) := by
  unfold Edit.slice
  rw [← List.drop_drop, List.take_append_drop]

/-! ## Shared beginnings and ends -/

variable [DecidableEq α]

/-- The shared beginning of two sequences agrees. -/
theorem agree_sharedPrefix (as bs : List α) : Agree as bs 0 0 (sharedPrefix as bs) := by
  intro t ht
  rw [Nat.zero_add]
  induction as, bs using sharedPrefix.induct generalizing t with
  | case1 a as bs ih =>
      rw [sharedPrefix, if_pos rfl] at ht
      cases t with
      | zero => rfl
      | succ t =>
          rw [List.getElem?_cons_succ, List.getElem?_cons_succ]
          exact ih t (by omega)
  | case2 a as b bs hne =>
      rw [sharedPrefix, if_neg hne] at ht
      omega
  | case3 as bs hne =>
      rw [sharedPrefix] at ht
      · omega
      · exact hne

theorem sharedSuffix_le_left (as bs : List α) : sharedSuffix as bs ≤ as.length := by
  have := sharedPrefix_le_left as.reverse bs.reverse
  rwa [List.length_reverse] at this

theorem sharedSuffix_le_right (as bs : List α) : sharedSuffix as bs ≤ bs.length := by
  have := sharedPrefix_le_right as.reverse bs.reverse
  rwa [List.length_reverse] at this

/-- The shared end of two sequences agrees. -/
theorem agree_sharedSuffix (as bs : List α) :
    Agree as bs (as.length - sharedSuffix as bs) (bs.length - sharedSuffix as bs)
      (sharedSuffix as bs) := by
  intro t ht
  have hl := sharedSuffix_le_left as bs
  have hr := sharedSuffix_le_right as bs
  -- the element that is read `t`-th is the one from the end with this number
  have := agree_sharedPrefix as.reverse bs.reverse (sharedSuffix as bs - 1 - t)
    (by unfold sharedSuffix at ht ⊢; omega)
  rw [Nat.zero_add, List.getElem?_reverse (by omega), List.getElem?_reverse (by omega)] at this
  rwa [show as.length - 1 - (sharedSuffix as bs - 1 - t) = as.length - sharedSuffix as bs + t by
    omega, show bs.length - 1 - (sharedSuffix as bs - 1 - t) = bs.length - sharedSuffix as bs + t by
    omega] at this

/-- What two slices share at their beginnings agrees. -/
theorem agree_sharedPrefix_slice {xs ys : List α} {i j c d s : Nat}
    (hs : sharedPrefix (Edit.slice xs i c) (Edit.slice ys j d) = s) : Agree xs ys i j s := by
  have hl := sharedPrefix_le_left (Edit.slice xs i c) (Edit.slice ys j d)
  have hr := sharedPrefix_le_right (Edit.slice xs i c) (Edit.slice ys j d)
  have shared := agree_sharedPrefix (Edit.slice xs i c) (Edit.slice ys j d)
  have hc := length_slice_le xs i c
  have hd := length_slice_le ys j d
  rw [hs] at hl hr shared
  have hx : Agree xs (Edit.slice xs i c) i 0 s :=
    (agree_slice xs i c).symm.within 0 rfl rfl (by omega)
  have hy : Agree (Edit.slice ys j d) ys 0 j s :=
    (agree_slice ys j d).within 0 rfl rfl (by omega)
  exact hx.trans (shared.trans hy)

/-- What two slices share at their ends agrees. -/
theorem agree_sharedSuffix_slice {xs ys : List α} {i j c d s : Nat} (hx : i + c ≤ xs.length)
    (hy : j + d ≤ ys.length) (hs : sharedSuffix (Edit.slice xs i c) (Edit.slice ys j d) = s) :
    Agree xs ys (i + c - s) (j + d - s) s := by
  have hl := sharedSuffix_le_left (Edit.slice xs i c) (Edit.slice ys j d)
  have hr := sharedSuffix_le_right (Edit.slice xs i c) (Edit.slice ys j d)
  have shared := agree_sharedSuffix (Edit.slice xs i c) (Edit.slice ys j d)
  rw [length_slice hx, hs] at hl shared
  rw [length_slice hy, hs] at hr
  rw [length_slice hy] at shared
  have hxs : Agree xs (Edit.slice xs i c) (i + c - s) (c - s) s :=
    (agree_slice xs i c).symm.within (c - s) (by omega) (by omega) (by omega)
  have hys : Agree (Edit.slice ys j d) ys (d - s) (j + d - s) s :=
    (agree_slice ys j d).within (d - s) (by omega) (by omega) (by omega)
  exact hxs.trans (shared.trans hys)

/-- Two slices whose first elements are the same share something at their beginnings. -/
theorem sharedPrefix_slice_pos {xs ys : List α} {i j c d : Nat} (hc : 0 < c) (hd : 0 < d)
    (hi : i < xs.length) (h : xs[i]? = ys[j]?) :
    0 < sharedPrefix (Edit.slice xs i c) (Edit.slice ys j d) := by
  have hx : (Edit.slice xs i c)[0]? = xs[i]? := by rw [getElem?_slice, if_pos hc, Nat.add_zero]
  have hy : (Edit.slice ys j d)[0]? = ys[j]? := by rw [getElem?_slice, if_pos hd, Nat.add_zero]
  rw [List.getElem?_eq_getElem hi] at hx
  rw [← h, List.getElem?_eq_getElem hi] at hy
  cases hxs : Edit.slice xs i c with
  | nil => simp [hxs] at hx
  | cons a as =>
      cases hys : Edit.slice ys j d with
      | nil => simp [hys] at hy
      | cons b bs =>
          rw [hxs] at hx
          rw [hys] at hy
          have hab : a = b := Option.some.inj (hx.trans hy.symm)
          rw [sharedPrefix, if_pos hab]
          omega

end PatchTrail.Diff
