import PatchTrail.Diff.Edit

/-!
# Shortest differences by divide and conquer

The edit graph of two sequences has a step right for a deletion, a step down for an insertion and
a free diagonal step where the elements agree. `middleSnake?` searches from both corners at once,
one more paid step at a time, until the two fronts meet, and names a point that some shortest path
goes through. `edits` strips what the sequences share at both ends, splits the rest at that point
and goes on with the two parts.

Whatever point is named, splitting there gives a difference of the two sequences; that the point
lies on a shortest path only makes the difference short.
-/

namespace PatchTrail.Diff

variable {α : Type} [DecidableEq α]

/-- How many elements two sequences share at their beginnings. -/
def sharedPrefix : List α → List α → Nat
  | x :: xs, y :: ys => if x = y then sharedPrefix xs ys + 1 else 0
  | _, _ => 0

/-- How many elements two sequences share at their ends. -/
def sharedSuffix (xs ys : List α) : Nat := sharedPrefix xs.reverse ys.reverse

theorem sharedPrefix_le_left (xs ys : List α) : sharedPrefix xs ys ≤ xs.length := by
  fun_induction sharedPrefix xs ys <;> simp_all

theorem sharedPrefix_le_right (xs ys : List α) : sharedPrefix xs ys ≤ ys.length := by
  fun_induction sharedPrefix xs ys <;> simp_all

/-- The shared beginning is the same on both sides. -/
theorem take_sharedPrefix (xs ys : List α) :
    xs.take (sharedPrefix xs ys) = ys.take (sharedPrefix xs ys) := by
  fun_induction sharedPrefix xs ys <;> simp_all

namespace Snake

/-- The furthest points of a search: for each diagonal how far right it has come. Diagonals are
numbered from `-bound` on. -/
structure Front where
  bound : Nat
  reach : Array Nat

namespace Front

/-- A search that has not begun. -/
def start (bound : Nat) : Front := ⟨bound, Array.replicate (2 * bound + 2) 0⟩

/-- How far right the search has come on a diagonal. -/
def get (f : Front) (diagonal : Int) : Nat := f.reach.getD (diagonal + f.bound).toNat 0

/-- Notes how far right the search has come on a diagonal. -/
def set (f : Front) (diagonal : Int) (x : Nat) : Front :=
  ⟨f.bound, f.reach.setIfInBounds (diagonal + f.bound).toNat x⟩

/-- Where the best path with `cost` paid steps enters a diagonal: from the diagonal above by a
step down, or from the one below by a step right, whichever has come further. -/
def enter (f : Front) (cost : Nat) (diagonal : Int) : Nat :=
  if diagonal = -(cost : Int)
      ∨ (diagonal ≠ cost ∧ f.get (diagonal - 1) < f.get (diagonal + 1)) then
    f.get (diagonal + 1)
  else f.get (diagonal - 1) + 1

end Front

/-- The length of the run of equal elements from positions `x` and `y` on; `room` bounds it. -/
def runDown (xs ys : Array α) (x y : Nat) : (room : Nat) → Nat
  | 0 => 0
  | room + 1 =>
    match xs[x]?, ys[y]? with
    | some a, some b => if a = b then runDown xs ys (x + 1) (y + 1) room + 1 else 0
    | _, _ => 0

/-- The diagonals that paths with `cost` paid steps end on, from the highest down. -/
def diagonals (cost : Nat) : List Int :=
  (List.range (cost + 1)).map fun (i : Nat) => (cost : Int) - 2 * (i : Int)

/-- The two sequences, forwards and backwards, and the difference of their lengths. -/
structure Grid (α : Type) where
  xs : Array α
  ys : Array α
  xsBack : Array α
  ysBack : Array α

namespace Grid

/-- The grid of two sequences. -/
def ofLists (xs ys : List α) : Grid α :=
  ⟨xs.toArray, ys.toArray, xs.reverse.toArray, ys.reverse.toArray⟩

/-- How many more elements the old sequence has. -/
def skew (g : Grid α) : Int := (g.xs.size : Int) - g.ys.size

/-- Whether two fronts have met on a diagonal of the first. -/
def meets (g : Grid α) (here there : Front) (diagonal : Int) : Bool :=
  decide (g.xs.size ≤ here.get diagonal + there.get (-(diagonal - g.skew)))

end Grid

/-- Extends the front from the top left along the given diagonals. The result is the point where a
run begins that meets the other front, or the extended front. -/
def extendForward (g : Grid α) (other : Front) (cost : Nat) :
    List Int → Front → Sum (Nat × Nat) Front
  | [], front => .inr front
  | k :: ks, front =>
    let x := front.enter cost k
    let y := ((x : Int) - k).toNat
    let front := front.set k (x + runDown g.xs g.ys x y (g.xs.size - x))
    if g.skew % 2 ≠ 0 ∧ (k - g.skew).natAbs + 1 ≤ cost ∧ g.meets front other k then .inl (x, y)
    else extendForward g other cost ks front

/-- Extends the front from the bottom right along the given diagonals. The result is the point
where a run ends that meets the other front, or the extended front. -/
def extendBackward (g : Grid α) (other : Front) (cost : Nat) :
    List Int → Front → Sum (Nat × Nat) Front
  | [], front => .inr front
  | k :: ks, front =>
    let x := front.enter cost k
    let y := ((x : Int) - k).toNat
    let run := runDown g.xsBack g.ysBack x y (g.xs.size - x)
    let front := front.set k (x + run)
    if g.skew % 2 = 0 ∧ (k - g.skew).natAbs ≤ cost ∧ g.meets front other k then
      .inl (g.xs.size - (x + run), g.ys.size - (y + run))
    else extendBackward g other cost ks front

/-- Lets both fronts grow, with `cost` paid steps and more, for at most `rounds` rounds. -/
def searchMiddle (g : Grid α) : (rounds cost : Nat) → Front → Front → Option (Nat × Nat)
  | 0, _, _, _ => none
  | rounds + 1, cost, forward, backward =>
    match extendForward g backward cost (diagonals cost) forward with
    | .inl point => some point
    | .inr forward =>
      match extendBackward g forward cost (diagonals cost) backward with
      | .inl point => some point
      | .inr backward => searchMiddle g rounds (cost + 1) forward backward

end Snake

/-- A point in the middle of a shortest path between two sequences. -/
def middleSnake? (xs ys : List α) : Option (Nat × Nat) :=
  let bound := (xs.length + ys.length + 1) / 2 + 1
  Snake.searchMiddle (Snake.Grid.ofLists xs ys) bound 0 (Snake.Front.start bound)
    (Snake.Front.start bound)

/-- An edit, unless it covers nothing. -/
def unlessEmpty (e : Edit) : List Edit := if e.count = 0 then [] else [e]

omit [DecidableEq α] in
/-- Cut at a point that is neither their beginning nor their end, two sequences that are no longer
than two others fall into shorter ones. -/
theorem halves_shorter {xs ys xs' ys' : List α} {x y : Nat} (hxs : xs'.length ≤ xs.length)
    (hys : ys'.length ≤ ys.length)
    (h : 0 < x + y ∧ x + y < xs'.length + ys'.length ∧ x ≤ xs'.length ∧ y ≤ ys'.length) :
    (xs'.take x).length + (ys'.take y).length < xs.length + ys.length ∧
      (xs'.drop x).length + (ys'.drop y).length < xs.length + ys.length := by
  simp only [List.length_take, List.length_drop]
  omega

/-- The edits between two sequences that stand at the given positions. -/
def editsFrom (old new : Nat) (xs ys : List α) : List Edit :=
  let before := sharedPrefix xs ys
  let xs₁ := xs.drop before
  let ys₁ := ys.drop before
  let after := sharedSuffix xs₁ ys₁
  let xs₂ := xs₁.take (xs₁.length - after)
  let ys₂ := ys₁.take (ys₁.length - after)
  let old₂ := old + before
  let new₂ := new + before
  let between :=
    if xs₂ = [] ∧ ys₂ = [] then []
    else if ys₂ = [] then [Edit.delete old₂ xs₂.length new₂]
    else if xs₂ = [] then [Edit.insert old₂ new₂ ys₂.length]
    else
      match middleSnake? xs₂ ys₂ with
      | none => [Edit.delete old₂ xs₂.length new₂, Edit.insert old₂ new₂ ys₂.length]
      | some (x, y) =>
        if _h : 0 < x + y ∧ x + y < xs₂.length + ys₂.length ∧ x ≤ xs₂.length ∧ y ≤ ys₂.length then
          editsFrom old₂ new₂ (xs₂.take x) (ys₂.take y)
            ++ editsFrom (old₂ + x) (new₂ + y) (xs₂.drop x) (ys₂.drop y)
        else [Edit.delete old₂ xs₂.length new₂, Edit.insert old₂ new₂ ys₂.length]
  unlessEmpty (.keep old new before) ++ between
    ++ unlessEmpty (.keep (old₂ + xs₂.length) (new₂ + ys₂.length) after)
termination_by xs.length + ys.length
decreasing_by
  all_goals
    have hxs : xs₂.length ≤ xs.length :=
      ((List.take_sublist _ _).trans (List.drop_sublist _ _)).length_le
    have hys : ys₂.length ≤ ys.length :=
      ((List.take_sublist _ _).trans (List.drop_sublist _ _)).length_le
  · exact (halves_shorter hxs hys _h).1
  · exact (halves_shorter hxs hys _h).2

/-- The edits between two sequences, before adjacent ones are drawn together. -/
def edits (xs ys : List α) : List Edit := editsFrom 0 0 xs ys

end PatchTrail.Diff
