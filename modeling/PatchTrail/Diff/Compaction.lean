import PatchTrail.Diff.Snake

/-!
# Drawing edits together

A deletion or insertion next to kept lines can often slide over them: if the lines it brings end
like the kept lines before it, it may begin earlier by as many lines. Sliding an edit up as far as
possible and then down as far as possible brings it together with other edits of its kind.

The list of edits is looked at from one edit on: the edits before it, nearest first, and the edits
after it. An edit that moves past one of the other kind keeps the positions it was written with.
-/

namespace PatchTrail.Diff

variable {α : Type} [DecidableEq α]

/-- How much room a list of edits leaves for sliding: one for each edit and for each kept line. -/
def room : List Edit → Nat
  | [] => 0
  | e :: es => (if e.isKeep then e.count + 1 else 1) + room es

@[simp] theorem room_nil : room [] = 0 := rfl

@[simp] theorem room_cons (e : Edit) (es : List Edit) :
    room (e :: es) = (if e.isKeep then e.count + 1 else 1) + room es := rfl

/-- Puts kept lines in front of a list, unless there are none. -/
def consKeep (old new count : Nat) (es : List Edit) : List Edit :=
  if count = 0 then es else .keep old new count :: es

theorem room_consKeep_le (old new count : Nat) (es : List Edit) :
    room (consKeep old new count es) ≤ count + 1 + room es := by
  unfold consKeep
  split <;> simp [Edit.isKeep, Edit.count]

/-- Slides an insertion of the lines at `new` up over the edits before it. -/
def slideUp (xs ys : List α) (e : Edit) (before after : List Edit) :
    List Edit × Edit × List Edit :=
  match e, before with
  | .insert old new count, .keep o n c :: rest =>
    let shared := sharedSuffix (Edit.slice xs o c) (Edit.slice ys new count)
    if _h : 0 < shared ∧ shared ≤ c then
      let after' :=
        match after with
        | .keep o' n' c' :: more => .keep (o' - shared) (n' - shared) (c' + shared) :: more
        | _ => .keep (o + c - shared) (new + count - shared) shared :: after
      slideUp xs ys (.insert (old - shared) (new - shared) count)
        (consKeep o n (c - shared) rest) after'
    else if c = 0 then slideUp xs ys e rest after
    else (before, e, after)
  | .delete .., .keep _ _ c :: rest =>
    if c = 0 then slideUp xs ys e rest after else (before, e, after)
  | .insert .., .delete o c n :: rest => slideUp xs ys e rest (.delete o c n :: after)
  | .delete .., .insert o n c :: rest => slideUp xs ys e rest (.insert o n c :: after)
  | .insert _ _ count, .insert o n c :: rest => slideUp xs ys (.insert o n (c + count)) rest after
  | .delete _ count _, .delete o c n :: rest => slideUp xs ys (.delete o (c + count) n) rest after
  | _, _ => (before, e, after)
termination_by room before
decreasing_by
  · have := room_consKeep_le o n (c - shared) rest
    simp only [room_cons, Edit.isKeep, Edit.count, ite_true] at *
    rw [consKeep] at *
    split
    · omega
    · simp only [room_cons, Edit.isKeep, Edit.count, ite_true] at *
      omega
  all_goals simp [Edit.isKeep]

/-- Slides a deletion or insertion down over the edits after it. -/
def slideDown (xs ys : List α) (e : Edit) (before after : List Edit) :
    List Edit × Edit × List Edit :=
  match e, after with
  | .insert old new count, .keep o n c :: rest =>
    let shared := sharedPrefix (Edit.slice xs o c) (Edit.slice ys new count)
    if _h : 0 < shared ∧ shared ≤ c then
      let before' :=
        match before with
        | .keep o' n' c' :: more => .keep o' n' (c' + shared) :: more
        | _ => .keep o new shared :: before
      slideDown xs ys (.insert (old + shared) (new + shared) count) before'
        (consKeep (o + shared) (n + shared) (c - shared) rest)
    else if c = 0 then slideDown xs ys e before rest
    else (before, e, after)
  | .delete .., .keep _ _ c :: rest =>
    if c = 0 then slideDown xs ys e before rest else (before, e, after)
  | .insert .., .delete o c n :: rest => slideDown xs ys e (.delete o c n :: before) rest
  | .delete .., .insert o n c :: rest => slideDown xs ys e (.insert o n c :: before) rest
  | .insert old new count, .insert _ _ c :: rest =>
    slideDown xs ys (.insert old new (count + c)) before rest
  | .delete old count new, .delete _ c _ :: rest =>
    slideDown xs ys (.delete old (count + c) new) before rest
  | _, _ => (before, e, after)
termination_by room after
decreasing_by
  · have := room_consKeep_le (o + shared) (n + shared) (c - shared) rest
    simp only [room_cons, Edit.isKeep, Edit.count, ite_true] at *
    rw [consKeep] at *
    split
    · omega
    · simp only [room_cons, Edit.isKeep, Edit.count, ite_true] at *
      omega
  all_goals simp [Edit.isKeep]

/-- Slides every edit that `chosen` picks up and then down, walking along the list. The walk goes
on behind the place where an edit has come to rest; `steps` bounds it. -/
def settle (xs ys : List α) (chosen : Edit → Bool) : (steps : Nat) → (before after : List Edit) →
    List Edit
  | 0, before, after => before.reverse ++ after
  | _ + 1, before, [] => before.reverse
  | steps + 1, before, e :: after =>
    if chosen e then
      let (before, e, after) := slideUp xs ys e before after
      let (before, e, after) := slideDown xs ys e before after
      settle xs ys chosen steps (e :: before) after
    else settle xs ys chosen steps (e :: before) after

/-- Whether an edit is a deletion. -/
def Edit.isDelete : Edit → Bool
  | .delete .. => true
  | _ => false

/-- Whether an edit is an insertion. -/
def Edit.isInsert : Edit → Bool
  | .insert .. => true
  | _ => false

/-- Draws deletions together, then insertions. -/
def compact (xs ys : List α) (es : List Edit) : List Edit :=
  let steps := fun (es : List Edit) => (es.length + 1) * (xs.length + ys.length + 2)
  let es := settle xs ys Edit.isDelete (steps es) [] es
  settle xs ys Edit.isInsert (steps es) [] es

/-- Edits waiting to be written: kept lines, a deletion and an insertion, each with its sizes. -/
structure Waiting where
  kept : Option (Nat × Nat × Nat) := none
  deleted : Option (Nat × Nat × Nat) := none
  inserted : Option (Nat × Nat × Nat) := none

namespace Waiting

/-- The kept lines that wait. -/
def flushKept (w : Waiting) : List Edit :=
  match w.kept with
  | some (old, new, count) => [.keep old new count]
  | none => []

/-- The change that waits: a deletion and an insertion together are a replacement. -/
def flushChange (w : Waiting) : List Edit :=
  match w.deleted, w.inserted with
  | some (old, count, _), some (_, new, newCount) => [.replace old count new newCount]
  | some (old, count, new), none => [.delete old count new]
  | none, some (old, new, count) => [.insert old new count]
  | none, none => []

end Waiting

/-- Joins neighbouring kept lines, and turns each run of deletions and insertions into one
change. -/
def coalesce : List Edit → Waiting → List Edit
  | [], w => w.flushKept ++ w.flushChange
  | .keep old new count :: rest, w =>
    let kept :=
      match w.kept with
      | some (o, n, c) => (o, n, c + count)
      | none => (old, new, count)
    w.flushChange ++ coalesce rest { kept := some kept }
  | .delete old count new :: rest, w =>
    let deleted :=
      match w.deleted with
      | some (o, c, n) => (o, c + count, n)
      | none => (old, count, new)
    w.flushKept ++ coalesce rest { w with kept := none, deleted := some deleted }
  | .insert old new count :: rest, w =>
    let inserted :=
      match w.inserted with
      | some (o, n, c) => (o, n, c + count)
      | none => (old, new, count)
    w.flushKept ++ coalesce rest { w with kept := none, inserted := some inserted }
  | .replace old oldCount new newCount :: rest, w =>
    w.flushKept ++ w.flushChange ++ .replace old oldCount new newCount :: coalesce rest {}

/-- The difference of two sequences. -/
def difference (xs ys : List α) : List Edit := coalesce (compact xs ys (edits xs ys)) {}

end PatchTrail.Diff
