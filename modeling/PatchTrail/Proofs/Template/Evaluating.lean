import PatchTrail.Template.Rendering

/-!
# What is computed in a scope

One step after another, steps on a line and in a frame of their own give what they give one by one
(`run_bind`, `onLine_ok`, `within_ok`). A loop shows its items one after the other, each in a frame
from which the assignments for the item before are gone (`runItems_ok`, `runLoop_ok`). In a scope in
which nothing is escaped and nothing was assigned (`Quiet`), a value is shown as it is and the
function `add_int` adds (`run_emit`, `callName_addInt`).
-/

namespace PatchTrail.Template

/-! ## Steps -/

section

variable {σ ε α β : Type} {m : StateT σ (Except ε) α} {f : α → StateT σ (Except ε) β} {s s' : σ}

theorem run_bind {a : α} {r : Except ε (β × σ)} (hm : m s = .ok (a, s')) (hf : f a s' = r) :
    (m >>= f) s = r := by
  change StateT.bind m f s = _
  unfold StateT.bind
  rw [hm]
  exact hf

theorem number_bind {m : Numbering α} {f : α → Numbering β} {a : α} {k k' : Nat} {r : β × Nat}
    (hm : m k = (a, k')) (hf : f a k' = r) : (m >>= f) k = r := by
  change StateT.bind m f k = _
  unfold StateT.bind
  rw [hm]
  exact hf

theorem run_get (g : σ → StateT σ (Except ε) β) (s : σ) : (get >>= g) s = g s s := rfl

end

section

variable {α : Type} {m : Eval α} {a : α} {s s' base : Scope}

theorem onLine_ok (line : Nat) (h : m s = .ok (a, s')) : Eval.onLine line m s = .ok (a, s') := by
  unfold Eval.onLine
  rw [h]
  rfl

/-- A scope with one more frame. -/
def inFrame (f : Frame) (s : Scope) : Scope := { s with frames := f :: s.frames }

/-- What is computed in a frame of its own leaves nothing but its result. -/
theorem within_ok {f f' : Frame} (room : base.depth ≤ Scope.maxDepth)
    (h : m (inFrame f base) = .ok (a, inFrame f' base)) :
    Eval.within f m base = .ok (a, base) := by
  have checked : Eval.checkDepth base = .ok ((), base) := by
    unfold Eval.checkDepth
    rw [run_get, if_neg (Nat.not_lt.2 room)]
    rfl
  have entered : (modify fun s => { s with frames := f :: s.frames } : Eval Unit) base =
      .ok ((), inFrame f base) := rfl
  unfold Eval.within
  exact run_bind checked (run_bind entered (run_bind h rfl))

end

/-! ## Loops -/

/-- The frame of a loop at the beginning of an item. -/
def loopFrame (state? : Option Value) : Frame :=
  { loop? := some { state?, depth := 0, again? := none } }

/-- A frame that a loop can go on in. -/
def IsLoopFrame (f : Frame) : Prop :=
  f.ground = .nothing ∧ ∃ state?, f.loop? = some { state?, depth := 0, again? := none }

section

variable {base : Scope} {id : Nat} {size? : Option Nat} {step : Value → Eval Text}
  {text : Value → Nat → Text}

theorem startItem_ok {f : Frame} (hf : IsLoopFrame f) (state? : Option Value) :
    startItem state? (inFrame f base) = .ok ((), inFrame (loopFrame state?) base) := by
  obtain ⟨locals, loop?, ground, keeps?⟩ := f
  obtain ⟨rfl, before?, rfl⟩ := hf
  rfl

/-- An item at a position of a loop is shown as a text, whatever comes before and behind it. -/
def Shows (base : Scope) (id : Nat) (size? : Option Nat) (step : Value → Eval Text)
    (text : Value → Nat → Text) (v : Value) (i : Nat) : Prop :=
  ∀ previous next, ∃ f, IsLoopFrame f ∧
    (producedItem v >>= step)
        (inFrame (loopFrame (some (.loopState id i size? 0 previous next))) base) =
      .ok (text v i, inFrame f base)

/-- Items are shown one after the other if each one is. -/
theorem runItems_ok {vs : List Value} {i : Nat} {f : Frame} (hf : IsLoopFrame f)
    (shown : ∀ p ∈ vs.zipIdx i, Shows base id size? step text p.1 p.2) (previous : Value) :
    ∃ f', runItems id 0 size? step i previous vs (inFrame f base) =
      .ok ((vs.zipIdx i).flatMap fun p => text p.1 p.2, inFrame f' base) := by
  -- The frame that an item leaves behind is another one each time; all that the next item needs of
  -- it is that it is a frame of the loop.
  induction vs generalizing i previous f with
  | nil => exact ⟨f, rfl⟩
  | cons v vs ih =>
      rw [List.zipIdx_cons, List.forall_mem_cons] at shown
      obtain ⟨mid, hmid, first⟩ := shown.1 previous (vs.headD .undefined)
      obtain ⟨last, rest⟩ := ih hmid shown.2 v
      refine ⟨last, ?_⟩
      rw [runItems, List.zipIdx_cons, List.flatMap_cons]
      refine run_bind (startItem_ok hf _) ?_
      rw [← bind_assoc]
      exact run_bind first (run_bind rest rfl)

/-- A loop that is not in another one shows its items and takes one number for itself. -/
theorem runLoop_ok {s : Scope} {vs : List Value} (noLoop : s.loop? = none)
    (room : s.depth ≤ Scope.maxDepth) (line : Nat)
    (shown : ∀ p ∈ vs.zipIdx,
      Shows { s with nextId := s.nextId + 1 } s.nextId size? step text p.1 p.2) :
    runLoop none line step (vs, size?) s =
      .ok ((vs.zipIdx.flatMap fun p => text p.1 p.2, vs.isEmpty),
        { s with nextId := s.nextId + 1 }) := by
  have frame : IsLoopFrame (loopFrame none) := ⟨rfl, none, rfl⟩
  have numbered : Eval.numbering Numbering.next s =
      .ok (s.nextId, { s with nextId := s.nextId + 1 }) := rfl
  -- The scope with the number taken is hidden, or all of its fields would be written out below.
  obtain ⟨s', hs'⟩ : ∃ s' : Scope, s' = { s with nextId := s.nextId + 1 } := ⟨_, rfl⟩
  have room' : s'.depth ≤ Scope.maxDepth := hs' ▸ room
  rw [← hs'] at shown numbered ⊢
  obtain ⟨f, run⟩ := runItems_ok frame shown .undefined
  have inside := within_ok room' run
  unfold runLoop
  simp only
  rw [run_get, noLoop]
  exact run_bind numbered (run_bind (onLine_ok line inside) rfl)

end

/-! ## Values in a scope -/

/-- A scope in which nothing is escaped and the name of the function that adds is free. -/
structure Quiet (s : Scope) : Prop where
  plain : s.isEscaping = false
  noSpaces : s.spaces = #[]
  free : s.frames.findSome? (·.find? s.kept "add_int") = none

section

variable {re : Reentry} {s s' s'' : Scope} {v : Value} {t t' : Text}

theorem eval_name {w : Text} (line : Nat) (found : s.find? w = some v) :
    (Expr.name w line).eval re s = .ok (v, s) := by
  rw [Expr.eval, run_get, found]
  rfl

theorem Quiet.settle_eq (quiet : Quiet s) (v : Value) : s.settle v = v := by
  unfold Scope.settle Value.refreshed
  rw [quiet.noSpaces]
  rfl

theorem run_emit {e : Expr} (quiet : Quiet s) (he : e.eval re s = .ok (v, s)) (line : Nat) :
    (Stmt.emit e line).run re s = .ok (v.display, s) := by
  have shown : emitted v s = .ok (v.display, s) := by
    show Except.ok ((s.settle v).emitted s.isEscaping, s) = _
    rw [quiet.settle_eq, quiet.plain]
    rfl
  rw [Stmt.run]
  exact run_bind he shown

theorem runBody_cons {x : Stmt} {rest : List Stmt} (hx : x.run re s = .ok (t, s'))
    (hrest : runBody re rest s' = .ok (t', s'')) :
    runBody re (x :: rest) s = .ok (t ++ t', s'') := by
  rw [runBody]
  exact run_bind hx (run_bind hrest rfl)

end

/-! ## Numbers -/

theorem compareTexts_self (t : Text) : compareTexts t t = .eq := by
  induction t with
  | nil => rfl
  | cons c t ih =>
      rw [compareTexts, ih, Nat.compare_eq_eq.2 rfl]
      rfl

theorem lookup?_cons_self (name : Text) (v : Value) (rest : List (Value × Value)) :
    Value.lookup? (.ofText name) ((.ofText name, v) :: rest) = some v := by
  have same : (Value.ofText name).compare (.ofText name) = .eq := by
    simp [Value.compare, Value.rank, Pair.of?, Pair.compare, compareTexts_self]
  simp [Value.lookup?, List.find?, same]

/-- A loop knows the position of the item that it is at. -/
theorem attribute?_loopState (id index : Nat) (size? : Option Nat) (depth : Nat)
    (previous next : Value) :
    (Value.loopState id index size? depth previous next).attribute? "index0" =
      some (.ofNat index) := by
  unfold Value.loopState Value.attribute?
  exact lookup?_cons_self _ _ _

section

variable {i j : Int}

theorem asInt64_integer (low : 0 ≤ i) (high : i < Width.half64) :
    (Value.integer i).asInt64 = .ok i := by
  have fits :
      (decide (-(Width.half64 : Int) ≤ i) && decide (i ≤ (Width.half64 : Int) - 1)) = true := by
    simp only [Bool.and_eq_true, decide_eq_true_eq]
    omega
  unfold Value.asInt64 Value.asInteger
  simp only [Value.wholeNumber?, Option.filter_some, fits, if_true]

theorem required_integer {vs : List Value} (low : 0 ≤ i) (high : i < Width.half64) :
    Arguments.required Value.asInt64 (.integer i :: vs) = .ok (i, vs) := by
  show (Value.integer i).asInt64.bind _ = _
  rw [asInt64_integer low high]
  rfl

theorem addInt_apply (hi : 0 ≤ i) (hj : 0 ≤ j) (hsum : i + j < Width.half64) :
    Function.addInt.apply [.integer i, .integer j] = .ok (.integer (i + j)) := by
  have sum : (i + j).bmod Width.bound64 = i + j := by
    apply Int.bmod_eq_of_le_mul_two <;> simp only [Width.bound64, Width.half64] at * <;> omega
  have add : (do
      let a ← Arguments.required Value.asInt64
      return Value.integer ((a + (← Arguments.required Value.asInt64)).bmod Width.bound64) :
        Arguments Value) [.integer i, .integer j] = .ok (.integer (i + j), []) := by
    refine run_bind (required_integer hi (by omega)) (run_bind (required_integer hj (by omega)) ?_)
    rw [sum]
    rfl
  have read : Function.addInt [.integer i, .integer j] = .ok (.ok (.integer (i + j)), []) :=
    run_bind add rfl
  unfold Builtin.apply Arguments.readAll
  rw [read]
  rfl

theorem find?_addInt : Function.find? "add_int" = some Function.addInt := by
  unfold Function.find?
  simp only [String.ofList_toList]

/-- A name that no frame knows is that of a function. -/
theorem callName_addInt {re : Reentry} {s : Scope} (quiet : Quiet s) (hi : 0 ≤ i) (hj : 0 ≤ j)
    (hsum : i + j < Width.half64) :
    callName re "add_int" [.integer i, .integer j] s = .ok (.integer (i + j), s) := by
  have found : s.find? "add_int" = some (.function "add_int") := by
    have known : Function.isKnown "add_int" = true := by
      unfold Function.isKnown
      rw [find?_addInt]
      exact Bool.or_true _
    unfold Scope.find?
    rw [quiet.free, known]
    rfl
  have settled (v : Value) : Eval.settled v s = .ok (v, s) := by
    show Except.ok (s.settle v, s) = _
    rw [quiet.settle_eq]
  have arguments : [Value.integer i, .integer j].mapM Eval.settled s =
      .ok ([.integer i, .integer j], s) := by
    rw [List.mapM_cons, List.mapM_cons, List.mapM_nil]
    exact run_bind (settled _) (run_bind (run_bind (settled _) rfl) rfl)
  have called : callValue re (.function "add_int") [.integer i, .integer j] s =
      .ok (.integer (i + j), s) := by
    unfold callValue
    simp only
    rw [if_neg (by decide), find?_addInt]
    refine run_bind arguments ?_
    rw [addInt_apply hi hj hsum]
    rfl
  unfold callName
  rw [run_get, if_neg (by decide), if_neg (by decide), found]
  exact called

end

end PatchTrail.Template
