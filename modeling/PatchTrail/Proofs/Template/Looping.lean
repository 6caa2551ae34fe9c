import PatchTrail.Proofs.Template.Evaluating
import PatchTrail.Proofs.Template.Reading
import PatchTrail.Proofs.Template.Scanning
import PatchTrail.Template.Data

/-!
# A loop over texts

The template of a loop that shows a number and a text between pieces of plain text
(`numberedLoop`) is followed from its tokens (`tokens_numberedLoop`) over its tree
(`parse_numberedLoop`) to the text of each item (`shows_item`) and of the loop (`run_loop`). No
character of the plain text and of the texts is lost or changed on the way, and the numbers go up
one by one (`renderJson_numberedLoop`).
-/

namespace PatchTrail.Template

/-! ## The template -/

/-- A loop over texts that shows a number and a text between pieces of text. The numbers go up by
one from text to text. -/
def numberedLoop (a b c d e : Text) (n : Nat) : Text :=
  a ++ "\x7b% for x in xs %\x7d" ++ b ++ "\x7b\x7b add_int(loop.index0, " ++ Text.ofNat n
    ++ ") \x7d\x7d" ++ c ++ "\x7b\x7b x \x7d\x7d" ++ d ++ "\x7b% endfor %\x7d" ++ e

variable {a b c d e t : Text} {n : Nat}

/-! ## Its tokens -/

theorem scans_loop (ha : Plain a) (t : Text) :
    Scans .outside (a ++ ("\x7b% for x in xs %\x7d" ++ t))
      (textTokens a ++ [.startStatement, .name "for", .name "x", .name "in", .name "xs",
        .endStatement]) .outside t :=
  scans_block .statement '%' ["for", "x", "in", "xs"] ha rfl (by decide) (by decide) t rfl

theorem scans_item (ha : Plain a) (t : Text) :
    Scans .outside (a ++ ("\x7b\x7b x \x7d\x7d" ++ t))
      (textTokens a ++ [.startExpression, .name "x", .endExpression]) .outside t :=
  scans_block .expression '{' ["x"] ha rfl (by decide) (by decide) t rfl

theorem scans_endOfLoop (ha : Plain a) (t : Text) :
    Scans .outside (a ++ ("\x7b% endfor %\x7d" ++ t))
      (textTokens a ++ [.startStatement, .name "endfor", .endStatement]) .outside t :=
  scans_block .statement '%' ["endfor"] ha rfl (by decide) (by decide) t rfl

/-- The call is read up to its first argument. -/
theorem scans_call (ha : Plain a) (t : Text) :
    Scans .outside (a ++ ("\x7b\x7b add_int(" ++ t))
      (textTokens a ++ [.startExpression, .name "add_int", .sign .openParen])
      (.inside .expression 1 false) t := by
  have block : Scans .outside (a ++ '{' :: '{' :: (" add_int(" ++ t))
      (textTokens a ++ [.startExpression]) (.inside .expression 0 false) (" add_int(" ++ t) :=
    scans_start .expression ha rfl (by decide) rfl rfl
  have name : Scans (.inside .expression 0 false) (" " ++ ("add_int" ++ ("(" ++ t)))
      [.name "add_int"] (.inside .expression 0 false) ("(" ++ t) :=
    scans_name isInnerBlank_space (by decide) (separate_cons (by decide))
  have paren : Scans (.inside .expression 0 false) ("(" ++ t) [.sign .openParen]
      (.inside .expression 1 false) t := scans_sign rfl rfl rfl
  have whole := block.trans (name.trans paren)
  rwa [List.append_assoc] at whole

/-- The position of the item is read, with the comma behind it. -/
theorem scans_index (t : Text) :
    Scans (.inside .expression 1 false) ("loop.index0," ++ t)
      [.name "loop", .sign .dot, .name "index0", .sign .comma] (.inside .expression 1 false) t := by
  have owner : Scans (.inside .expression 1 false)
      ([] ++ ("loop".toList ++ (".index0,".toList ++ t)))
      [.name "loop"] (.inside .expression 1 false) (".index0," ++ t) :=
    scans_name (by simp) (by decide) (separate_cons (by decide))
  have dot : Scans (.inside .expression 1 false) (".index0," ++ t)
      [.sign .dot] (.inside .expression 1 true) ("index0," ++ t) := scans_sign rfl rfl rfl
  have key : Scans (.inside .expression 1 true) ([] ++ ("index0".toList ++ (",".toList ++ t)))
      [.name "index0"] (.inside .expression 1 false) ("," ++ t) :=
    scans_name (by simp) (by decide) (separate_cons (by decide))
  have comma : Scans (.inside .expression 1 false) ("," ++ t) [.sign .comma]
      (.inside .expression 1 false) t := scans_sign rfl rfl rfl
  exact owner.trans (dot.trans (key.trans comma))

/-- The first number is read, with the end of the block. -/
theorem scans_first (small : n < Width.bound128) (t : Text) :
    Scans (.inside .expression 1 false) (" " ++ (Text.ofNat n ++ (") \x7d\x7d" ++ t)))
      [.integer n, .sign .closeParen, .endExpression] .outside t := by
  have literal : Scans (.inside .expression 1 false) (" " ++ (Text.ofNat n ++ (") \x7d\x7d" ++ t)))
      [.integer n] (.inside .expression 1 false) (") \x7d\x7d" ++ t) :=
    scans_ofNat isInnerBlank_space small (separate_cons (by decide)) fun point =>
      absurd (Option.some.inj point) (by decide)
  have paren : Scans (.inside .expression 1 false) (") \x7d\x7d" ++ t) [.sign .closeParen]
      (.inside .expression 0 false) (" \x7d\x7d" ++ t) := scans_sign rfl rfl rfl
  exact literal.trans (paren.trans (scans_end .expression false t))

theorem scans_number (ha : Plain a) (small : n < Width.bound128) (t : Text) :
    Scans .outside
      (a ++ ("\x7b\x7b add_int(loop.index0, " ++ (Text.ofNat n ++ (") \x7d\x7d" ++ t))))
      (textTokens a ++ [.startExpression, .name "add_int", .sign .openParen, .name "loop",
        .sign .dot, .name "index0", .sign .comma, .integer n, .sign .closeParen, .endExpression])
      .outside t := by
  have whole := (scans_call ha _).trans ((scans_index _).trans (scans_first small t))
  rwa [List.append_assoc] at whole

/-- The tokens of the body of the loop in front of others. -/
def itemTokens (b c d : Text) (n : Nat) (ts : List Token) : List Token :=
  textTokens b ++ .startExpression :: .name "add_int" :: .sign .openParen :: .name "loop" ::
    .sign .dot :: .name "index0" :: .sign .comma :: .integer n :: .sign .closeParen ::
    .endExpression :: (textTokens c ++ .startExpression :: .name "x" :: .endExpression ::
    (textTokens d ++ ts))

/-- The tokens of the template. -/
def loopTokens (a b c d e : Text) (n : Nat) : List Token :=
  textTokens a ++ .startStatement :: .name "for" :: .name "x" :: .name "in" :: .name "xs" ::
    .endStatement :: itemTokens b c d n
      (.startStatement :: .name "endfor" :: .endStatement :: textTokens e)

theorem tokens_numberedLoop (ha : Plain a) (hb : Plain b) (hc : Plain c) (hd : Plain d)
    (he : Plain e) (small : n < Width.bound128) :
    ∃ placed, tokens (numberedLoop a b c d e n) = ⟨placed, none⟩ ∧
      placed.map Placed.token = loopTokens a b c d e n := by
  have read := (scans_loop ha _).trans ((scans_number hb small _).trans
    ((scans_item hc _).trans (scans_endOfLoop hd e)))
  have parts : numberedLoop a b c d e n = a ++ ("\x7b% for x in xs %\x7d" ++
      (b ++ ("\x7b\x7b add_int(loop.index0, " ++ (Text.ofNat n ++ (") \x7d\x7d" ++
        (c ++ ("\x7b\x7b x \x7d\x7d" ++ (d ++ ("\x7b% endfor %\x7d" ++ e))))))))) := by
    unfold numberedLoop
    simp only [List.append_assoc]
  rw [← parts] at read
  obtain ⟨placed, scanned, tokens⟩ := tokens_of_scans read he
  exact ⟨placed, scanned, by simpa [loopTokens, itemTokens] using tokens⟩

/-! ## Its tree -/

/-- The statements of a text: one, or none if there is no text. -/
inductive IsText (t : Text) : List Stmt → Prop where
  | nothing : t = [] → IsText t []
  | raw (line : Nat) : IsText t [.raw t line]

/-- The expression of a number that is counted up with the items of a loop. -/
def IsNumber (n : Nat) (e : Expr) : Prop :=
  ∃ f args line, e = .call f args line ∧ (∃ line, f = .name "add_int" line) ∧
    ∃ index start, args = [.positional index, .positional start] ∧
      (∃ owner, (∃ line, owner = .name "loop" line) ∧ ∃ line, index = .field owner "index0" line) ∧
      ∃ line?, start = .literal (.ofNat n) line?

namespace Reads

variable {d bound : Nat} {ts left : List Token} {w : Text} {e : Expr} {t : Token}

theorem expression_name (shallow : d + 1 < Reader.maxDepth) (hw : Reader.constant? w = none)
    (hnot : w ≠ "not".toList) (ht : EndsExpression t) :
    Reads d (.name w :: t :: ts) Reader.expression (fun e => ∃ line, e = .name w line) (t :: ts) :=
  expression ht (by omega) fun _ _ =>
    alone (by nofun) (beq_false_of_ne hnot) ht (operand_name shallow hw)

theorem source_name (shallow : d < Reader.maxDepth) (hw : Reader.constant? w = none)
    (hnot : w ≠ "not".toList) (ht : EndsExpression t) :
    Reads d (.name w :: t :: ts) Reader.simpleExpression (fun e => ∃ line, e = .name w line)
      (t :: ts) :=
  simpleExpression fun _ _ => alone (by nofun) (beq_false_of_ne hnot) ht (operand_name shallow hw)

theorem index_of_loop (shallow : d + 1 < Reader.maxDepth) :
    Reads d (.name "loop" :: .sign .dot :: .name "index0" :: .sign .comma :: ts)
      (Reader.expressions (bound + 1))
      (fun e => ∃ owner, (∃ line, owner = .name "loop" line) ∧
        ∃ line, e = .field owner "index0" line)
      (.sign .comma :: ts) := by
  refine expressions .comma (by omega) (alternatives rfl .comma ?_)
  refine unary (by nofun) (operand_name shallow rfl) (fun owner line howner => ?_) .comma
  exact (postfixes_field .comma).mono fun e he => ⟨owner, howner, he⟩

theorem start_of_numbers (shallow : d + 1 < Reader.maxDepth) {n : Nat} :
    Reads d (.integer n :: .sign .closeParen :: ts) (Reader.expressions (bound + 1))
      (fun e => ∃ line?, e = .literal (.ofNat n) line?) (.sign .closeParen :: ts) :=
  expressions .closeParen (by omega) (alone (by nofun) rfl .closeParen (operand_integer shallow))

theorem number (shallow : d + 3 < Reader.maxDepth) {n : Nat} :
    Reads d (.name "add_int" :: .sign .openParen :: .name "loop" :: .sign .dot :: .name "index0" ::
        .sign .comma :: .integer n :: .sign .closeParen :: .endExpression :: ts)
      Reader.expression (IsNumber n) (.endExpression :: ts) := by
  refine expression .endExpression (by omega) fun bound enough => ?_
  obtain ⟨bound, rfl⟩ : ∃ k, bound = k + 1 := ⟨bound - 1, by simp at enough; omega⟩
  refine alternatives rfl .endExpression ?_
  refine unary (by nofun) (operand_name (by omega) rfl) (fun f line hf => ?_) .endExpression
  refine mono (postfixes_call .endExpression ?_ (arguments_two (by nofun) (by nofun)
    (index_of_loop (by omega)) (start_of_numbers (by omega)) (by simp) (by simp))) ?_
  · simp only [List.length_cons]
    omega
  · rintro e ⟨args, line, he, index, start, hargs, hindex, hstart⟩
    exact ⟨f, args, line, he, hf, index, start, hargs, hindex, hstart⟩

end Reads

theorem IsText.reverse_eq {t : Text} {body : List Stmt} (h : IsText t body) :
    body.reverse = body := by
  cases h <;> rfl

/-- The body of the loop. -/
def IsItem (b c d : Text) (n : Nat) (body : List Stmt) : Prop :=
  ∃ first number line second name line' third,
    body = first ++ .emit number line :: (second ++ .emit name line' :: third) ∧
      IsText b first ∧ IsNumber n number ∧ IsText c second ∧ (∃ line, name = .name "x" line) ∧
      IsText d third

/-- The tree of the template. -/
def IsLoop (a b c d e : Text) (n : Nat) (statements : List Stmt) : Prop :=
  ∃ first source body line last,
    statements = first ++ .loop (.name "x") source none false body [] line :: last ∧
      IsText a first ∧ (∃ line, source = .name "xs" line) ∧ IsItem b c d n body ∧ IsText e last

namespace Reads

variable {depth bound : Nat} {ts left : List Token}

theorem body_textTokens {other : Reader Stmt} {ends : List Text} {found : List Stmt}
    {made : List Stmt × Bool → Prop} {text : Text}
    (h : ∀ body, IsText text body →
      Repeats depth ts (Reader.nextStatement? other ends) (body ++ found, false) made left) :
    Repeats depth (textTokens text ++ ts) (Reader.nextStatement? other ends) (found, false) made
      left := by
  unfold textTokens
  split
  · next empty => exact h [] (.nothing empty)
  · exact body_text fun line => h [.raw text line] (.raw line)

theorem item (shallow : depth + 3 < Reader.maxDepth) :
    Reads depth (itemTokens b c d n (.startStatement :: .name "endfor" :: ts))
      (Reader.bodies (bound + 1) ["endfor", "else"]) (IsItem b c d n) (.name "endfor" :: ts) := by
  refine bodies (body_textTokens fun first hfirst => ?_)
  refine body_expression (tuple rfl (number shallow)) ?_ fun number line hnumber => ?_
  · simp only [List.length_cons]
    omega
  refine body_textTokens fun second hsecond => ?_
  refine body_expression
    (tuple rfl (expression_name (by omega) rfl (by decide) .endExpression)) ?_
    fun name line' hname => ?_
  · simp only [List.length_cons]
    omega
  refine body_textTokens fun third hthird => body_word (by decide) ?_
  refine ⟨first, number, line, second, name, line', third, ?_, hfirst, hnumber, hsecond, hname,
    hthird⟩
  simp [hfirst.reverse_eq, hsecond.reverse_eq, hthird.reverse_eq]

theorem loop_statement :
    Reads 0 (.name "for" :: .name "x" :: .name "in" :: .name "xs" :: .endStatement ::
        itemTokens b c d n (.startStatement :: .name "endfor" :: ts))
      (Reader.statement (Reader.bodies (bound + 1)))
      (fun s => ∃ source body line, s = .loop (.name "x") source none false body [] line ∧
        (∃ line, source = .name "xs" line) ∧ IsItem b c d n body) ts := by
  have source : Reads 1
      (.name "xs" :: .endStatement :: itemTokens b c d n (.startStatement :: .name "endfor" :: ts))
      (Reader.tuple Reader.simpleExpression) (fun e => ∃ line, e = .name "xs" line)
      (.endStatement :: itemTokens b c d n (.startStatement :: .name "endfor" :: ts)) :=
    tuple rfl (source_name (by decide) rfl (by decide) .endStatement)
  refine statement_for (by decide) fun line => ?_
  refine (loopStatement (by decide) (by decide) source (item (by decide))).mono ?_
  rintro s ⟨source, body, hs, hsource, hbody⟩
  exact ⟨source, body, line, hs, hsource, hbody⟩

theorem loop : Reads 0 (loopTokens a b c d e n) (Reader.bodies (bound + 2) [])
    (IsLoop a b c d e n) [] := by
  refine bodies (body_textTokens fun first hfirst => ?_)
  refine body_statement rfl loop_statement ?_ ?_
  · simp [itemTokens]
    omega
  rintro _ ⟨source, body, line, rfl, hsource, hbody⟩
  rw [← List.append_nil (textTokens e)]
  refine body_textTokens fun last hlast => body_end ?_
  refine ⟨first, source, body, line, last, ?_, hfirst, hsource, hbody, hlast⟩
  simp [hfirst.reverse_eq, hlast.reverse_eq]

end Reads

theorem parse_numberedLoop (ha : Plain a) (hb : Plain b) (hc : Plain c) (hd : Plain d)
    (he : Plain e) (small : n < Width.bound128) :
    ∃ statements, parse (numberedLoop a b c d e n) = .ok statements ∧
      IsLoop a b c d e n statements := by
  obtain ⟨placed, scanned, tokens⟩ := tokens_numberedLoop ha hb hc hd he small
  refine parse_of_reads scanned ?_
  obtain ⟨bound, hbound⟩ : ∃ k, placed.length = k + 1 := by
    refine ⟨placed.length - 1, ?_⟩
    have := congrArg List.length tokens
    simp [loopTokens] at this
    omega
  rw [tokens, hbound]
  exact Reads.loop

/-! ## Its text -/

section

variable {re : Reentry} {s s' : Scope} {t' : Text}

theorem runBody_text {body rest : List Stmt} (h : IsText t body)
    (hrest : runBody re rest s = .ok (t', s')) :
    runBody re (body ++ rest) s = .ok (t ++ t', s') := by
  cases h with
  | nothing empty =>
      rw [empty]
      exact hrest
  | raw line =>
      have shown : Stmt.run re (.raw t line) s = .ok (t, s) := rfl
      exact runBody_cons shown hrest

theorem runBody_last {body : List Stmt} (h : IsText t body) : runBody re body s = .ok (t, s) := by
  have nothing : runBody re [] s = .ok ([], s) := rfl
  have whole := runBody_text h nothing
  rwa [List.append_nil, List.append_nil] at whole

theorem eval_number {i id depth : Nat} {size? : Option Nat} {previous next : Value} {e : Expr}
    (quiet : Quiet s) (he : IsNumber n e)
    (loop : s.find? "loop" = some (.loopState id i size? depth previous next))
    (fits : i + n < Width.half64) : e.eval re s = .ok (.ofNat (i + n), s) := by
  obtain ⟨_, _, line, rfl, ⟨l, rfl⟩, _, _, rfl, ⟨_, ⟨l', rfl⟩, l'', rfl⟩, line?, rfl⟩ := he
  have index : (Expr.field (.name "loop" l') "index0" l'').eval re s = .ok (.ofNat i, s) := by
    have shown : s.attribute? (.loopState id i size? depth previous next) "index0" =
        some (.ofNat i) := attribute?_loopState id i size? depth previous next
    rw [Expr.eval]
    refine run_bind (eval_name l' loop) ?_
    rw [run_get, shown]
    rfl
  have arguments : evalPositional re [.positional (.field (.name "loop" l') "index0" l''),
      .positional (.literal (.ofNat n) line?)] s = .ok ([.ofNat i, .ofNat n], s) := by
    rw [evalPositional, evalPositional, evalPositional]
    refine run_bind index ?_
    rw [Expr.eval]
    rfl
  have called : callName re "add_int" [.ofNat i, .ofNat n] s = .ok (.ofNat (i + n), s) := by
    have sum : callName re "add_int" [.ofNat i, .ofNat n] s = .ok (.integer (i + n), s) :=
      callName_addInt quiet (Int.natCast_nonneg i) (Int.natCast_nonneg n) (by exact_mod_cast fits)
    rwa [← Int.natCast_add] at sum
  rw [Expr.eval]
  exact onLine_ok _ (run_bind (run_bind arguments rfl) called)

/-- The text of an item of the loop at a position. -/
def itemText (b c d : Text) (n : Nat) (v : Value) (i : Nat) : Text :=
  b ++ Text.ofNat (i + n) ++ c ++ v.display ++ d

theorem runBody_item {body : List Stmt} {i id : Nat} {size? : Option Nat} {previous next v : Value}
    (quiet : Quiet s) (hbody : IsItem b c d n body)
    (loop : s.find? "loop" = some (.loopState id i size? 0 previous next))
    (item : s.find? "x" = some v) (fits : i + n < Width.half64) :
    runBody re body s = .ok (itemText b c d n v i, s) := by
  obtain ⟨first, number, line, second, name, line', third, rfl, hfirst, hnumber, hsecond, ⟨l, rfl⟩,
    hthird⟩ := hbody
  have counted : number.eval re s = .ok (.ofNat (i + n), s) := eval_number quiet hnumber loop fits
  have named : (Expr.name "x" l).eval re s = .ok (v, s) := eval_name l item
  have whole := runBody_text hfirst (runBody_cons (run_emit quiet counted line)
    (runBody_text hsecond (runBody_cons (run_emit quiet named line') (runBody_last hthird))))
  have numeral : (Value.ofNat (i + n)).display = Text.ofNat (i + n) := rfl
  rw [whole, numeral]
  simp only [itemText, List.append_assoc]

/-- Every text is shown in its place. -/
theorem shows_item {body : List Stmt} {i id : Nat} {size? : Option Nat} {x : Text} (quiet : Quiet s)
    (hbody : IsItem b c d n body) (fits : i + n < Width.half64) :
    Shows s id size? (fun v => do Target.assign re (.name "x") v; runBody re body)
      (itemText b c d n) (.ofText x) i := by
  intro previous next
  generalize hstate : Value.loopState id i size? 0 previous next = state
  obtain ⟨f, hf⟩ : ∃ f, f = { loopFrame (some state) with locals := [("x", .ofText x)] } := ⟨_, rfl⟩
  have produced : producedItem (.ofText x) (inFrame (loopFrame (some state)) s) =
      .ok (.ofText x, inFrame (loopFrame (some state)) s) := rfl
  have assigned : Target.assign re (.name "x") (.ofText x) (inFrame (loopFrame (some state)) s) =
      .ok ((), inFrame f s) := by
    rw [Target.assign, hf]
    rfl
  have quiet : Quiet (inFrame f s) := ⟨quiet.plain, quiet.noSpaces, hf ▸ quiet.free⟩
  have loop : (inFrame f s).find? "loop" = some (.loopState id i size? 0 previous next) := by
    rw [hf, hstate]
    rfl
  have item : (inFrame f s).find? "x" = some (.ofText x) := by
    rw [hf]
    rfl
  refine ⟨f, ⟨hf ▸ rfl, some state, hf ▸ rfl⟩, ?_⟩
  exact run_bind produced (run_bind assigned (runBody_item quiet hbody loop item fits))

/-- The loop shows the texts in order, with the numbers from the first one on. -/
theorem run_loop {body : List Stmt} {xs : List Text} {source : Expr} {id : Nat} (re : Reentry)
    (line : Nat) (quiet : Quiet s) (noLoop : s.loop? = none) (room : s.depth ≤ Scope.maxDepth)
    (hsource : ∃ line, source = .name "xs" line)
    (hxs : s.find? "xs" = some (.list id .sequence (xs.map .ofText)))
    (hbody : IsItem b c d n body) (fits : n + xs.length ≤ Width.half64) :
    Stmt.run re (.loop (.name "x") source none false body [] line) s =
      .ok (xs.zipIdx.flatMap fun p => b ++ Text.ofNat (p.2 + n) ++ c ++ p.1 ++ d,
        { s with nextId := s.nextId + 1 }) := by
  obtain ⟨l, rfl⟩ := hsource
  have items : loopItems (.list id .sequence (xs.map .ofText)) s =
      .ok ((xs.map .ofText, some (xs.map Value.ofText).length), s) := rfl
  have shown : ∀ p ∈ (xs.map Value.ofText).zipIdx,
      Shows { s with nextId := s.nextId + 1 } s.nextId (some (xs.map Value.ofText).length)
        (fun v => do Target.assign re (.name "x") v; runBody re body) (itemText b c d n) p.1
        p.2 := by
    rw [List.zipIdx_map, List.forall_mem_map]
    rintro ⟨x, i⟩ hx
    have bound : i < xs.length + 0 := List.snd_lt_of_mem_zipIdx hx
    have fits : i + n < Width.half64 := by omega
    exact shows_item ⟨quiet.plain, quiet.noSpaces, quiet.free⟩ hbody fits
  have looped (line : Nat) := runLoop_ok noLoop room line shown
  have text : ((xs.map Value.ofText).zipIdx.flatMap fun p => itemText b c d n p.1 p.2) =
      xs.zipIdx.flatMap fun p => b ++ Text.ofNat (p.2 + n) ++ c ++ p.1 ++ d := by
    rw [List.zipIdx_map, List.flatMap_map]
    rfl
  simp only [text] at looped
  rw [Stmt.run]
  refine run_bind (eval_name l hxs) ?_
  refine run_bind rfl (run_bind (onLine_ok _ items) (run_bind (looped _) ?_))
  cases xs <;> rfl

end

/-! ## The whole -/

/-- Texts under the name that the loop takes them from. -/
def textsAsData (xs : List Text) : Json.Value := .object [("xs", .array (xs.map .string))]

theorem valuesOfJson_strings (xs : List Text) :
    valuesOfJson (xs.map .string) = xs.map .ofText := by
  induction xs with
  | nil => rfl
  | cons x xs ih =>
      rw [List.map_cons, valuesOfJson, ih]
      rfl

theorem numberedItems_texts (xs : List Text) (k : Nat) :
    Value.numberedItems (xs.map .ofText) k = (xs.map .ofText, k) := by
  induction xs with
  | nil => rfl
  | cons x xs ih =>
      rw [List.map_cons, Value.numberedItems]
      exact number_bind rfl (number_bind ih rfl)

theorem numbered_texts (xs : List Text) (k : Nat) :
    (Value.ofList (xs.map .ofText)).numbered k = (.list k .sequence (xs.map .ofText), k + 1) := by
  rw [Value.numbered]
  exact number_bind rfl (number_bind (numberedItems_texts xs (k + 1)) rfl)

theorem numbered_textsAsData (xs : List Text) :
    (Value.ofJson (textsAsData xs)).numbered 1 =
      (.map 1 .plain [(.ofText "xs", .list 2 .sequence (xs.map .ofText))], 3) := by
  have data : Value.ofJson (textsAsData xs) =
      .map 0 .plain [(.ofText "xs", .ofList (xs.map .ofText))] := by
    unfold textsAsData Value.ofJson entriesOfJson
    rw [Value.ofJson, valuesOfJson_strings]
    rfl
  have entries : Value.numberedEntries [(.ofText "xs", .ofList (xs.map .ofText))] 2 =
      ([(.ofText "xs", .list 2 .sequence (xs.map .ofText))], 3) := by
    rw [Value.numberedEntries]
    exact number_bind rfl (number_bind (numbered_texts xs 2) rfl)
  rw [data, Value.numbered]
  exact number_bind rfl (number_bind entries rfl)

theorem run_isLoop {statements : List Stmt} (h : IsLoop a b c d e n statements) (xs : List Text)
    (fits : n + xs.length ≤ Width.half64) :
    run statements (Value.ofJson (textsAsData xs)) =
      .ok (a ++ (xs.zipIdx.flatMap fun p => b ++ Text.ofNat (p.2 + n) ++ c ++ p.1 ++ d) ++ e) := by
  obtain ⟨first, source, body, line, last, rfl, hfirst, hsource, hbody, hlast⟩ := h
  unfold run
  rw [numbered_textsAsData]
  simp only
  -- Of the scope at the beginning only four facts are needed.
  generalize hs : ({ frames := _, blocks := _, nextId := _ } : Scope) = s
  have quiet : Quiet s := hs ▸ ⟨rfl, rfl, rfl⟩
  have noLoop : s.loop? = none := hs ▸ rfl
  have room : s.depth ≤ Scope.maxDepth := hs ▸ (by decide : 1 ≤ Scope.maxDepth)
  have found : s.find? "xs" = some (.list 2 .sequence (xs.map .ofText)) := hs ▸ rfl
  have looped := run_loop (reentry (Scope.maxDepth + 2)) line quiet noLoop room hsource found hbody
    fits
  rw [runBody_text hfirst (runBody_cons looped (runBody_last hlast)), List.append_assoc]
  rfl

/-- A template without blocks is its own text. -/
theorem render_plain (ha : Plain a) (data : Value) : render a data = .ok a := by
  obtain ⟨placed, scanned, tokens⟩ := tokens_of_scans (.refl .outside a) ha
  obtain ⟨statements, parsed, text⟩ :
      ∃ statements, parse a = .ok statements ∧ IsText a statements := by
    refine parse_of_reads scanned ?_
    rw [tokens, List.nil_append, ← List.append_nil (textTokens a)]
    refine Reads.bodies (Reads.body_textTokens fun body hbody => Reads.body_end ?_)
    rw [List.append_nil, hbody.reverse_eq]
    exact hbody
  unfold render
  rw [parsed]
  show run statements data = _
  unfold run
  rcases data.numbered 1 with ⟨numbered, nextId⟩
  exact congrArg (Except.map Prod.fst) (runBody_last text)

/-- A loop over texts shows every text as it is and numbers them one by one, and plain text around
the blocks stays what it is, with all its line feeds and blanks. -/
theorem renderJson_numberedLoop (ha : Plain a) (hb : Plain b) (hc : Plain c) (hd : Plain d)
    (he : Plain e) (xs : List Text) (fits : n + xs.length < Width.half64) :
    renderJson (numberedLoop a b c d e n) (.object [("xs", .array (xs.map .string))]) =
        .ok (a ++ (xs.zipIdx.flatMap fun p => b ++ Text.ofNat (p.2 + n) ++ c ++ p.1 ++ d) ++ e) ∧
      ∀ data, renderJson a data = .ok a := by
  refine ⟨?_, fun data => render_plain ha _⟩
  have small : n < Width.bound128 := by
    simp only [Width.half64, Width.bound128] at *
    omega
  obtain ⟨statements, parsed, tree⟩ := parse_numberedLoop ha hb hc hd he small
  have text := run_isLoop tree xs (by omega)
  unfold renderJson render
  rw [parsed]
  exact text

theorem renderJson_numberedLoop_fonts :
    (Plain "\n\t\t" ∧ Plain "const-string v" ∧ Plain ", \"" ∧
      Plain "\"\n\t\tload \x7bp0\x7d\n\t\t" ∧ Plain "return-void\n\t\t") ∧
    1 + 2 < Width.half64 ∧
    renderJson
        (numberedLoop "\n\t\t" "const-string v" ", \"" "\"\n\t\tload \x7bp0\x7d\n\t\t"
          "return-void\n\t\t" 1)
        (.object [("xs", .array [.string "mono", .string "<\x7b\x7b x \x7d\x7d>"])]) =
      .ok (("\n\t\tconst-string v1, \"mono\"\n\t\tload \x7bp0\x7d\n" : Text) ++
        "\t\tconst-string v2, \"<\x7b\x7b x \x7d\x7d>\"\n\t\tload \x7bp0\x7d\n\t\t" ++
        "return-void\n\t\t") := by
  have ha : Plain "\n\t\t" := by decide
  have hb : Plain "const-string v" := by decide
  have hc : Plain ", \"" := by decide
  have hd : Plain "\"\n\t\tload \x7bp0\x7d\n\t\t" := by decide
  have he : Plain "return-void\n\t\t" := by decide
  have fits : 1 + 2 < Width.half64 := by decide
  have shown := renderJson_numberedLoop ha hb hc hd he ["mono", "<\x7b\x7b x \x7d\x7d>"] fits
  exact ⟨⟨ha, hb, hc, hd, he⟩, fits, shown.1⟩

end PatchTrail.Template
