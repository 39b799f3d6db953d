import Scriptlet.Interpreter
import Scriptlet.Proofs.Lexing.Cover
import Scriptlet.Proofs.Printing.CallText

/-
  Calls by the host and calls in a text.
  The span of a call is seen only where the call itself fails; what is called does not know it. So
  two calls of one function that stand at different places end alike, but for the span of such a
  failure (`callNamed_moved`). The text of a call comes to the call of the same function with the
  same values. Main statement: `written_call_agrees`.
-/

namespace Scriptlet

/-- The failures are the same, or the same but for the span, which is `a` for the first one and `b`
for the second one. -/
inductive Failure.Moved (a b : Span) : Failure → Failure → Prop
  | same (e : Failure) : Moved a b e e
  | moved (d : Diagnostic) : Moved a b (.diagnostic (d.withSpan a)) (.diagnostic (d.withSpan b))

/-- The outcomes are the same, in the same state, but for the span of a failure. -/
inductive Outcome.Moved {α : Type} (a b : Span) : Outcome α → Outcome α → Prop
  | value (v : α) (t : State) : Moved a b (.value v t) (.value v t)
  | failure {e e' : Failure} (moved : e.Moved a b e') (t : State) :
    Moved a b (.failure e t) (.failure e' t)
  | outOfFuel : Moved a b .outOfFuel .outOfFuel

theorem Outcome.Moved.of_value {α : Type} {a b : Span} {v : α} {t : State} {o : Outcome α}
    (h : (Outcome.value v t).Moved a b o) : o = .value v t := by
  cases h
  rfl

theorem Outcome.Moved.of_failure {α : Type} {a b : Span} {e : Failure} {t : State} {o : Outcome α}
    (h : (Outcome.failure e t).Moved a b o) : ∃ e', o = .failure e' t ∧ e.Moved a b e' := by
  cases h with
  | failure moved t => exact ⟨_, rfl, moved⟩

/-- From every state the computations end alike, but for the span of a failure. -/
def Run.Moved {α : Type} (a b : Span) (m m' : Run α) : Prop :=
  ∀ s, (m s).Moved a b (m' s)

variable {a b : Span}

theorem Failure.orSpan_moved (e : Failure) : (e.orSpan a).Moved a b (e.orSpan b) := by
  cases e with
  | io reason => exact .same _
  | diagnostic d =>
    unfold Failure.orSpan Diagnostic.orSpan
    dsimp only
    split
    next => exact .moved d
    next => exact .same _

theorem Fault.atSpan_moved (fault : Fault) : (fault.atSpan a).Moved a b (fault.atSpan b) :=
  fault.bare.orSpan_moved

/-! ## Computations -/

namespace Run

variable {α β : Type} {m m' : Run α}

theorem moved_refl (m : Run α) : Moved a b m m := by
  intro s
  cases m s with
  | value v t => exact .value v t
  | failure e t => exact .failure (.same e) t
  | outOfFuel => exact .outOfFuel

theorem moved_fail (fault : Fault) :
    Moved a b (Run.fail (fault.atSpan a) : Run α) (Run.fail (fault.atSpan b)) :=
  fun s => .failure fault.atSpan_moved s

theorem moved_orSpan (m : Run α) : Moved a b (m.orSpan a) (m.orSpan b) := by
  intro s
  unfold orSpan
  cases m s with
  | value v t => exact .value v t
  | failure e t => exact .failure e.orSpan_moved t
  | outOfFuel => exact .outOfFuel

theorem moved_bind {f f' : α → Run β} (first : Moved a b m m')
    (next : ∀ v, Moved a b (f v) (f' v)) : Moved a b (m >>= f) (m' >>= f') := by
  intro s
  have ended := first s
  rw [bind_eq, bind_eq]
  generalize m s = o, m' s = o' at ended
  cases ended with
  | value v t => exact next v t
  | failure moved t => exact .failure moved t
  | outOfFuel => exact .outOfFuel

theorem moved_between {before after : State → State} (h : Moved a b m m') :
    Moved a b (m.between before after) (m'.between before after) := by
  intro s
  have ended := h (before s)
  unfold between
  generalize m (before s) = o, m' (before s) = o' at ended
  cases ended with
  | value v t => exact .value v _
  | failure moved t => exact .failure moved _
  | outOfFuel => exact .outOfFuel

theorem moved_counted (h : Moved a b m m') : Moved a b (m.counted a) (m'.counted b) := by
  intro s
  unfold counted
  split
  next => exact .failure (Fault.atSpan_moved _) s
  next => exact moved_between h s

theorem moved_inFrame (scope : ScopeId) {m m' : ScopeId → Run α}
    (h : ∀ frame, Moved a b (m frame) (m' frame)) :
    Moved a b (inFrame scope m) (inFrame scope m') :=
  fun s => moved_between (h s.nextFrame) s

theorem moved_assign (id : ScopeId) (name : String) (v : Value) :
    Moved a b (Run.assign id name v a) (Run.assign id name v b) := by
  unfold Run.assign
  split
  next => exact moved_fail _
  next => exact moved_refl _

theorem moved_bindParams (frame : ScopeId) : ∀ (names : List String) (values : List Value),
    Moved a b (bindParams frame a names values) (bindParams frame b names values)
  | [], [] => moved_refl _
  | [], _ :: _ => moved_refl _
  | _ :: _, [] => moved_refl _
  | name :: names, v :: values =>
    moved_bind (moved_assign frame name v) fun _ => moved_bindParams frame names values

end Run

/-! ## Calls -/

section

open Run

theorem moved_toSingles {α : Type} : ∀ (args : List Value) (f : List Single → α),
    Run.Moved a b (.lift ((toSingles a args).map f)) (.lift ((toSingles b args).map f))
  | [], f => moved_refl _
  | v :: args, f => by
    unfold toSingles
    cases v.convert .single with
    | error e => exact fun s => .failure e.orSpan_moved s
    | ok x =>
      have split : ∀ r : Except Failure (List Single),
          (r.map (x :: ·)).map f = r.map fun xs => f (x :: xs) := by
        intro r
        cases r <;> rfl
      dsimp only
      rw [split, split]
      exact moved_toSingles args _

variable (serve : Server) (scope : ScopeId) (name : String) (args : List Value)

theorem callLibrary_moved : Run.Moved a b (callLibrary name args a) (callLibrary name args b) := by
  intro s
  unfold callLibrary
  split
  next => exact .failure (Fault.atSpan_moved _) s
  next f found => exact moved_toSingles args _ s

theorem callDeclared_moved (d : Declaration) :
    Run.Moved a b (callDeclared serve scope d args a) (callDeclared serve scope d args b) := by
  unfold callDeclared
  split
  next =>
    refine moved_counted (moved_inFrame scope fun frame => ?_)
    exact moved_bind (moved_bindParams frame d.params args) fun _ => moved_refl _
  next => exact moved_fail _

/-- Where a call stands is seen in the failures of the call itself only. -/
theorem callNamed_moved :
    Run.Moved a b (callNamed serve scope name args a) (callNamed serve scope name args b) := by
  intro s
  unfold callNamed
  split
  next f found => exact moved_counted (moved_orSpan _) s
  next d found => exact callDeclared_moved serve scope args d s
  next => exact callLibrary_moved name args s

end

/-! ## The text of a call -/

/-- A program that is an expression ends as the expression does. -/
theorem runProgram_expr (serve : Server) (scope : ScopeId) (e : Expr) (span : Span) (s : State) :
    runProgram serve scope ⟨[.expr e span]⟩ s = e.eval serve scope s := by
  cases evaluated : e.eval serve scope s with
  | value v t =>
    have statement : (Stmt.expr e span).exec serve scope s = .value (.normal v) t :=
      Run.bind_value evaluated
    have body : execBody serve scope .null [.expr e span] s = .value (.normal v) t :=
      Run.bind_value statement
    exact Run.bind_value body
  | failure f t =>
    have statement : (Stmt.expr e span).exec serve scope s = .failure f t :=
      Run.bind_failure evaluated
    have body : execBody serve scope .null [.expr e span] s = .failure f t :=
      Run.bind_failure statement
    exact Run.bind_failure body
  | outOfFuel =>
    have statement : (Stmt.expr e span).exec serve scope s = .outOfFuel :=
      Run.bind_outOfFuel evaluated
    have body : execBody serve scope .null [.expr e span] s = .outOfFuel :=
      Run.bind_outOfFuel statement
    exact Run.bind_outOfFuel body

/-- The text of a call comes to the call of the function of that name with the values that the
arguments write. -/
theorem execute_callText {name text : String} {args : List Value} {es : List Expr} {span : Span}
    (read : Program.parse text = .ok ⟨[.expr (.call name es span) span]⟩)
    (values : ∀ serve scope s, evalArgs serve scope es s = .value args s) (fuel : Nat)
    (scope : ScopeId) (s : State) : Interpreter.execute (fuel + 1) scope text s =
      callNamed (serve fuel) scope name args span s := by
  have program : Interpreter.execute (fuel + 1) scope text s =
      runProgram (serve (fuel + 1)) scope ⟨[.expr (.call name es span) span]⟩ s := by
    unfold Interpreter.execute runSource
    rw [Program.ofSource_ok_iff.2 read]
  rw [program, runProgram_expr]
  exact Run.bind_value (values _ _ _)

/-- The call of a function by the host and the text of that call end alike, whatever the state and
the environment: with the same value or a failure that differs at most in its span, if it is that of
the call, and in the same state. Every list of finite numbers, plain texts, truth values and nulls
can be written as arguments. -/
theorem written_call_agrees (name : String) (identifier : IsIdentifier name) (args : List Value)
    (writable : ∀ v ∈ args, v.Writable) :
    (∃ texts, List.Forall₂ Value.WrittenAs args texts) ∧
    ∀ texts, List.Forall₂ Value.WrittenAs args texts →
      ∃ es, let whole : Span := ⟨0, Text.byteLength (callText name texts).toList⟩
        Program.parse (callText name texts) = .ok ⟨[.expr (.call name es whole) whole]⟩ ∧
        ∀ fuel scope s, (Interpreter.callFunction fuel scope name args s).Moved .zero whole
          (Interpreter.execute (fuel + 1) scope (callText name texts) s) := by
  refine ⟨?_, fun texts written => ?_⟩
  · induction args with
    | nil => exact ⟨[], .nil⟩
    | cons v args ih =>
      obtain ⟨text, first⟩ := Value.exists_writtenAs (writable v List.mem_cons_self)
      obtain ⟨texts, others⟩ := ih fun w member => writable w (List.mem_cons_of_mem _ member)
      exact ⟨text :: texts, .cons first others⟩
  · obtain ⟨es, values, read⟩ := parse_callText identifier written
    refine ⟨es, read, fun fuel scope s => ?_⟩
    rw [execute_callText read values]
    exact callNamed_moved (serve fuel) scope name args s

/-- A function of the host is called with a text that holds quotes, and one that is not there with
a negative number. -/
theorem written_call_agrees_print : ∃ (two : Single) (t : State) (d : Diagnostic) (e : Failure),
    Binary.read? "2" = some two ∧
    Interpreter.callFunction 3 State.root "print" [.string "say \"a\""] (.initial {}) =
      .value .void t ∧
    Interpreter.execute 4 State.root "print(\"say \\\"a\\\"\")" (.initial {}) = .value .void t ∧
    t.recorded = [.line "say \"a\""] ∧
    Interpreter.callFunction 3 State.root "f" [.number (-two)] (.initial {}) =
      .failure (.diagnostic (d.withSpan .zero)) (.initial {}) ∧
    Interpreter.execute 4 State.root "f(-2)" (.initial {}) = .failure e (.initial {}) ∧
    Failure.Moved .zero ⟨0, 5⟩ (.diagnostic (d.withSpan .zero)) e := by
  have print : IsIdentifier "print" := ⟨⟨0, 5⟩, 5, Token.ok_of_toOption (by decide +kernel)⟩
  have f : IsIdentifier "f" := ⟨⟨0, 1⟩, 1, Token.ok_of_toOption (by decide +kernel)⟩
  let quoted := "say \"a\""
  have plain : IsPlainText quoted.toList := by
    have each : quoted.toList.all (fun c => c ≠ '\\' ∧ c ≠ '\n' ∧ c ≠ '\r') = true := by
      decide +kernel
    exact fun c member => of_decide_eq_true (List.all_eq_true.1 each c member)
  let two : Single := .finite false (2 <<< 149) (by decide)
  have reads : Binary.read? "2" = some two := by decide +kernel
  have writable : ∀ v ∈ [Value.number (-two)], v.Writable := by
    intro v member
    rw [List.mem_singleton.1 member]
    exact ⟨_, _, _, rfl⟩
  have digit : Decimal.IsNumeral "2".toList := .whole (List.all_eq_true.1 rfl) nofun
  have printed : Interpreter.callFunction 3 State.root "print" [.string quoted] (.initial {}) =
    .value .void _ := rfl
  have failed : Interpreter.callFunction 3 State.root "f" [.number (-two)] (.initial {}) =
    .failure _ _ := rfl
  have text : callText "print" [Quoted.quote quoted] = "print(\"say \\\"a\\\"\")" := by
    decide +kernel
  have negative : callText "f" ["-" ++ "2"] = "f(-2)" := by decide +kernel
  have size : Text.byteLength "f(-2)".toList = 5 := by decide +kernel
  obtain ⟨-, -, prints⟩ := (written_call_agrees "print" print [.string quoted]
    (fun v member => List.mem_singleton.1 member ▸ plain)).2 _ (.cons (.quoted plain) .nil)
  obtain ⟨-, -, fails⟩ := (written_call_agrees "f" f _ writable).2 _
    (.cons (.negated digit reads) .nil)
  have shown := prints 3 State.root (.initial {})
  have missing := fails 3 State.root (.initial {})
  rw [printed, text] at shown
  rw [failed, negative, size] at missing
  obtain ⟨e, executed, moved⟩ := missing.of_failure
  exact ⟨two, _, _, e, reads, printed, shown.of_value, rfl, failed, executed, moved⟩

end Scriptlet
