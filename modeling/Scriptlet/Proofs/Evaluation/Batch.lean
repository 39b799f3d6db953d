import Scriptlet.Interpreter
import Scriptlet.Proofs.Evaluation.Moment

/-
  Programs in a row.
  Nothing passes from one statement to the next but the state, so the statements of two programs
  executed at once end as the programs do one after the other; of the value that the first one ends
  with the second one sees nothing, unless it is empty. If the first one fails, or a return ends
  it, so do both, and what is begun then is begun by the first one alone (`moments_append`). Main
  statement: `batch_agrees`.
-/

namespace Scriptlet

/-- The statements of one program and then those of another. -/
instance : Append Program where
  append p q := ⟨p.statements ++ q.statements⟩

namespace Program

variable (fuel : Nat) (scope : ScopeId) (p : Program) (s : State) (v : Value) (t : State)

/-- All statements of the program are executed, the last one with the value. -/
def Completes : Prop :=
  execBody (serve fuel) scope .null p.statements s = .value (.normal v) t

/-- A return ends the program with the value. -/
def Returns : Prop :=
  execBody (serve fuel) scope .null p.statements s = .value (.result v) t

end Program

section

variable {fuel : Nat} {scope : ScopeId} {p : Program} {s t : State} {v : Value}

theorem Program.Completes.executeProgram (h : p.Completes fuel scope s v t) :
    Interpreter.executeProgram fuel scope p s = .value v t :=
  Run.bind_value h

theorem Program.Returns.executeProgram (h : p.Returns fuel scope s v t) :
    Interpreter.executeProgram fuel scope p s = .value v t :=
  Run.bind_value h

end

/-! ## Statements in a row -/

section

variable {serve : Server} {scope : ScopeId}

/-- Further statements are executed after statements that end normally, and only then. -/
theorem execBody_append (after : List Stmt) : ∀ (ss : List Stmt) (last : Value) (s : State),
    execBody serve scope last (ss ++ after) s = match execBody serve scope last ss s with
      | .value (.normal v) t => execBody serve scope v after t
      | ended => ended
  | [], last, s => rfl
  | st :: rest, last, s => by
    show (st.exec serve scope >>= _) s = _
    have split : execBody serve scope last (st :: rest) s = (st.exec serve scope >>= _) s := rfl
    rw [split]
    cases first : st.exec serve scope s with
    | value flow u =>
      rw [Run.bind_value first, Run.bind_value first]
      cases flow with
      | normal v => exact execBody_append after rest v u
      | result v => rfl
      | jump jump => rfl
    | failure e u => rw [Run.bind_failure first, Run.bind_failure first]
    | outOfFuel => rw [Run.bind_outOfFuel first, Run.bind_outOfFuel first]

/-- What the value before is makes no difference to statements, if there are any. -/
theorem execBody_last {ss : List Stmt} (nonempty : ss ≠ []) (last last' : Value) :
    execBody serve scope last ss = execBody serve scope last' ss := by
  cases ss with
  | nil => exact absurd rfl nonempty
  | cons st rest => rfl

end

section

variable {fuel : Nat} {scope : ScopeId} {p q : Program} {s t : State} {v : Value}

theorem executeProgram_append_of_completes (nonempty : q.statements ≠ [])
    (h : p.Completes fuel scope s v t) : Interpreter.executeProgram fuel scope (p ++ q) s =
      Interpreter.executeProgram fuel scope q t := by
  have both : execBody (serve fuel) scope .null (p ++ q).statements s =
      execBody (serve fuel) scope .null q.statements t := by
    rw [execBody_last nonempty .null v]
    refine (execBody_append q.statements p.statements .null s).trans ?_
    rw [h]
  exact Run.bind_of_same both

theorem executeProgram_append_of_not_completes (h : ∀ v t, ¬ p.Completes fuel scope s v t) :
    Interpreter.executeProgram fuel scope (p ++ q) s =
      Interpreter.executeProgram fuel scope p s := by
  have first : execBody (serve fuel) scope .null (p ++ q).statements s =
      execBody (serve fuel) scope .null p.statements s := by
    refine (execBody_append q.statements p.statements .null s).trans ?_
    split
    next v t completes => exact absurd completes (h v t)
    next => rfl
  exact Run.bind_of_same first

end

/-! ## What is begun -/

/-- The second moment is the first one with further statements to come after those of a program or
after some statements that are left of one; otherwise it is the first one itself. -/
inductive Moment.Before (after : List Stmt) : Moment → Moment → Prop
  | itself (m : Moment) : Before after m m
  | program {fuel scope p s calls} : Before after ⟨fuel, .program scope p, s, calls⟩
      ⟨fuel, .program scope ⟨p.statements ++ after⟩, s, calls⟩
  | body {fuel scope last st rest s calls} :
    Before after ⟨fuel, .body scope last (st :: rest), s, calls⟩
      ⟨fuel, .body scope last (st :: rest ++ after), s, calls⟩

section

variable {fuel calls : Nat} {scope : ScopeId}

/-- What statements with others after them come to begin is begun by the first ones, with the others
still to come, or by the others after the first ones ended normally. -/
theorem moments_body_append (after : List Stmt) : ∀ (ss : List Stmt) {last : Value} {s : State}
    {m : Moment}, Reaches ⟨fuel, .body scope last (ss ++ after), s, calls⟩ m →
    (∃ m₁, Reaches ⟨fuel, .body scope last ss, s, calls⟩ m₁ ∧ m₁.Before after m) ∨
      ∃ v t, execBody (serve fuel) scope last ss s = .value (.normal v) t ∧
        Reaches ⟨fuel, .body scope v after, t, calls⟩ m
  | [], last, s, m, reaches => .inr ⟨last, s, rfl, reaches⟩
  | st :: rest, last, s, m, reaches => by
    rcases reaches.cases_head with rfl | ⟨m', begun, later⟩
    · exact .inl ⟨_, .refl, .body⟩
    · cases begun with
      | first => exact .inl ⟨m, .head .first later, .itself m⟩
      | rest first =>
        rcases moments_body_append after rest later with
          ⟨m₁, reaches₁, before⟩ | ⟨v, t, ended, more⟩
        · exact .inl ⟨m₁, .head (.rest first) reaches₁, before⟩
        · exact .inr ⟨v, t, (Run.bind_value first).trans ended, more⟩

/-- If a program does not complete, what it and another one after it come to begin is begun by the
first one, with the other still to come. -/
theorem moments_append {p q : Program} {s : State} {m : Moment}
    (h : ∀ v t, ¬ p.Completes fuel scope s v t)
    (reaches : Reaches ⟨fuel, .program scope (p ++ q), s, calls⟩ m) :
    ∃ m₁, Reaches ⟨fuel, .program scope p, s, calls⟩ m₁ ∧ m₁.Before q.statements m := by
  rcases reaches.cases_head with rfl | ⟨m', begun, later⟩
  · exact ⟨_, .refl, .program⟩
  · cases begun with
    | statements =>
      rcases moments_body_append q.statements p.statements later with
        ⟨m₁, reaches₁, before⟩ | ⟨v, t, completes, -⟩
      · exact ⟨m₁, .head .statements reaches₁, before⟩
      · exact absurd completes (h v t)

end

/-- Two programs executed at once do what they do one after the other. If the first one completes,
the whole ends as the second one does in the state that the first one leaves. If a return ends the
first one, or it fails, or its fuel runs out, the whole ends in the same way and in the same state,
and what it comes to begin is begun by the first program, with the second one still to come. -/
theorem batch_agrees (fuel : Nat) (scope : ScopeId) (p q : Program) (s : State)
    (nonempty : q.statements ≠ []) :
    (∀ v t, p.Completes fuel scope s v t →
      Interpreter.executeProgram fuel scope p s = .value v t ∧
      Interpreter.executeProgram fuel scope (p ++ q) s =
        Interpreter.executeProgram fuel scope q t) ∧
    (∀ v t, p.Returns fuel scope s v t →
      Interpreter.executeProgram fuel scope p s = .value v t ∧
      Interpreter.executeProgram fuel scope (p ++ q) s = .value v t) ∧
    (∀ e t, Interpreter.executeProgram fuel scope p s = .failure e t →
      Interpreter.executeProgram fuel scope (p ++ q) s = .failure e t) ∧
    (Interpreter.executeProgram fuel scope p s = .outOfFuel →
      Interpreter.executeProgram fuel scope (p ++ q) s = .outOfFuel) ∧
    ((∀ v t, ¬ p.Completes fuel scope s v t) → ∀ calls m,
      Reaches ⟨fuel, .program scope (p ++ q), s, calls⟩ m →
      ∃ m₁, Reaches ⟨fuel, .program scope p, s, calls⟩ m₁ ∧ m₁.Before q.statements m) := by
  refine ⟨fun v t completes => ?_, fun v t returns => ?_, fun e t fails => ?_,
    fun endless => ?_, ?_⟩
  · exact ⟨completes.executeProgram, executeProgram_append_of_completes nonempty completes⟩
  · refine ⟨returns.executeProgram, ?_⟩
    refine (executeProgram_append_of_not_completes fun w u completes => ?_).trans
      returns.executeProgram
    cases returns.symm.trans completes
  · refine (executeProgram_append_of_not_completes fun w u completes => ?_).trans fails
    cases fails.symm.trans completes.executeProgram
  · refine (executeProgram_append_of_not_completes fun w u completes => ?_).trans endless
    cases endless.symm.trans completes.executeProgram
  · exact fun not_completes calls m => moments_append not_completes

/-- A program prints a variable: after one that gives it a value, after one that returns, and after
one that fails inside a function. -/
theorem batch_agrees_print : ∃ (q give return_ fail : Program) (t u : State) (e : Failure),
    Interpreter.executeProgram 9 State.root (give ++ q) (.initial {}) = .value .void t ∧
    t.recorded = [.line "true"] ∧
    Interpreter.executeProgram 9 State.root (return_ ++ q) (.initial {}) =
      .value .null (.initial {}) ∧
    Interpreter.executeProgram 9 State.root (fail ++ q) (.initial {}) = .failure e u ∧
    (∀ m, Reaches ⟨9, .program State.root (return_ ++ q), .initial {}, 0⟩ m →
      ∃ m₁, Reaches ⟨9, .program State.root return_, .initial {}, 0⟩ m₁ ∧
        m₁.Before q.statements m) := by
  let q : Program := ⟨[.expr (.call "print" [.variable "x" .zero] .zero) .zero]⟩
  let give : Program := ⟨[.assign "x" (.literal (.bool true) .zero) .zero]⟩
  let return_ : Program := ⟨[.result none .zero]⟩
  let f : Declaration := ⟨"f", [], [.expr (.call "g" [] .zero) .zero], false, .zero⟩
  let fail : Program := ⟨[.expr (.function f .zero) .zero, .expr (.call "f" [] .zero) .zero]⟩
  have agrees := fun p => batch_agrees 9 State.root p q (.initial {}) (List.cons_ne_nil _ _)
  have gives : give.Completes 9 State.root (.initial {}) (.bool true) _ := rfl
  have returns : return_.Returns 9 State.root (.initial {}) .null _ := rfl
  have fails : Interpreter.executeProgram 9 State.root fail (.initial {}) = .failure _ _ := rfl
  have printed := ((agrees give).1 _ _ gives).2
  have returned := ((agrees return_).2.1 _ _ returns).2
  have failed := (agrees fail).2.2.1 _ _ fails
  have begun := (agrees return_).2.2.2.2 (fun v t completes => by
    cases returns.symm.trans completes) 0
  exact ⟨q, give, return_, fail, _, _, _, printed, rfl, returned, failed, begun⟩

end Scriptlet
