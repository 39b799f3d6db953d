import Scriptlet.Proofs.Evaluation.Effect

/-
  Jumps and the loops that they belong to.
  A loop never hands a jump on (`serve_loop_ends`): a break ends it, and after a continue it goes
  on with its next round (`serve_loop_break`, `serve_loop_continue`). So a statement ends with a
  jump only if there is one in it outside of its loops (`Stmt.escapes_of_jump`).
-/

namespace Scriptlet

mutual

/-- Whether a statement is or holds a jump outside of a loop, nested declarations left aside. -/
def Stmt.escapes : Stmt → Bool
  | .jump _ _ => true
  | .branch _ thenBody none _ => anyEscapes thenBody
  | .branch _ thenBody (some elseBody) _ => anyEscapes thenBody || anyEscapes elseBody
  | _ => false

/-- Whether one of the statements is or holds a jump outside of a loop, nested declarations left
aside. -/
def anyEscapes : List Stmt → Bool
  | [] => false
  | s :: rest => s.escapes || anyEscapes rest

end

/-- Every jump in the body of a declared function lies in a loop of that function. -/
def jumpsInLoops : Condition where
  expr
    | .function d _ => anyEscapes d.body = false
    | _ => True
  stmt _ := True

/-- Every jump of the program lies in a loop of the same function, or outside of functions. -/
structure Program.Confined (p : Program) : Prop where
  own : anyEscapes p.statements = false
  inner : bodyEverywhere jumpsInLoops p.statements

/-- Every jump of the function, and of those declared in it, lies in a loop of the same function. -/
structure Declaration.Confined (d : Declaration) : Prop where
  own : anyEscapes d.body = false
  inner : d.Everywhere jumpsInLoops

/-! ## Loops -/

/-- A loop ends with null or with a return. -/
theorem serve_loop_ends {fuel : Nat} {scope : ScopeId} {c : Expr} {body : List Stmt} {s t : State}
    {flow : Flow} (h : serve fuel (.loop scope c body) s = .value flow t) :
    flow = .normal .null ∨ ∃ v, flow = .result v := by
  -- one round less for each unit of fuel; only a return or the end of the rounds is passed on
  induction fuel generalizing s with
  | zero => cases h
  | succ fuel ih =>
    obtain ⟨test, u, -, round⟩ := Run.bind_eq_value_iff.1 h
    cases test with
    | false =>
      cases round
      exact .inl rfl
    | true =>
      obtain ⟨ended, w, -, next⟩ := Run.bind_eq_value_iff.1 round
      cases ended with
      | normal v => exact ih next
      | result v =>
        cases next
        exact .inr ⟨v, rfl⟩
      | jump jump =>
        cases jump with
        | breakLoop =>
          cases next
          exact .inl rfl
        | continueLoop => exact ih next

section

variable {fuel : Nat} {scope : ScopeId} {c : Expr} {body : List Stmt} {s t u : State}

/-- A break ends the loop. -/
theorem serve_loop_break (test : holds (serve fuel) scope c s = .value true t)
    (round : execBody (serve fuel) scope .null body t = .value (.jump .breakLoop) u) :
    serve (fuel + 1) (.loop scope c body) s = .value (.normal .null) u :=
  (Run.bind_value test).trans (Run.bind_value round)

/-- After a continue the loop goes on with its test. -/
theorem serve_loop_continue (test : holds (serve fuel) scope c s = .value true t)
    (round : execBody (serve fuel) scope .null body t = .value (.jump .continueLoop) u) :
    serve (fuel + 1) (.loop scope c body) s = serve fuel (.loop scope c body) u :=
  (Run.bind_value test).trans (Run.bind_value round)

end

/-! ## Statements that end with a jump -/

/-- No loop ends with a jump. -/
def Server.EndsLoops (serve : Server) : Prop :=
  ∀ scope c body s jump t, serve (.loop scope c body) s ≠ .value (.jump jump) t

theorem endsLoops_serve (fuel : Nat) : (serve fuel).EndsLoops := by
  intro scope c body s jump t ended
  rcases serve_loop_ends ended with null | ⟨v, result⟩
  · cases null
  · cases result

/-- With a return or a jump, the statements that follow are left out. -/
def Flow.Abrupt (flow : Flow) : Prop :=
  ∀ v, flow ≠ .normal v

theorem Flow.abrupt_jump (jump : Jump) : (Flow.jump jump).Abrupt :=
  fun _ => nofun

theorem Flow.abrupt_result (v : Value) : (Flow.result v).Abrupt :=
  fun _ => nofun

theorem Flow.eq_of_settle {flow ended : Flow} (abrupt : ended.Abrupt)
    (h : flow.settle = ended) : flow = ended := by
  unfold settle at h
  split at h
  next => exact absurd h.symm (abrupt _)
  next => exact h

section

variable {serve : Server} {scope : ScopeId} {s t : State} {flow : Flow}

/-- A branch ends with a return or a jump only if its statements do. -/
theorem body_of_settled {m : Run Flow} (abrupt : flow.Abrupt)
    (h : (m >>= fun flow => pure flow.settle) s = .value flow t) : m s = .value flow t := by
  obtain ⟨made, u, ended, settled⟩ := Run.bind_eq_value_iff.1 h
  injection settled with same state
  rw [Flow.eq_of_settle abrupt same] at ended
  exact ended.trans (congrArg _ state)

/-- A variable is given a value without a return or a jump. -/
theorem bindValue_ne_abrupt {name : String} {e : Expr} {span : Span}
    (abrupt : flow.Abrupt) : bindValue serve scope name e span s ≠ .value flow t := by
  intro h
  obtain ⟨v, u, -, rest⟩ := Run.bind_eq_value_iff.1 h
  obtain ⟨-, w, -, ended⟩ := Run.bind_eq_value_iff.1 rest
  injection ended with same
  exact abrupt v same.symm

end

mutual

/-- A statement that ends with a jump has one outside of its loops. -/
theorem Stmt.escapes_of_jump {serve : Server} (ends : serve.EndsLoops) {scope : ScopeId}
    {jump : Jump} {t : State} : ∀ (st : Stmt) {s : State},
    st.exec serve scope s = .value (.jump jump) t → st.escapes = true
  | .variable _ _ _, _, h => absurd h (bindValue_ne_abrupt (Flow.abrupt_jump _))
  | .assign _ _ _, _, h => absurd h (bindValue_ne_abrupt (Flow.abrupt_jump _))
  | .branch _ thenBody none _, s, h => by
    obtain ⟨test, u, -, chosen⟩ := Run.bind_eq_value_iff.1 h
    cases test with
    | true =>
      have ended := body_of_settled (Flow.abrupt_jump _) chosen
      exact anyEscapes_of_jump ends thenBody ended
    | false => cases chosen
  | .branch _ thenBody (some elseBody) _, s, h => by
    obtain ⟨test, u, -, chosen⟩ := Run.bind_eq_value_iff.1 h
    cases test with
    | true =>
      have ended := body_of_settled (Flow.abrupt_jump _) chosen
      exact Bool.or_eq_true_iff.2 (.inl (anyEscapes_of_jump ends thenBody ended))
    | false =>
      have ended := body_of_settled (Flow.abrupt_jump _) chosen
      exact Bool.or_eq_true_iff.2 (.inr (anyEscapes_of_jump ends elseBody ended))
  | .loop _ _ _, _, h => absurd h (ends _ _ _ _ _ _)
  | .result none _, _, h => by cases h
  | .result (some _) _, _, h => by
    obtain ⟨v, u, -, ended⟩ := Run.bind_eq_value_iff.1 h
    cases ended
  | .jump _ _, _, _ => rfl
  | .expr _ _, _, h => by
    obtain ⟨v, u, -, ended⟩ := Run.bind_eq_value_iff.1 h
    cases ended

/-- Statements that end with a jump have one outside of their loops. -/
theorem anyEscapes_of_jump {serve : Server} (ends : serve.EndsLoops) {scope : ScopeId}
    {jump : Jump} {t : State} : ∀ (body : List Stmt) {s : State} {last : Value},
    execBody serve scope last body s = .value (.jump jump) t → anyEscapes body = true
  | [], _, _, h => by cases h
  | st :: rest, s, last, h => by
    obtain ⟨flow, u, first, next⟩ := Run.bind_eq_value_iff.1 h
    cases flow with
    | normal v => exact Bool.or_eq_true_iff.2 (.inr (anyEscapes_of_jump ends rest next))
    | result v => cases next
    | jump j => exact Bool.or_eq_true_iff.2 (.inl (st.escapes_of_jump ends first))

end

end Scriptlet
