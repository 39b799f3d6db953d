import Scriptlet.Proofs.Evaluation.Moment

/-
  The moments of an evaluation are all there is to it.
  Two servers that do the same tasks in the same way wherever an evaluation leads to such a task
  let the evaluation end in the same way. So nothing that an evaluation asks of its server escapes
  the moments of its run, neither in the parts of evaluations (`Work.runWith_agrees`, by induction
  on trees and actions) nor in the tasks themselves (`step_agrees`). Main statement:
  `Moment.covered`.
-/

namespace Scriptlet

/-- The server does every task that the moment comes to begin as the server of its fuel does. -/
def Agrees (other : Server) (m : Moment) : Prop :=
  ∀ task s calls, Reaches m ⟨m.fuel, .task task, s, calls⟩ → other task s = serve m.fuel task s

/-- The server agrees at every moment of the given fuel that the task leads to. -/
def AgreesAfter (other : Server) (fuel : Nat) (task : Task) (s : State) (calls : Nat) : Prop :=
  ∀ work t calls', Leads ⟨fuel + 1, .task task, s, calls⟩ ⟨fuel, work, t, calls'⟩ →
    Agrees other ⟨fuel, work, t, calls'⟩

/-- Nothing that the evaluation asks of its server escapes the moments that it leads to. -/
structure Moment.Covered (m : Moment) : Prop where
  part : ∀ other, Agrees other m → m.work.runWith other m.state = m.work.run m.fuel m.state
  task : ∀ fuel task, m.fuel = fuel + 1 → m.work = .task task → ∀ other,
    AgreesAfter other fuel task m.state m.calls →
      step other task m.state = serve m.fuel task m.state

namespace Run

variable {α β : Type} {m n : Run α} {f g : α → Run β} {s : State}

theorem bind_congr (first : m s = n s) (next : ∀ a t, n s = .value a t → f a t = g a t) :
    (m >>= f) s = (n >>= g) s := by
  rw [bind_eq, bind_eq, first]
  cases made : n s with
  | value a t => exact next a t made
  | failure e t => rfl
  | outOfFuel => rfl

theorem attempt_congr (h : m s = n s) : attempt m s = attempt n s := by
  unfold attempt
  rw [h]

theorem orSpan_congr (span : Span) (h : m s = n s) : m.orSpan span s = n.orSpan span s := by
  unfold orSpan
  rw [h]

theorem between_congr {before after : State → State} (h : m (before s) = n (before s)) :
    m.between before after s = n.between before after s := by
  unfold between
  rw [h]

theorem counted_congr (span : Span)
    (h : s.depth < s.maxCallDepth → m s.enter = n s.enter) :
    Run.counted span m s = Run.counted span n s := by
  unfold counted
  split
  next => rfl
  next room => exact between_congr (h (Nat.lt_of_not_le room))

end Run

open Run

section

variable {fuel calls calls' : Nat} {other : Server} {work work' : Work} {s t : State}

theorem Agrees.part (h : Agrees other ⟨fuel, work, s, calls⟩)
    (leads : Leads ⟨fuel, work, s, calls⟩ ⟨fuel, work', t, calls'⟩) :
    Agrees other ⟨fuel, work', t, calls'⟩ :=
  fun task u count reaches => h task u count (.head leads reaches)

theorem Agrees.task {task : Task} (h : Agrees other ⟨fuel, work, s, calls⟩)
    (leads : Leads ⟨fuel, work, s, calls⟩ ⟨fuel, .task task, t, calls'⟩) :
    other task t = serve fuel task t :=
  h task t calls' (.single leads)

end

/-! ## Expressions and statements -/

mutual

theorem Expr.eval_agrees {fuel calls : Nat} {other : Server} (scope : ScopeId) : ∀ (e : Expr)
    (s : State), Agrees other ⟨fuel, .expr scope e, s, calls⟩ →
    e.eval other scope s = e.eval (serve fuel) scope s
  | .literal _ _, _, _ => rfl
  | .variable _ _, _, _ => rfl
  | .binary op left right span, s, h =>
    bind_congr (left.eval_agrees scope s (h.part .left)) fun a t made =>
      bind_congr rfl fun
        | some v, u, _ => rfl
        | none, u, lifted => by
          obtain ⟨unsettled, same⟩ := lift_eq_value lifted
          rw [same]
          refine bind_congr ?_ fun _ _ _ => rfl
          exact right.eval_agrees scope t (h.part (.right made unsettled))
  | .unary _ operand _, s, h =>
    bind_congr (operand.eval_agrees scope s (h.part .operand)) fun _ _ _ => rfl
  | .call name args span, s, h =>
    bind_congr (evalArgs_agrees scope args s (h.part .arguments)) fun _ _ made =>
      h.task (.dispatch made)
  | .function _ _, _, _ => rfl

theorem evalArgs_agrees {fuel calls : Nat} {other : Server} (scope : ScopeId) :
    ∀ (args : List Expr) (s : State), Agrees other ⟨fuel, .args scope args, s, calls⟩ →
    evalArgs other scope args s = evalArgs (serve fuel) scope args s
  | [], _, _ => rfl
  | e :: rest, s, h =>
    bind_congr (e.eval_agrees scope s (h.part .head)) fun _ t made =>
      bind_congr (evalArgs_agrees scope rest t (h.part (.tail made))) fun _ _ _ => rfl

end

theorem holds_agrees {fuel calls : Nat} {other : Server} {scope : ScopeId} {condition : Expr}
    {s : State} (h : Agrees other ⟨fuel, .expr scope condition, s, calls⟩) :
    holds other scope condition s = holds (serve fuel) scope condition s :=
  bind_congr (condition.eval_agrees scope s h) fun _ _ _ => rfl

theorem bindValue_agrees {fuel calls : Nat} {other : Server} {scope : ScopeId} {name : String}
    {value : Expr} {span : Span} {s : State}
    (h : Agrees other ⟨fuel, .expr scope value, s, calls⟩) :
    bindValue other scope name value span s = bindValue (serve fuel) scope name value span s :=
  bind_congr (value.eval_agrees scope s h) fun _ _ _ => rfl

mutual

theorem Stmt.exec_agrees {fuel calls : Nat} {other : Server} (scope : ScopeId) : ∀ (st : Stmt)
    (s : State), Agrees other ⟨fuel, .stmt scope st, s, calls⟩ →
    st.exec other scope s = st.exec (serve fuel) scope s
  | .variable _ _ _, _, h => bindValue_agrees (h.part .newValue)
  | .assign _ _ _, _, h => bindValue_agrees (h.part .assigned)
  | .branch _ thenBody none _, _, h =>
    bind_congr (holds_agrees (h.part .test)) fun
      | true, t, made =>
        bind_congr (execBody_agrees scope thenBody .null t (h.part (.thenPart made)))
          fun _ _ _ => rfl
      | false, _, _ => rfl
  | .branch _ thenBody (some elseBody) _, _, h =>
    bind_congr (holds_agrees (h.part .test)) fun
      | true, t, made =>
        bind_congr (execBody_agrees scope thenBody .null t (h.part (.thenPart made)))
          fun _ _ _ => rfl
      | false, t, made =>
        bind_congr (execBody_agrees scope elseBody .null t (h.part (.elsePart made)))
          fun _ _ _ => rfl
  | .loop _ _ _, _, h => h.task .rounds
  | .result none _, _, _ => rfl
  | .result (some value) _, s, h =>
    bind_congr (value.eval_agrees scope s (h.part .returned)) fun _ _ _ => rfl
  | .jump _ _, _, _ => rfl
  | .expr value _, s, h =>
    bind_congr (value.eval_agrees scope s (h.part .alone)) fun _ _ _ => rfl

theorem execBody_agrees {fuel calls : Nat} {other : Server} (scope : ScopeId) :
    ∀ (body : List Stmt) (last : Value) (s : State),
    Agrees other ⟨fuel, .body scope last body, s, calls⟩ →
    execBody other scope last body s = execBody (serve fuel) scope last body s
  | [], _, _, _ => rfl
  | st :: rest, _, s, h =>
    bind_congr (st.exec_agrees scope s (h.part .first)) fun
      | .normal v, t, made => execBody_agrees scope rest v t (h.part (.rest made))
      | .result _, _, _ => rfl
      | .jump _, _, _ => rfl

end

section

variable {fuel calls : Nat} {other : Server} {scope : ScopeId} {s : State}

/-! ## Programs and actions -/

theorem runProgram_agrees {p : Program} (h : Agrees other ⟨fuel, .program scope p, s, calls⟩) :
    runProgram other scope p s = runProgram (serve fuel) scope p s :=
  bind_congr (execBody_agrees scope p.statements .null s (h.part .statements)) fun _ _ _ => rfl

theorem respond_agrees {request : HostRequest} {code : request.Given → HostAction}
    {resume : request.Answer → HostAction}
    (h : Agrees other ⟨fuel, .action (.ask request code resume), s, calls⟩) :
    respond other request code s = respond (serve fuel) request code s := by
  cases request with
  | print line =>
    refine attempt_congr ?_
    unfold deliver
    split
    next => rfl
    next free =>
      refine between_congr (bind_congr (attempt_congr ?_) fun _ _ _ => rfl)
      exact h.task (.handled (Bool.eq_false_iff.2 free))
  | call id name args => exact attempt_congr (h.task .called)
  | execute id source => exact attempt_congr (h.task .executed)
  -- nothing else asks the server for anything
  | _ => rfl

theorem perform_agrees (a : HostAction) (s : State)
    (h : Agrees other ⟨fuel, .action a, s, calls⟩) :
    perform other a s = perform (serve fuel) a s := by
  induction a generalizing s with
  | done result => rfl
  | ask request code resume _ ih =>
    refine bind_congr (respond_agrees h) fun answer t made => ?_
    exact ih answer t (h.part (.resumed made))

/-- The outcome of an evaluation depends on its server only at the moments that it leads to. -/
theorem Work.runWith_agrees (work : Work) (h : Agrees other ⟨fuel, work, s, calls⟩) :
    work.runWith other s = work.run fuel s := by
  cases work with
  | expr scope e => exact e.eval_agrees scope s h
  | args scope es => exact evalArgs_agrees scope es s h
  | stmt scope st => exact st.exec_agrees scope s h
  | body scope last ss => exact execBody_agrees scope ss last s h
  | program scope p => exact runProgram_agrees h
  | action a => exact perform_agrees a s h
  | task t => exact h t s calls .refl

/-! ## Tasks -/

theorem callNamed_agrees {name : String} {args : List Value} {span : Span}
    (h : AgreesAfter other fuel (.call scope name args span) s calls) :
    callNamed other scope name args span s = callNamed (serve fuel) scope name args span s := by
  unfold callNamed
  split
  next f found =>
    refine counted_congr span fun room => orSpan_congr span ?_
    exact perform_agrees _ _ (h _ _ _ (.native found room))
  next d found =>
    unfold callDeclared
    split
    next count =>
      refine counted_congr span fun room => between_congr (bind_congr rfl fun _ t bound => ?_)
      refine bind_congr ?_ fun _ _ _ => rfl
      exact execBody_agrees _ d.body .null t (h _ _ _ (.scripted found count room bound))
    next => rfl
  next => rfl

theorem runLoop_agrees {condition : Expr} {body : List Stmt}
    (h : AgreesAfter other fuel (.loop scope condition body) s calls) :
    runLoop other scope condition body s = runLoop (serve fuel) scope condition body s := by
  refine bind_congr (holds_agrees (h _ _ _ .condition)) fun goesOn t first => ?_
  cases goesOn with
  | false => rfl
  | true =>
    refine bind_congr (execBody_agrees scope body .null t (h _ _ _ (.round first))) ?_
    intro flow u ended
    have again : (flow = .jump .continueLoop ∨ ∃ v, flow = .normal v) →
        other (.loop scope condition body) u = serve fuel (.loop scope condition body) u :=
      fun goesOn => h _ _ _ (.again first ended goesOn) _ _ _ .refl
    cases flow with
    | normal v => exact again (.inr ⟨v, rfl⟩)
    | result v => rfl
    | jump jump =>
      cases jump with
      | breakLoop => rfl
      | continueLoop => exact again (.inl rfl)

theorem runSource_agrees {source : String}
    (h : AgreesAfter other fuel (.execute scope source) s calls) :
    runSource other scope source s = runSource (serve fuel) scope source s := by
  unfold runSource
  cases read : Program.ofSource source with
  | error d => rfl
  | ok p => exact runProgram_agrees (h _ _ _ (.source (Program.ofSource_ok_iff.1 read)))

/-- The outcome of a task depends on its server only at the moments that the task leads to. -/
theorem step_agrees (task : Task) (h : AgreesAfter other fuel task s calls) :
    step other task s = serve (fuel + 1) task s := by
  cases task with
  | call scope name args span => exact callNamed_agrees h
  | loop scope condition body => exact runLoop_agrees h
  | execute scope source => exact runSource_agrees h
  | act a => exact perform_agrees a s (h _ _ _ .act)

end

theorem Moment.covered (m : Moment) : m.Covered where
  part _ agrees := m.work.runWith_agrees agrees
  task fuel task more _ _ agrees := by
    rw [more]
    exact step_agrees task agrees

end Scriptlet
