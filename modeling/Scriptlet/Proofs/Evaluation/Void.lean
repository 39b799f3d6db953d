import Scriptlet.Proofs.Evaluation.Environments
import Scriptlet.Proofs.Evaluation.Jumps
import Scriptlet.Proofs.Evaluation.StaticTypes

/-
  Where void may be.
  There is one way to bind a variable, and it refuses void; so no variable of a state that a host
  can bring about holds it (`Reachable.voidFree`). Operators do not yield it either, since they have
  results of known types, nor do branches and loops, whose values are settled. What is left is the
  call. Main statement: `void_only_from_calls`.
-/

namespace Scriptlet

theorem Value.ne_void_iff {v : Value} : v ≠ .void ↔ v.isVoid = false := by
  cases v <;> simp [isVoid]

/-! ## The variables -/

/-- No variable of an environment holds void. -/
def State.VoidFree (s : State) : Prop :=
  ∀ id scope, s.scope? id = some scope → ∀ entry ∈ scope.bindings.entries, entry.2 ≠ .void

namespace State.VoidFree

variable {s t : State} {id : ScopeId} {name : String} {v : Value}

theorem initial (settings : Settings) : (State.initial settings).VoidFree := by
  intro id scope found entry bound
  rcases id with (- | n) | n
  · cases found
    rcases Bindings.mem_put bound with rfl | bound
    · exact nofun
    rcases Bindings.mem_put bound with rfl | bound
    · exact nofun
    · cases bound
  · cases found
  · cases found

theorem bind (free : s.VoidFree) (held : v ≠ .void) : (s.bind id name v).VoidFree := by
  intro other scope found entry bound
  rw [scope?_bind] at found
  split at found
  next =>
    obtain ⟨old, there, rfl⟩ := Option.map_eq_some_iff.1 found
    rcases Bindings.mem_put bound with rfl | kept
    · exact held
    · exact free other old there entry kept
  next => exact free other scope found entry bound

/-- A new environment has no variables. -/
theorem make (free : s.VoidFree) {new : ScopeId} {root : Option ScopeId}
    (made : ∀ other, t.scope? other = if other = new then some ⟨.empty, root⟩ else s.scope? other) :
    t.VoidFree := by
  intro other scope found entry bound
  rw [made] at found
  split at found
  next =>
    cases found
    cases bound
  next => exact free other scope found entry bound

theorem pop (free : s.VoidFree) : s.pop.VoidFree := by
  intro other scope found
  rw [scope?_pop] at found
  split at found
  next => cases found
  next => exact free other scope found

theorem local? (free : s.VoidFree) (found : s.local? id name = some v) : v ≠ .void := by
  obtain ⟨scope, there, bound⟩ := Option.bind_eq_some_iff.1 found
  exact free id scope there (name, v) (Bindings.mem_of_find? bound)

theorem lookup? (free : s.VoidFree) (found : s.lookup? id name = some v) : v ≠ .void := by
  unfold State.lookup? at found
  split at found
  next own =>
    cases found
    exact free.local? own
  next => exact free.local? found

end State.VoidFree

/-- Evaluation of any code, with a host that may ask anything, keeps void out of variables. -/
def refusal : Effect where
  code := .any
  permits _ := True
  legal := State.VoidFree
  changes _ _ _ := True
  refl _ _ := trivial
  trans _ _ := trivial
  widen _ := trivial
  parsed := Program.everywhere_any
  native _ _ _ := HostAction.only_of_all (fun _ => trivial) _
  scripted _ _ := Declaration.everywhere_of_all (fun _ => trivial) (fun _ => trivial) _
  handler _ _ := HostAction.only_of_all (fun _ => trivial) _
  install free _ := ⟨free, trivial⟩
  record _ free := ⟨free, trivial⟩
  assign _ _ free held := ⟨free.bind (Value.ne_void_iff.2 held), trivial⟩
  define _ _ := trivial
  execute _ _ := trivial
  handling free _ := ⟨free, fun _ free' _ => ⟨free', trivial⟩⟩
  call free _ := ⟨free, fun _ free' _ => ⟨free', trivial⟩⟩
  frame {s} id free := ⟨free.make (s.scope?_push id), fun _ free' _ => ⟨free'.pop, trivial⟩⟩
  child {s} id free := ⟨free.make (s.scope?_child id), trivial⟩
  register _ _ free := ⟨free, trivial⟩
  replace _ _ free _ := ⟨free, trivial⟩

theorem fits_refusal (work : Work) : work.Fits refusal :=
  Work.fits_of_all (fun _ => trivial) (fun _ => trivial) (work.only_of_all fun _ => trivial)

/-- However an evaluation ends, no variable comes to hold void. -/
theorem Work.run_voidFree (work : Work) (fuel : Nat) {s : State} (free : s.VoidFree) :
    (work.run fuel s).Leaves State.VoidFree :=
  (work.run_obeys (fits_refusal work) fuel s free).mono fun _ ended => ended.1

/-- No variable holds void in a state that a host can bring about. -/
theorem Reachable.voidFree {admits : Program → Prop} {s : State} (h : Reachable admits s) :
    s.VoidFree := by
  induction h with
  | initial settings => exact .initial settings
  | @ran s t fuel work before begun ended ih => exact (work.run_voidFree fuel ih).ends ended
  | @bound s t id name v span before ended ih =>
    have obeys := Run.obeys_assign (E := refusal) id name v span s ih
    exact (obeys.ends ended).1
  | @child s before id ih => exact ih.make (s.scope?_child id)
  | registered before made ih =>
    rw [State.register_eq_ok made]
    exact ih
  | handled before handler ih => exact ih
  | taken before recorded ih => exact ih

/-! ## The values of expressions -/

theorem StaticType.Has.ne_void {type : StaticType} {v : Value} (h : type.Has v)
    (known : type ≠ .dynamic) : v ≠ .void := by
  rintro rfl
  cases type with
  | number =>
    obtain ⟨x, same⟩ := h
    cases same
  | string =>
    obtain ⟨s, same⟩ := h
    cases same
  | bool =>
    obtain ⟨b, same⟩ := h
    cases same
  | dynamic => exact known rfl

theorem Literal.value_ne_void (value : Literal) : value.value ≠ .void := by
  cases value <;> exact nofun

/-- If no variable holds void, an expression that comes to it is a call. -/
theorem Expr.eval_void {serve : Server} {scope : ScopeId} {s t : State} (free : s.VoidFree)
    {e : Expr} (h : e.eval serve scope s = .value .void t) :
    ∃ name args span, e = .call name args span := by
  cases e with
  | literal value span =>
    have made : Outcome.value value.value s = .value .void t := h
    injection made with same
    exact absurd same value.value_ne_void
  | «variable» name span =>
    have read : Run.lookup scope name span s = .value .void t := h
    unfold Run.lookup at read
    split at read
    next v found =>
      cases read
      exact absurd rfl (free.lookup? found)
    next => cases read
  -- whatever the operands are, an operator has a result of a type that is not void
  | binary op left right span =>
    have known : op.staticType ≠ .dynamic := by cases op <;> exact nofun
    exact absurd rfl ((Expr.eval_has h).ne_void known)
  | unary op operand span =>
    have known : op.staticType ≠ .dynamic := by cases op <;> exact nofun
    exact absurd rfl ((Expr.eval_has h).ne_void known)
  | call name args span => exact ⟨name, args, span, rfl⟩
  | function declaration span => cases h

/-! ## The values of statements -/

theorem Flow.settle_ne_void (flow : Flow) : flow.settle ≠ .normal .void := by
  unfold settle
  split
  next => exact nofun
  next other => exact other

section

variable {serve : Server} {scope : ScopeId} {s t : State} {e : Expr}

theorem bindValue_ne_void {name : String} {span : Span} {v : Value}
    (h : bindValue serve scope name e span s = .value (.normal v) t) : v ≠ .void := by
  obtain ⟨w, u, -, rest⟩ := Run.bind_eq_value_iff.1 h
  obtain ⟨done, u', assigned, ended⟩ := Run.bind_eq_value_iff.1 rest
  cases ended
  rintro rfl
  cases assigned

/-- Nothing is bound to void, and the attempt leaves the state that the right side left. -/
theorem bindValue_of_void (right : e.eval serve scope s = .value .void t) (name : String)
    (span : Span) : bindValue serve scope name e span s =
      .failure ((Fault.voidVariable name).atSpan span) t :=
  Run.bind_value right

theorem settle_ne_void {m : Run Flow} {v : Value}
    (h : (m >>= fun flow => pure flow.settle) s = .value (.normal v) t) : v ≠ .void := by
  obtain ⟨flow, u, -, settled⟩ := Run.bind_eq_value_iff.1 h
  injection settled with same
  rintro rfl
  exact flow.settle_ne_void same

end

/-- A statement whose value is void is an expression on its own. -/
theorem Stmt.exec_void {fuel : Nat} {scope : ScopeId} {s t : State} {st : Stmt}
    (h : st.exec (serve fuel) scope s = .value (.normal .void) t) :
    ∃ e span, st = .expr e span := by
  cases st with
  | «variable» name e span => exact absurd rfl (bindValue_ne_void h)
  | assign name e span => exact absurd rfl (bindValue_ne_void h)
  | branch c thenBody elseBody span =>
    cases elseBody with
    | none =>
      obtain ⟨test, u, -, chosen⟩ := Run.bind_eq_value_iff.1 h
      cases test with
      | true => exact absurd rfl (settle_ne_void chosen)
      | false => cases chosen
    | some elseBody =>
      obtain ⟨test, u, -, chosen⟩ := Run.bind_eq_value_iff.1 h
      cases test with
      | true => exact absurd rfl (settle_ne_void chosen)
      | false => exact absurd rfl (settle_ne_void chosen)
  | loop c body span =>
    rcases serve_loop_ends h with null | ⟨v, result⟩
    · cases null
    · cases result
  | result value span =>
    cases value with
    | none => cases h
    | some e =>
      obtain ⟨v, u, -, ended⟩ := Run.bind_eq_value_iff.1 h
      cases ended
  | jump jump span => cases h
  | expr e span => exact ⟨e, span, rfl⟩

/-! ## Parameters -/

/-- If an argument is void, binding the parameters fails at one that void is meant for; until then
the frame is written and nothing else. -/
theorem bindParams_of_void (n : Nat) (span : Span) {names : List String}
    {values : List Value} (count : values.length = names.length) (void : .void ∈ values)
    (s : State) : ∃ name frames, (name, Value.void) ∈ names.zip values ∧
      bindParams (.frame n) span names values s =
        .failure ((Fault.voidVariable name).atSpan span) { s with frames := frames } ∧
      OnlyWrites (some (.frame n)) s { s with frames := frames } := by
  induction values generalizing names s with
  | nil => cases void
  | cons v values ih =>
    cases names with
    | nil => cases count
    | cons name names =>
      by_cases here : v = .void
      · subst here
        exact ⟨name, s.frames, List.mem_cons_self, rfl, .of_scope? rfl rfl⟩
      · have later : .void ∈ values := (List.mem_cons.1 void).resolve_left (Ne.symm here)
        obtain ⟨param, frames, given, failed, written⟩ :=
          ih (Nat.succ.inj count) later (s.bind (.frame n) name v)
        have assigned : Run.assign (.frame n) name v span s =
            .value () (s.bind (.frame n) name v) := by
          unfold Run.assign
          rw [Value.ne_void_iff.1 here]
          rfl
        refine ⟨param, frames, List.mem_cons_of_mem _ given, ?_,
          (OnlyWrites.bind ..).trans written⟩
        exact (Run.bind_value assigned).trans failed

/-- A declared function is not entered with void: the call fails, and the state is as before. -/
theorem callNamed_of_void {serve : Server} {s : State} {name : String} {d : Declaration}
    {values : List Value} (found : s.functions.get? name = some (.scripted d))
    (count : values.length = d.params.length) (room : s.depth < s.maxCallDepth)
    (void : .void ∈ values) (scope : ScopeId) (span : Span) :
    ∃ param, (param, Value.void) ∈ d.params.zip values ∧
      callNamed serve scope name values span s =
        .failure ((Fault.voidVariable param).atSpan span) s := by
  obtain ⟨param, frames, given, failed, written⟩ :=
    bindParams_of_void s.frames.size span count void (s.enter.push scope)
  refine ⟨param, given, ?_⟩
  -- the parameters before this one were bound in the frame, which is gone with them
  have popped : State.pop { s.enter.push scope with frames := frames } = s.enter := by
    have restored : frames.pop = s.frames := (OnlyWrites.frame (s := s.enter) written).frames_eq
    exact congrArg (fun frames => { s.enter with frames := frames }) restored
  have body : inFrame scope (fun frame => do
      bindParams frame span d.params values
      let flow ← execBody serve frame .null d.body
      Run.lift (d.outcome flow)) s.enter =
        .failure ((Fault.voidVariable param).atSpan span) s.enter := by
    refine Eq.trans (Run.between_failure ?_) (congrArg (Outcome.failure _) popped)
    exact Run.bind_failure failed
  rw [callNamed_of_scripted scope values span found, callDeclared_of_count scope span count,
    Run.counted_of_room span _ room]
  exact Run.between_failure body

/-! ## States -/

/-- Evaluation from the state yields void by calls only, and gives it to no variable. -/
structure State.ConfinesVoid (s : State) : Prop where
  /-- An expression that comes to void is a call. -/
  expr : ∀ {fuel scope} {e : Expr} {t}, e.eval (serve fuel) scope s = .value .void t →
    ∃ name args span, e = .call name args span
  /-- A statement that has the value void is an expression on its own. -/
  stmt : ∀ {fuel scope} {st : Stmt} {t}, st.exec (serve fuel) scope s = .value (.normal .void) t →
    ∃ e span, st = .expr e span
  /-- A variable is not given void: this fails in the state that the right side leaves. -/
  binding : ∀ {fuel scope} {e : Expr} {t}, e.eval (serve fuel) scope s = .value .void t →
    ∀ name span, (Stmt.variable name e span).exec (serve fuel) scope s =
        .failure ((Fault.voidVariable name).atSpan span) t ∧
      (Stmt.assign name e span).exec (serve fuel) scope s =
        .failure ((Fault.voidVariable name).atSpan span) t
  /-- Nor is a parameter: a call that passes void to a declared function with as many parameters,
  where there is room for a call, fails in the state that the arguments leave. -/
  parameter : ∀ {fuel scope args values t name d},
    evalArgs (serve (fuel + 1)) scope args s = .value values t →
    t.functions.get? name = some (.scripted d) → values.length = d.params.length →
    t.depth < t.maxCallDepth → .void ∈ values → ∀ span,
    ∃ param, (param, Value.void) ∈ d.params.zip values ∧
      (Expr.call name args span).eval (serve (fuel + 1)) scope s =
        .failure ((Fault.voidVariable param).atSpan span) t
  /-- Nor is a parameter by the host. -/
  argument : ∀ {name d values}, s.functions.get? name = some (.scripted d) →
    values.length = d.params.length → s.depth < s.maxCallDepth → .void ∈ values →
    ∀ fuel scope, ∃ param, (param, Value.void) ∈ d.params.zip values ∧
      Interpreter.callFunction fuel scope name values s =
        .failure ((Fault.voidVariable param).atSpan .zero) s

theorem State.VoidFree.confinesVoid {s : State} (free : s.VoidFree) : s.ConfinesVoid where
  expr := Expr.eval_void free
  stmt := Stmt.exec_void
  binding right name span := ⟨bindValue_of_void right name span, bindValue_of_void right name span⟩
  parameter evaluated found count room void span := by
    obtain ⟨param, given, failed⟩ := callNamed_of_void found count room void _ span
    exact ⟨param, given, (Run.bind_value evaluated).trans failed⟩
  argument found count room void fuel scope := callNamed_of_void found count room void scope .zero

/-- Void only comes out of calls and gets into no variable: in a state that a host can bring about,
and at every moment of every evaluation from it, no variable holds void, only calls come to it and
no variable is given it; and no evaluation that a run comes to begin leaves a variable with it. -/
theorem void_only_from_calls {admits : Program → Prop} {s : State}
    (reachable : Reachable admits s) :
    s.VoidFree ∧ ∀ (fuel : Nat) (work : Work) (m : Moment), Reaches ⟨fuel, work, s, 0⟩ m →
      m.state.VoidFree ∧ m.state.ConfinesVoid ∧
        (m.work.run m.fuel m.state).Leaves State.VoidFree := by
  have free := reachable.voidFree
  refine ⟨free, fun fuel work m reaches => ?_⟩
  have free' : m.state.VoidFree := (reaches.fits (fits_refusal work) free).2
  exact ⟨free', free'.confinesVoid, m.work.run_voidFree m.fuel free'⟩

/-- What a printing yields cannot be kept. -/
theorem void_only_from_calls_print : ∃ t,
    (Stmt.variable "x" (.call "print" [.literal .null .zero] .zero) .zero).exec (serve 9) State.root
        (.initial {}) = .failure ((Fault.voidVariable "x").atSpan .zero) t ∧
      t.recorded = [.line "null"] := by
  have reachable : Reachable Program.Parsed (.initial {}) := .initial {}
  have run := (void_only_from_calls reachable).2
  have start := run 9 (.expr State.root (.call "print" [.literal .null .zero] .zero)) _ .refl
  have printed : (Expr.call "print" [.literal .null .zero] .zero).eval (serve 9) State.root
      (.initial {}) = .value .void _ := rfl
  have refused := (start.2.1.binding printed "x" .zero).1
  exact ⟨_, refused, rfl⟩

end Scriptlet
