import Scriptlet.Proofs.Evaluation.Depth
import Scriptlet.Proofs.Evaluation.Mirror

/-
  Termination.
  More fuel does not change how an evaluation ends (`Work.run_stable`). Code without loops ends: its
  tree bounds what it does between two calls, and each call that is entered leaves room for one call
  fewer. So as much fuel suffices as there may be calls, and a little more for a printed line.
  Main statement: `terminates_without_loops`.
-/

namespace Scriptlet

/-! ## More fuel -/

/-- The second run goes through the states of the first one, and may go on where that gives up. -/
def unchanged : Mirror where
  effect := balance
  scopes := id
  frames := id
  limit := id
  sees _ := True
  gaps := True
  raises := Nat.le_refl
  roots _ := rfl
  kept _ := rfl
  bind _ _ _ := rfl
  next _ := rfl
  push _ _ := rfl
  pop _ := rfl
  child _ _ := rfl
  root _ _ := trivial
  frame _ := trivial
  execute _ := trivial
  define _ := trivial
  read _ := trivial
  bindings _ := trivial

theorem Outcome.Mirrored.eq {α : Type} {o o' : Outcome α} (h : o.Mirrored unchanged o')
    (ended : o ≠ .outOfFuel) : o' = o := by
  rcases h with same | ⟨-, out⟩
  · rw [same]
    cases o with
    | value a t => rfl
    | failure e t => rfl
    | outOfFuel => rfl
  · exact absurd out ended

/-- With more fuel every task is done as before, unless the fuel ran out before. -/
theorem serve_mirrors_succ (fuel : Nat) :
    Server.Mirrors unchanged (serve fuel) (serve (fuel + 1)) := by
  induction fuel with
  | zero => exact ⟨serve_obeys balance 0, fun _ _ _ _ _ => .inr ⟨trivial, rfl⟩⟩
  | succ fuel ih => exact step_mirrors ih fun _ => rfl

theorem Work.run_succ {work : Work} {fuel : Nat} {s : State}
    (ended : work.run fuel s ≠ .outOfFuel) : work.run (fuel + 1) s = work.run fuel s := by
  have seen : work.Seen unchanged := work.seen_of_all fun _ => trivial
  have mirrors := Work.runWith_mirrors (serve_mirrors_succ fuel) (fits_balance work) seen
  exact (mirrors s trivial).eq ended

/-- How an evaluation ends does not change with more fuel. -/
theorem Work.run_stable {work : Work} {fuel more : Nat} {s : State} (le : fuel ≤ more)
    (ended : work.run fuel s ≠ .outOfFuel) : work.run more s = work.run fuel s := by
  induction le with
  | refl => rfl
  | step _ ih =>
    rw [← ih] at ended
    rw [Work.run_succ ended, ih]

/-! ## Code without loops -/

/-- No statement is a loop. -/
def loopless : Condition where
  expr _ := True
  stmt
    | .loop _ _ _ => False
    | _ => True

/-- The request does not lead back to the evaluation of code. -/
def HostRequest.Inert : HostRequest → Prop
  | .call _ _ _ | .execute _ _ => False
  | _ => True

/-- No declared function has a loop, and neither functions of the host nor the print handler lead
back to the evaluation of code. -/
structure State.Loopless (s : State) : Prop where
  scripted : ∀ {name d}, s.functions.get? name = some (.scripted d) → d.Everywhere loopless
  host : s.AsksOnly HostRequest.Inert

namespace State

theorem Loopless.of_same {s t : State} (h : s.Loopless) (functions : t.functions = s.functions)
    (handler : t.handler = s.handler) : t.Loopless := by
  refine ⟨?_, h.host.of_same functions handler⟩
  rw [functions]
  exact h.scripted

theorem Loopless.install {s : State} (h : s.Loopless) {d : Declaration}
    (code : d.Everywhere loopless) : (s.install d.name (.scripted d)).Loopless := by
  refine ⟨fun {other f} found => ?_, h.host.install d.name d⟩
  rcases get?_of_install found with same | old
  · cases same
    exact code
  · exact h.scripted old

theorem Loopless.register {s : State} (h : s.Loopless) {f : HostFunction}
    (own : ∀ args, (f.invoke args).Only HostRequest.Inert) :
    (s.install f.name (.native f)).Loopless := by
  refine ⟨fun {other d} found => ?_, h.host.register own⟩
  rcases get?_of_install found with same | old
  · cases same
  · exact h.scripted old

theorem loopless_initial (settings : Settings) : (initial settings).Loopless := by
  refine ⟨fun {name d} found => ?_, asksOnly_initial settings (fun _ => trivial) fun _ => trivial⟩
  cases eq_print_of_initial found

/-- How many tasks may still come to be nested: the calls that there is room for, and the handling
of a printed line. -/
def room (s : State) : Nat :=
  s.maxCallDepth - s.depth + if s.handling then 0 else 1

theorem room_enter {s : State} (free : s.depth < s.maxCallDepth) : s.enter.room + 1 = s.room := by
  show s.maxCallDepth - (s.depth + 1) + (if s.handling then 0 else 1) + 1 =
    s.maxCallDepth - s.depth + if s.handling then 0 else 1
  omega

/-- While a line is handled no other one is, which takes the room of one task. -/
theorem room_handling {s : State} (free : s.handling = false) :
    (s.withHandling true).room + 1 = s.room := by
  unfold room
  rw [free]
  rfl

end State

/-- Both states leave the same room. -/
structure SameRoom (s t : State) : Prop where
  depth : t.depth = s.depth
  maxCallDepth : t.maxCallDepth = s.maxCallDepth
  handling : t.handling = s.handling

namespace SameRoom

theorem refl (s : State) : SameRoom s s :=
  ⟨rfl, rfl, rfl⟩

theorem trans {s t u : State} (first : SameRoom s t) (next : SameRoom t u) : SameRoom s u where
  depth := next.depth.trans first.depth
  maxCallDepth := next.maxCallDepth.trans first.maxCallDepth
  handling := next.handling.trans first.handling

theorem room {s t : State} (h : SameRoom s t) : t.room = s.room := by
  unfold State.room
  rw [h.depth, h.maxCallDepth, h.handling]

end SameRoom

/-- From a state with such functions and so much room the computation ends, in a state with such
functions and the same room. -/
def Run.Halts {α : Type} (n : Nat) (m : Run α) : Prop :=
  ∀ s : State, s.Loopless → s.room < n → ∃ t, (m s).Ends t ∧ t.Loopless ∧ SameRoom s t

namespace Run

variable {n : Nat} {α β : Type} {m : Run α} {f : α → Run β}

theorem Halts.le {k : Nat} (h : Halts n m) (le : k ≤ n) : Halts k m :=
  fun s loopless room => h s loopless (Nat.lt_of_lt_of_le room le)

/-- A computation that ends where it began. -/
theorem halts_still (h : ∀ s, (m s).Ends s) : Halts n m :=
  fun s loopless _ => ⟨s, h s, loopless, .refl s⟩

theorem halts_pure (a : α) : Halts n (Pure.pure a : Run α) :=
  halts_still fun _ => rfl

theorem halts_fail (e : Failure) : Halts n (Run.fail e : Run α) :=
  halts_still fun _ => rfl

theorem halts_lift (r : Except Failure α) : Halts n (Run.lift r) := by
  refine halts_still fun s => ?_
  cases r with
  | ok a => exact rfl
  | error e => exact rfl

theorem halts_lookup (id : ScopeId) (name : String) (span : Span) :
    Halts n (Run.lookup id name span) := by
  refine halts_still fun s => ?_
  unfold Run.lookup
  split <;> exact rfl

/-- A change that leaves functions, handlers and room alone. -/
theorem halts_modify {g : State → State} (loopless : ∀ s : State, s.Loopless → (g s).Loopless)
    (room : ∀ s, SameRoom s (g s)) : Halts n (Run.modify g) :=
  fun s h _ => ⟨g s, rfl, loopless s h, room s⟩

theorem halts_bind (first : Halts n m) (next : ∀ a, Halts n (f a)) : Halts n (m >>= f) := by
  intro s loopless room
  obtain ⟨t, ended, loopless', same⟩ := first s loopless room
  rw [bind_eq]
  cases made : m s with
  | value a u =>
    rw [made] at ended
    cases ended
    have room' : t.room < n := by rw [same.room]; exact room
    obtain ⟨v, ended', loopless'', same'⟩ := next a t loopless' room'
    exact ⟨v, ended', loopless'', same.trans same'⟩
  | failure e u =>
    rw [made] at ended
    exact ⟨t, ended, loopless', same⟩
  | outOfFuel =>
    rw [made] at ended
    exact ended.elim

theorem ends_attempt {s t : State} (h : (m s).Ends t) : (Run.attempt m s).Ends t := by
  unfold attempt
  cases made : m s with
  | outOfFuel =>
    rw [made] at h
    exact h.elim
  | _ =>
    rw [made] at h
    exact h

theorem ends_orSpan {s t : State} (span : Span) (h : (m s).Ends t) : (m.orSpan span s).Ends t := by
  unfold orSpan
  cases made : m s with
  | outOfFuel =>
    rw [made] at h
    exact h.elim
  | _ =>
    rw [made] at h
    exact h

theorem ends_between {before after : State → State} {s t : State} (h : (m (before s)).Ends t) :
    (m.between before after s).Ends (after t) := by
  unfold between
  cases made : m (before s) with
  | outOfFuel =>
    rw [made] at h
    exact h.elim
  | _ =>
    rw [made] at h
    exact congrArg after h

theorem halts_attempt (h : Halts n m) : Halts n (Run.attempt m) := by
  intro s loopless room
  obtain ⟨t, ended, rest⟩ := h s loopless room
  exact ⟨t, ends_attempt ended, rest⟩

theorem halts_orSpan (span : Span) (h : Halts n m) : Halts n (m.orSpan span) := by
  intro s loopless room
  obtain ⟨t, ended, rest⟩ := h s loopless room
  exact ⟨t, ends_orSpan span ended, rest⟩

theorem halts_assign (id : ScopeId) (name : String) (v : Value) (span : Span) :
    Halts n (Run.assign id name v span) := by
  unfold Run.assign
  split
  · exact halts_fail _
  · exact halts_modify (fun s h => h.of_same rfl rfl) fun s => ⟨rfl, rfl, rfl⟩

theorem halts_register (id : ScopeId) {f : HostFunction}
    (own : ∀ args, (f.invoke args).Only HostRequest.Inert) : Halts n (Run.register id f) := by
  intro s loopless _
  unfold Run.register
  split
  next t made =>
    rw [State.register_eq_ok made]
    exact ⟨_, rfl, loopless.register own, rfl, rfl, rfl⟩
  next => exact ⟨s, rfl, loopless, .refl s⟩

theorem halts_bindParams (id : ScopeId) (span : Span) : ∀ (names : List String)
    (values : List Value), Halts n (bindParams id span names values)
  | name :: names, v :: values =>
    halts_bind (halts_assign id name v span) fun _ => halts_bindParams id span names values
  | [], [] => halts_pure ()
  | [], _ :: _ => halts_pure ()
  | _ :: _, [] => halts_pure ()

theorem halts_inFrame (scope : ScopeId) {m : ScopeId → Run α} (h : ∀ frame, Halts n (m frame)) :
    Halts n (inFrame scope m) := by
  intro s loopless room
  have pushed : SameRoom s (s.push scope) := ⟨rfl, rfl, rfl⟩
  obtain ⟨t, ended, loopless', same⟩ :=
    h s.nextFrame (s.push scope) (loopless.of_same rfl rfl) (pushed.room ▸ room)
  have popped : SameRoom t t.pop := ⟨rfl, rfl, rfl⟩
  exact ⟨t.pop, ends_between ended, loopless'.of_same rfl rfl, (pushed.trans same).trans popped⟩

/-- A counted call leaves room for one call fewer. -/
theorem halts_counted (span : Span) (h : Halts n m) : Halts (n + 1) (Run.counted span m) := by
  intro s loopless room
  unfold counted
  split
  next full => exact ⟨s, rfl, loopless, .refl s⟩
  next free =>
    have fewer := State.room_enter (Nat.lt_of_not_le free)
    obtain ⟨t, ended, loopless', same⟩ := h s.enter (loopless.of_same rfl rfl) (by omega)
    have depth : t.leave.depth = s.depth := by
      show t.depth - 1 = s.depth
      rw [same.depth]
      rfl
    exact ⟨t.leave, ends_between ended, loopless'.of_same rfl rfl,
      depth, same.maxCallDepth, same.handling⟩

end Run

open Run

/-- With the given room the server ends every call, and with room for one more task every action
that does not lead back to the evaluation of code. -/
structure Server.Halts (n : Nat) (serve : Server) : Prop where
  call : ∀ scope name args span, Run.Halts n (serve (.call scope name args span))
  act : ∀ {k} action, k < n → action.Only HostRequest.Inert → Run.Halts k (serve (.act action))

/-! ## Expressions and statements -/

mutual

theorem Expr.eval_halts {n : Nat} {serve : Server} (served : Server.Halts n serve)
    (scope : ScopeId) : ∀ e : Expr, e.Everywhere loopless → Halts n (e.eval serve scope)
  | .literal _ _, _ => halts_pure _
  | .variable name span, _ => halts_lookup scope name span
  | .binary _ left right _, h =>
    halts_bind (left.eval_halts served scope h.2.1) fun _ => halts_bind (halts_lift _) fun
      | some v => halts_pure v
      | none => halts_bind (right.eval_halts served scope h.2.2) fun _ => halts_lift _
  | .unary _ operand _, h =>
    halts_bind (operand.eval_halts served scope h.2) fun _ => halts_lift _
  | .call name args span, h =>
    halts_bind (evalArgs_halts served scope args h.2) fun values =>
      served.call scope name values span
  | .function _ _, h =>
    halts_bind (halts_modify (fun _ loopless => loopless.install h.2) fun _ => ⟨rfl, rfl, rfl⟩)
      fun _ => halts_pure Value.null

theorem evalArgs_halts {n : Nat} {serve : Server} (served : Server.Halts n serve)
    (scope : ScopeId) :
    ∀ args : List Expr, argsEverywhere loopless args → Halts n (evalArgs serve scope args)
  | [], _ => halts_pure []
  | e :: rest, h =>
    halts_bind (e.eval_halts served scope h.1) fun v =>
      halts_bind (evalArgs_halts served scope rest h.2) fun values => halts_pure (v :: values)

end

section

variable {n : Nat} {serve : Server} (served : Server.Halts n serve) (scope : ScopeId)
include served

theorem bindValue_halts (name : String) {value : Expr} (span : Span)
    (h : value.Everywhere loopless) : Halts n (bindValue serve scope name value span) :=
  halts_bind (value.eval_halts served scope h) fun v =>
    halts_bind (halts_assign scope name v span) fun _ => halts_pure _

theorem holds_halts {condition : Expr} (h : condition.Everywhere loopless) :
    Halts n (holds serve scope condition) :=
  halts_bind (condition.eval_halts served scope h) fun _ => halts_lift _

end

mutual

theorem Stmt.exec_halts {n : Nat} {serve : Server} (served : Server.Halts n serve)
    (scope : ScopeId) : ∀ s : Stmt, s.Everywhere loopless → Halts n (s.exec serve scope)
  | .variable name _ span, h => bindValue_halts served scope name span h.2
  | .assign name _ span, h => bindValue_halts served scope name span h.2
  | .branch _ thenBody none _, h =>
    halts_bind (holds_halts served scope h.2.1) fun
      | true => halts_bind (execBody_halts served scope thenBody h.2.2 .null) fun _ => halts_pure _
      | false => halts_pure _
  | .branch _ thenBody (some elseBody) _, h =>
    halts_bind (holds_halts served scope h.2.1) fun
      | true => halts_bind (execBody_halts served scope thenBody h.2.2.1 .null) fun _ =>
        halts_pure _
      | false => halts_bind (execBody_halts served scope elseBody h.2.2.2 .null) fun _ =>
        halts_pure _
  | .loop _ _ _, h => h.1.elim
  | .result none _, _ => halts_pure _
  | .result (some value) _, h =>
    halts_bind (value.eval_halts served scope h.2) fun _ => halts_pure _
  | .jump _ _, _ => halts_pure _
  | .expr value _, h => halts_bind (value.eval_halts served scope h.2) fun _ => halts_pure _

theorem execBody_halts {n : Nat} {serve : Server} (served : Server.Halts n serve)
    (scope : ScopeId) : ∀ body : List Stmt, bodyEverywhere loopless body → ∀ last : Value,
    Halts n (execBody serve scope last body)
  | [], _, _ => halts_pure _
  | s :: rest, h, _ =>
    halts_bind (s.exec_halts served scope h.1) fun
      | .normal v => execBody_halts served scope rest h.2 v
      | .result _ => halts_pure _
      | .jump _ => halts_pure _

end

section

variable {n : Nat} {serve : Server} (served : Server.Halts n serve)
include served

/-! ## Actions, calls and programs -/

theorem deliver_halts (line : String) : Halts n (deliver serve line) := by
  intro s loopless room
  unfold deliver
  split
  next => exact ⟨s, rfl, loopless, .refl s⟩
  next free =>
    have free' : s.handling = false := Bool.eq_false_iff.2 free
    -- in the handler a line that is printed is refused, which makes up for the task of handling
    have fewer := State.room_handling free'
    have handled := halts_bind (halts_attempt (served.act (s.handler line) room
      (loopless.host.handler line))) fun _ => halts_pure (n := s.room) Value.void
    obtain ⟨t, ended, loopless', same⟩ :=
      handled (s.withHandling true) (loopless.of_same rfl rfl) (by omega)
    exact ⟨t.withHandling false, ends_between ended, loopless'.of_same rfl rfl,
      same.depth, same.maxCallDepth, free'.symm⟩

theorem respond_halts {request : HostRequest} {code : request.Given → HostAction}
    (inert : request.Inert) (coded : ∀ given, (code given).Only HostRequest.Inert) :
    Halts n (respond serve request code) := by
  cases request with
  | record entry =>
    exact halts_bind (halts_modify (fun s h => h.of_same rfl rfl) fun s => ⟨rfl, rfl, rfl⟩)
      fun _ => halts_pure _
  | print line => exact halts_attempt (deliver_halts served line)
  | call id name args => exact inert.elim
  | execute id source => exact inert.elim
  | define id name v =>
    exact halts_attempt (halts_bind (halts_assign id name v .zero) fun _ => halts_pure _)
  | read id name span => exact halts_attempt (halts_lookup id name span)
  | bindings id => exact halts_still fun _ => rfl
  | functions => exact halts_still fun _ => rfl
  | child id => exact fun s loopless _ => ⟨_, rfl, loopless.of_same rfl rfl, rfl, rfl, rfl⟩
  | register id name slots =>
    have own := HostFunction.only_invoke (f := ⟨name, slots, code⟩) coded
    exact halts_attempt (halts_bind (halts_register id own) fun _ => halts_pure _)
  | onPrint =>
    intro s loopless _
    unfold respond
    dsimp only
    split
    next => exact ⟨s, rfl, loopless, .refl s⟩
    next => exact ⟨_, rfl, ⟨loopless.scripted, loopless.host.native, coded⟩, rfl, rfl, rfl⟩

theorem perform_halts (action : HostAction) (only : action.Only HostRequest.Inert) :
    Halts n (perform serve action) := by
  induction action with
  | done result => exact halts_lift result
  | ask request code resume _ ih =>
    exact halts_bind (respond_halts served only.1 only.2.1) fun answer =>
      ih answer (only.2.2 answer)

theorem callDeclared_halts (scope : ScopeId) {d : Declaration} (h : d.Everywhere loopless)
    (args : List Value) (span : Span) : Halts (n + 1) (callDeclared serve scope d args span) := by
  unfold callDeclared
  split
  · refine halts_counted span (halts_inFrame scope fun frame => ?_)
    refine halts_bind (halts_bindParams frame span d.params args) fun _ => ?_
    exact halts_bind (execBody_halts served frame d.body h.body .null) fun _ => halts_lift _
  · exact halts_fail _

theorem callNamed_halts (scope : ScopeId) (name : String) (args : List Value) (span : Span) :
    Halts (n + 1) (callNamed serve scope name args span) := by
  intro s loopless room
  unfold callNamed
  split
  next f found =>
    have performed := perform_halts served (f.invoke args) (loopless.host.native found args)
    exact halts_counted span (halts_orSpan span performed) s loopless room
  next d found =>
    exact callDeclared_halts served scope (loopless.scripted found) args span s loopless room
  next =>
    unfold callLibrary
    split
    · exact ⟨s, rfl, loopless, .refl s⟩
    · exact halts_lift (n := n + 1) _ s loopless room

theorem runProgram_halts (scope : ScopeId) {p : Program}
    (h : bodyEverywhere loopless p.statements) : Halts n (runProgram serve scope p) :=
  halts_bind (execBody_halts served scope p.statements h .null) fun _ => halts_lift _

theorem step_halts : Server.Halts (n + 1) (step serve) where
  call scope name args span := callNamed_halts served scope name args span
  act action lt only := (perform_halts served action only).le (Nat.le_of_lt_succ lt)

end

/-! ## All tasks -/

/-- With fuel for as many tasks as there is room for, calls and actions end. -/
theorem serve_halts (fuel : Nat) : Server.Halts fuel (serve fuel) := by
  induction fuel with
  | zero => exact ⟨fun _ _ _ _ _ _ room => absurd room (Nat.not_lt_zero _),
      fun _ lt => absurd lt (Nat.not_lt_zero _)⟩
  | succ fuel ih => exact step_halts ih

/-- Without loops every program terminates: if neither the program nor a declared function has a
loop, and functions of the host do not lead back to the evaluation of code, then the program ends
with a value or a failure, and in the same way with all fuel that exceeds the room for calls and a
printed line. -/
theorem terminates_without_loops {s : State} (functions : s.Loopless) {p : Program}
    (code : bodyEverywhere loopless p.statements) (scope : ScopeId) :
    ∃ o t, o.Ends t ∧ ∀ fuel, s.maxCallDepth - s.depth + 1 < fuel →
      Interpreter.executeProgram fuel scope p s = o := by
  have room : s.room ≤ s.maxCallDepth - s.depth + 1 := by
    unfold State.room
    split <;> omega
  let least := s.maxCallDepth - s.depth + 2
  obtain ⟨t, ended, -⟩ := runProgram_halts (serve_halts least) scope code s functions (by omega)
  refine ⟨Interpreter.executeProgram least scope p s, t, ended, fun fuel enough => ?_⟩
  have finished : (Work.program scope p).run least s ≠ .outOfFuel := by
    intro out
    have ended' : ((Work.program scope p).run least s).Ends t := ended
    rw [out] at ended'
    exact ended'
  exact Work.run_stable enough finished

/-- A function that calls itself without end is stopped by the limit. -/
theorem terminates_without_loops_runaway :
    ∃ t, ∀ fuel, 4 < fuel → Interpreter.executeProgram fuel State.root ⟨[
        .expr (.function ⟨"f", [], [.expr (.call "f" [] .zero) .zero], false, .zero⟩ .zero) .zero,
        .expr (.call "f" [] .zero) .zero]⟩ (.initial { maxCallDepth := 3 }) =
      .failure ((Fault.callDepth 3).atSpan .zero) t := by
  have functions := State.loopless_initial { maxCallDepth := 3 }
  have body : bodyEverywhere loopless [.expr (.call "f" [] .zero) .zero] :=
    ⟨⟨trivial, trivial, trivial⟩, trivial⟩
  obtain ⟨o, -, -, same⟩ := terminates_without_loops functions (p := ⟨[
      .expr (.function ⟨"f", [], [.expr (.call "f" [] .zero) .zero], false, .zero⟩ .zero) .zero,
      .expr (.call "f" [] .zero) .zero]⟩) ⟨⟨trivial, trivial, body⟩, body⟩ State.root
  have stopped : o = .failure ((Fault.callDepth 3).atSpan .zero) _ := (same 5 (by decide)).symm
  exact ⟨_, fun fuel enough => (same fuel enough).trans stopped⟩

end Scriptlet
