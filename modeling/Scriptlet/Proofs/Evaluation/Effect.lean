import Scriptlet.Interpreter
import Scriptlet.Proofs.Grammar.Everywhere

/-
  What an evaluation may do to the state.
  An effect says which states are legal, how a computation that may write one environment, or none,
  may change a legal state, what code satisfies and what the host may ask; it comes with one law for
  each operation on states. Main statement: evaluation keeps to every effect (`serve_obeys`), by
  induction on trees, on the actions of the host and on the fuel. Invariants of states and frame
  conditions are effects; no later proof opens the evaluator for one.
-/

namespace Scriptlet

/-- A source that is read with a diagnostic at worst is one that is parsed. -/
theorem Program.ofSource_ok_iff {source : String} {p : Program} :
    ofSource source = .ok p ↔ parse source = .ok p := by
  unfold ofSource
  cases parse source with
  | error fault => exact ⟨fun made => (by cases made), fun made => (by cases made)⟩
  | ok q =>
    show Except.ok q = Except.ok p ↔ _
    rw [Except.ok.injEq, Except.ok.injEq]

/-- Wherever a computation ends, with a value or a failure, the state is as told. -/
def Outcome.Leaves {α : Type} (P : State → Prop) : Outcome α → Prop
  | .value _ t => P t
  | .failure _ t => P t
  | .outOfFuel => True

theorem Outcome.Leaves.mono {α : Type} {P Q : State → Prop} {o : Outcome α} (h : o.Leaves P)
    (le : ∀ t, P t → Q t) : o.Leaves Q := by
  cases o with
  | value a t => exact le t h
  | failure e t => exact le t h
  | outOfFuel => exact trivial

theorem Outcome.Leaves.and {α : Type} {P Q : State → Prop} {o : Outcome α} (h : o.Leaves P)
    (h' : o.Leaves Q) : o.Leaves fun t => P t ∧ Q t := by
  cases o with
  | value a t => exact ⟨h, h'⟩
  | failure e t => exact ⟨h, h'⟩
  | outOfFuel => exact trivial

/-- The computation ends, with a value or a failure, in the given state. -/
def Outcome.Ends {α : Type} (t : State) : Outcome α → Prop
  | .value _ u => u = t
  | .failure _ u => u = t
  | .outOfFuel => False

theorem Outcome.Leaves.ends {α : Type} {P : State → Prop} {o : Outcome α} {t : State}
    (h : o.Leaves P) (ended : o.Ends t) : P t := by
  cases o with
  | value a u =>
    cases ended
    exact h
  | failure e u =>
    cases ended
    exact h
  | outOfFuel => exact ended.elim

/-- Everything that an action may come to ask is permitted, and so is what the code asks that comes
with it. -/
def HostAction.Only (permits : HostRequest → Prop) : HostAction → Prop
  | .done _ => True
  | .ask request code resume => permits request ∧ (∀ given, (code given).Only permits) ∧
    ∀ answer, (resume answer).Only permits

theorem HostAction.only_of_all {permits : HostRequest → Prop} (all : ∀ request, permits request)
    (a : HostAction) : a.Only permits := by
  induction a with
  | done result => exact trivial
  | ask request code resume coded resumed => exact ⟨all request, coded, resumed⟩

/-- What asks for less asks for nothing else. -/
theorem HostAction.Only.mono {permits permits' : HostRequest → Prop}
    (le : ∀ request, permits request → permits' request) {a : HostAction} (only : a.Only permits) :
    a.Only permits' := by
  induction a with
  | done result => exact trivial
  | ask request code resume coded ih =>
    exact ⟨le request only.1, fun given => coded given (only.2.1 given),
      fun answer => ih answer (only.2.2 answer)⟩

/-- The request is not one to register a function. -/
def HostRequest.LeavesTable : HostRequest → Prop
  | .register _ _ _ => False
  | _ => True

theorem HostFunction.only_invoke {permits : HostRequest → Prop} {f : HostFunction}
    (only : ∀ args, (f.body args).Only permits) (args : List Value) :
    (f.invoke args).Only permits := by
  unfold invoke
  split
  · split
    · exact only args
    · exact trivial
  · exact only args

/-- The functions of the host and the print handler ask only what is permitted. -/
structure State.AsksOnly (permits : HostRequest → Prop) (s : State) : Prop where
  native : ∀ {name f}, s.functions.get? name = some (.native f) →
    ∀ args, (f.invoke args).Only permits
  handler : ∀ line, (s.handler line).Only permits

namespace State

variable {permits : HostRequest → Prop} {s t : State}

theorem AsksOnly.of_same (asks : s.AsksOnly permits) (functions : t.functions = s.functions)
    (handler : t.handler = s.handler) : t.AsksOnly permits := by
  refine ⟨?_, ?_⟩
  · rw [functions]
    exact asks.native
  · rw [handler]
    exact asks.handler

theorem get?_install (s : State) (name other : String) (callable : Callable) :
    (s.install name callable).functions.get? other =
      if name = other then some callable else s.functions.get? other :=
  Bindings.get?_insert _ _ _ _

/-- A function that is in the table after one was installed is that one, or was there before. -/
theorem get?_of_install {name other : String} {callable callable' : Callable}
    (found : (s.install name callable).functions.get? other = some callable') :
    callable' = callable ∨ s.functions.get? other = some callable' := by
  rw [get?_install] at found
  split at found
  next => exact .inl (Option.some.inj found).symm
  next => exact .inr found

/-- Declaring a function does not change what the host may ask. -/
theorem AsksOnly.install (asks : s.AsksOnly permits) (name : String) (d : Declaration) :
    (s.install name (.scripted d)).AsksOnly permits := by
  refine ⟨fun {other f} found => ?_, asks.handler⟩
  rcases get?_of_install found with same | old
  · cases same
  · exact asks.native old

/-- Nor does registering a function that asks only the same. -/
theorem AsksOnly.register (asks : s.AsksOnly permits) {f : HostFunction}
    (own : ∀ args, (f.invoke args).Only permits) :
    (s.install f.name (.native f)).AsksOnly permits := by
  refine ⟨fun {name g} found => ?_, asks.handler⟩
  rcases get?_of_install found with same | old
  · cases same
    exact own
  · exact asks.native old

theorem register_eq_ok {id : ScopeId} {f : HostFunction} (h : s.register id f = .ok t) :
    t = s.install f.name (.native f) := by
  unfold State.register at h
  split at h
  next => exact (Except.ok.inj h).symm
  next => cases h

/-- At first there is only `print` in the table. -/
theorem eq_print_of_initial {settings : Settings} {name : String} {callable : Callable}
    (found : (initial settings).functions.get? name = some callable) :
    callable = .native .print := by
  have installed : (Bindings.empty.insert "print" (Callable.native .print)).get? name =
      some callable := found
  rw [Bindings.get?_insert] at installed
  split at installed
  next => exact (Option.some.inj installed).symm
  next => cases installed

/-- At first the host only prints, and records what is printed. -/
theorem asksOnly_initial (settings : Settings) (record : ∀ entry, permits (.record entry))
    (print : ∀ line, permits (.print line)) : (initial settings).AsksOnly permits := by
  refine ⟨fun {name f} found args => ?_, fun line => ⟨record _, nofun, fun _ => trivial⟩⟩
  cases eq_print_of_initial found
  exact ⟨print _, nofun, fun _ => trivial⟩

end State

/-- A discipline of evaluation. -/
structure Effect where
  /-- What each node of code is like. -/
  code : Condition
  /-- What functions of the host and the print handler may ask. -/
  permits : HostRequest → Prop
  /-- The states that evaluation begins and ends in. -/
  legal : State → Prop
  /-- How a computation that may write the given environment may change the state. -/
  changes : Option ScopeId → State → State → Prop
  refl : ∀ w s, changes w s s
  trans : ∀ {w s t u}, changes w s t → changes w t u → changes w s u
  widen : ∀ {id s t}, changes none s t → changes (some id) s t
  parsed : ∀ {source p}, Program.parse source = .ok p → bodyEverywhere code p.statements
  native : ∀ {s name f}, legal s → s.functions.get? name = some (.native f) →
    ∀ args, (f.invoke args).Only permits
  scripted : ∀ {s name d}, legal s → s.functions.get? name = some (.scripted d) → d.Everywhere code
  handler : ∀ {s}, legal s → ∀ line, (s.handler line).Only permits
  install : ∀ {s} {d : Declaration} {span}, legal s → (Expr.function d span).Everywhere code →
    legal (s.install d.name (.scripted d)) ∧ changes none s (s.install d.name (.scripted d))
  record : ∀ {s} entry, legal s → legal (s.record entry) ∧ changes none s (s.record entry)
  assign : ∀ {s v} id name, legal s → v.isVoid = false →
    legal (s.bind id name v) ∧ changes (some id) s (s.bind id name v)
  define : ∀ {s t id name v}, permits (.define id name v) → changes (some id) s t → changes none s t
  execute : ∀ {s t id source}, permits (.execute id source) → changes (some id) s t →
    changes none s t
  handling : ∀ {s}, legal s → s.handling = false → legal (s.withHandling true) ∧
    ∀ t, legal t → changes none (s.withHandling true) t →
      legal (t.withHandling false) ∧ changes none s (t.withHandling false)
  call : ∀ {s}, legal s → s.depth < s.maxCallDepth → legal s.enter ∧
    ∀ t, legal t → changes none s.enter t → legal t.leave ∧ changes none s t.leave
  frame : ∀ {s} id, legal s → legal (s.push id) ∧
    ∀ t, legal t → changes (some s.nextFrame) (s.push id) t →
      legal t.pop ∧ changes none s t.pop
  child : ∀ {s} id, legal s → legal (s.child id).1 ∧ changes none s (s.child id).1
  register : ∀ {s id} {f : HostFunction}, permits (.register id f.name f.slots) →
    (∀ args, (f.invoke args).Only permits) → legal s →
      legal (s.install f.name (.native f)) ∧ changes none s (s.install f.name (.native f))
  replace : ∀ {s handler}, permits .onPrint → (∀ line, (handler line).Only permits) → legal s →
    s.handling = false → legal (s.withHandler handler) ∧ changes none s (s.withHandler handler)

/-- From a legal state the computation ends in a legal one, and changes it as the effect allows. -/
def Run.Obeys {α : Type} (E : Effect) (w : Option ScopeId) (m : Run α) : Prop :=
  ∀ s, E.legal s → (m s).Leaves fun t => E.legal t ∧ E.changes w s t

namespace Run

variable {E : Effect} {w : Option ScopeId} {α β : Type} {m : Run α} {f : α → Run β} {s t : State}

/-! ## Computations in a row -/

theorem bind_eq (m : Run α) (f : α → Run β) (s : State) :
    (m >>= f) s = match m s with
      | .value a t => f a t
      | .failure e t => .failure e t
      | .outOfFuel => .outOfFuel := rfl

theorem bind_value {a : α} (h : m s = .value a t) : (m >>= f) s = f a t := by
  rw [bind_eq, h]

theorem bind_failure {e : Failure} (h : m s = .failure e t) : (m >>= f) s = .failure e t := by
  rw [bind_eq, h]

theorem bind_outOfFuel (h : m s = .outOfFuel) : (m >>= f) s = .outOfFuel := by
  rw [bind_eq, h]

/-- What follows depends only on how the first part ends. -/
theorem bind_of_same {n : Run α} (h : m s = n t) : (m >>= f) s = (n >>= f) t := by
  rw [bind_eq, bind_eq, h]

/-- A computation in a row ends with a value exactly if each part does. -/
theorem bind_eq_value_iff {b : β} : (m >>= f) s = .value b t ↔
    ∃ a u, m s = .value a u ∧ f a u = .value b t := by
  rw [bind_eq]
  constructor
  · intro made
    cases first : m s with
    | value a u =>
      rw [first] at made
      exact ⟨a, u, rfl, made⟩
    | failure e u =>
      rw [first] at made
      cases made
    | outOfFuel =>
      rw [first] at made
      cases made
  · rintro ⟨a, u, first, then_⟩
    rw [first]
    exact then_

theorem lift_eq_value {r : Except Failure α} {a : α}
    (h : Run.lift r s = .value a t) : r = .ok a ∧ t = s := by
  cases r with
  | error e => cases h
  | ok b =>
    cases h
    exact ⟨rfl, rfl⟩

theorem obeys_ends (E : Effect) (w : Option ScopeId) {o : State → Outcome α}
    (h : ∀ s, (o s).Leaves (· = s)) : Obeys E w o := by
  intro s legal
  refine (h s).mono fun t same => ?_
  rw [same]
  exact ⟨legal, E.refl w s⟩

theorem obeys_pure (a : α) : Obeys E w (Pure.pure a : Run α) :=
  obeys_ends E w fun _ => rfl

theorem obeys_fail (e : Failure) : Obeys E w (Run.fail e : Run α) :=
  obeys_ends E w fun _ => rfl

theorem obeys_lift (r : Except Failure α) : Obeys E w (Run.lift r) :=
  obeys_ends E w fun s => by cases r <;> exact rfl

theorem leaves_lookup (id : ScopeId) (name : String) (span : Span) (s : State) :
    (Run.lookup id name span s).Leaves (· = s) := by
  unfold Run.lookup
  split <;> exact rfl

theorem obeys_lookup (id : ScopeId) (name : String) (span : Span) :
    Obeys E w (Run.lookup id name span) :=
  obeys_ends E w (leaves_lookup id name span)

theorem obeys_bind (first : Obeys E w m) (then_ : ∀ a, Obeys E w (f a)) :
    Obeys E w (m >>= f) := by
  intro s legal
  have ended := first s legal
  rw [bind_eq]
  cases made : m s with
  | value a t =>
    rw [made] at ended
    exact (then_ a t ended.1).mono fun u h => ⟨h.1, E.trans ended.2 h.2⟩
  | failure e t =>
    rw [made] at ended
    exact ended
  | outOfFuel => exact trivial

theorem obeys_widen {id : ScopeId} (h : Obeys E none m) : Obeys E (some id) m :=
  fun s legal => (h s legal).mono fun _ ended => ⟨ended.1, E.widen ended.2⟩

theorem obeys_attempt (h : Obeys E w m) : Obeys E w (Run.attempt m) := by
  intro s legal
  have ended := h s legal
  unfold attempt
  cases made : m s with
  | value a t =>
    rw [made] at ended
    exact ended
  | failure e t =>
    rw [made] at ended
    exact ended
  | outOfFuel => exact trivial

theorem obeys_orSpan (span : Span) (h : Obeys E w m) : Obeys E w (m.orSpan span) := by
  intro s legal
  have ended := h s legal
  unfold orSpan
  cases made : m s with
  | value a t =>
    rw [made] at ended
    exact ended
  | failure e t =>
    rw [made] at ended
    exact ended
  | outOfFuel => exact trivial

/-- What is done before and after a computation is done however it ends. -/
theorem leaves_between {before after : State → State} {P : State → Prop}
    (h : (m (before s)).Leaves fun t => P (after t)) : (m.between before after s).Leaves P := by
  unfold between
  cases made : m (before s) with
  | value a t =>
    rw [made] at h
    exact h
  | failure e t =>
    rw [made] at h
    exact h
  | outOfFuel => exact trivial

theorem between_eq_value {before after : State → State} {a : α}
    (h : m.between before after s = .value a t) : ∃ u, m (before s) = .value a u ∧ t = after u := by
  unfold between at h
  cases made : m (before s) with
  | value b u =>
    rw [made] at h
    cases h
    exact ⟨u, rfl, rfl⟩
  | failure e u =>
    rw [made] at h
    cases h
  | outOfFuel =>
    rw [made] at h
    cases h

theorem between_value {before after : State → State} {a : α}
    (h : m (before s) = .value a t) : m.between before after s = .value a (after t) := by
  unfold between
  rw [h]

theorem between_failure {before after : State → State} {e : Failure}
    (h : m (before s) = .failure e t) : m.between before after s = .failure e (after t) := by
  unfold between
  rw [h]

/-- What a computation in a new environment yields, it yields in that one. -/
theorem inFrame_eq_value {scope : ScopeId} {m : ScopeId → Run α} {a : α}
    (h : inFrame scope m s = .value a t) :
    ∃ u, m s.nextFrame (s.push scope) = .value a u ∧ t = u.pop :=
  between_eq_value h

theorem counted_of_full (span : Span) (m : Run α) (full : s.maxCallDepth ≤ s.depth) :
    Run.counted span m s = .failure ((Fault.callDepth s.maxCallDepth).atSpan span) s :=
  if_pos full

theorem counted_of_room (span : Span) (m : Run α) (room : s.depth < s.maxCallDepth) :
    Run.counted span m s = m.between State.enter State.leave s :=
  if_neg (Nat.not_le_of_lt room)

theorem obeys_counted (span : Span) (h : Obeys E none m) : Obeys E none (Run.counted span m) := by
  intro s legal
  unfold counted
  split
  next full => exact obeys_fail (α := α) _ s legal
  next room =>
    obtain ⟨entered, left⟩ := E.call legal (Nat.lt_of_not_le room)
    exact leaves_between ((h s.enter entered).mono fun t ended => left t ended.1 ended.2)

theorem obeys_inFrame (scope : ScopeId) {m : ScopeId → Run α}
    (h : ∀ frame, Obeys E (some frame) (m frame)) : Obeys E none (inFrame scope m) := by
  intro s legal
  obtain ⟨pushed, popped⟩ := E.frame scope legal
  exact leaves_between ((h _ _ pushed).mono fun t ended => popped t ended.1 ended.2)

theorem obeys_assign (id : ScopeId) (name : String) (v : Value) (span : Span) :
    Obeys E (some id) (Run.assign id name v span) := by
  unfold Run.assign
  split
  next => exact obeys_fail _
  next held => exact fun s legal => E.assign id name legal (Bool.eq_false_iff.2 held)

theorem obeys_register (id : ScopeId) {f : HostFunction}
    (permitted : E.permits (.register id f.name f.slots))
    (own : ∀ args, (f.invoke args).Only E.permits) : Obeys E none (Run.register id f) := by
  intro s legal
  unfold Run.register
  split
  next t made =>
    rw [State.register_eq_ok made]
    exact E.register permitted own legal
  next e refused => exact obeys_fail (α := Unit) e s legal

theorem obeys_bindParams (scope : ScopeId) (span : Span) : ∀ (names : List String)
    (values : List Value), Obeys E (some scope) (bindParams scope span names values)
  | name :: names, v :: values =>
    obeys_bind (obeys_assign scope name v span) fun _ =>
      obeys_bindParams scope span names values
  | [], [] => obeys_pure ()
  | [], _ :: _ => obeys_pure ()
  | _ :: _, [] => obeys_pure ()

end Run

open Run

/-! ## Tasks -/

/-- The task is about code of the kind the effect asks for, or permitted actions. -/
def Task.Fits (E : Effect) : Task → Prop
  | .loop _ condition body => condition.Everywhere E.code ∧ bodyEverywhere E.code body
  | .act action => action.Only E.permits
  | .call _ _ _ _ => True
  | .execute _ _ => True

/-- The environment that a task may write. -/
def Task.writes : Task → Option ScopeId
  | .loop scope _ _ => some scope
  | .execute scope _ => some scope
  | .call _ _ _ _ => none
  | .act _ => none

/-- The server keeps to the effect. -/
def Server.Obeys (E : Effect) (serve : Server) : Prop :=
  ∀ task : Task, task.Fits E → Run.Obeys E task.writes (serve task)

/-! ## Expressions and statements -/

mutual

theorem Expr.eval_obeys {E : Effect} {serve : Server} (served : Server.Obeys E serve)
    (scope : ScopeId) : ∀ e : Expr, e.Everywhere E.code → Obeys E none (e.eval serve scope)
  | .literal _ _, _ => obeys_pure _
  | .variable name span, _ => obeys_lookup scope name span
  | .binary _ left right _, h =>
    obeys_bind (left.eval_obeys served scope h.2.1) fun _ => obeys_bind (obeys_lift _) fun
      | some v => obeys_pure v
      | none => obeys_bind (right.eval_obeys served scope h.2.2) fun _ => obeys_lift _
  | .unary _ operand _, h =>
    obeys_bind (operand.eval_obeys served scope h.2) fun _ => obeys_lift _
  | .call name args span, h =>
    obeys_bind (evalArgs_obeys served scope args h.2) fun values =>
      served (.call scope name values span) trivial
  | .function _ _, h =>
    obeys_bind (fun _ legal => E.install legal h) fun _ => obeys_pure Value.null

theorem evalArgs_obeys {E : Effect} {serve : Server} (served : Server.Obeys E serve)
    (scope : ScopeId) :
    ∀ args : List Expr, argsEverywhere E.code args → Obeys E none (evalArgs serve scope args)
  | [], _ => obeys_pure []
  | e :: rest, h =>
    obeys_bind (e.eval_obeys served scope h.1) fun v =>
      obeys_bind (evalArgs_obeys served scope rest h.2) fun values => obeys_pure (v :: values)

end

section

variable {E : Effect} {serve : Server} (served : Server.Obeys E serve) (scope : ScopeId)
include served

theorem bindValue_obeys (name : String) {value : Expr} (span : Span) (h : value.Everywhere E.code) :
    Obeys E (some scope) (bindValue serve scope name value span) :=
  obeys_bind (obeys_widen (value.eval_obeys served scope h)) fun v =>
    obeys_bind (obeys_assign scope name v span) fun _ => obeys_pure _

theorem holds_obeys {condition : Expr} (h : condition.Everywhere E.code) :
    Obeys E (some scope) (holds serve scope condition) :=
  obeys_bind (obeys_widen (condition.eval_obeys served scope h)) fun _ => obeys_lift _

end

mutual

theorem Stmt.exec_obeys {E : Effect} {serve : Server} (served : Server.Obeys E serve)
    (scope : ScopeId) :
    ∀ s : Stmt, s.Everywhere E.code → Obeys E (some scope) (s.exec serve scope)
  | .variable name _ span, h => bindValue_obeys served scope name span h.2
  | .assign name _ span, h => bindValue_obeys served scope name span h.2
  | .branch _ thenBody none _, h =>
    obeys_bind (holds_obeys served scope h.2.1) fun
      | true => obeys_bind (execBody_obeys served scope thenBody h.2.2 .null) fun _ => obeys_pure _
      | false => obeys_pure _
  | .branch _ thenBody (some elseBody) _, h =>
    obeys_bind (holds_obeys served scope h.2.1) fun
      | true => obeys_bind (execBody_obeys served scope thenBody h.2.2.1 .null) fun _ =>
        obeys_pure _
      | false => obeys_bind (execBody_obeys served scope elseBody h.2.2.2 .null) fun _ =>
        obeys_pure _
  | .loop condition body _, h => served (.loop scope condition body) h.2
  | .result none _, _ => obeys_pure _
  | .result (some value) _, h =>
    obeys_bind (obeys_widen (value.eval_obeys served scope h.2)) fun _ => obeys_pure _
  | .jump _ _, _ => obeys_pure _
  | .expr value _, h =>
    obeys_bind (obeys_widen (value.eval_obeys served scope h.2)) fun _ => obeys_pure _

theorem execBody_obeys {E : Effect} {serve : Server} (served : Server.Obeys E serve)
    (scope : ScopeId) : ∀ body : List Stmt, bodyEverywhere E.code body → ∀ last : Value,
    Obeys E (some scope) (execBody serve scope last body)
  | [], _, _ => obeys_pure _
  | s :: rest, h, _ =>
    obeys_bind (s.exec_obeys served scope h.1) fun
      | .normal v => execBody_obeys served scope rest h.2 v
      | .result _ => obeys_pure _
      | .jump _ => obeys_pure _

end

section

variable {E : Effect} {serve : Server} (served : Server.Obeys E serve) (scope : ScopeId)
include served

/-! ## Actions of the host -/

theorem deliver_obeys (line : String) : Obeys E none (deliver serve line) := by
  intro s legal
  unfold deliver
  split
  next => exact obeys_fail (α := Value) _ s legal
  next free =>
    obtain ⟨begun, ended⟩ := E.handling legal (Bool.eq_false_iff.2 free)
    have handled := obeys_bind (obeys_attempt (served (.act (s.handler line))
      (E.handler legal line))) fun _ => obeys_pure Value.void
    exact leaves_between ((handled _ begun).mono fun t h => ended t h.1 h.2)

theorem respond_obeys {request : HostRequest} (permitted : E.permits request)
    {code : request.Given → HostAction} (coded : ∀ given, (code given).Only E.permits) :
    Obeys E none (respond serve request code) := by
  cases request with
  | record entry => exact obeys_bind (fun s legal => E.record entry legal) fun _ => obeys_pure _
  | print line => exact obeys_attempt (deliver_obeys served line)
  | call id name args => exact obeys_attempt (served (.call id name args .zero) trivial)
  | execute id source =>
    refine obeys_attempt (m := serve (.execute id source)) fun s legal => ?_
    exact (served (.execute id source) trivial s legal).mono fun t h =>
      ⟨h.1, E.execute permitted h.2⟩
  | define id name v =>
    refine obeys_attempt (m := do Run.assign id name v .zero; pure Value.void) fun s legal => ?_
    have bound := obeys_bind (E := E) (obeys_assign id name v .zero) fun _ => obeys_pure Value.void
    exact (bound s legal).mono fun t h => ⟨h.1, E.define permitted h.2⟩
  | read id name span => exact obeys_attempt (obeys_lookup id name span)
  | bindings id => exact obeys_ends E none fun _ => rfl
  | functions => exact obeys_ends E none fun _ => rfl
  | child id => exact fun s legal => E.child id legal
  | register id name slots =>
    have own := HostFunction.only_invoke (f := ⟨name, slots, code⟩) coded
    exact obeys_attempt (obeys_bind (obeys_register id permitted own) fun _ => obeys_pure _)
  | onPrint =>
    intro s legal
    unfold respond
    dsimp only
    split
    next => exact obeys_pure (α := Bool) false s legal
    next free => exact E.replace permitted coded legal (Bool.eq_false_iff.2 free)

theorem perform_obeys (action : HostAction) (only : action.Only E.permits) :
    Obeys E none (perform serve action) := by
  induction action with
  | done result => exact obeys_lift result
  | ask request code resume _ ih =>
    exact obeys_bind (respond_obeys served only.1 only.2.1) fun answer =>
      ih answer (only.2.2 answer)

/-! ## Calls and programs -/

omit served in
/-- With as many arguments as parameters a declared function is entered if there is room. -/
theorem callDeclared_of_count {d : Declaration} {args : List Value} (span : Span)
    (count : args.length = d.params.length) :
    callDeclared serve scope d args span = .counted span (inFrame scope fun frame => do
      bindParams frame span d.params args
      let flow ← execBody serve frame .null d.body
      .lift (d.outcome flow)) :=
  if_pos count

theorem callDeclared_obeys {d : Declaration} (h : d.Everywhere E.code) (args : List Value)
    (span : Span) : Obeys E none (callDeclared serve scope d args span) := by
  unfold callDeclared
  split
  · refine obeys_counted span (obeys_inFrame scope fun frame => ?_)
    refine obeys_bind (obeys_bindParams frame span d.params args) fun _ => ?_
    exact obeys_bind (execBody_obeys served frame d.body h.body .null) fun _ => obeys_lift _
  · exact obeys_fail _

omit served in
theorem callLibrary_obeys (name : String) (args : List Value) (span : Span) :
    Obeys E none (callLibrary name args span) := by
  intro s legal
  unfold callLibrary
  split
  · exact obeys_fail (α := Value) _ s legal
  · exact obeys_lift _ s legal

section

omit served

variable {s : State} {name : String} (args : List Value) (span : Span)

theorem callNamed_of_native {f : HostFunction} (found : s.functions.get? name = some (.native f)) :
    callNamed serve scope name args span s =
      Run.counted span ((perform serve (f.invoke args)).orSpan span) s := by
  unfold callNamed
  rw [found]

theorem callNamed_of_scripted {d : Declaration}
    (found : s.functions.get? name = some (.scripted d)) :
    callNamed serve scope name args span s = callDeclared serve scope d args span s := by
  unfold callNamed
  rw [found]

end

theorem callNamed_obeys (name : String) (args : List Value) (span : Span) :
    Obeys E none (callNamed serve scope name args span) := by
  intro s legal
  unfold callNamed
  split
  next f found =>
    have performed := perform_obeys served (f.invoke args) (E.native legal found args)
    exact obeys_counted span (obeys_orSpan span performed) s legal
  next d found => exact callDeclared_obeys served scope (E.scripted legal found) args span s legal
  next => exact callLibrary_obeys name args span s legal

theorem runProgram_obeys {p : Program} (h : bodyEverywhere E.code p.statements) :
    Obeys E (some scope) (runProgram serve scope p) :=
  obeys_bind (execBody_obeys served scope p.statements h .null) fun _ => obeys_lift _

theorem runSource_obeys (source : String) :
    Obeys E (some scope) (runSource serve scope source) := by
  unfold runSource
  split
  next => exact obeys_fail _
  next p read =>
    exact runProgram_obeys served scope (E.parsed (Program.ofSource_ok_iff.1 read))

theorem runLoop_obeys {condition : Expr} {body : List Stmt} (hc : condition.Everywhere E.code)
    (hb : bodyEverywhere E.code body) : Obeys E (some scope) (runLoop serve scope condition body) :=
  obeys_bind (holds_obeys served scope hc) fun
    | true => obeys_bind (execBody_obeys served scope body hb .null) fun
      | .result _ => obeys_pure _
      | .jump .breakLoop => obeys_pure _
      | .jump .continueLoop => served (.loop scope condition body) ⟨hc, hb⟩
      | .normal _ => served (.loop scope condition body) ⟨hc, hb⟩
    | false => obeys_pure _

omit scope in
theorem step_obeys : Server.Obeys E (step serve) := by
  intro task fits
  cases task with
  | call scope name args span => exact callNamed_obeys served scope name args span
  | loop scope condition body => exact runLoop_obeys served scope fits.1 fits.2
  | execute scope source => exact runSource_obeys served scope source
  | act action => exact perform_obeys served action fits

end

/-! ## All tasks -/

/-- Whatever the fuel, every task keeps to every effect. -/
theorem serve_obeys (E : Effect) (fuel : Nat) : Server.Obeys E (serve fuel) := by
  induction fuel with
  | zero =>
    intro task _ s _
    exact trivial
  | succ fuel ih => exact fun task fits s legal => step_obeys ih task fits s legal

end Scriptlet
