import Scriptlet.Proofs.Evaluation.Environments
import Scriptlet.Proofs.Evaluation.Moment

/-
  Two runs side by side.
  A mirror turns each state of a first run into one of a second run. It may change what is in
  environments and the limit on calls, as long as neither code nor the host can tell: environments
  that are seen stay the same, all keep their roots, and the changes commute with binding a variable
  and with making and dropping an environment.
  Main statements: if two servers do every task alike up to a mirror, so do all evaluations
  (`Work.runWith_mirrors`) and one more layer of tasks (`step_mirrored`). A mirror with gaps says
  nothing of a first run that is out of fuel.
-/

namespace Scriptlet

/-- The outcome with its state turned into another one. -/
def Outcome.map {α : Type} (f : State → State) : Outcome α → Outcome α
  | .value a t => .value a (f t)
  | .failure e t => .failure e (f t)
  | .outOfFuel => .outOfFuel

namespace State

/-- The state with its environments and its limit on calls changed. -/
def reflect (scopes frames : Array Scope → Array Scope) (limit : Nat → Nat) (s : State) : State :=
  { s with
    scopes := scopes s.scopes
    frames := frames s.frames
    maxCallDepth := limit s.maxCallDepth }

/-- Whether a call by name would be counted: library functions are not, and neither are declared
functions with a wrong count of arguments. -/
def counts (s : State) (name : String) (args : List Value) : Bool :=
  match s.functions.get? name with
  | some (.native _) => true
  | some (.scripted d) => args.length == d.params.length
  | none => false

/-- The call would be counted, and as many calls are under way as there may be. -/
def Refuses (s : State) (name : String) (args : List Value) : Prop :=
  s.maxCallDepth ≤ s.depth ∧ s.counts name args = true

instance (s : State) (name : String) (args : List Value) : Decidable (s.Refuses name args) :=
  inferInstanceAs (Decidable (_ ∧ _))

end State

/-- A way to turn the states of one run into those of another one. -/
structure Mirror where
  /-- What the first run keeps to. -/
  effect : Effect
  scopes : Array Scope → Array Scope
  frames : Array Scope → Array Scope
  limit : Nat → Nat
  /-- The environments that code is executed in and that the host looks into. -/
  sees : ScopeId → Prop
  /-- Whether the first run may give up where the second one does not. -/
  gaps : Prop
  raises : ∀ n, n ≤ limit n
  roots : ∀ s : State, (s.reflect scopes frames limit).rootAt = s.rootAt
  kept : ∀ {s : State} {id}, sees id → (s.reflect scopes frames limit).scope? id = s.scope? id
  bind : ∀ {s : State} {id} name v, sees id →
    (s.bind id name v).reflect scopes frames limit = (s.reflect scopes frames limit).bind id name v
  next : ∀ s : State, (s.reflect scopes frames limit).nextFrame = s.nextFrame
  push : ∀ {s} id, effect.legal s →
    (s.push id).reflect scopes frames limit = (s.reflect scopes frames limit).push id
  pop : ∀ s : State, s.pop.reflect scopes frames limit = (s.reflect scopes frames limit).pop
  child : ∀ {s} id, effect.legal s → (s.reflect scopes frames limit).child id =
    ((s.child id).1.reflect scopes frames limit, (s.child id).2)
  root : ∀ {s} id, effect.legal s → sees (s.rootOf id)
  frame : ∀ {s}, effect.legal s → sees s.nextFrame
  execute : ∀ {id source}, effect.permits (.execute id source) → sees id
  define : ∀ {id name v}, effect.permits (.define id name v) → sees id
  read : ∀ {id name span}, effect.permits (.read id name span) → sees id
  bindings : ∀ {id}, effect.permits (.bindings id) → sees id

namespace Mirror

variable {M : Mirror} {s : State} {id : ScopeId}

/-- The state of the second run. -/
def image (M : Mirror) (s : State) : State :=
  s.reflect M.scopes M.frames M.limit

theorem scope?_image (seen : M.sees id) : (M.image s).scope? id = s.scope? id :=
  M.kept seen

theorem lookup?_image (legal : M.effect.legal s) (seen : M.sees id) (name : String) :
    (M.image s).lookup? id name = s.lookup? id name :=
  State.lookup?_of_scope? name (scope?_image seen) (State.rootOf_of_rootAt (M.roots s) id)
    (scope?_image (M.root id legal))

theorem isRoot_image : (M.image s).isRoot id = s.isRoot id :=
  State.isRoot_of_rootAt (congrFun (M.roots s) id)

end Mirror

/-- The second outcome is the first one in the mirror, unless there is a gap. -/
def Outcome.Mirrored {α : Type} (M : Mirror) (o o' : Outcome α) : Prop :=
  o' = o.map M.image ∨ M.gaps ∧ o = .outOfFuel

/-- From a legal state and its image the computations end alike. -/
def Run.Mirrors {α : Type} (M : Mirror) (m m' : Run α) : Prop :=
  ∀ s, M.effect.legal s → (m s).Mirrored M (m' (M.image s))

namespace Run

variable {M : Mirror} {w : Option ScopeId} {α β : Type} {m m' : Run α} {f f' : α → Run β}
  {s : State}

/-! ## Computations in a row -/

theorem mirrors_pure (a : α) : Mirrors M (Pure.pure a : Run α) (Pure.pure a) :=
  fun _ _ => .inl rfl

theorem mirrors_fail (e : Failure) : Mirrors M (Run.fail e : Run α) (Run.fail e) :=
  fun _ _ => .inl rfl

theorem mirrors_lift (r : Except Failure α) : Mirrors M (Run.lift r) (Run.lift r) := by
  intro s _
  cases r with
  | ok a => exact .inl rfl
  | error e => exact .inl rfl

theorem mirrors_modify {g : State → State} (h : ∀ s, M.image (g s) = g (M.image s)) :
    Mirrors M (Run.modify g) (Run.modify g) := by
  intro s _
  have same : Outcome.value () (g (M.image s)) = Outcome.value () (M.image (g s)) := by rw [h s]
  exact .inl same

/-- What is read off a state, and is the same in the second run. -/
theorem mirrors_read {g : State → α} (same : ∀ s, M.effect.legal s → g (M.image s) = g s) :
    Mirrors M (fun s => .value (g s) s) (fun s => .value (g s) s) := by
  intro s legal
  have alike : Outcome.value (g (M.image s)) (M.image s) = Outcome.value (g s) (M.image s) := by
    rw [same s legal]
  exact .inl alike

theorem mirrors_lookup {id : ScopeId} (seen : M.sees id) (name : String) (span : Span) :
    Mirrors M (Run.lookup id name span) (Run.lookup id name span) := by
  intro s legal
  unfold Run.lookup
  rw [M.lookup?_image legal seen name]
  cases s.lookup? id name with
  | some v => exact .inl rfl
  | none => exact .inl rfl

theorem mirrors_bind (obeys : Obeys M.effect w m) (first : Mirrors M m m')
    (next : ∀ a, Mirrors M (f a) (f' a)) : Mirrors M (m >>= f) (m' >>= f') := by
  intro s legal
  have ended := obeys s legal
  rw [bind_eq, bind_eq]
  rcases first s legal with same | ⟨gap, out⟩
  · rw [same]
    cases made : m s with
    | value a t =>
      rw [made] at ended
      exact next a t ended.1
    | failure e t => exact .inl rfl
    | outOfFuel => exact .inl rfl
  · rw [out]
    exact .inr ⟨gap, rfl⟩

theorem mirrors_attempt (h : Mirrors M m m') : Mirrors M (Run.attempt m) (Run.attempt m') := by
  intro s legal
  unfold attempt
  rcases h s legal with same | ⟨gap, out⟩
  · rw [same]
    cases m s with
    | value a t => exact .inl rfl
    | failure e t => exact .inl rfl
    | outOfFuel => exact .inl rfl
  · rw [out]
    exact .inr ⟨gap, rfl⟩

theorem mirrors_orSpan (span : Span) (h : Mirrors M m m') :
    Mirrors M (m.orSpan span) (m'.orSpan span) := by
  intro s legal
  unfold orSpan
  rcases h s legal with same | ⟨gap, out⟩
  · rw [same]
    cases m s with
    | value a t => exact .inl rfl
    | failure e t => exact .inl rfl
    | outOfFuel => exact .inl rfl
  · rw [out]
    exact .inr ⟨gap, rfl⟩

/-- What is done before and after a computation is done in both runs. -/
theorem mirrored_between {before after : State → State}
    (begun : M.image (before s) = before (M.image s))
    (ended : ∀ t, M.image (after t) = after (M.image t))
    (h : (m (before s)).Mirrored M (m' (M.image (before s)))) :
    (m.between before after s).Mirrored M (m'.between before after (M.image s)) := by
  unfold between
  rw [← begun]
  rcases h with same | ⟨gap, out⟩
  · rw [same]
    cases m (before s) with
    | value a t => exact .inl (congrArg (Outcome.value a) (ended t).symm)
    | failure e t => exact .inl (congrArg (Outcome.failure e) (ended t).symm)
    | outOfFuel => exact .inl rfl
  · rw [out]
    exact .inr ⟨gap, rfl⟩

/-- A counted call is the same in both runs if both have the same limit where it is refused. -/
theorem mirrored_counted (span : Span) (legal : M.effect.legal s) (h : Mirrors M m m')
    (exact : s.maxCallDepth ≤ s.depth → M.limit s.maxCallDepth = s.maxCallDepth) :
    (Run.counted span m s).Mirrored M (Run.counted span m' (M.image s)) := by
  rcases Nat.lt_or_ge s.depth s.maxCallDepth with room | full
  · have room' : (M.image s).depth < (M.image s).maxCallDepth :=
      Nat.lt_of_lt_of_le room (M.raises s.maxCallDepth)
    rw [counted_of_room span m room, counted_of_room span m' room']
    exact mirrored_between rfl (fun _ => rfl) (h s.enter (M.effect.call legal room).1)
  -- the failure tells the limit, so a higher one would be seen here even if it was reached too
  · have limit : (M.image s).maxCallDepth = s.maxCallDepth := exact full
    have full' : (M.image s).maxCallDepth ≤ (M.image s).depth := by
      rw [limit]
      exact full
    rw [counted_of_full span m full, counted_of_full span m' full', limit]
    exact .inl rfl

theorem mirrors_inFrame (scope : ScopeId) {m m' : ScopeId → Run α}
    (h : ∀ frame, M.sees frame → Mirrors M (m frame) (m' frame)) :
    Mirrors M (inFrame scope m) (inFrame scope m') := by
  intro s legal
  have next : (M.image s).nextFrame = s.nextFrame := M.next s
  unfold inFrame
  rw [next]
  exact mirrored_between (M.push scope legal) M.pop
    (h _ (M.frame legal) (s.push scope) (M.effect.frame scope legal).1)

theorem mirrors_assign {id : ScopeId} (seen : M.sees id) (name : String) (v : Value)
    (span : Span) :
    Mirrors M (Run.assign id name v span) (Run.assign id name v span) := by
  unfold Run.assign
  split
  · exact mirrors_fail _
  · exact mirrors_modify fun _ => M.bind name v seen

theorem mirrors_register (id : ScopeId) (f : HostFunction) :
    Mirrors M (Run.register id f) (Run.register id f) := by
  intro s _
  unfold Run.register State.register
  rw [M.isRoot_image]
  cases s.isRoot id with
  | true => exact .inl rfl
  | false => exact .inl rfl

theorem mirrors_bindParams {id : ScopeId} (seen : M.sees id) (span : Span) :
    ∀ (names : List String) (values : List Value),
    Mirrors M (bindParams id span names values) (bindParams id span names values)
  | name :: names, v :: values =>
    mirrors_bind (obeys_assign id name v span) (mirrors_assign seen name v span) fun _ =>
      mirrors_bindParams seen span names values
  | [], [] => mirrors_pure ()
  | [], _ :: _ => mirrors_pure ()
  | _ :: _, [] => mirrors_pure ()

end Run

open Run

/-! ## Servers -/

/-- The task is done in an environment that code is executed in, if in a given one at all. -/
def Task.Seen (M : Mirror) (task : Task) : Prop :=
  ∀ id, task.writes = some id → M.sees id

/-- The task is a call that the state refuses. -/
def Task.Refused (s : State) : Task → Prop
  | .call _ name args _ => s.Refuses name args
  | _ => False

instance (s : State) : (task : Task) → Decidable (task.Refused s)
  | .call _ name args _ => inferInstanceAs (Decidable (s.Refuses name args))
  | .loop _ _ _ => inferInstanceAs (Decidable False)
  | .execute _ _ => inferInstanceAs (Decidable False)
  | .act _ => inferInstanceAs (Decidable False)

/-- The first server keeps to the effect of the mirror, and the second one does every task alike. -/
structure Server.Mirrors (M : Mirror) (serve serve' : Server) : Prop where
  obeys : Server.Obeys M.effect serve
  alike : ∀ task : Task, task.Fits M.effect → task.Seen M → Run.Mirrors M (serve task) (serve' task)

/-! ## Expressions and statements -/

mutual

theorem Expr.eval_mirrors {M : Mirror} {serve serve' : Server} {scope : ScopeId}
    (served : Server.Mirrors M serve serve') (seen : M.sees scope) :
    ∀ e : Expr, e.Everywhere M.effect.code → Mirrors M (e.eval serve scope) (e.eval serve' scope)
  | .literal _ _, _ => mirrors_pure _
  | .variable name span, _ => mirrors_lookup seen name span
  | .binary _ left right _, h =>
    mirrors_bind (left.eval_obeys served.obeys scope h.2.1) (left.eval_mirrors served seen h.2.1)
      fun _ => mirrors_bind (obeys_lift (w := none) _) (mirrors_lift _) fun
        | some v => mirrors_pure v
        | none =>
          mirrors_bind (right.eval_obeys served.obeys scope h.2.2)
            (right.eval_mirrors served seen h.2.2) fun _ => mirrors_lift _
  | .unary _ operand _, h =>
    mirrors_bind (operand.eval_obeys served.obeys scope h.2) (operand.eval_mirrors served seen h.2)
      fun _ => mirrors_lift _
  | .call name args span, h =>
    mirrors_bind (evalArgs_obeys served.obeys scope args h.2)
      (evalArgs_mirrors served seen args h.2) fun values =>
        served.alike (.call scope name values span) trivial nofun
  | .function _ _, h =>
    mirrors_bind (w := none) (fun _ legal => M.effect.install legal h)
      (mirrors_modify fun _ => rfl) fun _ => mirrors_pure Value.null

theorem evalArgs_mirrors {M : Mirror} {serve serve' : Server} {scope : ScopeId}
    (served : Server.Mirrors M serve serve') (seen : M.sees scope) :
    ∀ args : List Expr, argsEverywhere M.effect.code args →
    Mirrors M (evalArgs serve scope args) (evalArgs serve' scope args)
  | [], _ => mirrors_pure []
  | e :: rest, h =>
    mirrors_bind (e.eval_obeys served.obeys scope h.1) (e.eval_mirrors served seen h.1) fun v =>
      mirrors_bind (evalArgs_obeys served.obeys scope rest h.2)
        (evalArgs_mirrors served seen rest h.2) fun values => mirrors_pure (v :: values)

end

section

variable {M : Mirror} {serve serve' : Server} {scope : ScopeId}
  (served : Server.Mirrors M serve serve')
include served

theorem bindValue_mirrors (seen : M.sees scope) (name : String) {value : Expr} (span : Span)
    (h : value.Everywhere M.effect.code) :
    Mirrors M (bindValue serve scope name value span) (bindValue serve' scope name value span) :=
  mirrors_bind (value.eval_obeys served.obeys scope h) (value.eval_mirrors served seen h) fun v =>
    mirrors_bind (obeys_assign scope name v span) (mirrors_assign seen name v span) fun _ =>
      mirrors_pure _

theorem holds_mirrors (seen : M.sees scope) {condition : Expr}
    (h : condition.Everywhere M.effect.code) :
    Mirrors M (holds serve scope condition) (holds serve' scope condition) :=
  mirrors_bind (condition.eval_obeys served.obeys scope h) (condition.eval_mirrors served seen h)
    fun _ => mirrors_lift _

end

mutual

theorem Stmt.exec_mirrors {M : Mirror} {serve serve' : Server} {scope : ScopeId}
    (served : Server.Mirrors M serve serve') (seen : M.sees scope) :
    ∀ s : Stmt, s.Everywhere M.effect.code → Mirrors M (s.exec serve scope) (s.exec serve' scope)
  | .variable name _ span, h => bindValue_mirrors served seen name span h.2
  | .assign name _ span, h => bindValue_mirrors served seen name span h.2
  | .branch _ thenBody none _, h =>
    mirrors_bind (holds_obeys served.obeys scope h.2.1) (holds_mirrors served seen h.2.1) fun
      | true =>
        mirrors_bind (execBody_obeys served.obeys scope thenBody h.2.2 .null)
          (execBody_mirrors served seen thenBody h.2.2 .null) fun _ => mirrors_pure _
      | false => mirrors_pure _
  | .branch _ thenBody (some elseBody) _, h =>
    mirrors_bind (holds_obeys served.obeys scope h.2.1) (holds_mirrors served seen h.2.1) fun
      | true =>
        mirrors_bind (execBody_obeys served.obeys scope thenBody h.2.2.1 .null)
          (execBody_mirrors served seen thenBody h.2.2.1 .null) fun _ => mirrors_pure _
      | false =>
        mirrors_bind (execBody_obeys served.obeys scope elseBody h.2.2.2 .null)
          (execBody_mirrors served seen elseBody h.2.2.2 .null) fun _ => mirrors_pure _
  | .loop condition body _, h =>
    served.alike (.loop scope condition body) h.2 fun _ same => Option.some.inj same ▸ seen
  | .result none _, _ => mirrors_pure _
  | .result (some value) _, h =>
    mirrors_bind (value.eval_obeys served.obeys scope h.2) (value.eval_mirrors served seen h.2)
      fun _ => mirrors_pure _
  | .jump _ _, _ => mirrors_pure _
  | .expr value _, h =>
    mirrors_bind (value.eval_obeys served.obeys scope h.2) (value.eval_mirrors served seen h.2)
      fun _ => mirrors_pure _

theorem execBody_mirrors {M : Mirror} {serve serve' : Server} {scope : ScopeId}
    (served : Server.Mirrors M serve serve') (seen : M.sees scope) :
    ∀ body : List Stmt, bodyEverywhere M.effect.code body → ∀ last : Value,
    Mirrors M (execBody serve scope last body) (execBody serve' scope last body)
  | [], _, _ => mirrors_pure _
  | s :: rest, h, _ =>
    mirrors_bind (s.exec_obeys served.obeys scope h.1) (s.exec_mirrors served seen h.1) fun
      | .normal v => execBody_mirrors served seen rest h.2 v
      | .result _ => mirrors_pure _
      | .jump _ => mirrors_pure _

end

section

variable {M : Mirror} {serve serve' : Server} (served : Server.Mirrors M serve serve')
include served

/-! ## Programs and actions -/

theorem runProgram_mirrors {scope : ScopeId} (seen : M.sees scope) {p : Program}
    (h : bodyEverywhere M.effect.code p.statements) :
    Mirrors M (runProgram serve scope p) (runProgram serve' scope p) :=
  mirrors_bind (execBody_obeys served.obeys scope p.statements h .null)
    (execBody_mirrors served seen p.statements h .null) fun _ => mirrors_lift _

theorem runSource_mirrors {scope : ScopeId} (seen : M.sees scope) (source : String) :
    Mirrors M (runSource serve scope source) (runSource serve' scope source) := by
  unfold runSource
  split
  next => exact mirrors_fail _
  next p read =>
    exact runProgram_mirrors served seen (M.effect.parsed (Program.ofSource_ok_iff.1 read))

theorem deliver_mirrors (line : String) :
    Mirrors M (deliver serve line) (deliver serve' line) := by
  intro s legal
  have handling : (M.image s).handling = s.handling := rfl
  unfold deliver
  rw [handling]
  split
  next => exact .inl rfl
  next free =>
    obtain ⟨begun, -⟩ := M.effect.handling legal (Bool.eq_false_iff.2 free)
    have only := M.effect.handler legal line
    have acted := served.alike (.act (s.handler line)) only nofun
    have handled := mirrors_bind (obeys_attempt (served.obeys (.act (s.handler line)) only))
      (mirrors_attempt acted) fun _ => mirrors_pure Value.void
    exact mirrored_between rfl (fun _ => rfl) (handled _ begun)

theorem respond_mirrors {request : HostRequest} {code : request.Given → HostAction}
    (permitted : M.effect.permits request) (coded : ∀ given, (code given).Only M.effect.permits) :
    Mirrors M (respond serve request code) (respond serve' request code) := by
  cases request with
  | record entry =>
    exact mirrors_bind (w := none) (fun s legal => M.effect.record entry legal)
      (mirrors_modify fun _ => rfl) fun _ => mirrors_pure _
  | print line => exact mirrors_attempt (deliver_mirrors served line)
  | call id name args =>
    exact mirrors_attempt (served.alike (.call id name args .zero) trivial nofun)
  | execute id source =>
    refine mirrors_attempt (served.alike (.execute id source) trivial fun _ same => ?_)
    exact Option.some.inj same ▸ M.execute permitted
  | define id name v =>
    refine mirrors_attempt (mirrors_bind (obeys_assign id name v .zero) ?_ fun _ =>
      mirrors_pure Value.void)
    exact mirrors_assign (M.define permitted) name v .zero
  | read id name span => exact mirrors_attempt (mirrors_lookup (M.read permitted) name span)
  | bindings id =>
    refine mirrors_read fun s _ => ?_
    unfold State.bindings
    rw [M.scope?_image (M.bindings permitted)]
  | functions => exact mirrors_read fun _ _ => rfl
  | child id =>
    intro s legal
    have same : (M.image s).child id = (M.image (s.child id).1, (s.child id).2) := M.child id legal
    unfold respond
    dsimp only
    rw [same]
    exact .inl rfl
  | register id name slots =>
    have own := HostFunction.only_invoke (f := ⟨name, slots, code⟩) coded
    exact mirrors_attempt (mirrors_bind (obeys_register id permitted own) (mirrors_register id _)
      fun _ => mirrors_pure Value.void)
  | onPrint =>
    intro s legal
    have handling : (M.image s).handling = s.handling := rfl
    unfold respond
    dsimp only
    rw [handling]
    split
    next => exact .inl rfl
    next => exact .inl rfl

theorem perform_mirrors (action : HostAction) (only : action.Only M.effect.permits) :
    Mirrors M (perform serve action) (perform serve' action) := by
  induction action with
  | done result => exact mirrors_lift result
  | ask request code resume _ ih =>
    exact mirrors_bind (respond_obeys served.obeys only.1 only.2.1)
      (respond_mirrors served only.1 only.2.1) fun answer => ih answer (only.2.2 answer)

/-! ## Tasks -/

theorem callDeclared_mirrored {s : State} (legal : M.effect.legal s) (scope : ScopeId)
    {d : Declaration} (h : d.Everywhere M.effect.code) (args : List Value) (span : Span)
    (exact : s.maxCallDepth ≤ s.depth → args.length = d.params.length →
      M.limit s.maxCallDepth = s.maxCallDepth) :
    (callDeclared serve scope d args span s).Mirrored M
      (callDeclared serve' scope d args span (M.image s)) := by
  unfold callDeclared
  split
  next count =>
    refine mirrored_counted span legal (mirrors_inFrame scope fun frame seen => ?_)
      fun full => exact full count
    refine mirrors_bind (obeys_bindParams frame span d.params args)
      (mirrors_bindParams seen span d.params args) fun _ => ?_
    exact mirrors_bind (execBody_obeys served.obeys frame d.body h.body .null)
      (execBody_mirrors served seen d.body h.body .null) fun _ => mirrors_lift _
  next => exact .inl rfl

/-- A call by name ends alike in both runs if both have the same limit where it is refused. -/
theorem callNamed_mirrored {s : State} (legal : M.effect.legal s) (scope : ScopeId) (name : String)
    (args : List Value) (span : Span)
    (exact : s.Refuses name args → M.limit s.maxCallDepth = s.maxCallDepth) :
    (callNamed serve scope name args span s).Mirrored M
      (callNamed serve' scope name args span (M.image s)) := by
  have functions : (M.image s).functions = s.functions := rfl
  unfold State.Refuses State.counts at exact
  unfold callNamed
  rw [functions]
  cases found : s.functions.get? name with
  | none =>
    have library : (M.image s).library = s.library := rfl
    show (callLibrary name args span s).Mirrored M (callLibrary name args span (M.image s))
    unfold callLibrary
    rw [library]
    split
    next => exact .inl rfl
    next => exact mirrors_lift _ s legal
  | some callable =>
    rw [found] at exact
    cases callable with
    | native f =>
      have performed := perform_mirrors served (f.invoke args) (M.effect.native legal found args)
      exact mirrored_counted span legal (mirrors_orSpan span performed) fun full =>
        exact ⟨full, rfl⟩
    | scripted d =>
      exact callDeclared_mirrored served legal scope (M.effect.scripted legal found) args span
        fun full count => exact ⟨full, beq_iff_eq.2 count⟩

theorem runLoop_mirrors {scope : ScopeId} (seen : M.sees scope) {condition : Expr}
    {body : List Stmt} (hc : condition.Everywhere M.effect.code)
    (hb : bodyEverywhere M.effect.code body) :
    Mirrors M (runLoop serve scope condition body) (runLoop serve' scope condition body) := by
  have again : Mirrors M (serve (.loop scope condition body))
      (serve' (.loop scope condition body)) :=
    served.alike (.loop scope condition body) ⟨hc, hb⟩ fun _ same => Option.some.inj same ▸ seen
  refine mirrors_bind (holds_obeys served.obeys scope hc) (holds_mirrors served seen hc) fun
    | false => mirrors_pure _
    | true => ?_
  refine mirrors_bind (execBody_obeys served.obeys scope body hb .null)
    (execBody_mirrors served seen body hb .null) fun
    | .result _ => mirrors_pure _
    | .jump .breakLoop => mirrors_pure _
    | .jump .continueLoop => again
    | .normal _ => again

/-- A task ends alike in both runs if both have the same limit where it is refused. -/
theorem step_mirrored {task : Task} (fits : task.Fits M.effect) (seen : task.Seen M) {s : State}
    (legal : M.effect.legal s)
    (exact : task.Refused s → M.limit s.maxCallDepth = s.maxCallDepth) :
    (step serve task s).Mirrored M (step serve' task (M.image s)) := by
  cases task with
  | call scope name args span => exact callNamed_mirrored served legal scope name args span exact
  | loop scope condition body =>
    exact runLoop_mirrors served (seen scope rfl) fits.1 fits.2 s legal
  | execute scope source => exact runSource_mirrors served (seen scope rfl) source s legal
  | act action => exact perform_mirrors served action fits s legal

/-- With one limit in both runs, servers of tasks nested one deeper end alike as well. -/
theorem step_mirrors (same : ∀ n, M.limit n = n) : Server.Mirrors M (step serve) (step serve') where
  obeys := step_obeys served.obeys
  alike _ fits seen _ legal := step_mirrored served fits seen legal fun _ => same _

/-- The evaluation is in an environment that code is executed in, if in a given one at all. -/
def Work.Seen (M : Mirror) : Work → Prop
  | .expr scope _ => M.sees scope
  | .args scope _ => M.sees scope
  | .stmt scope _ => M.sees scope
  | .body scope _ _ => M.sees scope
  | .program scope _ => M.sees scope
  | .action _ => True
  | .task t => t.Seen M

omit served in
theorem Work.seen_of_all (all : ∀ id, M.sees id) (work : Work) : work.Seen M := by
  cases work with
  | action a => exact trivial
  | task t => exact fun id _ => all id
  | _ => exact all _

/-- All evaluations end alike in both runs. -/
theorem Work.runWith_mirrors {work : Work} (fits : work.Fits M.effect) (seen : work.Seen M) :
    Run.Mirrors M (work.runWith serve) (work.runWith serve') := by
  cases work with
  | expr scope e => exact e.eval_mirrors served seen fits
  | args scope es => exact evalArgs_mirrors served seen es fits
  | stmt scope s => exact s.exec_mirrors served seen fits
  | body scope last ss => exact execBody_mirrors served seen ss fits last
  | program scope p => exact runProgram_mirrors served seen fits
  | action a => exact perform_mirrors served a fits
  | task t => exact served.alike t fits seen

end

end Scriptlet
