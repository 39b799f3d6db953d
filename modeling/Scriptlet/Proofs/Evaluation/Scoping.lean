import Scriptlet.Proofs.Evaluation.Callers
import Scriptlet.Proofs.Evaluation.Growth

/-
  Scopes and the table of functions.
  A host makes environments, binds variables, registers functions and begins evaluations, in any
  order (`Operation`), and may do the same while an evaluation is under way. There is one root, all
  other environments refer to it, and every function is in the table under its own name: so it is in
  every state between two operations and at every moment of an evaluation, where calls have
  environments of their own (`order`). Main statement: `scopes_and_functions`.
-/

namespace Scriptlet

/-! ## The functions in the table -/

/-- The name that a function was made with. -/
def Callable.name : Callable → String
  | .native f => f.name
  | .scripted d => d.name

/-- The call of a function from the table. -/
def Callable.call (serve : Server) (scope : ScopeId) (args : List Value) (span : Span) :
    Callable → Run Value
  | .native f => .counted span ((perform serve (f.invoke args)).orSpan span)
  | .scripted d => callDeclared serve scope d args span

/-- Every function is in the table under its name. -/
def State.Labelled (s : State) : Prop :=
  ∀ entry ∈ s.functions.entries, entry.2.name = entry.1

theorem State.labelled_initial (settings : Settings) : (initial settings).Labelled := by
  intro entry member
  rw [List.mem_singleton.1 member]
  rfl

theorem State.Labelled.install {s : State} (labelled : s.Labelled) (callable : Callable) :
    (s.install callable.name callable).Labelled := by
  intro entry member
  rcases Bindings.mem_put member with rfl | old
  · rfl
  · exact labelled entry old

theorem Bindings.exists_get?_of_mem_names {β : Type} {b : Bindings β} {name : String}
    (member : name ∈ b.names) : ∃ value, b.get? name = some value := by
  obtain ⟨entries⟩ := b
  show ∃ value, find? name entries = some value
  induction entries with
  | nil => cases member
  | cons entry rest ih =>
    unfold find?
    split
    next same => exact ⟨_, rfl⟩
    next other =>
      rcases List.mem_cons.1 member with first | later
      · exact absurd first.symm other
      · exact ih later

/-- Where a name is in the table, the function from the table is called. -/
theorem callNamed_of_function? {s : State} {name : String} {c : Callable}
    (found : s.function? name = some c) (serve : Server) (scope : ScopeId) (args : List Value)
    (span : Span) : callNamed serve scope name args span s = c.call serve scope args span s := by
  cases c with
  | native f => exact callNamed_of_native _ _ _ found
  | scripted d => exact callNamed_of_scripted _ _ _ found

/-! ## One root -/

/-- The first environment is a root, and every other one refers to it. -/
structure State.OneRoot (s : State) : Prop where
  top : s.rootAt State.root = some none
  others : ∀ id r, s.rootAt id = some r → id = State.root ∨ r = some State.root

namespace State

variable {s t : State} {id : ScopeId}

theorem oneRoot_initial (settings : Settings) : (initial settings).OneRoot where
  top := rfl
  others id r found := by
    rcases id with (- | n) | n
    · exact .inl rfl
    · cases found
    · cases found

namespace OneRoot

theorem of_rootAt (one : s.OneRoot) (same : t.rootAt = s.rootAt) : t.OneRoot := by
  refine ⟨?_, ?_⟩
  · rw [same]
    exact one.top
  · rw [same]
    exact one.others

theorem rooted (one : s.OneRoot) : s.Rooted where
  top := one.top
  refers id r found := by
    rcases one.others id _ found with rfl | refers
    · cases one.top.symm.trans found
    · cases refers
      exact one.top

/-- All environments have the same root. -/
theorem rootOf (one : s.OneRoot) (id : ScopeId) : s.rootOf id = State.root := by
  rw [rootOf_eq]
  cases found : s.rootAt id with
  | none => rfl
  | some r =>
    rcases one.others id r found with rfl | rfl
    · cases one.top.symm.trans found
      rfl
    · rfl

/-- An environment that is made refers to the root as well. -/
theorem make (one : s.OneRoot) {new : ScopeId} (fresh : s.scope? new = none) (made : ∀ other,
    t.rootAt other = if other = new then some (some (s.rootOf id)) else s.rootAt other) :
    t.OneRoot where
  top := by
    have old : State.root ≠ new := by
      rintro rfl
      have top := one.top
      rw [rootAt, fresh] at top
      cases top
    rw [made, if_neg old]
    exact one.top
  others other r found := by
    rw [made, one.rootOf id] at found
    split at found
    next =>
      cases found
      exact .inr rfl
    next => exact one.others other r found

theorem push (one : s.OneRoot) (id : ScopeId) : (s.push id).OneRoot :=
  one.make s.scope?_nextFrame (s.rootAt_push id)

theorem child (one : s.OneRoot) (id : ScopeId) : (s.child id).1.OneRoot :=
  one.make (s.scope?_child_made id) (s.rootAt_child id)

theorem pop (one : s.OneRoot) : s.pop.OneRoot where
  top := by
    rw [rootAt_pop, if_neg nofun]
    exact one.top
  others id r found := by
    rw [rootAt_pop] at found
    split at found
    next => cases found
    next => exact one.others id r found

end OneRoot

/-- There is one root, and functions are in the table under their names. -/
structure Orderly (s : State) : Prop where
  oneRoot : s.OneRoot
  labelled : s.Labelled

theorem orderly_initial (settings : Settings) : (initial settings).Orderly where
  oneRoot := oneRoot_initial settings
  labelled := labelled_initial settings

theorem Orderly.of_same (orderly : s.Orderly) (roots : t.rootAt = s.rootAt)
    (functions : t.functions = s.functions) : t.Orderly := by
  refine ⟨orderly.oneRoot.of_rootAt roots, ?_⟩
  unfold Labelled
  rw [functions]
  exact orderly.labelled

theorem Orderly.bind (orderly : s.Orderly) (id : ScopeId) (name : String) (v : Value) :
    (s.bind id name v).Orderly :=
  orderly.of_same (s.rootAt_bind id name v) rfl

theorem Orderly.install (orderly : s.Orderly) (callable : Callable) :
    (s.install callable.name callable).Orderly :=
  ⟨orderly.oneRoot.of_rootAt rfl, orderly.labelled.install callable⟩

end State

/-- Evaluation of any code, with a host that may ask anything, keeps this order. -/
def order : Effect where
  code := .any
  permits _ := True
  legal := State.Orderly
  changes _ _ _ := True
  refl _ _ := trivial
  trans _ _ := trivial
  widen _ := trivial
  parsed := Program.everywhere_any
  native _ _ _ := HostAction.only_of_all (fun _ => trivial) _
  scripted _ _ := Declaration.everywhere_of_all (fun _ => trivial) (fun _ => trivial) _
  handler _ _ := HostAction.only_of_all (fun _ => trivial) _
  install {_ d _} orderly _ := ⟨orderly.install (.scripted d), trivial⟩
  record _ orderly := ⟨orderly.of_same rfl rfl, trivial⟩
  assign id name orderly _ := ⟨orderly.bind id name _, trivial⟩
  define _ _ := trivial
  execute _ _ := trivial
  handling orderly _ := ⟨orderly.of_same rfl rfl, fun _ orderly' _ =>
    ⟨orderly'.of_same rfl rfl, trivial⟩⟩
  call orderly _ := ⟨orderly.of_same rfl rfl, fun _ orderly' _ =>
    ⟨orderly'.of_same rfl rfl, trivial⟩⟩
  frame id orderly := ⟨⟨orderly.oneRoot.push id, orderly.labelled⟩, fun _ orderly' _ =>
    ⟨⟨orderly'.oneRoot.pop, orderly'.labelled⟩, trivial⟩⟩
  child id orderly := ⟨⟨orderly.oneRoot.child id, orderly.labelled⟩, trivial⟩
  register _ _ orderly := ⟨orderly.install (.native _), trivial⟩
  replace _ _ orderly _ := ⟨orderly.of_same rfl rfl, trivial⟩

theorem fits_order (work : Work) : work.Fits order :=
  Work.fits_of_all (fun _ => trivial) (fun _ => trivial) (work.only_of_all fun _ => trivial)

/-! ## What the host does -/

/-- An operation of the host, failing or not, brings the interpreter from the first state to the
second one. -/
inductive Operation (s : State) : State → Prop
  | evaluated {t : State} {fuel : Nat} {work : Work} (ended : (work.run fuel s).Ends t) :
    Operation s t
  | bound {t : State} {id : ScopeId} {name : String} {v : Value} {span : Span}
    (ended : (Run.assign id name v span s).Ends t) : Operation s t
  | child (id : ScopeId) : Operation s (s.child id).1
  | registered {t : State} {id : ScopeId} {f : HostFunction} (made : s.register id f = .ok t) :
    Operation s t
  | refused {id : ScopeId} {f : HostFunction} {e : Failure} (failed : s.register id f = .error e) :
    Operation s s
  | handled (handler : String → HostAction) : Operation s { s with handler := handler }
  | taken (recorded : List Entry) : Operation s { s with recorded := recorded }

namespace Operation

variable {s t : State}

/-- No operation loses anything. -/
theorem grows (operation : Operation s t) : s.Grows t := by
  cases operation with
  | evaluated ended => exact (Work.run_grows _ _ s).ends ended
  | bound ended =>
    rcases Run.ends_of_assign ended with rfl | ⟨-, rfl⟩
    · exact .refl _
    · exact .bind s _ _ _
  | child id => exact .child s id
  | registered made =>
    rw [State.register_eq_ok made]
    exact .install s _ _
  | refused failed => exact .refl s
  | handled handler => exact .of_same rfl rfl
  | taken recorded => exact .of_same rfl rfl

theorem orderly (operation : Operation s t) (orderly : s.Orderly) : t.Orderly := by
  cases operation with
  | @evaluated _ fuel work ended =>
    exact ((work.run_obeys (fits_order work) fuel s orderly).ends ended).1
  | bound ended =>
    rcases Run.ends_of_assign ended with rfl | ⟨-, rfl⟩
    · exact orderly
    · exact orderly.bind _ _ _
  | child id => exact ⟨orderly.oneRoot.child id, orderly.labelled⟩
  | registered made =>
    rw [State.register_eq_ok made]
    exact orderly.install (.native _)
  | refused failed => exact orderly
  | handled handler => exact orderly.of_same rfl rfl
  | taken recorded => exact orderly.of_same rfl rfl

end Operation

theorem grows_of_operations {s t : State} (operations : Relation.ReflTransGen Operation s t) :
    s.Grows t := by
  induction operations with
  | refl => exact .refl s
  | tail _ operation ih => exact ih.trans operation.grows

/-- The states that can be observed: between the operations of a host, and at the moments of an
evaluation that it begins. -/
inductive Observed (settings : Settings) : State → Prop
  | between {s : State} (reached : Relation.ReflTransGen Operation (.initial settings) s) :
    Observed settings s
  | during {s : State} {fuel : Nat} {work : Work} {m : Moment}
    (reached : Relation.ReflTransGen Operation (.initial settings) s)
    (reaches : Reaches ⟨fuel, work, s, 0⟩ m) : Observed settings m.state

theorem orderly_of_reached {settings : Settings} {s : State}
    (reached : Relation.ReflTransGen Operation (.initial settings) s) : s.Orderly := by
  induction reached with
  | refl => exact State.orderly_initial settings
  | tail _ operation ih => exact operation.orderly ih

theorem Observed.orderly {settings : Settings} {s : State} (observed : Observed settings s) :
    s.Orderly := by
  cases observed with
  | between reached => exact orderly_of_reached reached
  | @during s fuel work m reached reaches =>
    exact (reaches.fits (fits_order work) (orderly_of_reached reached)).2

/-! ## Scopes and functions -/

namespace State

variable {s t : State} {id : ScopeId}

/-- An environment that is not a root refers to one. -/
theorem OneRoot.refers (one : s.OneRoot) (inner : s.isRoot id = false) :
    ∃ r, s.rootAt id = some (some r) ∧ s.rootAt r = some none := by
  obtain ⟨r, found⟩ := exists_root_of_isRoot inner
  exact ⟨r, found, one.rooted.refers id r found⟩

/-- A variable is looked up in the environment itself and then in the root. -/
theorem OneRoot.lookup? (one : s.OneRoot) (id : ScopeId) (name : String) :
    s.lookup? id name = (s.local? id name).or (s.local? State.root name) := by
  unfold State.lookup?
  rw [one.rootOf id]
  cases s.local? id name with
  | none => rfl
  | some v => rfl

/-- A name in the table of functions stays there, and the function from the table is called. -/
theorem Grows.called (grown : s.Grows t) {name : String} (member : name ∈ s.functionNames) :
    ∃ c, t.function? name = some c ∧ ∀ serve scope args span,
      callNamed serve scope name args span t = c.call serve scope args span t := by
  obtain ⟨c, found⟩ := Bindings.exists_get?_of_mem_names (grown.functions.subset member)
  exact ⟨c, found, callNamed_of_function? found⟩

end State

/-- A registration that is refused leaves the session as it is. -/
theorem Session.step_register_refused {session : Session} {id : ScopeId} {f : HostFunction}
    {e : Failure} {env : Option String} {name item : String} (here : session.scope? env = some id)
    (found : Catalog.find? item name = some f) (refused : session.state.register id f = .error e)
    (fuel : Nat) : session.step fuel (.register name item env) = (session, .result (.error e)) := by
  show session.inScope env _ = _
  unfold inScope
  rw [here]
  dsimp only
  rw [found]
  dsimp only
  rw [refused]

/-- How variables and functions are found in a state, and what becomes of them. -/
structure State.Scoped (s : State) : Prop where
  /-- An environment that is not a root refers to one. -/
  refers : ∀ id, s.isRoot id = false →
    ∃ r, s.rootAt id = some (some r) ∧ s.rootAt r = some none
  /-- All environments have one table of functions: calls are the same from each. -/
  shared : ∀ id other fuel name args,
    Interpreter.callFunction fuel id name args s = Interpreter.callFunction fuel other name args s
  /-- Functions are in the table under their names. -/
  labelled : ∀ entry ∈ s.functions.entries, entry.2.name = entry.1
  /-- A variable is looked up in the environment itself, whatever environments it was made under,
  and then in the root, and nowhere else. -/
  lookup : ∀ id name span, Run.lookup id name span s =
    match (s.local? id name).or (s.local? State.root name) with
    | some v => .value v s
    | none =>
      let message := (Fault.undefinedVariable name).message
      .failure (.diagnostic { kind := .unresolvedName, message := message, span := some span }) s
  /-- No operations lose anything, failing or not. -/
  kept : ∀ t, Relation.ReflTransGen Operation s t → s.Grows t
  /-- No evaluation loses anything, failing or not, nor is anything lost in the middle of it. -/
  keptWithin : ∀ fuel (work : Work), (work.run fuel s).Leaves s.Grows ∧
    ∀ calls m, Reaches ⟨fuel, work, s, calls⟩ m → s.Grows m.state
  /-- A name that is in the table is never left to the library again. -/
  called : ∀ t, s.Grows t → ∀ name ∈ s.functionNames, ∃ c, t.function? name = some c ∧
    ∀ serve scope args span,
      callNamed serve scope name args span t = c.call serve scope args span t
  /-- A registration on an environment that is not a root fails, and changes nothing. -/
  refused : ∀ id f, s.isRoot id = false → ∃ d : Diagnostic, d.kind = .registration ∧
    s.register id f = .error (.diagnostic d) ∧
    ∀ session : Session, session.state = s → ∀ fuel name item env, session.scope? env = some id →
      Catalog.find? item name = some f →
        session.step fuel (.register name item env) = (session, .result (.error (.diagnostic d)))

/-- Whatever a host did before, and at every moment of an evaluation, there are one root and one
table of functions, to which names are only added at the end. -/
theorem scopes_and_functions {settings : Settings} {s : State} (observed : Observed settings s) :
    s.Scoped := by
  have orderly := observed.orderly
  have one := orderly.oneRoot
  refine ⟨fun id => one.refers, fun id other fuel name args => ?_, orderly.labelled,
    fun id name span => ?_, fun t operations => grows_of_operations operations,
    fun fuel work => ⟨work.run_grows fuel s, fun calls m reaches => reaches.grows⟩,
    fun t grown name member => grown.called member, fun id f inner => ?_⟩
  · have same : s.rootOf id = s.rootOf other := (one.rootOf id).trans (one.rootOf other).symm
    exact callNamed_of_rootOf same _ name args .zero
  · unfold Run.lookup
    rw [one.lookup? id]
    cases (s.local? id name).or (s.local? State.root name) with
    | none => rfl
    | some v => rfl
  · have refused : s.register id f = .error (Fault.childRegistration f.name).bare :=
      if_neg (Bool.eq_false_iff.1 inner)
    refine ⟨_, rfl, refused, fun session same fuel name item env here found => ?_⟩
    exact Session.step_register_refused here found (same.symm ▸ refused) fuel

/-- In the environment of a call a variable of the caller is not found, and no function can be
registered, while the one that was declared there is in the table for all. -/
theorem scopes_and_functions_call : ∃ (s : State) (m : Moment), Observed {} s ∧
    Reaches ⟨9, .task (.call (.made 1) "f" [] .zero), s, 0⟩ m ∧
    s.local? (.made 1) "x" = some (.bool true) ∧
    Run.lookup (.frame 0) "x" .zero m.state =
      .failure ((Fault.undefinedVariable "x").atSpan .zero) m.state ∧
    (∃ d : Diagnostic, d.kind = .registration ∧
      m.state.register (.frame 0) .print = .error (.diagnostic d)) ∧
    m.state.functionNames = ["print", "f"] := by
  let f : Declaration := ⟨"f", [], [], false, .zero⟩
  let child := ((State.initial {}).child State.root).1
  let declared := child.install "f" (.scripted f)
  have evaluated : ((Work.expr (.made 1) (.function f .zero)).run 9 child).Ends declared := rfl
  let s := declared.bind (.made 1) "x" (.bool true)
  have bound : (Run.assign (.made 1) "x" (.bool true) .zero declared).Ends s := rfl
  have reached : Relation.ReflTransGen Operation (.initial {}) s :=
    ((Relation.ReflTransGen.single (.child State.root)).tail (.evaluated evaluated)).tail
      (.bound bound)
  have calls : Reaches ⟨9, .task (.call (.made 1) "f" [] .zero), s, 0⟩
      ⟨8, .body (.frame 0) .null [], s.enter.push (.made 1), 1⟩ :=
    .single (.scripted (d := f) rfl rfl (by decide) rfl)
  have during := scopes_and_functions (.during reached calls)
  have hidden := during.lookup (.frame 0) "x" .zero
  obtain ⟨d, kind, refused, -⟩ := during.refused (.frame 0) .print rfl
  exact ⟨s, _, .between reached, calls, rfl, hidden, ⟨d, kind, refused⟩, rfl⟩

end Scriptlet
