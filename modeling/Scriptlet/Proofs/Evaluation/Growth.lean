import Scriptlet.Proofs.Evaluation.Depth

/-
  What is never lost.
  A name that is bound keeps its place and a new one is added at the end, of the table of functions
  as of the variables of an environment; no environment comes under another root. So of two states
  that follow each other the second one has all that the first one has, in the same order
  (`State.Grows`), however an evaluation between them ends (`Work.run_grows`) and wherever it has
  come to (`Reaches.grows`). The environments of calls are not lost either while the calls last.
-/

namespace Scriptlet

/-- Binding a name leaves those that are bound in front. -/
theorem Bindings.names_prefix_insert {β : Type} (b : Bindings β) (name : String) (value : β) :
    b.names <+: (b.insert name value).names := by
  rw [names_insert]
  split
  · exact List.prefix_rfl
  · exact List.prefix_append _ _

namespace State

/-- The names of an environment's own variables, oldest first. -/
def variableNames (s : State) (id : ScopeId) : List String :=
  (s.bindings id).map Prod.fst

variable {s t u : State} {id : ScopeId}

theorem variableNames_of_some {scope : Scope} (found : s.scope? id = some scope) :
    s.variableNames id = scope.bindings.names := by
  unfold variableNames bindings
  rw [found]
  rfl

theorem variableNames_of_none (none : s.scope? id = none) : s.variableNames id = [] := by
  unfold variableNames bindings
  rw [none]
  rfl

theorem variableNames_of_scope? (same : t.scope? id = s.scope? id) :
    t.variableNames id = s.variableNames id := by
  unfold variableNames bindings
  rw [same]

theorem variableNames_bind (s : State) (id : ScopeId) (name : String) (v : Value)
    (other : ScopeId) : s.variableNames other <+: (s.bind id name v).variableNames other := by
  have bound := s.scope?_bind id other name v
  split at bound
  next =>
    cases found : s.scope? other with
    | none =>
      rw [variableNames_of_none found]
      exact List.nil_prefix
    | some scope =>
      rw [found] at bound
      rw [variableNames_of_some found, variableNames_of_some bound]
      exact scope.bindings.names_prefix_insert name v
  next => exact variableNames_of_scope? bound ▸ List.prefix_rfl

/-- A new environment has no variables. -/
theorem variableNames_new {new : ScopeId} {root : Option ScopeId} (fresh : s.scope? new = none)
    (made : ∀ other, t.scope? other = if other = new then some ⟨.empty, root⟩ else s.scope? other)
    (other : ScopeId) : t.variableNames other = s.variableNames other := by
  have here := made other
  split at here
  next same =>
    subst same
    rw [variableNames_of_some here, variableNames_of_none fresh]
    rfl
  next => exact variableNames_of_scope? here

/-- The second state has the functions, the environments and the variables of the first one, each
where it was among them. -/
structure Grows (s t : State) : Prop where
  functions : s.functionNames <+: t.functionNames
  roots : ∀ id r, s.rootAt id = some r → t.rootAt id = some r
  names : ∀ id, s.variableNames id <+: t.variableNames id

namespace Grows

theorem refl (s : State) : s.Grows s :=
  ⟨List.prefix_rfl, fun _ _ found => found, fun _ => List.prefix_rfl⟩

theorem of_same (functions : t.functions = s.functions) (scopes : t.scope? = s.scope?) :
    s.Grows t where
  functions := by
    have names : t.functionNames = s.functionNames := congrArg Bindings.names functions
    exact names ▸ List.prefix_rfl
  roots id _ found := (rootAt_of_scope? (congrFun scopes id)).trans found
  names id := variableNames_of_scope? (congrFun scopes id) ▸ List.prefix_rfl

theorem trans (first : s.Grows t) (next : t.Grows u) : s.Grows u where
  functions := first.functions.trans next.functions
  roots id r found := next.roots id r (first.roots id r found)
  names id := (first.names id).trans (next.names id)

theorem install (s : State) (name : String) (callable : Callable) :
    s.Grows (s.install name callable) where
  functions := s.functions.names_prefix_insert name callable
  roots _ _ found := found
  names _ := List.prefix_rfl

theorem bind (s : State) (id : ScopeId) (name : String) (v : Value) :
    s.Grows (s.bind id name v) where
  functions := List.prefix_rfl
  roots := (Extends.bind s id name v).roots
  names := s.variableNames_bind id name v

theorem push (s : State) (id : ScopeId) : s.Grows (s.push id) where
  functions := List.prefix_rfl
  roots other r found := by
    rw [rootAt_push, if_neg (Extends.ne_nextFrame found)]
    exact found
  names other := variableNames_new s.scope?_nextFrame (s.scope?_push id) other ▸ List.prefix_rfl

theorem child (s : State) (id : ScopeId) : s.Grows (s.child id).1 where
  functions := List.prefix_rfl
  roots := (Extends.child s id).roots
  names other :=
    variableNames_new (s.scope?_child_made id) (s.scope?_child id) other ▸ List.prefix_rfl

/-- Without the environment that was there meanwhile, nothing is lost that was there before. -/
theorem pop (grown : (s.push id).Grows t) (still : (s.push id).Extends t) : s.Grows t.pop where
  functions := grown.functions
  roots := still.pop.roots
  names other := by
    have popped := t.scope?_pop other
    rw [still.newest] at popped
    split at popped
    next same =>
      rw [same, variableNames_of_none s.scope?_nextFrame]
      exact List.nil_prefix
    next =>
      rw [variableNames_of_scope? popped,
        ← variableNames_new s.scope?_nextFrame (s.scope?_push id) other]
      exact grown.names other

end Grows

end State

/-- Evaluation of any code, with a host that may ask anything, loses nothing. -/
def growth : Effect :=
  { balance with
    changes := fun _ s t => s.Grows t ∧ s.Extends t
    refl := fun _ s => ⟨.refl s, .refl s⟩
    trans := fun first next => ⟨first.1.trans next.1, first.2.trans next.2⟩
    widen := fun h => h
    install := fun {s d _} _ _ =>
      ⟨trivial, .install s d.name (.scripted d), .of_rootAt rfl rfl⟩
    record := fun _ _ => ⟨trivial, .of_same rfl rfl, .of_rootAt rfl rfl⟩
    assign := fun id name _ _ => ⟨trivial, .bind _ id name _, .bind _ id name _⟩
    define := fun _ h => h
    execute := fun _ h => h
    handling := fun _ _ => ⟨trivial, fun _ _ h =>
      ⟨trivial, ⟨h.1.functions, h.1.roots, h.1.names⟩, ⟨h.2.roots, h.2.frames⟩⟩⟩
    call := fun _ _ => ⟨trivial, fun _ _ h =>
      ⟨trivial, ⟨h.1.functions, h.1.roots, h.1.names⟩, ⟨h.2.roots, h.2.frames⟩⟩⟩
    frame := fun _ _ => ⟨trivial, fun _ _ h => ⟨trivial, h.1.pop h.2, h.2.pop⟩⟩
    child := fun id _ => ⟨trivial, .child _ id, .child _ id⟩
    register := fun _ _ _ => ⟨trivial, .install _ _ _, .of_rootAt rfl rfl⟩
    replace := fun _ _ _ _ => ⟨trivial, .of_same rfl rfl, .of_rootAt rfl rfl⟩ }

theorem fits_growth (work : Work) : work.Fits growth :=
  Work.fits_of_all (fun _ => trivial) (fun _ => trivial) (work.only_of_all fun _ => trivial)

/-- However an evaluation ends, nothing is lost. -/
theorem Work.run_grows (work : Work) (fuel : Nat) (s : State) :
    (work.run fuel s).Leaves s.Grows :=
  (work.run_obeys (fits_growth work) fuel s trivial).mono fun _ ended => ended.2.1

/-- Nothing is lost where an evaluation comes to begin another one. -/
theorem Leads.grows {m m' : Moment} (h : Leads m m') : m.state.Grows m'.state := by
  obtain ⟨-, begun⟩ := h.begins (fits_growth m.work) trivial
  cases begun with
  | part w calls legal changes => exact changes.1
  | handling calls free state asked =>
    rw [state]
    exact .of_same rfl rfl
  | native calls room state =>
    rw [state]
    exact .of_same rfl rfl
  | scripted scope calls room legal changes =>
    have entered : m.state.Grows m.state.enter := .of_same rfl rfl
    exact (entered.trans (.push _ scope)).trans changes.1

/-- Nothing is lost on the way to any moment of a run, not even the environments of calls that are
under way. -/
theorem Reaches.grows {m m' : Moment} (h : Reaches m m') : m.state.Grows m'.state := by
  induction h with
  | refl => exact .refl _
  | tail _ step ih => exact ih.trans step.grows

end Scriptlet
