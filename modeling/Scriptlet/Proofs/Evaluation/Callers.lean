import Scriptlet.Proofs.Evaluation.Depth
import Scriptlet.Proofs.Evaluation.Mirror

/-
  Where a call is made from.
  A call is evaluated in a new environment under the root of its caller, so all callers under one
  root are alike (`callNamed_of_rootOf`). The locals of the caller are out of reach from there: no
  environment looks variables up in one that is not a root, and code is only executed in new
  environments and in those that the host names. Main statement: `call_independent_of_caller`.
-/

namespace Scriptlet

namespace State

variable {s t : State} {id other : ScopeId}

/-! ## Roots -/

/-- The first environment is a root, and every environment is a root or refers to one. -/
structure Rooted (s : State) : Prop where
  top : s.rootAt root = some none
  refers : ∀ id r, s.rootAt id = some (some r) → s.rootAt r = some none

theorem rooted_initial (settings : Settings) : (initial settings).Rooted where
  top := rfl
  refers id r found := by
    rcases id with (- | n) | n
    · cases found
    · cases found
    · cases found

theorem Rooted.of_rootAt (rooted : s.Rooted) (same : t.rootAt = s.rootAt) : t.Rooted := by
  refine ⟨?_, ?_⟩
  · rw [same]
    exact rooted.top
  · rw [same]
    exact rooted.refers

/-- The root of an environment is a root. -/
theorem Rooted.rootAt_rootOf (rooted : s.Rooted) (id : ScopeId) :
    s.rootAt (s.rootOf id) = some none := by
  rw [rootOf_eq]
  cases found : s.rootAt id with
  | none => exact rooted.top
  | some refers =>
    cases refers with
    | none => exact found
    | some r => exact rooted.refers id r found

/-- An environment that is made under another one refers to a root. -/
theorem Rooted.child (rooted : s.Rooted) (id : ScopeId) : (s.child id).1.Rooted where
  top := (Extends.child s id).roots _ _ rooted.top
  refers other r found := by
    refine (Extends.child s id).roots _ _ ?_
    rw [rootAt_child] at found
    split at found
    next =>
      cases found
      exact rooted.rootAt_rootOf id
    next => exact rooted.refers other r found

end State

/-! ## Callers under one root -/

section

variable {s : State} {caller other : ScopeId}

theorem State.push_of_rootOf (same : s.rootOf caller = s.rootOf other) :
    s.push caller = s.push other := by
  unfold State.push
  rw [same]

/-- A new environment is the same for all callers under one root. -/
theorem inFrame_of_rootOf {α : Type} (same : s.rootOf caller = s.rootOf other)
    (m : ScopeId → Run α) : inFrame caller m s = inFrame other m s := by
  unfold inFrame Run.between
  simp only [State.push_of_rootOf same]

/-- A call by name is the same for all callers under one root. -/
theorem callNamed_of_rootOf (same : s.rootOf caller = s.rootOf other) (serve : Server)
    (name : String) (args : List Value) (span : Span) :
    callNamed serve caller name args span s = callNamed serve other name args span s := by
  unfold callNamed
  split
  next => rfl
  next d found =>
    unfold callDeclared
    split
    next =>
      have entered : s.enter.rootOf caller = s.enter.rootOf other := same
      exact Run.counted_congr span fun _ => inFrame_of_rootOf entered _
    next => rfl
  next => rfl

end

/-! ## The locals of an environment -/

/-- The request neither binds nor reads a variable of the environment, and executes no source in
it. -/
def HostRequest.Spares (id : ScopeId) : HostRequest → Prop
  | .execute scope _ | .define scope _ _ | .read scope _ _ | .bindings scope => scope ≠ id
  | _ => True

namespace State

variable {s t : State} {id other : ScopeId} {locals : Bindings Value}

/-- The state with other variables in an environment. -/
def withLocals (s : State) (id : ScopeId) (locals : Bindings Value) : State :=
  s.update id fun _ => locals

/-! A change of one environment commutes with what is done elsewhere. -/

section

variable {change change' : Bindings Value → Bindings Value}

/-- States that differ in environments at most are the same if no environment differs. -/
theorem eq_of_scope? (same : ∀ id, t.scope? id = s.scope? id)
    (rest : { t with scopes := s.scopes, frames := s.frames } = s) : t = s := by
  have scopes : t.scopes = s.scopes := Array.ext_getElem? fun n => same (.made n)
  have frames : t.frames = s.frames := Array.ext_getElem? fun n => same (.frame n)
  rw [← scopes, ← frames] at rest
  exact rest

theorem nextFrame_update : (s.update id change).nextFrame = s.nextFrame := by
  cases id with
  | made n => rfl
  | frame n => exact congrArg ScopeId.frame Array.size_modify

theorem child_made_update (caller : ScopeId) :
    ((s.update id change).child caller).2 = (s.child caller).2 := by
  cases id with
  | made n => exact congrArg ScopeId.made Array.size_modify
  | frame n => rfl

theorem update_update (different : other ≠ id) :
    (s.update other change').update id change = (s.update id change).update other change' := by
  refine eq_of_scope? (fun here => ?_) rfl
  rw [scope?_update, scope?_update, scope?_update, scope?_update]
  by_cases own : id = here
  · have elsewhere : other ≠ here := own ▸ different
    rw [if_pos own, if_neg elsewhere, if_neg elsewhere, if_pos own]
  · rw [if_neg own, if_neg own]

theorem push_update (old : id ≠ s.nextFrame) (caller : ScopeId) :
    (s.push caller).update id change = (s.update id change).push caller := by
  refine eq_of_scope? (fun here => ?_) rfl
  rw [scope?_update, scope?_push, scope?_push, scope?_update, nextFrame_update,
    rootOf_of_rootAt (s.rootAt_update id change)]
  by_cases own : id = here
  · have elsewhere : here ≠ s.nextFrame := own ▸ old
    rw [if_pos own, if_neg elsewhere, if_neg elsewhere, if_pos own]
  · rw [if_neg own, if_neg own]

theorem pop_update : s.pop.update id change = (s.update id change).pop := by
  have size : (s.update id change).frames.size = s.frames.size :=
    ScopeId.frame.inj nextFrame_update
  refine eq_of_scope? (fun here => ?_) rfl
  rw [scope?_update, scope?_pop, scope?_pop, scope?_update, size]
  by_cases last : here = .frame (s.frames.size - 1)
  · rw [if_pos last, if_pos last]
    exact ite_self none
  · rw [if_neg last, if_neg last]

theorem child_update {caller : ScopeId} (old : id ≠ (s.child caller).2) :
    (s.update id change).child caller =
      ((s.child caller).1.update id change, (s.child caller).2) := by
  refine Prod.ext (eq_of_scope? (fun here => ?_) rfl) (child_made_update caller)
  rw [scope?_child, child_made_update, scope?_update, scope?_update, scope?_child,
    rootOf_of_rootAt (s.rootAt_update id change)]
  by_cases own : id = here
  · have elsewhere : here ≠ (s.child caller).2 := own ▸ old
    rw [if_pos own, if_neg elsewhere, if_neg elsewhere, if_pos own]
  · rw [if_neg own, if_neg own]

end

/-- There is the environment, which refers to a root, none refers to it, and the host leaves it
alone. -/
structure Hides (s : State) (id : ScopeId) : Prop where
  inner : ∃ r, s.rootAt id = some (some r)
  first : id ≠ root
  apart : ∀ other r, s.rootAt other = some (some r) → r ≠ id
  host : s.AsksOnly (HostRequest.Spares id)

theorem Rooted.hides (rooted : s.Rooted) (inner : s.isRoot id = false)
    (host : s.AsksOnly (HostRequest.Spares id)) : s.Hides id := by
  obtain ⟨r, refers⟩ := exists_root_of_isRoot inner
  refine ⟨⟨r, refers⟩, ?_, fun other r' found => ?_, host⟩
  · rintro rfl
    cases refers.symm.trans rooted.top
  · rintro rfl
    cases refers.symm.trans (rooted.refers other r' found)

namespace Hides

variable (hides : s.Hides id)
include hides

theorem of_host (host : t.AsksOnly (HostRequest.Spares id)) (roots : t.rootAt = s.rootAt) :
    t.Hides id where
  inner := roots ▸ hides.inner
  first := hides.first
  apart := roots ▸ hides.apart
  host := host

/-- No environment looks variables up in it. -/
theorem rootOf_ne (other : ScopeId) : s.rootOf other ≠ id := by
  obtain ⟨r, refers⟩ := hides.inner
  intro same
  rw [rootOf_eq] at same
  cases found : s.rootAt other with
  | none =>
    rw [found] at same
    exact hides.first same.symm
  | some root =>
    rw [found] at same
    cases root with
    | none =>
      have same' : other = id := same
      rw [same', refers] at found
      cases found
    | some r' => exact hides.apart other r' found same

/-- An environment that is made has another name. -/
theorem ne_of_fresh {new : ScopeId} (fresh : s.scope? new = none) : id ≠ new := by
  obtain ⟨r, refers⟩ := hides.inner
  rintro rfl
  rw [rootAt, fresh] at refers
  cases refers

theorem push (caller : ScopeId) : (s.push caller).Hides id where
  inner := by
    rw [rootAt_push, if_neg (hides.ne_of_fresh s.scope?_nextFrame)]
    exact hides.inner
  first := hides.first
  apart other r found := by
    rw [rootAt_push] at found
    split at found
    next =>
      cases found
      exact hides.rootOf_ne caller
    next => exact hides.apart other r found
  host := hides.host.of_same rfl rfl

theorem child (caller : ScopeId) : (s.child caller).1.Hides id where
  inner := by
    obtain ⟨r, refers⟩ := hides.inner
    exact ⟨r, (Extends.child s caller).roots _ _ refers⟩
  first := hides.first
  apart other r found := by
    rw [rootAt_child] at found
    split at found
    next =>
      cases found
      exact hides.rootOf_ne caller
    next => exact hides.apart other r found
  host := hides.host.of_same rfl rfl

/-- The environment of a call is gone, and the other ones are what they were. -/
theorem pop (hides' : t.Hides id) (still : s.Extends t.pop) : t.pop.Hides id where
  inner := by
    obtain ⟨r, refers⟩ := hides.inner
    exact ⟨r, still.roots _ _ refers⟩
  first := hides.first
  apart other r found := by
    rw [rootAt_pop] at found
    split at found
    next => cases found
    next => exact hides'.apart other r found
  host := hides'.host.of_same rfl rfl

end Hides

end State

/-- Evaluation while the host leaves an environment alone that is no root. -/
def sparing (id : ScopeId) : Effect where
  code := .any
  permits := HostRequest.Spares id
  legal s := s.Hides id
  changes _ := State.Extends
  refl _ := .refl
  trans := .trans
  widen h := h
  parsed := Program.everywhere_any
  native hides found := hides.host.native found
  scripted _ _ := Declaration.everywhere_of_all (fun _ => trivial) (fun _ => trivial) _
  handler hides := hides.host.handler
  install hides _ := ⟨hides.of_host (hides.host.install _ _) rfl, .of_rootAt rfl rfl⟩
  record _ hides := ⟨hides.of_host (hides.host.of_same rfl rfl) rfl, .of_rootAt rfl rfl⟩
  assign other name hides _ :=
    ⟨hides.of_host (hides.host.of_same rfl rfl) (State.rootAt_bind _ other name _),
      .bind _ other name _⟩
  define _ h := h
  execute _ h := h
  handling hides _ := ⟨hides.of_host (hides.host.of_same rfl rfl) rfl, fun _ hides' h =>
    ⟨hides'.of_host (hides'.host.of_same rfl rfl) rfl, ⟨h.roots, h.frames⟩⟩⟩
  call hides _ := ⟨hides.of_host (hides.host.of_same rfl rfl) rfl, fun _ hides' h =>
    ⟨hides'.of_host (hides'.host.of_same rfl rfl) rfl, ⟨h.roots, h.frames⟩⟩⟩
  frame caller hides := ⟨hides.push caller, fun _ hides' h => ⟨hides.pop hides' h.pop, h.pop⟩⟩
  child caller hides := ⟨hides.child caller, .child _ caller⟩
  register _ own hides := ⟨hides.of_host (hides.host.register own) rfl, .of_rootAt rfl rfl⟩
  replace _ own hides _ := ⟨hides.of_host ⟨hides.host.native, own⟩ rfl, .of_rootAt rfl rfl⟩

/-- The second run has other variables in the given environment. -/
def otherLocals (id : ScopeId) (locals : Bindings Value) : Mirror where
  effect := sparing id
  scopes envs := match id with
    | .made n => envs.modify n (.update fun _ => locals)
    | .frame _ => envs
  frames envs := match id with
    | .made _ => envs
    | .frame n => envs.modify n (.update fun _ => locals)
  limit n := n
  sees other := other ≠ id
  gaps := False
  raises _ := Nat.le_refl _
  roots s := s.rootAt_update id _
  kept {s other} different := (s.scope?_update id other _).trans (if_neg different.symm)
  bind _ _ different := State.update_update different
  next _ := State.nextFrame_update
  push {s} caller hides := State.push_update (hides.ne_of_fresh s.scope?_nextFrame) caller
  pop _ := State.pop_update
  child {s} caller hides := State.child_update (hides.ne_of_fresh (s.scope?_child_made caller))
  root other hides := hides.rootOf_ne other
  frame {s} hides := (hides.ne_of_fresh s.scope?_nextFrame).symm
  execute permitted := permitted
  define permitted := permitted
  read permitted := permitted
  bindings permitted := permitted

theorem serve_mirrors_locals (id : ScopeId) (locals : Bindings Value) (fuel : Nat) :
    Server.Mirrors (otherLocals id locals) (serve fuel) (serve fuel) := by
  induction fuel with
  | zero => exact ⟨serve_obeys _ 0, fun _ _ _ _ _ => .inl rfl⟩
  | succ fuel ih => exact step_mirrors ih fun _ => rfl

/-- No call depends on the variables of an environment that is no root and that the host leaves
alone, and none changes them. -/
theorem callNamed_withLocals {s : State} {id : ScopeId} (hides : s.Hides id)
    (locals : Bindings Value) (fuel : Nat) (caller : ScopeId) (name : String) (args : List Value)
    (span : Span) :
    callNamed (serve fuel) caller name args span (s.withLocals id locals) =
      (callNamed (serve fuel) caller name args span s).map (·.withLocals id locals) := by
  have mirrored := callNamed_mirrored (serve_mirrors_locals id locals fuel) hides caller name args
    span fun _ => rfl
  rcases mirrored with same | ⟨gap, -⟩
  · exact same
  · exact gap.elim

/-- A call does not depend on where it is made: from all environments under one root it ends with
the same value or failure and in the same state. Where roots are roots themselves, as in every
session, a caller that is none and that the host leaves alone may also hold any other variables: no
call reads them, and they stay as they are. -/
theorem call_independent_of_caller {s : State} {caller other : ScopeId}
    (same : s.rootOf caller = s.rootOf other) (fuel : Nat) (name : String) (args : List Value) :
    Interpreter.callFunction fuel caller name args s =
      Interpreter.callFunction fuel other name args s ∧
    (s.Rooted → s.isRoot caller = false → s.AsksOnly (HostRequest.Spares caller) → ∀ locals,
      Interpreter.callFunction fuel other name args (s.withLocals caller locals) =
        (Interpreter.callFunction fuel caller name args s).map (·.withLocals caller locals)) := by
  have alike := callNamed_of_rootOf same (serve fuel) name args .zero
  refine ⟨alike, fun rooted inner host locals => ?_⟩
  have hides : s.Hides caller := rooted.hides inner host
  show _ = Outcome.map _ (callNamed (serve fuel) caller name args .zero s)
  rw [alike]
  exact callNamed_withLocals hides locals fuel other name args .zero

/-- A function that reads a variable of its caller fails, whatever that holds. -/
theorem call_independent_of_caller_local :
    ∃ s t : State, s.local? (.made 1) "x" = some (.bool true) ∧
      Interpreter.callFunction 9 (.made 1) "f" [] s =
        .failure ((Fault.undefinedVariable "x").atSpan .zero) t ∧
      Interpreter.callFunction 9 (.made 2) "f" [] (s.withLocals (.made 1) .empty) =
        .failure ((Fault.undefinedVariable "x").atSpan .zero) (t.withLocals (.made 1) .empty) := by
  let d : Declaration := ⟨"f", [], [.expr (.variable "x" .zero) .zero], false, .zero⟩
  let start := (State.initial {}).install "f" (.scripted d)
  let holding := (start.child State.root).1.bind (.made 1) "x" (.bool true)
  let s := (holding.child (.made 1)).1
  have asks : start.AsksOnly (HostRequest.Spares (.made 1)) :=
    (State.asksOnly_initial {} (fun _ => trivial) fun _ => trivial).install "f" d
  have rootedStart : start.Rooted := (State.rooted_initial {}).of_rootAt rfl
  have rootedHolding : holding.Rooted :=
    (rootedStart.child State.root).of_rootAt (State.rootAt_bind _ _ _ _)
  have same : s.rootOf (.made 1) = s.rootOf (.made 2) := rfl
  have independent := call_independent_of_caller same 9 "f" []
  have hidden := independent.2 (rootedHolding.child _) rfl (asks.of_same rfl rfl) .empty
  have ended : Interpreter.callFunction 9 (.made 1) "f" [] s =
      .failure ((Fault.undefinedVariable "x").atSpan .zero) _ := rfl
  rw [ended] at hidden
  exact ⟨s, _, rfl, ended, hidden⟩

end Scriptlet
