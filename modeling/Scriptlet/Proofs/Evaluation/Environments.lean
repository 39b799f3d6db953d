import Scriptlet.Proofs.Evaluation.Effect

/-
  What happens to environments.
  Each operation on states is told by what it makes of the environment that goes by a name
  (`scope?_bind`, `scope?_push`, `scope?_pop`, `scope?_child`). A state extends another one if it
  has the environments of that, under the same roots, and the same calls are under way; only
  variables may differ then, and `OnlyWrites` says of which environment. The environment of a call
  is gone with the call, whatever is made or written meanwhile (`Extends.pop`, `OnlyWrites.frame`).
-/

namespace Scriptlet

namespace State

variable (s : State) (id other : ScopeId)

/-! ## The environment that goes by a name -/

theorem scope?_update (change : Bindings Value → Bindings Value) :
    (s.update id change).scope? other =
      if id = other then (s.scope? other).map (.update change) else s.scope? other := by
  cases id with
  | made n =>
    cases other with
    | made k => simp only [update, scope?, Array.getElem?_modify, ScopeId.made.injEq]
    | frame k => rw [if_neg nofun]; rfl
  | frame n =>
    cases other with
    | made k => rw [if_neg nofun]; rfl
    | frame k => simp only [update, scope?, Array.getElem?_modify, ScopeId.frame.injEq]

theorem scope?_bind (name : String) (v : Value) : (s.bind id name v).scope? other =
    if id = other then (s.scope? other).map (.update (·.insert name v)) else s.scope? other :=
  s.scope?_update id other _

theorem size_scopes_bind (name : String) (v : Value) :
    (s.bind id name v).scopes.size = s.scopes.size := by
  cases id with
  | made n => exact Array.size_modify
  | frame n => rfl

theorem scope?_nextFrame : s.scope? s.nextFrame = none :=
  Array.getElem?_eq_none (Nat.le_refl _)

theorem scope?_push : (s.push id).scope? other =
    if other = s.nextFrame then some ⟨.empty, some (s.rootOf id)⟩ else s.scope? other := by
  cases other with
  | made k => rw [if_neg nofun]; rfl
  | frame k => simp only [push, nextFrame, scope?, Array.getElem?_push, ScopeId.frame.injEq]

theorem scope?_pop : s.pop.scope? other =
    if other = .frame (s.frames.size - 1) then none else s.scope? other := by
  cases other with
  | made k => rw [if_neg nofun]; rfl
  | frame k =>
    simp only [pop, scope?, Array.getElem?_pop, ScopeId.frame.injEq]
    rcases Nat.lt_trichotomy k (s.frames.size - 1) with below | here | beyond
    · rw [if_pos below, if_neg (Nat.ne_of_lt below)]
    · rw [if_neg (Nat.not_lt_of_le (Nat.le_of_eq here.symm)), if_pos here]
    · rw [if_neg (Nat.lt_asymm beyond), if_neg (Nat.ne_of_gt beyond),
        Array.getElem?_eq_none (Nat.le_of_pred_lt beyond)]

theorem scope?_child_made : s.scope? (s.child id).2 = none :=
  Array.getElem?_eq_none (Nat.le_refl _)

theorem scope?_child : (s.child id).1.scope? other =
    if other = (s.child id).2 then some ⟨.empty, some (s.rootOf id)⟩ else s.scope? other := by
  cases other with
  | made k => simp only [child, scope?, Array.getElem?_push, ScopeId.made.injEq]
  | frame k => rw [if_neg nofun]; rfl

/-! ## Roots -/

/-- What an environment refers to as its root, if there is an environment. -/
def rootAt : Option (Option ScopeId) :=
  (s.scope? id).map Scope.root

/-- The root of an environment is told by what that refers to. -/
theorem rootOf_eq : s.rootOf id = match s.rootAt id with
    | some r => r.getD id
    | none => root := by
  unfold rootOf rootAt
  rcases s.scope? id with - | ⟨bindings, - | r⟩
  · rfl
  · rfl
  · rfl

theorem rootOf_of_rootAt {s t : State} (same : t.rootAt = s.rootAt) (id : ScopeId) :
    t.rootOf id = s.rootOf id := by
  rw [rootOf_eq, rootOf_eq, same]

/-- Whether an environment is a root is told by what it refers to. -/
theorem isRoot_eq : s.isRoot id = match s.rootAt id with
    | some (some _) => false
    | _ => true := by
  unfold isRoot rootAt
  rcases s.scope? id with - | ⟨bindings, - | r⟩
  · rfl
  · rfl
  · rfl

theorem isRoot_of_rootAt {s t : State} {id : ScopeId} (same : t.rootAt id = s.rootAt id) :
    t.isRoot id = s.isRoot id := by
  rw [isRoot_eq, isRoot_eq, same]

/-- An environment that is not a root refers to one. -/
theorem exists_root_of_isRoot {s : State} {id : ScopeId} (inner : s.isRoot id = false) :
    ∃ r, s.rootAt id = some (some r) := by
  rw [isRoot_eq] at inner
  split at inner
  next r found => exact ⟨r, found⟩
  next => cases inner

/-- A variable is looked up in the environment and in its root, and nowhere else. -/
theorem lookup?_of_scope? {s t : State} {id : ScopeId} (name : String)
    (own : t.scope? id = s.scope? id) (root : t.rootOf id = s.rootOf id)
    (there : t.scope? (s.rootOf id) = s.scope? (s.rootOf id)) :
    t.lookup? id name = s.lookup? id name := by
  unfold lookup? local?
  rw [own, root, there]

theorem rootAt_of_scope? {s t : State} {id : ScopeId} (same : t.scope? id = s.scope? id) :
    t.rootAt id = s.rootAt id :=
  congrArg (Option.map Scope.root) same

/-- A change of variables does not change roots. -/
theorem rootAt_update (change : Bindings Value → Bindings Value) :
    (s.update id change).rootAt = s.rootAt := by
  funext other
  unfold rootAt
  rw [scope?_update]
  split
  next =>
    rw [Option.map_map]
    rfl
  next => rfl

theorem rootAt_bind (name : String) (v : Value) : (s.bind id name v).rootAt = s.rootAt :=
  s.rootAt_update id _

theorem rootAt_push : (s.push id).rootAt other =
    if other = s.nextFrame then some (some (s.rootOf id)) else s.rootAt other := by
  unfold rootAt
  rw [scope?_push]
  split <;> rfl

theorem rootAt_pop : s.pop.rootAt other =
    if other = .frame (s.frames.size - 1) then none else s.rootAt other := by
  unfold rootAt
  rw [scope?_pop]
  split <;> rfl

theorem rootAt_child : (s.child id).1.rootAt other =
    if other = (s.child id).2 then some (some (s.rootOf id)) else s.rootAt other := by
  unfold rootAt
  rw [scope?_child]
  split <;> rfl

/-! ## Environments that stay -/

/-- The second state has the environments of the first one, each under its root, and the calls under
way are the same; other environments may have been made. -/
structure Extends (s t : State) : Prop where
  roots : ∀ id r, s.rootAt id = some r → t.rootAt id = some r
  frames : t.frames.size = s.frames.size

namespace Extends

variable {s t u : State} {id : ScopeId}

theorem of_rootAt (roots : t.rootAt = s.rootAt) (frames : t.frames.size = s.frames.size) :
    s.Extends t :=
  ⟨fun _ _ found => roots ▸ found, frames⟩

theorem refl (s : State) : s.Extends s :=
  .of_rootAt rfl rfl

theorem trans (first : s.Extends t) (next : t.Extends u) : s.Extends u where
  roots id r found := next.roots id r (first.roots id r found)
  frames := next.frames.trans first.frames

theorem bind (s : State) (id : ScopeId) (name : String) (v : Value) :
    s.Extends (s.bind id name v) := by
  refine .of_rootAt (s.rootAt_bind id name v) ?_
  cases id with
  | made n => rfl
  | frame n => exact Array.size_modify

theorem child (s : State) (id : ScopeId) : s.Extends (s.child id).1 where
  roots other r found := by
    have old : other ≠ (s.child id).2 := by
      rintro rfl
      rw [rootAt, scope?_child_made] at found
      cases found
    rw [rootAt_child, if_neg old]
    exact found
  frames := rfl

theorem ne_nextFrame {r : Option ScopeId} (found : s.rootAt id = some r) : id ≠ s.nextFrame := by
  rintro rfl
  rw [rootAt, scope?_nextFrame] at found
  cases found

/-- The environment of the newest call is that of the call that was entered. -/
theorem newest (h : (s.push id).Extends t) : ScopeId.frame (t.frames.size - 1) = s.nextFrame := by
  have size : (s.push id).frames.size = s.frames.size + 1 := Array.size_push _
  rw [h.frames, size]
  rfl

/-- Without the environment of the call, the environments of before are there, and those that were
made meanwhile. -/
theorem pop (h : (s.push id).Extends t) : s.Extends t.pop where
  roots other r found := by
    have old := ne_nextFrame found
    have pushed : (s.push id).rootAt other = some r := by
      rw [rootAt_push, if_neg old]
      exact found
    rw [rootAt_pop, h.newest, if_neg old]
    exact h.roots other r pushed
  frames := by
    have size : (s.push id).frames.size = s.frames.size + 1 := Array.size_push _
    show t.frames.pop.size = _
    rw [Array.size_pop, h.frames, size]
    rfl

end Extends

end State

/-- The second state has the environments of the first one, with the same variables except in
`w`. -/
structure OnlyWrites (w : Option ScopeId) (s t : State) : Prop extends s.Extends t where
  kept : ∀ {id scope}, w ≠ some id → s.scope? id = some scope → t.scope? id = some scope

namespace OnlyWrites

open State

variable {w : Option ScopeId} {id : ScopeId} {s t u : State}

theorem of_scope? (same : t.scope? = s.scope?) (frames : t.frames.size = s.frames.size) :
    OnlyWrites w s t where
  toExtends := .of_rootAt (funext fun id => rootAt_of_scope? (congrFun same id)) frames
  kept _ found := same ▸ found

theorem widen (h : OnlyWrites none s t) : OnlyWrites w s t :=
  ⟨h.toExtends, fun _ => h.kept nofun⟩

theorem trans (first : OnlyWrites w s t) (next : OnlyWrites w t u) : OnlyWrites w s u where
  toExtends := first.toExtends.trans next.toExtends
  kept other found := next.kept other (first.kept other found)

theorem bind (s : State) (id : ScopeId) (name : String) (v : Value) :
    OnlyWrites (some id) s (s.bind id name v) where
  toExtends := .bind s id name v
  kept {other _} different found := by
    have ne : id ≠ other := fun same => different (congrArg some same)
    rw [scope?_bind, if_neg ne]
    exact found

theorem child (s : State) (id : ScopeId) : OnlyWrites w s (s.child id).1 where
  toExtends := .child s id
  kept {other _} _ found := by
    have old : other ≠ (s.child id).2 := by
      rintro rfl
      rw [scope?_child_made] at found
      cases found
    rw [scope?_child, if_neg old]
    exact found

/-- What is written in the environment of a call is gone with it. -/
theorem frame (h : OnlyWrites (some s.nextFrame) (s.push id) t) : OnlyWrites none s t.pop where
  toExtends := h.toExtends.pop
  kept {other scope} _ found := by
    have old : other ≠ s.nextFrame := by
      rintro rfl
      rw [scope?_nextFrame] at found
      cases found
    have pushed : (s.push id).scope? other = some scope := by
      rw [scope?_push, if_neg old]
      exact found
    rw [scope?_pop, h.newest, if_neg old]
    exact h.kept (fun same => old (Option.some.inj same).symm) pushed

/-- If nothing is written, the environments of calls are what they were. -/
theorem frames_eq (h : OnlyWrites none s t) : t.frames = s.frames := by
  refine Array.ext_getElem? fun n => ?_
  cases found : s.frames[n]? with
  | some scope =>
    have known : s.scope? (.frame n) = some scope := found
    exact h.kept nofun known
  | none =>
    have beyond : t.frames.size ≤ n := h.frames ▸ Array.getElem?_eq_none_iff.1 found
    exact Array.getElem?_eq_none beyond

end OnlyWrites

end Scriptlet
