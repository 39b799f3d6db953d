import Mathlib.Data.List.Forall2
import Scriptlet.Proofs.Evaluation.Environments
import Scriptlet.Proofs.Evaluation.Likeness

/-
  States side by side.
  A pairing tells which environment of a first state answers to which of a second one; the two
  states may have made them in another order, and each may have others besides. States are alike
  if paired environments have the same variables and paired roots, functions of one name are alike,
  the host does alike things, and what is made next in both is paired. Every operation on states
  keeps this: binding a variable of paired environments, making one under each, entering a call and
  leaving it (`State.Alike.bind`, `child`, `push`, `pop`). A state is like itself if its functions
  and its host are (`State.alike_self`).
-/

namespace Scriptlet

/-- Which environments of two states answer to one another. -/
structure Pairing where
  /-- How many calls are under way in the first state, and in the second one. -/
  left : Nat
  right : Nat
  rel : ScopeId → ScopeId → Prop
  /-- The environments that the host names. -/
  named : ScopeId → ScopeId → Prop
  of_named : ∀ {i j}, named i j → rel i j
  apart : ∀ {i j i' j'}, rel i j → rel i' j' → (i = i' ↔ j = j')
  first : rel State.root State.root
  /-- Calls that are entered at the same time have paired environments. -/
  frames : ∀ k, rel (.frame (left + k)) (.frame (right + k))

namespace Pairing

/-- Every environment answers to itself. -/
def identity (calls : Nat) : Pairing where
  left := calls
  right := calls
  rel := Eq
  named := Eq
  of_named same := same
  apart first second := by
    rw [first, second]
  first := rfl
  frames _ := rfl

/-- One more call under way in each state. -/
def enter (P : Pairing) : Pairing :=
  { P with
    left := P.left + 1
    right := P.right + 1
    frames := fun k => by
      rw [Nat.add_right_comm P.left, Nat.add_right_comm P.right]
      exact P.frames (k + 1) }

end Pairing

/-! ## Environments -/

/-- Both environments have the same variables, and both are roots or have paired ones. -/
structure Scope.Alike (rel : ScopeId → ScopeId → Prop) (a b : Scope) : Prop where
  bindings : a.bindings = b.bindings
  root : Option.Rel rel a.root b.root

namespace Scope

variable {rel : ScopeId → ScopeId → Prop} {a b : Option Scope}

theorem Alike.map_update (h : Option.Rel (Scope.Alike rel) a b)
    (change : Bindings Value → Bindings Value) :
    Option.Rel (Scope.Alike rel) (a.map (.update change)) (b.map (.update change)) := by
  cases h with
  | none => exact .none
  | some alike => exact .some ⟨congrArg change alike.bindings, alike.root⟩

/-- New environments under paired roots are alike. -/
theorem alike_new {i j : ScopeId} (paired : rel i j) :
    Option.Rel (Scope.Alike rel) (some ⟨.empty, some i⟩) (some ⟨.empty, some j⟩) :=
  .some ⟨rfl, .some paired⟩

theorem alike_if {c c' : Prop} [Decidable c] [Decidable c'] (same : c ↔ c') {a' b' : Option Scope}
    (here : Option.Rel (Scope.Alike rel) a b) (there : Option.Rel (Scope.Alike rel) a' b') :
    Option.Rel (Scope.Alike rel) (if c then a else a') (if c' then b else b') := by
  by_cases h : c
  · rw [if_pos h, if_pos (same.1 h)]
    exact here
  · rw [if_neg h, if_neg fun h' => h (same.2 h')]
    exact there

end Scope

/-! ## States -/

/-- Paired environments are alike, functions of one name are alike, the host does alike things and
has recorded alike entries. -/
structure State.Alike (L : Likeness) (P : Pairing) (s s' : State) : Prop where
  left : s.frames.size = P.left
  right : s'.frames.size = P.right
  /-- Environments that are made at the same time are named for one another. -/
  next : ∀ k, P.named (.made (s.scopes.size + k)) (.made (s'.scopes.size + k))
  scopes : ∀ {i j}, P.rel i j → Option.Rel (Scope.Alike P.rel) (s.scope? i) (s'.scope? j)
  names : s.functions.names = s'.functions.names
  functions : ∀ name, Option.Rel (Callable.Alike L P.named) (s.functions.get? name)
    (s'.functions.get? name)
  library : s.library = s'.library
  limit : s.maxCallDepth = s'.maxCallDepth
  depth : s.depth = s'.depth
  handler : ∀ line, (s.handler line).Alike L P.named (s'.handler line)
  handling : s.handling = s'.handling
  recorded : List.Forall₂ L.entry s.recorded s'.recorded

namespace State.Alike

variable {L : Likeness} {P : Pairing} {s s' t t' : State} {i j : ScopeId}

/-! What is read of paired environments. -/

/-- Paired environments have paired roots. -/
theorem rootOf (h : s.Alike L P s') (paired : P.rel i j) : P.rel (s.rootOf i) (s'.rootOf j) := by
  have there := h.scopes paired
  unfold State.rootOf
  generalize s.scope? i = scope, s'.scope? j = scope' at there
  cases there with
  | none => exact P.first
  | @some a b alike =>
    obtain ⟨bindings, root⟩ := a
    obtain ⟨bindings', root'⟩ := b
    cases alike.root with
    | none => exact paired
    | some roots => exact roots

theorem isRoot (h : s.Alike L P s') (paired : P.rel i j) : s.isRoot i = s'.isRoot j := by
  have there := h.scopes paired
  unfold State.isRoot
  generalize s.scope? i = scope, s'.scope? j = scope' at there
  cases there with
  | none => rfl
  | @some a b alike =>
    obtain ⟨bindings, root⟩ := a
    obtain ⟨bindings', root'⟩ := b
    cases alike.root with
    | none => rfl
    | some roots => rfl

theorem bindings (h : s.Alike L P s') (paired : P.rel i j) : s.bindings i = s'.bindings j := by
  have there := h.scopes paired
  unfold State.bindings
  generalize s.scope? i = scope, s'.scope? j = scope' at there
  cases there with
  | none => rfl
  | some alike => exact congrArg Bindings.entries alike.bindings

theorem local? (h : s.Alike L P s') (paired : P.rel i j) (name : String) :
    s.local? i name = s'.local? j name := by
  have there := h.scopes paired
  unfold State.local?
  generalize s.scope? i = scope, s'.scope? j = scope' at there
  cases there with
  | none => rfl
  | some alike => exact congrArg (·.get? name) alike.bindings

/-- A variable has the same value, or none, in paired environments. -/
theorem lookup? (h : s.Alike L P s') (paired : P.rel i j) (name : String) :
    s.lookup? i name = s'.lookup? j name := by
  unfold State.lookup?
  rw [h.local? paired, h.local? (h.rootOf paired)]

/-! What is done in paired environments. -/

/-- Alike states stay alike if environments, functions and the print handler stay, and the rest is
alike. -/
theorem of_scopes (h : s.Alike L P s') (scopes : t.scopes = s.scopes)
    (scopes' : t'.scopes = s'.scopes) (frames : t.frames = s.frames)
    (frames' : t'.frames = s'.frames) (functions : t.functions = s.functions)
    (functions' : t'.functions = s'.functions) (library : t.library = t'.library)
    (limit : t.maxCallDepth = t'.maxCallDepth) (depth : t.depth = t'.depth)
    (handler : t.handler = s.handler) (handler' : t'.handler = s'.handler)
    (handling : t.handling = t'.handling) (recorded : List.Forall₂ L.entry t.recorded t'.recorded) :
    t.Alike L P t' := by
  have same : t.scope? = s.scope? := by
    funext id
    cases id with
    | made n => exact congrArg (·[n]?) scopes
    | frame n => exact congrArg (·[n]?) frames
  have same' : t'.scope? = s'.scope? := by
    funext id
    cases id with
    | made n => exact congrArg (·[n]?) scopes'
    | frame n => exact congrArg (·[n]?) frames'
  refine ⟨?_, ?_, ?_, ?_, ?_, ?_, library, limit, depth, ?_, handling, recorded⟩
  · rw [frames]
    exact h.left
  · rw [frames']
    exact h.right
  · rw [scopes, scopes']
    exact h.next
  · rw [same, same']
    exact h.scopes
  · rw [functions, functions']
    exact h.names
  · rw [functions, functions']
    exact h.functions
  · rw [handler, handler']
    exact h.handler

/-- Alike states stay alike if nothing but environments changes, and these are alike. -/
theorem of_environments (h : s.Alike L P s') {Q : Pairing} (named : Q.named = P.named)
    (same : { t with scopes := s.scopes, frames := s.frames } = s)
    (same' : { t' with scopes := s'.scopes, frames := s'.frames } = s')
    (left : t.frames.size = Q.left) (right : t'.frames.size = Q.right)
    (next : ∀ k, P.named (.made (t.scopes.size + k)) (.made (t'.scopes.size + k)))
    (scopes : ∀ {i j}, Q.rel i j → Option.Rel (Scope.Alike Q.rel) (t.scope? i) (t'.scope? j)) :
    t.Alike L Q t' := by
  rw [← same, ← same'] at h
  refine ⟨left, right, ?_, scopes, h.names, ?_, h.library, h.limit, h.depth, ?_, h.handling,
    h.recorded⟩
  · rw [named]
    exact next
  · rw [named]
    exact h.functions
  · rw [named]
    exact h.handler

theorem bind (h : s.Alike L P s') (paired : P.rel i j) (name : String) (v : Value) :
    (s.bind i name v).Alike L P (s'.bind j name v) := by
  refine h.of_environments rfl rfl rfl ((Extends.bind s i name v).frames.trans h.left)
    ((Extends.bind s' j name v).frames.trans h.right) ?_ fun {a b} other => ?_
  · rw [size_scopes_bind, size_scopes_bind]
    exact h.next
  · rw [scope?_bind, scope?_bind]
    exact Scope.alike_if (P.apart paired other) (Scope.Alike.map_update (h.scopes other) _)
      (h.scopes other)

/-- The environments of calls that are entered are paired. -/
theorem nextFrame (h : s.Alike L P s') : P.rel s.nextFrame s'.nextFrame := by
  unfold State.nextFrame
  rw [h.left, h.right]
  exact P.frames 0

theorem push (h : s.Alike L P s') (paired : P.rel i j) :
    (s.push i).Alike L P.enter (s'.push j) := by
  have left : (s.push i).frames.size = P.left + 1 :=
    (Array.size_push _).trans (congrArg (· + 1) h.left)
  have right : (s'.push j).frames.size = P.right + 1 :=
    (Array.size_push _).trans (congrArg (· + 1) h.right)
  refine h.of_environments rfl rfl rfl left right h.next fun {a b} other => ?_
  have paired' : P.rel a b := other
  rw [scope?_push, scope?_push]
  exact Scope.alike_if (P.apart paired' h.nextFrame) (Scope.alike_new (h.rootOf paired))
    (h.scopes paired')

/-- The environments of the two newest calls are dropped together. -/
theorem pop (h : t.Alike L P.enter t') : t.pop.Alike L P t'.pop := by
  have last : t.frames.size - 1 = P.left := congrArg (· - 1) h.left
  have last' : t'.frames.size - 1 = P.right := congrArg (· - 1) h.right
  refine h.of_environments rfl rfl rfl (Array.size_pop.trans last) (Array.size_pop.trans last')
    h.next fun {a b} other => ?_
  rw [scope?_pop, scope?_pop, last, last']
  exact Scope.alike_if (P.apart other (P.frames 0)) .none (h.scopes other)

/-- The environments that are made are named for one another. -/
theorem named_child (h : s.Alike L P s') (i j : ScopeId) :
    P.named (s.child i).2 (s'.child j).2 :=
  h.next 0

theorem child (h : s.Alike L P s') (paired : P.rel i j) :
    (s.child i).1.Alike L P (s'.child j).1 := by
  refine h.of_environments rfl rfl rfl h.left h.right (fun k => ?_) fun {a b} other => ?_
  · have size : (s.child i).1.scopes.size = s.scopes.size + 1 := Array.size_push _
    have size' : (s'.child j).1.scopes.size = s'.scopes.size + 1 := Array.size_push _
    rw [size, size', Nat.add_right_comm, Nat.add_right_comm s'.scopes.size]
    exact h.next (k + 1)
  · rw [scope?_child, scope?_child]
    exact Scope.alike_if (P.apart other (P.of_named (h.named_child i j)))
      (Scope.alike_new (h.rootOf paired)) (h.scopes other)

theorem install (h : s.Alike L P s') (name : String) {callable callable' : Callable}
    (alike : callable.Alike L P.named callable') :
    (s.install name callable).Alike L P (s'.install name callable') where
  left := h.left
  right := h.right
  next := h.next
  scopes := h.scopes
  names := by
    unfold State.install
    rw [Bindings.names_insert, Bindings.names_insert, h.names]
  functions other := by
    rw [get?_install, get?_install]
    split
    next => exact .some alike
    next => exact h.functions other
  library := h.library
  limit := h.limit
  depth := h.depth
  handler := h.handler
  handling := h.handling
  recorded := h.recorded

theorem withHandler (h : s.Alike L P s') {handler handler' : String → HostAction}
    (alike : ∀ line, (handler line).Alike L P.named (handler' line)) :
    (s.withHandler handler).Alike L P (s'.withHandler handler') where
  left := h.left
  right := h.right
  next := h.next
  scopes := h.scopes
  names := h.names
  functions := h.functions
  library := h.library
  limit := h.limit
  depth := h.depth
  handler := alike
  handling := h.handling
  recorded := h.recorded

theorem record (h : s.Alike L P s') {entry entry' : Entry} (alike : L.entry entry entry') :
    (s.record entry).Alike L P (s'.record entry') :=
  h.of_scopes rfl rfl rfl rfl rfl rfl h.library h.limit h.depth rfl rfl h.handling
    (.cons alike h.recorded)

theorem enter (h : s.Alike L P s') : s.enter.Alike L P s'.enter :=
  h.of_scopes rfl rfl rfl rfl rfl rfl h.library h.limit (congrArg (· + 1) h.depth) rfl rfl
    h.handling h.recorded

theorem leave (h : s.Alike L P s') : s.leave.Alike L P s'.leave :=
  h.of_scopes rfl rfl rfl rfl rfl rfl h.library h.limit (congrArg (· - 1) h.depth) rfl rfl
    h.handling h.recorded

theorem withHandling (h : s.Alike L P s') (handling : Bool) :
    (s.withHandling handling).Alike L P (s'.withHandling handling) :=
  h.of_scopes rfl rfl rfl rfl rfl rfl h.library h.limit h.depth rfl rfl rfl h.recorded

end State.Alike

/-! ## States beside themselves -/

namespace State

variable {L : Likeness}

theorem scope_alike_self : ∀ scope : Option Scope, Option.Rel (Scope.Alike Eq) scope scope
  | none => .none
  | some ⟨_, none⟩ => .some ⟨rfl, .none⟩
  | some ⟨_, some _⟩ => .some ⟨rfl, .some rfl⟩

/-- A state is like itself if its functions, its host and what was recorded are like themselves. -/
theorem alike_self (s : State)
    (functions : ∀ {name callable}, s.functions.get? name = some callable →
      callable.Alike L Eq callable)
    (handler : ∀ line, (s.handler line).Alike L Eq (s.handler line))
    (recorded : ∀ entry ∈ s.recorded, L.entry entry entry) :
    s.Alike L (.identity s.frames.size) s where
  left := rfl
  right := rfl
  next _ := rfl
  scopes {i j} same := by
    cases same
    exact scope_alike_self (s.scope? i)
  names := rfl
  functions name := by
    cases found : s.functions.get? name with
    | none => exact .none
    | some callable => exact .some (functions found)
  library := rfl
  limit := rfl
  depth := rfl
  handler := handler
  handling := rfl
  recorded := List.forall₂_same.2 recorded

/-- A new interpreter is like itself if printed lines are. -/
theorem alike_initial (settings : Settings) (lines : ∀ line, L.entry (.line line) (.line line)) :
    (initial settings).Alike L (.identity 0) (initial settings) := by
  refine alike_self (initial settings) (fun {name callable} found => ?_) (fun line => ?_)
    fun entry mem => nomatch mem
  · cases eq_print_of_initial found
    refine .native rfl rfl fun args => ⟨_, _, _, _, _, rfl, .print _, nofun, ?_⟩
    intro answer answer' same
    exact ⟨answer'.map fun _ => .void, rfl, same.map fun _ => Value.void⟩
  · exact ⟨_, _, _, _, _, rfl, .record (lines line), nofun, fun _ _ _ => ⟨_, rfl, .ok _⟩⟩

end State

end Scriptlet
