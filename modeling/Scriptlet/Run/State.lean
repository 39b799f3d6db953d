import Scriptlet.Host.Function
import Scriptlet.Host.MathLibrary
import Scriptlet.Run.Bindings

/-
  The state of an interpreter and computations on it.
  The environments that a host knows are numbered, and the first one is the root; the others are
  made under a root, where their variables are looked up when they do not bind them themselves. So
  are the environments of calls, which are gone when their call is over. All environments share one
  table of functions. A computation ends with a value or a failure and the state it leaves, or its
  fuel runs out.
-/

namespace Scriptlet

/-- An environment: its own variables and its root, if it is not a root itself. -/
structure Scope where
  bindings : Bindings Value
  root : Option ScopeId

/-- The environment with its variables changed. -/
def Scope.update (change : Bindings Value → Bindings Value) (scope : Scope) : Scope :=
  ⟨change scope.bindings, scope.root⟩

/-- What a name in the table of functions stands for. -/
inductive Callable where
  | native (f : HostFunction)
  | scripted (d : Declaration)

/-- The state of an interpreter. -/
structure State where
  /-- The environments that were made, the root first. -/
  scopes : Array Scope
  /-- The environments of calls under way, the newest last. -/
  frames : Array Scope
  functions : Bindings Callable
  library : MathLibrary
  maxCallDepth : Nat
  /-- How many calls are under way. -/
  depth : Nat
  /-- What is done with a printed line. -/
  handler : String → HostAction
  /-- Whether a printed line is being handled. -/
  handling : Bool
  /-- What was recorded, newest first. -/
  recorded : List Entry

namespace State

/-- The first environment. -/
def root : ScopeId := .made 0

/-- The environment that is known as `id`, if there is one. -/
def scope? (s : State) : ScopeId → Option Scope
  | .made n => s.scopes[n]?
  | .frame n => s.frames[n]?

/-- The root of an environment; where there is no environment, the first one. -/
def rootOf (s : State) (id : ScopeId) : ScopeId :=
  match s.scope? id with
  | some ⟨_, some r⟩ => r
  | some ⟨_, none⟩ => id
  | none => root

/-- Whether an environment is a root. -/
def isRoot (s : State) (id : ScopeId) : Bool :=
  match s.scope? id with
  | some ⟨_, some _⟩ => false
  | _ => true

/-- The environment's own variables, oldest first. -/
def bindings (s : State) (id : ScopeId) : List (String × Value) :=
  match s.scope? id with
  | some scope => scope.bindings.entries
  | none => []

/-- The environment's own value of a variable. -/
def local? (s : State) (id : ScopeId) (name : String) : Option Value :=
  (s.scope? id).bind fun scope => scope.bindings.get? name

/-- The value of a variable: the environment's own, or else the root's. -/
def lookup? (s : State) (id : ScopeId) (name : String) : Option Value :=
  match s.local? id name with
  | some v => some v
  | none => s.local? (s.rootOf id) name

/-- The state with the variables of an environment changed. -/
def update (s : State) (id : ScopeId) (change : Bindings Value → Bindings Value) : State :=
  { s with
    scopes := match id with
      | .made n => s.scopes.modify n (.update change)
      | .frame _ => s.scopes
    frames := match id with
      | .made _ => s.frames
      | .frame n => s.frames.modify n (.update change) }

/-- The state with a variable of the environment bound. -/
def bind (s : State) (id : ScopeId) (name : String) (value : Value) : State :=
  s.update id (·.insert name value)

/-- What the environment of a call that is entered next is known by. -/
def nextFrame (s : State) : ScopeId :=
  .frame s.frames.size

/-- The state with an environment for one more call, under the root of `id`. -/
def push (s : State) (id : ScopeId) : State :=
  let root := s.rootOf id
  { s with frames := s.frames.push ⟨.empty, some root⟩ }

/-- The state without the environment of the newest call. -/
def pop (s : State) : State :=
  { s with frames := s.frames.pop }

/-- The state with a new environment under the root of `id`, and what that is known by. -/
def child (s : State) (id : ScopeId) : State × ScopeId :=
  let root := s.rootOf id
  ({ s with scopes := s.scopes.push ⟨.empty, some root⟩ }, .made s.scopes.size)

/-- The state with a name in the table of functions. -/
def install (s : State) (name : String) (callable : Callable) : State :=
  { s with functions := s.functions.insert name callable }

/-- The state with a function of the host registered on an environment, which must be a root. -/
def register (s : State) (id : ScopeId) (f : HostFunction) : Except Failure State :=
  if s.isRoot id then .ok (s.install f.name (.native f))
  else .error (Fault.childRegistration f.name).bare

/-- The names in the table of functions, oldest first. -/
def functionNames (s : State) : List String :=
  s.functions.names

/-- The function that a name stands for. -/
def function? (s : State) (name : String) : Option Callable :=
  s.functions.get? name

/-- The state with one more call under way. -/
def enter (s : State) : State :=
  { s with depth := s.depth + 1 }

/-- The state with one call fewer under way. -/
def leave (s : State) : State :=
  { s with depth := s.depth - 1 }

/-- The state while a printed line is handled, or while none is. -/
def withHandling (s : State) (handling : Bool) : State :=
  { s with handling := handling }

/-- The state with another print handler. -/
def withHandler (s : State) (handler : String → HostAction) : State :=
  { s with handler := handler }

/-- The state with one more entry recorded. -/
def record (s : State) (entry : Entry) : State :=
  { s with recorded := entry :: s.recorded }

end State

/-- How a computation on a state ends. -/
inductive Outcome (α : Type) where
  | value (a : α) (s : State)
  | failure (e : Failure) (s : State)
  | outOfFuel

/-- A computation on the state of an interpreter. -/
def Run (α : Type) : Type := State → Outcome α

namespace Run

variable {α β : Type}

/-- Ends with a value and leaves the state. -/
@[inline] protected def pure (a : α) : Run α := fun s => .value a s

/-- Goes on with the value and the state; a failure ends the whole. -/
@[inline] protected def bind (m : Run α) (f : α → Run β) : Run β := fun s =>
  match m s with
  | .value a s => f a s
  | .failure e s => .failure e s
  | .outOfFuel => .outOfFuel

instance : Monad Run where
  pure := Run.pure
  bind := Run.bind

/-- Fails and leaves the state. -/
@[inline] def fail (e : Failure) : Run α := fun s => .failure e s

/-- Ends as `r` does and leaves the state. -/
@[inline] def lift (r : Except Failure α) : Run α := fun s =>
  match r with
  | .ok a => .value a s
  | .error e => .failure e s

/-- Ends with the state. -/
@[inline] def get : Run State := fun s => .value s s

/-- Changes the state. -/
@[inline] def modify (f : State → State) : Run Unit := fun s => .value () (f s)

/-- The computation with its failure as a value. -/
@[inline] def attempt (m : Run α) : Run (Except Failure α) := fun s =>
  match m s with
  | .value a s => .value (.ok a) s
  | .failure e s => .value (.error e) s
  | .outOfFuel => .outOfFuel

/-- The computation with the span as that of a failure without one. -/
@[inline] def orSpan (m : Run α) (span : Span) : Run α := fun s =>
  match m s with
  | .value a s => .value a s
  | .failure e s => .failure (e.orSpan span) s
  | .outOfFuel => .outOfFuel

/-- The computation with a change before it and another one after it, however it ends. -/
@[inline] def between (before after : State → State) (m : Run α) : Run α := fun s =>
  match m (before s) with
  | .value a s => .value a (after s)
  | .failure e s => .failure e (after s)
  | .outOfFuel => .outOfFuel

/-- The computation as one call, if the depth allows one more. -/
@[inline] def counted (span : Span) (m : Run α) : Run α := fun s =>
  if s.maxCallDepth ≤ s.depth then .failure ((Fault.callDepth s.maxCallDepth).atSpan span) s
  else m.between State.enter State.leave s

/-- Binds a variable of an environment; void is refused. -/
def assign (id : ScopeId) (name : String) (value : Value) (span : Span) : Run Unit :=
  if value.isVoid then fail ((Fault.voidVariable name).atSpan span)
  else modify (·.bind id name value)

/-- Registers a function of the host on an environment; refused if that is not a root. -/
def register (id : ScopeId) (f : HostFunction) : Run Unit := fun s =>
  match s.register id f with
  | .ok t => .value () t
  | .error e => .failure e s

/-- The value of a variable. -/
def lookup (id : ScopeId) (name : String) (span : Span) : Run Value := fun s =>
  match s.lookup? id name with
  | some v => .value v s
  | none => .failure ((Fault.undefinedVariable name).atSpan span) s

end Run

end Scriptlet
