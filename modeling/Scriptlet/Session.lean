import Scriptlet.Interpreter
import Scriptlet.Host.Catalog

/-
  Sessions: one interpreter that answers a series of requests of its host.
  Environments and programs that the host keeps go by names of its choice. A failure does not end
  a session.
-/

namespace Scriptlet

/-- A session. -/
structure Session where
  settings : Settings
  state : State
  environments : Bindings ScopeId
  programs : Bindings Program

/-- What a host may ask of a session. An environment that is not named is the root. -/
inductive Step where
  | eval (source : String) (env : Option String)
  | call (name : String) (args : List Value) (env : Option String)
  | program (id source : String)
  | run (id : String) (env : Option String)
  | child (id : String) (env : Option String)
  | register (name item : String) (env : Option String)
  | native (name item : String) (args : List Value)
  | set (name : String) (value : Value) (span : Span) (env : Option String)
  | get (name : String) (span : Span) (env : Option String)
  | own (name : String) (env : Option String)
  | function (name : String)
  | describe (env : Option String)
  | onPrint (source : Option String)

/-- What can be seen of an environment. -/
structure Description where
  isRoot : Bool
  bindings : List (String × Value)
  functions : List String
  maxCallDepth : Nat
  configuredDepth : Nat

/-- What a session answers. -/
inductive Answer where
  | result (r : Except Failure Value)
  | outOfFuel
  | statements (count : Nat)
  | done
  | own (value : Option Value)
  | function (callable : Option Callable)
  | description (d : Description)
  /-- The session knows nothing of the given name. -/
  | unknown (name : String)

namespace Session

/-- A new session. -/
def new (settings : Settings) : Session :=
  ⟨settings, .initial settings, .empty, .empty⟩

/-- The environment of the given name. -/
def scope? (s : Session) : Option String → Option ScopeId
  | none => some State.root
  | some name => s.environments.get? name

/-- The session after a computation, and how that ended; out of fuel, the state is as before. -/
def compute (s : Session) (m : Run Value) : Session × Answer :=
  match m s.state with
  | .value v state => ({ s with state := state }, .result (.ok v))
  | .failure e state => ({ s with state := state }, .result (.error e))
  | .outOfFuel => (s, .outOfFuel)

/-- The session after a change that may be refused. -/
def change (s : Session) (m : Run Unit) : Session × Answer :=
  match m s.state with
  | .value _ state => ({ s with state := state }, .done)
  | .failure e state => ({ s with state := state }, .result (.error e))
  | .outOfFuel => (s, .outOfFuel)

/-- The handler that records a line and then executes a source in the root and records how it
ended. -/
def executingHandler (source : String) (line : String) : HostAction :=
  .record (.line line) (.ask (.execute State.root source) nofun fun r =>
    .record (.outcome r) (.value .void))

/-- The state in which a function of the catalog is called apart: that of a new interpreter with
the function in its table, so that it can be reached by name from itself. -/
def apart (f : HostFunction) : State :=
  (State.initial {}).install f.name (.native f)

/-- The call of a function of the catalog on an interpreter of its own; only what it recorded
remains of that. -/
def callApart (s : Session) (fuel : Nat) (f : HostFunction) (args : List Value) :
    Session × Answer :=
  let keep (state : State) : Session :=
    { s with state := { s.state with recorded := state.recorded ++ s.state.recorded } }
  match Interpreter.callNative fuel f args (apart f) with
  | .value v state => (keep state, .result (.ok v))
  | .failure e state => (keep state, .result (.error e))
  | .outOfFuel => (s, .outOfFuel)

/-- What can be seen of an environment. -/
def describe (s : Session) (scope : ScopeId) : Description where
  isRoot := s.state.isRoot scope
  bindings := s.state.bindings scope
  functions := s.state.functionNames
  maxCallDepth := s.state.maxCallDepth
  configuredDepth := s.settings.maxCallDepth

/-- The answer of `f` for the environment of the given name. -/
def inScope (s : Session) (env : Option String) (f : ScopeId → Session × Answer) :
    Session × Answer :=
  match s.scope? env with
  | some scope => f scope
  | none => (s, .unknown (env.getD ""))

/-- One step of a session. -/
def step (fuel : Nat) (s : Session) : Step → Session × Answer
  | .eval source env => s.inScope env fun scope =>
    s.compute (Interpreter.execute fuel scope source)
  | .call name args env => s.inScope env fun scope =>
    s.compute (Interpreter.callFunction fuel scope name args)
  | .program id source =>
    match Program.ofSource source with
    | .ok p => ({ s with programs := s.programs.insert id p }, .statements p.statements.length)
    | .error d => (s, .result (.error (.diagnostic d)))
  | .run id env => s.inScope env fun scope =>
    match s.programs.get? id with
    | some p => s.compute (Interpreter.executeProgram fuel scope p)
    | none => (s, .unknown id)
  | .child id env => s.inScope env fun scope =>
    let (state, made) := s.state.child scope
    ({ s with state := state, environments := s.environments.insert id made }, .done)
  | .register name item env => s.inScope env fun scope =>
    match Catalog.find? item name with
    | none => (s, .unknown item)
    | some f =>
      match s.state.register scope f with
      | .ok state => ({ s with state := state }, .done)
      | .error e => (s, .result (.error e))
  | .native name item args =>
    match Catalog.find? item name with
    | none => (s, .unknown item)
    | some f => s.callApart fuel f args
  | .set name value span env => s.inScope env fun scope =>
    s.change (.assign scope name value span)
  | .get name span env => s.inScope env fun scope =>
    s.compute (.lookup scope name span)
  | .own name env => s.inScope env fun scope =>
    (s, .own (s.state.local? scope name))
  | .function name => (s, .function (s.state.function? name))
  | .describe env => s.inScope env fun scope => (s, .description (s.describe scope))
  | .onPrint source =>
    let handler := match source with
      | some source => executingHandler source
      | none => State.recordLine
    ({ s with state := { s.state with handler := handler } }, .done)

/-- One step of a session, its answer, and what was recorded during it. -/
def respond (fuel : Nat) (s : Session) (request : Step) : Session × Answer × List Entry :=
  let fresh := { s with state := { s.state with recorded := [] } }
  let (s, answer) := fresh.step fuel request
  (s, answer, s.state.transcript)

end Session

end Scriptlet
