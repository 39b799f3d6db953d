import Scriptlet.Program.Grammar
import Scriptlet.Run.State
import Scriptlet.Value.Operation

/-
  Evaluation.
  Expressions and statements are evaluated along their structure. What their structure does not
  bound is a task: a call, the rounds of a loop, a source to execute, an action of the host. Tasks
  are served by a given server; the server of all tasks is the evaluation of each of them, tied
  together as often as a fuel allows.
-/

namespace Scriptlet

/-- How a statement ends: with a value, with a return, or with a jump out of the current round. -/
inductive Flow where
  | normal (v : Value)
  | result (v : Value)
  | jump (jump : Jump)

/-- How a branch ends: the value of a branch is never void. -/
def Flow.settle : Flow → Flow
  | .normal .void => .normal .null
  | flow => flow

/-- What evaluation may have to do that the text at hand does not bound. -/
inductive Task where
  | call (scope : ScopeId) (name : String) (args : List Value) (span : Span)
  | loop (scope : ScopeId) (condition : Expr) (body : List Stmt)
  | execute (scope : ScopeId) (source : String)
  | act (action : HostAction)

/-- What a task ends with. -/
abbrev Task.Result : Task → Type
  | .loop _ _ _ => Flow
  | _ => Value

/-- A way to do every task. -/
abbrev Server : Type := (task : Task) → Run task.Result

/-! ## Expressions and statements -/

mutual

/-- The value of an expression. -/
def Expr.eval (serve : Server) (scope : ScopeId) : Expr → Run Value
  | .literal value _ => pure value.value
  | .variable name span => .lookup scope name span
  | .binary op left right span => do
    let a ← left.eval serve scope
    match ← Run.lift (op.settled? a left.span) with
    | some v => pure v
    | none =>
      let b ← right.eval serve scope
      .lift (op.apply (.of left right span) a b)
  | .unary op operand _ => do
    let v ← operand.eval serve scope
    .lift (op.apply v operand.span)
  | .call name args span => do
    let values ← evalArgs serve scope args
    serve (.call scope name values span)
  | .function declaration _ => do
    .modify (·.install declaration.name (.scripted declaration))
    pure .null

/-- The values of arguments, evaluated from left to right. -/
def evalArgs (serve : Server) (scope : ScopeId) : List Expr → Run (List Value)
  | [] => pure []
  | e :: rest => do
    let v ← e.eval serve scope
    let values ← evalArgs serve scope rest
    pure (v :: values)

end

/-- Gives a variable the value of an expression, which is also that of the statement. -/
def bindValue (serve : Server) (scope : ScopeId) (name : String) (value : Expr) (span : Span) :
    Run Flow := do
  let v ← value.eval serve scope
  .assign scope name v span
  pure (.normal v)

/-- Whether a condition holds. -/
def holds (serve : Server) (scope : ScopeId) (condition : Expr) : Run Bool := do
  let v ← condition.eval serve scope
  .lift (v.expectBool condition.span)

mutual

/-- How a statement ends. -/
def Stmt.exec (serve : Server) (scope : ScopeId) : Stmt → Run Flow
  | .variable name value span => bindValue serve scope name value span
  | .assign name value span => bindValue serve scope name value span
  | .branch condition thenBody none _ => do
    if ← holds serve scope condition then
      let flow ← execBody serve scope .null thenBody
      pure flow.settle
    else pure (.normal .null)
  | .branch condition thenBody (some elseBody) _ => do
    if ← holds serve scope condition then
      let flow ← execBody serve scope .null thenBody
      pure flow.settle
    else
      let flow ← execBody serve scope .null elseBody
      pure flow.settle
  | .loop condition body _ => serve (.loop scope condition body)
  | .result none _ => pure (.result .null)
  | .result (some value) _ => do
    let v ← value.eval serve scope
    pure (.result v)
  | .jump jump _ => pure (.jump jump)
  | .expr value _ => do
    let v ← value.eval serve scope
    pure (.normal v)

/-- How statements end: with the value of the last one, `last` if there is none, unless one of them
ends otherwise. -/
def execBody (serve : Server) (scope : ScopeId) (last : Value) : List Stmt → Run Flow
  | [] => pure (.normal last)
  | s :: rest => do
    match ← s.exec serve scope with
    | .normal v => execBody serve scope v rest
    | .result v => pure (.result v)
    | .jump jump => pure (.jump jump)

end

/-! ## Actions of the host -/

/-- Hands a line to the print handler, while that handles no other one; how the handling ends does
not matter to the one who prints. -/
def deliver (serve : Server) (line : String) : Run Value := fun s =>
  if s.handling then .failure Fault.nestedPrint.bare s
  else
    let handle : Run Value := do
      let _ ← Run.attempt (serve (.act (s.handler line)))
      pure .void
    handle.between (·.withHandling true) (·.withHandling false) s

/-- The answer to a request of the host. The print handler is not replaced while it handles a
line. -/
def respond (serve : Server) :
    (request : HostRequest) → (request.Given → HostAction) → Run request.Answer
  | .record entry, _ => do
    .modify (·.record entry)
    pure (.ok .void)
  | .print line, _ => .attempt (deliver serve line)
  | .call scope name args, _ => .attempt (serve (.call scope name args .zero))
  | .execute scope source, _ => .attempt (serve (.execute scope source))
  | .define scope name value, _ => .attempt do
    .assign scope name value .zero
    pure .void
  | .read scope name span, _ => .attempt (.lookup scope name span)
  | .bindings scope, _ => fun s => .value (s.bindings scope) s
  | .functions, _ => fun s => .value s.functionNames s
  | .child scope, _ => fun s => .value (s.child scope).2 (s.child scope).1
  | .register scope name slots, body => .attempt do
    .register scope ⟨name, slots, body⟩
    pure .void
  | .onPrint, handler => fun s =>
    if s.handling then .value false s else .value true (s.withHandler handler)

/-- How an action ends. -/
def perform (serve : Server) : HostAction → Run Value
  | .done result => .lift result
  | .ask request code resume => do
    let answer ← respond serve request code
    perform serve (resume answer)

/-! ## Calls and programs -/

/-- The computation in an environment of its own under the root of `scope`, which is gone
afterwards. -/
@[inline] def inFrame {α : Type} (scope : ScopeId) (m : ScopeId → Run α) : Run α := fun s =>
  (m s.nextFrame).between (·.push scope) State.pop s

/-- Binds parameters to arguments. -/
def bindParams (scope : ScopeId) (span : Span) : List String → List Value → Run Unit
  | name :: names, v :: values => do
    .assign scope name v span
    bindParams scope span names values
  | _, _ => pure ()

/-- What a call of a declared function yields when its body ends: without a return in the body,
void. -/
def Declaration.outcome (d : Declaration) : Flow → Except Failure Value
  | .result v => .ok v
  | .normal v => .ok (if d.hasReturn then v else .void)
  | .jump jump => .error (Fault.strayJump jump (some d.name)).bare

/-- The call of a declared function. -/
def callDeclared (serve : Server) (scope : ScopeId) (d : Declaration) (args : List Value)
    (span : Span) : Run Value :=
  if args.length = d.params.length then
    .counted span (inFrame scope fun frame => do
      bindParams frame span d.params args
      let flow ← execBody serve frame .null d.body
      .lift (d.outcome flow))
  else .fail ((Fault.argumentCount d.name d.params.length args.length).atSpan span)

/-- The numbers that arguments convert to. -/
def toSingles (span : Span) : List Value → Except Failure (List Single)
  | [] => .ok []
  | v :: values =>
    match v.convert .single with
    | .error e => .error (e.orSpan span)
    | .ok x => (toSingles span values).map (x :: ·)

/-- The call of a library function. -/
def callLibrary (name : String) (args : List Value) (span : Span) : Run Value := fun s =>
  match s.library.lookup name args.length with
  | none => .failure ((Fault.unknownFunction name args.length).atSpan span) s
  | some f => Run.lift ((toSingles span args).map fun xs => .number (f.apply xs)) s

/-- The call of a function by name: from the table of functions, or else from the library. -/
def callNamed (serve : Server) (scope : ScopeId) (name : String) (args : List Value)
    (span : Span) : Run Value := fun s =>
  match s.functions.get? name with
  | some (.native f) => Run.counted span ((perform serve (f.invoke args)).orSpan span) s
  | some (.scripted d) => callDeclared serve scope d args span s
  | none => callLibrary name args span s

/-- What a program yields when its statements end. -/
def Flow.programOutcome : Flow → Except Failure Value
  | .result v => .ok v
  | .normal v => .ok v
  | .jump j => .error (Fault.strayJump j none).bare

/-- Executes a program. -/
def runProgram (serve : Server) (scope : ScopeId) (p : Program) : Run Value := do
  let flow ← execBody serve scope .null p.statements
  .lift flow.programOutcome

/-- Reads a source as a program and executes it. -/
def runSource (serve : Server) (scope : ScopeId) (source : String) : Run Value :=
  match Program.ofSource source with
  | .error d => .fail (.diagnostic d)
  | .ok p => runProgram serve scope p

/-- The rounds of a loop from a test of its condition on. -/
def runLoop (serve : Server) (scope : ScopeId) (condition : Expr) (body : List Stmt) :
    Run Flow := do
  if ← holds serve scope condition then
    match ← execBody serve scope .null body with
    | .result v => pure (.result v)
    | .jump .breakLoop => pure (.normal .null)
    | _ => serve (.loop scope condition body)
  else pure (.normal .null)

/-! ## All tasks -/

/-- One task, with others left to `serve`. -/
def step (serve : Server) : Server
  | .call scope name args span => callNamed serve scope name args span
  | .loop scope condition body => runLoop serve scope condition body
  | .execute scope source => runSource serve scope source
  | .act action => perform serve action

/-- The server of all tasks, with tasks nested at most `fuel` deep. -/
def serve : Nat → Server
  | 0 => fun _ _ => .outOfFuel
  | fuel + 1 => fun task s => step (serve fuel) task s

end Scriptlet
