import Mathlib.Logic.Relation
import Scriptlet.Proofs.Evaluation.Effect

/-
  The moments of a run.
  A moment is an evaluation that begins: what is evaluated, in which state, and how many calls were
  entered since and are still under way. A moment leads to another if its evaluation comes to begin
  that one as a part of it (`Leads`); only the calls of declared functions and of functions of the
  host enter a call. Main statements: where a state comes from that a part begins in
  (`Leads.begins`), and that every moment of a run is about fitting code in a legal state
  (`Reaches.fits`). That nothing of a run escapes its moments is shown apart (`Moment.covered`).
-/

namespace Scriptlet

/-- What can be evaluated. -/
inductive Work where
  | expr (scope : ScopeId) (e : Expr)
  | args (scope : ScopeId) (es : List Expr)
  | stmt (scope : ScopeId) (s : Stmt)
  | body (scope : ScopeId) (last : Value) (ss : List Stmt)
  | program (scope : ScopeId) (p : Program)
  | action (a : HostAction)
  | task (t : Task)

namespace Work

/-- What an evaluation yields. -/
abbrev Result : Work → Type
  | .expr _ _ => Value
  | .args _ _ => List Value
  | .stmt _ _ => Flow
  | .body _ _ _ => Flow
  | .program _ _ => Value
  | .action _ => Value
  | .task t => t.Result

/-- The evaluation, with its tasks left to `serve`. -/
def runWith (serve : Server) : (w : Work) → Run w.Result
  | .expr scope e => e.eval serve scope
  | .args scope es => evalArgs serve scope es
  | .stmt scope s => s.exec serve scope
  | .body scope last ss => execBody serve scope last ss
  | .program scope p => runProgram serve scope p
  | .action a => perform serve a
  | .task t => serve t

/-- The evaluation, with tasks nested at most `fuel` deep. -/
def run (fuel : Nat) (w : Work) : Run w.Result :=
  w.runWith (serve fuel)

/-- The environment that an evaluation may write. -/
def writes : Work → Option ScopeId
  | .expr _ _ => none
  | .args _ _ => none
  | .stmt scope _ => some scope
  | .body scope _ _ => some scope
  | .program scope _ => some scope
  | .action _ => none
  | .task t => t.writes

/-- The evaluation is of code of the kind the effect asks for, or of permitted actions. -/
def Fits (E : Effect) : Work → Prop
  | .expr _ e => e.Everywhere E.code
  | .args _ es => argsEverywhere E.code es
  | .stmt _ s => s.Everywhere E.code
  | .body _ _ ss => bodyEverywhere E.code ss
  | .program _ p => bodyEverywhere E.code p.statements
  | .action a => a.Only E.permits
  | .task t => t.Fits E

/-- An action that is evaluated asks only what is permitted. -/
def Only (permits : HostRequest → Prop) : Work → Prop
  | .action a => a.Only permits
  | .task (.act a) => a.Only permits
  | _ => True

theorem Only.mono {permits permits' : HostRequest → Prop}
    (le : ∀ request, permits request → permits' request) {w : Work} (only : w.Only permits) :
    w.Only permits' := by
  cases w with
  | action a => exact HostAction.Only.mono le only
  | task t =>
    cases t with
    | act a => exact HostAction.Only.mono le only
    | _ => exact trivial
  | _ => exact trivial

theorem only_of_all {permits : HostRequest → Prop} (all : ∀ request, permits request) (w : Work) :
    w.Only permits := by
  unfold Only
  split
  · exact HostAction.only_of_all all _
  · exact HostAction.only_of_all all _
  · exact trivial

/-- An effect that asks nothing of code is fit by everything that asks only what it permits. -/
theorem fits_of_all {E : Effect} (expr : ∀ e, E.code.expr e) (stmt : ∀ s, E.code.stmt s) {w : Work}
    (only : w.Only E.permits) : w.Fits E := by
  cases w with
  | expr scope e => exact e.everywhere_of_all expr stmt
  | args scope es => exact argsEverywhere_of_all expr stmt es
  | stmt scope s => exact s.everywhere_of_all expr stmt
  | body scope last ss => exact bodyEverywhere_of_all expr stmt ss
  | program scope p => exact bodyEverywhere_of_all expr stmt p.statements
  | action a => exact only
  | task t =>
    cases t with
    | call scope name args span => exact trivial
    | loop scope condition body =>
      exact ⟨condition.everywhere_of_all expr stmt, bodyEverywhere_of_all expr stmt body⟩
    | execute scope source => exact trivial
    | act a => exact only

/-- Every evaluation keeps to every effect. -/
theorem run_obeys {E : Effect} {w : Work} (fits : w.Fits E) (fuel : Nat) :
    Run.Obeys E w.writes (w.run fuel) := by
  have served := serve_obeys E fuel
  cases w with
  | expr scope e => exact e.eval_obeys served scope fits
  | args scope es => exact evalArgs_obeys served scope es fits
  | stmt scope s => exact s.exec_obeys served scope fits
  | body scope last ss => exact execBody_obeys served scope ss fits last
  | program scope p => exact runProgram_obeys served scope fits
  | action a => exact perform_obeys served a fits
  | task t => exact served t fits

end Work

/-- An evaluation that begins, with `calls` calls under way. -/
structure Moment where
  fuel : Nat
  work : Work
  state : State
  calls : Nat

/-- The evaluation of the first moment comes to begin that of the second one. -/
inductive Leads : Moment → Moment → Prop
  -- the parts of expressions
  | left {fuel calls s scope span op l r} :
    Leads ⟨fuel, .expr scope (.binary op l r span), s, calls⟩ ⟨fuel, .expr scope l, s, calls⟩
  | right {fuel calls s t scope span op l r a} (first : l.eval (serve fuel) scope s = .value a t)
    (unsettled : op.settled? a l.span = .ok none) :
    Leads ⟨fuel, .expr scope (.binary op l r span), s, calls⟩ ⟨fuel, .expr scope r, t, calls⟩
  | operand {fuel calls s scope span op e} :
    Leads ⟨fuel, .expr scope (.unary op e span), s, calls⟩ ⟨fuel, .expr scope e, s, calls⟩
  | arguments {fuel calls s scope span name es} :
    Leads ⟨fuel, .expr scope (.call name es span), s, calls⟩ ⟨fuel, .args scope es, s, calls⟩
  | dispatch {fuel calls s t scope span name es vs}
    (first : evalArgs (serve fuel) scope es s = .value vs t) :
    Leads ⟨fuel, .expr scope (.call name es span), s, calls⟩
      ⟨fuel, .task (.call scope name vs span), t, calls⟩
  | head {fuel calls s scope e es} :
    Leads ⟨fuel, .args scope (e :: es), s, calls⟩ ⟨fuel, .expr scope e, s, calls⟩
  | tail {fuel calls s t scope e es v} (first : e.eval (serve fuel) scope s = .value v t) :
    Leads ⟨fuel, .args scope (e :: es), s, calls⟩ ⟨fuel, .args scope es, t, calls⟩
  -- the parts of statements
  | newValue {fuel calls s scope span name e} :
    Leads ⟨fuel, .stmt scope (.variable name e span), s, calls⟩ ⟨fuel, .expr scope e, s, calls⟩
  | assigned {fuel calls s scope span name e} :
    Leads ⟨fuel, .stmt scope (.assign name e span), s, calls⟩ ⟨fuel, .expr scope e, s, calls⟩
  | test {fuel calls s scope span c thenBody elseBody} :
    Leads ⟨fuel, .stmt scope (.branch c thenBody elseBody span), s, calls⟩
      ⟨fuel, .expr scope c, s, calls⟩
  | thenPart {fuel calls s t scope span c thenBody elseBody}
    (first : holds (serve fuel) scope c s = .value true t) :
    Leads ⟨fuel, .stmt scope (.branch c thenBody elseBody span), s, calls⟩
      ⟨fuel, .body scope .null thenBody, t, calls⟩
  | elsePart {fuel calls s t scope span c thenBody elseBody}
    (first : holds (serve fuel) scope c s = .value false t) :
    Leads ⟨fuel, .stmt scope (.branch c thenBody (some elseBody) span), s, calls⟩
      ⟨fuel, .body scope .null elseBody, t, calls⟩
  | rounds {fuel calls s scope span c body} :
    Leads ⟨fuel, .stmt scope (.loop c body span), s, calls⟩
      ⟨fuel, .task (.loop scope c body), s, calls⟩
  | returned {fuel calls s scope span e} :
    Leads ⟨fuel, .stmt scope (.result (some e) span), s, calls⟩ ⟨fuel, .expr scope e, s, calls⟩
  | alone {fuel calls s scope span e} :
    Leads ⟨fuel, .stmt scope (.expr e span), s, calls⟩ ⟨fuel, .expr scope e, s, calls⟩
  | first {fuel calls s scope last st ss} :
    Leads ⟨fuel, .body scope last (st :: ss), s, calls⟩ ⟨fuel, .stmt scope st, s, calls⟩
  | rest {fuel calls s t scope last v st ss}
    (first : Stmt.exec (serve fuel) scope st s = .value (.normal v) t) :
    Leads ⟨fuel, .body scope last (st :: ss), s, calls⟩ ⟨fuel, .body scope v ss, t, calls⟩
  | statements {fuel calls s scope p} :
    Leads ⟨fuel, .program scope p, s, calls⟩ ⟨fuel, .body scope .null p.statements, s, calls⟩
  -- what an action of the host asks
  | handled {fuel calls s line code resume} (free : s.handling = false) :
    Leads ⟨fuel, .action (.ask (.print line) code resume), s, calls⟩
      ⟨fuel, .task (.act (s.handler line)), s.withHandling true, calls⟩
  | called {fuel calls s scope name vs code resume} :
    Leads ⟨fuel, .action (.ask (.call scope name vs) code resume), s, calls⟩
      ⟨fuel, .task (.call scope name vs .zero), s, calls⟩
  | executed {fuel calls s scope source code resume} :
    Leads ⟨fuel, .action (.ask (.execute scope source) code resume), s, calls⟩
      ⟨fuel, .task (.execute scope source), s, calls⟩
  | resumed {fuel calls s t request code resume answer}
    (first : respond (serve fuel) request code s = .value answer t) :
    Leads ⟨fuel, .action (.ask request code resume), s, calls⟩
      ⟨fuel, .action (resume answer), t, calls⟩
  -- the calls that are counted
  | native {fuel calls s scope span name vs f} (found : s.functions.get? name = some (.native f))
    (room : s.depth < s.maxCallDepth) :
    Leads ⟨fuel + 1, .task (.call scope name vs span), s, calls⟩
      ⟨fuel, .action (f.invoke vs), s.enter, calls + 1⟩
  | scripted {fuel calls s t scope span name vs d}
    (found : s.functions.get? name = some (.scripted d))
    (count : vs.length = d.params.length) (room : s.depth < s.maxCallDepth)
    (bound : bindParams s.nextFrame span d.params vs (s.enter.push scope) = .value () t) :
    Leads ⟨fuel + 1, .task (.call scope name vs span), s, calls⟩
      ⟨fuel, .body s.nextFrame .null d.body, t, calls + 1⟩
  -- the parts of the other tasks
  | condition {fuel calls s scope c body} :
    Leads ⟨fuel + 1, .task (.loop scope c body), s, calls⟩ ⟨fuel, .expr scope c, s, calls⟩
  | round {fuel calls s t scope c body} (first : holds (serve fuel) scope c s = .value true t) :
    Leads ⟨fuel + 1, .task (.loop scope c body), s, calls⟩
      ⟨fuel, .body scope .null body, t, calls⟩
  | again {fuel calls s t u scope c body flow}
    (first : holds (serve fuel) scope c s = .value true t)
    (ended : execBody (serve fuel) scope .null body t = .value flow u)
    (goesOn : flow = .jump .continueLoop ∨ ∃ v, flow = .normal v) :
    Leads ⟨fuel + 1, .task (.loop scope c body), s, calls⟩
      ⟨fuel, .task (.loop scope c body), u, calls⟩
  | source {fuel calls s scope text p} (read : Program.parse text = .ok p) :
    Leads ⟨fuel + 1, .task (.execute scope text), s, calls⟩ ⟨fuel, .program scope p, s, calls⟩
  | act {fuel calls s a} :
    Leads ⟨fuel + 1, .task (.act a), s, calls⟩ ⟨fuel, .action a, s, calls⟩

/-- A moment of the run that the first moment begins. -/
def Reaches : Moment → Moment → Prop :=
  Relation.ReflTransGen Leads

/-- Where the state comes from that a part begins in. -/
inductive Begins (E : Effect) (m m' : Moment) : Prop
  /-- Parts that write `w` at most were evaluated before. -/
  | part (w : Option ScopeId) (calls : m'.calls = m.calls) (legal : E.legal m'.state)
    (changes : E.changes w m.state m'.state)
  /-- A printed line is handed to the print handler. -/
  | handling (calls : m'.calls = m.calls) (free : m.state.handling = false)
    (state : m'.state = m.state.withHandling true) (asked : ∃ line code resume,
      m.work = .action (.ask (.print line) code resume) ∧
        m'.work = .task (.act (m.state.handler line)))
  /-- A function of the host is entered. -/
  | native (calls : m'.calls = m.calls + 1) (room : m.state.depth < m.state.maxCallDepth)
    (state : m'.state = m.state.enter)
  /-- A declared function is entered, and its parameters are bound in a new environment. -/
  | scripted (scope : ScopeId) (calls : m'.calls = m.calls + 1)
    (room : m.state.depth < m.state.maxCallDepth) (legal : E.legal m'.state)
    (changes : E.changes (some m.state.nextFrame) (m.state.enter.push scope) m'.state)

theorem Begins.legal {E : Effect} {m m' : Moment} (h : Begins E m m') (legal : E.legal m.state) :
    E.legal m'.state := by
  cases h with
  | part w calls legal' changes => exact legal'
  | handling calls free state asked =>
    rw [state]
    exact (E.handling legal free).1
  | native calls room state =>
    rw [state]
    exact (E.call legal room).1
  | scripted scope calls room legal' changes => exact legal'

section

variable {E : Effect} {m m' : Moment} {fuel fuel' calls : Nat} {s t : State}
  {w : Option ScopeId} {work work' : Work}

theorem begins_same (legal : E.legal s) :
    Begins E ⟨fuel, work, s, calls⟩ ⟨fuel', work', s, calls⟩ :=
  .part none rfl legal (E.refl none s)

theorem begins_after {α : Type} {first : Run α} {a : α} (obeys : first.Obeys E w)
    (legal : E.legal s) (made : first s = .value a t) :
    Begins E ⟨fuel, work, s, calls⟩ ⟨fuel', work', t, calls⟩ := by
  have ended := obeys s legal
  rw [made] at ended
  exact .part w rfl ended.1 ended.2

/-- A part of an evaluation of fitting code is of fitting code too. -/
theorem Leads.begins (h : Leads m m') (fits : m.work.Fits E) (legal : E.legal m.state) :
    m'.work.Fits E ∧ Begins E m m' := by
  have served := serve_obeys E
  cases h with
  | left => exact ⟨fits.2.1, begins_same legal⟩
  | right first unsettled =>
    exact ⟨fits.2.2, begins_after (Expr.eval_obeys (served _) _ _ fits.2.1) legal first⟩
  | operand => exact ⟨fits.2, begins_same legal⟩
  | arguments => exact ⟨fits.2, begins_same legal⟩
  | dispatch first =>
    exact ⟨trivial, begins_after (evalArgs_obeys (served _) _ _ fits.2) legal first⟩
  | head => exact ⟨fits.1, begins_same legal⟩
  | tail first =>
    exact ⟨fits.2, begins_after (Expr.eval_obeys (served _) _ _ fits.1) legal first⟩
  | newValue => exact ⟨fits.2, begins_same legal⟩
  | assigned => exact ⟨fits.2, begins_same legal⟩
  | @test _ _ _ _ _ _ _ elseBody =>
    cases elseBody with
    | none => exact ⟨fits.2.1, begins_same legal⟩
    | some elseBody => exact ⟨fits.2.1, begins_same legal⟩
  | @thenPart _ _ _ _ _ _ _ _ elseBody first =>
    cases elseBody with
    | none => exact ⟨fits.2.2, begins_after (holds_obeys (served _) _ fits.2.1) legal first⟩
    | some elseBody =>
      exact ⟨fits.2.2.1, begins_after (holds_obeys (served _) _ fits.2.1) legal first⟩
  | elsePart first =>
    exact ⟨fits.2.2.2, begins_after (holds_obeys (served _) _ fits.2.1) legal first⟩
  | rounds => exact ⟨fits.2, begins_same legal⟩
  | returned => exact ⟨fits.2, begins_same legal⟩
  | alone => exact ⟨fits.2, begins_same legal⟩
  | first => exact ⟨fits.1, begins_same legal⟩
  | rest first =>
    exact ⟨fits.2, begins_after (Stmt.exec_obeys (served _) _ _ fits.1) legal first⟩
  | statements => exact ⟨fits, begins_same legal⟩
  | handled free => exact ⟨E.handler legal _, .handling rfl free rfl ⟨_, _, _, rfl, rfl⟩⟩
  | called => exact ⟨trivial, begins_same legal⟩
  | executed => exact ⟨trivial, begins_same legal⟩
  | @resumed fuel _ _ _ request code _ _ first =>
    have answered := respond_obeys (served fuel) fits.1 fits.2.1
    exact ⟨fits.2.2 _, begins_after answered legal first⟩
  | native found room => exact ⟨E.native legal found _, .native rfl room rfl⟩
  | @scripted _ _ s t scope span name vs d found count room bound =>
    have entered := (E.call legal room).1
    have pushed := (E.frame scope entered).1
    have ended := Run.obeys_bindParams (E := E) s.nextFrame span d.params vs _ pushed
    rw [bound] at ended
    exact ⟨(E.scripted legal found).body, .scripted scope rfl room ended.1 ended.2⟩
  | condition => exact ⟨fits.1, begins_same legal⟩
  | round first =>
    exact ⟨fits.2, begins_after (holds_obeys (served _) _ fits.1) legal first⟩
  | @again fuel _ _ _ _ scope c body flow first ended goesOn =>
    have tested := holds_obeys (served fuel) scope fits.1
    have both : Run.Obeys E (some scope) (holds (serve fuel) scope c >>= fun _ =>
        execBody (serve fuel) scope .null body) :=
      Run.obeys_bind tested fun _ => execBody_obeys (served fuel) scope body fits.2 .null
    exact ⟨fits, begins_after both legal ((Run.bind_value first).trans ended)⟩
  | source read => exact ⟨E.parsed read, begins_same legal⟩
  | act => exact ⟨fits, begins_same legal⟩

/-- Every moment of a run of fitting code is about fitting code in a legal state. -/
theorem Reaches.fits (h : Reaches m m') (fits : m.work.Fits E) (legal : E.legal m.state) :
    m'.work.Fits E ∧ E.legal m'.state := by
  induction h with
  | refl => exact ⟨fits, legal⟩
  | tail _ step ih =>
    obtain ⟨fits', begun⟩ := step.begins ih.1 ih.2
    exact ⟨fits', begun.legal ih.2⟩

end

end Scriptlet
