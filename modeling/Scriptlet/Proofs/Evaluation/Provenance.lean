import Scriptlet.Proofs.Evaluation.Chronicle
import Scriptlet.Proofs.Evaluation.Pointing
import Scriptlet.Proofs.Evaluation.Reachable

/-
  Where the failures of a run point.
  A run is followed through its parts: code that the program holds, and bodies of the functions that
  are declared, point at their own spans, and what the host asks only answers the host
  (`Moment.pointed`). A function of the host that fails without a place is placed at its call. So a
  failure of a program points into the program, or into a declared function: one that was declared
  before, or one in a source that the host executes during the run (`SpanInRun`).
  Main statement: `failure_points_at_code`.
-/

namespace Scriptlet

open Run

/-! ## What is followed through a run -/

/-- The code that is evaluated is placed; only code and calls are evaluated strictly. -/
def Work.Placed (known : Span → Prop) (strict : Bool) : Work → Prop
  | .expr _ e => e.Everywhere (placed known strict)
  | .args _ es => argsEverywhere (placed known strict) es
  | .stmt _ s => s.Everywhere (placed known strict)
  | .body _ _ ss => bodyEverywhere (placed known strict) ss
  | .program _ p => bodyEverywhere (placed known strict) p.statements
  | .action _ => strict = false
  | .task (.call _ _ _ span) => strict = true → known span
  | .task (.loop _ c ss) =>
    c.Everywhere (placed known strict) ∧ bodyEverywhere (placed known strict) ss
  | .task (.execute _ _) => strict = false
  | .task (.act _) => strict = false

/-- If a function of the host fails with a diagnostic in the run, then with one that has neither a
span nor a position. -/
def Moment.HostsBare (m : Moment) : Prop :=
  ∀ fuel calls scope name vs span s f d t,
    Reaches m ⟨fuel + 1, .task (.call scope name vs span), s, calls⟩ →
      s.functions.get? name = some (.native f) → s.depth < s.maxCallDepth →
        perform (serve fuel) (f.invoke vs) s.enter = .failure (.diagnostic d) t →
          d.span = none ∧ d.position = none

/-- The functions that sources declare which the host executes in the run stand at known spans. -/
def Moment.SourcesPlaced (known : Span → Prop) (m : Moment) : Prop :=
  ∀ fuel calls scope source s p,
    Reaches m ⟨fuel + 1, .task (.execute scope source), s, calls⟩ →
      Program.parse source = .ok p → bodyEverywhere (placed known false) p.statements

/-- Evaluated in a state whose declared functions stand at known spans, placed code points. -/
def Moment.Pointed (known : Span → Prop) (m : Moment) : Prop :=
  ∀ strict, m.work.Placed known strict → m.state.Declares known →
    (m.work.run m.fuel m.state).Points known strict

/-! ## What is evaluated points if its parts do -/

section

variable {known : Span → Prop} {strict : Bool} {fuel calls : Nat} {scope : ScopeId} {s : State}

theorem Expr.known_of_placed {e : Expr} (h : e.Everywhere (placed known strict))
    (on : strict = true) : known e.span := by
  cases e with
  | literal value span => exact h.1 on
  | «variable» name span => exact h.1 on
  | binary op left right span => exact h.1.1 on
  | unary op operand span => exact h.1.1 on
  | call name args span => exact h.1.1 on
  | function d span => exact h.1.1 on

theorem Expr.pointed {e : Expr}
    (parts : ∀ part, Leads ⟨fuel, .expr scope e, s, calls⟩ part → part.Pointed known) :
    Moment.Pointed known ⟨fuel, .expr scope e, s, calls⟩ := by
  intro strict h declares
  cases e with
  | literal value span => exact declares
  | «variable» name span => exact points_lookup declares scope name h.1
  | function d span => exact declares.install h.1.2
  | binary op l r span =>
    show ((l.eval (serve fuel) scope >>= _) s).Points known strict
    refine points_bind (parts _ .left strict h.2.1 declares) fun a t first declares => ?_
    refine points_bind (points_lift declares fun on =>
      failing_settled? op a (l.known_of_placed h.2.1 on)) fun settled u lifted _ => ?_
    obtain ⟨settles, rfl⟩ := lift_eq_value lifted
    cases settled with
    | some v => exact declares
    | none =>
      refine points_bind (parts _ (.right first settles) strict h.2.2 declares)
        fun b u _ declares => points_lift declares fun on => ?_
      exact failing_apply ⟨l.known_of_placed h.2.1 on, r.known_of_placed h.2.2 on, h.1.1 on⟩ op a b
  | unary op e span =>
    exact points_bind (parts _ .operand strict h.2 declares) fun v t _ declares =>
      points_lift declares fun on => failing_unary op v (e.known_of_placed h.2 on)
  | call name es span =>
    exact points_bind (parts _ .arguments strict h.2 declares) fun vs t first declares =>
      parts _ (.dispatch first) strict h.1.1 declares

theorem args_pointed {es : List Expr}
    (parts : ∀ part, Leads ⟨fuel, .args scope es, s, calls⟩ part → part.Pointed known) :
    Moment.Pointed known ⟨fuel, .args scope es, s, calls⟩ := by
  intro strict h declares
  cases es with
  | nil => exact declares
  | cons e es =>
    exact points_bind (parts _ .head strict h.1 declares) fun v t first declares =>
      points_bind (parts _ (.tail first) strict h.2 declares) fun _ _ _ declares => declares

theorem holds_pointed {c : Expr} (test : Moment.Pointed known ⟨fuel, .expr scope c, s, calls⟩)
    (h : c.Everywhere (placed known strict)) (declares : s.Declares known) :
    (holds (serve fuel) scope c s).Points known strict :=
  points_bind (test strict h declares) fun v _ _ declares =>
    points_lift declares fun on => failing_expectBool v (c.known_of_placed h on)

theorem bindValue_pointed {name : String} {e : Expr} {span : Span}
    (value : Moment.Pointed known ⟨fuel, .expr scope e, s, calls⟩)
    (h : e.Everywhere (placed known strict)) (here : strict = true → known span)
    (declares : s.Declares known) :
    (bindValue (serve fuel) scope name e span s).Points known strict :=
  points_bind (value strict h declares) fun v _ _ declares =>
    points_bind (points_assign declares scope name v here) fun _ _ _ declares => declares

theorem Stmt.pointed {st : Stmt}
    (parts : ∀ part, Leads ⟨fuel, .stmt scope st, s, calls⟩ part → part.Pointed known) :
    Moment.Pointed known ⟨fuel, .stmt scope st, s, calls⟩ := by
  intro strict h declares
  cases st with
  | «variable» name e span => exact bindValue_pointed (parts _ .newValue) h.2 h.1 declares
  | assign name e span => exact bindValue_pointed (parts _ .assigned) h.2 h.1 declares
  | branch c thenBody elseBody span =>
    cases elseBody with
    | none =>
      refine points_bind (holds_pointed (parts _ .test) h.2.1 declares)
        fun goesOn t first declares => ?_
      cases goesOn with
      | false => exact declares
      | true => exact points_map (parts _ (.thenPart first) strict h.2.2 declares) _
    | some elseBody =>
      refine points_bind (holds_pointed (parts _ .test) h.2.1 declares)
        fun goesOn t first declares => ?_
      cases goesOn with
      | false => exact points_map (parts _ (.elsePart first) strict h.2.2.2 declares) _
      | true => exact points_map (parts _ (.thenPart first) strict h.2.2.1 declares) _
  | loop c body span => exact parts _ .rounds strict h.2 declares
  | result value span =>
    cases value with
    | none => exact declares
    | some e => exact points_map (parts _ .returned strict h.2 declares) _
  | jump jump span => exact declares
  | expr e span => exact points_map (parts _ .alone strict h.2 declares) _

theorem body_pointed {ss : List Stmt} {last : Value}
    (parts : ∀ part, Leads ⟨fuel, .body scope last ss, s, calls⟩ part → part.Pointed known) :
    Moment.Pointed known ⟨fuel, .body scope last ss, s, calls⟩ := by
  intro strict h declares
  cases ss with
  | nil => exact declares
  | cons st ss =>
    refine points_bind (parts _ .first strict h.1 declares) fun flow t first declares => ?_
    cases flow with
    | normal v => exact parts _ (.rest first) strict h.2 declares
    | result v => exact declares
    | jump jump => exact declares

theorem program_pointed {p : Program}
    (parts : ∀ part, Leads ⟨fuel, .program scope p, s, calls⟩ part → part.Pointed known) :
    Moment.Pointed known ⟨fuel, .program scope p, s, calls⟩ := by
  intro strict h declares
  exact points_bind (parts _ .statements strict h declares) fun flow _ _ declares =>
    points_lift declares fun _ => failing_programOutcome flow

theorem deliver_pointed {line : String} {code : Empty → HostAction}
    {resume : Except Failure Value → HostAction}
    (parts : ∀ part, Leads ⟨fuel, .action (.ask (.print line) code resume), s, calls⟩ part →
      part.Pointed known)
    (declares : s.Declares known) : (deliver (serve fuel) line s).Points known false := by
  unfold deliver
  split
  next => exact ⟨declares, nofun⟩
  next free =>
    refine points_between (fun _ => rfl) (points_bind (points_attempt ?_) fun _ _ _ d => d)
    exact parts _ (.handled (Bool.eq_false_iff.2 free)) false rfl (declares.of_same rfl)

/-- An answer to the host does not point, but it keeps the declared functions at known spans. -/
theorem respond_pointed {request : HostRequest} {code : request.Given → HostAction}
    {resume : request.Answer → HostAction}
    (parts : ∀ part, Leads ⟨fuel, .action (.ask request code resume), s, calls⟩ part →
      part.Pointed known)
    (declares : s.Declares known) : (respond (serve fuel) request code s).Points known false := by
  cases request with
  | record entry => exact declares.of_same rfl
  | print line => exact points_attempt (deliver_pointed parts declares)
  | call id name vs => exact points_attempt (parts _ .called false nofun declares)
  | execute id source => exact points_attempt (parts _ .executed false rfl declares)
  | define id name v =>
    exact points_attempt (points_bind (points_assign declares id name v nofun)
      fun _ _ _ declares => declares)
  | read id name span => exact points_attempt (points_lookup declares id name nofun)
  | bindings id => exact declares
  | functions => exact declares
  | child id => exact declares.of_same rfl
  | register id name slots =>
    exact points_attempt (points_bind (points_register declares id _)
      fun _ _ _ declares => declares)
  | onPrint =>
    unfold respond
    dsimp only
    split
    next => exact declares
    next => exact declares.of_same rfl

theorem HostAction.pointed {a : HostAction}
    (parts : ∀ part, Leads ⟨fuel, .action a, s, calls⟩ part → part.Pointed known) :
    Moment.Pointed known ⟨fuel, .action a, s, calls⟩ := by
  rintro _ rfl declares
  cases a with
  | done result => exact points_lift declares nofun
  | ask request code resume =>
    exact points_bind (respond_pointed parts declares) fun _ _ first declares =>
      parts _ (.resumed first) false rfl declares

theorem callLibrary_points (declares : s.Declares known) (name : String) (vs : List Value)
    {span : Span} (here : strict = true → known span) :
    (callLibrary name vs span s).Points known strict := by
  unfold callLibrary
  split
  next => exact points_atSpan declares _ here
  next => exact points_lift declares fun on => (failing_toSingles (here on) vs).map _

theorem call_pointed {name : String} {vs : List Value} {span : Span}
    (bare : Moment.HostsBare ⟨fuel + 1, .task (.call scope name vs span), s, calls⟩)
    (parts : ∀ part, Leads ⟨fuel + 1, .task (.call scope name vs span), s, calls⟩ part →
      part.Pointed known) :
    Moment.Pointed known ⟨fuel + 1, .task (.call scope name vs span), s, calls⟩ := by
  intro strict here declares
  show (callNamed (serve fuel) scope name vs span s).Points known strict
  unfold callNamed
  cases found : s.functions.get? name with
  | none => exact callLibrary_points declares name vs here
  | some callable =>
    cases callable with
    | native f =>
      dsimp only
      rcases Nat.lt_or_ge s.depth s.maxCallDepth with room | full
      · rw [counted_of_room span _ room]
        have performed := parts _ (.native found room) false rfl (declares.of_same rfl)
        exact points_between (fun _ => rfl) (points_orSpan performed here fun d t =>
          bare fuel calls scope name vs span s f d t .refl found room)
      · rw [counted_of_full span _ full]
        exact points_atSpan declares _ here
    | scripted d =>
      dsimp only
      by_cases count : vs.length = d.params.length
      · rw [callDeclared_of_count _ span count]
        rcases Nat.lt_or_ge s.depth s.maxCallDepth with room | full
        · rw [counted_of_room span _ room]
          refine points_between (fun _ => rfl) (points_between (fun _ => rfl) ?_)
          have entered : (s.enter.push scope).Declares known := declares.of_same rfl
          refine points_bind (points_bindParams _ here d.params vs entered)
            fun _ t bound declares' => ?_
          have body := placed_of_standing strict (declares name d found).body
          exact points_bind (parts _ (.scripted found count room bound) strict body declares')
            fun flow _ _ declares => points_lift declares fun _ => failing_outcome d flow
        · rw [counted_of_full span _ full]
          exact points_atSpan declares _ here
      · unfold callDeclared
        rw [if_neg count]
        exact points_atSpan declares _ here

theorem loop_pointed {c : Expr} {body : List Stmt}
    (parts : ∀ part, Leads ⟨fuel + 1, .task (.loop scope c body), s, calls⟩ part →
      part.Pointed known) :
    Moment.Pointed known ⟨fuel + 1, .task (.loop scope c body), s, calls⟩ := by
  intro strict h declares
  show ((holds (serve fuel) scope c >>= _) s).Points known strict
  refine points_bind (holds_pointed (parts _ .condition) h.1 declares)
    fun goesOn t first declares => ?_
  cases goesOn with
  | false => exact declares
  | true =>
    refine points_bind (parts _ (.round first) strict h.2 declares) fun flow u ended declares => ?_
    have again goesOn := parts _ (.again first ended goesOn) strict h declares
    cases flow with
    | normal v => exact again (.inr ⟨v, rfl⟩)
    | result v => exact declares
    | jump jump =>
      cases jump with
      | breakLoop => exact declares
      | continueLoop => exact again (.inl rfl)

theorem execute_pointed {source : String}
    (sources : Moment.SourcesPlaced known ⟨fuel + 1, .task (.execute scope source), s, calls⟩)
    (parts : ∀ part, Leads ⟨fuel + 1, .task (.execute scope source), s, calls⟩ part →
      part.Pointed known) :
    Moment.Pointed known ⟨fuel + 1, .task (.execute scope source), s, calls⟩ := by
  rintro _ rfl declares
  show (runSource (serve fuel) scope source s).Points known false
  unfold runSource
  cases read : Program.ofSource source with
  | error d => exact ⟨declares, nofun⟩
  | ok p =>
    have parsed := Program.ofSource_ok_iff.1 read
    exact parts _ (.source parsed) false
      (sources fuel calls scope source s p .refl parsed) declares

end

section

variable {known : Span → Prop} {m m' : Moment}

theorem Moment.HostsBare.part (h : m.HostsBare) (leads : Leads m m') : m'.HostsBare :=
  fun fuel calls scope name vs span s f d t reaches =>
    h fuel calls scope name vs span s f d t (.head leads reaches)

theorem Moment.SourcesPlaced.part (h : m.SourcesPlaced known) (leads : Leads m m') :
    m'.SourcesPlaced known :=
  fun fuel calls scope source s p reaches =>
    h fuel calls scope source s p (.head leads reaches)

/-- In a run in which functions of the host fail without a place, and the host executes only sources
that declare functions at known spans, placed code points. -/
theorem Moment.pointed (m : Moment) (bare : m.HostsBare) (sources : m.SourcesPlaced known) :
    m.Pointed known := by
  induction m using partOf_wellFounded.induction with
  | _ m ih =>
    have parts part (leads : Leads m part) : part.Pointed known :=
      ih part leads (bare.part leads) (sources.part leads)
    obtain ⟨fuel, work, s, calls⟩ := m
    cases work with
    | expr scope e => exact Expr.pointed parts
    | args scope es => exact args_pointed parts
    | stmt scope st => exact Stmt.pointed parts
    | body scope last ss => exact body_pointed parts
    | program scope p => exact program_pointed parts
    | action a => exact HostAction.pointed parts
    | task t =>
      cases fuel with
      | zero => exact fun _ _ _ => trivial
      | succ fuel =>
        cases t with
        | call scope name vs span => exact call_pointed bare parts
        | loop scope c body => exact loop_pointed parts
        | execute scope source => exact execute_pointed sources parts
        | act a => exact fun strict h declares => parts _ .act strict h declares

end

/-! ## Functions of the host -/

/-- If the function fails with a diagnostic, then with one that has neither a span nor a
position. -/
def HostFunction.FailsBare (f : HostFunction) : Prop :=
  ∀ fuel args s d t, perform (serve fuel) (f.invoke args) s = .failure (.diagnostic d) t →
    d.span = none ∧ d.position = none

/-- The functions of the host in the table fail without a place. -/
def State.HostsFailBare (s : State) : Prop :=
  ∀ name f, s.functions.get? name = some (.native f) → f.FailsBare

/-- The functions of the host in the table fail without a place, and neither they nor the print
handler register other ones. -/
structure State.KeepsBare (s : State) : Prop where
  bare : s.HostsFailBare
  asks : s.AsksOnly HostRequest.LeavesTable

theorem State.KeepsBare.of_same {s t : State} (h : s.KeepsBare)
    (functions : t.functions = s.functions) (handler : t.handler = s.handler) : t.KeepsBare := by
  refine ⟨?_, h.asks.of_same functions handler⟩
  unfold HostsFailBare
  rw [functions]
  exact h.bare

/-- Evaluation does not bring functions of the host into the table if the host does not. -/
def hosted : Effect where
  code := .any
  permits := HostRequest.LeavesTable
  legal := State.KeepsBare
  changes _ _ _ := True
  refl _ _ := trivial
  trans _ _ := trivial
  widen _ := trivial
  parsed read := Program.everywhere_any read
  native hosts found := hosts.asks.native found
  scripted _ _ := Declaration.everywhere_of_all (fun _ => trivial) (fun _ => trivial) _
  handler hosts := hosts.asks.handler
  install {s d span} hosts _ := by
    refine ⟨⟨fun name f found => ?_, hosts.asks.install _ _⟩, trivial⟩
    rcases State.get?_of_install found with same | old
    · cases same
    · exact hosts.bare name f old
  record _ hosts := ⟨hosts.of_same rfl rfl, trivial⟩
  assign _ _ hosts _ := ⟨hosts.of_same rfl rfl, trivial⟩
  define _ _ := trivial
  execute _ _ := trivial
  handling hosts _ := ⟨hosts.of_same rfl rfl, fun _ hosts' _ => ⟨hosts'.of_same rfl rfl, trivial⟩⟩
  call hosts _ := ⟨hosts.of_same rfl rfl, fun _ hosts' _ => ⟨hosts'.of_same rfl rfl, trivial⟩⟩
  frame _ hosts := ⟨hosts.of_same rfl rfl, fun _ hosts' _ => ⟨hosts'.of_same rfl rfl, trivial⟩⟩
  child _ hosts := ⟨hosts.of_same rfl rfl, trivial⟩
  register permitted := permitted.elim
  replace _ own hosts _ := ⟨⟨hosts.bare, hosts.asks.native, own⟩, trivial⟩

/-- If the functions of the host in the table fail without a place and the host registers no other
ones meanwhile, they do in each run. -/
theorem State.KeepsBare.hostsBare {s : State} (h : s.KeepsBare) (fuel calls : Nat) {work : Work}
    (only : work.Only HostRequest.LeavesTable) : Moment.HostsBare ⟨fuel, work, s, calls⟩ := by
  intro fuel' calls' scope name vs span s' f d t reaches found room failed
  have fits : work.Fits hosted := Work.fits_of_all (fun _ => trivial) (fun _ => trivial) only
  exact (reaches.fits fits h).2.bare name f found fuel' vs s'.enter d t failed

/-- Printing fails only while a printed line is handled. -/
theorem deliver_failure {serve : Server} {line : String} {s t : State} {e : Failure}
    (failed : deliver serve line s = .failure e t) : e = Fault.nestedPrint.bare := by
  unfold deliver at failed
  split at failed
  next =>
    cases failed
    rfl
  next =>
    -- the outcome of the handling is a value for the one who prints
    dsimp only at failed
    unfold between at failed
    rw [bind_eq] at failed
    unfold attempt at failed
    cases made : serve (.act (s.handler line)) (s.withHandling true) <;>
      rw [made] at failed <;> cases failed

theorem HostFunction.failsBare_print : print.FailsBare := by
  intro fuel args s d t failed
  have asked : (attempt (deliver (serve fuel) _) >>= fun answer =>
      Run.lift (answer.map fun _ => Value.void)) s = .failure (.diagnostic d) t := failed
  rw [bind_eq] at asked
  unfold attempt at asked
  cases made : deliver (serve fuel) _ s with
  | value v u =>
    rw [made] at asked
    cases asked
  | failure e u =>
    rw [made] at asked
    cases asked
    cases deliver_failure made
    exact ⟨rfl, rfl⟩
  | outOfFuel =>
    rw [made] at asked
    cases asked

theorem State.hostsFailBare_initial (settings : Settings) : (initial settings).HostsFailBare := by
  intro name f found
  cases eq_print_of_initial found
  exact HostFunction.failsBare_print

/-! ## Where failures of a program point -/

/-- The spans that the run of a program in the state `s` may point at. -/
inductive SpanInRun (fuel : Nat) (scope : ScopeId) (p : Program) (s : State) : Span → Prop
  /-- A node of the program, bodies of the functions that it declares included. -/
  | program {n : Node} (node : n ∈ bodyNodes p.statements) : SpanInRun fuel scope p s n.span
  /-- A node of the body of a function that is in the table before. -/
  | declared {name : String} {d : Declaration} {n : Node}
    (found : s.functions.get? name = some (.scripted d)) (node : n ∈ d.nodes) :
    SpanInRun fuel scope p s n.span
  /-- A node of the body of a function that is declared in a source which the host executes. -/
  | executed {fuel' calls : Nat} {id : ScopeId} {source : String} {t : State} {q : Program}
    {d : Declaration} {span : Span} {n : Node}
    (reached : Reaches ⟨fuel, .program scope p, s, 0⟩
      ⟨fuel' + 1, .task (.execute id source), t, calls⟩)
    (read : Program.parse source = .ok q)
    (declares : .expr (.function d span) ∈ bodyNodes q.statements) (node : n ∈ d.nodes) :
    SpanInRun fuel scope p s n.span

theorem standing_at {known : Span → Prop} {n : Node} : (standing known).At n ↔ known n.span := by
  cases n <;> exact Iff.rfl

section

variable {fuel : Nat} {scope : ScopeId} {p : Program} {s : State}

theorem placed_program :
    bodyEverywhere (placed (SpanInRun fuel scope p s) true) p.statements :=
  placed_of_standing true ((bodyEverywhere_iff _).2 fun _ node => standing_at.2 (.program node))

theorem declares_start : s.Declares (SpanInRun fuel scope p s) :=
  fun _ d found => d.everywhere_iff.2 fun _ node => standing_at.2 (.declared found node)

theorem sourcesPlaced_run :
    Moment.SourcesPlaced (SpanInRun fuel scope p s) ⟨fuel, .program scope p, s, 0⟩ := by
  intro fuel' calls id source t q reached read
  refine (bodyEverywhere_iff _).2 fun n declares => ?_
  cases n with
  | stmt st => exact nofun
  | expr e =>
    cases e with
    | function d span => exact ⟨nofun, d.everywhere_iff.2 fun _ node =>
        standing_at.2 (.executed reached read declares node)⟩
    | _ => exact ⟨nofun, trivial⟩

/-- A failure of a program in a run whose host functions fail without a place points at code: it has
no position, only a stray jump has no span, and any other span is that of a node of the program, of
the body of a function that is declared already, or of the body of a function that is declared in a
source which the host executes during the run. -/
theorem failure_points_at_code {d : Diagnostic} {t : State}
    (bare : Moment.HostsBare ⟨fuel, .program scope p, s, 0⟩)
    (failed : Interpreter.executeProgram fuel scope p s = .failure (.diagnostic d) t) :
    d.position = none ∧ (d.span = none → d.kind = .controlFlow) ∧
      ∀ span, d.span = some span → SpanInRun fuel scope p s span := by
  have points := Moment.pointed _ bare sourcesPlaced_run true placed_program declares_start
  have run : (Work.program scope p).run fuel s = .failure (.diagnostic d) t := failed
  dsimp only at points
  rw [run] at points
  obtain ⟨-, pointing⟩ := points
  obtain ⟨unplaced, place⟩ := pointing rfl
  refine ⟨unplaced, fun spanless => ?_, fun span own => ?_⟩
  · rw [spanless] at place
    exact place
  · rw [own] at place
    exact place

end

/-! ## A handler that declares a function -/

/-- An interpreter whose print handler executes a source that declares a function. -/
def declaring : State :=
  { State.initial {} with handler := Session.executingHandler "f() \x7b y \x7d" }

theorem run_declaring :
    (match Program.parse "print() f()" with
      | .ok p => match Interpreter.executeProgram 9 State.root p declaring with
        | .failure (.diagnostic d) _ =>
          d.span == some ⟨6, 7⟩ && (bodyNodes p.statements).all fun n => n.span != ⟨6, 7⟩
        | _ => false
      | _ => false) = true := by
  decide +kernel

/-- The program prints and then calls the function that is declared by then. That fails at a place
where no node of the program stands. -/
theorem exists_failure_declaring : ∃ p d t, Program.parse "print() f()" = .ok p ∧
    Interpreter.executeProgram 9 State.root p declaring = .failure (.diagnostic d) t ∧
    d.span = some ⟨6, 7⟩ ∧ ∀ n ∈ bodyNodes p.statements, n.span ≠ ⟨6, 7⟩ := by
  have shape := run_declaring
  split at shape
  next p read =>
    split at shape
    next d t failed =>
      obtain ⟨own, elsewhere⟩ := Bool.and_eq_true_iff.1 shape
      refine ⟨p, d, t, read, failed, eq_of_beq own, fun n node => ?_⟩
      exact bne_iff_ne.1 (List.all_eq_true.1 elsewhere n node)
    next => cases shape
  next => cases shape

/-- The place where the function fails is one in the source that the handler executed. -/
theorem failure_points_at_code_declaring : ∃ p d t,
    Interpreter.executeProgram 9 State.root p declaring = .failure (.diagnostic d) t ∧
    d.position = none ∧ d.span = some ⟨6, 7⟩ ∧
    SpanInRun 9 State.root p declaring ⟨6, 7⟩ := by
  obtain ⟨p, d, t, -, failed, own, -⟩ := exists_failure_declaring
  -- what the handler executes declares a function, but registers none
  have handler line : (declaring.handler line).Only HostRequest.LeavesTable :=
    ⟨trivial, nofun, fun _ => ⟨trivial, nofun, fun _ => ⟨trivial, nofun, fun _ => trivial⟩⟩⟩
  have initial : (State.initial {}).AsksOnly HostRequest.LeavesTable :=
    State.asksOnly_initial {} (fun _ => trivial) fun _ => trivial
  have hosts : declaring.KeepsBare :=
    ⟨State.hostsFailBare_initial {}, initial.native, handler⟩
  obtain ⟨unplaced, -, points⟩ := failure_points_at_code (hosts.hostsBare 9 0 trivial) failed
  exact ⟨p, d, t, failed, unplaced, own, points _ own⟩

/-- A failure need not point into the program or a function that was declared before it, even if all
functions of the host fail without a place. -/
theorem failure_points_elsewhere :
    ¬ ∀ (fuel : Nat) (scope : ScopeId) (p : Program) (s t : State) (d : Diagnostic), p.Parsed →
      Reachable Program.Parsed s → s.HostsFailBare →
      Interpreter.executeProgram fuel scope p s = .failure (.diagnostic d) t →
        d.position = none ∧ (d.span = none → d.kind = .controlFlow) ∧
          ∀ span, d.span = some span → (∃ n ∈ bodyNodes p.statements, n.span = span) ∨
            ∃ name f n, s.functions.get? name = some (.scripted f) ∧ n ∈ f.nodes ∧
              n.span = span := by
  intro points
  obtain ⟨p, d, t, read, failed, own, elsewhere⟩ := exists_failure_declaring
  have reachable : Reachable Program.Parsed declaring := .handled (.initial {}) _
  obtain ⟨-, -, within⟩ := points 9 State.root p declaring t d ⟨_, read⟩ reachable
    (State.hostsFailBare_initial {}) failed
  rcases within _ own with ⟨n, node, here⟩ | ⟨name, f, n, found, -, -⟩
  · exact elsewhere n node here
  · -- only printing is in the table, and it is not declared
    have initial : (State.initial {}).functions.get? name = some (.scripted f) := found
    cases State.eq_print_of_initial initial

end Scriptlet
