import Scriptlet.Session
import Scriptlet.Proofs.Evaluation.Moment

/-
  The states that a host can bring an interpreter to.
  `Reachable` closes the initial states under what a host can do: begin an evaluation, bind a
  variable, make an environment, register a function, set the print handler and take what was
  recorded. What a step can make of a session is said once (`Session.step_turn`); what all sessions
  are like is proved for each `Session.Turn`. Main statement: the state of a session is reachable by
  programs that were read from sources, whatever its steps were (`Session.step_sound`).
-/

namespace Scriptlet

/-- The evaluations that a host can begin: of a source or an admitted program, and a call by name
or of a function at hand. -/
inductive Work.Begun (admits : Program → Prop) : Work → Prop
  | source (scope : ScopeId) (text : String) : Begun admits (.task (.execute scope text))
  | program (scope : ScopeId) {p : Program} (admitted : admits p) : Begun admits (.program scope p)
  | call (scope : ScopeId) (name : String) (args : List Value) (span : Span) :
    Begun admits (.task (.call scope name args span))
  | native (f : HostFunction) (args : List Value) : Begun admits (.action (f.invoke args))

/-- The states that a host can bring about with the programs it admits. -/
inductive Reachable (admits : Program → Prop) : State → Prop
  | initial (settings : Settings) : Reachable admits (.initial settings)
  | ran {s t : State} {fuel : Nat} {work : Work} (before : Reachable admits s)
    (begun : work.Begun admits) (ended : (work.run fuel s).Ends t) : Reachable admits t
  | bound {s t : State} {id : ScopeId} {name : String} {v : Value} {span : Span}
    (before : Reachable admits s) (ended : (Run.assign id name v span s).Ends t) :
    Reachable admits t
  | child {s : State} (before : Reachable admits s) (id : ScopeId) :
    Reachable admits (s.child id).1
  | registered {s t : State} {id : ScopeId} {f : HostFunction} (before : Reachable admits s)
    (made : s.register id f = .ok t) : Reachable admits t
  | handled {s : State} (before : Reachable admits s) (handler : String → HostAction) :
    Reachable admits { s with handler := handler }
  | taken {s : State} (before : Reachable admits s) (recorded : List Entry) :
    Reachable admits { s with recorded := recorded }

/-- The program was read from a source. -/
def Program.Parsed (p : Program) : Prop :=
  ∃ source, parse source = .ok p

/-- What a host can begin fits an effect that permits its functions everything. -/
theorem Work.Begun.fits {E : Effect} {admits : Program → Prop} {work : Work}
    (begun : work.Begun admits) (permits : ∀ request, E.permits request)
    (code : ∀ p, admits p → bodyEverywhere E.code p.statements) : work.Fits E := by
  cases begun with
  | source scope text => exact trivial
  | program scope admitted => exact code _ admitted
  | call scope name args span => exact trivial
  | native f args => exact HostAction.only_of_all permits _

namespace Run

theorem ends_of_fail {α : Type} {e : Failure} {s t : State}
    (h : ((Run.fail e : Run α) s).Ends t) : t = s :=
  Eq.symm h

theorem ends_of_assign {id : ScopeId} {name : String} {v : Value} {span : Span} {s t : State}
    (h : (Run.assign id name v span s).Ends t) :
    t = s ∨ v.isVoid = false ∧ t = s.bind id name v := by
  unfold assign at h
  split at h
  next => exact .inl (ends_of_fail h)
  next held => exact .inr ⟨Bool.eq_false_iff.2 held, Eq.symm h⟩

end Run

/-! ## Sessions -/

namespace Session

/-- The evaluations that the session can begin, in environments that it has names for. -/
inductive Begins (s : Session) : Work → Prop
  | source {env : Option String} {id : ScopeId} (here : s.scope? env = some id) (text : String) :
    Begins s (.task (.execute id text))
  | call {env : Option String} {id : ScopeId} (here : s.scope? env = some id) (name : String)
    (args : List Value) : Begins s (.task (.call id name args .zero))
  | program {env : Option String} {id : ScopeId} {name : String} {p : Program}
    (here : s.scope? env = some id) (found : s.programs.get? name = some p) :
    Begins s (.program id p)

/-- What a step of the session can make of it. -/
inductive Turn (s : Session) : Session → Prop
  | idle : Turn s s
  | loaded {name source : String} {p : Program} (read : Program.ofSource source = .ok p) :
    Turn s { s with programs := s.programs.insert name p }
  | evaluated {t : State} {fuel : Nat} {work : Work} (begins : s.Begins work)
    (ended : (work.run fuel s.state).Ends t) : Turn s { s with state := t }
  | bound {t : State} {env : Option String} {id : ScopeId} {name : String} {v : Value} {span : Span}
    (here : s.scope? env = some id) (ended : (Run.assign id name v span s.state).Ends t) :
    Turn s { s with state := t }
  | child {env : Option String} {id : ScopeId} {name : String} (here : s.scope? env = some id) :
    Turn s { s with
      state := (s.state.child id).1
      environments := s.environments.insert name (s.state.child id).2 }
  | registered {t : State} {env : Option String} {id : ScopeId} {item name : String}
    {f : HostFunction} (here : s.scope? env = some id) (found : Catalog.find? item name = some f)
    (made : s.state.register id f = .ok t) : Turn s { s with state := t }
  | recording : Turn s { s with state := { s.state with handler := State.recordLine } }
  | executing (source : String) :
    Turn s { s with state := { s.state with handler := executingHandler source } }
  | recorded (entries : List Entry) :
    Turn s { s with state := { s.state with recorded := entries } }

section

variable {s : Session}

theorem compute_turn {m : Run Value}
    (turn : ∀ t, (m s.state).Ends t → s.Turn { s with state := t }) : s.Turn (s.compute m).1 := by
  unfold compute
  cases ended : m s.state with
  | value v t => exact turn t (by rw [ended]; rfl)
  | failure e t => exact turn t (by rw [ended]; rfl)
  | outOfFuel => exact .idle

theorem change_turn {m : Run Unit}
    (turn : ∀ t, (m s.state).Ends t → s.Turn { s with state := t }) : s.Turn (s.change m).1 := by
  unfold change
  cases ended : m s.state with
  | value v t => exact turn t (by rw [ended]; rfl)
  | failure e t => exact turn t (by rw [ended]; rfl)
  | outOfFuel => exact .idle

theorem inScope_turn (env : Option String) {f : ScopeId → Session × Answer}
    (turn : ∀ id, s.scope? env = some id → s.Turn (f id).1) : s.Turn (s.inScope env f).1 := by
  unfold inScope
  split
  next id here => exact turn id here
  next => exact .idle

/-- There is nothing else that a step can make of a session. -/
theorem step_turn (s : Session) (fuel : Nat) (request : Step) : s.Turn (s.step fuel request).1 := by
  cases request with
  | eval source env =>
    refine inScope_turn env fun id here => compute_turn fun t ended => ?_
    have ended' : ((Work.task (.execute id source)).run (fuel + 1) s.state).Ends t := ended
    exact .evaluated (.source here source) ended'
  | call name args env =>
    refine inScope_turn env fun id here => compute_turn fun t ended => ?_
    have ended' : ((Work.task (.call id name args .zero)).run (fuel + 1) s.state).Ends t := ended
    exact .evaluated (.call here name args) ended'
  | program id source =>
    unfold step
    dsimp only
    split
    next p read => exact .loaded read
    next => exact .idle
  | run id env =>
    refine inScope_turn env fun scope here => ?_
    split
    next p found => exact compute_turn fun t ended => .evaluated (.program here found) ended
    next => exact .idle
  | child id env => exact inScope_turn env fun scope here => .child here
  | register name item env =>
    refine inScope_turn env fun scope here => ?_
    split
    next => exact .idle
    next f found =>
      split
      next t made => exact .registered here found made
      next => exact .idle
  | native name item args =>
    unfold step callApart
    dsimp only
    split
    next => exact .idle
    next f found =>
      split
      · exact .recorded _
      · exact .recorded _
      · exact .idle
  | set name value span env =>
    exact inScope_turn env fun id here => change_turn fun t ended => .bound here ended
  | get name span env =>
    refine inScope_turn env fun id here => compute_turn fun t ended => ?_
    rw [(Run.leaves_lookup id name span s.state).ends ended]
    exact .idle
  | own name env => exact inScope_turn env fun scope here => .idle
  | function name => exact .idle
  | describe env => exact inScope_turn env fun scope here => .idle
  | onPrint source =>
    cases source with
    | none => exact .recording
    | some source => exact .executing source

end

/-- The state of the session is reachable, and its programs were read from sources. -/
structure Sound (s : Session) : Prop where
  state : Reachable Program.Parsed s.state
  programs : ∀ id p, s.programs.get? id = some p → p.Parsed

theorem sound_new (settings : Settings) : (new settings).Sound where
  state := .initial settings
  programs := nofun

variable {s s' : Session}

theorem Sound.begun (sound : s.Sound) {work : Work} (begins : s.Begins work) :
    work.Begun Program.Parsed := by
  cases begins with
  | source here text => exact .source _ text
  | call here name args => exact .call _ name args _
  | program here found => exact .program _ (sound.programs _ _ found)

theorem Sound.turn (sound : s.Sound) (turn : s.Turn s') : s'.Sound := by
  cases turn with
  | idle => exact sound
  | @loaded name source p read =>
    refine ⟨sound.state, fun other q found => ?_⟩
    rw [Bindings.get?_insert] at found
    split at found
    next =>
      cases found
      exact ⟨source, Program.ofSource_ok_iff.1 read⟩
    next => exact sound.programs other q found
  | evaluated begins ended => exact ⟨.ran sound.state (sound.begun begins) ended, sound.programs⟩
  | bound here ended => exact ⟨.bound sound.state ended, sound.programs⟩
  | child here => exact ⟨.child sound.state _, sound.programs⟩
  | registered here found made => exact ⟨.registered sound.state made, sound.programs⟩
  | recording => exact ⟨.handled sound.state _, sound.programs⟩
  | executing source => exact ⟨.handled sound.state _, sound.programs⟩
  | recorded entries => exact ⟨.taken sound.state _, sound.programs⟩

/-- Every step of a session leaves it sound. -/
theorem step_sound (sound : s.Sound) (fuel : Nat) (request : Step) :
    (s.step fuel request).1.Sound :=
  sound.turn (s.step_turn fuel request)

theorem respond_sound (sound : s.Sound) (fuel : Nat) (request : Step) :
    (s.respond fuel request).1.Sound :=
  step_sound (sound.turn (.recorded [])) fuel request

end Session

end Scriptlet
