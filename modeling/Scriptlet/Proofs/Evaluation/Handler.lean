import Scriptlet.Proofs.Evaluation.Hosting
import Scriptlet.Proofs.Evaluation.Transcript

/-
  The print handler.
  However an evaluation ends, the print handler runs afterwards exactly if it ran before, and while
  it runs it is not replaced (`exclusion`); so along a run it is running exactly if a printed line
  was handed to it and it has not ended yet (`Handles.count`). While it runs, `print` is refused by
  every route (`State.busy`); while it does not, a call of `print` that the depth admits hands over
  its line, and does not fail whatever the handler does (`State.ready`). A line is handed over as
  soon as the arguments of its call are evaluated, before anything else is printed
  (`prompt_printing`). Main statement: `print_handler_exclusive`.
-/

namespace Scriptlet

/-! ## Whether the handler runs -/

/-- The print handler runs in both states or in neither, and if it runs, it is the same one. -/
structure Exclusive (s t : State) : Prop where
  handling : t.handling = s.handling
  handler : s.handling = true → t.handler = s.handler

theorem Exclusive.refl (s : State) : Exclusive s s :=
  ⟨rfl, fun _ => rfl⟩

theorem Exclusive.trans {s t u : State} (first : Exclusive s t) (next : Exclusive t u) :
    Exclusive s u where
  handling := next.handling.trans first.handling
  handler busy := (next.handler (first.handling.trans busy)).trans (first.handler busy)

/-- Evaluation of the same code with the same host as in `balance` leaves the print handler running
or not as it was, and does not replace it while it runs. -/
def exclusion : Effect :=
  { balance with
    changes := fun _ => Exclusive
    refl := fun _ => .refl
    trans := .trans
    widen := fun h => h
    install := fun _ _ => ⟨trivial, rfl, fun _ => rfl⟩
    record := fun _ _ => ⟨trivial, rfl, fun _ => rfl⟩
    assign := fun _ _ _ _ => ⟨trivial, rfl, fun _ => rfl⟩
    define := fun _ h => h
    execute := fun _ h => h
    handling := fun _ free => ⟨trivial, fun _ _ _ =>
      ⟨trivial, free.symm, fun busy => nomatch free.symm.trans busy⟩⟩
    call := fun _ _ => ⟨trivial, fun _ _ h => ⟨trivial, h.handling, h.handler⟩⟩
    frame := fun _ _ => ⟨trivial, fun _ _ h => ⟨trivial, h.handling, h.handler⟩⟩
    child := fun _ _ => ⟨trivial, rfl, fun _ => rfl⟩
    register := fun _ _ _ => ⟨trivial, rfl, fun _ => rfl⟩
    replace := fun _ _ _ free => ⟨trivial, rfl, fun busy => nomatch free.symm.trans busy⟩ }

theorem fits_exclusion (work : Work) : work.Fits exclusion :=
  Work.fits_of_all (fun _ => trivial) (fun _ => trivial) (work.only_of_all fun _ => trivial)

theorem Work.run_exclusive (work : Work) (fuel : Nat) (s : State) :
    (work.run fuel s).Leaves (Exclusive s) :=
  (work.run_obeys (fits_exclusion work) fuel s trivial).mono fun _ ended => ended.2

/-- Between evaluations no line is handled. -/
theorem Reachable.handling_eq_false {admits : Program → Prop} {s : State}
    (h : Reachable admits s) : s.handling = false := by
  induction h with
  | initial settings => rfl
  | @ran s t fuel work before begun ended ih =>
    exact ((work.run_exclusive fuel s).ends ended).handling.trans ih
  | bound before ended ih =>
    rcases Run.ends_of_assign ended with rfl | ⟨-, rfl⟩
    · exact ih
    · exact ih
  | child before id ih => exact ih
  | registered before made ih =>
    rw [State.register_eq_ok made]
    exact ih
  | handled before handler ih => exact ih
  | taken before recorded ih => exact ih

/-! ## Hosts that set no handler meanwhile -/

/-- Both states have the same print handler, and it runs in both of them or in neither. -/
structure SameHandler (s t : State) : Prop where
  handling : t.handling = s.handling
  handler : t.handler = s.handler

/-- The request is not one to set the print handler. -/
def HostRequest.LeavesHandler : HostRequest → Prop
  | .onPrint => False
  | _ => True

/-- Evaluation of any code, with a host that does not set the print handler, leaves it. -/
def steadiness : Effect where
  code := .any
  permits := HostRequest.LeavesHandler
  legal := State.AsksOnly HostRequest.LeavesHandler
  changes _ s t := t.handler = s.handler
  refl _ _ := rfl
  trans first next := next.trans first
  widen h := h
  parsed := Program.everywhere_any
  native asks found := asks.native found
  scripted _ _ := Declaration.everywhere_of_all (fun _ => trivial) (fun _ => trivial) _
  handler asks := asks.handler
  install asks _ := ⟨asks.install _ _, rfl⟩
  record _ asks := ⟨asks.of_same rfl rfl, rfl⟩
  assign _ _ asks _ := ⟨asks.of_same rfl rfl, rfl⟩
  define _ h := h
  execute _ h := h
  handling asks _ := ⟨asks.of_same rfl rfl, fun _ asks' h => ⟨asks'.of_same rfl rfl, h⟩⟩
  call asks _ := ⟨asks.of_same rfl rfl, fun _ asks' h => ⟨asks'.of_same rfl rfl, h⟩⟩
  frame _ asks := ⟨asks.of_same rfl rfl, fun _ asks' h => ⟨asks'.of_same rfl rfl, h⟩⟩
  child _ asks := ⟨asks.of_same rfl rfl, rfl⟩
  register _ own asks := ⟨asks.register own, rfl⟩
  replace permitted := permitted.elim

theorem fits_steadiness {work : Work} (only : work.Only HostRequest.LeavesHandler) :
    work.Fits steadiness :=
  Work.fits_of_all (fun _ => trivial) (fun _ => trivial) only

/-! ## How often the handler is entered -/

/-- The first moment hands a printed line to the print handler, and the second one is where the
handler begins. -/
def Hands (m m' : Moment) : Prop :=
  ∃ line code resume, m.work = .action (.ask (.print line) code resume) ∧
    m'.work = .task (.act (m.state.handler line))

/-- The second moment is one of the run that the first one begins, at which so many invocations of
the print handler are under way. -/
inductive Handles (m : Moment) : Nat → Moment → Prop
  | start : Handles m 0 m
  | enter {n : Nat} {m' m'' : Moment} (before : Handles m n m') (step : Leads m' m'')
    (hands : Hands m' m'') : Handles m (n + 1) m''
  | within {n : Nat} {m' m'' : Moment} (before : Handles m n m') (step : Leads m' m'')
    (other : ¬ Hands m' m'') : Handles m n m''

section

variable {m m' : Moment}

theorem Reaches.handles (h : Reaches m m') : ∃ n, Handles m n m' := by
  induction h with
  | refl => exact ⟨0, .start⟩
  | @tail m' m'' _ step ih =>
    obtain ⟨n, before⟩ := ih
    by_cases hands : Hands m' m''
    · exact ⟨n + 1, before.enter step hands⟩
    · exact ⟨n, before.within step hands⟩

/-- A line is handed over only while none is handled. -/
theorem Leads.state_of_hands (h : Leads m m') (hands : Hands m m') :
    m.state.handling = false ∧ m'.state = m.state.withHandling true := by
  obtain ⟨fuel, work, s, calls⟩ := m
  obtain ⟨fuel', work', s', calls'⟩ := m'
  obtain ⟨line, code, resume, asked, handed⟩ := hands
  cases asked
  cases handed
  cases h with
  | handled free => exact ⟨free, rfl⟩

/-- Nothing else makes the handler run, or end. -/
theorem Leads.exclusive (h : Leads m m') (other : ¬ Hands m m') : Exclusive m.state m'.state := by
  obtain ⟨-, begun⟩ := h.begins (fits_exclusion m.work) trivial
  cases begun with
  | part w calls legal changes => exact changes
  | handling calls free state asked => exact absurd asked other
  | native calls room state =>
    rw [state]
    exact ⟨rfl, fun _ => rfl⟩
  | scripted scope calls room legal changes => exact ⟨changes.handling, changes.handler⟩

/-- The handler runs exactly if an invocation of it is under way, of which there is one at most. -/
theorem Handles.count {n : Nat} (h : Handles m n m') (free : m.state.handling = false) :
    n = m'.state.handling.toNat := by
  induction h with
  | start =>
    rw [free]
    rfl
  | @enter n m' m'' before step hands ih =>
    obtain ⟨open_, entered⟩ := step.state_of_hands hands
    rw [open_] at ih
    rw [entered, ih]
    rfl
  | @within n m' m'' before step other ih =>
    rw [(step.exclusive other).handling]
    exact ih

/-- If the host sets none meanwhile, the handler is the one that a run begins with. -/
theorem Leads.handler_eq (h : Leads m m') (fits : m.work.Fits steadiness)
    (asks : m.state.AsksOnly HostRequest.LeavesHandler) : m'.state.handler = m.state.handler := by
  obtain ⟨-, begun⟩ := h.begins fits asks
  cases begun with
  | part w calls legal changes => exact changes
  | handling calls free state asked =>
    rw [state]
    rfl
  | native calls room state =>
    rw [state]
    rfl
  | scripted scope calls room legal changes => exact changes

theorem Reaches.handler_eq (h : Reaches m m') (fits : m.work.Fits steadiness)
    (asks : m.state.AsksOnly HostRequest.LeavesHandler) : m'.state.handler = m.state.handler := by
  induction h with
  | refl => rfl
  | tail before step ih =>
    obtain ⟨fits', asks'⟩ := Reaches.fits before fits asks
    exact (step.handler_eq fits' asks').trans ih

end

/-! ## What is printed -/

/-- The line that a call of `print` makes of its arguments: their texts, one after the other. -/
def lineOf (vs : List Value) : String :=
  String.join (vs.map Value.text)

/-- What happens to lines. -/
inductive PrintEvent where
  /-- The arguments of a call of `print` are evaluated, and the call can deliver their line. -/
  | called (line : String)
  /-- The print handler is given a line. -/
  | delivered (line : String)

/-- The line of a call. -/
def PrintEvent.called? : PrintEvent → Option String
  | .called line => some line
  | .delivered _ => none

/-- The line that is delivered. -/
def PrintEvent.delivered? : PrintEvent → Option String
  | .called _ => none
  | .delivered line => some line

/-- In this state the name stands for the `print` that every interpreter begins with, a call is
admitted, and no line is handled. -/
structure State.Prints (s : State) (name : String) : Prop where
  found : s.functions.get? name = some (.native .print)
  room : s.depth < s.maxCallDepth
  free : s.handling = false

open Classical in
/-- What happens to lines at a moment. -/
noncomputable def printing (m : Moment) : List PrintEvent :=
  match m.work with
  | .task (.call _ name vs _) =>
    if 0 < m.fuel ∧ m.state.Prints name then [.called (lineOf vs)] else []
  | .action (.ask (.print line) _ _) => if m.state.handling then [] else [.delivered line]
  | _ => []

section

variable {m : Moment} {fuel calls : Nat} {scope : ScopeId} {name line : String} {vs : List Value}
  {span : Span} {code : Empty → HostAction} {resume : Except Failure Value → HostAction} {s : State}

theorem printing_of_prints (prints : s.Prints name) :
    printing ⟨fuel + 1, .task (.call scope name vs span), s, calls⟩ = [.called (lineOf vs)] :=
  if_pos ⟨Nat.succ_pos fuel, prints⟩

theorem printing_of_asked (free : s.handling = false) :
    printing ⟨fuel, .action (.ask (.print line) code resume), s, calls⟩ = [.delivered line] :=
  if_neg (Bool.eq_false_iff.1 free)

theorem printing_of_handling (busy : m.state.handling = true) : printing m = [] := by
  unfold printing
  split
  next => exact if_neg fun prints => nomatch prints.2.free.symm.trans busy
  next => exact if_pos busy
  next => rfl

/-- While a line is handled nothing is printed, now or later. -/
theorem chronicle_of_handling (m : Moment) (busy : m.state.handling = true) :
    m.chronicle printing = [] := by
  -- only a line that is handed over changes whether the handler runs, and none can be
  induction m using partOf_wellFounded.induction with
  | _ m ih =>
    rw [m.chronicle_eq, printing_of_handling busy, List.nil_append, List.flatMap_eq_nil_iff]
    intro part member
    have leads : Leads m part := Moment.mem_parts.1 member
    have other : ¬ Hands m part := fun hands =>
      nomatch (leads.state_of_hands hands).1.symm.trans busy
    exact ih part leads ((leads.exclusive other).handling.trans busy)

/-- A line that is asked to be printed is delivered, and afterwards what the asking action goes on
with is printed. -/
theorem chronicle_of_asked (free : s.handling = false) :
    Moment.chronicle printing ⟨fuel, .action (.ask (.print line) code resume), s, calls⟩ =
      .delivered line ::
        ((respond (serve fuel) (.print line) code s).onward fun answer t =>
          [⟨fuel, .action (resume answer), t, calls⟩]).flatMap (Moment.chronicle printing) := by
  rw [Moment.chronicle_eq, printing_of_asked free]
  show [PrintEvent.delivered line] ++
    (HostRequest.parts fuel calls s (.print line) ++ _).flatMap _ = _
  have handled : HostRequest.parts fuel calls s (.print line) =
      [⟨fuel, .task (.act (s.handler line)), s.withHandling true, calls⟩] :=
    if_neg (Bool.eq_false_iff.1 free)
  rw [handled, List.flatMap_append, List.flatMap_singleton, chronicle_of_handling _ rfl]
  rfl

/-- A call of `print` that can deliver its line does so, and nothing else is printed during it. -/
theorem chronicle_of_prints (prints : s.Prints name) :
    Moment.chronicle printing ⟨fuel + 1, .task (.call scope name vs span), s, calls⟩ =
      [.called (lineOf vs), .delivered (lineOf vs)] := by
  have begun : Moment.parts ⟨fuel + 1, .task (.call scope name vs span), s, calls⟩ =
      [⟨fuel, .action (HostFunction.print.invoke vs), s.enter, calls + 1⟩] :=
    callParts_of_native prints.found prints.room
  rw [Moment.chronicle_eq, printing_of_prints prints, begun, List.flatMap_singleton]
  show PrintEvent.called (lineOf vs) :: Moment.chronicle printing
    ⟨fuel, .action (.ask (.print (lineOf vs)) _ _), s.enter, calls + 1⟩ = _
  have free : s.enter.handling = false := prints.free
  rw [chronicle_of_asked free]
  congr 2
  rw [List.flatMap_eq_nil_iff]
  intro part member
  obtain ⟨answer, t, -, last⟩ := Outcome.mem_onward.1 member
  rw [List.mem_singleton.1 last]
  exact Moment.chronicle_eq printing _

/-! ## When lines are delivered -/

/-- After the arguments of a call of `print` are evaluated, nothing else is printed before the line
of the call is delivered. Other lines are those that functions of the host print of themselves, if
there are `others`. -/
inductive Prompt (others : Prop) : List PrintEvent → Prop
  | nil : Prompt others []
  | delivered {line : String} {rest : List PrintEvent} (other : others) : Prompt others rest →
    Prompt others (.delivered line :: rest)
  | called {line : String} {rest : List PrintEvent} : Prompt others rest →
    Prompt others (.called line :: .delivered line :: rest)

section

variable {others : Prop} {es rest : List PrintEvent}

theorem Prompt.append (first : Prompt others es) (next : Prompt others rest) :
    Prompt others (es ++ rest) := by
  induction first with
  | nil => exact next
  | delivered other _ ih => exact .delivered other ih
  | called _ ih => exact .called ih

theorem Prompt.flatMap {α : Type} {f : α → List PrintEvent} {l : List α}
    (each : ∀ a ∈ l, Prompt others (f a)) : Prompt others (l.flatMap f) := by
  induction l with
  | nil => exact .nil
  | cons a l ih =>
    rw [List.flatMap_cons]
    exact (each a List.mem_cons_self).append (ih fun b member => each b (.tail a member))

/-- If only calls print, the print handler is given the lines of the calls, in their order. -/
theorem Prompt.lines_eq (h : Prompt False es) :
    es.filterMap PrintEvent.delivered? = es.filterMap PrintEvent.called? := by
  induction h with
  | nil => rfl
  | delivered other => exact other.elim
  | @called line rest _ ih => exact congrArg (line :: ·) ih

end

/-- The request is neither one to print nor one to register a function, which could print. -/
def HostRequest.Mute : HostRequest → Prop
  | .print _ | .register _ _ _ => False
  | _ => True

theorem HostRequest.Mute.leavesTable {request : HostRequest} (mute : request.Mute) :
    request.LeavesTable := by
  cases request with
  | register id name slots => exact mute
  | _ => exact trivial

/-- Functions of the host other than `print` do not print of themselves, and neither they nor the
print handler register other ones. -/
structure State.PrintsByCalls (s : State) : Prop where
  mute : ∀ name f, s.functions.get? name = some (.native f) →
    f = .print ∨ ∀ vs, (f.invoke vs).Only HostRequest.Mute
  handler : ∀ line, (s.handler line).Only HostRequest.LeavesTable

/-- Evaluation does not change which functions of the host there are to call. -/
def muteness : Effect where
  code := .any
  permits := HostRequest.LeavesTable
  legal := State.PrintsByCalls
  changes _ _ _ := True
  refl _ _ := trivial
  trans _ _ := trivial
  widen h := h
  parsed := Program.everywhere_any
  native {s name f} host found args := by
    rcases host.mute name f found with rfl | mute
    · exact ⟨trivial, nofun, fun _ => trivial⟩
    · exact (mute args).mono fun _ => HostRequest.Mute.leavesTable
  scripted _ _ := Declaration.everywhere_of_all (fun _ => trivial) (fun _ => trivial) _
  handler host := host.handler
  install {s d _} host _ := by
    refine ⟨⟨fun name f found => ?_, host.handler⟩, trivial⟩
    rcases State.get?_of_install found with same | old
    · cases same
    · exact host.mute name f old
  record _ host := ⟨⟨host.mute, host.handler⟩, trivial⟩
  assign _ _ host _ := ⟨⟨host.mute, host.handler⟩, trivial⟩
  define _ h := h
  execute _ h := h
  handling host _ := ⟨⟨host.mute, host.handler⟩, fun _ host' _ =>
    ⟨⟨host'.mute, host'.handler⟩, trivial⟩⟩
  call host _ := ⟨⟨host.mute, host.handler⟩, fun _ host' _ =>
    ⟨⟨host'.mute, host'.handler⟩, trivial⟩⟩
  frame _ host := ⟨⟨host.mute, host.handler⟩, fun _ host' _ =>
    ⟨⟨host'.mute, host'.handler⟩, trivial⟩⟩
  child _ host := ⟨⟨host.mute, host.handler⟩, trivial⟩
  register permitted := permitted.elim
  replace _ own host _ := ⟨⟨host.mute, own⟩, trivial⟩

theorem fits_muteness {work : Work} (only : work.Only HostRequest.LeavesTable) :
    work.Fits muteness :=
  Work.fits_of_all (fun _ => trivial) (fun _ => trivial) only

namespace Session

variable {s s' : Session}

theorem printsByCalls_new (settings : Settings) : (new settings).state.PrintsByCalls := by
  refine ⟨fun name f found => .inl ?_, fun line => ⟨trivial, nofun, fun _ => trivial⟩⟩
  have initial : (State.initial settings).functions.get? name = some (.native f) := found
  exact Callable.native.inj (State.eq_print_of_initial initial)

/-- What a session begins is not an action of the host. -/
theorem Begins.leavesTable {work : Work} (begins : s.Begins work) :
    work.Only HostRequest.LeavesTable := by
  cases begins with
  | source here text => exact trivial
  | call here name args => exact trivial
  | program here found => exact trivial

/-- The functions of the catalog do not print. -/
theorem printsByCalls_turn (turn : s.Turn s') (host : s.state.PrintsByCalls) :
    s'.state.PrintsByCalls := by
  cases turn with
  | idle => exact host
  | loaded read => exact host
  | @evaluated t fuel work begins ended =>
    have fits := fits_muteness begins.leavesTable
    exact ((work.run_obeys fits fuel s.state host).ends ended).1
  | bound here ended =>
    rcases Run.ends_of_assign ended with rfl | ⟨-, rfl⟩
    · exact host
    · exact ⟨host.mute, host.handler⟩
  | child here => exact ⟨host.mute, host.handler⟩
  | @registered t env id item name f here found made =>
    rw [State.register_eq_ok made]
    refine ⟨fun other g installed => ?_, host.handler⟩
    rcases State.get?_of_install installed with same | old
    · cases same
      exact .inr (Catalog.only_of_find? (fun _ => trivial) (fun _ _ => trivial) (fun _ => trivial)
        found)
    · exact host.mute other g old
  | recording => exact ⟨host.mute, fun line => ⟨trivial, nofun, fun _ => trivial⟩⟩
  | executing source =>
    refine ⟨host.mute, fun line => ⟨trivial, nofun, fun _ => ⟨trivial, nofun, fun _ => ?_⟩⟩⟩
    exact ⟨trivial, nofun, fun _ => trivial⟩
  | recorded entries => exact ⟨host.mute, host.handler⟩

/-- Whatever a session is asked, only calls of `print` print in it. -/
theorem respond_printsByCalls (host : s.state.PrintsByCalls) (fuel : Nat) (request : Step) :
    (s.respond fuel request).1.state.PrintsByCalls :=
  printsByCalls_turn (step_turn _ fuel request) (printsByCalls_turn (.recorded []) host)

end Session

section

variable {m m' : Moment}

/-- What does not print of itself leads to the same, unless it is a call of `print`. -/
theorem Leads.mute (h : Leads m m') (host : m.state.PrintsByCalls)
    (mute : m.work.Only HostRequest.Mute) : m'.work.Only HostRequest.Mute ∨
      ∃ fuel scope name vs span s calls,
        m = ⟨fuel + 1, .task (.call scope name vs span), s, calls⟩ ∧
        s.functions.get? name = some (.native .print) ∧ s.depth < s.maxCallDepth := by
  cases h with
  | handled free => exact mute.1.elim
  | resumed first => exact .inl (mute.2.2 _)
  | @native fuel calls s scope span name vs f found room =>
    rcases host.mute name f found with rfl | apart
    · exact .inr ⟨fuel, scope, name, vs, span, s, calls, rfl, found, room⟩
    · exact .inl (apart vs)
  | act => exact .inl mute
  | _ => exact .inl trivial

/-- Functions of the host print by calls also where the evaluation goes on. -/
theorem Leads.printsByCalls (h : Leads m m') (host : m.state.PrintsByCalls)
    (mute : m.work.Only HostRequest.Mute) : m'.state.PrintsByCalls := by
  have only : m.work.Only HostRequest.LeavesTable :=
    mute.mono fun _ => HostRequest.Mute.leavesTable
  exact (h.begins (fits_muteness only) host).2.legal host

/-- What happens to lines at a moment is nothing, a request to print, or a call of `print`. -/
theorem printing_cases (m : Moment) : printing m = [] ∨
    (∃ line code resume, printing m = [.delivered line] ∧
      m.work = .action (.ask (.print line) code resume)) ∨
    ∃ fuel scope name vs span s calls,
      m = ⟨fuel + 1, .task (.call scope name vs span), s, calls⟩ ∧ s.Prints name := by
  obtain ⟨fuel, work, s, calls⟩ := m
  unfold printing
  split
  next scope name vs span same =>
    split
    next prints =>
      cases same
      cases fuel with
      | zero => exact absurd prints.1 (Nat.lt_irrefl 0)
      | succ fuel => exact .inr (.inr ⟨fuel, scope, name, vs, span, s, calls, rfl, prints.2⟩)
    next => exact .inl rfl
  next line code resume same =>
    split
    next => exact .inl rfl
    next => exact .inr (.inl ⟨line, code, resume, rfl, same⟩)
  next => exact .inl rfl

end

/-- Along every run lines are delivered in the order in which the arguments of their calls are
evaluated. -/
theorem prompt_printing {others : Prop} (m : Moment) (apart : ¬ others →
    m.state.PrintsByCalls ∧ m.work.Only HostRequest.Mute) :
    Prompt others (m.chronicle printing) := by
  -- a call of `print` is taken as a whole, so what it leads to needs no case of its own
  induction m using partOf_wellFounded.induction with
  | _ m ih =>
    by_cases busy : m.state.handling = true
    · rw [chronicle_of_handling m busy]
      exact .nil
    have free : m.state.handling = false := Bool.eq_false_iff.2 busy
    by_cases call : ∃ fuel scope name vs span s calls,
        m = ⟨fuel + 1, .task (.call scope name vs span), s, calls⟩ ∧ s.Prints name
    · obtain ⟨fuel, scope, name, vs, span, s, calls, rfl, prints⟩ := call
      rw [chronicle_of_prints prints]
      exact .called .nil
    have later : Prompt others (m.parts.flatMap (Moment.chronicle printing)) := by
      refine .flatMap fun part member => ?_
      have leads : Leads m part := Moment.mem_parts.1 member
      refine ih part leads fun none_ => ?_
      obtain ⟨host, mute⟩ := apart none_
      refine ⟨leads.printsByCalls host mute, ?_⟩
      rcases leads.mute host mute with mute |
        ⟨fuel, scope, name, vs, span, s, calls, rfl, found, room⟩
      · exact mute
      · exact absurd ⟨_, _, _, _, _, _, _, rfl, found, room, free⟩ call
    rw [m.chronicle_eq]
    rcases printing_cases m with none_ | ⟨line, code, resume, one, asks⟩ | prints
    · rw [none_]
      exact later
    · rw [one]
      refine .delivered (Classical.byContradiction fun none_ => ?_) later
      have mute := (apart none_).2
      rw [asks] at mute
      exact mute.1
    · exact absurd prints call

/-! ## Calls of `print` -/

/-- The call is refused with a diagnostic about resources, and nothing has changed. -/
def Outcome.Refused (s : State) (o : Outcome Value) : Prop :=
  ∃ d, d.kind = .resource ∧ o = .failure (.diagnostic d) s

namespace Run

variable {α : Type} {m : Run α} {s t : State}

theorem attempt_value {a : α} (h : m s = .value a t) : attempt m s = .value (.ok a) t := by
  unfold attempt
  rw [h]

theorem attempt_failure {e : Failure} (h : m s = .failure e t) :
    attempt m s = .value (.error e) t := by
  unfold attempt
  rw [h]

theorem attempt_of_ends (h : (m s).Ends t) : ∃ r, attempt m s = .value r t := by
  cases made : m s with
  | value a u =>
    rw [made] at h
    cases h
    exact ⟨_, attempt_value made⟩
  | failure e u =>
    rw [made] at h
    cases h
    exact ⟨_, attempt_failure made⟩
  | outOfFuel =>
    rw [made] at h
    exact h.elim

end Run

namespace State

/-- While a line is handled, `print` is refused by every route. -/
structure Busy (s : State) : Prop where
  /-- A call by name, of a script or of a function of the host, is refused. -/
  named : ∀ {fuel : Nat} {scope : ScopeId} {name : String} {vs : List Value} {span : Span},
    s.functions.get? name = some (.native .print) →
      (serve (fuel + 1) (.call scope name vs span) s).Refused s
  /-- A call of the function at hand is refused. -/
  direct : ∀ {fuel : Nat} {vs : List Value},
    (perform (serve fuel) (HostFunction.print.invoke vs) s).Refused s
  /-- What a function of the host asks to print is refused. -/
  asked : ∀ {fuel : Nat} {line : String} {code : Empty → HostAction},
    ∃ d : Diagnostic, d.kind = .resource ∧
      respond (serve fuel) (.print line) code s = .value (.error (.diagnostic d)) s
  /-- No line is delivered by anything that is evaluated. -/
  silent : ∀ {fuel : Nat} {work : Work} {calls : Nat},
    Moment.chronicle printing ⟨fuel, work, s, calls⟩ = []

/-- While no line is handled, `print` delivers its line. -/
structure Ready (s : State) : Prop where
  /-- The line is handed to the handler. -/
  handed : ∀ {fuel : Nat} {scope : ScopeId} {name : String} {vs : List Value} {span : Span}
    {calls : Nat}, s.functions.get? name = some (.native .print) → s.depth < s.maxCallDepth →
      Handles ⟨fuel + 1, .task (.call scope name vs span), s, calls⟩ 1
        ⟨fuel, .task (.act (s.handler (lineOf vs))), s.enter.withHandling true, calls + 1⟩
  /-- The line is delivered, and no other one. -/
  printed : ∀ {fuel : Nat} {scope : ScopeId} {name : String} {vs : List Value} {span : Span}
    {calls : Nat}, s.functions.get? name = some (.native .print) → s.depth < s.maxCallDepth →
      Moment.chronicle printing ⟨fuel + 1, .task (.call scope name vs span), s, calls⟩ =
        [.called (lineOf vs), .delivered (lineOf vs)]
  /-- However the handler ends, the call succeeds, and then no line is handled. -/
  returned : ∀ {fuel : Nat} {scope : ScopeId} {name : String} {vs : List Value} {span : Span}
    {t : State}, s.functions.get? name = some (.native .print) → s.depth < s.maxCallDepth →
      (serve fuel (.act (s.handler (lineOf vs))) (s.enter.withHandling true)).Ends t →
        ∃ u, serve (fuel + 1) (.call scope name vs span) s = .value .void u ∧ SameHandler s u
  /-- What a function of the host asks to print is delivered. -/
  asked : ∀ {fuel : Nat} {line : String} {code : Empty → HostAction}
    {resume : Except Failure Value → HostAction} {calls : Nat}, ∃ later,
      Moment.chronicle printing ⟨fuel, .action (.ask (.print line) code resume), s, calls⟩ =
        .delivered line :: later
  /-- However the handler ends, the one who asks does not see it, and then no line is handled. -/
  answered : ∀ {fuel : Nat} {line : String} {code : Empty → HostAction} {t : State},
    (serve fuel (.act (s.handler line)) (s.withHandling true)).Ends t →
      respond (serve fuel) (.print line) code s = .value (.ok .void) (t.withHandling false)

variable {s : State}

theorem respond_of_handling {serve : Server} {line : String} (code : Empty → HostAction)
    (busy : s.handling = true) :
    respond serve (.print line) code s = .value (.error Fault.nestedPrint.bare) s :=
  Run.attempt_failure (if_pos busy)

theorem perform_print_of_handling {serve : Server} {vs : List Value} (busy : s.handling = true) :
    perform serve (HostFunction.print.invoke vs) s = .failure Fault.nestedPrint.bare s := by
  show (respond serve (.print (lineOf vs)) _ >>= _) s = _
  rw [Run.bind_value (respond_of_handling _ busy)]
  rfl

theorem busy (handling : s.handling = true) : s.Busy where
  named {fuel scope name vs span} found := by
    have call : serve (fuel + 1) (.call scope name vs span) s = Run.counted span
        ((perform (serve fuel) (HostFunction.print.invoke vs)).orSpan span) s :=
      callNamed_of_native _ vs span found
    rcases Nat.lt_or_ge s.depth s.maxCallDepth with room | full
    · have entered : s.enter.handling = true := handling
      have refused : (perform (serve fuel) (HostFunction.print.invoke vs)).orSpan span s.enter =
          .failure (Fault.nestedPrint.atSpan span) s.enter := by
        unfold Run.orSpan
        rw [perform_print_of_handling entered]
        rfl
      rw [call, Run.counted_of_room span _ room, Run.between_failure refused]
      exact ⟨_, rfl, rfl⟩
    · rw [call, Run.counted_of_full span _ full]
      exact ⟨_, rfl, rfl⟩
  direct := ⟨_, rfl, perform_print_of_handling handling⟩
  asked := ⟨_, rfl, respond_of_handling _ handling⟩
  silent := chronicle_of_handling _ handling

/-- However the handler ends, the one who prints does not see it. -/
theorem respond_of_ends {fuel : Nat} {line : String} (code : Empty → HostAction) {t : State}
    (free : s.handling = false)
    (ended : (serve fuel (.act (s.handler line)) (s.withHandling true)).Ends t) :
    respond (serve fuel) (.print line) code s = .value (.ok .void) (t.withHandling false) := by
  obtain ⟨r, attempted⟩ := Run.attempt_of_ends ended
  have handled : (Run.attempt (serve fuel (.act (s.handler line))) >>= fun _ => pure Value.void)
      (s.withHandling true) = .value .void t :=
    Run.bind_value attempted
  refine Run.attempt_value ?_
  unfold deliver
  rw [if_neg (Bool.eq_false_iff.1 free)]
  exact Run.between_value handled

theorem serve_print_of_ends {fuel : Nat} {scope : ScopeId} {name : String} {vs : List Value}
    {span : Span} {t : State} (prints : s.Prints name)
    (ended : (serve fuel (.act (s.handler (lineOf vs))) (s.enter.withHandling true)).Ends t) :
    serve (fuel + 1) (.call scope name vs span) s =
      .value .void (t.withHandling false).leave := by
  have free : s.enter.handling = false := prints.free
  have performed : perform (serve fuel) (HostFunction.print.invoke vs) s.enter =
      .value .void (t.withHandling false) :=
    (Run.bind_value (respond_of_ends _ free ended)).trans rfl
  have call : serve (fuel + 1) (.call scope name vs span) s = Run.counted span
      ((perform (serve fuel) (HostFunction.print.invoke vs)).orSpan span) s :=
    callNamed_of_native _ vs span prints.found
  rw [call, Run.counted_of_room span _ prints.room]
  unfold Run.between Run.orSpan
  rw [performed]

theorem ready (free : s.handling = false) : s.Ready where
  handed {fuel scope name vs span calls} found room := by
    have begun : Handles ⟨fuel + 1, .task (.call scope name vs span), s, calls⟩ 0
        ⟨fuel, .action (HostFunction.print.invoke vs), s.enter, calls + 1⟩ := by
      refine .within .start (.native found room) ?_
      rintro ⟨line, code, resume, asked, -⟩
      cases asked
    exact begun.enter (.handled free) ⟨_, _, _, rfl, rfl⟩
  printed found room := chronicle_of_prints ⟨found, room, free⟩
  returned {fuel scope name vs span t} found room ended := by
    have made : serve (fuel + 1) (.call scope name vs span) s =
        .value .void (t.withHandling false).leave :=
      serve_print_of_ends ⟨found, room, free⟩ ended
    have kept : Exclusive (s.enter.withHandling true) t :=
      ((Work.task (.act (s.handler (lineOf vs)))).run_exclusive fuel _).ends ended
    exact ⟨_, made, free.symm, kept.handler rfl⟩
  asked := ⟨_, chronicle_of_asked free⟩
  answered := respond_of_ends _ free

/-- A handler that prints in turn fails, but not the call that it handles. -/
example : ∃ t, (Work.task (.call root "print" [.bool true, .null] .zero)).run 9
      { initial {} with
        handler := fun text => .record (.line text) (HostFunction.print.invoke [.null]) } =
        .value .void t ∧
    t.transcript = [.line "truenull"] :=
  ⟨_, rfl, rfl⟩

end State

end

/-- In every run that a host can begin, invocations of the print handler do not nest: at each moment
none is under way, and `print` delivers its line, or one, and `print` is refused. Every evaluation,
however it ends, leaves the handler running or not as it was, and does not replace it while it runs;
if functions of the host and the handler itself set none, then it stays the one that the host set.
A line is delivered as soon as the arguments of its call are evaluated, and if functions of the host
do not print of themselves, then the lines delivered are those of the calls, in their order. The
order of a run is the one in which it records. -/
theorem print_handler_exclusive {admits : Program → Prop} {s : State}
    (reachable : Reachable admits s) (fuel : Nat) (work : Work) :
    s.handling = false ∧ Prompt True (Moment.chronicle printing ⟨fuel, work, s, 0⟩) ∧
      (s.PrintsByCalls → work.Only HostRequest.Mute →
        let events := Moment.chronicle printing ⟨fuel, work, s, 0⟩
        events.filterMap PrintEvent.delivered? = events.filterMap PrintEvent.called?) ∧
      (∀ n m, Handles ⟨fuel, work, s, 0⟩ n m → n = 0 ∧ m.state.Ready ∨ n = 1 ∧ m.state.Busy) ∧
      ∀ m, Reaches ⟨fuel, work, s, 0⟩ m → (∃ n, Handles ⟨fuel, work, s, 0⟩ n m) ∧
        (m.work.run m.fuel m.state).Leaves (Exclusive m.state) ∧
        (s.AsksOnly HostRequest.LeavesHandler → work.Only HostRequest.LeavesHandler →
          m.state.handler = s.handler ∧
            (m.work.run m.fuel m.state).Leaves (SameHandler m.state)) ∧
        m.Told ∧ m.Covered := by
  have free := reachable.handling_eq_false
  refine ⟨free, prompt_printing _ fun none_ => absurd trivial none_,
    fun host mute => Prompt.lines_eq (prompt_printing _ fun _ => ⟨host, mute⟩),
    fun n m handles => ?_, fun m reaches => ?_⟩
  · have count := handles.count free
    cases running : m.state.handling with
    | false =>
      rw [running] at count
      exact .inl ⟨count, State.ready running⟩
    | true =>
      rw [running] at count
      exact .inr ⟨count, State.busy running⟩
  · obtain ⟨n, handles⟩ := reaches.handles
    have kept := m.work.run_exclusive m.fuel m.state
    refine ⟨⟨n, handles⟩, kept, fun asks only => ?_, m.told, m.covered⟩
    have fits := fits_steadiness only
    obtain ⟨fits', asks'⟩ := reaches.fits fits asks
    have steady := m.work.run_obeys fits' m.fuel m.state asks'
    refine ⟨reaches.handler_eq fits asks, (kept.and steady).mono fun t ended => ?_⟩
    exact ⟨ended.1.handling, ended.2.2⟩

/-- A handler that prints itself is entered once, and then refused. -/
theorem print_handler_exclusive_printing : ∃ m, Handles
    ⟨9, .task (.call State.root "print" [.null] .zero),
      { State.initial {} with handler := Session.executingHandler "print(1)" }, 0⟩ 1 m ∧
    m.state.Busy := by
  have reachable : Reachable Program.Parsed
      { State.initial {} with handler := Session.executingHandler "print(1)" } :=
    .handled (.initial {}) _
  obtain ⟨free, -, -, moments, -⟩ := print_handler_exclusive reachable 9
    (.task (.call State.root "print" [.null] .zero))
  have entered : ∃ m, Handles
      ⟨9, .task (.call State.root "print" [.null] .zero),
        { State.initial {} with handler := Session.executingHandler "print(1)" }, 0⟩ 1 m :=
    ⟨_, (State.ready free).handed rfl (by decide)⟩
  obtain ⟨m, entered⟩ := entered
  rcases moments 1 m entered with ⟨none_, -⟩ | ⟨-, busy⟩
  · cases none_
  · exact ⟨m, entered, busy⟩

end Scriptlet
