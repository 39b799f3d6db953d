import Scriptlet.Proofs.Evaluation.Moment

/-
  The parts of an evaluation.
  The parts are listed in the order in which they begin: a part is evaluated to its end before the
  next one begins, in the state that it leaves. Main statement: the list has exactly the moments
  that the evaluation leads to (`Moment.mem_parts`).
-/

namespace Scriptlet

/-- What follows a computation that ends with a value. -/
def Outcome.onward {α β : Type} (o : Outcome α) (f : α → State → List β) : List β :=
  match o with
  | .value a t => f a t
  | _ => []

theorem Outcome.mem_onward {α β : Type} {o : Outcome α} {f : α → State → List β} {b : β} :
    b ∈ o.onward f ↔ ∃ a t, o = .value a t ∧ b ∈ f a t := by
  cases o with
  | value a t =>
    constructor
    · exact fun member => ⟨a, t, rfl, member⟩
    · rintro ⟨a, t, same, member⟩
      cases same
      exact member
  | failure e t =>
    constructor
    · exact nofun
    · rintro ⟨a, t, same, -⟩
      cases same
  | outOfFuel =>
    constructor
    · exact nofun
    · rintro ⟨a, t, same, -⟩
      cases same

/-! ## The parts of an evaluation -/

section

variable (fuel calls : Nat) (scope : ScopeId) (s : State)

/-- The parts of an expression. -/
def Expr.parts : Expr → List Moment
  | .binary op l r _ =>
    ⟨fuel, .expr scope l, s, calls⟩ :: (l.eval (serve fuel) scope s).onward fun a t =>
      match op.settled? a l.span with
      | .ok none => [⟨fuel, .expr scope r, t, calls⟩]
      | _ => []
  | .unary _ e _ => [⟨fuel, .expr scope e, s, calls⟩]
  | .call name es span =>
    ⟨fuel, .args scope es, s, calls⟩ :: (evalArgs (serve fuel) scope es s).onward fun vs t =>
      [⟨fuel, .task (.call scope name vs span), t, calls⟩]
  | .literal _ _ | .variable _ _ | .function _ _ => []

/-- The parts of a list of arguments. -/
def argParts : List Expr → List Moment
  | [] => []
  | e :: es =>
    ⟨fuel, .expr scope e, s, calls⟩ :: (e.eval (serve fuel) scope s).onward fun _ t =>
      [⟨fuel, .args scope es, t, calls⟩]

/-- The parts of a statement. -/
def Stmt.parts : Stmt → List Moment
  | .variable _ e _ | .assign _ e _ | .result (some e) _ | .expr e _ =>
    [⟨fuel, .expr scope e, s, calls⟩]
  | .branch c thenBody elseBody _ =>
    ⟨fuel, .expr scope c, s, calls⟩ :: (holds (serve fuel) scope c s).onward fun
      | true, t => [⟨fuel, .body scope .null thenBody, t, calls⟩]
      | false, t => elseBody.toList.map fun body => ⟨fuel, .body scope .null body, t, calls⟩
  | .loop c body _ => [⟨fuel, .task (.loop scope c body), s, calls⟩]
  | .result none _ | .jump _ _ => []

/-- The parts of a list of statements. -/
def bodyParts : List Stmt → List Moment
  | [] => []
  | st :: ss =>
    ⟨fuel, .stmt scope st, s, calls⟩ :: (st.exec (serve fuel) scope s).onward fun
      | .normal v, t => [⟨fuel, .body scope v ss, t, calls⟩]
      | _, _ => []

end

section

variable (fuel calls : Nat) (s : State)

/-- What a request leads to. -/
def HostRequest.parts : HostRequest → List Moment
  | .print line =>
    if s.handling then [] else [⟨fuel, .task (.act (s.handler line)), s.withHandling true, calls⟩]
  | .call scope name vs => [⟨fuel, .task (.call scope name vs .zero), s, calls⟩]
  | .execute scope source => [⟨fuel, .task (.execute scope source), s, calls⟩]
  | _ => []

/-- The parts of an action. -/
def HostAction.parts : HostAction → List Moment
  | .done _ => []
  | .ask request code resume =>
    request.parts fuel calls s ++
      (respond (serve fuel) request code s).onward fun answer t =>
        [⟨fuel, .action (resume answer), t, calls⟩]

/-- The parts of a call by name. -/
def callParts (scope : ScopeId) (name : String) (vs : List Value) (span : Span) : List Moment :=
  match s.functions.get? name with
  | some (.native f) =>
    if s.depth < s.maxCallDepth then [⟨fuel, .action (f.invoke vs), s.enter, calls + 1⟩] else []
  | some (.scripted d) =>
    if vs.length = d.params.length ∧ s.depth < s.maxCallDepth then
      (bindParams s.nextFrame span d.params vs (s.enter.push scope)).onward fun _ t =>
        [⟨fuel, .body s.nextFrame .null d.body, t, calls + 1⟩]
    else []
  | none => []

/-- The parts of the rounds of a loop. -/
def loopParts (scope : ScopeId) (c : Expr) (body : List Stmt) : List Moment :=
  ⟨fuel, .expr scope c, s, calls⟩ :: (holds (serve fuel) scope c s).onward fun
    | true, t =>
      ⟨fuel, .body scope .null body, t, calls⟩ ::
        (execBody (serve fuel) scope .null body t).onward fun
          | .normal _, u | .jump .continueLoop, u => [⟨fuel, .task (.loop scope c body), u, calls⟩]
          | _, _ => []
    | false, _ => []

/-- The parts of a task, which have less fuel. -/
def Task.parts : Task → List Moment
  | .call scope name vs span => callParts fuel calls s scope name vs span
  | .loop scope c body => loopParts fuel calls s scope c body
  | .execute scope source =>
    match Program.parse source with
    | .ok p => [⟨fuel, .program scope p, s, calls⟩]
    | .error _ => []
  | .act a => [⟨fuel, .action a, s, calls⟩]

end

namespace Moment

/-- The parts of an evaluation, in the order in which they begin. -/
def parts (m : Moment) : List Moment :=
  match m.work with
  | .expr scope e => e.parts m.fuel m.calls scope m.state
  | .args scope es => argParts m.fuel m.calls scope m.state es
  | .stmt scope st => st.parts m.fuel m.calls scope m.state
  | .body scope _ ss => bodyParts m.fuel m.calls scope m.state ss
  | .program scope p => [⟨m.fuel, .body scope .null p.statements, m.state, m.calls⟩]
  | .action a => a.parts m.fuel m.calls m.state
  | .task t =>
    match m.fuel with
    | 0 => []
    | fuel + 1 => t.parts fuel m.calls m.state

end Moment

section

variable {fuel calls : Nat} {scope : ScopeId} {s : State} {m m' : Moment}

theorem Expr.leads_of_mem_parts {e : Expr} (h : m' ∈ e.parts fuel calls scope s) :
    Leads ⟨fuel, .expr scope e, s, calls⟩ m' := by
  cases e with
  | literal value span => cases h
  | «variable» name span => cases h
  | function declaration span => cases h
  | binary op l r span =>
    rcases List.mem_cons.1 h with rfl | later
    · exact .left
    · obtain ⟨a, t, first, member⟩ := Outcome.mem_onward.1 later
      split at member
      next unsettled =>
        rw [List.mem_singleton.1 member]
        exact .right first unsettled
      next => cases member
  | unary op e span =>
    rw [List.mem_singleton.1 h]
    exact .operand
  | call name es span =>
    rcases List.mem_cons.1 h with rfl | later
    · exact .arguments
    · obtain ⟨vs, t, first, member⟩ := Outcome.mem_onward.1 later
      rw [List.mem_singleton.1 member]
      exact .dispatch first

theorem leads_of_mem_argParts {es : List Expr} (h : m' ∈ argParts fuel calls scope s es) :
    Leads ⟨fuel, .args scope es, s, calls⟩ m' := by
  cases es with
  | nil => cases h
  | cons e es =>
    rcases List.mem_cons.1 h with rfl | later
    · exact .head
    · obtain ⟨v, t, first, member⟩ := Outcome.mem_onward.1 later
      rw [List.mem_singleton.1 member]
      exact .tail first

theorem Stmt.leads_of_mem_parts {st : Stmt} (h : m' ∈ st.parts fuel calls scope s) :
    Leads ⟨fuel, .stmt scope st, s, calls⟩ m' := by
  cases st with
  | «variable» name e span =>
    rw [List.mem_singleton.1 h]
    exact .newValue
  | assign name e span =>
    rw [List.mem_singleton.1 h]
    exact .assigned
  | branch c thenBody elseBody span =>
    rcases List.mem_cons.1 h with rfl | later
    · exact .test
    · obtain ⟨goesOn, t, first, member⟩ := Outcome.mem_onward.1 later
      cases goesOn with
      | true =>
        rw [List.mem_singleton.1 member]
        exact .thenPart first
      | false =>
        obtain ⟨body, some, rfl⟩ := List.mem_map.1 member
        rw [Option.mem_toList.1 some]
        exact .elsePart first
  | loop c body span =>
    rw [List.mem_singleton.1 h]
    exact .rounds
  | result value span =>
    cases value with
    | none => cases h
    | some e =>
      rw [List.mem_singleton.1 h]
      exact .returned
  | jump jump span => cases h
  | expr e span =>
    rw [List.mem_singleton.1 h]
    exact .alone

theorem leads_of_mem_bodyParts {ss : List Stmt} {last : Value}
    (h : m' ∈ bodyParts fuel calls scope s ss) :
    Leads ⟨fuel, .body scope last ss, s, calls⟩ m' := by
  cases ss with
  | nil => cases h
  | cons st ss =>
    rcases List.mem_cons.1 h with rfl | later
    · exact .first
    · obtain ⟨flow, t, first, member⟩ := Outcome.mem_onward.1 later
      cases flow with
      | normal v =>
        rw [List.mem_singleton.1 member]
        exact .rest first
      | result v => cases member
      | jump jump => cases member

theorem HostAction.leads_of_mem_parts {a : HostAction} (h : m' ∈ a.parts fuel calls s) :
    Leads ⟨fuel, .action a, s, calls⟩ m' := by
  cases a with
  | done result => cases h
  | ask request code resume =>
    rcases List.mem_append.1 h with asked | later
    · cases request with
      | print line =>
        unfold HostRequest.parts at asked
        dsimp only at asked
        split at asked
        next => cases asked
        next free =>
          rw [List.mem_singleton.1 asked]
          exact .handled (Bool.eq_false_iff.2 free)
      | call id name vs =>
        rw [List.mem_singleton.1 asked]
        exact .called
      | execute id source =>
        rw [List.mem_singleton.1 asked]
        exact .executed
      | _ => cases asked
    · obtain ⟨answer, t, first, member⟩ := Outcome.mem_onward.1 later
      rw [List.mem_singleton.1 member]
      exact .resumed first

theorem callParts_of_native {name : String} {vs : List Value} {span : Span} {f : HostFunction}
    (found : s.functions.get? name = some (.native f)) (room : s.depth < s.maxCallDepth) :
    callParts fuel calls s scope name vs span =
      [⟨fuel, .action (f.invoke vs), s.enter, calls + 1⟩] := by
  unfold callParts
  rw [found]
  exact if_pos room

theorem callParts_of_scripted {name : String} {vs : List Value} {span : Span} {d : Declaration}
    (found : s.functions.get? name = some (.scripted d)) (count : vs.length = d.params.length)
    (room : s.depth < s.maxCallDepth) :
    callParts fuel calls s scope name vs span =
      (bindParams s.nextFrame span d.params vs (s.enter.push scope)).onward fun _ t =>
        [⟨fuel, .body s.nextFrame .null d.body, t, calls + 1⟩] := by
  unfold callParts
  rw [found]
  exact if_pos ⟨count, room⟩

theorem leads_of_mem_callParts {name : String} {vs : List Value} {span : Span}
    (h : m' ∈ callParts fuel calls s scope name vs span) :
    Leads ⟨fuel + 1, .task (.call scope name vs span), s, calls⟩ m' := by
  unfold callParts at h
  split at h
  next f found =>
    split at h
    next room =>
      rw [List.mem_singleton.1 h]
      exact .native found room
    next => cases h
  next d found =>
    split at h
    next fits =>
      obtain ⟨⟨⟩, t, bound, member⟩ := Outcome.mem_onward.1 h
      rw [List.mem_singleton.1 member]
      exact .scripted found fits.1 fits.2 bound
    next => cases h
  next => cases h

theorem leads_of_mem_loopParts {c : Expr} {body : List Stmt}
    (h : m' ∈ loopParts fuel calls s scope c body) :
    Leads ⟨fuel + 1, .task (.loop scope c body), s, calls⟩ m' := by
  rcases List.mem_cons.1 h with rfl | later
  · exact .condition
  · obtain ⟨goesOn, t, first, member⟩ := Outcome.mem_onward.1 later
    cases goesOn with
    | false => cases member
    | true =>
      rcases List.mem_cons.1 member with rfl | again
      · exact .round first
      · obtain ⟨flow, u, ended, member⟩ := Outcome.mem_onward.1 again
        match flow with
        | .normal v =>
          rw [List.mem_singleton.1 member]
          exact .again first ended (.inr ⟨v, rfl⟩)
        | .jump .continueLoop =>
          rw [List.mem_singleton.1 member]
          exact .again first ended (.inl rfl)
        | .result v => cases member
        | .jump .breakLoop => cases member

theorem Task.leads_of_mem_parts {task : Task} (h : m' ∈ task.parts fuel calls s) :
    Leads ⟨fuel + 1, .task task, s, calls⟩ m' := by
  cases task with
  | call scope name vs span => exact leads_of_mem_callParts h
  | loop scope c body => exact leads_of_mem_loopParts h
  | execute scope source =>
    unfold Task.parts at h
    dsimp only at h
    split at h
    next p read =>
      rw [List.mem_singleton.1 h]
      exact .source read
    next => cases h
  | act a =>
    rw [List.mem_singleton.1 h]
    exact .act

theorem Leads.mem_parts (leads : Leads m m') : m' ∈ m.parts := by
  cases leads with
  | left => exact List.mem_cons_self
  | right first unsettled =>
    refine List.mem_cons_of_mem _ (Outcome.mem_onward.2 ⟨_, _, first, ?_⟩)
    rw [unsettled]
    exact List.mem_singleton_self _
  | operand => exact List.mem_singleton_self _
  | arguments => exact List.mem_cons_self
  | dispatch first =>
    exact List.mem_cons_of_mem _
      (Outcome.mem_onward.2 ⟨_, _, first, List.mem_singleton_self _⟩)
  | head => exact List.mem_cons_self
  | tail first =>
    exact List.mem_cons_of_mem _
      (Outcome.mem_onward.2 ⟨_, _, first, List.mem_singleton_self _⟩)
  | newValue => exact List.mem_singleton_self _
  | assigned => exact List.mem_singleton_self _
  | test => exact List.mem_cons_self
  | thenPart first =>
    exact List.mem_cons_of_mem _
      (Outcome.mem_onward.2 ⟨_, _, first, List.mem_singleton_self _⟩)
  | elsePart first =>
    exact List.mem_cons_of_mem _
      (Outcome.mem_onward.2 ⟨_, _, first, List.mem_singleton_self _⟩)
  | rounds => exact List.mem_singleton_self _
  | returned => exact List.mem_singleton_self _
  | alone => exact List.mem_singleton_self _
  | first => exact List.mem_cons_self
  | rest first =>
    exact List.mem_cons_of_mem _
      (Outcome.mem_onward.2 ⟨_, _, first, List.mem_singleton_self _⟩)
  | statements => exact List.mem_singleton_self _
  | handled free =>
    refine List.mem_append_left _ ?_
    unfold HostRequest.parts
    dsimp only
    rw [if_neg (Bool.eq_false_iff.1 free)]
    exact List.mem_singleton_self _
  | called => exact List.mem_append_left _ (List.mem_singleton_self _)
  | executed => exact List.mem_append_left _ (List.mem_singleton_self _)
  | resumed first =>
    exact List.mem_append_right _
      (Outcome.mem_onward.2 ⟨_, _, first, List.mem_singleton_self _⟩)
  | native found room =>
    show _ ∈ callParts _ _ _ _ _ _ _
    rw [callParts_of_native found room]
    exact List.mem_singleton_self _
  | scripted found count room bound =>
    show _ ∈ callParts _ _ _ _ _ _ _
    rw [callParts_of_scripted found count room]
    exact Outcome.mem_onward.2 ⟨_, _, bound, List.mem_singleton_self _⟩
  | condition => exact List.mem_cons_self
  | round first =>
    exact List.mem_cons_of_mem _ (Outcome.mem_onward.2 ⟨_, _, first, List.mem_cons_self⟩)
  | again first ended goesOn =>
    refine List.mem_cons_of_mem _ (Outcome.mem_onward.2 ⟨_, _, first, ?_⟩)
    refine List.mem_cons_of_mem _ (Outcome.mem_onward.2 ⟨_, _, ended, ?_⟩)
    rcases goesOn with rfl | ⟨v, rfl⟩
    · exact List.mem_singleton_self _
    · exact List.mem_singleton_self _
  | @source fuel calls s scope text p read =>
    show _ ∈ Task.parts fuel calls s (.execute scope text)
    unfold Task.parts
    dsimp only
    rw [read]
    exact List.mem_singleton_self _
  | act => exact List.mem_singleton_self _

/-- The parts of an evaluation are the moments that it leads to. -/
theorem Moment.mem_parts : m' ∈ m.parts ↔ Leads m m' := by
  constructor
  · intro h
    obtain ⟨fuel, work, s, calls⟩ := m
    cases work with
    | expr scope e => exact e.leads_of_mem_parts h
    | args scope es => exact leads_of_mem_argParts h
    | stmt scope st => exact st.leads_of_mem_parts h
    | body scope last ss => exact leads_of_mem_bodyParts h
    | program scope p =>
      rw [List.mem_singleton.1 h]
      exact .statements
    | action a => exact a.leads_of_mem_parts h
    | task t =>
      cases fuel with
      | zero => cases h
      | succ fuel => exact t.leads_of_mem_parts h
  · exact Leads.mem_parts

end

end Scriptlet
