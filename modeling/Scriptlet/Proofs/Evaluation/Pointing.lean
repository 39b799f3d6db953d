import Scriptlet.Proofs.Evaluation.Effect
import Scriptlet.Proofs.Grammar.Nodes

/-
  Failures that point at code.
  A failure points into a set of spans if it has no position and its span is one of them; only a
  jump that nothing takes has no span. Operators fail at the spans that they are given, and a
  computation in a row points into the set if each part does (`Run.points_bind`). What is evaluated
  strictly must point; of the rest it is only asked that the declared functions stay within the set.
-/

namespace Scriptlet

/-! ## Diagnostics -/

section

variable (known : Span → Prop)

/-- The diagnostic has no position, and its span is known; only of a stray jump there is none. -/
def Diagnostic.PointsInto (d : Diagnostic) : Prop :=
  d.position = none ∧ match d.span with
    | none => d.kind = .controlFlow
    | some span => known span

/-- The failure is one of input or output, or points into the set. -/
def Failure.PointsInto : Failure → Prop
  | .diagnostic d => d.PointsInto known
  | .io _ => True

/-- If there is a failure, it points into the set. -/
def Failing {α : Type} (r : Except Failure α) : Prop :=
  ∀ e, r = .error e → e.PointsInto known

end

variable {known : Span → Prop} {span : Span}

theorem Fault.atSpan_pointsInto (fault : Fault) (here : known span) :
    (fault.atSpan span).PointsInto known :=
  ⟨rfl, here⟩

theorem Fault.strayJump_pointsInto (jump : Jump) (name : Option String) :
    (Fault.strayJump jump name).bare.PointsInto known :=
  ⟨rfl, rfl⟩

/-- A failure without a place of its own is placed. -/
theorem Failure.orSpan_pointsInto {e : Failure} (here : known span)
    (bare : ∀ d, e = .diagnostic d → d.span = none ∧ d.position = none) :
    (e.orSpan span).PointsInto known := by
  cases e with
  | io reason => exact trivial
  | diagnostic d =>
    obtain ⟨spanless, unplaced⟩ := bare d rfl
    have placed : d.orSpan span = d.withSpan span := by
      unfold Diagnostic.orSpan
      rw [spanless]
      rfl
    show (d.orSpan span).PointsInto known
    rw [placed]
    exact ⟨unplaced, here⟩

/-! ## Operators -/

section

variable {α β : Type} {r : Except Failure α}

theorem failing_ok (a : α) : Failing known (.ok a) := by
  intro e same
  cases same

theorem failing_atSpan (fault : Fault) (here : known span) :
    Failing known (.error (fault.atSpan span) : Except Failure α) := by
  intro e same
  cases same
  exact fault.atSpan_pointsInto here

theorem Failing.map (h : Failing known r) (f : α → β) : Failing known (r.map f) := by
  intro e same
  cases r with
  | ok a => cases same
  | error e' =>
    cases same
    exact h _ rfl

theorem Failing.bind {f : α → Except Failure β} (h : Failing known r)
    (next : ∀ a, Failing known (f a)) : Failing known (r >>= f) := by
  cases r with
  | ok a => exact next a
  | error e =>
    intro e' same
    cases same
    exact h _ rfl

theorem failing_expectNumber (v : Value) (here : known span) :
    Failing known (v.expectNumber span) := by
  unfold Value.expectNumber
  split
  next => exact failing_ok _
  next => exact failing_atSpan _ here

theorem failing_expectBool (v : Value) (here : known span) : Failing known (v.expectBool span) := by
  unfold Value.expectBool
  split
  next => exact failing_ok _
  next => exact failing_atSpan _ here

theorem failing_dynamicEq (a b : Value) (here : known span) :
    Failing known (a.dynamicEq b span) := by
  unfold Value.dynamicEq
  split
  next => exact failing_ok _
  next => exact failing_atSpan _ here

theorem failing_staticEq (a b : Value) (here : known span) :
    Failing known (a.staticEq b span) := by
  unfold Value.staticEq
  split
  next => exact failing_ok _
  next => exact failing_ok _
  next => exact failing_ok _
  next => exact failing_dynamicEq _ _ here

theorem failing_remainder (x y : Single) (here : known span) :
    Failing known (Value.remainder x y span) := by
  unfold Value.remainder
  dsimp only
  split
  next => exact failing_atSpan _ here
  next => exact failing_ok _

theorem failing_settled? (op : BinaryOp) (a : Value) (here : known span) :
    Failing known (op.settled? a span) := by
  unfold BinaryOp.settled?
  split
  next => exact (failing_expectBool a here).map _
  next => exact (failing_expectBool a here).map _
  next => exact failing_ok _

/-- Both operands and the whole operation stand at known spans. -/
structure OperandInfo.Known (known : Span → Prop) (info : OperandInfo) : Prop where
  left : known info.left
  right : known info.right
  whole : known info.whole

variable {info : OperandInfo}

theorem failing_numeric {f : Single → Single → Except Failure Single} (here : info.Known known)
    (each : ∀ x y, Failing known (f x y)) (a b : Value) :
    Failing known (BinaryOp.numeric f info a b) :=
  (failing_expectNumber a here.left).bind fun x =>
    (failing_expectNumber b here.right).bind fun y =>
      (each x y).bind fun _ => failing_ok _

theorem failing_equality (here : info.Known known) (a b : Value) :
    Failing known (BinaryOp.equality info a b) := by
  unfold BinaryOp.equality
  split
  next => exact failing_staticEq a b here.whole
  next => exact failing_dynamicEq a b here.whole

/-- An operator fails at one of the operands or at the whole operation. -/
theorem failing_apply (here : info.Known known) (op : BinaryOp) (a b : Value) :
    Failing known (op.apply info a b) := by
  have exact (f : Single → Single → Single) :
      Failing known (BinaryOp.numeric (fun x y => .ok (f x y)) info a b) :=
    failing_numeric here (fun _ _ => failing_ok _) a b
  cases op with
  | add => exact exact _
  | sub => exact exact _
  | mul => exact exact _
  | div => exact exact _
  | mod => exact failing_numeric here (fun x y => failing_remainder x y here.whole) a b
  | equal => exact (failing_equality here a b).map _
  | notEqual => exact (failing_equality here a b).map _
  | less => exact failing_ok _
  | lessEqual => exact failing_ok _
  | greater => exact failing_ok _
  | greaterEqual => exact failing_ok _
  | and => exact (failing_expectBool b here.right).map _
  | or => exact (failing_expectBool b here.right).map _

theorem failing_unary (op : UnaryOp) (v : Value) (here : known span) :
    Failing known (op.apply v span) := by
  cases op with
  | negate => exact (failing_expectNumber v here).map _
  | not => exact (failing_expectBool v here).map _

/-- An argument that is not a number fails at the call. -/
theorem failing_toSingles (here : known span) : ∀ values : List Value,
    Failing known (toSingles span values)
  | [] => failing_ok _
  | v :: values => by
    unfold toSingles Value.convert
    cases v.convert? .single with
    | some x => exact (failing_toSingles here values).map _
    | none => exact failing_atSpan (α := List Single) _ here

theorem failing_outcome (d : Declaration) (flow : Flow) : Failing known (d.outcome flow) := by
  cases flow with
  | result v => exact failing_ok _
  | normal v => exact failing_ok _
  | jump jump =>
    intro e same
    cases same
    exact Fault.strayJump_pointsInto _ _

theorem failing_programOutcome (flow : Flow) : Failing known flow.programOutcome := by
  cases flow with
  | result v => exact failing_ok _
  | normal v => exact failing_ok _
  | jump jump =>
    intro e same
    cases same
    exact Fault.strayJump_pointsInto _ _

end

/-! ## Code -/

/-- Every node stands at a known span. -/
def standing (known : Span → Prop) : Condition :=
  ⟨fun e => known e.span, fun s => known s.span⟩

/-- The nodes of the bodies of declared functions stand at known spans, and all the others too if
the code is evaluated strictly. -/
def placed (known : Span → Prop) (strict : Bool) : Condition where
  expr e := (strict = true → known e.span) ∧
    match e with
    | .function d _ => d.Everywhere (standing known)
    | _ => True
  stmt s := strict = true → known s.span

theorem standing_implies_placed (known : Span → Prop) (strict : Bool) :
    (standing known).inside.Implies (placed known strict) where
  expr e h := by
    cases e with
    | function d span => exact ⟨fun _ => h.1, h.2⟩
    | literal value span => exact ⟨fun _ => h, trivial⟩
    | «variable» name span => exact ⟨fun _ => h, trivial⟩
    | binary op left right span => exact ⟨fun _ => h.1, trivial⟩
    | unary op operand span => exact ⟨fun _ => h.1, trivial⟩
    | call name args span => exact ⟨fun _ => h.1, trivial⟩
  stmt s h _ := by
    cases s with
    | branch test thenBody elseBody span => cases elseBody <;> exact h.1
    | result value span =>
      cases value with
      | none => exact h
      | some value => exact h.1
    | jump jump span => exact h
    | «variable» name value span => exact h.1
    | assign name value span => exact h.1
    | loop test body span => exact h.1
    | expr value span => exact h.1

/-- Code that stands at known spans can be evaluated strictly. -/
theorem placed_of_standing {body : List Stmt} (strict : Bool)
    (h : bodyEverywhere (standing known) body) : bodyEverywhere (placed known strict) body :=
  bodyEverywhere_mono (standing_implies_placed known strict) _ (bodyEverywhere_inside body h)

/-! ## States and computations -/

/-- The bodies of the declared functions of the state stand at known spans. -/
def State.Declares (known : Span → Prop) (s : State) : Prop :=
  ∀ name d, s.functions.get? name = some (.scripted d) → d.Everywhere (standing known)

theorem State.Declares.of_same {s t : State} (h : s.Declares known)
    (same : t.functions = s.functions) : t.Declares known := by
  unfold Declares
  rw [same]
  exact h

theorem State.Declares.install {s : State} (h : s.Declares known) {d : Declaration}
    (inner : d.Everywhere (standing known)) :
    (s.install d.name (.scripted d)).Declares known := by
  intro name d' found
  rcases State.get?_of_install found with same | old
  · cases same
    exact inner
  · exact h name d' old

/-- A function of the host is not a declared one. -/
theorem State.Declares.register {s : State} (h : s.Declares known) (f : HostFunction) :
    (s.install f.name (.native f)).Declares known := by
  intro name d found
  rcases State.get?_of_install found with same | old
  · cases same
  · exact h name d old

/-- The computation leaves the declared functions at known spans, and if it is strict, it fails
with nothing but what points at one. -/
def Outcome.Points {α : Type} (known : Span → Prop) (strict : Bool) : Outcome α → Prop
  | .value _ t => t.Declares known
  | .failure e t => t.Declares known ∧ (strict = true → e.PointsInto known)
  | .outOfFuel => True

namespace Run

variable {α β : Type} {m : Run α} {f : α → Run β} {s : State} {strict : Bool}

theorem points_bind (first : (m s).Points known strict)
    (next : ∀ a t, m s = .value a t → t.Declares known → (f a t).Points known strict) :
    ((m >>= f) s).Points known strict := by
  rw [bind_eq]
  cases made : m s with
  | value a t =>
    rw [made] at first
    exact next a t made first
  | failure e t =>
    rw [made] at first
    exact first
  | outOfFuel => exact trivial

/-- What follows cannot fail and leaves the state. -/
theorem points_map (first : (m s).Points known strict) (g : α → β) :
    ((m >>= fun a => pure (g a)) s).Points known strict :=
  points_bind first fun _ _ _ declares => declares

theorem points_lift {r : Except Failure α} (declares : s.Declares known)
    (failing : strict = true → Failing known r) : (Run.lift r s).Points known strict := by
  cases r with
  | ok a => exact declares
  | error e => exact ⟨declares, fun on => failing on e rfl⟩

theorem points_atSpan (declares : s.Declares known) (fault : Fault)
    (here : strict = true → known span) :
    (Outcome.failure (fault.atSpan span) s : Outcome α).Points known strict :=
  ⟨declares, fun on => fault.atSpan_pointsInto (here on)⟩

/-- How a computation ends that is not asked to point does not matter to the one who goes on. -/
theorem points_attempt (h : (m s).Points known strict) :
    (Run.attempt m s).Points known strict := by
  unfold attempt
  cases made : m s with
  | value a t =>
    rw [made] at h
    exact h
  | failure e t =>
    rw [made] at h
    exact h.1
  | outOfFuel => exact trivial

/-- A computation whose failures have no place points where they are placed. -/
theorem points_orSpan (h : (m s).Points known false) (here : strict = true → known span)
    (bare : ∀ d t, m s = .failure (.diagnostic d) t → d.span = none ∧ d.position = none) :
    (m.orSpan span s).Points known strict := by
  unfold orSpan
  cases made : m s with
  | value a t =>
    rw [made] at h
    exact h
  | failure e t =>
    rw [made] at h
    refine ⟨h.1, fun on => Failure.orSpan_pointsInto (here on) fun d same => bare d t ?_⟩
    rw [made, same]
  | outOfFuel => exact trivial

theorem points_between {before after : State → State}
    (same : ∀ t, (after t).functions = t.functions)
    (h : (m (before s)).Points known strict) : (m.between before after s).Points known strict := by
  unfold between
  cases made : m (before s) with
  | value a t =>
    rw [made] at h
    exact State.Declares.of_same h (same t)
  | failure e t =>
    rw [made] at h
    exact ⟨h.1.of_same (same t), h.2⟩
  | outOfFuel => exact trivial

theorem points_lookup (declares : s.Declares known) (id : ScopeId) (name : String)
    (here : strict = true → known span) : (Run.lookup id name span s).Points known strict := by
  unfold Run.lookup
  split
  next => exact declares
  next => exact points_atSpan declares _ here

theorem points_assign (declares : s.Declares known) (id : ScopeId) (name : String) (v : Value)
    (here : strict = true → known span) : (Run.assign id name v span s).Points known strict := by
  unfold Run.assign
  split
  next => exact points_atSpan declares _ here
  next => exact declares.of_same rfl

theorem points_register (declares : s.Declares known) (id : ScopeId) (f : HostFunction) :
    (Run.register id f s).Points known false := by
  unfold Run.register
  split
  next t made =>
    rw [State.register_eq_ok made]
    exact declares.register f
  next => exact ⟨declares, nofun⟩

theorem points_bindParams (scope : ScopeId) (here : strict = true → known span) :
    ∀ (names : List String) (values : List Value) {s : State}, s.Declares known →
      (bindParams scope span names values s).Points known strict
  | name :: names, v :: values, _, declares =>
    points_bind (points_assign declares scope name v here) fun _ _ _ declares' =>
      points_bindParams scope here names values declares'
  | [], [], _, declares => declares
  | [], _ :: _, _, declares => declares
  | _ :: _, [], _, declares => declares

end Run

end Scriptlet
