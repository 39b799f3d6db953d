import Mathlib.Data.List.Basic
import Scriptlet.Proofs.Evaluation.Handler

/-
  The laws of De Morgan, with all effects.
  An operand of `and`, `or` and `not` is evaluated for its truth value (`holds`), and two operands
  for one truth value, which the first one may settle alone (`together`). Negating both operands
  negates what they give together and turns round what settles it (`together_not`), so a negated
  operation and the other operation on negated operands end alike. Both evaluate the same operands
  in the same states, the second one exactly if the first one is true or false and does not settle
  the result (`innerParts_logical`). Main statement: `de_morgan`.
-/

namespace Scriptlet

/-- The operation on truth values that is settled by `settling`. -/
def BinaryOp.logical : (settling : Bool) → BinaryOp
  | false => .and
  | true => .or

/-- The truth value of two operands together: the first one gives it alone if it is `settling`. -/
def together (serve : Server) (scope : ScopeId) (settling : Bool) (a b : Expr) : Run Bool := do
  let c ← holds serve scope a
  if c = settling then pure settling else holds serve scope b

/-! ## How the operations end -/

section

variable {α β γ : Type} {serve : Server} {scope : ScopeId} {a b e : Expr} {s t : State}
  {settling c : Bool}

theorem Run.bind_pure_bind_pure (m : Run α) (f : α → β) (g : β → γ) :
    ((m >>= fun a => pure (f a)) >>= fun b => (pure (g b) : Run γ)) =
      m >>= fun a => pure (g (f a)) := by
  funext s
  rw [Run.bind_eq, Run.bind_eq, Run.bind_eq]
  cases m s <;> rfl

/-- An operand holds or not by its value, and nothing but a truth value will do. -/
theorem holds_eq (serve : Server) (scope : ScopeId) (e : Expr) (s : State) :
    holds serve scope e s = match e.eval serve scope s with
      | .value (.bool c) t => .value c t
      | .value v t => .failure ((Fault.operandType v.type .bool).atSpan e.span) t
      | .failure e t => .failure e t
      | .outOfFuel => .outOfFuel := by
  unfold holds
  rw [Run.bind_eq]
  cases e.eval serve scope s with
  | value v t => cases v <;> rfl
  | failure e t => rfl
  | outOfFuel => rfl

theorem eval_not (serve : Server) (scope : ScopeId) (e : Expr) (span : Span) :
    (Expr.unary .not e span).eval serve scope =
      holds serve scope e >>= fun c => pure (.bool !c) := by
  funext s
  rw [Run.bind_eq, holds_eq, Expr.eval, Run.bind_eq]
  cases e.eval serve scope s with
  | value v t => cases v <;> rfl
  | failure e t => rfl
  | outOfFuel => rfl

theorem holds_not (serve : Server) (scope : ScopeId) (e : Expr) (span : Span) :
    holds serve scope (.unary .not e span) = holds serve scope e >>= fun c => pure !c := by
  funext s
  rw [holds_eq, eval_not, Run.bind_eq, Run.bind_eq]
  cases holds serve scope e s <;> rfl

theorem eval_logical (serve : Server) (scope : ScopeId) (settling : Bool) (a b : Expr)
    (span : Span) :
    (Expr.binary (.logical settling) a b span).eval serve scope =
      together serve scope settling a b >>= fun c => pure (.bool c) := by
  -- the second operand is asked for a truth value by the operation itself
  have second : ∀ t, (b.eval serve scope >>= fun v => Run.lift
      ((BinaryOp.logical settling).apply (.of a b span) (.bool !settling) v)) t =
      (holds serve scope b >>= fun c => pure (.bool c)) t := by
    intro t
    rw [Run.bind_eq, Run.bind_eq, holds_eq]
    cases b.eval serve scope t with
    | value v u => cases settling <;> cases v <;> rfl
    | failure e u => rfl
    | outOfFuel => rfl
  funext s
  unfold together
  rw [Run.bind_eq, Run.bind_eq, holds_eq, Expr.eval, Run.bind_eq]
  cases a.eval serve scope s with
  | value v t =>
    cases v with
    | bool c =>
      cases settling <;> cases c
      · rfl
      · exact second t
      · exact second t
      · rfl
    | _ => cases settling <;> rfl
  | failure e t => rfl
  | outOfFuel => rfl

theorem holds_logical (serve : Server) (scope : ScopeId) (settling : Bool) (a b : Expr)
    (span : Span) :
    holds serve scope (.binary (.logical settling) a b span) =
      together serve scope settling a b := by
  funext s
  rw [holds_eq, eval_logical, Run.bind_eq]
  cases together serve scope settling a b s <;> rfl

/-- Two negated operands give the negation of what the operands give. -/
theorem together_not (serve : Server) (scope : ScopeId) (settling : Bool) (a b : Expr)
    (first second : Span) :
    together serve scope (!settling) (.unary .not a first) (.unary .not b second) =
      together serve scope settling a b >>= fun c => pure !c := by
  funext s
  unfold together
  rw [holds_not, holds_not, Run.bind_eq, Run.bind_eq, Run.bind_eq, Run.bind_eq]
  cases holds serve scope a s with
  | value c t => cases settling <;> cases c <;> rfl
  | failure e t => rfl
  | outOfFuel => rfl

/-- A negated operation ends as the other operation on negated operands does. -/
theorem eval_not_logical (serve : Server) (scope : ScopeId) (settling : Bool) (a b : Expr)
    (inner outer first second whole : Span) :
    (Expr.unary .not (.binary (.logical settling) a b inner) outer).eval serve scope =
      (Expr.binary (.logical !settling) (.unary .not a first) (.unary .not b second) whole).eval
        serve scope := by
  rw [eval_not, holds_logical, eval_logical, together_not, Run.bind_pure_bind_pure]

/-- The operation that is settled by `going` on negated operands: if the first operand is `going`,
the negation of the second one decides. -/
theorem eval_logical_not (serve : Server) (scope : ScopeId) (going : Bool) (a b : Expr)
    (first second whole : Span) (s : State) :
    (Expr.binary (.logical going) (.unary .not a first) (.unary .not b second) whole).eval
        serve scope s =
      match a.eval serve scope s with
      | .value (.bool c) t =>
        if c = going then (Expr.unary .not b second).eval serve scope t
        else .value (.bool going) t
      | .value v t => .failure ((Fault.operandType v.type .bool).atSpan a.span) t
      | .failure f t => .failure f t
      | .outOfFuel => .outOfFuel := by
  have both := together_not serve scope (!going) a b first second
  rw [Bool.not_not] at both
  rw [eval_logical, both, Run.bind_pure_bind_pure, eval_not]
  unfold together
  rw [Run.bind_eq, Run.bind_eq, holds_eq]
  cases a.eval serve scope s with
  | value v t =>
    cases v with
    | bool c => cases going <;> cases c <;> rfl
    | _ => rfl
  | failure f t => rfl
  | outOfFuel => rfl

end

/-! ## Which operands are evaluated -/

/-- The evaluations that the parts of an evaluation begin with. -/
def Moment.innerParts (m : Moment) : List Moment :=
  m.parts.flatMap Moment.parts

/-- The evaluation of the first operand, and then that of the second one in the state that the first
one leaves, exactly if that yields the truth value `going`. -/
def operandMoments (fuel : Nat) (scope : ScopeId) (s : State) (calls : Nat) (going : Bool)
    (a b : Expr) : List Moment :=
  ⟨fuel, .expr scope a, s, calls⟩ :: (a.eval (serve fuel) scope s).onward fun v t =>
    if v = .bool going then [⟨fuel, .expr scope b, t, calls⟩] else []

section

variable (fuel calls : Nat) (scope : ScopeId) (s : State) (settling : Bool) (a b : Expr)

/-- The second operand is evaluated if the first one does not settle the result. -/
theorem parts_logical (span : Span) :
    Moment.parts ⟨fuel, .expr scope (.binary (.logical settling) a b span), s, calls⟩ =
      operandMoments fuel scope s calls (!settling) a b := by
  refine congrArg (_ :: ·) ?_
  cases a.eval (serve fuel) scope s with
  | value v t =>
    cases v with
    | bool c => cases settling <;> cases c <;> rfl
    | _ => cases settling <;> rfl
  | failure e t => rfl
  | outOfFuel => rfl

theorem innerParts_not_logical (inner outer : Span) :
    Moment.innerParts
        ⟨fuel, .expr scope (.unary .not (.binary (.logical settling) a b inner) outer), s, calls⟩ =
      operandMoments fuel scope s calls (!settling) a b := by
  rw [← parts_logical fuel calls scope s settling a b inner]
  exact List.flatMap_singleton Moment.parts _

theorem innerParts_logical_not (first second whole : Span) :
    Moment.innerParts ⟨fuel, .expr scope (.binary (.logical !settling) (.unary .not a first)
        (.unary .not b second) whole), s, calls⟩ =
      operandMoments fuel scope s calls (!settling) a b := by
  unfold Moment.innerParts
  rw [parts_logical]
  refine congrArg (_ :: ·) ?_
  rw [eval_not, Run.bind_eq, holds_eq]
  cases a.eval (serve fuel) scope s with
  | value v t =>
    cases v with
    | bool c => cases settling <;> cases c <;> rfl
    | _ => rfl
  | failure e t => rfl
  | outOfFuel => rfl

end

section

variable {fuel calls : Nat} {scope : ScopeId} {s : State} {going : Bool} {a b : Expr}

theorem printing_of_mem_operandMoments {m : Moment}
    (h : m ∈ operandMoments fuel scope s calls going a b) : printing m = [] := by
  rcases List.mem_cons.1 h with rfl | later
  · rfl
  · obtain ⟨v, t, -, member⟩ := Outcome.mem_onward.1 later
    split at member
    · rw [List.mem_singleton.1 member]
      rfl
    · cases member

/-- What neither an evaluation nor its parts print themselves is printed by the inner parts. -/
theorem chronicle_of_silent {m : Moment} (here : printing m = [])
    (silent : ∀ part ∈ m.parts, printing part = []) :
    m.chronicle printing = m.innerParts.flatMap (Moment.chronicle printing) := by
  have inside : ∀ part ∈ m.parts,
      part.chronicle printing = part.parts.flatMap (Moment.chronicle printing) := by
    intro part mem
    rw [Moment.chronicle_eq, silent part mem, List.nil_append]
  unfold Moment.innerParts
  rw [Moment.chronicle_eq, here, List.nil_append, List.flatMap_assoc]
  exact List.flatMap_congr inside

theorem chronicle_not_logical (fuel calls : Nat) (scope : ScopeId) (s : State) (settling : Bool)
    (a b : Expr) (inner outer first second whole : Span) :
    Moment.chronicle printing
        ⟨fuel, .expr scope (.unary .not (.binary (.logical settling) a b inner) outer), s, calls⟩ =
      Moment.chronicle printing ⟨fuel, .expr scope (.binary (.logical !settling)
        (.unary .not a first) (.unary .not b second) whole), s, calls⟩ := by
  rw [chronicle_of_silent rfl, chronicle_of_silent rfl, innerParts_not_logical,
    innerParts_logical_not]
  · intro part mem
    rw [parts_logical] at mem
    exact printing_of_mem_operandMoments mem
  · intro part mem
    rw [List.mem_singleton.1 mem]
    rfl

end

/-- The two expressions are one computation on the operands `a` and `b`: they end alike and print
the same lines in the same order, each evaluates `a`, and then `b` exactly if `a` yields `going`. -/
structure Dual (fuel calls : Nat) (scope : ScopeId) (s : State) (going : Bool) (a b : Expr)
    (e e' : Expr) : Prop where
  ends : e.eval (serve fuel) scope s = e'.eval (serve fuel) scope s
  /-- Where `b` is not evaluated, the end is told by that of `a` alone. -/
  outcome : ∀ span, e.eval (serve fuel) scope s = match a.eval (serve fuel) scope s with
    | .value (.bool c) t =>
      if c = going then (Expr.unary .not b span).eval (serve fuel) scope t
      else .value (.bool going) t
    | .value v t => .failure ((Fault.operandType v.type .bool).atSpan a.span) t
    | .failure f t => .failure f t
    | .outOfFuel => .outOfFuel
  prints : Moment.chronicle printing ⟨fuel, .expr scope e, s, calls⟩ =
    Moment.chronicle printing ⟨fuel, .expr scope e', s, calls⟩
  operands : Moment.innerParts ⟨fuel, .expr scope e, s, calls⟩ =
    operandMoments fuel scope s calls going a b
  operands' : Moment.innerParts ⟨fuel, .expr scope e', s, calls⟩ =
    operandMoments fuel scope s calls going a b

theorem dual_logical (fuel calls : Nat) (scope : ScopeId) (s : State) (settling : Bool) (a b : Expr)
    (inner outer first second whole : Span) :
    Dual fuel calls scope s (!settling) a b
      (.unary .not (.binary (.logical settling) a b inner) outer)
      (.binary (.logical !settling) (.unary .not a first) (.unary .not b second) whole) where
  ends := congrFun
    (eval_not_logical (serve fuel) scope settling a b inner outer first second whole) s
  outcome span := by
    rw [eval_not_logical (serve fuel) scope settling a b inner outer first span whole]
    exact eval_logical_not (serve fuel) scope (!settling) a b first span whole s
  prints := chronicle_not_logical fuel calls scope s settling a b inner outer first second whole
  operands := innerParts_not_logical fuel calls scope s settling a b inner outer
  operands' := innerParts_logical_not fuel calls scope s settling a b first second whole

/-- The laws of De Morgan hold with all effects. A negated `and` and the `or` of the negated
operands end alike, with one value or one failure in one state, and print the same lines; each
evaluates its second operand exactly if the first one yields true. So do a negated `or` and the
`and` of the negated operands, with false for true. The spans of the operations themselves do not
matter. -/
theorem de_morgan (fuel calls : Nat) (scope : ScopeId) (s : State) (a b : Expr)
    (inner outer first second whole : Span) :
    Dual fuel calls scope s true a b (.unary .not (.binary .and a b inner) outer)
      (.binary .or (.unary .not a first) (.unary .not b second) whole) ∧
    Dual fuel calls scope s false a b (.unary .not (.binary .or a b inner) outer)
      (.binary .and (.unary .not a first) (.unary .not b second) whole) :=
  ⟨dual_logical fuel calls scope s false a b inner outer first second whole,
    dual_logical fuel calls scope s true a b inner outer first second whole⟩

/-- With a second operand that prints and is no truth value, both sides of a law print and fail at
it. -/
example :
    let print := Expr.call "print" [.literal (.bool true) .zero] ⟨4, 9⟩
    let e := Expr.unary .not (.binary .and (.literal (.bool true) .zero) print .zero) .zero
    ∃ t, e.eval (serve 4) State.root (.initial {}) =
        .failure ((Fault.operandType .void .bool).atSpan ⟨4, 9⟩) t ∧
      t.transcript = [.line "true"] :=
  ⟨_, rfl, rfl⟩

end Scriptlet
