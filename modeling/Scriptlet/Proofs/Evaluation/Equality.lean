import Scriptlet.Proofs.Evaluation.Environments
import Scriptlet.Proofs.Evaluation.StaticTypes
import Scriptlet.Proofs.Number.Text

/-
  The two equalities of values.
  Operands of known types are compared by content, all others by their texts. The text of a value
  tells it from every other one of its type, so the two equalities are one but for pairs of numbers
  that are not numbers and pairs of opposite zeros (`dynamicEq_eq_staticEq_iff`). What an equality
  of any other operands comes to depends on their values alone, and not on whether one of them is
  written as a variable (`BinaryOp.apply_of_not_disputed`). Main statement:
  `equalities_differ_only_if_disputed`.
-/

namespace Scriptlet

namespace Value

variable {a b c : Value} {span : Span}

/-- The pairs of values on which equality of texts and equality of contents differ. -/
inductive Disputed : Value → Value → Prop
  | nan : Disputed (.number .nan) (.number .nan)
  | zeros (negative : Bool) : Disputed (.number (.zero negative)) (.number (.zero !negative))

/-- Two values of one type with one text are one value. -/
theorem eq_of_text (type : a.type = b.type) (text : a.text = b.text) : a = b := by
  cases a with
  | number x =>
    cases b with
    | number y => exact congrArg Value.number (Binary.text_injective text)
    | _ => cases type
  | string s =>
    cases b with
    | string t => exact congrArg Value.string text
    | _ => cases type
  | bool p =>
    cases b with
    | bool q =>
      cases p with
      | false =>
        cases q with
        | false => rfl
        | true => exact absurd text (by decide)
      | true =>
        cases q with
        | false => exact absurd text (by decide)
        | true => rfl
    | _ => cases type
  | void =>
    cases b with
    | void => rfl
    | _ => cases type
  | null =>
    cases b with
    | null => rfl
    | _ => cases type

/-- Equality of texts is equality. -/
theorem dynamicEq_of_type (type : a.type = b.type) (span : Span) :
    a.dynamicEq b span = .ok (decide (a = b)) := by
  have texts : (a.text == b.text) = decide (a = b) := by
    by_cases same : a = b
    · rw [same, decide_eq_true rfl]
      exact beq_self_eq_true _
    · rw [decide_eq_false same]
      exact beq_eq_false_iff_ne.2 (mt (eq_of_text type) same)
  unfold dynamicEq
  rw [if_pos type, texts]

theorem dynamicEq_eq_true_iff : a.dynamicEq b span = .ok true ↔ a = b := by
  constructor
  · intro same
    have type : a.type = b.type := by
      unfold dynamicEq at same
      split at same
      next type => exact type
      next => cases same
    rw [dynamicEq_of_type type] at same
    exact of_decide_eq_true (Except.ok.inj same)
  · rintro rfl
    rw [dynamicEq_of_type rfl, decide_eq_true rfl]

theorem disputed_number_iff {x y : Single} : (number x).Disputed (.number y) ↔
    (x = .nan ∧ y = .nan) ∨ x.OppositeZeros y := by
  constructor
  · intro disputed
    cases disputed with
    | nan => exact .inl ⟨rfl, rfl⟩
    | zeros negative => exact .inr ⟨negative, rfl, rfl⟩
  · rintro (⟨rfl, rfl⟩ | ⟨negative, rfl, rfl⟩)
    · exact .nan
    · exact .zeros negative

theorem identical_of_not_numbers (other : ∀ x y, a = .number x → b = .number y → False) :
    a.identical b = decide (a = b) := by
  unfold identical
  split
  next x y => exact (other x y rfl rfl).elim
  next => rfl

/-- Equality of contents is equality, the other way round for the disputed pairs. -/
theorem identical_iff : a.identical b = true ↔ (a = b ↔ ¬ a.Disputed b) := by
  by_cases numbers : ∃ x y, a = .number x ∧ b = .number y
  · obtain ⟨x, y, rfl, rfl⟩ := numbers
    show x.equals y = true ↔ _
    rw [Binary.equals_iff, disputed_number_iff, number.injEq]
    by_cases same : x = y
    · subst same
      have agree : ¬ x.OppositeZeros x := Binary.OppositeZeros.irrefl
      simp [agree]
    · have notNan : ¬ (x = .nan ∧ y = .nan) := fun h => same (h.1.trans h.2.symm)
      simp [same, notNan]
  · have settled : ¬ a.Disputed b := by
      rintro (_ | _)
      · exact numbers ⟨_, _, rfl, rfl⟩
      · exact numbers ⟨_, _, rfl, rfl⟩
    rw [identical_of_not_numbers fun x y ha hb => numbers ⟨x, y, ha, hb⟩, decide_eq_true_iff,
      iff_true_right settled]

theorem decide_string (s t : String) : decide (string s = string t) = (s == t) := by
  simp only [string.injEq]
  rfl

theorem decide_bool (p q : Bool) : decide (bool p = bool q) = (p == q) := by
  simp only [bool.injEq]
  rfl

/-- Values of one type are compared by content without a failure. -/
theorem staticEq_of_type (type : a.type = b.type) (span : Span) :
    a.staticEq b span = .ok (a.identical b) := by
  unfold staticEq
  split
  next => rfl
  next s t => rw [identical_of_not_numbers fun _ _ ha => by injection ha, decide_string]
  next p q => rw [identical_of_not_numbers fun _ _ ha => by injection ha, decide_bool]
  next notNumbers _ _ =>
    rw [dynamicEq_of_type type, identical_of_not_numbers notNumbers]

/-- Of one type, values are compared alike by text and by content unless they are disputed. -/
theorem dynamicEq_eq_staticEq_iff (type : a.type = b.type) :
    a.dynamicEq b span = a.staticEq b span ↔ ¬ a.Disputed b := by
  have contents : a.identical b = true ↔ (a = b ↔ ¬ a.Disputed b) := identical_iff
  rw [dynamicEq_of_type type, staticEq_of_type type, Except.ok.injEq, Bool.eq_iff_iff, contents,
    decide_eq_true_iff]
  by_cases same : a = b
  · rw [iff_true_left same, iff_true_left same]
  · rw [iff_false_left same, iff_false_left same, Classical.not_not]

theorem dynamicEq_of_not_type (type : a.type ≠ b.type) (span : Span) :
    a.dynamicEq b span = .error ((Fault.incomparable a.type b.type).atSpan span) :=
  if_neg type

/-- Values of two types have no equality, however their types are known. -/
theorem staticEq_of_not_type (type : a.type ≠ b.type) (span : Span) :
    a.staticEq b span = .error ((Fault.incomparable a.type b.type).atSpan span) := by
  unfold staticEq
  split
  next => exact absurd rfl type
  next => exact absurd rfl type
  next => exact absurd rfl type
  next => exact dynamicEq_of_not_type type span

end Value

/-! ## Operands and their names -/

namespace BinaryOp

/-- The value of an equality whose operands are the same, or not. -/
def tell (op : BinaryOp) (same : Bool) : Value :=
  .bool (if op = .equal then same else !same)

theorem apply_eq_tell {op : BinaryOp} (equality : op.isEquality = true) (info : OperandInfo)
    (a b : Value) : op.apply info a b = (BinaryOp.equality info a b).map op.tell := by
  cases op with
  | equal => rfl
  | notEqual => rfl
  | _ => cases equality

/-- Unless its operands are disputed, an equality does not depend on what is known of them. -/
theorem apply_of_not_disputed {op : BinaryOp} (equality : op.isEquality = true) {a b : Value}
    (settled : ¬ a.Disputed b) (info : OperandInfo) :
    op.apply info a b = (a.dynamicEq b info.whole).map op.tell := by
  have compared : BinaryOp.equality info a b = a.dynamicEq b info.whole := by
    unfold BinaryOp.equality
    split
    next =>
      by_cases type : a.type = b.type
      · exact ((Value.dynamicEq_eq_staticEq_iff type).2 settled).symm
      · rw [Value.staticEq_of_not_type type, Value.dynamicEq_of_not_type type]
    next => rfl
  rw [apply_eq_tell equality, compared]

end BinaryOp

section

variable {serve : Server} {scope : ScopeId} {s t u : State} {op : BinaryOp} {left right e : Expr}
  {span : Span} {a b v : Value} {name : String}

theorem eval_of_not_disputed (equality : op.isEquality = true)
    (first : left.eval serve scope s = .value a t) (second : right.eval serve scope t = .value b u)
    (settled : ¬ a.Disputed b) : (Expr.binary op left right span).eval serve scope s =
      Run.lift ((a.dynamicEq b span).map op.tell) u := by
  rw [eval_equality equality, Run.bind_value first, Run.bind_value second,
    BinaryOp.apply_of_not_disputed equality settled]
  rfl

theorem lookup?_bind (known : s.scope? scope ≠ none) :
    (s.bind scope name v).lookup? scope name = some v := by
  have own : (s.bind scope name v).local? scope name = some v := by
    obtain ⟨found, there⟩ := Option.ne_none_iff_exists'.1 known
    unfold State.local?
    rw [State.scope?_bind, if_pos rfl, there]
    exact (Bindings.get?_insert _ name name v).trans (if_pos rfl)
  unfold State.lookup?
  rw [own]

theorem eval_variable (found : s.lookup? scope name = some v) :
    (Expr.variable name span).eval serve scope s = .value v s := by
  show Run.lookup scope name span s = _
  unfold Run.lookup
  rw [found]

/-- A declaration of a variable that ends with a value has bound the value of its expression. -/
theorem exec_variable_eq_value {flow : Flow}
    (named : (Stmt.variable name e span).exec serve scope s = .value flow u) :
    ∃ v t, e.eval serve scope s = .value v t ∧ u = t.bind scope name v := by
  obtain ⟨v, t, came, rest⟩ := Run.bind_eq_value_iff.1 named
  obtain ⟨⟨⟩, w, assigned, ended⟩ := Run.bind_eq_value_iff.1 rest
  refine ⟨v, t, came, ?_⟩
  unfold Run.assign at assigned
  split at assigned
  next => cases assigned
  next =>
    cases assigned
    cases ended
    rfl

/-- To name the left operand of an equality first changes its outcome only if the operands are
disputed. -/
theorem named_left_agrees {t' u' : State} {flow : Flow} {declared at_ span' : Span}
    (equality : op.isEquality = true) (known : t.scope? scope ≠ none)
    (first : left.eval serve scope s = .value a t) (second : right.eval serve scope t = .value b u)
    (named : (Stmt.variable name left declared).exec serve scope s = .value flow t')
    (again : right.eval serve scope t' = .value b u') (settled : ¬ a.Disputed b) :
    (Expr.binary op left right span).eval serve scope s =
      Run.lift ((a.dynamicEq b span).map op.tell) u ∧
    (Expr.binary op (.variable name at_) right span').eval serve scope t' =
      Run.lift ((a.dynamicEq b span').map op.tell) u' := by
  obtain ⟨v, w, came, bound⟩ := exec_variable_eq_value named
  rw [first] at came
  cases came
  have reads : (Expr.variable name at_).eval serve scope t' = .value a t' :=
    eval_variable (bound ▸ lookup?_bind known)
  exact ⟨eval_of_not_disputed equality first second settled,
    eval_of_not_disputed equality reads again settled⟩

/-- To name the right operand of an equality first changes its outcome only if the operands are
disputed; the left operand is to leave the variable as it is. -/
theorem named_right_agrees {t' u' : State} {at_ span' : Span} (equality : op.isEquality = true)
    (first : left.eval serve scope s = .value a t) (second : right.eval serve scope t = .value b u)
    (again : left.eval serve scope t' = .value a u') (kept : u'.lookup? scope name = some b)
    (settled : ¬ a.Disputed b) :
    (Expr.binary op left right span).eval serve scope s =
      Run.lift ((a.dynamicEq b span).map op.tell) u ∧
    (Expr.binary op left (.variable name at_) span').eval serve scope t' =
      Run.lift ((a.dynamicEq b span').map op.tell) u' :=
  ⟨eval_of_not_disputed equality first second settled,
    eval_of_not_disputed equality again (eval_variable kept) settled⟩

end

/-- Equality of texts is an equivalence, and on values of one type it agrees with equality of
contents exactly if they are not disputed; values of two types have no equality. So to name an
operand of an equality in a variable changes what it comes to only if the operands are disputed. -/
theorem equalities_differ_only_if_disputed :
    (∀ span, Equivalence fun a b : Value => a.dynamicEq b span = .ok true) ∧
    (∀ (a b : Value) (span : Span), a.type = b.type → ∃ byText,
      a.dynamicEq b span = .ok byText ∧ a.staticEq b span = .ok (a.identical b) ∧
      (byText = a.identical b ↔ ¬ a.Disputed b)) ∧
    (∀ span, (Value.number .nan).dynamicEq (.number .nan) span = .ok true ∧
      (Value.number .nan).staticEq (.number .nan) span = .ok false) ∧
    (∀ (negative : Bool) (span : Span),
      (Value.number (.zero negative)).dynamicEq (.number (.zero !negative)) span = .ok false ∧
      (Value.number (.zero negative)).staticEq (.number (.zero !negative)) span = .ok true) ∧
    (∀ (a b : Value) (span : Span), a.type ≠ b.type → ∃ d,
      a.dynamicEq b span = .error (.diagnostic d) ∧ d.kind = .typeMismatch ∧
      d.span = some span) ∧
    (∀ (serve : Server) (scope : ScopeId) (op : BinaryOp) (left right : Expr) (span : Span)
        (name : String) (declared at_ span' : Span) (a b : Value) (s t u t' u' : State)
        (flow : Flow),
      op.isEquality = true → t.scope? scope ≠ none →
      left.eval serve scope s = .value a t → right.eval serve scope t = .value b u →
      (Stmt.variable name left declared).exec serve scope s = .value flow t' →
      right.eval serve scope t' = .value b u' → ¬ a.Disputed b →
      (Expr.binary op left right span).eval serve scope s =
        Run.lift ((a.dynamicEq b span).map op.tell) u ∧
      (Expr.binary op (.variable name at_) right span').eval serve scope t' =
        Run.lift ((a.dynamicEq b span').map op.tell) u') ∧
    (∀ (serve : Server) (scope : ScopeId) (op : BinaryOp) (left right : Expr) (span : Span)
        (name : String) (at_ span' : Span) (a b : Value) (s t u t' u' : State),
      op.isEquality = true →
      left.eval serve scope s = .value a t → right.eval serve scope t = .value b u →
      left.eval serve scope t' = .value a u' → u'.lookup? scope name = some b →
      ¬ a.Disputed b →
      (Expr.binary op left right span).eval serve scope s =
        Run.lift ((a.dynamicEq b span).map op.tell) u ∧
      (Expr.binary op left (.variable name at_) span').eval serve scope t' =
        Run.lift ((a.dynamicEq b span').map op.tell) u') := by
  refine ⟨fun span => ?_, fun a b span type => ?_, fun span => ?_, fun negative span => ?_,
    fun a b span type => ?_, ?_, ?_⟩
  · have sameAs : (fun a b : Value => a.dynamicEq b span = .ok true) = Eq := by
      funext a b
      exact propext Value.dynamicEq_eq_true_iff
    rw [sameAs]
    exact ⟨fun _ => rfl, Eq.symm, Eq.trans⟩
  · have agree : a.dynamicEq b span = a.staticEq b span ↔ _ :=
      Value.dynamicEq_eq_staticEq_iff type
    rw [Value.dynamicEq_of_type type, Value.staticEq_of_type type, Except.ok.injEq] at agree
    exact ⟨_, Value.dynamicEq_of_type type span, Value.staticEq_of_type type span, agree⟩
  · exact ⟨Value.dynamicEq_eq_true_iff.2 rfl, rfl⟩
  · have other : Value.number (.zero negative) ≠ .number (.zero !negative) := by
      cases negative <;> simp [Binary.zero]
    have zeros : (Binary.zero negative : Single).equals (.zero !negative) = true :=
      Binary.equals_iff.2 (.inr ⟨negative, rfl, rfl⟩)
    have type : (Value.number (.zero negative)).type = (Value.number (.zero !negative)).type := rfl
    refine ⟨?_, congrArg Except.ok zeros⟩
    rw [Value.dynamicEq_of_type type, decide_eq_false other]
  · exact ⟨_, Value.dynamicEq_of_not_type type span, rfl, rfl⟩
  · intro serve scope op left right span name declared at_ span' a b s t u t' u' flow equality
      known first second named again settled
    exact named_left_agrees equality known first second named again settled
  · intro serve scope op left right span name at_ span' a b s t u t' u' equality first second
      again kept settled
    exact named_right_agrees equality first second again kept settled

/-- One equals one, also if the first one is read from a variable. -/
theorem equalities_differ_only_if_disputed_one :
    (Expr.binary .equal (.literal (.number 1) .zero) (.literal (.number 1) .zero) .zero).eval
        (serve 0) State.root (.initial {}) = .value (.bool true) (.initial {}) ∧
    (Expr.binary .equal (.variable "x" .zero) (.literal (.number 1) .zero) .zero).eval
        (serve 0) State.root ((State.initial {}).bind State.root "x" (.number 1)) =
      .value (.bool true) ((State.initial {}).bind State.root "x" (.number 1)) := by
  have settled : ¬ (Value.number 1).Disputed (.number 1) := by
    rw [Value.disputed_number_iff]
    rintro (⟨notNumber, -⟩ | zeros)
    · exact absurd notNumber (by decide +kernel)
    · exact Binary.OppositeZeros.irrefl zeros
  have agree := equalities_differ_only_if_disputed.2.2.2.2.2.1 (serve 0) State.root .equal
    (.literal (.number 1) .zero) (.literal (.number 1) .zero) .zero "x" .zero .zero .zero
    (.number 1) (.number 1) (.initial {}) (.initial {}) (.initial {})
    ((State.initial {}).bind State.root "x" (.number 1))
    ((State.initial {}).bind State.root "x" (.number 1)) (.normal (.number 1)) rfl
    nofun rfl rfl rfl rfl settled
  rw [Value.dynamicEq_of_type rfl, decide_eq_true rfl] at agree
  exact agree

end Scriptlet
