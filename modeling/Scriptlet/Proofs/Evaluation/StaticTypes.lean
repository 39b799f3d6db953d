import Scriptlet.Proofs.Evaluation.Code

/-
  Static types.
  An expression of a known type only has values of that type, since every operator sees to the type
  of its result. In programs that were read from sources the known types of the operands of an
  equality are the same; declared functions were read too, so this holds of all code in the table of
  functions of a reachable state (`Reachable.keeps`). Main statement: `static_types_sound`.
-/

namespace Scriptlet

/-- The value is of the type, as far as it is known. -/
def StaticType.Has : StaticType → Value → Prop
  | .number, v => ∃ x, v = .number x
  | .string, v => ∃ s, v = .string s
  | .bool, v => ∃ b, v = .bool b
  | .dynamic, _ => True

/-- Both values are numbers, both are strings or both are truth values. -/
def Value.Alike (a b : Value) : Prop :=
  (∃ x y, a = .number x ∧ b = .number y) ∨ (∃ s t, a = .string s ∧ b = .string t) ∨
    ∃ p q, a = .bool p ∧ b = .bool q

theorem StaticType.Has.alike {type : StaticType} {a b : Value} (ha : type.Has a)
    (hb : type.Has b) (known : type ≠ .dynamic) : a.Alike b := by
  cases type with
  | number =>
    obtain ⟨x, rfl⟩ := ha
    obtain ⟨y, rfl⟩ := hb
    exact .inl ⟨x, y, rfl, rfl⟩
  | string =>
    obtain ⟨s, rfl⟩ := ha
    obtain ⟨t, rfl⟩ := hb
    exact .inr (.inl ⟨s, t, rfl, rfl⟩)
  | bool =>
    obtain ⟨p, rfl⟩ := ha
    obtain ⟨q, rfl⟩ := hb
    exact .inr (.inr ⟨p, q, rfl, rfl⟩)
  | dynamic => exact absurd rfl known

/-- The equality of values of one type does not fail. -/
theorem Value.Alike.staticEq {a b : Value} (alike : a.Alike b) (span : Span) :
    ∃ same, a.staticEq b span = .ok same := by
  rcases alike with ⟨x, y, rfl, rfl⟩ | ⟨s, t, rfl, rfl⟩ | ⟨p, q, rfl, rfl⟩
  · exact ⟨_, rfl⟩
  · exact ⟨_, rfl⟩
  · exact ⟨_, rfl⟩

/-! ## The types of results -/

theorem Literal.value_has (value : Literal) : value.staticType.Has value.value := by
  cases value with
  | number x => exact ⟨x, rfl⟩
  | string s => exact ⟨s, rfl⟩
  | bool b => exact ⟨b, rfl⟩
  | null => exact trivial

theorem UnaryOp.apply_has {op : UnaryOp} {v w : Value} {span : Span}
    (h : op.apply v span = .ok w) : op.staticType.Has w := by
  cases op with
  | negate =>
    obtain ⟨x, -, rfl⟩ := Rule.map_ok_iff.1 h
    exact ⟨_, rfl⟩
  | not =>
    obtain ⟨b, -, rfl⟩ := Rule.map_ok_iff.1 h
    exact ⟨_, rfl⟩

namespace BinaryOp

theorem settled?_has {op : BinaryOp} {a v : Value} {span : Span}
    (h : op.settled? a span = .ok (some v)) : op.staticType.Has v := by
  cases op with
  | and =>
    obtain ⟨b, -, settled⟩ := Rule.map_ok_iff.1 h
    cases b with
    | false => exact ⟨false, (Option.some.inj settled).symm⟩
    | true => cases settled
  | or =>
    obtain ⟨b, -, settled⟩ := Rule.map_ok_iff.1 h
    cases b with
    | false => cases settled
    | true => exact ⟨true, (Option.some.inj settled).symm⟩
  | _ => cases h

theorem numeric_has {f : Single → Single → Except Failure Single} {info : OperandInfo}
    {a b v : Value} (h : numeric f info a b = .ok v) : StaticType.number.Has v := by
  obtain ⟨x, -, more⟩ := Grammar.bind_ok_iff.1 h
  obtain ⟨y, -, more⟩ := Grammar.bind_ok_iff.1 more
  obtain ⟨z, -, made⟩ := Grammar.bind_ok_iff.1 more
  exact ⟨z, (Except.ok.inj made).symm⟩

theorem apply_has {op : BinaryOp} {info : OperandInfo} {a b v : Value}
    (h : op.apply info a b = .ok v) : op.staticType.Has v := by
  cases op with
  | add => exact numeric_has h
  | sub => exact numeric_has h
  | mul => exact numeric_has h
  | div => exact numeric_has h
  | mod => exact numeric_has h
  | less => exact ⟨_, (Except.ok.inj h).symm⟩
  | lessEqual => exact ⟨_, (Except.ok.inj h).symm⟩
  | greater => exact ⟨_, (Except.ok.inj h).symm⟩
  | greaterEqual => exact ⟨_, (Except.ok.inj h).symm⟩
  | _ =>
    obtain ⟨b, -, rfl⟩ := Rule.map_ok_iff.1 h
    exact ⟨_, rfl⟩

end BinaryOp

/-- Whatever an expression comes to, it is of the type that the expression is known to have. -/
theorem Expr.eval_has {serve : Server} {scope : ScopeId} {s t : State} {e : Expr} {v : Value}
    (h : e.eval serve scope s = .value v t) : e.staticType.Has v := by
  cases e with
  | literal value span =>
    cases h
    exact value.value_has
  | binary op left right span =>
    obtain ⟨a, u, -, rest⟩ := Run.bind_eq_value_iff.1 h
    obtain ⟨settled, u', lifted, rest⟩ := Run.bind_eq_value_iff.1 rest
    obtain ⟨settles, -⟩ := Run.lift_eq_value lifted
    cases settled with
    | some w =>
      cases rest
      exact BinaryOp.settled?_has settles
    | none =>
      obtain ⟨b, w, -, applied⟩ := Run.bind_eq_value_iff.1 rest
      exact BinaryOp.apply_has (Run.lift_eq_value applied).1
  | unary op operand span =>
    obtain ⟨a, u, -, applied⟩ := Run.bind_eq_value_iff.1 h
    exact UnaryOp.apply_has (Run.lift_eq_value applied).1
  | «variable» name span => exact trivial
  | call name args span => exact trivial
  | function declaration span => exact trivial

/-! ## Code that was read -/

/-- The operands of an equality are not of two known types that differ. -/
def typing : Condition where
  expr
    | .binary op left right _ => Grammar.Comparable op left right
    | _ => True
  stmt _ := True

theorem implies_typing : (fromTokens fun _ => True).Implies typing where
  expr e h := by
    cases e with
    | binary op left right span => exact h
    | _ => exact trivial
  stmt _ _ := trivial

/-- In a program read from a source every equality has operands that fit together. -/
theorem typing_ofSources : typing.OfSources :=
  fun read => bodyEverywhere_mono implies_typing _
    (Program.fromTokens_of_parse read fun _ _ _ _ => trivial)

/-! ## Equalities -/

section

variable {serve : Server} {scope : ScopeId} {s : State} {op : BinaryOp} {left right : Expr}
  {span : Span}

/-- The operands of an equality that fit together come to values of one type, if to values. -/
theorem Grammar.Comparable.alike {a b : Value} {s' t t' : State}
    (fits : Comparable op left right) (equality : op.isEquality = true)
    (leftKnown : left.staticType ≠ .dynamic) (rightKnown : right.staticType ≠ .dynamic)
    (first : left.eval serve scope s = .value a t)
    (second : right.eval serve scope s' = .value b t') : a.Alike b := by
  have same := fits equality leftKnown rightKnown
  have ha := Expr.eval_has first
  have hb := Expr.eval_has second
  rw [← same] at hb
  exact ha.alike hb leftKnown

theorem settled?_of_isEquality (equality : op.isEquality = true) (a : Value) :
    op.settled? a span = .ok none := by
  cases op with
  | equal => rfl
  | notEqual => rfl
  | _ => cases equality

/-- An equality evaluates both of its operands. -/
theorem eval_equality (equality : op.isEquality = true) :
    (Expr.binary op left right span).eval serve scope = (do
      let a ← left.eval serve scope
      let b ← right.eval serve scope
      .lift (op.apply (.of left right span) a b)) := by
  funext s
  show (left.eval serve scope >>= fun a => Run.lift (op.settled? a left.span) >>= _) s = _
  rw [Run.bind_eq, Run.bind_eq]
  cases left.eval serve scope s with
  | value a t =>
    have unsettled : Run.lift (op.settled? a left.span) t = .value none t := by
      rw [settled?_of_isEquality equality a]
      rfl
    exact Run.bind_value unsettled
  | failure e t => rfl
  | outOfFuel => rfl

/-- An equality of operands of known types does not fail on values of one type. -/
theorem apply_of_alike {a b : Value} (span : Span) (equality : op.isEquality = true)
    (leftKnown : left.staticType ≠ .dynamic) (rightKnown : right.staticType ≠ .dynamic)
    (alike : a.Alike b) : ∃ same, op.apply (.of left right span) a b = .ok (.bool same) := by
  have typed : (OperandInfo.of left right span).typed = true := by
    simp [OperandInfo.of, leftKnown, rightKnown]
  obtain ⟨same, compared⟩ := alike.staticEq span
  have decided : BinaryOp.equality (.of left right span) a b = .ok same := by
    unfold BinaryOp.equality
    rw [if_pos typed]
    exact compared
  cases op with
  | equal =>
    refine ⟨same, ?_⟩
    show (BinaryOp.equality (.of left right span) a b).map Value.bool = _
    rw [decided]
    rfl
  | notEqual =>
    refine ⟨!same, ?_⟩
    show (BinaryOp.equality (.of left right span) a b).map (fun same => Value.bool !same) = _
    rw [decided]
    rfl
  | _ => cases equality

end

/-- How an equality of two operands of known types ends in a state: on values of one type, which it
compares without a failure, or as an operand fails. -/
inductive EqualityEnds (serve : Server) (scope : ScopeId) (op : BinaryOp) (left right : Expr)
    (span : Span) (s : State) : Prop
  | compared {a b : Value} {t u : State} {same : Bool}
    (first : left.eval serve scope s = .value a t) (second : right.eval serve scope t = .value b u)
    (alike : a.Alike b)
    (ends : (Expr.binary op left right span).eval serve scope s = .value (.bool same) u)
  | leftFails {e : Failure} {t : State} (first : left.eval serve scope s = .failure e t)
    (ends : (Expr.binary op left right span).eval serve scope s = .failure e t)
  | rightFails {a : Value} {e : Failure} {t u : State}
    (first : left.eval serve scope s = .value a t)
    (second : right.eval serve scope t = .failure e u)
    (ends : (Expr.binary op left right span).eval serve scope s = .failure e u)
  | outOfFuel (ends : (Expr.binary op left right span).eval serve scope s = .outOfFuel)

theorem equalityEnds {serve : Server} {scope : ScopeId} {s : State} {op : BinaryOp}
    {left right : Expr} {span : Span} (fits : Grammar.Comparable op left right)
    (equality : op.isEquality = true) (leftKnown : left.staticType ≠ .dynamic)
    (rightKnown : right.staticType ≠ .dynamic) :
    EqualityEnds serve scope op left right span s := by
  have whole : (Expr.binary op left right span).eval serve scope s = _ :=
    congrFun (eval_equality equality) s
  rw [Run.bind_eq] at whole
  cases first : left.eval serve scope s with
  | failure e t =>
    rw [first] at whole
    exact .leftFails first whole
  | outOfFuel =>
    rw [first] at whole
    exact .outOfFuel whole
  | value a t =>
    rw [first] at whole
    dsimp only at whole
    rw [Run.bind_eq] at whole
    cases second : right.eval serve scope t with
    | failure e u =>
      rw [second] at whole
      exact .rightFails first second whole
    | outOfFuel =>
      rw [second] at whole
      exact .outOfFuel whole
    | value b u =>
      have alike := fits.alike equality leftKnown rightKnown first second
      obtain ⟨same, applied⟩ := apply_of_alike span equality leftKnown rightKnown alike
      rw [second] at whole
      dsimp only at whole
      rw [applied] at whole
      exact .compared first second alike whole

/-- Static types are sound: the known types of the operands of an equality are the same wherever one
was read, an expression of a known type has only values of that type, and in every run of code that
was read an equality of operands of known types compares two values of one type. -/
theorem static_types_sound :
    (∀ source p, Program.parse source = .ok p → bodyEverywhere typing p.statements) ∧
    (∀ (fuel : Nat) (scope : ScopeId) (s t : State) (e : Expr) (v : Value),
      e.eval (serve fuel) scope s = .value v t → e.staticType.Has v) ∧
    (∀ (fuel : Nat) (work : Work) (s : State), Reachable Program.Parsed s →
      work.Begun Program.Parsed → ∀ (op : BinaryOp) (left right : Expr) (span : Span)
        (fuel' : Nat) (scope : ScopeId) (t : State) (calls : Nat),
      Reaches ⟨fuel, work, s, 0⟩ ⟨fuel', .expr scope (.binary op left right span), t, calls⟩ →
      op.isEquality = true → left.staticType ≠ .dynamic → right.staticType ≠ .dynamic →
      EqualityEnds (serve fuel') scope op left right span t) := by
  refine ⟨fun source p read => typing_ofSources read,
    fun fuel scope s t e v ended => Expr.eval_has ended, ?_⟩
  intro fuel work s reachable begun op left right span fuel' scope t calls reaches
  have fits : (Work.expr scope (.binary op left right span)).Fits (keeping typing _) :=
    (reaches.keeps typing_ofSources reachable begun).1
  exact equalityEnds fits.1

theorem parse_inequality :
    (match Program.parse "\"a\" != \"b\"" with
      | .ok ⟨[.expr (.binary .notEqual (.literal (.string _) _) (.literal (.string _) _) _) _]⟩ =>
        true
      | _ => false) = true := by
  decide +kernel

theorem static_types_sound_strings :
    ∃ p scope op left right span, Program.parse "\"a\" != \"b\"" = .ok p ∧
      Reaches ⟨9, .program State.root p, .initial {}, 0⟩
        ⟨9, .expr scope (.binary op left right span), .initial {}, 0⟩ ∧
      EqualityEnds (serve 9) scope op left right span (.initial {}) := by
  have shape := parse_inequality
  split at shape
  next s i t j span span' read =>
    have begun : (Work.program State.root _).Begun Program.Parsed := .program _ ⟨_, read⟩
    have reaches : Reaches
        ⟨9, .program State.root ⟨[.expr (.binary .notEqual (.literal (.string s) i)
          (.literal (.string t) j) span) span']⟩, .initial {}, 0⟩
        ⟨9, .expr State.root (.binary .notEqual (.literal (.string s) i)
          (.literal (.string t) j) span), .initial {}, 0⟩ :=
      ((Relation.ReflTransGen.single .statements).tail .first).tail .alone
    have ends := static_types_sound.2.2 9 _ _ (.initial {}) begun _ _ _ _ _ _ _ _ reaches rfl
      nofun nofun
    exact ⟨_, _, _, _, _, _, read, reaches, ends⟩
  next => cases shape

end Scriptlet
