import Scriptlet.Proofs.Evaluation.Code
import Scriptlet.Proofs.Evaluation.Jumps

/-
  Returns and the functions that they belong to.
  A declaration is marked for a return in its body (`anyReturns_iff`), those of nested declarations
  left aside, and statements end with a return only if there is one in them: a loop ends with one
  that a round of it ends with, and a call takes the return of the function it calls. So a function
  without the mark yields void if it yields anything. Main statement: `return_mark_truthful`.
-/

namespace Scriptlet

/-! ## Where returns occur -/

/-- A statement is or holds another one, nested declarations left aside. -/
inductive Stmt.Contains : Stmt → Stmt → Prop
  | itself (st : Stmt) : Contains st st
  | thenPart {c thenBody elseBody span st inner} (member : st ∈ thenBody)
    (within : Contains st inner) : Contains (.branch c thenBody elseBody span) inner
  | elsePart {c thenBody elseBody span st inner} (member : st ∈ elseBody)
    (within : Contains st inner) : Contains (.branch c thenBody (some elseBody) span) inner
  | round {c body span st inner} (member : st ∈ body) (within : Contains st inner) :
    Contains (.loop c body span) inner

/-- A return is or is held by one of the statements, nested declarations left aside. -/
def ReturnOccurs (body : List Stmt) : Prop :=
  ∃ st ∈ body, ∃ value span, st.Contains (.result value span)

theorem anyReturns_of_mem {st : Stmt} (h : st.returns = true) :
    ∀ {body : List Stmt}, st ∈ body → anyReturns body = true
  | first :: rest, member => by
    rcases List.mem_cons.1 member with rfl | later
    · exact Bool.or_eq_true_iff.2 (.inl h)
    · exact Bool.or_eq_true_iff.2 (.inr (anyReturns_of_mem h later))

theorem Stmt.Contains.returns {st inner : Stmt} (h : st.Contains inner)
    (ends : inner.returns = true) : st.returns = true := by
  induction h with
  | itself st => exact ends
  | @thenPart c thenBody elseBody span st inner member within ih =>
    have inThen := anyReturns_of_mem (ih ends) member
    cases elseBody with
    | none => exact inThen
    | some elseBody => exact Bool.or_eq_true_iff.2 (.inl inThen)
  | elsePart member within ih =>
    exact Bool.or_eq_true_iff.2 (.inr (anyReturns_of_mem (ih ends) member))
  | round member within ih => exact anyReturns_of_mem (ih ends) member

mutual

theorem Stmt.contains_of_returns :
    ∀ st : Stmt, st.returns = true → ∃ value span, st.Contains (.result value span)
  | .result value span, _ => ⟨value, span, .itself _⟩
  | .branch _ thenBody none _, h => by
    obtain ⟨st, member, value, span, within⟩ := returnOccurs_of_anyReturns thenBody h
    exact ⟨value, span, .thenPart member within⟩
  | .branch _ thenBody (some elseBody) _, h => by
    rcases Bool.or_eq_true_iff.1 h with inThen | inElse
    · obtain ⟨st, member, value, span, within⟩ := returnOccurs_of_anyReturns thenBody inThen
      exact ⟨value, span, .thenPart member within⟩
    · obtain ⟨st, member, value, span, within⟩ := returnOccurs_of_anyReturns elseBody inElse
      exact ⟨value, span, .elsePart member within⟩
  | .loop _ body _, h => by
    obtain ⟨st, member, value, span, within⟩ := returnOccurs_of_anyReturns body h
    exact ⟨value, span, .round member within⟩

theorem returnOccurs_of_anyReturns :
    ∀ body : List Stmt, anyReturns body = true → ReturnOccurs body
  | st :: rest, h => by
    rcases Bool.or_eq_true_iff.1 h with here | later
    · exact ⟨st, List.mem_cons_self, st.contains_of_returns here⟩
    · obtain ⟨st', member, found⟩ := returnOccurs_of_anyReturns rest later
      exact ⟨st', List.mem_cons_of_mem _ member, found⟩

end

/-- The search of statements for a return finds one exactly if there is one. -/
theorem anyReturns_iff (body : List Stmt) : anyReturns body = true ↔ ReturnOccurs body := by
  refine ⟨returnOccurs_of_anyReturns body, ?_⟩
  rintro ⟨st, member, value, span, within⟩
  exact anyReturns_of_mem (within.returns rfl) member

/-! ## Statements that end with a return -/

/-- A loop ends with a return only if there is one in its body. -/
def Server.KeepsReturns (serve : Server) : Prop :=
  ∀ {scope c body s v t}, serve (.loop scope c body) s = .value (.result v) t →
    anyReturns body = true

mutual

/-- A statement that ends with a return is or holds one. -/
theorem Stmt.returns_of_result {serve : Server} (keeps : serve.KeepsReturns) {scope : ScopeId}
    {v : Value} {t : State} : ∀ (st : Stmt) {s : State},
    st.exec serve scope s = .value (.result v) t → st.returns = true
  | .variable _ _ _, _, h => absurd h (bindValue_ne_abrupt (Flow.abrupt_result v))
  | .assign _ _ _, _, h => absurd h (bindValue_ne_abrupt (Flow.abrupt_result v))
  | .branch _ thenBody none _, s, h => by
    obtain ⟨test, u, -, chosen⟩ := Run.bind_eq_value_iff.1 h
    cases test with
    | true =>
      have ended := body_of_settled (Flow.abrupt_result v) chosen
      exact anyReturns_of_result keeps thenBody ended
    | false => cases chosen
  | .branch _ thenBody (some elseBody) _, s, h => by
    obtain ⟨test, u, -, chosen⟩ := Run.bind_eq_value_iff.1 h
    have ended := fun body => body_of_settled (m := execBody serve scope .null body)
      (s := u) (t := t) (Flow.abrupt_result v)
    cases test with
    | true =>
      exact Bool.or_eq_true_iff.2 (.inl (anyReturns_of_result keeps thenBody (ended _ chosen)))
    | false =>
      exact Bool.or_eq_true_iff.2 (.inr (anyReturns_of_result keeps elseBody (ended _ chosen)))
  | .loop _ _ _, _, h => keeps h
  | .result _ _, _, _ => rfl
  | .jump _ _, _, h => by cases h
  | .expr _ _, _, h => by
    obtain ⟨w, u, -, ended⟩ := Run.bind_eq_value_iff.1 h
    cases ended

/-- Statements that end with a return are or hold one. -/
theorem anyReturns_of_result {serve : Server} (keeps : serve.KeepsReturns) {scope : ScopeId}
    {v : Value} {t : State} : ∀ (body : List Stmt) {s : State} {last : Value},
    execBody serve scope last body s = .value (.result v) t → anyReturns body = true
  | [], _, _, h => by cases h
  | st :: rest, s, last, h => by
    obtain ⟨flow, u, first, next⟩ := Run.bind_eq_value_iff.1 h
    cases flow with
    | normal w => exact Bool.or_eq_true_iff.2 (.inr (anyReturns_of_result keeps rest next))
    | result w => exact Bool.or_eq_true_iff.2 (.inl (st.returns_of_result keeps first))
    | jump jump => cases next

end

/-- Whatever the fuel, a loop ends with a return only if a round of it does. -/
theorem keepsReturns_serve (fuel : Nat) : (serve fuel).KeepsReturns := by
  induction fuel with
  | zero =>
    intro scope c body s v t h
    cases h
  | succ fuel ih =>
    intro scope c body s v t h
    obtain ⟨test, u, -, round⟩ := Run.bind_eq_value_iff.1 h
    cases test with
    | false => cases round
    | true =>
      obtain ⟨ended, w, made, next⟩ := Run.bind_eq_value_iff.1 round
      cases ended with
      | normal x => exact ih next
      | result x => exact anyReturns_of_result ih body made
      | jump jump =>
        cases jump with
        | breakLoop => cases next
        | continueLoop => exact ih next

/-! ## Functions -/

/-- The mark of the declaration tells whether a return occurs in its body; and without the mark the
body never ends with a return, and every call that yields a value yields void: directly, by a name
in the table of functions, by the host and in an expression. -/
structure Declaration.Truthful (d : Declaration) : Prop where
  mark : d.hasReturn = false ↔ ¬ ReturnOccurs d.body
  body : d.hasReturn = false → ∀ {fuel scope last s v t},
    execBody (serve fuel) scope last d.body s ≠ .value (.result v) t
  direct : d.hasReturn = false → ∀ {fuel scope args span s v t},
    callDeclared (serve fuel) scope d args span s = .value v t → v = .void
  named : d.hasReturn = false → ∀ {name s}, s.functions.get? name = some (.scripted d) →
    ∀ {fuel scope args span v t}, callNamed (serve fuel) scope name args span s = .value v t →
      v = .void
  host : d.hasReturn = false → ∀ {name s}, s.functions.get? name = some (.scripted d) →
    ∀ {fuel scope args v t}, Interpreter.callFunction fuel scope name args s = .value v t →
      v = .void
  written : d.hasReturn = false → ∀ {fuel scope args values s u},
    evalArgs (serve fuel) scope args s = .value values u →
    ∀ {name}, u.functions.get? name = some (.scripted d) → ∀ {span v t},
      (Expr.call name args span).eval (serve fuel) scope s = .value v t → v = .void

/-- A call that yields a value yields what the declaration makes of how its body ends. -/
theorem outcome_of_callDeclared {serve : Server} {scope : ScopeId} {d : Declaration}
    {args : List Value} {span : Span} {s t : State} {v : Value}
    (h : callDeclared serve scope d args span s = .value v t) :
    ∃ frame u flow w, execBody serve frame .null d.body u = .value flow w ∧
      d.outcome flow = .ok v := by
  unfold callDeclared at h
  split at h
  next =>
    unfold Run.counted at h
    split at h
    next => cases h
    next =>
      obtain ⟨u, entered, -⟩ := Run.between_eq_value h
      obtain ⟨w, framed, -⟩ := Run.inFrame_eq_value entered
      obtain ⟨-, u', -, rest⟩ := Run.bind_eq_value_iff.1 framed
      obtain ⟨flow, w', ended, lifted⟩ := Run.bind_eq_value_iff.1 rest
      exact ⟨_, _, flow, _, ended, (Run.lift_eq_value lifted).1⟩
  next => cases h

/-- A declaration that is marked for the returns in its body tells the truth. -/
theorem Declaration.truthful_of_mark {d : Declaration} (marked : d.hasReturn = anyReturns d.body) :
    d.Truthful := by
  have none : d.hasReturn = false ↔ ¬ ReturnOccurs d.body := by
    rw [marked, ← anyReturns_iff, Bool.not_eq_true]
  have body : d.hasReturn = false → ∀ {fuel scope last s v t},
      execBody (serve fuel) scope last d.body s ≠ .value (.result v) t := by
    intro unmarked fuel scope last s v t ended
    have occurs := anyReturns_of_result (keepsReturns_serve fuel) d.body ended
    exact none.1 unmarked ((anyReturns_iff d.body).1 occurs)
  have direct : d.hasReturn = false → ∀ {fuel scope args span s v t},
      callDeclared (serve fuel) scope d args span s = .value v t → v = .void := by
    intro unmarked fuel scope args span s v t called
    obtain ⟨frame, u, flow, w, ended, yielded⟩ := outcome_of_callDeclared called
    cases flow with
    | normal x =>
      have void : Except.ok (if d.hasReturn then x else .void) = .ok v := yielded
      rw [unmarked] at void
      exact (Except.ok.inj void).symm
    | result x => exact absurd ended (body unmarked)
    | jump jump => cases yielded
  have named : d.hasReturn = false → ∀ {name s},
      s.functions.get? name = some (.scripted d) → ∀ {fuel scope args span v t},
      callNamed (serve fuel) scope name args span s = .value v t → v = .void := by
    intro unmarked name s found fuel scope args span v t called
    rw [callNamed_of_scripted scope args span found] at called
    exact direct unmarked called
  refine ⟨none, body, direct, named, fun unmarked _ _ found => named unmarked found, ?_⟩
  intro unmarked fuel scope args values s u evaluated name found span v t called
  have served : serve fuel (.call scope name values span) u = .value v t :=
    (Run.bind_value evaluated).symm.trans called
  cases fuel with
  | zero => cases served
  | succ fuel => exact named unmarked found served

/-- Every declared function tells the truth by its mark. -/
def truthful : Condition where
  expr
    | .function d _ => d.Truthful
    | _ => True
  stmt _ := True

theorem implies_truthful : (fromTokens fun _ => True).Implies truthful where
  expr e h := by
    cases e with
    | function d span =>
      obtain ⟨name, params, body, hasReturn, place⟩ := d
      exact Declaration.truthful_of_mark h.2.2
    | _ => exact trivial
  stmt _ _ := trivial

theorem truthful_ofSources : truthful.OfSources :=
  fun read => bodyEverywhere_mono implies_truthful _
    (Program.fromTokens_of_parse read fun _ _ _ _ => trivial)

/-- Every declaration in a program read from a source, and every declared function at any moment of
an evaluation that a host begins, is marked for a return exactly if one occurs in its body outside
of nested declarations; without the mark its body never ends with a return, and its calls yield
nothing but void. -/
theorem return_mark_truthful :
    (∀ source p, Program.parse source = .ok p → bodyEverywhere truthful p.statements) ∧
    ∀ (fuel : Nat) (work : Work) (s : State) (m : Moment), Reachable Program.Parsed s →
      work.Begun Program.Parsed → Reaches ⟨fuel, work, s, 0⟩ m → m.state.Keeps truthful := by
  refine ⟨fun source p read => truthful_ofSources read, ?_⟩
  intro fuel work s m reachable begun reaches
  exact (reaches.keeps truthful_ofSources reachable begun).2

theorem parse_outer :
    (match Program.parse "outer(n) \x7b inner(k) \x7b return k \x7d inner(n) \x7d" with
      | .ok ⟨[.expr (.function ⟨"outer", ["n"], [.expr (.function ⟨"inner", ["k"],
          [.result (some (.variable "k" _)) _], true, _⟩ _) _,
          .expr (.call "inner" [.variable "n" _] _) _], false, _⟩ _) _]⟩ => true
      | _ => false) = true := by
  decide +kernel

/-- The last statement of a function without a return is the call of one that is declared in it and
returns its argument. -/
theorem return_mark_truthful_outer : ∃ p outer t u w,
    Program.parse "outer(n) \x7b inner(k) \x7b return k \x7d inner(n) \x7d" = .ok p ∧
    bodyEverywhere truthful p.statements ∧
    Interpreter.executeProgram 9 State.root p (.initial {}) = .value .null t ∧
    t.functions.get? "outer" = some (.scripted outer) ∧ outer.Truthful ∧
    Interpreter.callFunction 9 State.root "outer" [.bool true] t = .value .void u ∧
    Interpreter.callFunction 9 State.root "inner" [.bool true] u = .value (.bool true) w := by
  have truth : ∀ source p t outer, Program.parse source = .ok p →
      Interpreter.executeProgram 9 State.root p (.initial {}) = .value .null t →
      t.functions.get? "outer" = some (.scripted outer) → outer.Truthful := by
    intro source p t outer read ran found
    have ended : ((Work.program State.root p).run 9 (.initial {})).Ends t := by
      show (Interpreter.executeProgram 9 State.root p _).Ends t
      rw [ran]
      exact rfl
    have reachable : Reachable Program.Parsed t :=
      .ran (.initial {}) (.program State.root ⟨source, read⟩) ended
    have keeps := return_mark_truthful.2 9 _ t _ reachable (.call State.root "outer" [] .zero) .refl
    obtain ⟨span, truth, inner⟩ := keeps "outer" outer found
    exact truth
  have shape := parse_outer
  split at shape
  next a b c d e f g h i j k read =>
    let inner : Declaration := ⟨"inner", ["k"], [.result (some (.variable "k" a)) b], true, c⟩
    let outer : Declaration := ⟨"outer", ["n"], [.expr (.function inner d) e,
      .expr (.call "inner" [.variable "n" f] g) h], false, i⟩
    let declared := (State.initial {}).install "outer" (.scripted outer)
    have everywhere := return_mark_truthful.1 _ _ read
    have ran : Interpreter.executeProgram 9 State.root ⟨[.expr (.function outer j) k]⟩
        (.initial {}) = .value .null declared := rfl
    have called : Interpreter.callFunction 9 State.root "outer" [.bool true] declared =
        .value .void (declared.install "inner" (.scripted inner)) := rfl
    have truthful := truth _ _ _ _ read ran rfl
    exact ⟨_, outer, declared, _, _, read, everywhere, ran, rfl, truthful, called, rfl⟩
  next => cases shape

end Scriptlet
