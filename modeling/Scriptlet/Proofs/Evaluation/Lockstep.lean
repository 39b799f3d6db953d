import Scriptlet.Proofs.Evaluation.Pairing

/-
  Alike code in alike states.
  Two runs go in step: they end with the same value or with alike failures, in alike states, or
  both run out of fuel. Main statement: so do all tasks of alike code in paired environments
  (`serve_alike`), by induction on trees, on the actions of the host and on the fuel. Programs and
  functions that no jump leaves go in step whatever a stray jump would be (`Run.Alike.settled`).
-/

namespace Scriptlet

/-- Both computations ended, with values that are related or with alike failures, in alike states,
or both ran out of fuel. -/
inductive Outcome.Alike (L : Likeness) (P : Pairing) {α β : Type} (R : α → β → Prop) :
    Outcome α → Outcome β → Prop where
  | value {a : α} {b : β} {t t' : State} (same : R a b) (left : t.Alike L P t') :
      Alike L P R (.value a t) (.value b t')
  | failure {e e' : Failure} {t t' : State} (alike : L.failure e e') (left : t.Alike L P t') :
      Alike L P R (.failure e t) (.failure e' t')
  | outOfFuel : Alike L P R .outOfFuel .outOfFuel

/-- In alike states the computations end alike. -/
def Run.Alike (L : Likeness) (P : Pairing) {α β : Type} (R : α → β → Prop) (m : Run α)
    (m' : Run β) : Prop :=
  ∀ ⦃s s'⦄, s.Alike L P s' → (m s).Alike L P R (m' s')

namespace Run

variable {L : Likeness} {P : Pairing} {α β γ δ : Type} {R : α → β → Prop} {Q : γ → δ → Prop}
  {m : Run α} {m' : Run β} {i j : ScopeId} {a b : Span}

/-! ## Computations in a row -/

theorem alike_pure {x : α} {y : β} (same : R x y) :
    Run.Alike L P R (Pure.pure x) (Pure.pure y) :=
  fun _ _ h => .value same h

theorem alike_fail {e e' : Failure} (alike : L.failure e e') :
    Run.Alike L P R (Run.fail e) (Run.fail e') :=
  fun _ _ h => .failure alike h

theorem alike_lift {r r' : Except Failure α} (h : L.Results r r') :
    Run.Alike L P Eq (Run.lift r) (Run.lift r') := by
  intro s s' left
  cases h with
  | ok x => exact .value rfl left
  | error alike => exact .failure alike left

theorem alike_modify {g g' : State → State} (h : ∀ s s', s.Alike L P s' → (g s).Alike L P (g' s')) :
    Run.Alike L P Eq (Run.modify g) (Run.modify g') :=
  fun s s' left => .value rfl (h s s' left)

theorem alike_bind {f : α → Run γ} {f' : β → Run δ} (first : Run.Alike L P R m m')
    (next : ∀ x y, R x y → Run.Alike L P Q (f x) (f' y)) :
    Run.Alike L P Q (m >>= f) (m' >>= f') := by
  intro s s' left
  have begun := first left
  rw [bind_eq, bind_eq]
  generalize m s = o at begun
  generalize m' s' = o' at begun
  cases begun with
  | value same left => exact next _ _ same left
  | failure alike left => exact .failure alike left
  | outOfFuel => exact .outOfFuel

/-- Computations in a row whose first part has the same value in both runs. -/
theorem alike_bind_eq {m m' : Run α} {f : α → Run γ} {f' : α → Run δ}
    (first : Run.Alike L P Eq m m') (next : ∀ x, Run.Alike L P Q (f x) (f' x)) :
    Run.Alike L P Q (m >>= f) (m' >>= f') :=
  alike_bind first fun x _ same => same ▸ next x

theorem alike_attempt {m m' : Run α} (h : Run.Alike L P Eq m m') :
    Run.Alike L P L.Results (Run.attempt m) (Run.attempt m') := by
  intro s s' left
  have ended := h left
  unfold attempt
  generalize m s = o at ended
  generalize m' s' = o' at ended
  cases ended with
  | value same left =>
    subst same
    exact .value (.ok _) left
  | failure alike left => exact .value (.error alike) left
  | outOfFuel => exact .outOfFuel

theorem alike_orSpan (at_ : L.span a b) (h : Run.Alike L P R m m') :
    Run.Alike L P R (m.orSpan a) (m'.orSpan b) := by
  intro s s' left
  have ended := h left
  unfold orSpan
  generalize m s = o at ended
  generalize m' s' = o' at ended
  cases ended with
  | value same left => exact .value same left
  | failure alike left => exact .failure (L.orSpan alike at_) left
  | outOfFuel => exact .outOfFuel

/-- What is done before and after a computation leads from alike states to alike states. -/
theorem alike_between {P' : Pairing} {before before' after after' : State → State} {s s' : State}
    (begun : (before s).Alike L P' (before' s'))
    (ended : ∀ t t', t.Alike L P' t' → (after t).Alike L P (after' t'))
    (h : Run.Alike L P' R m m') :
    (m.between before after s).Alike L P R (m'.between before' after' s') := by
  have o := h begun
  unfold between
  generalize m (before s) = o₁ at o
  generalize m' (before' s') = o₂ at o
  cases o with
  | value same left => exact .value same (ended _ _ left)
  | failure alike left => exact .failure alike (ended _ _ left)
  | outOfFuel => exact .outOfFuel

theorem alike_counted (at_ : L.span a b) (h : Run.Alike L P R m m') :
    Run.Alike L P R (Run.counted a m) (Run.counted b m') := by
  intro s s' left
  unfold counted
  rw [left.limit, left.depth]
  split
  next => exact .failure (L.fault nofun at_) left
  next => exact alike_between left.enter (fun _ _ h => h.leave) h

/-- Each run has a new environment for itself, under the roots of two that are paired. -/
theorem alike_inFrame (paired : P.rel i j) {m : ScopeId → Run α} {m' : ScopeId → Run β}
    (h : ∀ frame frame', P.enter.rel frame frame' →
      Run.Alike L P.enter R (m frame) (m' frame')) :
    Run.Alike L P R (inFrame i m) (inFrame j m') := by
  intro s s' left
  exact alike_between (left.push paired) (fun _ _ h => h.pop) (h _ _ left.nextFrame)

theorem alike_lookup (paired : P.rel i j) (name : String) (at_ : L.span a b) :
    Run.Alike L P Eq (Run.lookup i name a) (Run.lookup j name b) := by
  intro s s' left
  unfold Run.lookup
  rw [left.lookup? paired name]
  split
  next => exact .value rfl left
  next => exact .failure (L.fault nofun at_) left

theorem alike_assign (paired : P.rel i j) (name : String) (v : Value) (at_ : L.span a b) :
    Run.Alike L P Eq (Run.assign i name v a) (Run.assign j name v b) := by
  unfold Run.assign
  split
  next => exact alike_fail (L.fault nofun at_)
  next => exact alike_modify fun _ _ h => h.bind paired name v

theorem alike_register (paired : P.rel i j) {f f' : HostFunction} (name : f.name = f'.name)
    (slots : f.slots = f'.slots) (h : ∀ args, (f.body args).Alike L P.named (f'.body args)) :
    Run.Alike L P Eq (Run.register i f) (Run.register j f') := by
  intro s s' left
  have alike : Callable.Alike L P.named (.native f) (.native f') :=
    .native name slots (HostFunction.invoke_alike name slots h)
  unfold Run.register State.register
  rw [left.isRoot paired, ← name]
  cases s'.isRoot j with
  | true => exact .value rfl (left.install f.name alike)
  | false => exact .failure (L.diagnostic _ nofun) left

/-- What is read off states, and is related in both. -/
theorem alike_read {g : State → α} {g' : State → β}
    (h : ∀ s s', s.Alike L P s' → R (g s) (g' s')) :
    Run.Alike L P R (fun s => .value (g s) s) (fun s => .value (g' s) s) :=
  fun s s' left => .value (h s s' left) left

theorem alike_bindParams (paired : P.rel i j) (at_ : L.span a b) :
    ∀ (names : List String) (values : List Value),
    Run.Alike L P Eq (bindParams i a names values) (bindParams j b names values)
  | name :: names, v :: values =>
    alike_bind_eq (alike_assign paired name v at_) fun _ => alike_bindParams paired at_ names values
  | [], [] => alike_pure rfl
  | [], _ :: _ => alike_pure rfl
  | _ :: _, [] => alike_pure rfl

/-- What all values of the first run satisfy may be used of the values of both. -/
theorem Alike.settled {m m' : Run α} {p : α → Prop} (h : Run.Alike L P Eq m m')
    (all : ∀ s x t, m s = .value x t → p x) :
    Run.Alike L P (fun x y => x = y ∧ p x) m m' := by
  intro s s' left
  have ended := h left
  cases made : m s with
  | value x t =>
    rw [made] at ended
    generalize m' s' = o' at ended
    cases ended with
    | value same left => exact .value ⟨same, all s x t made⟩ left
  | failure e t =>
    rw [made] at ended
    generalize m' s' = o' at ended
    cases ended with
    | failure alike left => exact .failure alike left
  | outOfFuel =>
    rw [made] at ended
    generalize m' s' = o' at ended
    cases ended with
    | outOfFuel => exact .outOfFuel

end Run

open Run

/-! ## Servers -/

/-- In paired environments the servers do alike tasks alike, and the first one ends loops. -/
structure Server.Alike (L : Likeness) (serve serve' : Server) : Prop where
  ends : serve.EndsLoops
  call : ∀ {P : Pairing} {i j a b}, P.rel i j → L.span a b → ∀ name args,
    Run.Alike L P (Eq (α := Value)) (serve (.call i name args a)) (serve' (.call j name args b))
  loop : ∀ {P : Pairing} {i j c c' body body'}, P.rel i j → c.Alike L c' → bodyAlike L body body' →
    Run.Alike L P (Eq (α := Flow)) (serve (.loop i c body)) (serve' (.loop j c' body'))
  execute : ∀ {P : Pairing} {i j source source'}, P.rel i j → SourcesAlike L source source' →
    Run.Alike L P (Eq (α := Value)) (serve (.execute i source)) (serve' (.execute j source'))
  act : ∀ {P : Pairing} {action action'}, action.Alike L P.named action' →
    Run.Alike L P (Eq (α := Value)) (serve (.act action)) (serve' (.act action'))

/-! ## Expressions and statements -/

mutual

theorem Expr.eval_alike {L : Likeness} {serve serve' : Server}
    (served : Server.Alike L serve serve') {P : Pairing} {i j : ScopeId} (paired : P.rel i j) :
    ∀ (e : Expr) {e' : Expr}, e.Alike L e' →
    Run.Alike L P Eq (e.eval serve i) (e'.eval serve' j)
  | .literal _ _, _, h => by
    obtain ⟨b, rfl, -⟩ := h
    exact alike_pure rfl
  | .variable name _, _, h => by
    obtain ⟨b, rfl, at_⟩ := h
    exact alike_lookup paired name at_
  | .binary op left right _, _, h => by
    obtain ⟨left', right', b, rfl, hl, hr, at_⟩ := h
    refine alike_bind_eq (left.eval_alike served paired hl) fun v => ?_
    refine alike_bind_eq (alike_lift (op.settled?_alike v hl.span_staticType.1)) fun decided => ?_
    cases decided with
    | some w => exact alike_pure rfl
    | none =>
      refine alike_bind_eq (right.eval_alike served paired hr) fun w => ?_
      exact alike_lift (op.apply_alike (OperandInfo.of_alike hl hr at_) v w)
  | .unary op operand _, _, h => by
    obtain ⟨operand', b, rfl, ho, -⟩ := h
    refine alike_bind_eq (operand.eval_alike served paired ho) fun v => ?_
    exact alike_lift (op.apply_alike v ho.span_staticType.1)
  | .call name args _, _, h => by
    obtain ⟨args', b, rfl, ha, at_⟩ := h
    refine alike_bind_eq (evalArgs_alike served paired args ha) fun values => ?_
    exact served.call paired at_ name values
  | .function d _, _, h => by
    obtain ⟨d', b, rfl, hd, -⟩ := h
    refine alike_bind_eq (alike_modify fun s s' left => ?_) fun _ => alike_pure rfl
    rw [← hd.name_eq]
    exact left.install d.name (.scripted hd)

theorem evalArgs_alike {L : Likeness} {serve serve' : Server}
    (served : Server.Alike L serve serve') {P : Pairing} {i j : ScopeId} (paired : P.rel i j) :
    ∀ (args : List Expr) {args' : List Expr}, argsAlike L args args' →
    Run.Alike L P Eq (evalArgs serve i args) (evalArgs serve' j args')
  | [], _, h => by
    cases h
    exact alike_pure rfl
  | e :: rest, _, h => by
    obtain ⟨e', rest', rfl, first, others⟩ := h
    refine alike_bind_eq (e.eval_alike served paired first) fun v => ?_
    refine alike_bind_eq (evalArgs_alike served paired rest others) fun values => ?_
    exact alike_pure rfl

end

section

variable {L : Likeness} {serve serve' : Server} (served : Server.Alike L serve serve')
  {P : Pairing} {i j : ScopeId} (paired : P.rel i j)
include served paired

theorem bindValue_alike (name : String) {e e' : Expr} {a b : Span} (h : e.Alike L e')
    (at_ : L.span a b) :
    Run.Alike L P Eq (bindValue serve i name e a) (bindValue serve' j name e' b) :=
  alike_bind_eq (e.eval_alike served paired h) fun v =>
    alike_bind_eq (alike_assign paired name v at_) fun _ => alike_pure rfl

theorem holds_alike {c c' : Expr} (h : c.Alike L c') :
    Run.Alike L P Eq (holds serve i c) (holds serve' j c') :=
  alike_bind_eq (c.eval_alike served paired h) fun v =>
    alike_lift (v.expectBool_alike h.span_staticType.1)

end

mutual

theorem Stmt.exec_alike {L : Likeness} {serve serve' : Server}
    (served : Server.Alike L serve serve') {P : Pairing} {i j : ScopeId} (paired : P.rel i j) :
    ∀ (s : Stmt) {s' : Stmt}, s.Alike L s' →
    Run.Alike L P Eq (s.exec serve i) (s'.exec serve' j)
  | .variable name _ _, _, h => by
    obtain ⟨value', b, rfl, hv, at_⟩ := h
    exact bindValue_alike served paired name hv at_
  | .assign name _ _, _, h => by
    obtain ⟨value', b, rfl, hv, at_⟩ := h
    exact bindValue_alike served paired name hv at_
  | .branch _ thenBody none _, _, h => by
    obtain ⟨test', thenBody', b, rfl, ht, hb, -⟩ := h
    refine alike_bind_eq (holds_alike served paired ht) fun test => ?_
    cases test with
    | true =>
      refine alike_bind_eq (execBody_alike served paired thenBody hb .null) fun flow => ?_
      exact alike_pure rfl
    | false => exact alike_pure rfl
  | .branch _ thenBody (some elseBody) _, _, h => by
    obtain ⟨test', thenBody', elseBody', b, rfl, ht, hb, he, -⟩ := h
    refine alike_bind_eq (holds_alike served paired ht) fun test => ?_
    cases test with
    | true =>
      refine alike_bind_eq (execBody_alike served paired thenBody hb .null) fun flow => ?_
      exact alike_pure rfl
    | false =>
      refine alike_bind_eq (execBody_alike served paired elseBody he .null) fun flow => ?_
      exact alike_pure rfl
  | .loop _ _ _, _, h => by
    obtain ⟨test', body', b, rfl, ht, hb, -⟩ := h
    exact served.loop paired ht hb
  | .result none _, _, h => by
    obtain ⟨b, rfl, -⟩ := h
    exact alike_pure rfl
  | .result (some value) _, _, h => by
    obtain ⟨value', b, rfl, hv, -⟩ := h
    exact alike_bind_eq (value.eval_alike served paired hv) fun v => alike_pure rfl
  | .jump _ _, _, h => by
    obtain ⟨b, rfl, -⟩ := h
    exact alike_pure rfl
  | .expr value _, _, h => by
    obtain ⟨value', b, rfl, hv, -⟩ := h
    exact alike_bind_eq (value.eval_alike served paired hv) fun v => alike_pure rfl

theorem execBody_alike {L : Likeness} {serve serve' : Server}
    (served : Server.Alike L serve serve') {P : Pairing} {i j : ScopeId} (paired : P.rel i j) :
    ∀ (body : List Stmt) {body' : List Stmt}, bodyAlike L body body' → ∀ last : Value,
    Run.Alike L P Eq (execBody serve i last body) (execBody serve' j last body')
  | [], _, h, _ => by
    cases h
    exact alike_pure rfl
  | s :: rest, _, h, _ => by
    obtain ⟨s', rest', rfl, first, others⟩ := h
    refine alike_bind_eq (s.exec_alike served paired first) fun flow => ?_
    cases flow with
    | normal v => exact execBody_alike served paired rest others v
    | result v => exact alike_pure rfl
    | jump jump => exact alike_pure rfl

end

section

variable {L : Likeness} {serve serve' : Server} (served : Server.Alike L serve serve')
  {P : Pairing} {i j : ScopeId}
include served

/-! ## Programs and actions -/

/-- Statements end alike, and with a jump only if one leaves them. -/
theorem execBody_settled (paired : P.rel i j) {body body' : List Stmt}
    (h : bodyAlike L body body') :
    Run.Alike L P (fun x y => x = y ∧ ∀ jump, x = .jump jump → anyEscapes body = true)
      (execBody serve i .null body) (execBody serve' j .null body') := by
  refine (execBody_alike served paired body h .null).settled fun s flow t ended jump jumped => ?_
  rw [jumped] at ended
  exact anyEscapes_of_jump served.ends body ended

theorem runProgram_alike (paired : P.rel i j) {p p' : Program} (h : p.Alike L p') :
    Run.Alike L P Eq (runProgram serve i p) (runProgram serve' j p') := by
  refine alike_bind (execBody_settled served paired h.statements) ?_
  rintro flow _ ⟨rfl, settled⟩
  refine alike_lift ?_
  cases flow with
  | normal v => exact .ok v
  | result v => exact .ok v
  | jump jump => exact .error (L.diagnostic _ fun _ => h.own (settled jump rfl))

theorem runSource_alike (paired : P.rel i j) {source source' : String}
    (h : SourcesAlike L source source') :
    Run.Alike L P Eq (runSource serve i source) (runSource serve' j source') := by
  unfold runSource
  cases h with
  | programs read read' alike =>
    rw [read, read']
    exact runProgram_alike served paired alike
  | diagnostics failed failed' alike =>
    rw [failed, failed']
    exact alike_fail alike

theorem deliver_alike (line : String) :
    Run.Alike L P Eq (deliver serve line) (deliver serve' line) := by
  intro s s' left
  unfold deliver
  rw [left.handling]
  split
  next => exact .failure (L.diagnostic _ nofun) left
  next =>
    have handled : Run.Alike L P Eq
        (do let _ ← Run.attempt (serve (.act (s.handler line))); pure Value.void)
        (do let _ ← Run.attempt (serve' (.act (s'.handler line))); pure Value.void) :=
      alike_bind (alike_attempt (served.act (left.handler line))) fun _ _ _ => alike_pure rfl
    exact alike_between (left.withHandling true) (fun _ _ h => h.withHandling false) handled

theorem respond_alike {request request' : HostRequest} {code : request.Given → HostAction}
    {code' : request'.Given → HostAction} {S : request.Given → request'.Given → Prop}
    {R : request.Answer → request'.Answer → Prop} (h : request.Alike L P.named request' S R)
    (coded : ∀ given given', S given given' →
      (code given).Alike L P.named (code' given')) :
    Run.Alike L P R (respond serve request code) (respond serve' request' code') := by
  cases h with
  | record alike =>
    exact alike_bind_eq (alike_modify fun _ _ left => left.record alike) fun _ =>
      alike_pure (.ok _)
  | print line => exact alike_attempt (deliver_alike served line)
  | call scope name args =>
    exact alike_attempt (served.call (P.of_named scope) (L.span_refl .zero) name args)
  | execute scope alike => exact alike_attempt (served.execute (P.of_named scope) alike)
  | define scope name v =>
    have bound := alike_assign (P.of_named scope) name v (L.span_refl .zero)
    exact alike_attempt (alike_bind_eq bound fun _ => alike_pure rfl)
  | read scope name at_ => exact alike_attempt (alike_lookup (P.of_named scope) name at_)
  | bindings scope => exact alike_read fun _ _ left => left.bindings (P.of_named scope)
  | functions => exact alike_read fun _ _ left => left.names
  | child scope =>
    exact fun s s' left => .value (left.named_child _ _) (left.child (P.of_named scope))
  | register scope name slots =>
    let f : HostFunction := ⟨name, slots, code⟩
    let f' : HostFunction := ⟨name, slots, code'⟩
    have body args : (f.body args).Alike L P.named (f'.body args) := coded args args rfl
    have registered : Run.Alike L P Eq (Run.register _ f) (Run.register _ f') :=
      alike_register (P.of_named scope) rfl rfl body
    exact alike_attempt (alike_bind_eq registered fun _ => alike_pure rfl)
  | onPrint =>
    intro s s' left
    unfold respond
    dsimp only
    rw [left.handling]
    split
    next => exact .value rfl left
    next => exact .value rfl (left.withHandler fun line => coded line line rfl)

theorem perform_alike (action : HostAction) {action' : HostAction}
    (h : action.Alike L P.named action') :
    Run.Alike L P Eq (perform serve action) (perform serve' action') := by
  induction action generalizing action' with
  | done result =>
    obtain ⟨result', rfl, alike⟩ := h
    exact alike_lift alike
  | ask request code resume _ ih =>
    obtain ⟨request', code', resume', S, R, rfl, asked, coded, answered⟩ := h
    refine alike_bind (respond_alike served asked coded) fun answer answer' same => ?_
    exact ih answer (answered answer answer' same)

/-! ## Tasks -/

theorem callDeclared_alike (paired : P.rel i j) {d d' : Declaration} (h : d.Alike L d')
    (args : List Value) {a b : Span} (at_ : L.span a b) :
    Run.Alike L P Eq (callDeclared serve i d args a) (callDeclared serve' j d' args b) := by
  obtain ⟨name, params, body, hasReturn, span⟩ := d
  obtain ⟨body', span', rfl, inner, own, -⟩ := h
  unfold callDeclared
  dsimp only
  split
  next =>
    refine alike_counted at_ (alike_inFrame paired fun frame frame' framed => ?_)
    refine alike_bind_eq (alike_bindParams framed at_ params args) fun _ => ?_
    refine alike_bind (execBody_settled served framed inner) ?_
    rintro flow _ ⟨rfl, settled⟩
    refine alike_lift ?_
    cases flow with
    | normal v => exact .ok _
    | result v => exact .ok v
    | jump jump => exact .error (L.diagnostic _ fun _ => own (settled jump rfl))
  next => exact alike_fail (L.fault nofun at_)

omit served in
theorem callLibrary_alike (name : String) (args : List Value) {a b : Span} (at_ : L.span a b) :
    Run.Alike L P Eq (callLibrary name args a) (callLibrary name args b) := by
  intro s s' left
  unfold callLibrary
  rw [left.library]
  split
  next => exact .failure (L.fault nofun at_) left
  next => exact alike_lift ((toSingles_alike at_ args).map _) left

theorem callNamed_alike (paired : P.rel i j) (name : String) (args : List Value) {a b : Span}
    (at_ : L.span a b) :
    Run.Alike L P Eq (callNamed serve i name args a) (callNamed serve' j name args b) := by
  intro s s' left
  have found := left.functions name
  unfold callNamed
  generalize s.functions.get? name = callable at found
  generalize s'.functions.get? name = callable' at found
  cases found with
  | none => exact callLibrary_alike name args at_ left
  | some alike =>
    cases alike with
    | native _ _ acts =>
      exact alike_counted at_ (alike_orSpan at_ (perform_alike served _ (acts args))) left
    | scripted alike => exact callDeclared_alike served paired alike args at_ left

theorem runLoop_alike (paired : P.rel i j) {c c' : Expr} {body body' : List Stmt}
    (hc : c.Alike L c') (hb : bodyAlike L body body') :
    Run.Alike L P Eq (runLoop serve i c body) (runLoop serve' j c' body') := by
  have again := served.loop paired hc hb
  refine alike_bind_eq (holds_alike served paired hc) fun test => ?_
  cases test with
  | false => exact alike_pure rfl
  | true =>
    refine alike_bind_eq (execBody_alike served paired body hb .null) fun flow => ?_
    cases flow with
    | normal v => exact again
    | result v => exact alike_pure rfl
    | jump jump =>
      cases jump with
      | breakLoop => exact alike_pure rfl
      | continueLoop => exact again

end

/-- Alike tasks are done alike, whatever the fuel. -/
theorem serve_alike (L : Likeness) (fuel : Nat) : Server.Alike L (serve fuel) (serve fuel) := by
  induction fuel with
  | zero =>
    exact ⟨endsLoops_serve 0, fun _ _ _ _ _ _ _ => .outOfFuel, fun _ _ _ _ _ _ => .outOfFuel,
      fun _ _ _ _ _ => .outOfFuel, fun _ _ _ _ => .outOfFuel⟩
  | succ fuel ih =>
    refine ⟨endsLoops_serve (fuel + 1), ?_, ?_, ?_, ?_⟩
    · exact fun paired at_ name args => callNamed_alike ih paired name args at_
    · exact fun paired hc hb => runLoop_alike ih paired hc hb
    · exact fun paired alike => runSource_alike ih paired alike
    · exact fun alike => perform_alike ih _ alike

end Scriptlet
