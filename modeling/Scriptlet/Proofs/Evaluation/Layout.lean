import Scriptlet.Interpreter
import Scriptlet.Proofs.Evaluation.Lockstep
import Scriptlet.Proofs.Grammar.Spans
import Scriptlet.Proofs.Lexing.Composition

/-
  Layout carries no meaning.
  Two sources with the same tokens, spans aside, are the same program but for its spans, or are
  wrong in the same way elsewhere (`Program.readPlaceless_eq`). Executed in paired environments of
  states that are the same but for the spans of declared functions, they end with the same value or
  the same failure elsewhere, in such states again. Main statement: `layout_unobserved`.
-/

namespace Scriptlet

/-! ## The same but for places -/

/-- The entry without the span and position of a failure. -/
def Entry.placeless : Entry → Entry
  | .outcome (.error e) => .outcome (.error e.placeless)
  | entry => entry

/-- The same run, with code and failures in other places. -/
def layout : Likeness where
  span _ _ := True
  failure e e' := e.placeless = e'.placeless
  entry entry entry' := entry.placeless = entry'.placeless
  strays := True
  span_refl _ := trivial
  diagnostic _ _ := rfl
  orSpan alike _ := by rw [Failure.placeless_orSpan, Failure.placeless_orSpan, alike]

/-! ## Trees with the same nodes -/

mutual

/-- The expression without its spans is like it. -/
theorem Expr.unspanned_alike : ∀ e : Expr, e.unspanned.Alike layout e
  | .literal _ a => ⟨a, rfl, trivial⟩
  | .variable _ a => ⟨a, rfl, trivial⟩
  | .binary _ left right a =>
    ⟨left, right, a, rfl, left.unspanned_alike, right.unspanned_alike, trivial⟩
  | .unary _ operand a => ⟨operand, a, rfl, operand.unspanned_alike, trivial⟩
  | .call _ args a => ⟨args, a, rfl, unspannedArgs_alike args, trivial⟩
  | .function ⟨_, _, body, _, b⟩ a =>
    ⟨_, a, rfl, ⟨body, b, rfl, unspannedBody_alike body, fun _ => trivial, trivial⟩, trivial⟩

theorem unspannedArgs_alike : ∀ args : List Expr, argsAlike layout (unspannedArgs args) args
  | [] => rfl
  | e :: rest => ⟨e, rest, rfl, e.unspanned_alike, unspannedArgs_alike rest⟩

/-- The statement without its spans is like it. -/
theorem Stmt.unspanned_alike : ∀ s : Stmt, s.unspanned.Alike layout s
  | .variable _ value a => ⟨value, a, rfl, value.unspanned_alike, trivial⟩
  | .assign _ value a => ⟨value, a, rfl, value.unspanned_alike, trivial⟩
  | .branch test thenBody none a =>
    ⟨test, thenBody, a, rfl, test.unspanned_alike, unspannedBody_alike thenBody, trivial⟩
  | .branch test thenBody (some elseBody) a => ⟨test, thenBody, elseBody, a, rfl,
    test.unspanned_alike, unspannedBody_alike thenBody, unspannedBody_alike elseBody, trivial⟩
  | .loop test body a =>
    ⟨test, body, a, rfl, test.unspanned_alike, unspannedBody_alike body, trivial⟩
  | .result none a => ⟨a, rfl, trivial⟩
  | .result (some value) a => ⟨value, a, rfl, value.unspanned_alike, trivial⟩
  | .jump _ a => ⟨a, rfl, trivial⟩
  | .expr value a => ⟨value, a, rfl, value.unspanned_alike, trivial⟩

theorem unspannedBody_alike : ∀ body : List Stmt, bodyAlike layout (unspannedBody body) body
  | [] => rfl
  | s :: rest => ⟨s, rest, rfl, s.unspanned_alike, unspannedBody_alike rest⟩

end

-- by induction on the trees that lose their spans: what they are like has the same nodes
mutual

/-- What the expression without its spans is like, the expression is like. -/
theorem Expr.alike_of_unspanned :
    ∀ (e : Expr) {e' : Expr}, e.unspanned.Alike layout e' → e.Alike layout e'
  | .literal _ _, _, h => h
  | .variable _ _, _, h => h
  | .binary _ left right _, _, h => by
    obtain ⟨left', right', b, rfl, hl, hr, -⟩ := h
    exact ⟨left', right', b, rfl, left.alike_of_unspanned hl, right.alike_of_unspanned hr, trivial⟩
  | .unary _ operand _, _, h => by
    obtain ⟨operand', b, rfl, ho, -⟩ := h
    exact ⟨operand', b, rfl, operand.alike_of_unspanned ho, trivial⟩
  | .call _ args _, _, h => by
    obtain ⟨args', b, rfl, ha, -⟩ := h
    exact ⟨args', b, rfl, argsAlike_of_unspanned args ha, trivial⟩
  | .function ⟨_, _, body, _, _⟩ _, _, h => by
    obtain ⟨_, b, rfl, ⟨body', b', rfl, hb, -⟩, -⟩ := h
    exact ⟨_, b, rfl, ⟨body', b', rfl, bodyAlike_of_unspanned body hb, fun _ => trivial, trivial⟩,
      trivial⟩

theorem argsAlike_of_unspanned : ∀ (args : List Expr) {args' : List Expr},
    argsAlike layout (unspannedArgs args) args' → argsAlike layout args args'
  | [], _, h => h
  | e :: rest, _, h => by
    obtain ⟨e', rest', rfl, first, others⟩ := h
    exact ⟨e', rest', rfl, e.alike_of_unspanned first, argsAlike_of_unspanned rest others⟩

/-- What the statement without its spans is like, the statement is like. -/
theorem Stmt.alike_of_unspanned :
    ∀ (s : Stmt) {s' : Stmt}, s.unspanned.Alike layout s' → s.Alike layout s'
  | .variable _ value _, _, h => by
    obtain ⟨value', b, rfl, hv, -⟩ := h
    exact ⟨value', b, rfl, value.alike_of_unspanned hv, trivial⟩
  | .assign _ value _, _, h => by
    obtain ⟨value', b, rfl, hv, -⟩ := h
    exact ⟨value', b, rfl, value.alike_of_unspanned hv, trivial⟩
  | .branch test thenBody none _, _, h => by
    obtain ⟨test', thenBody', b, rfl, ht, hb, -⟩ := h
    exact ⟨test', thenBody', b, rfl, test.alike_of_unspanned ht,
      bodyAlike_of_unspanned thenBody hb, trivial⟩
  | .branch test thenBody (some elseBody) _, _, h => by
    obtain ⟨test', thenBody', elseBody', b, rfl, ht, hb, he, -⟩ := h
    exact ⟨test', thenBody', elseBody', b, rfl, test.alike_of_unspanned ht,
      bodyAlike_of_unspanned thenBody hb, bodyAlike_of_unspanned elseBody he, trivial⟩
  | .loop test body _, _, h => by
    obtain ⟨test', body', b, rfl, ht, hb, -⟩ := h
    exact ⟨test', body', b, rfl, test.alike_of_unspanned ht, bodyAlike_of_unspanned body hb,
      trivial⟩
  | .result none _, _, h => h
  | .result (some value) _, _, h => by
    obtain ⟨value', b, rfl, hv, -⟩ := h
    exact ⟨value', b, rfl, value.alike_of_unspanned hv, trivial⟩
  | .jump _ _, _, h => h
  | .expr value _, _, h => by
    obtain ⟨value', b, rfl, hv, -⟩ := h
    exact ⟨value', b, rfl, value.alike_of_unspanned hv, trivial⟩

theorem bodyAlike_of_unspanned : ∀ (body : List Stmt) {body' : List Stmt},
    bodyAlike layout (unspannedBody body) body' → bodyAlike layout body body'
  | [], _, h => h
  | s :: rest, _, h => by
    obtain ⟨s', rest', rfl, first, others⟩ := h
    exact ⟨s', rest', rfl, s.alike_of_unspanned first, bodyAlike_of_unspanned rest others⟩

end

/-- Programs that are the same without their spans are alike. -/
theorem Program.alike_of_unspanned {p p' : Program} (h : p.unspanned = p'.unspanned) :
    p.Alike layout p' where
  statements := by
    have same : unspannedBody p.statements = unspannedBody p'.statements :=
      congrArg Program.statements h
    exact bodyAlike_of_unspanned _ (same ▸ unspannedBody_alike p'.statements)
  own _ := trivial

/-! ## Sources with the same tokens -/

/-- What a source is read as, but for the places of everything. -/
def Program.readPlaceless (source : String) : Except Diagnostic Program :=
  match ofSource source with
  | .ok p => .ok p.unspanned
  | .error d => .error d.placeless

theorem ParseFault.placeless_diagnostic (fault : ParseFault) :
    fault.diagnostic.placeless = fault.unspanned.diagnostic.placeless := by
  cases fault <;> rfl

/-- What a source is read as depends on its tokens without their spans. -/
theorem Program.readPlaceless_eq {source : String} {ts : List Token}
    (tokens : Token.tokenize source = .ok ts) : readPlaceless source =
      match Grammar.readAll .program (ts.map Token.unspanned) with
      | .ok (statements, _) => .ok ⟨statements⟩
      | .error fault => .error fault.diagnostic.placeless := by
  have blind : Grammar.readAll .program (ts.map Token.unspanned) =
      Grammar.erased unspannedBody (Grammar.readAll .program ts) :=
    Grammar.readAll_unspanned .program ts
  have made : ofTokens ts = (Grammar.readAll .program ts).map fun result => ⟨result.1⟩ := rfl
  unfold readPlaceless ofSource parse
  rw [blind, tokens]
  dsimp only
  rw [made]
  cases Grammar.readAll .program ts with
  | ok result => rfl
  | error fault =>
    show Except.error (fault.diagnostic.locatedIn source).placeless =
      Except.error fault.unspanned.diagnostic.placeless
    rw [Diagnostic.placeless_locatedIn, fault.placeless_diagnostic]

theorem sourcesAlike_of_readPlaceless {source source' : String}
    (h : Program.readPlaceless source = Program.readPlaceless source') :
    SourcesAlike layout source source' := by
  unfold Program.readPlaceless at h
  cases read : Program.ofSource source with
  | ok p =>
    cases read' : Program.ofSource source' with
    | ok p' =>
      rw [read, read'] at h
      exact .programs read read' (Program.alike_of_unspanned (Except.ok.inj h))
    | error d' =>
      rw [read, read'] at h
      cases h
  | error d =>
    cases read' : Program.ofSource source' with
    | ok p' =>
      rw [read, read'] at h
      cases h
    | error d' =>
      rw [read, read'] at h
      exact .diagnostics read read' (congrArg Failure.diagnostic (Except.error.inj h))

/-- Executing a source is executing the program that its tokens are read as. -/
theorem execute_of_tokens {source : String} {ts : List Token} {p : Program}
    (tokens : Token.tokenize source = .ok ts) (read : Program.ofTokens ts = .ok p) (fuel : Nat)
    (scope : ScopeId) :
    Interpreter.execute fuel scope source = Interpreter.executeProgram fuel scope p := by
  unfold Interpreter.execute runSource Program.ofSource Program.parse
  rw [tokens]
  dsimp only
  rw [read]
  rfl

/-- Two sources with the same tokens, spans aside, are read as the same program or found wrong in
the same way, places aside; and executed in paired environments of states that are the same but for
places, whose hosts take no notice of these, they end in the same way, and in such states. -/
theorem layout_unobserved {source source' : String} {ts ts' : List Token}
    (tokens : Token.tokenize source = .ok ts) (tokens' : Token.tokenize source' = .ok ts')
    (same : ts.map Token.unspanned = ts'.map Token.unspanned) :
    Program.readPlaceless source = Program.readPlaceless source' ∧
      ∀ (P : Pairing) (s s' : State) (i j : ScopeId) (fuel : Nat), s.Alike layout P s' →
        P.rel i j → (Interpreter.execute fuel i source s).Alike layout P Eq
          (Interpreter.execute fuel j source' s') := by
  have read : Program.readPlaceless source = Program.readPlaceless source' := by
    rw [Program.readPlaceless_eq tokens, Program.readPlaceless_eq tokens', same]
  refine ⟨read, fun P s s' i j fuel alike paired => ?_⟩
  exact runSource_alike (serve_alike layout fuel) paired (sourcesAlike_of_readPlaceless read) alike

/-- The same function was declared without and with blanks; the negation of what it yields, too
without and with blanks, fails in the same way in other places. -/
theorem layout_unobserved_blanks : ∃ (s s' t t' : State) (e e' : Failure),
    s.function? "f" = some (.scripted ⟨"f", [], [], true, ⟨0, 5⟩⟩) ∧
    s'.function? "f" = some (.scripted ⟨"f", [], [], true, ⟨0, 9⟩⟩) ∧
    Interpreter.execute 9 State.root "-f()" s = .failure e t ∧
    Interpreter.execute 9 State.root "- f ( )" s' = .failure e' t' ∧
    e ≠ e' ∧ e.placeless = e'.placeless ∧
    t.Alike layout (.identity 0) t' := by
  let f (span : Span) : Declaration := ⟨"f", [], [], true, span⟩
  have declared : (f ⟨0, 5⟩).Alike layout (f ⟨0, 9⟩) := ⟨[], ⟨0, 9⟩, rfl, rfl, nofun, trivial⟩
  have alike := (State.alike_initial {} fun _ => rfl).install "f" (.scripted declared)
  have close : Token.tokenize "-f()" = .ok [⟨.minus, "-", ⟨0, 1⟩⟩, ⟨.identifier, "f", ⟨1, 2⟩⟩,
      ⟨.leftParen, "(", ⟨2, 3⟩⟩, ⟨.rightParen, ")", ⟨3, 4⟩⟩, Token.atEnd 4] :=
    Token.ok_of_toOption (by decide +kernel)
  have wide : Token.tokenize "- f ( )" = .ok [⟨.minus, "-", ⟨0, 1⟩⟩, ⟨.identifier, "f", ⟨2, 3⟩⟩,
      ⟨.leftParen, "(", ⟨4, 5⟩⟩, ⟨.rightParen, ")", ⟨6, 7⟩⟩, Token.atEnd 7] :=
    Token.ok_of_toOption (by decide +kernel)
  have ended := (layout_unobserved close wide rfl).2 _ _ _ State.root State.root 9 alike rfl
  have ran := congrFun (execute_of_tokens close rfl 9 State.root)
    (State.install (.initial {}) "f" (.scripted (f ⟨0, 5⟩)))
  have ran' := congrFun (execute_of_tokens wide rfl 9 State.root)
    (State.install (.initial {}) "f" (.scripted (f ⟨0, 9⟩)))
  have stopped : _ = Outcome.failure _ _ := ran.trans rfl
  have stopped' : _ = Outcome.failure _ _ := ran'.trans rfl
  rw [stopped, stopped'] at ended
  cases ended with
  | failure same left =>
    exact ⟨_, _, _, _, _, _, rfl, rfl, stopped, stopped', nofun, same, left⟩

end Scriptlet
