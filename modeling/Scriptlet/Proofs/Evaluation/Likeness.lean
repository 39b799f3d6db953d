import Scriptlet.Proofs.Evaluation.Jumps

/-
  What may differ between two runs side by side.
  A likeness says which spans and which failures may stand for one another. Two trees are alike if
  they differ by such spans only, two actions of the host if they do alike things as long as they
  get alike answers. Operators on the same values at alike places end alike
  (`BinaryOp.apply_alike`), and a tree is like itself exactly if no jump leaves a function in it
  that may not (`Expr.alike_self`, `Expr.everywhere_of_alike`).
-/

namespace Scriptlet

/-! ## Failures without their places -/

/-- The diagnostic without its span and position. -/
def Diagnostic.placeless (d : Diagnostic) : Diagnostic :=
  { d with span := none, position := none }

/-- The failure without its span and position. -/
def Failure.placeless : Failure → Failure
  | .diagnostic d => .diagnostic d.placeless
  | .io reason => .io reason

theorem Diagnostic.placeless_locatedIn (d : Diagnostic) (source : String) :
    (d.locatedIn source).placeless = d.placeless := by
  unfold locatedIn
  split <;> rfl

theorem Failure.placeless_orSpan (e : Failure) (span : Span) :
    (e.orSpan span).placeless = e.placeless := by
  cases e with
  | io reason => rfl
  | diagnostic d =>
    unfold orSpan Diagnostic.orSpan
    dsimp only
    split <;> rfl

/-! ## Values and failures -/

/-- What may stand for what in a second run beside a first one. -/
structure Likeness where
  /-- A place in code. -/
  span : Span → Span → Prop
  /-- A failure. -/
  failure : Failure → Failure → Prop
  /-- An entry of the record. -/
  entry : Entry → Entry → Prop
  /-- Whether jumps may leave functions and programs. -/
  strays : Prop
  span_refl : ∀ a, span a a
  diagnostic : ∀ d : Diagnostic, (d.kind = .controlFlow → strays) →
    failure (.diagnostic d) (.diagnostic d)
  orSpan : ∀ {e e' a b}, failure e e' → span a b → failure (e.orSpan a) (e'.orSpan b)

/-- Both results are the same value, or alike failures. -/
inductive Likeness.Results (L : Likeness) {α : Type} : Except Failure α → Except Failure α → Prop
  where
  | ok (a : α) : L.Results (.ok a) (.ok a)
  | error {e e' : Failure} (h : L.failure e e') : L.Results (.error e) (.error e')

namespace Likeness

variable {L : Likeness} {α β : Type} {a b : Span}

theorem fault {f : Fault} (ordinary : f.kind ≠ .controlFlow) (at_ : L.span a b) :
    L.failure (f.atSpan a) (f.atSpan b) :=
  L.orSpan (L.diagnostic _ fun stray => absurd stray ordinary) at_

theorem Results.map (f : α → β) {r r' : Except Failure α} (h : L.Results r r') :
    L.Results (r.map f) (r'.map f) := by
  cases h with
  | ok a => exact .ok (f a)
  | error h => exact .error h

theorem Results.bind {f f' : α → Except Failure β} {r r' : Except Failure α}
    (h : L.Results r r') (next : ∀ a, L.Results (f a) (f' a)) :
    L.Results (r >>= f) (r' >>= f') := by
  cases h with
  | ok a => exact next a
  | error h => exact .error h

end Likeness

/-! ## Operators -/

section

variable {L : Likeness} {a b : Span}

theorem Value.expectNumber_alike (v : Value) (at_ : L.span a b) :
    L.Results (v.expectNumber a) (v.expectNumber b) := by
  unfold expectNumber
  split
  next x => exact .ok x
  next => exact .error (L.fault nofun at_)

theorem Value.expectBool_alike (v : Value) (at_ : L.span a b) :
    L.Results (v.expectBool a) (v.expectBool b) := by
  unfold expectBool
  split
  next x => exact .ok x
  next => exact .error (L.fault nofun at_)

theorem Value.dynamicEq_alike (v w : Value) (at_ : L.span a b) :
    L.Results (v.dynamicEq w a) (v.dynamicEq w b) := by
  unfold dynamicEq
  split
  next => exact .ok _
  next => exact .error (L.fault nofun at_)

theorem Value.staticEq_alike (v w : Value) (at_ : L.span a b) :
    L.Results (v.staticEq w a) (v.staticEq w b) := by
  unfold staticEq
  split
  next => exact .ok _
  next => exact .ok _
  next => exact .ok _
  next => exact v.dynamicEq_alike w at_

theorem Value.remainder_alike (x y : Single) (at_ : L.span a b) :
    L.Results (remainder x y a) (remainder x y b) := by
  unfold remainder
  dsimp only
  split
  next => exact .error (L.fault nofun at_)
  next => exact .ok _

/-- Both operations have operands of the same known types, at alike places. -/
structure OperandInfo.Alike (L : Likeness) (info info' : OperandInfo) : Prop where
  left : L.span info.left info'.left
  right : L.span info.right info'.right
  whole : L.span info.whole info'.whole
  typed : info.typed = info'.typed

theorem BinaryOp.settled?_alike (op : BinaryOp) (v : Value) (at_ : L.span a b) :
    L.Results (op.settled? v a) (op.settled? v b) := by
  unfold settled?
  split
  next => exact (v.expectBool_alike at_).map _
  next => exact (v.expectBool_alike at_).map _
  next => exact .ok none

variable {info info' : OperandInfo}

theorem BinaryOp.numeric_alike {f f' : Single → Single → Except Failure Single}
    (h : ∀ x y, L.Results (f x y) (f' x y)) (alike : info.Alike L info') (v w : Value) :
    L.Results (numeric f info v w) (numeric f' info' v w) :=
  (v.expectNumber_alike alike.left).bind fun x => (w.expectNumber_alike alike.right).bind fun y =>
    (h x y).bind fun z => .ok (Value.number z)

theorem BinaryOp.equality_alike (alike : info.Alike L info') (v w : Value) :
    L.Results (equality info v w) (equality info' v w) := by
  unfold equality
  rw [alike.typed]
  split
  next => exact v.staticEq_alike w alike.whole
  next => exact v.dynamicEq_alike w alike.whole

/-- An operation on the same values ends alike. -/
theorem BinaryOp.apply_alike (op : BinaryOp) (alike : info.Alike L info') (v w : Value) :
    L.Results (op.apply info v w) (op.apply info' v w) := by
  cases op with
  | add => exact numeric_alike (fun _ _ => .ok _) alike v w
  | sub => exact numeric_alike (fun _ _ => .ok _) alike v w
  | mul => exact numeric_alike (fun _ _ => .ok _) alike v w
  | div => exact numeric_alike (fun _ _ => .ok _) alike v w
  | mod => exact numeric_alike (fun x y => Value.remainder_alike x y alike.whole) alike v w
  | equal => exact (equality_alike alike v w).map _
  | notEqual => exact (equality_alike alike v w).map _
  | less => exact .ok _
  | lessEqual => exact .ok _
  | greater => exact .ok _
  | greaterEqual => exact .ok _
  | and => exact (w.expectBool_alike alike.right).map _
  | or => exact (w.expectBool_alike alike.right).map _

theorem UnaryOp.apply_alike (op : UnaryOp) (v : Value) (at_ : L.span a b) :
    L.Results (op.apply v a) (op.apply v b) := by
  cases op with
  | negate => exact (v.expectNumber_alike at_).map _
  | not => exact (v.expectBool_alike at_).map _

theorem Value.convert_alike (type : ParamType) (v : Value) :
    L.Results (v.convert type) (v.convert type) := by
  unfold convert
  cases v.convert? type with
  | some x => exact .ok x
  | none => exact .error (L.diagnostic _ nofun)

theorem toSingles_alike (at_ : L.span a b) : ∀ values : List Value,
    L.Results (toSingles a values) (toSingles b values)
  | [] => .ok []
  | v :: values => by
    have first := v.convert_alike (L := L) .single
    unfold toSingles
    cases converted : v.convert .single with
    | error e =>
      rw [converted] at first
      cases first with
      | error h => exact .error (L.orSpan h at_)
    | ok x => exact (toSingles_alike at_ values).map _

end

/-! ## Trees -/

mutual

/-- The second expression is the first one with alike spans. -/
def Expr.Alike (L : Likeness) : Expr → Expr → Prop
  | .literal value a, e => ∃ b, e = .literal value b ∧ L.span a b
  | .variable name a, e => ∃ b, e = .variable name b ∧ L.span a b
  | .binary op left right a, e => ∃ left' right' b, e = .binary op left' right' b ∧
    left.Alike L left' ∧ right.Alike L right' ∧ L.span a b
  | .unary op operand a, e => ∃ operand' b, e = .unary op operand' b ∧
    operand.Alike L operand' ∧ L.span a b
  | .call name args a, e => ∃ args' b, e = .call name args' b ∧ argsAlike L args args' ∧ L.span a b
  | .function d a, e => ∃ d' b, e = .function d' b ∧ d.Alike L d' ∧ L.span a b
termination_by structural e => e

/-- The second arguments are the first ones with alike spans. -/
def argsAlike (L : Likeness) : List Expr → List Expr → Prop
  | [], es => es = []
  | e :: rest, es => ∃ e' rest', es = e' :: rest' ∧ e.Alike L e' ∧ argsAlike L rest rest'
termination_by structural es => es

/-- The second statement is the first one with alike spans. -/
def Stmt.Alike (L : Likeness) : Stmt → Stmt → Prop
  | .variable name value a, s => ∃ value' b, s = .variable name value' b ∧
    value.Alike L value' ∧ L.span a b
  | .assign name value a, s => ∃ value' b, s = .assign name value' b ∧
    value.Alike L value' ∧ L.span a b
  | .branch test thenBody none a, s => ∃ test' thenBody' b,
    s = .branch test' thenBody' none b ∧ test.Alike L test' ∧ bodyAlike L thenBody thenBody' ∧
      L.span a b
  | .branch test thenBody (some elseBody) a, s => ∃ test' thenBody' elseBody' b,
    s = .branch test' thenBody' (some elseBody') b ∧ test.Alike L test' ∧
      bodyAlike L thenBody thenBody' ∧ bodyAlike L elseBody elseBody' ∧ L.span a b
  | .loop test body a, s => ∃ test' body' b, s = .loop test' body' b ∧ test.Alike L test' ∧
    bodyAlike L body body' ∧ L.span a b
  | .result none a, s => ∃ b, s = .result none b ∧ L.span a b
  | .result (some value) a, s => ∃ value' b, s = .result (some value') b ∧
    value.Alike L value' ∧ L.span a b
  | .jump jump a, s => ∃ b, s = .jump jump b ∧ L.span a b
  | .expr value a, s => ∃ value' b, s = .expr value' b ∧ value.Alike L value' ∧ L.span a b
termination_by structural s => s

/-- The second statements are the first ones with alike spans. -/
def bodyAlike (L : Likeness) : List Stmt → List Stmt → Prop
  | [], ss => ss = []
  | s :: rest, ss => ∃ s' rest', ss = s' :: rest' ∧ s.Alike L s' ∧ bodyAlike L rest rest'
termination_by structural ss => ss

/-- The second declaration is the first one with alike spans, and no jump leaves it unless the
likeness allows that. -/
def Declaration.Alike (L : Likeness) : Declaration → Declaration → Prop
  | ⟨name, params, body, hasReturn, a⟩, d => ∃ body' b, d = ⟨name, params, body', hasReturn, b⟩ ∧
    bodyAlike L body body' ∧ (anyEscapes body = true → L.strays) ∧ L.span a b
termination_by structural d => d

end

/-- The second program is the first one with alike spans, and no jump leaves it unless the likeness
allows that. -/
structure Program.Alike (L : Likeness) (p p' : Program) : Prop where
  statements : bodyAlike L p.statements p'.statements
  own : anyEscapes p.statements = true → L.strays

/-- Both sources are alike programs, or are wrong in alike ways. -/
inductive SourcesAlike (L : Likeness) (source source' : String) : Prop where
  | programs {p p' : Program} (read : Program.ofSource source = .ok p)
      (read' : Program.ofSource source' = .ok p') (alike : p.Alike L p')
  | diagnostics {d d' : Diagnostic} (failed : Program.ofSource source = .error d)
      (failed' : Program.ofSource source' = .error d')
      (alike : L.failure (.diagnostic d) (.diagnostic d'))

theorem Expr.Alike.span_staticType {L : Likeness} {e e' : Expr} (h : e.Alike L e') :
    L.span e.span e'.span ∧ e.staticType = e'.staticType := by
  cases e with
  | literal value a =>
    obtain ⟨b, rfl, at_⟩ := h
    exact ⟨at_, rfl⟩
  | «variable» name a =>
    obtain ⟨b, rfl, at_⟩ := h
    exact ⟨at_, rfl⟩
  | binary op left right a =>
    obtain ⟨left', right', b, rfl, -, -, at_⟩ := h
    exact ⟨at_, rfl⟩
  | unary op operand a =>
    obtain ⟨operand', b, rfl, -, at_⟩ := h
    exact ⟨at_, rfl⟩
  | call name args a =>
    obtain ⟨args', b, rfl, -, at_⟩ := h
    exact ⟨at_, rfl⟩
  | function d a =>
    obtain ⟨d', b, rfl, -, at_⟩ := h
    exact ⟨at_, rfl⟩

theorem Declaration.Alike.name_eq {L : Likeness} : ∀ {d d' : Declaration}, d.Alike L d' →
    d.name = d'.name
  | ⟨_, _, _, _, _⟩, _, h => by
    obtain ⟨_, _, rfl, -⟩ := h
    rfl

theorem OperandInfo.of_alike {L : Likeness} {left left' right right' : Expr} {a b : Span}
    (hl : left.Alike L left') (hr : right.Alike L right') (at_ : L.span a b) :
    (OperandInfo.of left right a).Alike L (OperandInfo.of left' right' b) where
  left := hl.span_staticType.1
  right := hr.span_staticType.1
  whole := at_
  typed := by
    unfold OperandInfo.of
    rw [hl.span_staticType.2, hr.span_staticType.2]

/-! ## Trees that are like themselves -/

/-- No jump leaves a declared function unless the likeness allows that. -/
def Likeness.code (L : Likeness) : Condition where
  expr
    | .function d _ => anyEscapes d.body = true → L.strays
    | _ => True
  stmt _ := True

mutual

theorem Expr.alike_self {L : Likeness} : ∀ e : Expr, e.Everywhere L.code → e.Alike L e
  | .literal _ a, _ => ⟨a, rfl, L.span_refl a⟩
  | .variable _ a, _ => ⟨a, rfl, L.span_refl a⟩
  | .binary _ left right a, h =>
    ⟨left, right, a, rfl, left.alike_self h.2.1, right.alike_self h.2.2, L.span_refl a⟩
  | .unary _ operand a, h => ⟨operand, a, rfl, operand.alike_self h.2, L.span_refl a⟩
  | .call _ args a, h => ⟨args, a, rfl, argsAlike_self args h.2, L.span_refl a⟩
  | .function ⟨_, _, body, _, b⟩ a, h =>
    ⟨_, a, rfl, ⟨body, b, rfl, bodyAlike_self body h.2, h.1, L.span_refl b⟩, L.span_refl a⟩

theorem argsAlike_self {L : Likeness} :
    ∀ args : List Expr, argsEverywhere L.code args → argsAlike L args args
  | [], _ => rfl
  | e :: rest, h => ⟨e, rest, rfl, e.alike_self h.1, argsAlike_self rest h.2⟩

theorem Stmt.alike_self {L : Likeness} : ∀ s : Stmt, s.Everywhere L.code → s.Alike L s
  | .variable _ value a, h => ⟨value, a, rfl, value.alike_self h.2, L.span_refl a⟩
  | .assign _ value a, h => ⟨value, a, rfl, value.alike_self h.2, L.span_refl a⟩
  | .branch test thenBody none a, h => ⟨test, thenBody, a, rfl, test.alike_self h.2.1,
    bodyAlike_self thenBody h.2.2, L.span_refl a⟩
  | .branch test thenBody (some elseBody) a, h => ⟨test, thenBody, elseBody, a, rfl,
    test.alike_self h.2.1, bodyAlike_self thenBody h.2.2.1, bodyAlike_self elseBody h.2.2.2,
    L.span_refl a⟩
  | .loop test body a, h =>
    ⟨test, body, a, rfl, test.alike_self h.2.1, bodyAlike_self body h.2.2, L.span_refl a⟩
  | .result none a, _ => ⟨a, rfl, L.span_refl a⟩
  | .result (some value) a, h => ⟨value, a, rfl, value.alike_self h.2, L.span_refl a⟩
  | .jump _ a, _ => ⟨a, rfl, L.span_refl a⟩
  | .expr value a, h => ⟨value, a, rfl, value.alike_self h.2, L.span_refl a⟩

theorem bodyAlike_self {L : Likeness} :
    ∀ body : List Stmt, bodyEverywhere L.code body → bodyAlike L body body
  | [], _ => rfl
  | s :: rest, h => ⟨s, rest, rfl, s.alike_self h.1, bodyAlike_self rest h.2⟩

end

theorem Declaration.alike_self {L : Likeness} : ∀ d : Declaration, d.Everywhere L.code →
    (anyEscapes d.body = true → L.strays) → d.Alike L d
  | ⟨_, _, body, _, a⟩, h, own => ⟨body, a, rfl, bodyAlike_self body h, own, L.span_refl a⟩

mutual

theorem Expr.everywhere_of_alike {L : Likeness} :
    ∀ {e e' : Expr}, e.Alike L e' → e.Everywhere L.code
  | .literal _ _, _, _ => trivial
  | .variable _ _, _, _ => trivial
  | .binary _ left right _, _, h => by
    obtain ⟨_, _, _, -, hl, hr, -⟩ := h
    exact ⟨trivial, Expr.everywhere_of_alike hl, Expr.everywhere_of_alike hr⟩
  | .unary _ operand _, _, h => by
    obtain ⟨_, _, -, operand, -⟩ := h
    exact ⟨trivial, Expr.everywhere_of_alike operand⟩
  | .call _ args _, _, h => by
    obtain ⟨_, _, -, args, -⟩ := h
    exact ⟨trivial, argsEverywhere_of_alike args⟩
  | .function ⟨_, _, body, _, _⟩ _, _, h => by
    obtain ⟨_, _, -, ⟨_, _, -, inner, own, -⟩, -⟩ := h
    exact ⟨own, bodyEverywhere_of_alike inner⟩

theorem argsEverywhere_of_alike {L : Likeness} :
    ∀ {args args' : List Expr}, argsAlike L args args' → argsEverywhere L.code args
  | [], _, _ => trivial
  | e :: rest, _, h => by
    obtain ⟨_, _, -, first, others⟩ := h
    exact ⟨Expr.everywhere_of_alike first, argsEverywhere_of_alike others⟩

theorem Stmt.everywhere_of_alike {L : Likeness} :
    ∀ {s s' : Stmt}, s.Alike L s' → s.Everywhere L.code
  | .variable _ _ _, _, h => by
    obtain ⟨_, _, -, value, -⟩ := h
    exact ⟨trivial, Expr.everywhere_of_alike value⟩
  | .assign _ _ _, _, h => by
    obtain ⟨_, _, -, value, -⟩ := h
    exact ⟨trivial, Expr.everywhere_of_alike value⟩
  | .branch _ _ none _, _, h => by
    obtain ⟨_, _, _, -, test, thenBody, -⟩ := h
    exact ⟨trivial, Expr.everywhere_of_alike test, bodyEverywhere_of_alike thenBody⟩
  | .branch _ _ (some _) _, _, h => by
    obtain ⟨_, _, _, _, -, test, thenBody, elseBody, -⟩ := h
    exact ⟨trivial, Expr.everywhere_of_alike test, bodyEverywhere_of_alike thenBody,
      bodyEverywhere_of_alike elseBody⟩
  | .loop _ _ _, _, h => by
    obtain ⟨_, _, _, -, test, body, -⟩ := h
    exact ⟨trivial, Expr.everywhere_of_alike test, bodyEverywhere_of_alike body⟩
  | .result none _, _, _ => trivial
  | .result (some _) _, _, h => by
    obtain ⟨_, _, -, value, -⟩ := h
    exact ⟨trivial, Expr.everywhere_of_alike value⟩
  | .jump _ _, _, _ => trivial
  | .expr _ _, _, h => by
    obtain ⟨_, _, -, value, -⟩ := h
    exact ⟨trivial, Expr.everywhere_of_alike value⟩

/-- Where there are trees alike, no jump leaves a declared function unless it may. -/
theorem bodyEverywhere_of_alike {L : Likeness} :
    ∀ {body body' : List Stmt}, bodyAlike L body body' → bodyEverywhere L.code body
  | [], _, _ => trivial
  | s :: rest, _, h => by
    obtain ⟨_, _, -, first, others⟩ := h
    exact ⟨Stmt.everywhere_of_alike first, bodyEverywhere_of_alike others⟩

end

theorem Diagnostic.kind_locatedIn (d : Diagnostic) (source : String) :
    (d.locatedIn source).kind = d.kind := by
  show (d.locatedIn source).placeless.kind = d.placeless.kind
  rw [d.placeless_locatedIn]

/-- What is wrong with a source is no stray jump. -/
theorem Program.kind_of_ofSource {source : String} {d : Diagnostic}
    (h : ofSource source = .error d) : d.kind ≠ .controlFlow := by
  unfold ofSource at h
  cases read : parse source with
  | ok p =>
    rw [read] at h
    cases h
  | error fault =>
    rw [read] at h
    cases h
    cases fault with
    | lexical fault =>
      show (fault.diagnostic.locatedIn source).kind ≠ _
      rw [Diagnostic.kind_locatedIn]
      exact nofun
    | grammatical fault =>
      show (fault.diagnostic.locatedIn source).kind ≠ _
      rw [Diagnostic.kind_locatedIn]
      cases fault <;> exact nofun

/-- A source is like itself if it is no program, or one that is like itself. -/
theorem sourcesAlike_self {L : Likeness} {source : String}
    (h : ∀ p, Program.ofSource source = .ok p → p.Alike L p) : SourcesAlike L source source := by
  cases read : Program.ofSource source with
  | ok p => exact .programs read read (h p read)
  | error d =>
    exact .diagnostics read read
      (L.diagnostic d fun stray => absurd stray (Program.kind_of_ofSource read))

/-! ## The host -/

/-- Both requests ask for the same, in environments that are named for one another. `S` relates what
the code is given that comes with them, and `R` what they are answered with. -/
inductive HostRequest.Alike (L : Likeness) (named : ScopeId → ScopeId → Prop) :
    (request request' : HostRequest) → (S : request.Given → request'.Given → Prop) →
    (R : request.Answer → request'.Answer → Prop) → Prop where
  | record {entry entry' : Entry} (h : L.entry entry entry') :
      Alike L named (.record entry) (.record entry') Eq L.Results
  | print (line : String) : Alike L named (.print line) (.print line) Eq L.Results
  | call {i j : ScopeId} (scope : named i j) (name : String) (args : List Value) :
      Alike L named (.call i name args) (.call j name args) Eq L.Results
  | execute {i j : ScopeId} (scope : named i j) {source source' : String}
      (h : SourcesAlike L source source') :
      Alike L named (.execute i source) (.execute j source') Eq L.Results
  | define {i j : ScopeId} (scope : named i j) (name : String) (v : Value) :
      Alike L named (.define i name v) (.define j name v) Eq L.Results
  | read {i j : ScopeId} (scope : named i j) (name : String) {a b : Span} (at_ : L.span a b) :
      Alike L named (.read i name a) (.read j name b) Eq L.Results
  | bindings {i j : ScopeId} (scope : named i j) :
      Alike L named (.bindings i) (.bindings j) Eq Eq
  | functions : Alike L named .functions .functions Eq Eq
  | child {i j : ScopeId} (scope : named i j) : Alike L named (.child i) (.child j) Eq named
  | register {i j : ScopeId} (scope : named i j) (name : String) (slots : Option (List Slot)) :
      Alike L named (.register i name slots) (.register j name slots) Eq L.Results
  | onPrint : Alike L named .onPrint .onPrint Eq Eq

/-- Both actions end alike and ask for the same, as long as they get alike answers. -/
def HostAction.Alike (L : Likeness) (named : ScopeId → ScopeId → Prop) :
    HostAction → HostAction → Prop
  | .done result, action => ∃ result', action = .done result' ∧ L.Results result result'
  | .ask request code resume, action => ∃ request' code' resume' S R,
    action = .ask request' code' resume' ∧ request.Alike L named request' S R ∧
    (∀ given given', S given given' → (code given).Alike L named (code' given')) ∧
    ∀ answer answer', R answer answer' → (resume answer).Alike L named (resume' answer')

/-- Functions with alike bodies do alike things. -/
theorem HostFunction.invoke_alike {L : Likeness} {named : ScopeId → ScopeId → Prop}
    {f f' : HostFunction} (name : f.name = f'.name) (slots : f.slots = f'.slots)
    (h : ∀ args, (f.body args).Alike L named (f'.body args)) (args : List Value) :
    (f.invoke args).Alike L named (f'.invoke args) := by
  unfold invoke arity
  rw [name, slots]
  split
  · split
    · exact h args
    · exact ⟨_, rfl, .error (L.diagnostic _ nofun)⟩
  · exact h args

/-- Both stand for functions that are alike. -/
inductive Callable.Alike (L : Likeness) (named : ScopeId → ScopeId → Prop) :
    Callable → Callable → Prop where
  | native {f f' : HostFunction} (name : f.name = f'.name) (slots : f.slots = f'.slots)
      (h : ∀ args, (f.invoke args).Alike L named (f'.invoke args)) :
      Alike L named (.native f) (.native f')
  | scripted {d d' : Declaration} (h : d.Alike L d') : Alike L named (.scripted d) (.scripted d')

end Scriptlet
