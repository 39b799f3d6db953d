import Scriptlet.Proofs.Grammar.Everywhere
import Scriptlet.Proofs.Lexing.Boundaries

/-
  The spans of a tree nest.
  The tokens of a source stand one after another. A phrase takes tokens from the front of a list,
  and the span of what is read starts with one of these tokens, stops with one of them, and ends
  before every token that is left. So what is read later lies behind what was read before, and the
  parts of a node lie in the node in their order. Main statement: `Program.spans_nested`.
-/

namespace Scriptlet

/-! ## Spans -/

namespace Span

/-- The first span lies in the second. -/
def Inside (a b : Span) : Prop :=
  b.start ≤ a.start ∧ a.stop ≤ b.stop

/-- The first span ends where the second starts, or earlier. -/
def Before (a b : Span) : Prop :=
  a.stop ≤ b.start

theorem Inside.refl (a : Span) : a.Inside a :=
  ⟨Nat.le_refl _, Nat.le_refl _⟩

theorem Inside.trans {a b c : Span} (h : a.Inside b) (h' : b.Inside c) : a.Inside c :=
  ⟨Nat.le_trans h'.1 h.1, Nat.le_trans h.2 h'.2⟩

/-- What lies in two spans is in the order of these spans. -/
theorem Before.inner {a b a' b' : Span} (h : a.Before b) (left : a'.Inside a)
    (right : b'.Inside b) : a'.Before b' :=
  Nat.le_trans left.2 (Nat.le_trans h right.1)

/-- A span of a source of `size` bytes with the tokens `all`, and the spans of the parts of what
stands there. -/
structure Nests (size : Nat) (all : List Token) (span : Span) (parts : List Span) : Prop where
  starts : ∃ t ∈ all, t.span.start = span.start
  stops : ∃ t ∈ all, t.span.stop = span.stop
  wide : span.start < span.stop
  within : span.stop ≤ size
  inside : ∀ part ∈ parts, part.Inside span
  ordered : parts.Pairwise Before

end Span

/-- The spans of the direct parts of an expression, as they stand in the source. -/
def Expr.partSpans : Expr → List Span
  | .literal _ _ | .variable _ _ => []
  | .binary _ left right _ => [left.span, right.span]
  | .unary _ operand _ => [operand.span]
  | .call _ args _ => args.map Expr.span
  | .function declaration _ => declaration.body.map Stmt.span

/-- The spans of the direct parts of a statement, as they stand in the source. -/
def Stmt.partSpans : Stmt → List Span
  | .variable _ value _ | .assign _ value _ | .expr value _ => [value.span]
  | .branch test thenBody elseBody _ =>
    test.span :: (thenBody.map Stmt.span ++ (elseBody.getD []).map Stmt.span)
  | .loop test body _ => test.span :: body.map Stmt.span
  | .result value _ => value.toList.map Expr.span
  | .jump _ _ => []

/-- The parts of an expression nest in it, and a declaration has the span of its expression. -/
def Expr.Nested (size : Nat) (all : List Token) (e : Expr) : Prop :=
  e.span.Nests size all e.partSpans ∧ ∀ d span, e = .function d span → d.span = span

/-- The parts of a statement nest in it. -/
def Stmt.Nested (size : Nat) (all : List Token) (s : Stmt) : Prop :=
  s.span.Nests size all s.partSpans

/-- The parts of each node nest in it. -/
def nesting (size : Nat) (all : List Token) : Condition :=
  ⟨Expr.Nested size all, Stmt.Nested size all⟩

/-! ## Tokens in their places -/

/-- Tokens of a source of `size` bytes, one after another; only that of the end is empty. -/
structure Token.Laid (size : Nat) (ts : List Token) : Prop where
  ordered : ts.Pairwise fun a b => a.span.Before b.span
  wide : ∀ t ∈ ts, t.kind ≠ .endOfInput → t.span.start < t.span.stop
  within : ∀ t ∈ ts, t.span.stop ≤ size

namespace Token

variable {size offset : Nat} {cs : List Char} {ts rest : List Token}

theorem Laid.suffix (h : Laid size ts) (later : rest <:+ ts) : Laid size rest where
  ordered := h.ordered.sublist later.sublist
  wide := fun t mem => h.wide t (later.subset mem)
  within := fun t mem => h.within t (later.subset mem)

theorem Covers.wide (h : Covers offset cs ts) :
    ∀ t ∈ ts, t.kind ≠ .endOfInput → t.span.start < t.span.stop := by
  induction h with
  | ending =>
    intro t mem ordinary
    rw [List.mem_singleton.1 mem] at ordinary
    exact absurd rfl ordinary
  | @token offset gap lexeme rest kind ts blank nonempty ordinary later ih =>
    intro t mem
    rcases List.mem_cons.1 mem with rfl | mem
    · intro _
      have := Text.byteLength_pos nonempty
      dsimp only
      omega
    · exact ih t mem

theorem laid_of_tokenize {source : String} (h : tokenize source = .ok ts) :
    Laid (Text.byteLength source.toList) ts := by
  have covers := covers_of_list h
  refine ⟨covers.pairwise.2.imp And.right, covers.wide, fun t mem => ?_⟩
  exact (covers.fits t mem).stop.le.trans_eq (Nat.zero_add _)

end Token

/-! ## Spans of what is read -/

/-- The span of something that was read from `ts` when `rest` is left. -/
structure Span.Taken (span : Span) (ts rest : List Token) : Prop where
  starts : ∃ t ∈ ts, t.span.start = span.start
  stops : ∃ t ∈ ts, t.span.stop = span.stop
  wide : span.start < span.stop
  ahead : ∀ t ∈ rest, span.stop ≤ t.span.start

/-- The spans of things that were read one after another from `ts` when `rest` is left. -/
structure Span.Row (spans : List Span) (ts rest : List Token) : Prop where
  taken : ∀ span ∈ spans, span.Taken ts rest
  ordered : spans.Pairwise Span.Before

namespace Span

variable {a b m span : Span} {spans : List Span} {ts ts' mid mid' rest rest' all : List Token}
  {size : Nat}

namespace Taken

theorem widen (h : span.Taken ts rest) (more : ts <:+ ts') (fewer : rest' <:+ rest) :
    span.Taken ts' rest' where
  starts := h.starts.imp fun _ found => ⟨more.subset found.1, found.2⟩
  stops := h.stops.imp fun _ found => ⟨more.subset found.1, found.2⟩
  wide := h.wide
  ahead := fun t mem => h.ahead t (fewer.subset mem)

/-- What is read later lies behind what was read before. -/
theorem before (h : a.Taken ts mid) (h' : b.Taken mid rest) : a.Before b := by
  obtain ⟨t, mem, start⟩ := h'.starts
  exact (h.ahead t mem).trans_eq start

theorem through (h : a.Taken ts mid) (h' : b.Taken mid rest) (more : mid <:+ ts) :
    (a.through b).Taken ts rest where
  starts := h.starts
  stops := (h'.widen more (List.suffix_refl rest)).stops
  wide := Nat.lt_of_lt_of_le h.wide (Nat.le_trans (h.before h') (Nat.le_of_lt h'.wide))
  ahead := h'.ahead

theorem first_inside (h : a.Taken ts mid) (h' : b.Taken mid rest) : a.Inside (a.through b) :=
  ⟨Nat.le_refl _, Nat.le_trans (h.before h') (Nat.le_of_lt h'.wide)⟩

theorem last_inside (h : a.Taken ts mid) (h' : b.Taken mid rest) : b.Inside (a.through b) :=
  ⟨Nat.le_trans (Nat.le_of_lt h.wide) (h.before h'), Nat.le_refl _⟩

theorem middle_inside (h : a.Taken ts mid) (part : m.Taken mid mid') (h' : b.Taken mid' rest) :
    m.Inside (a.through b) :=
  ⟨(h.last_inside part).1, (part.first_inside h').2⟩

theorem nests (h : span.Taken ts rest) (laid : Token.Laid size all) (sub : ts <:+ all)
    (inside : ∀ part ∈ spans, part.Inside span) (ordered : spans.Pairwise Before) :
    span.Nests size all spans := by
  have whole := h.widen sub (List.suffix_refl rest)
  refine ⟨whole.starts, whole.stops, h.wide, ?_, inside, ordered⟩
  obtain ⟨t, mem, stop⟩ := whole.stops
  exact stop.symm.trans_le (laid.within t mem)

/-- Something that has no parts. -/
theorem nests_leaf (h : span.Taken ts rest) (laid : Token.Laid size all) (sub : ts <:+ all) :
    span.Nests size all [] :=
  h.nests laid sub nofun .nil

/-- Something whose only part stands at its end, and `a` at its beginning. -/
theorem nests_last (h : a.Taken ts mid) (laid : Token.Laid size all) (sub : ts <:+ all)
    (more : mid <:+ ts) (part : b.Taken mid rest) : (a.through b).Nests size all [b] :=
  (h.through part more).nests laid sub (by simpa using h.last_inside part)
    (List.pairwise_singleton _ _)

end Taken

namespace Row

theorem nil (ts rest : List Token) : Row [] ts rest :=
  ⟨nofun, .nil⟩

theorem widen (h : Row spans ts rest) (more : ts <:+ ts') (fewer : rest' <:+ rest) :
    Row spans ts' rest' :=
  ⟨fun span mem => (h.taken span mem).widen more fewer, h.ordered⟩

theorem cons (first : a.Taken ts mid) (h : Row spans mid rest) (more : mid <:+ ts)
    (fewer : rest <:+ mid) : Row (a :: spans) ts rest := by
  refine ⟨?_, List.pairwise_cons.2 ⟨fun b mem => first.before (h.taken b mem), h.ordered⟩⟩
  intro span mem
  rcases List.mem_cons.1 mem with rfl | mem
  · exact first.widen (List.suffix_refl ts) fewer
  · exact (h.taken span mem).widen more (List.suffix_refl rest)

theorem append {later : List Span} (h : Row spans ts mid) (h' : Row later mid rest)
    (more : mid <:+ ts) (fewer : rest <:+ mid) : Row (spans ++ later) ts rest := by
  refine ⟨?_, List.pairwise_append.2 ⟨h.ordered, h'.ordered, ?_⟩⟩
  · intro span mem
    rcases List.mem_append.1 mem with mem | mem
    · exact (h.taken span mem).widen (List.suffix_refl ts) fewer
    · exact (h'.taken span mem).widen more (List.suffix_refl rest)
  · exact fun a left b right => (h.taken a left).before (h'.taken b right)

/-- A row between two spans lies in what goes from the one to the other. -/
theorem inside (first : a.Taken ts mid) (h : Row spans mid mid') (last : b.Taken mid' rest) :
    ∀ part ∈ spans, part.Inside (a.through b) :=
  fun part mem => first.middle_inside (h.taken part mem) last

end Row

end Span

/-! ## What the phrases give -/

/-- An expression read from `ts` when `rest` is left. -/
structure Expr.Placed (size : Nat) (all ts rest : List Token) (e : Expr) : Prop where
  taken : e.span.Taken ts rest
  nested : e.Everywhere (nesting size all)

/-- A statement read from `ts` when `rest` is left. -/
structure Stmt.Placed (size : Nat) (all ts rest : List Token) (s : Stmt) : Prop where
  taken : s.span.Taken ts rest
  nested : s.Everywhere (nesting size all)

/-- Statements with the span of the block of them, read from `ts` when `rest` is left. -/
structure BlockPlaced (size : Nat) (all ts rest : List Token) (body : List Stmt) (span : Span) :
    Prop where
  taken : span.Taken ts rest
  inside : ∀ part ∈ body.map Stmt.span, part.Inside span
  row : Span.Row (body.map Stmt.span) ts rest
  nested : bodyEverywhere (nesting size all) body

/-- Statements read one after another from `ts` when `rest` is left. -/
structure BodyPlaced (size : Nat) (all ts rest : List Token) (body : List Stmt) : Prop where
  row : Span.Row (body.map Stmt.span) ts rest
  nested : bodyEverywhere (nesting size all) body

/-- Arguments read one after another from `ts` when `rest` is left. -/
structure ArgsPlaced (size : Nat) (all ts rest : List Token) (args : List Expr) : Prop where
  row : Span.Row (args.map Expr.span) ts rest
  nested : argsEverywhere (nesting size all) args

theorem Expr.Placed.widen {size : Nat} {all ts ts' rest rest' : List Token} {e : Expr}
    (h : e.Placed size all ts rest) (more : ts <:+ ts') (fewer : rest' <:+ rest) :
    e.Placed size all ts' rest' :=
  ⟨h.taken.widen more fewer, h.nested⟩

theorem Stmt.Placed.widen {size : Nat} {all ts ts' rest rest' : List Token} {s : Stmt}
    (h : s.Placed size all ts rest) (more : ts <:+ ts') (fewer : rest' <:+ rest) :
    s.Placed size all ts' rest' :=
  ⟨h.taken.widen more fewer, h.nested⟩

/-- What is read from a phrase is in its place. What follows a left operand makes one expression
with it, from wherever the operand was begun. -/
def Phrase.Placed (size : Nat) (all ts rest : List Token) :
    (phrase : Phrase) → phrase.Result → Prop
  | .program, stmts => BodyPlaced size all ts rest stmts
  | .body, stmts => BodyPlaced size all ts rest stmts
  | .block, (stmts, span) => BlockPlaced size all ts rest stmts span
  | .statement, s => s.Placed size all ts rest
  | .operation _, e => e.Placed size all ts rest
  | .chain _ left, e => ∀ before, before <:+ all → ts <:+ before →
    left.Placed size all before ts → e.Placed size all before rest
  | .unary, e => e.Placed size all ts rest
  | .arguments, args => ArgsPlaced size all ts rest args

namespace Grammar

variable {size : Nat} {all before ts rest : List Token} {read : Readers} {level : Level}
  {e : Expr} {s : Stmt} {start name : Token}

/-- Whatever a reader reads from the tokens of a source is in its place. -/
def Placing (size : Nat) (all : List Token) (read : Readers) : Prop :=
  ∀ (phrase : Phrase) (ts : List Token) (r : phrase.Result) (rest : List Token),
    ts <:+ all → read phrase ts = .ok (r, rest) → phrase.Placed size all ts rest r

theorem next_taken {kind : TokenKind} (laid : Token.Laid size ts) (h : nextKind ts = kind)
    (ne : kind ≠ .endOfInput) : (next ts).span.Taken ts ts.tail := by
  obtain ⟨t, more, rfl, rfl⟩ := exists_cons_of_nextKind h ne
  exact ⟨⟨t, List.mem_cons_self, rfl⟩, ⟨t, List.mem_cons_self, rfl⟩,
    laid.wide t List.mem_cons_self ne, (List.pairwise_cons.1 laid.ordered).1⟩

/-- An operation on two operands, of which the left one was begun before. -/
theorem binary_placed {op : BinaryOp} {left right : Expr} {mid : List Token}
    (laid : Token.Laid size all) (sub : before <:+ all)
    (begun : left.Placed size all before ts) (later : ts <:+ before)
    (last : right.Placed size all ts.tail mid) :
    (Expr.binary op left right (left.span.through right.span)).Placed size all before mid := by
  have last := last.widen (List.tail_suffix ts) (List.suffix_refl mid)
  have taken := begun.taken.through last.taken later
  refine ⟨taken, ⟨taken.nests laid sub ?_ ?_, nofun⟩, begun.nested, last.nested⟩
  · simpa [Expr.partSpans] using
      ⟨begun.taken.first_inside last.taken, begun.taken.last_inside last.taken⟩
  · simpa [Expr.partSpans] using begun.taken.before last.taken

/-! ### One phrase inside -/

section

variable (h : Placing size all read)
include h

theorem operand_placed (sub : ts <:+ all) (made : operand read level ts = .ok (e, rest)) :
    e.Placed size all ts rest := by
  cases level with
  | disjunction => exact h (.operation .conjunction) _ _ _ sub made
  | conjunction => exact h (.operation .comparison) _ _ _ sub made
  | comparison => exact h (.operation .sum) _ _ _ sub made
  | sum => exact h (.operation .product) _ _ _ sub made
  | product => exact h .unary _ _ _ sub made

theorem condition_placed {wanted : Wanted} (sub : ts <:+ all)
    (made : condition read wanted ts = .ok (e, rest)) : e.Placed size all ts rest := by
  obtain ⟨-, mid, he, -, rfl⟩ := condition_ok_iff.1 made
  have tail := List.tail_suffix ts
  exact (h .expression _ _ _ (tail.trans sub) he).widen tail (List.tail_suffix mid)

variable (laid : Token.Laid size all)
include laid

theorem newVariable_placed (sub : before <:+ all) (later : ts <:+ before)
    (begun : start.span.Taken before ts) (made : newVariable read start ts = .ok (s, rest)) :
    s.Placed size all before rest := by
  obtain ⟨-, -, value, hv, rfl⟩ := newVariable_ok_iff.1 made
  have tail := (List.tail_suffix ts.tail).trans (List.tail_suffix ts)
  have inner := (h .expression _ _ _ (tail.trans (later.trans sub)) hv).widen tail
    (List.suffix_refl rest)
  exact ⟨begun.through inner.taken later, begun.nests_last laid sub later inner.taken, inner.nested⟩

theorem assignment_placed (sub : before <:+ all) (later : ts <:+ before)
    (begun : name.span.Taken before ts) (made : assignment read name ts = .ok (s, rest)) :
    s.Placed size all before rest := by
  obtain ⟨value, hv, rfl⟩ := assignment_ok_iff.1 made
  have tail := List.tail_suffix ts
  have inner := (h .expression _ _ _ (tail.trans (later.trans sub)) hv).widen tail
    (List.suffix_refl rest)
  exact ⟨begun.through inner.taken later, begun.nests_last laid sub later inner.taken, inner.nested⟩

theorem result_placed (sub : before <:+ all) (later : ts <:+ before)
    (begun : start.span.Taken before ts) (made : result read start ts = .ok (s, rest)) :
    s.Placed size all before rest := by
  rcases result_ok_iff.1 made with ⟨-, rfl, rfl⟩ | ⟨-, value, hv, rfl⟩
  · exact ⟨begun, begun.nests_leaf laid sub⟩
  · have inner := h .expression _ _ _ (later.trans sub) hv
    exact ⟨begun.through inner.taken later, begun.nests_last laid sub later inner.taken,
      inner.nested⟩

theorem expressionStatement_placed (sub : ts <:+ all)
    (made : expressionStatement read ts = .ok (s, rest)) : s.Placed size all ts rest := by
  obtain ⟨value, hv, rfl⟩ := expressionStatement_ok_iff.1 made
  have inner := h .expression _ _ _ sub hv
  have nests := inner.taken.nests laid sub (by simpa using Span.Inside.refl value.span)
    (List.pairwise_singleton _ _)
  exact ⟨inner.taken, nests, inner.nested⟩

end

/-! ### Several phrases inside -/

section

variable (ahead : Advancing read) (h : Placing size all read)
include ahead h

theorem operation_placed (sub : ts <:+ all) (made : operation read level ts = .ok (e, rest)) :
    e.Placed size all ts rest := by
  obtain ⟨left, mid, ho, hc⟩ := operation_ok_iff.1 made
  have later := (operand_ahead ahead ho).1
  exact h (.chain level left) _ _ _ (later.trans sub) hc ts sub later (operand_placed h sub ho)

theorem arguments_placed {args : List Expr} (sub : ts <:+ all)
    (made : arguments read ts = .ok (args, rest)) : ArgsPlaced size all ts rest args := by
  rcases arguments_ok_iff.1 made with ⟨e, mid, he, ⟨-, rfl, rfl⟩ | ⟨-, more, hm, rfl⟩⟩
  · have first := h .expression _ _ _ sub he
    exact ⟨.cons first.taken (.nil _ _) (expression_ahead ahead he).1 (List.suffix_refl _),
      first.nested, trivial⟩
  · have later := (expression_ahead ahead he).1
    have tail := List.tail_suffix mid
    have first := h .expression _ _ _ sub he
    have others := h .arguments _ _ _ (tail.trans (later.trans sub)) hm
    have within := (ahead .arguments _ _ _ hm).1.trans tail
    exact ⟨.cons first.taken (others.row.widen tail (List.suffix_refl _)) later within,
      first.nested, others.nested⟩

/-- A statement and the statements after it. -/
theorem followed_placed {mid : List Token} {more : List Stmt} (sub : ts <:+ all)
    (first : read .statement ts = .ok (s, mid)) (fewer : rest <:+ mid)
    (others : mid <:+ all → BodyPlaced size all mid rest more) :
    BodyPlaced size all ts rest (s :: more) := by
  have later := (ahead .statement _ _ _ first).1
  have inner := h .statement _ _ _ sub first
  have others := others (later.trans sub)
  exact ⟨others.row.cons inner.taken later fewer, inner.nested, others.nested⟩

theorem body_placed {body : List Stmt} (sub : ts <:+ all)
    (made : Grammar.body read ts = .ok (body, rest)) : BodyPlaced size all ts rest body := by
  rcases body_ok_iff.1 made with ⟨-, rfl, -⟩ | ⟨-, s, mid, more, hs, hm, rfl⟩
  · exact ⟨.nil _ _, trivial⟩
  · exact followed_placed ahead h sub hs (ahead .body _ _ _ hm).1 fun sub =>
      h .body _ _ _ sub hm

theorem program_placed {body : List Stmt} (sub : ts <:+ all)
    (made : program read ts = .ok (body, rest)) : BodyPlaced size all ts rest body := by
  rcases program_ok_iff.1 made with ⟨-, rfl, -⟩ | ⟨-, s, mid, more, hs, hm, rfl⟩
  · exact ⟨.nil _ _, trivial⟩
  · exact followed_placed ahead h sub hs (ahead .program _ _ _ hm).1 fun sub =>
      h .program _ _ _ sub hm

variable (laid : Token.Laid size all)
include laid

theorem chain_placed {left : Expr} (sub : before <:+ all) (later : ts <:+ before)
    (begun : left.Placed size all before ts) (made : chain read level left ts = .ok (e, rest)) :
    e.Placed size all before rest := by
  rcases chain_ok_iff.1 made with ⟨-, rfl, rfl⟩ | ⟨op, right, mid, -, ho, -, hc⟩
  · exact begun
  · have tail := (List.tail_suffix ts).trans later
    have inner := (operand_ahead ahead ho).1.trans tail
    have last := operand_placed h (tail.trans sub) ho
    exact h (.chain level _) _ _ _ (inner.trans sub) hc before sub inner
      (binary_placed laid sub begun later last)

theorem braces_placed {body : List Stmt} {span : Span} (sub : ts <:+ all)
    (opening : nextKind ts = .leftBrace) (made : braces read ts = .ok ((body, span), rest)) :
    BlockPlaced size all ts rest body span := by
  obtain ⟨mid, hb, closing, rfl, rfl⟩ := braces_ok_iff.1 made
  have tail := List.tail_suffix ts
  have later : mid <:+ ts.tail := (ahead .body _ _ _ hb).1
  have inner := h .body _ _ _ (tail.trans sub) hb
  have first := next_taken (laid.suffix sub) opening (by decide)
  have last := next_taken (laid.suffix (later.trans (tail.trans sub))) closing (by decide)
  exact ⟨first.through (last.widen later (List.suffix_refl _)) tail,
    inner.row.inside first last, inner.row.widen tail (List.tail_suffix mid), inner.nested⟩

theorem declaration_placed {params : List String} {mid : List Token} (sub : before <:+ all)
    (later : mid <:+ before) (begun : name.span.Taken before mid)
    (opening : nextKind mid = .leftBrace)
    (made : declaration read name params mid = .ok (e, rest)) :
    e.Placed size all before rest := by
  obtain ⟨body, bodySpan, hb, rfl⟩ := declaration_ok_iff.1 made
  have inner := braces_placed ahead h laid (later.trans sub) opening hb
  have taken := begun.through inner.taken later
  refine ⟨taken, ⟨taken.nests laid sub ?_ inner.row.ordered, ?_⟩, inner.nested⟩
  · exact fun part mem => (inner.inside part mem).trans (begun.last_inside inner.taken)
  · rintro d span ⟨⟩
    rfl

theorem call_placed (sub : before <:+ all) (later : ts <:+ before)
    (begun : name.span.Taken before ts) (made : call read name ts = .ok (e, rest)) :
    e.Placed size all before rest := by
  obtain ⟨args, mid, ha, closing, rfl, rfl⟩ := call_ok_iff.1 made
  have inner : mid <:+ ts ∧ ArgsPlaced size all ts mid args := by
    rcases callArguments_ok_iff.1 ha with ⟨-, rfl, rfl⟩ | ⟨-, ha⟩
    · exact ⟨List.suffix_refl _, .nil _ _, trivial⟩
    · exact ⟨(ahead .arguments _ _ _ ha).1, h .arguments _ _ _ (later.trans sub) ha⟩
  obtain ⟨within, placed⟩ := inner
  have last := next_taken (laid.suffix (within.trans (later.trans sub))) closing (by decide)
  have taken := begun.through (last.widen within (List.suffix_refl _)) later
  exact ⟨taken, ⟨taken.nests laid sub (placed.row.inside begun last) placed.row.ordered, nofun⟩,
    placed.nested⟩

theorem named_placed (sub : before <:+ all) (later : ts <:+ before)
    (begun : name.span.Taken before ts) (made : named read name ts = .ok (e, rest)) :
    e.Placed size all before rest := by
  rcases named_ok_iff.1 made with ⟨params, mid, hp, hd⟩ | ⟨-, -, hc⟩ | ⟨-, -, rfl, rfl⟩
  · have listed := (params?_ahead hp).1
    exact declaration_placed ahead h laid sub (listed.trans later)
      (begun.widen (List.suffix_refl _) listed) (params?_eq_some_iff.1 hp).2.1 hd
  · have tail := List.tail_suffix ts
    exact call_placed ahead h laid sub (tail.trans later)
      (begun.widen (List.suffix_refl _) tail) hc
  · exact ⟨begun, begun.nests_leaf laid sub, nofun⟩

theorem primary_placed (sub : ts <:+ all) (made : primary read ts = .ok (e, rest)) :
    e.Placed size all ts rest := by
  have tail := List.tail_suffix ts
  rcases primary_ok_iff.1 made with
    ⟨-, mid, he, -, rfl⟩ | ⟨isName, hn⟩ | ⟨-, -, v, hv, rfl, rfl⟩
  · exact (h .expression _ _ _ (tail.trans sub) he).widen tail (List.tail_suffix mid)
  · exact named_placed ahead h laid sub tail
      (next_taken (laid.suffix sub) isName (by decide)) hn
  · have taken := next_taken (laid.suffix sub) rfl (nextKind_ne_of_literal? hv)
    exact ⟨taken, taken.nests_leaf laid sub, nofun⟩

theorem unary_placed (sub : ts <:+ all) (made : unary read ts = .ok (e, rest)) :
    e.Placed size all ts rest := by
  rcases unary_ok_iff.1 made with ⟨op, operand, hop, ho, rfl⟩ | ⟨-, hp⟩
  · have tail := List.tail_suffix ts
    have first := next_taken (laid.suffix sub) rfl (ne_endOfInput_of_unaryOp? hop)
    have inner := h .unary _ _ _ (tail.trans sub) ho
    exact ⟨first.through inner.taken tail, ⟨first.nests_last laid sub tail inner.taken, nofun⟩,
      inner.nested⟩
  · exact primary_placed ahead h laid sub hp

theorem branch_placed (sub : before <:+ all) (later : ts <:+ before)
    (begun : start.span.Taken before ts) (made : branch read start ts = .ok (s, rest)) :
    s.Placed size all before rest := by
  obtain ⟨test, mid, thenBody, span, after, ht, hb, last⟩ := branch_ok_iff.1 made
  have tested := condition_placed h (later.trans sub) ht
  have midLater := (condition_ahead ahead ht).1
  have midSub := midLater.trans (later.trans sub)
  have thenMade := h .block _ _ _ midSub hb
  have afterLater : after <:+ mid := (ahead .block _ _ _ hb).1
  have word := begun.widen (List.suffix_refl before) midLater
  rcases last with ⟨-, rfl, rfl⟩ | ⟨-, elseBody, elseSpan, he, rfl⟩
  · have taken := word.through thenMade.taken (midLater.trans later)
    have row := thenMade.row.append (.nil rest rest) afterLater (List.suffix_refl rest)
    refine ⟨taken, taken.nests laid sub ?_ (row.cons tested.taken midLater afterLater).ordered,
      tested.nested, thenMade.nested⟩
    refine List.forall_mem_cons.2 ⟨begun.middle_inside tested.taken thenMade.taken,
      List.forall_mem_append.2 ⟨fun part mem => ?_, nofun⟩⟩
    exact (thenMade.inside part mem).trans (word.last_inside thenMade.taken)
  · have tail := List.tail_suffix after
    have elseMade := h .block _ _ _ (tail.trans (afterLater.trans midSub)) he
    have restLater := (ahead .block _ _ _ he).1.trans tail
    have elseTaken := elseMade.taken.widen tail (List.suffix_refl rest)
    have farWord := word.widen (List.suffix_refl before) afterLater
    have farTest := tested.taken.widen (List.suffix_refl ts) afterLater
    have taken := farWord.through elseTaken (afterLater.trans (midLater.trans later))
    have row := thenMade.row.append (elseMade.row.widen tail (List.suffix_refl rest)) afterLater
      restLater
    refine ⟨taken, taken.nests laid sub ?_
      (row.cons tested.taken midLater (restLater.trans afterLater)).ordered,
      tested.nested, thenMade.nested, elseMade.nested⟩
    refine List.forall_mem_cons.2 ⟨begun.middle_inside farTest elseTaken,
      List.forall_mem_append.2 ⟨fun part mem => ?_, fun part mem => ?_⟩⟩
    · exact (thenMade.inside part mem).trans (word.middle_inside thenMade.taken elseTaken)
    · exact (elseMade.inside part mem).trans (farWord.last_inside elseTaken)

theorem loop_placed (sub : before <:+ all) (later : ts <:+ before)
    (begun : start.span.Taken before ts) (made : loop read start ts = .ok (s, rest)) :
    s.Placed size all before rest := by
  obtain ⟨test, mid, body, span, ht, hb, rfl⟩ := loop_ok_iff.1 made
  have tested := condition_placed h (later.trans sub) ht
  have midLater := (condition_ahead ahead ht).1
  have inner := h .block _ _ _ (midLater.trans (later.trans sub)) hb
  have restLater : rest <:+ mid := (ahead .block _ _ _ hb).1
  have word := begun.widen (List.suffix_refl before) midLater
  have taken := word.through inner.taken (midLater.trans later)
  refine ⟨taken, taken.nests laid sub ?_ (inner.row.cons tested.taken midLater restLater).ordered,
    tested.nested, inner.nested⟩
  refine List.forall_mem_cons.2 ⟨begun.middle_inside tested.taken inner.taken, fun part mem => ?_⟩
  exact (inner.inside part mem).trans (word.last_inside inner.taken)

theorem bareStatement_placed (sub : ts <:+ all) (made : bareStatement read ts = .ok (s, rest)) :
    s.Placed size all ts rest := by
  have tail := List.tail_suffix ts
  have begun : ∀ {kind : TokenKind}, nextKind ts = kind → kind ≠ .endOfInput →
      (next ts).span.Taken ts ts.tail :=
    fun begins ne => next_taken (laid.suffix sub) begins ne
  obtain ⟨k, eq⟩ | ⟨k, eq⟩ | ⟨k, eq⟩ | ⟨k, eq⟩ | ⟨k, eq⟩ | ⟨k, eq⟩ | ⟨k, -, eq⟩ | ⟨-, eq⟩ :=
    bareStatement_forms ts <;> rw [eq] at made
  · exact newVariable_placed h laid sub tail (begun k (by decide)) made
  · exact branch_placed ahead h laid sub tail (begun k (by decide)) made
  · exact loop_placed ahead h laid sub tail (begun k (by decide)) made
  · exact result_placed h laid sub tail (begun k (by decide)) made
  · cases made
    have taken := begun k (by decide)
    exact ⟨taken, taken.nests_leaf laid sub⟩
  · cases made
    have taken := begun k (by decide)
    exact ⟨taken, taken.nests_leaf laid sub⟩
  · exact assignment_placed h laid sub tail (begun k (by decide)) made
  · exact expressionStatement_placed h laid sub made

theorem statement_placed (sub : ts <:+ all) (made : statement read ts = .ok (s, rest)) :
    s.Placed size all ts rest := by
  obtain ⟨mid, hs, rfl⟩ := statement_ok_iff.1 made
  exact (bareStatement_placed ahead h laid sub hs).widen (List.suffix_refl ts)
    (skipSemicolon_suffix mid)

theorem block_placed {body : List Stmt} {span : Span} (sub : ts <:+ all)
    (made : block read ts = .ok ((body, span), rest)) :
    BlockPlaced size all ts rest body span := by
  rcases block_ok_iff.1 made with ⟨opening, hb⟩ | ⟨-, s, hs, rfl, rfl⟩
  · exact braces_placed ahead h laid sub opening hb
  · have inner := h .statement _ _ _ sub hs
    have later := (ahead .statement _ _ _ hs).1
    refine ⟨inner.taken, ?_, .cons inner.taken (.nil _ _) later (List.suffix_refl _),
      inner.nested, trivial⟩
    simpa using Span.Inside.refl s.span

end

theorem produce_placing (ahead : Advancing read) (h : Placing size all read)
    (laid : Token.Laid size all) : Placing size all (produce read) := by
  intro phrase ts r rest sub made
  cases phrase with
  | program => exact program_placed ahead h sub made
  | body => exact body_placed ahead h sub made
  | block => exact block_placed ahead h laid sub made
  | statement => exact statement_placed ahead h laid sub made
  | operation level => exact operation_placed ahead h sub made
  | chain level left =>
    exact fun before sub later begun => chain_placed ahead h laid sub later begun made
  | unary => exact unary_placed ahead h laid sub made
  | arguments => exact arguments_placed ahead h sub made

theorem read_placing (laid : Token.Laid size all) (fuel : Nat) :
    Placing size all (Grammar.read fuel) := by
  induction fuel with
  | zero => intro phrase ts r rest sub made; cases made
  | succ fuel ih => exact produce_placing (read_advances fuel) ih laid

/-- Whatever is read from the tokens of a source is in its place. -/
theorem readAll_placing (laid : Token.Laid size all) : Placing size all readAll := by
  intro phrase ts r rest sub made
  exact read_placing laid _ phrase ts r rest sub made

end Grammar

/-- Everywhere in a program read from a source, a node starts and stops with tokens of the source
and its parts lie in it one after another; so do the statements of the program. -/
theorem Program.spans_nested {source : String} {p : Program} (h : parse source = .ok p) :
    ∃ ts, Token.tokenize source = .ok ts ∧
      bodyEverywhere (nesting (Text.byteLength source.toList) ts) p.statements ∧
      (p.statements.map Stmt.span).Pairwise Span.Before := by
  obtain ⟨ts, rest, tokens, made⟩ := parse_ok_iff.1 h
  have laid := Token.laid_of_tokenize tokens
  have placed := Grammar.readAll_placing laid .program ts _ _ (List.suffix_refl ts) made
  exact ⟨ts, tokens, placed.nested, placed.row.ordered⟩

/-- A declaration whose body is a branch with a parenthesized operand in its condition and a minus
among the arguments of a call, a text with a letter of two bytes, and then a call. -/
theorem Program.spans_nested_declaration :
    ∃ p ts, parse "f(x) \x7b if ((x) > 1) f(2, -x) else y = \"é\" \x7d f(3)" = .ok p ∧
      Token.tokenize "f(x) \x7b if ((x) > 1) f(2, -x) else y = \"é\" \x7d f(3)" = .ok ts ∧
      bodyEverywhere (nesting 49 ts) p.statements ∧
      (p.statements.map Stmt.span).Pairwise Span.Before := by
  obtain ⟨p, made⟩ := exists_of_isOk
    (r := parse "f(x) \x7b if ((x) > 1) f(2, -x) else y = \"é\" \x7d f(3)") (by decide +kernel)
  obtain ⟨ts, tokens, nested, ordered⟩ := spans_nested made
  exact ⟨p, ts, made, tokens, nested, ordered⟩

end Scriptlet
