import Scriptlet.Proofs.Grammar.Descent
import Scriptlet.Proofs.Grammar.Nesting

/-
  Where the faults of a source lie.
  A phrase that the reading of a source comes to either leaves some of the tokens, at least that of
  the end, or ends with a fault: a token of the source that is not wanted, or an equality whose
  operands were read around its operator and have two known types. By induction on the nesting of
  phrases this holds of all of them (`readAll_accounted`), so no source is refused for want of fuel,
  and the diagnostic of a refused source is located (`Program.ofSource_error_located`).
-/

namespace Scriptlet

namespace Grammar

/-! ## What a fault is about -/

/-- The reading of the program has come to an equality, with `left` read before the operator and
`right` after it, and the types of both are known and differ. -/
structure Mismatch (all : List Token) (op : BinaryOp) (left right : Expr) : Prop where
  written : ∃ level mid rest, Reached all (.chain level left) mid ∧
    level.operator? (nextKind mid) = some op ∧ operand readAll level mid.tail = .ok (right, rest)
  equality : op.isEquality = true
  leftKnown : left.staticType ≠ .dynamic
  rightKnown : right.staticType ≠ .dynamic
  differ : left.staticType ≠ right.staticType

/-- The fault is about a token of the source, or about an equality in it. -/
def Located (all : List Token) : ParseFault → Prop
  | .unexpected _ found => found ∈ all
  | .typeMismatch op leftType rightType span => ∃ left right, Mismatch all op left right ∧
    leftType = left.staticType ∧ rightType = right.staticType ∧
    span = left.span.through right.span
  | .exhausted => False

/-! ## What a reading ends with -/

/-- The tokens are an end of those of the source, not without the last one. -/
structure Remains (all ts : List Token) : Prop where
  suffix : ts <:+ all
  nonempty : ts ≠ []

/-- What was read leaves some of the tokens of the source, or the fault is located. -/
def Accounted {α : Type} (all : List Token) : Except ParseFault (α × List Token) → Prop
  | .ok (_, rest) => Remains all rest
  | .error fault => Located all fault

/-- An operation is refused exactly if it is an equality of two known types that differ. -/
theorem combine_error_iff {op : BinaryOp} {left right : Expr} {fault : ParseFault} :
    combine op left right = .error fault ↔ op.isEquality = true ∧ left.staticType ≠ .dynamic ∧
      right.staticType ≠ .dynamic ∧ left.staticType ≠ right.staticType ∧
      fault = .typeMismatch op left.staticType right.staticType (left.span.through right.span) := by
  unfold combine
  split
  next clash => simp [clash, eq_comm]
  next fits =>
    constructor
    · exact nofun
    · rintro ⟨equality, leftKnown, rightKnown, differ, -⟩
      exact absurd ⟨equality, leftKnown, rightKnown, differ⟩ fits

variable {α β : Type} {all ts rest : List Token} {read : Readers} {level : Level}
  {start name : Token}

theorem Remains.next_mem (h : Remains all ts) : next ts ∈ all := by
  obtain ⟨t, more, rfl⟩ := List.exists_cons_of_ne_nil h.nonempty
  exact h.suffix.subset List.mem_cons_self

/-- The tokens of a source end with that of the end. -/
def Closed (all : List Token) : Prop :=
  ∀ t ∈ all.getLast?, t.kind = .endOfInput

theorem Remains.tail (closed : Closed all) (h : Remains all ts) {kind : TokenKind}
    (begins : nextKind ts = kind) (ne : kind ≠ .endOfInput) : Remains all ts.tail := by
  obtain ⟨t, more, rfl, rfl⟩ := exists_cons_of_nextKind begins ne
  refine ⟨(List.suffix_cons t more).trans h.suffix, ?_⟩
  rintro (rfl : more = [])
  obtain ⟨before, rfl⟩ := h.suffix
  exact ne (closed t (by simp))

theorem Accounted.bind {m : Except ParseFault (α × List Token)}
    {f : α × List Token → Except ParseFault (β × List Token)} (first : Accounted all m)
    (then_ : ∀ a ts, m = .ok (a, ts) → Remains all ts → Accounted all (f (a, ts))) :
    Accounted all (m >>= f) := by
  cases m with
  | error fault => exact first
  | ok r => exact then_ r.1 r.2 rfl first

theorem expect_accounted (closed : Closed all) (here : Remains all ts) {kind : TokenKind}
    {wanted : Wanted} (ne : kind ≠ .endOfInput) : Accounted all (expect kind wanted ts) := by
  unfold expect
  split
  next begins => exact here.tail closed begins ne
  next => exact here.next_mem

/-! ## Productions -/

/-- What a token that is no literal is at fault for. -/
theorem literal?_error {t : Token} {fault : ParseFault} (h : literal? t = .error fault) :
    ∃ wanted, fault = .unexpected wanted t := by
  unfold literal? at h
  split at h
  · split at h
    · cases h
    · cases h
      exact ⟨.numeral, rfl⟩
  all_goals cases h
  exact ⟨.operand, rfl⟩

/-! ### What the reader of the phrases inside accepts -/

section

variable (follows : Follows read)
include follows

theorem operand_follows {r : Expr × List Token} (made : operand read level ts = .ok r) :
    operand readAll level ts = .ok r := by
  cases level with
  | disjunction => exact follows (.operation .conjunction) ts r made
  | conjunction => exact follows (.operation .comparison) ts r made
  | comparison => exact follows (.operation .sum) ts r made
  | sum => exact follows (.operation .product) ts r made
  | product => exact follows .unary ts r made

theorem condition_follows {wanted : Wanted} {test : Expr}
    (made : condition read wanted ts = .ok (test, rest)) :
    condition readAll wanted ts = .ok (test, rest) := by
  obtain ⟨paren, mid, he, last⟩ := condition_ok_iff.1 made
  exact condition_ok_iff.2 ⟨paren, mid, follows .expression _ _ he, last⟩

end

/-! ### One phrase inside -/

section

variable (h : ∀ phrase ts, Reached all phrase ts → Remains all ts → Accounted all (read phrase ts))
include h

theorem operand_accounted (reached : Reached all level.operandPhrase ts) (here : Remains all ts) :
    Accounted all (operand read level ts) := by
  cases level with
  | disjunction => exact h (.operation .conjunction) ts reached here
  | conjunction => exact h (.operation .comparison) ts reached here
  | comparison => exact h (.operation .sum) ts reached here
  | sum => exact h (.operation .product) ts reached here
  | product => exact h .unary ts reached here

variable (closed : Closed all)
include closed

theorem braces_accounted (reached : Reached all .body ts.tail) (here : Remains all ts)
    (opening : nextKind ts = .leftBrace) : Accounted all (braces read ts) := by
  refine .bind (h .body _ reached (here.tail closed opening (by decide))) fun body ts _ here => ?_
  exact .bind (expect_accounted closed here (by decide)) fun _ _ _ here => here

theorem call_accounted (reached : nextKind ts ≠ .rightParen → Reached all .arguments ts)
    (here : Remains all ts) : Accounted all (call read name ts) := by
  have listed : Accounted all (callArguments read ts) := by
    unfold callArguments
    split
    next => exact here
    next given => exact h .arguments ts (reached given) here
  refine .bind listed fun args ts _ here => ?_
  exact .bind (expect_accounted closed here (by decide)) fun _ _ _ here => here

theorem named_accounted (reached : Reached all .unary ts) (begins : nextKind ts = .identifier)
    (here : Remains all ts) : Accounted all (named read name ts.tail) := by
  have later := here.tail closed begins (by decide)
  unfold named
  split
  next params mid listed =>
    have opening := (params?_eq_some_iff.1 listed).2.1
    have inside := reached.step (.declared begins listed)
    obtain ⟨t, more, rfl, -⟩ := exists_cons_of_nextKind opening (by decide)
    have here := Remains.mk ((params?_ahead listed).1.trans later.suffix) (List.cons_ne_nil t more)
    exact .bind (braces_accounted h closed inside here opening) fun _ _ _ here => here
  next unlisted =>
    split
    next paren =>
      have inside := fun given => reached.step (.called begins unlisted paren given)
      exact call_accounted h closed inside (later.tail closed paren (by decide))
    next => exact later

theorem primary_accounted (reached : Reached all .unary ts) (here : Remains all ts) :
    Accounted all (primary read ts) := by
  unfold primary
  dsimp only
  split
  next paren =>
    have later := here.tail closed paren (by decide)
    refine .bind (h .expression _ (reached.step (.grouped paren)) later) fun inner ts _ here => ?_
    exact .bind (expect_accounted closed here (by decide)) fun _ _ _ here => here
  next begins => exact named_accounted h closed reached begins here
  next =>
    cases made : literal? (next ts) with
    | ok v => exact here.tail closed rfl (nextKind_ne_of_literal? made)
    | error fault =>
      obtain ⟨wanted, rfl⟩ := literal?_error made
      exact here.next_mem

theorem unary_accounted (reached : Reached all .unary ts) (here : Remains all ts) :
    Accounted all (unary read ts) := by
  unfold unary
  split
  next op sign =>
    have later := here.tail closed rfl (ne_endOfInput_of_unaryOp? sign)
    exact .bind (h .unary _ (reached.step (.underSign sign)) later) fun _ _ _ here => here
  next => exact primary_accounted h closed reached here

theorem condition_accounted {wanted : Wanted}
    (reached : nextKind ts = .leftParen → Reached all .expression ts.tail)
    (here : Remains all ts) : Accounted all (condition read wanted ts) := by
  refine .bind (expect_accounted closed here (by decide)) fun _ mid made here => ?_
  obtain ⟨paren, -, rfl⟩ := expect_ok_iff.1 made
  refine .bind (h .expression _ (reached paren) here) fun e ts _ here => ?_
  exact .bind (expect_accounted closed here (by decide)) fun _ _ _ here => here

theorem newVariable_accounted (reached : Reached all .statement ts)
    (word : nextKind ts = .varWord) (here : Remains all ts) :
    Accounted all (newVariable read start ts.tail) := by
  have later := here.tail closed word (by decide)
  refine .bind (expect_accounted closed later (by decide)) fun _ mid named here => ?_
  obtain ⟨name, -, rfl⟩ := expect_ok_iff.1 named
  refine .bind (expect_accounted closed here (by decide)) fun _ mid marked here => ?_
  obtain ⟨mark, -, rfl⟩ := expect_ok_iff.1 marked
  exact .bind (h .expression _ (reached.step (.newValue word name mark)) here)
    fun _ _ _ here => here

theorem result_accounted (reached : Reached all .statement ts) (word : nextKind ts = .returnWord)
    (here : Remains all ts) : Accounted all (result read start ts.tail) := by
  have later := here.tail closed word (by decide)
  unfold result
  split
  next => exact later
  next valued =>
    have inside := reached.step (.returned word (eq_false_of_ne_true valued))
    exact .bind (h .expression _ inside later) fun _ _ _ here => here

theorem block_accounted (reached : Reached all .block ts) (here : Remains all ts) :
    Accounted all (block read ts) := by
  unfold block
  split
  next opening =>
    exact braces_accounted h closed (reached.step (.blockBody opening)) here opening
  next single =>
    exact .bind (h .statement ts (reached.step (.blockStatement single)) here)
      fun _ _ _ here => here

/-! ### Several phrases inside -/

variable (follows : Follows read)
include follows

omit closed in
theorem operation_accounted (reached : Reached all (.operation level) ts) (here : Remains all ts) :
    Accounted all (operation read level ts) := by
  have inside := reached.step (.firstOperand level ts)
  refine .bind (operand_accounted h inside here) fun left mid made later => ?_
  exact h _ mid (reached.step (.afterOperand (operand_follows follows made))) later

theorem chain_accounted {left : Expr} (reached : Reached all (.chain level left) ts)
    (here : Remains all ts) : Accounted all (chain read level left ts) := by
  unfold chain
  split
  next => exact here
  next op mark =>
    have later := here.tail closed rfl (ne_endOfInput_of_operator? mark)
    have inside := reached.step (.nextOperand left mark)
    refine .bind (operand_accounted h inside later) fun right mid made later => ?_
    have made := operand_follows follows made
    dsimp only
    cases whole : combine op left right with
    | ok e =>
      obtain ⟨fits, rfl⟩ := combine_ok_iff.1 whole
      exact h _ mid (reached.step (.afterNext mark made fits)) later
    | error fault =>
      obtain ⟨equality, leftKnown, rightKnown, differ, rfl⟩ := combine_error_iff.1 whole
      exact ⟨left, right, ⟨⟨level, ts, mid, reached, mark, made⟩, equality, leftKnown,
        rightKnown, differ⟩, rfl, rfl, rfl⟩

theorem arguments_accounted (reached : Reached all .arguments ts) (here : Remains all ts) :
    Accounted all (arguments read ts) := by
  have inside := reached.step (.firstArgument ts)
  refine .bind (h .expression ts inside here) fun e mid made here => ?_
  dsimp only
  split
  next comma =>
    have inside := reached.step (.nextArguments (follows .expression _ _ made) comma)
    exact .bind (h .arguments _ inside (here.tail closed comma (by decide))) fun _ _ _ here => here
  next => exact here

theorem branch_accounted (reached : Reached all .statement ts) (word : nextKind ts = .ifWord)
    (here : Remains all ts) : Accounted all (branch read start ts.tail) := by
  have later := here.tail closed word (by decide)
  refine .bind (condition_accounted h closed (fun paren => reached.step (.branchTest word paren))
    later) fun test mid tested here => ?_
  have tested := condition_follows follows tested
  refine .bind (h .block mid (reached.step (.branchThen word tested)) here)
    fun thenMade after made here => ?_
  dsimp only
  split
  next other =>
    have inside := reached.step (.branchElse word tested (follows .block _ _ made) other)
    exact .bind (h .block _ inside (here.tail closed other (by decide))) fun _ _ _ here => here
  next => exact here

theorem loop_accounted (reached : Reached all .statement ts) (word : nextKind ts = .whileWord)
    (here : Remains all ts) : Accounted all (loop read start ts.tail) := by
  have later := here.tail closed word (by decide)
  refine .bind (condition_accounted h closed (fun paren => reached.step (.loopTest word paren))
    later) fun test mid tested here => ?_
  have inside := reached.step (.loopBody word (condition_follows follows tested))
  exact .bind (h .block mid inside here) fun _ _ _ here => here

theorem bareStatement_accounted (reached : Reached all .statement ts) (here : Remains all ts) :
    Accounted all (bareStatement read ts) := by
  obtain ⟨k, eq⟩ | ⟨k, eq⟩ | ⟨k, eq⟩ | ⟨k, eq⟩ | ⟨k, eq⟩ | ⟨k, eq⟩ | ⟨k, mark, eq⟩ | ⟨k, eq⟩ :=
    bareStatement_forms ts <;> rw [eq]
  · exact newVariable_accounted h closed reached k here
  · exact branch_accounted h closed follows reached k here
  · exact loop_accounted h closed follows reached k here
  · exact result_accounted h closed reached k here
  · exact here.tail closed k (by decide)
  · exact here.tail closed k (by decide)
  · have later := (here.tail closed k (by decide)).tail closed mark (by decide)
    exact .bind (h .expression _ (reached.step (.assigned k mark)) later) fun _ _ _ here => here
  · exact .bind (h .expression ts (reached.step (.expression k)) here) fun _ _ _ here => here

theorem statement_accounted (reached : Reached all .statement ts) (here : Remains all ts) :
    Accounted all (statement read ts) := by
  refine .bind (bareStatement_accounted h closed follows reached here) fun s ts _ here => ?_
  show Remains all (skipSemicolon ts)
  unfold skipSemicolon
  split
  next mark => exact here.tail closed mark (by decide)
  next => exact here

omit closed

theorem body_accounted (reached : Reached all .body ts) (here : Remains all ts) :
    Accounted all (Grammar.body read ts) := by
  unfold Grammar.body
  split
  next => exact here
  next more =>
    have first := reached.step (.bodyFirst more)
    refine .bind (h .statement ts first here) fun s mid made here => ?_
    have rest := reached.step (.bodyRest more (follows .statement _ _ made))
    exact .bind (h .body mid rest here) fun _ _ _ here => here

theorem program_accounted (reached : Reached all .program ts) (here : Remains all ts) :
    Accounted all (program read ts) := by
  unfold program
  split
  next => exact here
  next more =>
    have first := reached.step (.programFirst more)
    refine .bind (h .statement ts first here) fun s mid made here => ?_
    have rest := reached.step (.programRest more (follows .statement _ _ made))
    exact .bind (h .program mid rest here) fun _ _ _ here => here

end

/-- Every phrase that the reading of a source comes to leaves some of its tokens, or has a located
fault. -/
theorem readAll_accounted (closed : Closed all) : ∀ phrase ts, Reached all phrase ts →
    Remains all ts → Accounted all (readAll phrase ts) := by
  refine readAll_induction (P := fun phrase ts r => Reached all phrase ts → Remains all ts →
    Accounted all r) (fun ts => .unexpected .operand (next ts))
    (fun phrase ts _ here => here.next_mem) fun read follows h phrase ts reached here => ?_
  cases phrase with
  | program => exact program_accounted h follows reached here
  | body => exact body_accounted h follows reached here
  | block => exact block_accounted h closed reached here
  | statement => exact statement_accounted h closed follows reached here
  | operation level => exact operation_accounted h follows reached here
  | chain level left => exact chain_accounted h closed follows reached here
  | unary => exact unary_accounted h closed reached here
  | arguments => exact arguments_accounted h closed follows reached here

/-! ## Operands in their places -/

/-- A mismatch is the fault of the program, so there is no other. -/
theorem Mismatch.error {op : BinaryOp} {left right : Expr} (h : Mismatch all op left right) :
    readAll .program all = .error
      (.typeMismatch op left.staticType right.staticType (left.span.through right.span)) := by
  obtain ⟨level, mid, rest, reached, mark, made⟩ := h.written
  have refused := combine_error_iff.2 ⟨h.equality, h.leftKnown, h.rightKnown, h.differ, rfl⟩
  refine error_of_reached reached ?_
  rw [readAll_chain]
  unfold chain
  rw [mark]
  exact (bind_of_ok made).trans (bind_of_error refused)

/-- The left operand that the reading has come to stands directly before the tokens left. -/
theorem Reached.left_placed {size : Nat} {left : Expr} {mid : List Token}
    (laid : Token.Laid size all) (h : Reached all (.chain level left) mid) :
    ∃ ts, ts <:+ all ∧ mid <:+ ts ∧ left.Placed size all ts mid := by
  have placing := readAll_placing laid
  generalize eq : Phrase.chain level left = phrase at h
  induction h generalizing level left with
  | start => cases eq
  | @step _ _ ts _ before reads ih =>
    cases reads with
    | afterOperand made =>
      cases eq
      exact ⟨ts, before.suffix, (operand_ahead readAll_advances made).1,
        operand_placed placing before.suffix made⟩
    | afterNext mark made fits =>
      cases eq
      obtain ⟨us, sub, later, begun⟩ := ih rfl
      have tail := List.tail_suffix ts
      have last := operand_placed placing (tail.trans before.suffix) made
      exact ⟨us, sub, (operand_ahead readAll_advances made).1.trans (tail.trans later),
        binary_placed laid sub begun later last⟩
    | firstOperand level' | nextOperand => cases ‹Level› <;> cases eq
    | _ => cases eq

/-- The operands of a mismatch make up a piece of the source. -/
theorem Mismatch.taken {size : Nat} {op : BinaryOp} {left right : Expr}
    (h : Mismatch all op left right) (laid : Token.Laid size all) :
    ∃ rest, (left.span.through right.span).Taken all rest := by
  obtain ⟨level, mid, rest, reached, -, made⟩ := h.written
  obtain ⟨ts, sub, later, begun⟩ := reached.left_placed laid
  have tail := List.tail_suffix mid
  have last := operand_placed (readAll_placing laid) (tail.trans reached.suffix) made
  have whole := begun.taken.through (last.taken.widen tail (List.suffix_refl rest)) later
  exact ⟨rest, whole.widen sub (List.suffix_refl rest)⟩

end Grammar

/-! ## Diagnostics -/

namespace Token

variable {source : String} {ts rest : List Token}

theorem closed_of_tokenize (h : tokenize source = .ok ts) : Grammar.Closed ts := by
  intro t last
  rw [(covers_of_list h).getLast?] at last
  cases last
  rfl

theorem fits_of_tokenize (h : tokenize source = .ok ts) :
    ∀ t ∈ ts, t.span.Fits 0 source.toList :=
  (covers_of_list h).fits

theorem fits_of_taken (h : tokenize source = .ok ts) {span : Span} (taken : span.Taken ts rest) :
    span.Fits 0 source.toList := by
  obtain ⟨t, mem, start⟩ := taken.starts
  obtain ⟨t', mem', stop⟩ := taken.stops
  refine ⟨Nat.le_of_lt taken.wide, ?_, ?_⟩
  · exact start ▸ (fits_of_tokenize h t mem).start
  · exact stop ▸ (fits_of_tokenize h t' mem').stop

end Token

/-- The diagnostic points to `span`, a piece of the source, and to the position where it starts. -/
structure Diagnostic.LocatedAt (source : String) (span : Span) (d : Diagnostic) : Prop where
  place : d.span = some span
  fits : span.Fits 0 source.toList
  within : span.stop ≤ Text.byteLength source.toList
  position : d.position = some (.locate source span.start)

/-- What the diagnostic of a refused source tells of the piece of it at `span`. -/
inductive Diagnostic.Tells (source : String) (span : Span) (d : Diagnostic) : Prop
  | lexer (kind : d.kind = .lexer) (refused : (Token.tokenize source).isOk = false)
  | parser (kind : d.kind = .parser) (expected : d.expected ≠ [])
    (found : ∃ ts, Token.tokenize source = .ok ts ∧ ∃ t ∈ ts, span = t.span ∧
      ∃ wanted, d.message =
        wanted ++ if t.kind = .endOfInput then "end of input" else "`" ++ t.lexeme ++ "`")
  | typeMismatch (kind : d.kind = .typeMismatch)
    (found : ∃ ts, Token.tokenize source = .ok ts ∧ ∃ op left right,
      Grammar.Mismatch ts op left right ∧ span = left.span.through right.span)

/-- A diagnostic that is given its position has it from the start of its span. -/
theorem Diagnostic.locatedAt_of_fits {source : String} {span : Span} {d : Diagnostic}
    (bare : d.position = none) (place : d.span = some span) (fits : span.Fits 0 source.toList) :
    (d.locatedIn source).LocatedAt source span := by
  have located : d.locatedIn source = d.withPosition (.locate source span.start) := by
    unfold locatedIn
    rw [bare, place]
  rw [located]
  exact ⟨place, fits, fits.stop.le.trans_eq (Nat.zero_add _), rfl⟩

theorem Wanted.kinds_ne_nil (wanted : Wanted) : wanted.kinds ≠ [] := by
  cases wanted <;> decide

namespace Program

variable {source : String} {d : Diagnostic}

theorem parse_error_cases {fault : SourceFault} (h : parse source = .error fault) :
    (∃ lexical, Token.tokenize source = .error lexical ∧ fault = .lexical lexical) ∨
      ∃ ts grammatical, Token.tokenize source = .ok ts ∧
        Grammar.readAll .program ts = .error grammatical ∧ fault = .grammatical grammatical := by
  unfold parse at h
  split at h
  next lexical refused =>
    cases h
    exact .inl ⟨lexical, refused, rfl⟩
  next ts tokens =>
    split at h
    next grammatical refused =>
      cases h
      exact .inr ⟨ts, grammatical, tokens, Rule.map_error_iff.1 refused, rfl⟩
    next => cases h

theorem lexical_located {fault : LexFault} (refused : Token.tokenize source = .error fault) :
    ∃ span, (fault.diagnostic.locatedIn source).LocatedAt source span ∧
      (fault.diagnostic.locatedIn source).Tells source span := by
  refine ⟨fault.span, Diagnostic.locatedAt_of_fits rfl rfl (Token.fits_of_list_error refused), ?_⟩
  refine .lexer rfl ?_
  rw [refused]
  rfl

theorem grammatical_located {ts : List Token} {fault : ParseFault}
    (tokens : Token.tokenize source = .ok ts) (located : Grammar.Located ts fault) :
    ∃ span, (fault.diagnostic.locatedIn source).LocatedAt source span ∧
      (fault.diagnostic.locatedIn source).Tells source span := by
  cases fault with
  | unexpected wanted found =>
    have fits := Token.fits_of_tokenize tokens found located
    refine ⟨found.span, Diagnostic.locatedAt_of_fits rfl rfl fits, ?_⟩
    refine .parser rfl ?_ ⟨ts, tokens, found, located, rfl, wanted.message ++ ", found ", rfl⟩
    exact fun none => wanted.kinds_ne_nil (List.map_eq_nil_iff.1 none)
  | typeMismatch op leftType rightType span =>
    obtain ⟨left, right, mismatch, -, -, rfl⟩ := located
    obtain ⟨rest, taken⟩ := mismatch.taken (Token.laid_of_tokenize tokens)
    have fits := Token.fits_of_taken tokens taken
    refine ⟨_, Diagnostic.locatedAt_of_fits rfl rfl fits, ?_⟩
    exact .typeMismatch rfl ⟨ts, tokens, op, left, right, mismatch, rfl⟩
  | exhausted => exact located.elim

/-- The diagnostic of every refused source points to a piece of the source and to the position where
it starts. A diagnostic of the parser names the token that stands there, and that of a type
mismatch spans the operands of an equality. -/
theorem ofSource_error_located (h : ofSource source = .error d) :
    ∃ span, d.LocatedAt source span ∧ d.Tells source span := by
  obtain ⟨fault, refused, rfl⟩ : ∃ fault, parse source = .error fault ∧
      d = fault.diagnostic source := by
    unfold ofSource at h
    cases refused : parse source with
    | ok p => rw [refused] at h; cases h
    | error fault => rw [refused] at h; cases h; exact ⟨fault, rfl, rfl⟩
  rcases parse_error_cases refused with
    ⟨lexical, unlexed, rfl⟩ | ⟨ts, grammatical, tokens, unread, rfl⟩
  · exact lexical_located unlexed
  · have closed := Token.closed_of_tokenize tokens
    have whole : Grammar.Remains ts ts :=
      ⟨List.suffix_refl ts, (Token.covers_of_list tokens).ne_nil⟩
    have accounted := Grammar.readAll_accounted closed .program ts .start whole
    rw [unread] at accounted
    exact grammatical_located tokens accounted

theorem eq_error_of_fault {ε α : Type} {r : Except ε α} {e : ε}
    (h : (match r with | .ok _ => none | .error fault => some fault) = some e) : r = .error e := by
  cases r with
  | error fault => exact congrArg Except.error (Option.some.inj h)
  | ok a => cases h

/-- An equality of a number and a text, after a letter of two bytes. -/
theorem ofSource_error_located_mismatch :
    ∃ d, ofSource "é = (1 == \"a\")" = .error d ∧ d.kind = .typeMismatch ∧
      ∃ span, d.LocatedAt "é = (1 == \"a\")" span ∧ d.Tells "é = (1 == \"a\")" span := by
  have refused : ofSource "é = (1 == \"a\")" = .error
      { kind := .typeMismatch,
        message := "Type mismatch: cannot compare float with string using `==`",
        span := some ⟨6, 14⟩, position := some ⟨1, 6⟩,
        notes := ["`==` and `!=` require both operands to have the same type"] } :=
    eq_error_of_fault (by decide +kernel)
  exact ⟨_, refused, rfl, ofSource_error_located refused⟩

end Program
end Scriptlet
