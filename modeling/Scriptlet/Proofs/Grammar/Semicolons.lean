import Scriptlet.Proofs.Grammar.Fixpoint
import Scriptlet.Proofs.Lexing.Cover

/-
  Semicolons that may be left out.
  A semicolon that is read ends a statement, and where the token after it cannot continue an
  expression the statement would have ended there without it. So such a semicolon may be left out
  of every program, whatever stands around it (`Program.ofTokens_without_semicolon`). The exception
  is the one after a return without a value: what is returned ends only at a semicolon, at a brace
  or with the input, so without it the next statement is taken for the value
  (`readAll_return_unfinished`).
-/

namespace Scriptlet

namespace Grammar

/-- The kinds of tokens that cannot continue an expression, nor the branch before them: a statement
begins or a list of statements ends with them. -/
def Stops (kind : TokenKind) : Prop :=
  kind ∈ [.varWord, .ifWord, .whileWord, .returnWord, .breakWord, .continueWord, .rightBrace,
    .endOfInput]

instance (kind : TokenKind) : Decidable (Stops kind) :=
  inferInstanceAs (Decidable (_ ∈ _))

/-- The second list of tokens is the first one without the semicolon `mark`, which stands before
`post`, unless it is behind the first list. Directly after the word `return` the semicolon stands
only at the end of a list of statements. -/
inductive Dropped (mark : Token) (post : List Token) : List Token → List Token → Prop
  | behind (ts : List Token) : Dropped mark post ts ts
  | ahead (pre : List Token)
    (valued : ∀ t ∈ pre.getLast?, t.kind = .returnWord → ClosesBody (nextKind post)) :
    Dropped mark post (pre ++ mark :: post) (pre ++ post)

/-- What the reader accepts it also accepts without the semicolon. -/
def Tolerates (mark : Token) (post : List Token) {α : Type} (reader : Reader α) : Prop :=
  ∀ ts ts' r rest, Dropped mark post ts ts' → reader ts = .ok (r, rest) →
    ∃ rest', reader ts' = .ok (r, rest') ∧ Dropped mark post rest rest'

/-- Whether a phrase is what may follow an operand. -/
def Continues : Phrase → Prop
  | .chain _ _ => True
  | _ => False

/-- No phrase that is accepted begins with a semicolon, but for what may follow an operand. -/
def Beginning (read : Readers) : Prop :=
  ∀ (phrase : Phrase) (ts : List Token) (r : phrase.Result) (rest : List Token),
    ¬ Continues phrase → read phrase ts = .ok (r, rest) → nextKind ts ≠ .semicolon

variable {read : Readers} {mark name start : Token} {post ts ts' rest : List Token} {level : Level}
  {e left : Expr} {s : Stmt}

/-! ## The token at hand -/

namespace Dropped

/-- What holds of the last token holds of it when the first one is gone. -/
theorem valued_tail {P : Token → Prop} {t : Token} {pre : List Token}
    (valued : ∀ u ∈ (t :: pre).getLast?, P u) : ∀ u ∈ pre.getLast?, P u := by
  intro u last
  refine valued u ?_
  cases pre with
  | nil => cases last
  | cons v pre => rwa [List.getLast?_cons_cons]

theorem step (semicolon : mark.kind = .semicolon) (h : Dropped mark post ts ts')
    (ne : nextKind ts ≠ .semicolon) :
    next ts' = next ts ∧ Dropped mark post ts.tail ts'.tail := by
  cases h with
  | behind => exact ⟨rfl, .behind _⟩
  | ahead pre valued =>
    cases pre with
    | nil => exact absurd semicolon ne
    | cons t pre =>
      exact ⟨rfl, .ahead pre (valued_tail valued)⟩

theorem nextKind_eq (semicolon : mark.kind = .semicolon) (h : Dropped mark post ts ts')
    {kind : TokenKind} (begins : nextKind ts = kind) (ne : kind ≠ .semicolon) :
    nextKind ts' = kind :=
  (congrArg Token.kind (h.step semicolon (begins ▸ ne)).1).trans begins

/-- Without the semicolon the next token is the same, unless it was the semicolon. -/
theorem nextKind_cases (semicolon : mark.kind = .semicolon) (stops : Stops (nextKind post))
    (h : Dropped mark post ts ts') :
    nextKind ts' = nextKind ts ∨ (nextKind ts = .semicolon ∧ Stops (nextKind ts')) := by
  cases h with
  | behind => exact .inl rfl
  | ahead pre =>
    cases pre with
    | nil => exact .inr ⟨semicolon, stops⟩
    | cons t pre => exact .inl rfl

theorem nextKind_ne (semicolon : mark.kind = .semicolon) (stops : Stops (nextKind post))
    (h : Dropped mark post ts ts') {kind : TokenKind} (other : ¬ Stops kind)
    (ne : nextKind ts ≠ kind) : nextKind ts' ≠ kind := by
  rcases h.nextKind_cases semicolon stops with same | ⟨-, stops⟩
  · rwa [same]
  · rintro rfl
    exact other stops

/-- Directly after the word `return` the semicolon was not needed to end the result. -/
theorem endsResult_eq (semicolon : mark.kind = .semicolon) (h : Dropped mark post ts ts')
    (returns : nextKind ts = .returnWord) :
    endsResult (nextKind ts'.tail) = endsResult (nextKind ts.tail) := by
  cases h with
  | behind => rfl
  | ahead pre valued =>
    match pre with
    | [] => exact absurd (semicolon.symm.trans returns) (by decide)
    | [t] =>
      have withMark : endsResult mark.kind = true := by rw [semicolon]; rfl
      have without : endsResult (nextKind post) = true := by
        rcases valued t rfl returns with brace | input
        · rw [brace]
          rfl
        · rw [input]
          rfl
      exact without.trans withMark.symm
    | t :: u :: pre => rfl

end Dropped

/-! ## Parameter lists -/

theorem moreParams?_of_first (ne : nextKind ts ≠ .identifier) : moreParams? ts = none := by
  unfold moreParams?
  split
  next => exact if_pos ne
  next => rfl

theorem moreParams?_of_second (close : nextKind ts.tail ≠ .rightParen)
    (comma : nextKind ts.tail ≠ .comma) : moreParams? ts = none := by
  unfold moreParams?
  split
  next name second ts =>
    have close : second.kind ≠ .rightParen := close
    have comma : second.kind ≠ .comma := comma
    rw [if_neg close, if_neg comma, ite_self]
  next => rfl

/-- The two lists of parameters have the same names, and what is left differs by the semicolon. -/
abbrev SameParams (mark : Token) (post : List Token) :
    Option (List String × List Token) → Option (List String × List Token) → Prop :=
  Option.Rel fun a a' => a'.1 = a.1 ∧ Dropped mark post a.2 a'.2

section

variable (semicolon : mark.kind = .semicolon) (stops : Stops (nextKind post))
include semicolon stops

theorem moreParams?_without : ∀ pre : List Token,
    (∀ t ∈ pre.getLast?, t.kind = .returnWord → ClosesBody (nextKind post)) →
    SameParams mark post (moreParams? (pre ++ mark :: post)) (moreParams? (pre ++ post))
  | [], _ => by
    have withMark : moreParams? (mark :: post) = none :=
      moreParams?_of_first (fun same => absurd (semicolon.symm.trans same) (by decide))
    have without : moreParams? post = none :=
      moreParams?_of_first (fun same => absurd (same ▸ stops) (by decide))
    show SameParams mark post (moreParams? (mark :: post)) (moreParams? post)
    rw [withMark, without]
    exact .none
  | [name], _ => by
    have withMark : moreParams? (name :: mark :: post) = none :=
      moreParams?_of_second (fun same => absurd (semicolon.symm.trans same) (by decide))
        (fun same => absurd (semicolon.symm.trans same) (by decide))
    have without : moreParams? (name :: post) = none :=
      moreParams?_of_second (fun same => absurd (same ▸ stops) (by decide))
        (fun same => absurd (same ▸ stops) (by decide))
    show SameParams mark post (moreParams? (name :: mark :: post)) (moreParams? (name :: post))
    rw [withMark, without]
    exact .none
  | name :: next :: pre, valued => by
    have later := Dropped.valued_tail (Dropped.valued_tail valued)
    show SameParams mark post (moreParams? (name :: next :: (pre ++ mark :: post)))
      (moreParams? (name :: next :: (pre ++ post)))
    unfold moreParams?
    split
    next => exact .none
    split
    next => exact .some ⟨rfl, .ahead pre later⟩
    split
    next =>
      have inside := moreParams?_without pre later
      revert inside
      generalize moreParams? (pre ++ mark :: post) = o, moreParams? (pre ++ post) = o'
      rintro (⟨names, left⟩ | _)
      · exact .some ⟨congrArg (name.lexeme :: ·) names, left⟩
      · exact .none
    next => exact .none

theorem sameParams_more (h : Dropped mark post ts ts') :
    SameParams mark post (moreParams? ts) (moreParams? ts') := by
  cases h with
  | behind =>
    cases moreParams? ts with
    | none => exact .none
    | some a => exact .some ⟨rfl, .behind _⟩
  | ahead pre valued => exact moreParams?_without semicolon stops pre valued

/-- The list of parameters, if an opening brace is left after it. -/
def beforeBrace (a : List String × List Token) : Option (List String × List Token) :=
  (guard (nextKind a.2 = .leftBrace) : Option Unit).bind fun _ => some a

theorem sameParams_beforeBrace {o o' : Option (List String × List Token)}
    (h : SameParams mark post o o') :
    SameParams mark post (o.bind beforeBrace) (o'.bind beforeBrace) := by
  cases h with
  | none => exact .none
  | @some a a' h =>
    obtain ⟨names, left⟩ := h
    show SameParams mark post (beforeBrace a) (beforeBrace a')
    unfold beforeBrace
    by_cases brace : nextKind a.2 = .leftBrace
    · rw [guard_of_holds brace, guard_of_holds (left.nextKind_eq semicolon brace (by decide))]
      exact .some ⟨names, left⟩
    · rw [guard_of_fails brace, guard_of_fails (left.nextKind_ne semicolon stops (by decide) brace)]
      exact .none

theorem params?_without (h : Dropped mark post ts ts') :
    SameParams mark post (params? ts) (params? ts') := by
  have shape : ∀ ts, params? ts = (guard (nextKind ts = .leftParen) : Option Unit).bind fun _ =>
      (if nextKind ts.tail = .rightParen then some ([], ts.tail.tail)
        else moreParams? ts.tail).bind beforeBrace := by
    intro ts
    unfold params?
    by_cases close : nextKind ts.tail = .rightParen
    · rw [if_pos close, if_pos close]
      rfl
    · rw [if_neg close, if_neg close]
      rfl
  rw [shape, shape]
  by_cases paren : nextKind ts = .leftParen
  · have inside := (h.step semicolon (by rw [paren]; decide)).2
    rw [guard_of_holds paren, guard_of_holds (h.nextKind_eq semicolon paren (by decide))]
    refine sameParams_beforeBrace semicolon stops ?_
    by_cases close : nextKind ts.tail = .rightParen
    · have left := (inside.step semicolon (by rw [close]; decide)).2
      rw [if_pos close, if_pos (inside.nextKind_eq semicolon close (by decide))]
      exact .some ⟨rfl, left⟩
    · rw [if_neg close, if_neg (inside.nextKind_ne semicolon stops (by decide) close)]
      exact sameParams_more semicolon stops inside
  · rw [guard_of_fails paren, guard_of_fails (h.nextKind_ne semicolon stops (by decide) paren)]
    exact .none

end

/-! ## How phrases begin -/

section

variable (begins : Beginning read)
include begins

theorem expression_begins (made : read (.operation level) ts = .ok (e, rest)) :
    nextKind ts ≠ .semicolon :=
  begins (.operation level) _ _ _ not_false made

theorem operand_begins (made : operand read level ts = .ok (e, rest)) :
    nextKind ts ≠ .semicolon := by
  cases level with
  | disjunction => exact expression_begins begins made
  | conjunction => exact expression_begins begins made
  | comparison => exact expression_begins begins made
  | sum => exact expression_begins begins made
  | product => exact begins .unary _ _ _ not_false made

omit begins in
theorem primary_begins (made : primary read ts = .ok (e, rest)) : nextKind ts ≠ .semicolon := by
  rcases primary_ok_iff.1 made with ⟨paren, -⟩ | ⟨name, -⟩ | ⟨-, -, v, hv, -⟩
  · rw [paren]
    decide
  · rw [name]
    decide
  · intro semicolon
    unfold nextKind at semicolon
    unfold literal? at hv
    rw [semicolon] at hv
    cases hv

omit begins in
theorem unary_begins (made : unary read ts = .ok (e, rest)) : nextKind ts ≠ .semicolon := by
  rcases unary_ok_iff.1 made with ⟨op, operand, hop, -⟩ | ⟨-, hp⟩
  · intro semicolon
    rw [semicolon] at hop
    cases hop
  · exact primary_begins hp

theorem bareStatement_begins (made : bareStatement read ts = .ok (s, rest)) :
    nextKind ts ≠ .semicolon := by
  obtain ⟨k, -⟩ | ⟨k, -⟩ | ⟨k, -⟩ | ⟨k, -⟩ | ⟨k, -⟩ | ⟨k, -⟩ | ⟨k, -⟩ | ⟨-, eq⟩ :=
    bareStatement_forms ts
  case inr.inr.inr.inr.inr.inr.inr =>
    rw [eq] at made
    obtain ⟨value, hv, -⟩ := expressionStatement_ok_iff.1 made
    exact expression_begins begins hv
  all_goals
    rw [k]
    decide

theorem produce_beginning : Beginning (produce read) := by
  intro phrase ts r rest other made
  cases phrase with
  | program =>
    rcases program_ok_iff.1 made with ⟨ends, -⟩ | ⟨-, s, mid, more, hs, -⟩
    · rw [ends]
      decide
    · exact begins .statement _ _ _ not_false hs
  | body =>
    rcases body_ok_iff.1 made with ⟨closes, -⟩ | ⟨-, s, mid, more, hs, -⟩
    · rcases closes with brace | input
      · rw [brace]
        decide
      · rw [input]
        decide
    · exact begins .statement _ _ _ not_false hs
  | block =>
    obtain ⟨body, span⟩ := r
    rcases block_ok_iff.1 made with ⟨opening, -⟩ | ⟨-, s, hs, -⟩
    · rw [opening]
      decide
    · exact begins .statement _ _ _ not_false hs
  | statement =>
    obtain ⟨mid, hs, -⟩ := statement_ok_iff.1 made
    exact bareStatement_begins begins hs
  | operation level =>
    obtain ⟨left, mid, ho, -⟩ := operation_ok_iff.1 made
    exact operand_begins begins ho
  | chain level left => exact absurd trivial other
  | unary => exact unary_begins made
  | arguments =>
    obtain ⟨e, mid, he, -⟩ := arguments_ok_iff.1 made
    exact expression_begins begins he

end

theorem read_beginning (fuel : Nat) : Beginning (Grammar.read fuel) := by
  induction fuel with
  | zero =>
    intro phrase ts r rest other made
    cases made
  | succ fuel ih => exact produce_beginning ih

/-! ## Productions -/

section

variable (semicolon : mark.kind = .semicolon) (stops : Stops (nextKind post))
  (begins : Beginning read) (inner : ∀ phrase, Tolerates mark post (read phrase))
include semicolon stops begins inner

omit semicolon stops begins in
theorem operand_tolerates (level : Level) : Tolerates mark post (operand read level) := by
  cases level with
  | disjunction => exact inner _
  | conjunction => exact inner _
  | comparison => exact inner _
  | sum => exact inner _
  | product => exact inner .unary

omit semicolon stops begins in
theorem operation_tolerates (level : Level) : Tolerates mark post (operation read level) := by
  intro ts ts' e rest dropped made
  obtain ⟨left, mid, ho, hc⟩ := operation_ok_iff.1 made
  obtain ⟨mid', ho', dropped⟩ := operand_tolerates inner level _ _ _ _ dropped ho
  obtain ⟨rest', hc', dropped⟩ := inner _ _ _ _ _ dropped hc
  exact ⟨rest', operation_ok_iff.2 ⟨left, mid', ho', hc'⟩, dropped⟩

omit semicolon stops begins inner in
theorem operator?_of_stops (level : Level) {kind : TokenKind} (stops : Stops kind) :
    level.operator? kind = none := by
  revert stops
  cases level <;> cases kind <;> decide

omit begins in
theorem chain_tolerates (level : Level) (left : Expr) :
    Tolerates mark post (chain read level left) := by
  intro ts ts' e rest dropped made
  rcases chain_ok_iff.1 made with ⟨ends, rfl, rfl⟩ | ⟨op, right, mid, goes, ho, fits, hc⟩
  · have still : level.operator? (nextKind ts') = none := by
      rcases dropped.nextKind_cases semicolon stops with same | ⟨-, stops⟩
      · rwa [same]
      · exact operator?_of_stops level stops
    exact ⟨ts', chain_ok_iff.2 (.inl ⟨still, rfl, rfl⟩), dropped⟩
  · have ne : nextKind ts ≠ .semicolon := by
      intro same
      rw [same] at goes
      cases level <;> cases goes
    obtain ⟨same, dropped⟩ := dropped.step semicolon ne
    have still : level.operator? (nextKind ts') = some op := by
      unfold nextKind at goes ⊢
      rwa [same]
    obtain ⟨mid', ho', dropped⟩ := operand_tolerates inner level _ _ _ _ dropped ho
    obtain ⟨rest', hc', dropped⟩ := inner _ _ _ _ _ dropped hc
    exact ⟨rest', chain_ok_iff.2 (.inr ⟨op, right, mid', still, ho', fits, hc'⟩), dropped⟩

omit stops begins in
theorem braces_without (opening : nextKind ts = .leftBrace) {block : List Stmt × Span}
    (dropped : Dropped mark post ts ts') (made : braces read ts = .ok (block, rest)) :
    ∃ rest', braces read ts' = .ok (block, rest') ∧ Dropped mark post rest rest' := by
  obtain ⟨body, span⟩ := block
  obtain ⟨mid, hb, close, rfl, rfl⟩ := braces_ok_iff.1 made
  obtain ⟨sameOpening, dropped⟩ := dropped.step semicolon (by rw [opening]; decide)
  obtain ⟨mid', hb', dropped⟩ := inner .body _ _ _ _ dropped hb
  obtain ⟨sameClose, dropped'⟩ := dropped.step semicolon (by rw [close]; decide)
  have close' := dropped.nextKind_eq semicolon close (by decide)
  refine ⟨mid'.tail, braces_ok_iff.2 ⟨mid', hb', close', ?_, rfl⟩, dropped'⟩
  rw [sameOpening, sameClose]

omit begins in
theorem callArguments_tolerates : Tolerates mark post (callArguments read) := by
  intro ts ts' args rest dropped made
  rcases callArguments_ok_iff.1 made with ⟨close, rfl, rfl⟩ | ⟨more, ha⟩
  · have close' := dropped.nextKind_eq semicolon close (by decide)
    exact ⟨ts', callArguments_ok_iff.2 (.inl ⟨close', rfl, rfl⟩), dropped⟩
  · have more' := dropped.nextKind_ne semicolon stops (by decide) more
    obtain ⟨rest', ha', dropped⟩ := inner .arguments _ _ _ _ dropped ha
    exact ⟨rest', callArguments_ok_iff.2 (.inr ⟨more', ha'⟩), dropped⟩

omit begins in
theorem call_tolerates (name : Token) : Tolerates mark post (call read name) := by
  intro ts ts' e rest dropped made
  obtain ⟨args, mid, ha, close, rfl, rfl⟩ := call_ok_iff.1 made
  obtain ⟨mid', ha', dropped⟩ := callArguments_tolerates semicolon stops inner _ _ _ _ dropped ha
  obtain ⟨same, dropped'⟩ := dropped.step semicolon (by rw [close]; decide)
  have close' := dropped.nextKind_eq semicolon close (by decide)
  refine ⟨mid'.tail, call_ok_iff.2 ⟨args, mid', ha', close', ?_, rfl⟩, dropped'⟩
  rw [same]

omit begins in
theorem named_tolerates (name : Token) : Tolerates mark post (named read name) := by
  intro ts ts' e rest dropped made
  have params := params?_without semicolon stops dropped
  rcases named_ok_iff.1 made with ⟨names, mid, hp, hd⟩ | ⟨no, paren, hc⟩ |
    ⟨no, noParen, rfl, rfl⟩
  · rw [hp] at params
    generalize hp' : params? ts' = o' at params
    cases params with
    | @some _ a h =>
      obtain ⟨names', mid'⟩ := a
      obtain ⟨rfl, dropped⟩ := h
      obtain ⟨body, span, hb, rfl⟩ := declaration_ok_iff.1 hd
      have opening := (params?_eq_some_iff.1 hp).2.1
      obtain ⟨rest', hb', dropped⟩ := braces_without semicolon inner opening dropped hb
      have hd' : declaration read name names' mid' =
          .ok (declared name names' body span, rest') :=
        declaration_ok_iff.2 ⟨body, span, hb', rfl⟩
      exact ⟨rest', named_ok_iff.2 (.inl ⟨names', mid', hp', hd'⟩), dropped⟩
  · rw [no] at params
    generalize no' : params? ts' = o' at params
    cases params
    have paren' := dropped.nextKind_eq semicolon paren (by decide)
    have inside := (dropped.step semicolon (by rw [paren]; decide)).2
    obtain ⟨rest', hc', dropped⟩ := call_tolerates semicolon stops inner name _ _ _ _ inside hc
    exact ⟨rest', named_ok_iff.2 (.inr (.inl ⟨no', paren', hc'⟩)), dropped⟩
  · rw [no] at params
    generalize no' : params? ts' = o' at params
    cases params
    have noParen' := dropped.nextKind_ne semicolon stops (by decide) noParen
    exact ⟨ts', named_ok_iff.2 (.inr (.inr ⟨no', noParen', rfl, rfl⟩)), dropped⟩

omit begins in
theorem primary_tolerates : Tolerates mark post (primary read) := by
  intro ts ts' e rest dropped made
  obtain ⟨same, inside⟩ := dropped.step semicolon (primary_begins made)
  have sameKind : nextKind ts' = nextKind ts := congrArg Token.kind same
  rcases primary_ok_iff.1 made with ⟨paren, mid, he, close, rfl⟩ | ⟨name, hn⟩ |
    ⟨noParen, noName, v, hv, rfl, rfl⟩
  · obtain ⟨mid', he', dropped⟩ := inner .expression _ _ _ _ inside he
    have close' := dropped.nextKind_eq semicolon close (by decide)
    have after := (dropped.step semicolon (by rw [close]; decide)).2
    exact ⟨mid'.tail, primary_ok_iff.2 (.inl ⟨sameKind.trans paren, mid', he', close', rfl⟩), after⟩
  · obtain ⟨rest', hn', dropped⟩ :=
      named_tolerates semicolon stops inner (next ts) _ _ _ _ inside hn
    rw [← same] at hn'
    exact ⟨rest', primary_ok_iff.2 (.inr (.inl ⟨sameKind.trans name, hn'⟩)), dropped⟩
  · refine ⟨ts'.tail, primary_ok_iff.2 (.inr (.inr ⟨?_, ?_, v, ?_, ?_, rfl⟩)), inside⟩
    · rwa [sameKind]
    · rwa [sameKind]
    · rwa [same]
    · rw [same]

omit begins in
theorem unary_tolerates : Tolerates mark post (unary read) := by
  intro ts ts' e rest dropped made
  obtain ⟨same, inside⟩ := dropped.step semicolon (unary_begins made)
  have sameKind : nextKind ts' = nextKind ts := congrArg Token.kind same
  rcases unary_ok_iff.1 made with ⟨op, operand, hop, ho, rfl⟩ | ⟨none, hp⟩
  · obtain ⟨rest', ho', dropped⟩ := inner .unary _ _ _ _ inside ho
    refine ⟨rest', unary_ok_iff.2 (.inl ⟨op, operand, ?_, ho', ?_⟩), dropped⟩
    · rwa [sameKind]
    · rw [same]
  · obtain ⟨rest', hp', dropped⟩ := primary_tolerates semicolon stops inner _ _ _ _ dropped hp
    exact ⟨rest', unary_ok_iff.2 (.inr ⟨sameKind ▸ none, hp'⟩), dropped⟩

omit begins in
theorem arguments_tolerates : Tolerates mark post (arguments read) := by
  intro ts ts' args rest dropped made
  obtain ⟨e, mid, he, last⟩ := arguments_ok_iff.1 made
  obtain ⟨mid', he', dropped⟩ := inner .expression _ _ _ _ dropped he
  rcases last with ⟨noComma, rfl, rfl⟩ | ⟨comma, more, hm, rfl⟩
  · have noComma' := dropped.nextKind_ne semicolon stops (by decide) noComma
    exact ⟨mid', arguments_ok_iff.2 ⟨e, mid', he', .inl ⟨noComma', rfl, rfl⟩⟩, dropped⟩
  · have comma' := dropped.nextKind_eq semicolon comma (by decide)
    have after := (dropped.step semicolon (by rw [comma]; decide)).2
    obtain ⟨rest', hm', dropped⟩ := inner .arguments _ _ _ _ after hm
    exact ⟨rest', arguments_ok_iff.2 ⟨e, mid', he', .inr ⟨comma', more, hm', rfl⟩⟩, dropped⟩

omit stops begins in
theorem condition_tolerates (wanted : Wanted) :
    Tolerates mark post (condition read wanted) := by
  intro ts ts' e rest dropped made
  obtain ⟨paren, mid, he, close, rfl⟩ := condition_ok_iff.1 made
  have paren' := dropped.nextKind_eq semicolon paren (by decide)
  have inside := (dropped.step semicolon (by rw [paren]; decide)).2
  obtain ⟨mid', he', dropped⟩ := inner .expression _ _ _ _ inside he
  have close' := dropped.nextKind_eq semicolon close (by decide)
  have after := (dropped.step semicolon (by rw [close]; decide)).2
  exact ⟨mid'.tail, condition_ok_iff.2 ⟨paren', mid', he', close', rfl⟩, after⟩

omit begins in
theorem branch_tolerates (start : Token) : Tolerates mark post (branch read start) := by
  intro ts ts' s rest dropped made
  obtain ⟨test, mid, thenBody, thenSpan, after, ht, hb, last⟩ := branch_ok_iff.1 made
  obtain ⟨mid', ht', dropped⟩ := condition_tolerates semicolon inner .ifParen _ _ _ _ dropped ht
  obtain ⟨after', hb', dropped⟩ := inner .block _ _ _ _ dropped hb
  rcases last with ⟨noElse, rfl, rfl⟩ | ⟨hasElse, elseBody, elseSpan, he, rfl⟩
  · have noElse' := dropped.nextKind_ne semicolon stops (by decide) noElse
    exact ⟨after', branch_ok_iff.2 ⟨test, mid', thenBody, thenSpan, after', ht', hb',
      .inl ⟨noElse', rfl, rfl⟩⟩, dropped⟩
  · have hasElse' := dropped.nextKind_eq semicolon hasElse (by decide)
    have inside := (dropped.step semicolon (by rw [hasElse]; decide)).2
    obtain ⟨rest', he', dropped⟩ := inner .block _ _ _ _ inside he
    exact ⟨rest', branch_ok_iff.2 ⟨test, mid', thenBody, thenSpan, after', ht', hb',
      .inr ⟨hasElse', elseBody, elseSpan, he', rfl⟩⟩, dropped⟩

omit stops begins in
theorem loop_tolerates (start : Token) : Tolerates mark post (loop read start) := by
  intro ts ts' s rest dropped made
  obtain ⟨test, mid, body, span, ht, hb, rfl⟩ := loop_ok_iff.1 made
  obtain ⟨mid', ht', dropped⟩ :=
    condition_tolerates semicolon inner .whileParen _ _ _ _ dropped ht
  obtain ⟨rest', hb', dropped⟩ := inner .block _ _ _ _ dropped hb
  exact ⟨rest', loop_ok_iff.2 ⟨test, mid', body, span, ht', hb', rfl⟩, dropped⟩

omit semicolon stops begins in
/-- A return ends where it did if the token after the word tells so still. -/
theorem result_without (start : Token) (ends : endsResult (nextKind ts') = endsResult (nextKind ts))
    (dropped : Dropped mark post ts ts') (made : result read start ts = .ok (s, rest)) :
    ∃ rest', result read start ts' = .ok (s, rest') ∧ Dropped mark post rest rest' := by
  rcases result_ok_iff.1 made with ⟨bare, rfl, rfl⟩ | ⟨valued, value, hv, rfl⟩
  · exact ⟨ts', result_ok_iff.2 (.inl ⟨ends.trans bare, rfl, rfl⟩), dropped⟩
  · obtain ⟨rest', hv', dropped⟩ := inner .expression _ _ _ _ dropped hv
    exact ⟨rest', result_ok_iff.2 (.inr ⟨ends.trans valued, value, hv', rfl⟩), dropped⟩

omit stops begins in
theorem newVariable_tolerates (start : Token) : Tolerates mark post (newVariable read start) := by
  intro ts ts' s rest dropped made
  obtain ⟨name, equals, value, hv, rfl⟩ := newVariable_ok_iff.1 made
  have name' := dropped.nextKind_eq semicolon name (by decide)
  obtain ⟨same, dropped⟩ := dropped.step semicolon (by rw [name]; decide)
  have equals' := dropped.nextKind_eq semicolon equals (by decide)
  have inside := (dropped.step semicolon (by rw [equals]; decide)).2
  obtain ⟨rest', hv', dropped⟩ := inner .expression _ _ _ _ inside hv
  refine ⟨rest', newVariable_ok_iff.2 ⟨name', equals', value, hv', ?_⟩, dropped⟩
  rw [same]

omit stops begins in
theorem assignment_without (name : Token) (equals : nextKind ts = .equals)
    (dropped : Dropped mark post ts ts') (made : assignment read name ts = .ok (s, rest)) :
    ∃ rest', assignment read name ts' = .ok (s, rest') ∧ Dropped mark post rest rest' := by
  obtain ⟨value, hv, rfl⟩ := assignment_ok_iff.1 made
  have inside := (dropped.step semicolon (by rw [equals]; decide)).2
  obtain ⟨rest', hv', dropped⟩ := inner .expression _ _ _ _ inside hv
  exact ⟨rest', assignment_ok_iff.2 ⟨value, hv', rfl⟩, dropped⟩

omit semicolon stops begins in
theorem expressionStatement_tolerates : Tolerates mark post (expressionStatement read) := by
  intro ts ts' s rest dropped made
  obtain ⟨value, hv, rfl⟩ := expressionStatement_ok_iff.1 made
  obtain ⟨rest', hv', dropped⟩ := inner .expression _ _ _ _ dropped hv
  exact ⟨rest', expressionStatement_ok_iff.2 ⟨value, hv', rfl⟩, dropped⟩

theorem bareStatement_tolerates : Tolerates mark post (bareStatement read) := by
  intro ts ts' s rest dropped made
  obtain ⟨same, inside⟩ := dropped.step semicolon (bareStatement_begins begins made)
  obtain ⟨k, eq⟩ | ⟨k, eq⟩ | ⟨k, eq⟩ | ⟨k, eq⟩ | ⟨k, eq⟩ | ⟨k, eq⟩ | ⟨k, equals, eq⟩ | ⟨k, eq⟩ :=
    bareStatement_forms ts <;> rw [eq] at made <;> unfold nextKind at k
  · have eq' : bareStatement read ts' = newVariable read (next ts) ts'.tail := by
      simp only [bareStatement, same, k]
    rw [eq']
    exact newVariable_tolerates semicolon inner _ _ _ _ _ inside made
  · have eq' : bareStatement read ts' = branch read (next ts) ts'.tail := by
      simp only [bareStatement, same, k]
    rw [eq']
    exact branch_tolerates semicolon stops inner _ _ _ _ _ inside made
  · have eq' : bareStatement read ts' = loop read (next ts) ts'.tail := by
      simp only [bareStatement, same, k]
    rw [eq']
    exact loop_tolerates semicolon inner _ _ _ _ _ inside made
  · have eq' : bareStatement read ts' = result read (next ts) ts'.tail := by
      simp only [bareStatement, same, k]
    rw [eq']
    exact result_without inner _ (dropped.endsResult_eq semicolon k) inside made
  · cases made
    have eq' : bareStatement read ts' = .ok (.jump .breakLoop (next ts).span, ts'.tail) := by
      simp only [bareStatement, same, k]
    exact ⟨_, eq', inside⟩
  · cases made
    have eq' : bareStatement read ts' = .ok (.jump .continueLoop (next ts).span, ts'.tail) := by
      simp only [bareStatement, same, k]
    exact ⟨_, eq', inside⟩
  · have equals' := inside.nextKind_eq semicolon equals (by decide)
    have eq' : bareStatement read ts' = assignment read (next ts) ts'.tail := by
      simp only [bareStatement, same, k, if_pos equals']
    rw [eq']
    exact assignment_without semicolon inner _ equals inside made
  · have begins' : BeginsExpression (nextKind ts') (nextKind ts'.tail) := by
      have sameKind : nextKind ts' = nextKind ts := congrArg Token.kind same
      rw [sameKind]
      exact ⟨k.1, fun name => inside.nextKind_ne semicolon stops (by decide) (k.2 name)⟩
    rw [bareStatement_of_beginsExpression begins']
    exact expressionStatement_tolerates inner _ _ _ _ dropped made

omit begins inner in
theorem dropped_skipSemicolon (dropped : Dropped mark post ts ts') :
    Dropped mark post (skipSemicolon ts) (skipSemicolon ts') := by
  unfold skipSemicolon
  by_cases here : nextKind ts = .semicolon
  · rw [if_pos here]
    cases dropped with
    | behind =>
      rw [if_pos here]
      exact .behind _
    | ahead pre valued =>
      cases pre with
      | nil =>
        have none : nextKind post ≠ .semicolon := fun same => absurd (same ▸ stops) (by decide)
        show Dropped mark post post (if nextKind post = .semicolon then post.tail else post)
        rw [if_neg none]
        exact .behind _
      | cons t pre =>
        rw [if_pos (show nextKind (t :: pre ++ post) = .semicolon from here)]
        exact .ahead pre (Dropped.valued_tail valued)
  · rw [if_neg here, if_neg (dropped.nextKind_ne semicolon stops (by decide) here)]
    exact dropped

theorem statement_tolerates : Tolerates mark post (statement read) := by
  intro ts ts' s rest dropped made
  obtain ⟨mid, hs, rfl⟩ := statement_ok_iff.1 made
  obtain ⟨mid', hs', dropped⟩ :=
    bareStatement_tolerates semicolon stops begins inner _ _ _ _ dropped hs
  exact ⟨skipSemicolon mid', statement_ok_iff.2 ⟨mid', hs', rfl⟩,
    dropped_skipSemicolon semicolon stops dropped⟩

omit begins in
theorem block_tolerates : Tolerates mark post (block read) := by
  rintro ts ts' ⟨body, span⟩ rest dropped made
  rcases block_ok_iff.1 made with ⟨opening, hb⟩ | ⟨noBrace, s, hs, rfl, rfl⟩
  · have opening' := dropped.nextKind_eq semicolon opening (by decide)
    obtain ⟨rest', hb', dropped⟩ := braces_without semicolon inner opening dropped hb
    exact ⟨rest', block_ok_iff.2 (.inl ⟨opening', hb'⟩), dropped⟩
  · have noBrace' := dropped.nextKind_ne semicolon stops (by decide) noBrace
    obtain ⟨rest', hs', dropped⟩ := inner .statement _ _ _ _ dropped hs
    exact ⟨rest', block_ok_iff.2 (.inr ⟨noBrace', s, hs', rfl, rfl⟩), dropped⟩

omit stops in
theorem body_tolerates : Tolerates mark post (Grammar.body read) := by
  intro ts ts' body rest dropped made
  have sameKind : nextKind ts' = nextKind ts :=
    dropped.nextKind_eq semicolon rfl (produce_beginning begins .body _ _ _ not_false made)
  rcases body_ok_iff.1 made with ⟨closes, rfl, rfl⟩ | ⟨goes, s, mid, more, hs, hm, rfl⟩
  · exact ⟨ts', body_ok_iff.2 (.inl ⟨sameKind ▸ closes, rfl, rfl⟩), dropped⟩
  · obtain ⟨mid', hs', dropped⟩ := inner .statement _ _ _ _ dropped hs
    obtain ⟨rest', hm', dropped⟩ := inner .body _ _ _ _ dropped hm
    exact ⟨rest', body_ok_iff.2 (.inr ⟨sameKind ▸ goes, s, mid', more, hs', hm', rfl⟩), dropped⟩

omit stops in
theorem program_tolerates : Tolerates mark post (program read) := by
  intro ts ts' body rest dropped made
  have sameKind : nextKind ts' = nextKind ts :=
    dropped.nextKind_eq semicolon rfl (produce_beginning begins .program _ _ _ not_false made)
  rcases program_ok_iff.1 made with ⟨closes, rfl, rfl⟩ | ⟨goes, s, mid, more, hs, hm, rfl⟩
  · exact ⟨ts', program_ok_iff.2 (.inl ⟨sameKind ▸ closes, rfl, rfl⟩), dropped⟩
  · obtain ⟨mid', hs', dropped⟩ := inner .statement _ _ _ _ dropped hs
    obtain ⟨rest', hm', dropped⟩ := inner .program _ _ _ _ dropped hm
    exact ⟨rest', program_ok_iff.2 (.inr ⟨sameKind ▸ goes, s, mid', more, hs', hm', rfl⟩),
      dropped⟩

theorem produce_tolerates (phrase : Phrase) : Tolerates mark post (produce read phrase) := by
  cases phrase with
  | program => exact program_tolerates semicolon begins inner
  | body => exact body_tolerates semicolon begins inner
  | block => exact block_tolerates semicolon stops inner
  | statement => exact statement_tolerates semicolon stops begins inner
  | operation level => exact operation_tolerates inner level
  | chain level left => exact chain_tolerates semicolon stops inner level left
  | unary => exact unary_tolerates semicolon stops inner
  | arguments => exact arguments_tolerates semicolon stops inner

end

theorem read_tolerates (semicolon : mark.kind = .semicolon) (stops : Stops (nextKind post))
    (fuel : Nat) : ∀ phrase, Tolerates mark post (Grammar.read fuel phrase) := by
  induction fuel with
  | zero =>
    intro phrase ts ts' r rest dropped made
    cases made
  | succ fuel ih =>
    exact fun phrase => produce_tolerates semicolon stops (read_beginning fuel) ih phrase

/-! ## Returns without a value -/

/-- The words that begin a statement. -/
def BeginsStatement (kind : TokenKind) : Prop :=
  kind ∈ [.varWord, .ifWord, .whileWord, .returnWord, .breakWord, .continueWord]

instance (kind : TokenKind) : Decidable (BeginsStatement kind) :=
  inferInstanceAs (Decidable (_ ∈ _))

theorem unary_of_beginsStatement (word : BeginsStatement (nextKind ts)) (read : Readers) :
    unary read ts = .error (.unexpected .operand (next ts)) := by
  have one : nextKind ts = .varWord ∨ nextKind ts = .ifWord ∨ nextKind ts = .whileWord ∨
      nextKind ts = .returnWord ∨ nextKind ts = .breakWord ∨ nextKind ts = .continueWord := by
    simpa only [BeginsStatement, List.mem_cons, List.not_mem_nil, or_false] using word
  unfold nextKind at one
  unfold unary nextKind
  rcases one with k | k | k | k | k | k
  all_goals
    simp only [unaryOp?, primary, literal?, k]
    rfl

theorem readAll_operation_of_operand (level : Level) {fault : ParseFault}
    (refused : operand readAll level ts = .error fault) :
    readAll (.operation level) ts = .error fault := by
  rw [readAll_operation]
  unfold operation
  rw [refused]
  rfl

/-- No expression begins with a word that begins a statement. -/
theorem readAll_expression_of_beginsStatement (word : BeginsStatement (nextKind ts)) :
    readAll .expression ts = .error (.unexpected .operand (next ts)) := by
  have refused : readAll .unary ts = .error (.unexpected .operand (next ts)) :=
    (readAll_unary ts).trans (unary_of_beginsStatement word readAll)
  have product := readAll_operation_of_operand .product refused
  have sum := readAll_operation_of_operand .sum product
  have comparison := readAll_operation_of_operand .comparison sum
  have conjunction := readAll_operation_of_operand .conjunction comparison
  exact readAll_operation_of_operand .disjunction conjunction

/-- A return without a value that has a statement behind it is read only with its semicolon. -/
theorem readAll_return_unfinished (returns : start.kind = .returnWord)
    (semicolon : mark.kind = .semicolon) (word : BeginsStatement (nextKind post)) :
    readAll .statement (start :: mark :: post) =
      .ok (.result none (start.span.through start.span), post) ∧
    readAll .statement (start :: post) = .error (.unexpected .operand (next post)) := by
  have bare : ∀ more, bareStatement readAll (start :: more) = result readAll start more := by
    intro more
    unfold bareStatement next
    simp only [List.headD_cons, returns, List.tail_cons]
  constructor
  · rw [readAll_statement, statement_ok_iff]
    refine ⟨mark :: post, ?_, (if_pos semicolon).symm⟩
    rw [bare, result_ok_iff]
    refine .inl ⟨?_, rfl, rfl⟩
    show endsResult mark.kind = true
    rw [semicolon]
    rfl
  · have valued : endsResult (nextKind post) = false := by
      revert word
      cases nextKind post <;> decide
    rw [readAll_statement]
    unfold statement
    rw [bare]
    unfold result
    rw [if_neg (by rw [valued]; decide), readAll_expression_of_beginsStatement word]
    rfl

end Grammar

open Grammar

/-- A semicolon before a token that cannot continue an expression may be left out of every program,
and the program stays the same, spans included. The one exception is a semicolon directly after the
word `return` with another statement behind it. -/
theorem Program.ofTokens_without_semicolon {pre post : List Token} {mark : Token} {p : Program}
    (semicolon : mark.kind = .semicolon) (stops : Stops (nextKind post))
    (valued : ∀ t ∈ pre.getLast?, t.kind = .returnWord → ClosesBody (nextKind post))
    (accepted : ofTokens (pre ++ mark :: post) = .ok p) : ofTokens (pre ++ post) = .ok p := by
  obtain ⟨⟨statements, rest⟩, made, rfl⟩ := Rule.map_ok_iff.1 accepted
  obtain ⟨rest', made', -⟩ :=
    read_tolerates semicolon stops _ .program _ _ _ _ (.ahead pre valued) made
  -- the fuel for the longer list is more than enough for the shorter one
  have above : Phrase.need .program (pre ++ post) < enough (pre ++ mark :: post) := by
    have need := need_lt_enough .program (pre ++ post)
    have le : enough (pre ++ post) ≤ enough (pre ++ mark :: post) := by
      unfold enough
      simp only [List.length_append, List.length_cons]
      omega
    exact Nat.lt_of_lt_of_le need le
  rw [read_eq_readAll above] at made'
  exact Rule.map_ok_iff.2 ⟨_, made', rfl⟩

theorem Program.ofTokens_without_semicolon_break :
    ofTokens ([⟨.breakWord, "break", ⟨0, 5⟩⟩] ++ ⟨.semicolon, ";", ⟨5, 6⟩⟩ ::
      [⟨.returnWord, "return", ⟨7, 13⟩⟩, .atEnd 13]) =
        .ok ⟨[.jump .breakLoop ⟨0, 5⟩, .result none ⟨7, 13⟩]⟩ ∧
    ofTokens ([⟨.breakWord, "break", ⟨0, 5⟩⟩] ++
      [⟨.returnWord, "return", ⟨7, 13⟩⟩, .atEnd 13]) =
        .ok ⟨[.jump .breakLoop ⟨0, 5⟩, .result none ⟨7, 13⟩]⟩ := by
  have accepted : ofTokens ([⟨.breakWord, "break", ⟨0, 5⟩⟩] ++ ⟨.semicolon, ";", ⟨5, 6⟩⟩ ::
      [⟨.returnWord, "return", ⟨7, 13⟩⟩, .atEnd 13]) =
        .ok ⟨[.jump .breakLoop ⟨0, 5⟩, .result none ⟨7, 13⟩]⟩ := rfl
  refine ⟨accepted, ofTokens_without_semicolon rfl (by decide) ?_ accepted⟩
  intro t last returns
  cases last
  cases returns

/-- The tokens of `return; var x = 1`, with others for the semicolon. -/
def Program.bareReturn (marks : List Token) : List Token :=
  [⟨.returnWord, "return", ⟨0, 6⟩⟩] ++ marks ++
    [⟨.varWord, "var", ⟨8, 11⟩⟩, ⟨.identifier, "x", ⟨12, 13⟩⟩, ⟨.equals, "=", ⟨14, 15⟩⟩,
      ⟨.number, "1", ⟨16, 17⟩⟩, .atEnd 17]

/-- Not every semicolon before a token that cannot continue an expression may be left out: the one
in `return; var x = 1` may not. -/
theorem Program.bareReturn_needs_semicolon :
    Token.tokenize "return; var x = 1" = .ok (bareReturn [⟨.semicolon, ";", ⟨6, 7⟩⟩]) ∧
    (ofTokens (bareReturn [⟨.semicolon, ";", ⟨6, 7⟩⟩])).isOk = true ∧
    ofTokens (bareReturn []) = .error (.unexpected .operand ⟨.varWord, "var", ⟨8, 11⟩⟩) ∧
    ¬ ∀ (pre post : List Token) (mark : Token) (p : Program), mark.kind = .semicolon →
      Stops (nextKind post) → ofTokens (pre ++ mark :: post) = .ok p →
      ∃ p', ofTokens (pre ++ post) = .ok p' ∧ p'.unspanned = p.unspanned := by
  have accepted : (ofTokens (bareReturn [⟨.semicolon, ";", ⟨6, 7⟩⟩])).isOk = true := by
    decide +kernel
  have refused :
      ofTokens (bareReturn []) = .error (.unexpected .operand ⟨.varWord, "var", ⟨8, 11⟩⟩) := rfl
  refine ⟨Token.ok_of_toOption (by decide +kernel), accepted, refused, fun claim => ?_⟩
  cases made : ofTokens (bareReturn [⟨.semicolon, ";", ⟨6, 7⟩⟩]) with
  | error fault =>
    rw [made] at accepted
    cases accepted
  | ok p =>
    obtain ⟨p', made', -⟩ := claim [⟨.returnWord, "return", ⟨0, 6⟩⟩]
      [⟨.varWord, "var", ⟨8, 11⟩⟩, ⟨.identifier, "x", ⟨12, 13⟩⟩, ⟨.equals, "=", ⟨14, 15⟩⟩,
        ⟨.number, "1", ⟨16, 17⟩⟩, .atEnd 17] ⟨.semicolon, ";", ⟨6, 7⟩⟩ p rfl (by decide) made
    have same : Except.error _ = Except.ok p' := refused.symm.trans made'
    cases same

end Scriptlet
