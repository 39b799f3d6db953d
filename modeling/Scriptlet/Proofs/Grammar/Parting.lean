import Scriptlet.Proofs.Grammar.Fork
import Scriptlet.Proofs.Grammar.Fixpoint

/-
  Every phrase keeps two readings together.
  The productions are put together in ways that keep two readings of lists that begin alike
  together, but for one: after a name and a parenthesis the tokens are looked through, as far as
  they make up a parameter list, before any of them is read. Where the lists part inside of such a
  list one reading may declare a function and the other call it. Then the call has read names and
  commas up to the place where the lists part, and refuses nothing before it
  (`Mirroring.overrun`).
-/

namespace Scriptlet.Grammar

variable {F : Fork} {read : Readers} {α : Type} {ts us rest : List Token} {level : Level}
  {name name' start start' t u : Token}

/-! ## Forms of productions -/

theorem combine_of_not_comparable {op : BinaryOp} {left right : Expr}
    (clash : ¬ Comparable op left right) : combine op left right = .error
      (.typeMismatch op left.staticType right.staticType (left.span.through right.span)) := by
  unfold combine
  refine if_pos ?_
  simpa [Comparable] using clash

/-- The end of a call whose arguments have been read. -/
def closeCall (name : Token) (r : List Expr × List Token) : Except ParseFault (Expr × List Token) :=
  do
    let (closing, ts) ← expect .rightParen .argumentsEnd r.2
    .ok (.call name.lexeme r.1 (name.span.through closing.span), ts)

theorem call_eq (read : Readers) (name : Token) : call read name = fun ts =>
    if nextKind ts = .rightParen
    then .ok (.call name.lexeme [] (name.span.through (next ts).span), ts.tail)
    else read .arguments ts >>= closeCall name := by
  funext ts
  unfold call callArguments
  by_cases close : nextKind ts = .rightParen
  · rw [if_pos close, if_pos close]
    show expect .rightParen .argumentsEnd ts >>= _ = _
    unfold expect
    rw [if_pos close]
    rfl
  · rw [if_neg close, if_neg close]
    rfl

theorem closeCall_within (args : List Expr) (ts : List Token) :
    Within ts (closeCall name (args, ts)) :=
  (expect_within _ _ ts).bind fun _ rest => List.suffix_refl rest

theorem closeCall_of_close {args : List Expr} (close : t.kind = .rightParen) :
    closeCall name (args, t :: ts) =
      .ok (.call name.lexeme args (name.span.through t.span), ts) := by
  have taken : expect .rightParen .argumentsEnd (t :: ts) = .ok (t, ts) :=
    expect_ok_iff.2 ⟨close, rfl, rfl⟩
  show expect .rightParen .argumentsEnd (t :: ts) >>= _ = _
  rw [taken]
  rfl

theorem named_of_ne_paren {ts : List Token} (ne : nextKind ts ≠ .leftParen) :
    named read name ts = .ok (.variable name.lexeme name.span, ts) := by
  have unlisted : params? ts = none := by
    unfold params?
    rw [guard_of_fails ne]
    rfl
  unfold named
  rw [unlisted]
  exact if_neg ne

theorem named_of_params? {params : List String} (listed : params? ts = some (params, rest)) :
    named read name ts = declaration read name params rest := by
  unfold named
  rw [listed]

theorem named_of_paren (paren : t.kind = .leftParen) (unlisted : params? (t :: ts) = none) :
    named read name (t :: ts) = call read name ts := by
  unfold named
  rw [unlisted]
  exact if_pos paren

/-- A token is a literal or is refused for one, whatever its span. -/
theorem literal?_alike (same : t.unspanned = u.unspanned) :
    (∃ v, literal? t = .ok v ∧ literal? u = .ok v) ∨
      ∃ wanted, literal? t = .error (.unexpected wanted t) ∧
        literal? u = .error (.unexpected wanted u) := by
  unfold literal?
  rw [Token.kind_eq_of_unspanned same, Token.lexeme_eq_of_unspanned same]
  split
  · split
    next x _ => exact .inl ⟨_, rfl, rfl⟩
    next => exact .inr ⟨_, rfl, rfl⟩
  next => exact .inl ⟨_, rfl, rfl⟩
  next => exact .inl ⟨_, rfl, rfl⟩
  next => exact .inl ⟨_, rfl, rfl⟩
  next => exact .inl ⟨_, rfl, rfl⟩
  next => exact .inr ⟨_, rfl, rfl⟩

theorem literal?_start (paren : t.kind ≠ .leftParen) (name : t.kind ≠ .identifier)
    (sign : unaryOp? t.kind = none) :
    (endsResult t.kind = false ∧ ∃ v, literal? t = .ok v) ∨
      ∃ wanted : Wanted, wanted.BeginsOperand ∧
        literal? t = .error (.unexpected wanted t) ∧ ¬ Wanted.operand.Accepts t := by
  unfold literal?
  split
  next kind =>
    cases read : (Binary.read? t.lexeme : Option Single) with
    | some x => exact .inl ⟨kind ▸ rfl, _, rfl⟩
    | none =>
      refine .inr ⟨.numeral, .inr rfl, rfl, fun fits => ?_⟩
      have readable := fits.2 kind
      rw [read] at readable
      cases readable
  next kind => exact .inl ⟨kind ▸ rfl, _, rfl⟩
  next kind => exact .inl ⟨kind ▸ rfl, _, rfl⟩
  next kind => exact .inl ⟨kind ▸ rfl, _, rfl⟩
  next kind => exact .inl ⟨kind ▸ rfl, _, rfl⟩
  next number string yes no null =>
    refine .inr ⟨.operand, .inl rfl, rfl, fun fits => ?_⟩
    have mem := fits.1
    simp only [Wanted.kinds, List.mem_cons, List.not_mem_nil, or_false] at mem
    rcases mem with k | k | k | k | k | k | k | k | k
    · exact paren k
    · exact name k
    · exact number k
    · exact string k
    · exact yes k
    · exact no k
    · exact null k
    all_goals
      rw [k] at sign
      cases sign

theorem endsResult_of_unaryOp? {kind : TokenKind} {op : UnaryOp} (sign : unaryOp? kind = some op) :
    endsResult kind = false := by
  unfold unaryOp? at sign
  split at sign
  next => rfl
  next => rfl
  next => cases sign

/-! ## Lists of names -/

/-- A phrase ends before the given tokens, unless the fuel is too small. -/
def Reaches (rest : List Token) (o : Except ParseFault (α × List Token)) : Prop :=
  o = .error .exhausted ∨ ∃ r, o = .ok (r, rest)

/-- The kinds of tokens that follow a name in a parameter list. -/
def Separates (kind : TokenKind) : Prop := kind = .comma ∨ kind = .rightParen

/-- What the reader of a phrase makes of the tokens of a parameter list. -/
structure Listing (read : Readers) : Prop where
  operation : ∀ level {name mark : Token} {ts}, name.kind = .identifier → Separates mark.kind →
    Reaches (mark :: ts) (read (.operation level) (name :: mark :: ts))
  unary : ∀ {name mark : Token} {ts}, name.kind = .identifier → Separates mark.kind →
    Reaches (mark :: ts) (read .unary (name :: mark :: ts))
  chain : ∀ level left {mark : Token} {ts}, Separates mark.kind →
    Reaches (mark :: ts) (read (.chain level left) (mark :: ts))
  /-- A list of expressions ends before no comma. -/
  arguments : ∀ {ts args rest}, read .arguments ts = .ok (args, rest) → nextKind rest ≠ .comma

theorem Reaches.bind {β : Type} {mid rest : List Token} {o : Except ParseFault (α × List Token)}
    {f : α × List Token → Except ParseFault (β × List Token)} (first : Reaches mid o)
    (then_ : ∀ r, Reaches rest (f (r, mid))) : Reaches rest (o >>= f) := by
  rcases first with failed | ⟨r, made⟩
  · subst failed
    exact .inl rfl
  · subst made
    exact then_ r

theorem Separates.ne {kind other : TokenKind} (h : Separates kind)
    (ne : other ∉ [TokenKind.comma, .rightParen]) : kind ≠ other := by
  rintro rfl
  rcases h with rfl | rfl <;> exact ne (by decide)

theorem Listing.produce (h : Listing read) : Listing (produce read) where
  operation level {name mark ts} begins follows := by
    have first : Reaches (mark :: ts) (operand read level (name :: mark :: ts)) := by
      cases level with
      | product => exact h.unary begins follows
      | _ => exact h.operation _ begins follows
    exact first.bind fun left => h.chain level left follows
  unary {name mark ts} begins follows := by
    refine .inr ⟨.variable name.lexeme name.span, ?_⟩
    show Grammar.unary read (name :: mark :: ts) = _
    unfold Grammar.unary primary
    dsimp only [nextKind, next, List.headD_cons, List.tail_cons]
    rw [begins]
    exact named_of_ne_paren (follows.ne (by decide))
  chain level left {mark ts} follows := by
    refine .inr ⟨left, ?_⟩
    have none : level.operator? mark.kind = none := by
      rcases follows with comma | paren
      · rw [comma]
        cases level <;> rfl
      · rw [paren]
        cases level <;> rfl
    show Grammar.chain read level left (mark :: ts) = _
    unfold Grammar.chain
    dsimp only [nextKind, next, List.headD_cons]
    rw [none]
  arguments {ts args rest} made := by
    obtain ⟨e, mid, -, ⟨last, -, rfl⟩ | ⟨-, more, made, -⟩⟩ := arguments_ok_iff.1 made
    · exact last
    · exact h.arguments made

theorem read_listing (fuel : Nat) : Listing (Grammar.read fuel) := by
  induction fuel with
  | zero =>
    exact ⟨fun _ {_ _ _} _ _ => .inl rfl, fun _ _ => .inl rfl, fun _ _ {_ _} _ => .inl rfl, nofun⟩
  | succ fuel ih => exact ih.produce

/-- A parameter list ends behind the place where the lists part, or in both at the same place. -/
theorem moreParams?_twin {names : List String} (twin : F.Twin ts us)
    (listed : moreParams? ts = some (names, rest)) :
    rest <:+ F.left ∨
      ∃ names' rest', moreParams? us = some (names', rest') ∧ F.Twin rest rest' := by
  fun_induction moreParams? ts generalizing names us with
  | case1 => cases listed
  | case2 name mark ts begins close =>
    cases listed
    rcases twin.forms with ⟨same, -⟩ | ⟨_, name', _, us, ⟨⟩, rfl, mem, later⟩
    · exact .inl (same ▸ (List.suffix_cons mark rest).trans (List.suffix_cons name _))
    rcases later.forms with ⟨same, -⟩ | ⟨_, mark', _, us, ⟨⟩, rfl, mem', later⟩
    · exact .inl (same ▸ List.suffix_cons mark rest)
    rw [Fork.kind_eq mem, Decidable.not_not] at begins
    rw [Fork.kind_eq mem'] at close
    refine .inr ⟨[name'.lexeme], us, moreParams?_eq_some_iff.2 ?_, later⟩
    exact ⟨name', mark', us, rfl, begins, .inl ⟨close, rfl, rfl⟩⟩
  | case3 name mark ts begins _ comma ih =>
    obtain ⟨⟨names', rest'⟩, more, made⟩ := Option.map_eq_some_iff.1 listed
    cases made
    have inside : rest <:+ mark :: ts := (moreParams?_ahead more).1.trans (List.suffix_cons mark ts)
    rcases twin.forms with ⟨same, -⟩ | ⟨_, name', _, us, ⟨⟩, rfl, mem, later⟩
    · exact .inl (same ▸ inside.trans (List.suffix_cons name _))
    rcases later.forms with ⟨same, -⟩ | ⟨_, mark', _, us, ⟨⟩, rfl, mem', later⟩
    · exact .inl (same ▸ inside)
    rw [Fork.kind_eq mem, Decidable.not_not] at begins
    rw [Fork.kind_eq mem'] at comma
    refine (ih later more).imp_right ?_
    rintro ⟨names'', rest'', more', twin⟩
    refine ⟨name'.lexeme :: names'', rest'', moreParams?_eq_some_iff.2 ?_, twin⟩
    exact ⟨name', mark', us, rfl, begins, .inr ⟨comma, names'', more', rfl⟩⟩
  | case4 => cases listed
  | case5 => cases listed

/-- The same of a parameter list in parentheses, of which the first has been seen. -/
theorem params?_twin {names : List String} (twin : F.Twin ts us) (paren : u.kind = .leftParen)
    (listed : params? (t :: ts) = some (names, rest)) :
    rest <:+ F.left ∨
      ∃ names' rest', params? (u :: us) = some (names', rest') ∧ F.Twin rest rest' := by
  obtain ⟨-, brace, inside⟩ := params?_eq_some_iff.1 listed
  -- behind the list the brace is in both lists of tokens, unless they part there
  have closing : ∀ {rest'}, F.Twin rest rest' → rest <:+ F.left ∨ nextKind rest' = .leftBrace := by
    intro rest' twin
    cases twin with
    | here => exact .inl (List.suffix_refl _)
    | cons mem => exact .inr ((Fork.kind_eq mem).symm.trans brace)
  rcases inside with ⟨close, -, rfl⟩ | ⟨-, listed⟩
  · cases twin with
    | here => exact .inl (List.tail_suffix _)
    | @cons t' u' ts us mem later =>
      refine (closing later).imp_right fun brace' => ?_
      have close' : u'.kind = .rightParen := (Fork.kind_eq mem).symm.trans close
      exact ⟨[], us, params?_eq_some_iff.2 ⟨paren, brace', .inl ⟨close', rfl, rfl⟩⟩, later⟩
  · rcases moreParams?_twin twin listed with behind | ⟨names', rest', listed', twin'⟩
    · exact .inl behind
    · refine (closing twin').imp_right fun brace' => ?_
      have other : nextKind us ≠ .rightParen := by
        obtain ⟨name, mark, more, rfl, begins, -⟩ := moreParams?_eq_some_iff.1 listed'
        exact fun close => by cases begins.symm.trans close
      exact ⟨names', rest', params?_eq_some_iff.2 ⟨paren, brace', .inr ⟨other, listed'⟩⟩, twin'⟩

/-! ## Two readings -/

/-- The arguments of a call were read up to the place where the lists part, or up to the closing
parenthesis before it. -/
def Overrun (F : Fork) (o : Except ParseFault (List Expr × List Token)) : Prop :=
  Within F.left o ∨ ∃ args close, close.kind = .rightParen ∧ o = .ok (args, close :: F.left)

/-- The reader of every phrase keeps two readings together. -/
structure Mirroring (F : Fork) (read : Readers) : Prop where
  program : Steady F .program nothing (read .program) (read .program)
  body : Steady F .statement nothing (read .body) (read .body)
  block : Taking F .statement nothing (read .block) (read .block)
  statement : Taking F .statement nothing (read .statement) (read .statement)
  operation : ∀ level, Taking F .expression Expr.staticType (read (.operation level))
    (read (.operation level))
  chain : ∀ level {left left' : Expr}, left.staticType = left'.staticType →
    Steady F .expression Expr.staticType (read (.chain level left)) (read (.chain level left'))
  unary : Taking F .expression Expr.staticType (read .unary) (read .unary)
  arguments : Taking F .expression nothing (read .arguments) (read .arguments)
  programRests : ∀ ts, endsResult (nextKind ts) = true → Rests .program ts (read .program ts)
  bodyRests : ∀ ts, endsResult (nextKind ts) = true → Rests .statement ts (read .body ts)
  /-- Where the other list has a parameter list that ends behind the place where the lists part,
  names and commas are read up to this place. -/
  overrun : ∀ {ts us rest names}, F.Twin ts us → moreParams? us = some (names, rest) →
    rest <:+ F.right → Overrun F (read .arguments ts)

theorem typeMismatch_steady {κ : Type} {place : Place} {key : α → κ} {op op' : BinaryOp}
    {left right left' right' : StaticType} {span span' : Span} :
    Steady F place key (fun _ => .error (.typeMismatch op left right span))
      fun _ => .error (.typeMismatch op' left' right' span') where
  forward _ := trivial
  forward' _ := trivial
  echo _ := .passed trivial

section

variable (h : Mirroring F read)
include h

theorem Mirroring.expression :
    Taking F .expression Expr.staticType (read .expression) (read .expression) :=
  h.operation .disjunction

/-! ### Operations -/

theorem operand_taking (level : Level) :
    Taking F .expression Expr.staticType (operand read level) (operand read level) := by
  cases level with
  | product => exact h.unary
  | _ => exact h.operation _

theorem operation_taking (level : Level) :
    Taking F .expression Expr.staticType (operation read level) (operation read level) :=
  (operand_taking h level).bind fun _ _ same => h.chain level same

/-- The operators of a level behind the first one, which is `op`. -/
def further (read : Readers) (level : Level) (op : BinaryOp) (left : Expr) : Reader Expr :=
  fun ts => do
    let (right, ts) ← operand read level ts
    let whole ← combine op left right
    read (.chain level whole) ts

theorem further_steady {op : BinaryOp} {left left' : Expr}
    (same : left.staticType = left'.staticType) :
    Steady F .expression Expr.staticType (further read level op left)
      (further read level op left') := by
  refine (operand_taking h level).toSteady.bind fun right right' same' => ?_
  dsimp only
  by_cases fits : Comparable op left right
  · have fits' : Comparable op left' right' := by
      unfold Comparable at fits ⊢
      rwa [← same, ← same']
    rw [combine_ok_iff.2 ⟨fits, rfl⟩, combine_ok_iff.2 ⟨fits', rfl⟩]
    exact h.chain level rfl
  · have clash' : ¬ Comparable op left' right' := by
      unfold Comparable at fits ⊢
      rwa [← same, ← same']
    rw [combine_of_not_comparable fits, combine_of_not_comparable clash']
    exact typeMismatch_steady

theorem chain_steady {left left' : Expr} (same : left.staticType = left'.staticType) :
    Steady F .expression Expr.staticType (chain read level left) (chain read level left') := by
  have eq : ∀ left, chain read level left = fun ts =>
      if (level.operator? (nextKind ts)).isSome = true
      then further read level ((level.operator? (nextKind ts)).getD .or) left ts.tail
      else .ok (left, ts) := by
    intro left
    funext ts
    unfold chain
    split
    next none => rw [none]; rfl
    next op some => rw [some]; rfl
  rw [eq, eq]
  refine .choose (fun kind => (level.operator? kind).isSome = true)
    (fun t => further read level ((level.operator? t.kind).getD .or) left)
    (fun t => further read level ((level.operator? t.kind).getD .or) left') (fun t u alike _ => ?_)
    (.pure same)
  rw [Token.kind_eq_of_unspanned alike]
  exact further_steady h same

/-! ### Calls and declarations -/

theorem arguments_taking : Taking F .expression nothing (arguments read) (arguments read) := by
  refine h.expression.bind fun e e' _ => ?_
  refine .choose (· = .comma) (fun _ ts => read .arguments ts >>= fun r => .ok (e :: r.1, r.2))
    (fun _ ts => read .arguments ts >>= fun r => .ok (e' :: r.1, r.2)) (fun _ _ _ _ => ?_)
    (.pure rfl)
  exact h.arguments.toSteady.map (fun _ _ => rfl) (fun _ _ => rfl) fun _ _ _ => rfl

theorem call_within (name : Token) (ts : List Token) : Within ts (call read name ts) := by
  rw [call_eq]
  dsimp only
  split
  next => exact List.tail_suffix ts
  next => exact (h.arguments.forward ts).bind closeCall_within

/-- A call is read on alike: its arguments end before no comma, so that the two kinds of tokens that
are wanted behind them come down to one. -/
theorem call_steady (listing : Listing read) (name name' : Token) :
    Steady F .expression Expr.staticType (call read name) (call read name') := by
  have calls : ∀ {args args' : List Expr} {span span' : Span}, Steady F .expression
      Expr.staticType (fun ts => .ok (.call name.lexeme args span, ts))
      fun ts => .ok (.call name'.lexeme args' span', ts) := .pure rfl
  rw [call_eq, call_eq]
  refine .chooseElse (· = .rightParen)
    (fun t ts => .ok (.call name.lexeme [] (name.span.through t.span), ts))
    (fun t ts => .ok (.call name'.lexeme [] (name'.span.through t.span), ts))
    (fun _ _ _ _ => calls) (fun ts => (h.arguments.forward ts).bind closeCall_within)
    (fun ts => (h.arguments.forward' ts).bind closeCall_within) fun {ts us} twin _ _ => ?_
  refine (h.arguments.echo twin).bind nofun closeCall_within closeCall_within
    (fun {args args' rest rest'} _ made' _ twin => ?_) fun open_ => absurd rfl open_
  have closing : Echo F .expression nothing (expect .rightParen .argumentsEnd rest)
      (expect .rightParen .argumentsEnd rest') := by
    refine expect_echo twin fun fits => ?_
    rcases List.mem_cons.1 fits.1 with paren | comma
    · exact paren
    · exact absurd (List.mem_singleton.1 comma) (listing.arguments made')
  exact closing.bind nofun (fun _ => List.suffix_refl) (fun _ => List.suffix_refl)
    (fun _ _ _ twin => .accepted rfl rfl rfl twin) fun open_ => absurd rfl open_

/-- The names and commas before the place where the lists part are read one by one. -/
theorem arguments_overrun (listing : Listing read) {names : List String} (twin : F.Twin ts us)
    (listed : moreParams? us = some (names, rest)) (behind : rest <:+ F.right) :
    Overrun F (arguments read ts) := by
  have taking := arguments_taking h
  obtain ⟨name', mark', more, rfl, begins, follows⟩ := moreParams?_eq_some_iff.1 listed
  rcases twin.forms with ⟨rfl, -⟩ | ⟨name, _, ts, _, rfl, ⟨⟩, mem, later⟩
  · exact .inl (taking.forward _)
  rw [← Fork.kind_eq mem] at begins
  rcases later.forms with ⟨rfl, -⟩ | ⟨mark, _, ts, _, rfl, ⟨⟩, mem', later⟩
  · have first := taking.starts (name :: F.left)
    exact .inl (first.within_tail (Wanted.operand_accepts_of_identifier begins))
  rw [← Fork.kind_eq mem'] at follows
  have separates : Separates mark.kind := (follows.imp And.left And.left).symm
  unfold arguments
  rcases listing.operation .disjunction begins separates with failed | ⟨e, made⟩
  · rw [failed]
    exact .inl trivial
  rw [made]
  show Overrun F (if mark.kind = .comma then _ else _)
  rcases follows with ⟨close, -, rfl⟩ | ⟨comma, names', listed, -⟩
  · obtain rfl := later.eq_left_of_suffix behind
    refine .inr ⟨[e], mark, close, if_neg ?_⟩
    exact fun comma => by cases close.symm.trans comma
  · -- the rest of the list is overrun by the reader of the phrases inside
    rw [if_pos comma, List.tail_cons]
    rcases h.overrun later listed behind with inside | ⟨args, close, kind, made⟩
    · exact .inl (inside.bind fun _ rest => List.suffix_refl rest)
    · rw [made]
      exact .inr ⟨e :: args, close, kind, rfl⟩

/-- Where the other list has a parameter list that ends behind the place where the lists part, a
call refuses nothing before this place. -/
theorem call_overrun {names : List String} (twin : F.Twin ts us)
    (listed : params? (u :: us) = some (names, rest)) (behind : rest <:+ F.right) :
    Within F.left (call read name ts) := by
  obtain ⟨-, -, ⟨close, -, rfl⟩ | ⟨-, listed⟩⟩ := params?_eq_some_iff.1 listed
  · obtain ⟨mark', more, rfl, kind⟩ := exists_cons_of_nextKind close (by decide)
    rcases twin.forms with ⟨rfl, -⟩ | ⟨mark, _, ts, _, rfl, ⟨⟩, mem, later⟩
    · exact call_within h name F.left
    · obtain rfl := later.eq_left_of_suffix behind
      have close : nextKind (mark :: F.left) = .rightParen := (Fork.kind_eq mem).trans kind
      rw [(congrFun (call_eq read name) _).trans (if_pos close)]
      exact List.suffix_refl _
  · obtain ⟨first', second', more, rfl, begins, -⟩ := moreParams?_eq_some_iff.1 listed
    rcases twin.forms with ⟨rfl, -⟩ | ⟨first, _, ts, _, rfl, ⟨⟩, mem, later⟩
    · exact call_within h name F.left
    · have other : nextKind (first :: ts) ≠ .rightParen :=
        fun close => by cases begins.symm.trans ((Fork.kind_eq mem).symm.trans close)
      rw [(congrFun (call_eq read name) _).trans (if_neg other)]
      rcases h.overrun twin listed behind with inside | ⟨args, mark, close, made⟩
      · exact inside.bind closeCall_within
      · rw [made]
        show Within F.left (closeCall name (args, mark :: F.left))
        rw [closeCall_of_close close]
        exact List.suffix_refl _

/-! ### Declarations -/

/-- Statements up to a closing brace, and the span from the brace `opening` to it. -/
def bracesAfter (read : Readers) (opening : Token) : Reader (List Stmt × Span) := fun ts => do
  let (body, ts) ← read .body ts
  let (closing, ts) ← expect .rightBrace .blockEnd ts
  .ok ((body, opening.span.through closing.span), ts)

theorem bracesAfter_steady {place : Place} (opening opening' : Token) :
    Steady F place nothing (bracesAfter read opening) (bracesAfter read opening') := by
  refine h.body.bindStatement (fun _ _ _ => ?_) fun _ ts _ => ?_
  · exact (Steady.expect .rightBrace rfl).bind fun _ _ _ => .pure (nothing_eq _ _)
  · dsimp only
    unfold expect
    split
    next => exact .goes (List.suffix_refl _)
    next => exact .fails (.inr rfl) rfl

theorem braces_steady {place : Place} : Steady F place nothing (braces read) (braces read) :=
  .take (bracesAfter read) (bracesAfter read) (bracesAfter_steady h)

theorem declaration_steady (params params' : List String) :
    Steady F .expression Expr.staticType (declaration read name params)
      (declaration read name' params') :=
  (braces_steady h).bind fun _ _ _ => .pure (by rfl)

theorem declaration_within (params : List String) (ts : List Token) :
    Within ts.tail (declaration read name params ts) := by
  have inside : Steady F .expression nothing _ _ := bracesAfter_steady h (next ts) (next ts)
  exact (inside.forward ts.tail).bind fun _ rest => List.suffix_refl rest

theorem applied_within (paren : t.kind = .leftParen) (ts : List Token) :
    Within ts (named read name (t :: ts)) := by
  cases listed : params? (t :: ts) with
  | none =>
    rw [named_of_paren paren listed]
    exact call_within h name ts
  | some found =>
    obtain ⟨params, mid⟩ := found
    have ahead := params?_ahead listed
    have inside : mid <:+ ts := by
      rcases List.suffix_cons_iff.1 ahead.1 with rfl | inside
      · exact absurd ahead.2 (Nat.lt_irrefl _)
      · exact inside
    rw [named_of_params? listed]
    exact (declaration_within h params mid).mono ((List.tail_suffix mid).trans inside)

/-- What follows a name and a parenthesis is read on alike, unless one of the lists has a parameter
list that ends behind the place where they part. Then the one with it has passed this place, and the
other has not failed before it. -/
theorem applied_steady (listing : Listing read) (paren : t.kind = .leftParen)
    (paren' : u.kind = .leftParen) : Steady F .expression Expr.staticType
      (fun ts => named read name (t :: ts)) fun ts => named read name' (u :: ts) where
  forward := applied_within h paren
  forward' := applied_within h paren'
  echo {ts us} twin := by
    cases listed : params? (t :: ts) with
    | some found =>
      obtain ⟨params, mid⟩ := found
      rcases params?_twin twin paren' listed with behind | ⟨params', mid', listed', twin'⟩
      · rw [named_of_params? listed]
        exact .passed ((declaration_within h params mid).mono (tail_suffix_tail behind))
      · rw [named_of_params? listed, named_of_params? listed']
        exact (declaration_steady h params params').echo twin'
    | none =>
      rw [named_of_paren paren listed]
      cases listed' : params? (u :: us) with
      | none =>
        rw [named_of_paren paren' listed']
        exact (call_steady h listing name name').echo twin
      | some found =>
        -- only the second list declares a function, so its parameter list ends behind the stem
        obtain ⟨params', mid'⟩ := found
        rcases params?_twin twin.swap paren listed' with behind | ⟨params, mid, found, -⟩
        · rw [named_of_params? listed']
          exact .overtaken (call_overrun h twin listed' behind)
            ((declaration_within h params' mid').mono (tail_suffix_tail behind))
        · cases listed.symm.trans found

theorem named_steady (listing : Listing read) (name name' : Token) :
    Steady F .expression Expr.staticType (named read name) (named read name') := by
  have eq : ∀ name, named read name = fun ts =>
      if nextKind ts = .leftParen then named read name (next ts :: ts.tail)
      else .ok (.variable name.lexeme name.span, ts) := by
    intro name
    funext ts
    by_cases paren : nextKind ts = .leftParen
    · rw [if_pos paren]
      obtain ⟨t, more, rfl, -⟩ := exists_cons_of_nextKind paren (by decide)
      rfl
    · rw [if_neg paren]
      exact named_of_ne_paren paren
  rw [eq name, eq name']
  refine .choose (· = .leftParen) (fun t ts => named read name (t :: ts))
    (fun t ts => named read name' (t :: ts)) (fun t u alike paren => ?_) (.pure (by rfl))
  exact applied_steady h listing paren (Token.kind_eq_of_unspanned alike ▸ paren)

/-! ### Operands -/

/-- An expression and the parenthesis that closes it. -/
def group (read : Readers) : Reader Expr := fun ts => do
  let (inner, ts) ← read .expression ts
  let (_, ts) ← expect .rightParen .parenEnd ts
  .ok (inner, ts)

theorem group_steady : Steady F .expression Expr.staticType (group read) (group read) :=
  h.expression.toSteady.bind fun _ _ same =>
    (Steady.expect .rightParen rfl).bind fun _ _ _ => .pure same

theorem primary_echo (listing : Listing read) (mem : (t, u) ∈ F.stem) (later : F.Twin ts us) :
    Echo F .expression Expr.staticType (primary read (t :: ts)) (primary read (u :: us)) := by
  have same : u.kind = t.kind := (Fork.kind_eq mem).symm
  unfold primary
  dsimp only [next, List.headD_cons, List.tail_cons]
  rw [same]
  split
  next => exact (group_steady h).echo later
  next => exact (named_steady h listing t u).echo later
  next =>
    rcases literal?_alike (F.alike _ mem) with ⟨v, made, made'⟩ | ⟨wanted, failed, failed'⟩
    · rw [made, made']
      exact .accepted rfl rfl rfl later
    · rw [failed, failed']
      exact .refused mem rfl rfl

theorem primary_start (listing : Listing read) (sign : unaryOp? (nextKind ts) = none) :
    Start ts (primary read ts) := by
  unfold primary
  dsimp only
  split
  next paren => exact .of_kind paren rfl ((group_steady h).forward ts.tail)
  next begins => exact .of_kind begins rfl ((named_steady h listing _ (next ts)).forward ts.tail)
  next paren name =>
    rcases literal?_start paren name sign with ⟨more, v, made⟩ | ⟨wanted, begins, failed, unfit⟩
    · rw [made]
      exact .takes more (List.suffix_refl _)
    · rw [failed]
      exact .refuses begins rfl unfit

/-- An operand behind the operator `op`, which is `sign`. -/
def signed (read : Readers) (op : UnaryOp) (sign : Token) : Reader Expr := fun ts => do
  let (operand, rest) ← read .unary ts
  .ok (.unary op operand (sign.span.through operand.span), rest)

theorem signed_steady (op : UnaryOp) (sign sign' : Token) :
    Steady F .expression Expr.staticType (signed read op sign) (signed read op sign') :=
  h.unary.toSteady.bind fun _ _ _ => .pure (by rfl)

theorem unary_taking (listing : Listing read) :
    Taking F .expression Expr.staticType (unary read) (unary read) := by
  have starts : ∀ ts, Start ts (unary read ts) := by
    intro ts
    unfold unary
    split
    next op sign =>
      have inside := (signed_steady h op (next ts) (next ts)).forward ts.tail
      exact .takes (endsResult_of_unaryOp? sign) inside
    next plain => exact primary_start h listing plain
  refine .of_starts starts starts fun {t u ts us} mem later => ?_
  have same : nextKind (u :: us) = nextKind (t :: ts) := (Fork.kind_eq mem).symm
  unfold unary
  rw [same]
  split
  next op sign => exact (signed_steady h op t u).echo later
  next plain => exact primary_echo h listing mem later

/-! ### Statements -/

theorem newVariable_steady (start start' : Token) :
    Steady F .statement nothing (newVariable read start) (newVariable read start') :=
  (Steady.expect .identifier rfl).bind fun _ _ _ =>
    (Steady.expect .equals rfl).bind fun _ _ _ =>
      h.expression.toSteady.bind fun _ _ _ => .pure (nothing_eq _ _)

/-- A new value for the variable `name`; the equals sign has been taken. -/
def newValue (read : Readers) (name : Token) : Reader Stmt := fun ts => do
  let (value, ts) ← read .expression ts
  .ok (.assign name.lexeme value (name.span.through value.span), ts)

theorem newValue_steady (name name' : Token) :
    Steady F .statement nothing (newValue read name) (newValue read name') :=
  h.expression.toSteady.bind fun _ _ _ => .pure (nothing_eq _ _)

theorem condition_steady {wanted : Wanted} (kinds : wanted.kinds = [.leftParen]) :
    Steady F .expression Expr.staticType (condition read wanted) (condition read wanted) :=
  (Steady.expect .leftParen kinds).bind fun _ _ _ =>
    h.expression.toSteady.bind fun _ _ same =>
      (Steady.expect .rightParen rfl).bind fun _ _ _ => .pure same

/-- The alternative of a branch; the word for it has been taken. -/
def otherwise (read : Readers) (start : Token) (test : Expr) (thenBody : List Stmt) :
    Reader Stmt := fun ts => do
  let ((elseBody, elseSpan), ts) ← read .block ts
  .ok (.branch test thenBody (some elseBody) (start.span.through elseSpan), ts)

theorem otherwise_steady (start start' : Token) (test test' : Expr) (body body' : List Stmt) :
    Steady F .statement nothing (otherwise read start test body)
      (otherwise read start' test' body') :=
  h.block.toSteady.map (fun _ _ => rfl) (fun _ _ => rfl) fun _ _ _ => rfl

theorem branch_steady (start start' : Token) :
    Steady F .statement nothing (branch read start) (branch read start') := by
  refine (condition_steady h rfl).bind fun test test' _ => ?_
  refine h.block.toSteady.bindStatement (fun r r' _ => ?_) fun r ts ends => ?_
  · exact .choose (· = .elseWord) (fun _ => otherwise read start test r.1)
      (fun _ => otherwise read start' test' r'.1)
      (fun _ _ _ _ => otherwise_steady h start start' test test' r.1 r'.1)
      (.pure (nothing_eq _ _))
  · have other : nextKind ts ≠ .elseWord := fun word => by
      rw [word] at ends
      cases ends
    exact .stays nofun (if_neg other)

theorem loop_steady (start start' : Token) :
    Steady F .statement nothing (loop read start) (loop read start') := by
  refine (condition_steady h rfl).bind fun test test' _ => ?_
  exact h.block.toSteady.map (fun _ _ => rfl) (fun _ _ => rfl) fun _ _ _ => rfl

theorem result_steady (start start' : Token) :
    Steady F .statement nothing (result read start) (result read start') := by
  refine .orEnd (endsResult · = true) nofun (fun _ ends => ends) (.inr rfl) (nothing_eq _ _) ?_
  exact h.expression.bind fun _ _ _ => .pure (nothing_eq _ _)

theorem expressionStatement_taking :
    Taking F .statement nothing (expressionStatement read) (expressionStatement read) :=
  h.expression.bind fun _ _ _ => .pure (nothing_eq _ _)

/-- A name and an equals sign begin a statement of their own; a name and any other token begin an
expression. -/
theorem nameStatement_steady (mem : (t, u) ∈ F.stem) (begins : t.kind = .identifier) :
    Steady F .statement nothing
      (fun ts => if nextKind ts = .equals then assignment read t ts
        else expressionStatement read (t :: ts))
      fun us => if nextKind us = .equals then assignment read u us
        else expressionStatement read (u :: us) := by
  have taking := expressionStatement_taking h
  have begins' : u.kind = .identifier := (Fork.kind_eq mem).symm.trans begins
  refine .chooseElse (· = .equals) (fun _ => newValue read t) (fun _ => newValue read u)
    (fun _ _ _ _ => newValue_steady h t u) (fun ts => ?_) (fun ts => ?_)
    fun twin _ _ => taking.echo (.cons mem twin)
  · exact (taking.starts (t :: ts)).within_tail (Wanted.operand_accepts_of_identifier begins)
  · exact (taking.starts (u :: ts)).within_tail (Wanted.operand_accepts_of_identifier begins')

theorem bareStatement_start (ts : List Token) : Start ts (bareStatement read ts) := by
  obtain ⟨k, eq⟩ | ⟨k, eq⟩ | ⟨k, eq⟩ | ⟨k, eq⟩ | ⟨k, eq⟩ | ⟨k, eq⟩ | ⟨k, -, eq⟩ | ⟨-, eq⟩ :=
    bareStatement_forms ts <;> rw [eq]
  · exact .of_kind k rfl ((newVariable_steady h _ (next ts)).forward ts.tail)
  · exact .of_kind k rfl ((branch_steady h _ (next ts)).forward ts.tail)
  · exact .of_kind k rfl ((loop_steady h _ (next ts)).forward ts.tail)
  · exact .of_kind k rfl ((result_steady h _ (next ts)).forward ts.tail)
  · exact .of_kind k rfl (List.suffix_refl _)
  · exact .of_kind k rfl (List.suffix_refl _)
  · exact .of_kind k rfl ((newValue_steady h _ (next ts)).forward ts.tail.tail).of_tail
  · exact (expressionStatement_taking h).starts ts

theorem bareStatement_taking :
    Taking F .statement nothing (bareStatement read) (bareStatement read) := by
  refine .of_starts (bareStatement_start h) (bareStatement_start h) fun {t u ts us} mem later => ?_
  have same : u.kind = t.kind := (Fork.kind_eq mem).symm
  unfold bareStatement
  dsimp only [next, List.headD_cons, List.tail_cons]
  rw [same]
  split
  next => exact (newVariable_steady h t u).echo later
  next => exact (branch_steady h t u).echo later
  next => exact (loop_steady h t u).echo later
  next => exact (result_steady h t u).echo later
  next => exact .accepted rfl rfl (nothing_eq _ _) later
  next => exact .accepted rfl rfl (nothing_eq _ _) later
  next begins => exact (nameStatement_steady h mem begins).echo later
  next => exact (expressionStatement_taking h).echo (.cons mem later)

theorem statement_taking : Taking F .statement nothing (statement read) (statement read) := by
  have skips : ∀ s : Stmt, (fun ts => .ok (s, skipSemicolon ts) : Reader Stmt) = fun ts =>
      if nextKind ts = .semicolon then .ok (s, ts.tail) else .ok (s, ts) := by
    intro s
    funext ts
    unfold skipSemicolon
    split <;> rfl
  refine (bareStatement_taking h).bindStatement (fun s s' _ => ?_) fun s ts _ => ?_
  · show Steady F .statement nothing (fun ts => .ok (s, skipSemicolon ts))
      fun ts => .ok (s', skipSemicolon ts)
    rw [skips, skips]
    exact .choose (· = .semicolon) (fun _ ts => .ok (s, ts)) (fun _ ts => .ok (s', ts))
      (fun _ _ _ _ => .pure (nothing_eq _ _)) (.pure (nothing_eq _ _))
  · show Rests .statement ts (.ok (s, skipSemicolon ts))
    unfold skipSemicolon
    split
    · exact .goes (List.suffix_refl _)
    · exact .stays nofun rfl

/-! ### Lists of statements -/

/-- One statement in the place of statements in braces. -/
def single (read : Readers) : Reader (List Stmt × Span) := fun ts => do
  let (s, ts) ← read .statement ts
  .ok (([s], s.span), ts)

theorem single_taking : Taking F .statement nothing (single read) (single read) :=
  h.statement.bindStatement (fun _ _ _ => .pure (nothing_eq _ _)) fun _ _ _ => .stays nofun rfl

theorem block_taking : Taking F .statement nothing (block read) (block read) := by
  have starts : ∀ ts, Start ts (block read ts) := by
    intro ts
    unfold block
    split
    next opening =>
      have inside : Steady F .statement nothing _ _ := bracesAfter_steady h (next ts) (next ts)
      exact .of_kind opening rfl (inside.forward ts.tail)
    next => exact (single_taking h).starts ts
  refine .of_starts starts starts fun {t u ts us} mem later => ?_
  have same : nextKind (u :: us) = nextKind (t :: ts) := (Fork.kind_eq mem).symm
  unfold block
  rw [same]
  split
  next => exact (braces_steady h).echo (.cons mem later)
  next => exact (single_taking h).echo (.cons mem later)

/-- A statement and those that follow it. -/
def statements (read : Readers) (more : Reader (List Stmt)) : Reader (List Stmt) := fun ts => do
  let (s, ts) ← read .statement ts
  let (rest, ts) ← more ts
  .ok (s :: rest, ts)

theorem statements_taking {place : Place} {more : Reader (List Stmt)}
    (steady : Steady F place nothing more more)
    (rests : ∀ ts, endsResult (nextKind ts) = true → Rests place ts (more ts)) :
    Taking F place nothing (statements read more) (statements read more) := by
  refine h.statement.bindStatement (fun _ _ _ => ?_) fun s ts ends => ?_
  · exact steady.map (fun _ _ => rfl) (fun _ _ => rfl) fun _ _ _ => rfl
  · exact (rests ts ends).map fun _ _ => rfl

/-- No statement begins with a token that ends a list of statements. -/
theorem statements_rests {place : Place} (more : Reader (List Stmt))
    (ends : endsResult (nextKind ts) = true) : Rests place ts (statements read more ts) := by
  unfold statements
  cases h.statement.starts ts with
  | takes other => cases ends.symm.trans other
  | refuses begins failed =>
    rw [failed]
    exact .fails (.inl begins) rfl
  | exhausted failed =>
    rw [failed]
    exact .goes trivial

theorem body_steady : Steady F .statement nothing (Grammar.body read) (Grammar.body read) := by
  have ends : ∀ kind : TokenKind, kind = .rightBrace ∨ kind = .endOfInput →
      endsResult kind = true := by
    rintro _ (rfl | rfl) <;> rfl
  exact .orEnd (fun kind => kind = .rightBrace ∨ kind = .endOfInput) nofun ends (.inr (.inl rfl))
    (nothing_eq _ _) (statements_taking h h.body h.bodyRests)

theorem body_rests (ends : endsResult (nextKind ts) = true) :
    Rests .statement ts (Grammar.body read ts) := by
  unfold Grammar.body
  split
  · exact .stays nofun rfl
  · exact statements_rests h (read .body) ends

theorem program_steady : Steady F .program nothing (program read) (program read) :=
  .orEnd (· = .endOfInput) nofun (fun _ ends => ends ▸ rfl) (.inl rfl) (nothing_eq _ _)
    (statements_taking h h.program h.programRests)

theorem program_rests (ends : endsResult (nextKind ts) = true) :
    Rests .program ts (program read ts) := by
  unfold program
  split
  · exact .stays nofun rfl
  · exact statements_rests h (read .program) ends

theorem Mirroring.produce (listing : Listing read) : Mirroring F (produce read) where
  program := program_steady h
  body := body_steady h
  block := block_taking h
  statement := statement_taking h
  operation := operation_taking h
  chain _ _ _ same := chain_steady h same
  unary := unary_taking h listing
  arguments := arguments_taking h
  programRests _ := program_rests h
  bodyRests _ := body_rests h
  overrun := arguments_overrun h listing

end

/-- Without fuel nothing is read. -/
theorem Taking.exhausted {κ : Type} {place : Place} {key : α → κ} :
    Taking F place key (fun _ => .error .exhausted) fun _ => .error .exhausted where
  forward _ := trivial
  forward' _ := trivial
  echo _ := .passed trivial
  starts _ := .exhausted rfl
  starts' _ := .exhausted rfl

theorem read_mirroring (F : Fork) (fuel : Nat) : Mirroring F (Grammar.read fuel) := by
  induction fuel with
  | zero =>
    exact {
      program := Taking.exhausted.toSteady
      body := Taking.exhausted.toSteady
      block := Taking.exhausted
      statement := Taking.exhausted
      operation := fun _ => Taking.exhausted
      chain := fun _ _ _ _ => Taking.exhausted.toSteady
      unary := Taking.exhausted
      arguments := Taking.exhausted
      programRests := fun _ _ => .goes trivial
      bodyRests := fun _ _ => .goes trivial
      overrun := fun _ _ _ => .inl trivial }
  | succ fuel ih => exact ih.produce (read_listing fuel)

/-- Two programs that begin alike are read alike, up to where they part. -/
theorem readAll_echo (twin : F.Twin ts us) :
    Echo F .program nothing (readAll .program ts) (readAll .program us) := by
  have few := need_lt_enough .program ts
  have few' := need_lt_enough .program us
  rw [← read_eq_readAll (Nat.lt_add_right (enough us) few),
    ← read_eq_readAll (Nat.lt_add_left (enough ts) few')]
  exact (read_mirroring F (enough ts + enough us)).program.echo twin

end Scriptlet.Grammar
