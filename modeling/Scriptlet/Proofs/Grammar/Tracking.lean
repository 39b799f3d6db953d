import Scriptlet.Proofs.Grammar.Cursor
import Scriptlet.Proofs.Grammar.Located

/-
  The reading with a cursor is the reading of a list.
  A cursor in the list stands before the tokens that are left, and then each production does with
  the cursor what the grammar does with these tokens (`produce_tracks`): an attempt that fails
  leaves the cursor to the next one (`tryDeclaration_cases`, `tryCall_cases`), and no token is asked
  for that is not there. Main statement: `scan_tracks`.
-/

namespace Scriptlet

namespace Cursor

open Grammar (next nextKind Closed moreParams? params? bind_of_ok)

variable {α β : Type} {all ts : List Token} {i : Nat} {kind : TokenKind}

/-! ## Where the cursor stands -/

/-- The cursor is in the list, before the tokens that are left. -/
structure Stands (all : List Token) (i : Nat) (ts : List Token) : Prop where
  inside : i < all.length
  left : ts = all.drop i

namespace Stands

theorem eq_cons (here : Stands all i ts) : ts = next ts :: ts.tail := by
  have nonempty : ts ≠ [] := by
    rw [here.left]
    exact fun none => absurd (List.drop_eq_nil_iff.1 none) (Nat.not_le.2 here.inside)
  obtain ⟨t, more, rfl⟩ := List.exists_cons_of_ne_nil nonempty
  rfl

theorem getElem? (here : Stands all i ts) : all[i]? = some (next ts) := by
  rw [← List.head?_drop, ← here.left, here.eq_cons]
  rfl

theorem next_eq {t : Token} (here : Stands all i ts) (found : all[i]? = some t) : next ts = t :=
  Option.some.inj (here.getElem?.symm.trans found)

/-- Behind a token that is not that of the end there is another one. -/
theorem later (closed : Closed all) (here : Stands all i ts) (begins : nextKind ts = kind)
    (ne : kind ≠ .endOfInput) : Stands all (i + 1) ts.tail := by
  refine ⟨Nat.lt_of_le_of_ne here.inside fun last => ?_, ?_⟩
  · refine ne (begins.symm.trans (closed (next ts) ?_))
    rw [List.getLast?_eq_getElem?, ← last]
    exact here.getElem?
  · rw [here.left, List.tail_drop]

theorem le_of_suffix {j : Nat} {rest : List Token} (here : Stands all i ts)
    (there : Stands all j rest) (suffix : rest <:+ ts) : i ≤ j := by
  have shorter := suffix.length_le
  rw [here.left, there.left, List.length_drop, List.length_drop] at shorter
  have := here.inside
  have := there.inside
  omega

theorem lt_of_ahead {j : Nat} {rest : List Token} (here : Stands all i ts)
    (there : Stands all j rest) (ahead : Ahead ts rest) : i < j := by
  have shorter := ahead.2
  rw [here.left, there.left, List.length_drop, List.length_drop] at shorter
  have := there.inside
  omega

theorem peek_eq (here : Stands all i ts) : peek all i = .ok (next ts) := by
  unfold peek
  rw [here.getElem?]

theorem advance_eq (here : Stands all i ts) (begins : nextKind ts = kind)
    (ne : kind ≠ .endOfInput) : advance all i = .ok (next ts, i + 1) := by
  refine (bind_of_ok here.peek_eq).trans ?_
  rw [if_neg (show ¬ (next ts).kind = .endOfInput from fun ends => ne (begins.symm.trans ends))]

theorem skip_eq (here : Stands all i ts) (ne : kind ≠ .endOfInput) :
    skip all kind i = if nextKind ts = kind then .ok (true, i + 1) else .ok (false, i) := by
  refine (bind_of_ok here.peek_eq).trans ?_
  by_cases taken : nextKind ts = kind
  · rw [if_pos taken]
    refine (if_pos taken).trans ?_
    exact bind_of_ok (here.advance_eq taken ne)
  · rw [if_neg taken]
    exact if_neg taken

end Stands

/-! ## Two readings that do the same -/

/-- Both end with the same fault, or with the same result and the cursor before the tokens left. -/
inductive Tracks (all : List Token) :
    Except Stop (α × Nat) → Except ParseFault (α × List Token) → Prop
  | ok (a : α) {i : Nat} {ts : List Token} (here : Stands all i ts) :
    Tracks all (.ok (a, i)) (.ok (a, ts))
  | fault (fault : ParseFault) : Tracks all (.error (.fault fault)) (.error fault)

namespace Tracks

variable {r : Except ParseFault (β × List Token)}

theorem bind {m : Except Stop (α × Nat)} {o : Except ParseFault (α × List Token)}
    {f : α × Nat → Except Stop (β × Nat)} {g : α × List Token → Except ParseFault (β × List Token)}
    (first : Tracks all m o)
    (then_ : ∀ a i ts, Stands all i ts → Tracks all (f (a, i)) (g (a, ts))) :
    Tracks all (m >>= f) (o >>= g) := by
  cases first with
  | ok a here => exact then_ a _ _ here
  | fault fault => exact .fault fault

theorem lift_bind {o : Except ParseFault α} {f : α → Except Stop (β × Nat)}
    {g : α → Except ParseFault (β × List Token)} (then_ : ∀ a, Tracks all (f a) (g a)) :
    Tracks all (lift o >>= f) (o >>= g) := by
  cases o with
  | ok a => exact then_ a
  | error fault => exact .fault fault

theorem peek {f : Token → Except Stop (β × Nat)} (here : Stands all i ts)
    (then_ : Tracks all (f (next ts)) r) : Tracks all (Cursor.peek all i >>= f) r := by
  rw [bind_of_ok here.peek_eq]
  exact then_

theorem advance {f : Token × Nat → Except Stop (β × Nat)} (closed : Closed all)
    (here : Stands all i ts) (begins : nextKind ts = kind) (ne : kind ≠ .endOfInput)
    (then_ : Stands all (i + 1) ts.tail → Tracks all (f (next ts, i + 1)) r) :
    Tracks all (Cursor.advance all i >>= f) r := by
  rw [bind_of_ok (here.advance_eq begins ne)]
  exact then_ (here.later closed begins ne)

theorem forms {m : Except Stop (β × Nat)} (tracks : Tracks all m r) :
    (∃ b j rest, m = .ok (b, j) ∧ r = .ok (b, rest) ∧ Stands all j rest) ∨
      ∃ fault, m = .error (.fault fault) ∧ r = .error fault := by
  cases tracks with
  | ok b here => exact .inl ⟨b, _, _, rfl, rfl, here⟩
  | fault fault => exact .inr ⟨fault, rfl, rfl⟩

/-- An attempt that succeeds is the last one. -/
theorem tried {m : Except Stop (β × Nat)} {f : Option β × Nat → Except Stop (β × Nat)}
    (first : Tracks all m r) (last : ∀ b i, f (some b, i) = .ok (b, i)) :
    Tracks all ((m >>= fun (b, i) => .ok (some b, i)) >>= f) r := by
  cases first with
  | ok b here =>
    show Tracks all (f (some b, _)) _
    rw [last]
    exact .ok b here
  | fault fault => exact .fault fault

theorem ite {p : Prop} [Decidable p] {m m' : Except Stop (β × Nat)}
    {o o' : Except ParseFault (β × List Token)} (yes : p → Tracks all m o)
    (no : ¬ p → Tracks all m' o') :
    Tracks all (if p then m else m') (if p then o else o') := by
  split
  next h => exact yes h
  next h => exact no h

theorem skip {f : Bool × Nat → Except Stop (β × Nat)} {r' : Except ParseFault (β × List Token)}
    (closed : Closed all) (here : Stands all i ts) (ne : kind ≠ .endOfInput)
    (yes : Stands all (i + 1) ts.tail → Tracks all (f (true, i + 1)) r)
    (no : Tracks all (f (false, i)) r') :
    Tracks all (Cursor.skip all kind i >>= f) (if nextKind ts = kind then r else r') := by
  rw [here.skip_eq ne]
  split
  next taken => exact yes (here.later closed taken ne)
  next => exact no

end Tracks

theorem expect_tracks {wanted : Wanted} (closed : Closed all) (here : Stands all i ts)
    (ne : kind ≠ .endOfInput) :
    Tracks all (expect all kind wanted i) (Grammar.expect kind wanted ts) := by
  refine .peek here (.ite (fun taken => ?_) fun _ => .fault _)
  rw [here.advance_eq taken ne]
  exact .ok _ (here.later closed taken ne)

/-! ## Parameter lists -/

/-- A search with the cursor finds no names where the search on the list finds nothing, `o`; where
it finds some, `o` is what `closes` makes of them and of the tokens left. -/
inductive Tries (all : List Token)
    (closes : List String → List Token → Option (List String × List Token))
    (o : Option (List String × List Token)) :
    Except Stop (Option (List String) × Nat) → Prop
  | none {i : Nat} (unread : o = none) : Tries all closes o (.ok (none, i))
  | some {i : Nat} {mid : List Token} {params : List String} (here : Stands all i mid)
    (read : o = closes params mid) : Tries all closes o (.ok (some params, i))

/-- The names are those of a list if a closing parenthesis comes next. -/
def closeList (params : List String) (ts : List Token) : Option (List String × List Token) :=
  if nextKind ts = .rightParen then some (params, ts.tail) else none

/-- The list is that of a declaration if an opening brace comes next. -/
def openBody (params : List String) (ts : List Token) : Option (List String × List Token) :=
  if nextKind ts = .leftBrace then some (params, ts) else none

theorem moreParams?_of_ne (ne : nextKind ts ≠ .identifier) : moreParams? ts = none := by
  fun_cases moreParams? ts with
  | case1 => rfl
  | case5 => rfl
  | _ => contradiction

theorem moreParams?_of_identifier (name : nextKind ts = .identifier) :
    moreParams? ts =
      if nextKind ts.tail = .rightParen then some ([(next ts).lexeme], ts.tail.tail)
      else if nextKind ts.tail = .comma then
        (moreParams? ts.tail.tail).map fun (more, ts') => ((next ts).lexeme :: more, ts')
      else none := by
  match ts with
  | [] => cases name
  | [t] => rfl
  | t :: mark :: ts =>
    rw [moreParams?]
    exact if_neg (not_not_intro name)

theorem names_tries (closed : Closed all) (here : Stands all i ts) :
    Tries all closeList (moreParams? ts) (names all i) := by
  fun_induction names all i generalizing ts with
  | case1 i none =>
    rw [here.getElem?] at none
    cases none
  | case2 i name found other =>
    obtain rfl := here.next_eq found
    exact .none (moreParams?_of_ne other)
  | case3 i name found identifier none =>
    obtain rfl := here.next_eq found
    have begins : nextKind ts = .identifier := of_not_not identifier
    have later := here.later closed begins (by decide)
    rw [later.getElem?] at none
    cases none
  | case4 i name found identifier mark after comma ih =>
    obtain rfl := here.next_eq found
    have begins : nextKind ts = .identifier := of_not_not identifier
    have later := here.later closed begins (by decide)
    obtain rfl := later.next_eq after
    have comma : nextKind ts.tail = .comma := comma
    have read := moreParams?_of_identifier begins
    rw [if_neg (by rw [comma]; decide), if_pos comma] at read
    have inner := ih (later.later closed comma (by decide))
    rw [read]
    generalize names all (i + 2) = tried at inner ⊢
    cases inner with
    | none unread =>
      rw [unread]
      exact .none rfl
    | some there read =>
      rw [read]
      refine .some there ?_
      unfold closeList
      split <;> rfl
  | case5 i name found identifier mark after other =>
    obtain rfl := here.next_eq found
    have begins : nextKind ts = .identifier := of_not_not identifier
    have later := here.later closed begins (by decide)
    obtain rfl := later.next_eq after
    refine .some later ((moreParams?_of_identifier begins).trans ?_)
    exact if_congr Iff.rfl rfl (if_neg other)

theorem listed_tries (closed : Closed all) (here : Stands all i ts) :
    Tries all closeList
      (if nextKind ts = .rightParen then some ([], ts.tail) else moreParams? ts)
      (listed all i) := by
  unfold listed
  rw [bind_of_ok here.peek_eq]
  by_cases close : nextKind ts = .rightParen
  · rw [if_pos close, if_pos (show (next ts).kind = .rightParen from close)]
    exact .some here (if_pos close).symm
  · rw [if_neg close, if_neg (show ¬ (next ts).kind = .rightParen from close)]
    exact names_tries closed here

theorem params?_eq (ts : List Token) : params? ts =
    if nextKind ts = .leftParen then
      (if nextKind ts.tail = .rightParen then some ([], ts.tail.tail)
        else moreParams? ts.tail).bind fun (params, ts) => openBody params ts
    else none := by
  have brace (params : List String) (ts : List Token) :
      (guard (nextKind ts = .leftBrace) : Option Unit).bind (fun _ => some (params, ts)) =
        openBody params ts := by
    unfold guard openBody
    split <;> rfl
  unfold params?
  by_cases opening : nextKind ts = .leftParen
  · rw [if_pos opening, Grammar.guard_of_holds opening]
    by_cases close : nextKind ts.tail = .rightParen
    · rw [if_pos close, if_pos close]
      exact brace [] ts.tail.tail
    · rw [if_neg close, if_neg close]
      exact congrArg (Option.bind _) (funext fun (r : List String × List Token) => brace r.1 r.2)
  · rw [if_neg opening, Grammar.guard_of_fails opening]
    rfl

theorem parameterList_tries (closed : Closed all) (here : Stands all i ts) :
    Tries all openBody (params? ts) (parameterList all i) := by
  unfold parameterList
  rw [params?_eq, here.skip_eq (by decide)]
  split
  next opening =>
    have tried := listed_tries closed (here.later closed opening (by decide))
    show Tries all openBody _ (listed all (i + 1) >>= _)
    generalize listed all (i + 1) = found at tried ⊢
    cases tried with
    | none unread =>
      rw [unread]
      exact .none rfl
    | @some j mid params there read =>
      rw [read]
      show Tries all openBody _ (skip all .rightParen j >>= _)
      rw [there.skip_eq (by decide)]
      unfold closeList
      split
      next close => exact .some (there.later closed close (by decide)) rfl
      next => exact .none rfl
  next => exact .none rfl

/-! ## Productions -/

/-- Both readers do the same with every phrase. -/
def TracksAll (all : List Token) (scanner : Scanners) (read : Readers) : Prop :=
  ∀ phrase i ts, Stands all i ts → Tracks all (scanner phrase i) (read phrase ts)

variable {scanner : Scanners} {read : Readers} {level : Level}

section

variable (sim : TracksAll all scanner read)
include sim

theorem operand_tracks (level : Level) (here : Stands all i ts) :
    Tracks all (operand scanner level i) (Grammar.operand read level ts) := by
  cases level with
  | product => exact sim .unary i ts here
  | _ => exact sim (.operation _) i ts here

theorem operation_tracks (here : Stands all i ts) :
    Tracks all (operation scanner level i) (Grammar.operation read level ts) :=
  .bind (operand_tracks sim level here) fun _ _ _ later => sim _ _ _ later

variable (closed : Closed all)
include closed

theorem braces_tracks (here : Stands all i ts) (opening : nextKind ts = .leftBrace) :
    Tracks all (braces all scanner i) (Grammar.braces read ts) := by
  refine .advance closed here opening (by decide) fun later => ?_
  refine .bind (sim .body _ _ later) fun body _ _ later => ?_
  exact .bind (expect_tracks closed later (by decide)) fun _ _ _ later => .ok _ later

theorem declaration_tracks {name : Token} {params : List String} (here : Stands all i ts)
    (opening : nextKind ts = .leftBrace) :
    Tracks all (declaration all scanner name params i) (Grammar.declaration read name params ts) :=
  .bind (braces_tracks sim closed here opening) fun _ _ _ later => .ok _ later

theorem call_tracks {name : Token} (here : Stands all i ts) :
    Tracks all (call all scanner name i) (Grammar.call read name ts) := by
  have listed : Tracks all (callArguments all scanner i) (Grammar.callArguments read ts) :=
    .peek here (.ite (fun _ => .ok _ here) fun _ => sim .arguments i ts here)
  refine .bind listed fun args _ _ later => ?_
  exact .bind (expect_tracks closed later (by decide)) fun _ _ _ later => .ok _ later

omit sim in
/-- What begins with a token is tried as a declaration: the cursor is set back, or a parameter list
and a brace follow and the body is read. -/
theorem tryDeclaration_cases (scanner : Scanners) (here : Stands all i ts)
    (more : nextKind ts ≠ .endOfInput) :
    (params? ts.tail = none ∧ tryDeclaration all scanner i = .ok (none, i)) ∨
      ∃ params mid j, params? ts.tail = some (params, mid) ∧ Stands all j mid ∧
        nextKind mid = .leftBrace ∧ tryDeclaration all scanner i =
          (declaration all scanner (next ts) params j >>= fun (e, j) => .ok (some e, j)) := by
  have tried := parameterList_tries closed (here.later closed rfl more)
  unfold tryDeclaration
  rw [bind_of_ok (here.advance_eq rfl more)]
  dsimp only
  generalize parameterList all (i + 1) = found at tried ⊢
  cases tried with
  | none unread => exact .inl ⟨unread, rfl⟩
  | @some j mid params there read =>
    show (_ ∧ (peek all j >>= _) = _) ∨ ∃ _ _ _, _ ∧ _ ∧ _ ∧ (peek all j >>= _) = _
    rw [bind_of_ok there.peek_eq, read]
    unfold openBody
    by_cases brace : nextKind mid = .leftBrace
    · exact .inr ⟨params, mid, j, if_pos brace, there, brace, if_pos brace⟩
    · exact .inl ⟨if_neg brace, if_neg brace⟩

omit sim in
/-- What begins with a token is tried as a call: nothing is taken, or a parenthesis follows and the
arguments are read. -/
theorem tryCall_cases (scanner : Scanners) (here : Stands all i ts)
    (more : nextKind ts ≠ .endOfInput) :
    (nextKind ts.tail ≠ .leftParen ∧ tryCall all scanner i = .ok (none, i)) ∨
      (nextKind ts.tail = .leftParen ∧ Stands all (i + 2) ts.tail.tail ∧ tryCall all scanner i =
        (call all scanner (next ts) (i + 2) >>= fun (e, j) => .ok (some e, j))) := by
  have later := here.later closed rfl more
  unfold tryCall
  rw [bind_of_ok later.peek_eq]
  by_cases paren : nextKind ts.tail = .leftParen
  · refine .inr ⟨paren, later.later closed paren (by decide), (if_pos paren).trans ?_⟩
    rw [bind_of_ok (here.advance_eq rfl more)]
    exact bind_of_ok (later.advance_eq paren (by decide))
  · exact .inl ⟨paren, if_neg paren⟩

theorem named_tracks (here : Stands all i ts) (begins : nextKind ts = .identifier) :
    Tracks all (named all scanner (next ts) i) (Grammar.named read (next ts) ts.tail) := by
  have more : nextKind ts ≠ .endOfInput := by
    rw [begins]
    decide
  unfold named Grammar.named
  obtain ⟨unlisted, back⟩ | ⟨params, mid, j, listed, there, brace, eq⟩ :=
    tryDeclaration_cases closed scanner here more
  · rw [unlisted, back]
    show Tracks all (tryCall all scanner i >>= _) _
    obtain ⟨other, back⟩ | ⟨paren, inside, eq⟩ := tryCall_cases closed scanner here more
    · rw [back, if_neg other]
      exact .advance closed here begins (by decide) fun later => .ok _ later
    · rw [eq, if_pos paren]
      exact .tried (call_tracks sim closed inside) fun _ _ => rfl
  · rw [listed, eq]
    exact .tried (declaration_tracks sim closed there brace) fun _ _ => rfl

theorem primary_tracks (here : Stands all i ts) :
    Tracks all (primary all scanner i) (Grammar.primary read ts) := by
  refine .peek here ?_
  split
  next paren =>
    rw [Grammar.primary_of_paren paren]
    refine .advance closed here paren (by decide) fun later => ?_
    refine .bind (sim .expression _ _ later) fun inner _ _ later => ?_
    exact .bind (expect_tracks closed later (by decide)) fun _ _ _ later => .ok _ later
  next begins =>
    rw [Grammar.primary_of_name begins]
    exact named_tracks sim closed here begins
  next paren begins =>
    rw [Grammar.primary_of_literal paren begins]
    cases made : Grammar.literal? (next ts) with
    | ok v =>
      refine .advance closed here rfl (Grammar.nextKind_ne_of_literal? made) fun later => ?_
      exact .ok _ later
    | error fault => exact .fault fault

theorem unary_tracks (here : Stands all i ts) :
    Tracks all (unary all scanner i) (Grammar.unary read ts) := by
  refine .peek here ?_
  unfold Grammar.unary nextKind
  dsimp only
  cases sign : Grammar.unaryOp? (next ts).kind with
  | some op =>
    refine .advance closed here rfl (Grammar.ne_endOfInput_of_unaryOp? sign) fun later => ?_
    exact .bind (sim .unary _ _ later) fun _ _ _ later => .ok _ later
  | none => exact primary_tracks sim closed here

theorem chain_tracks {left : Expr} (here : Stands all i ts) :
    Tracks all (chain all scanner level left i) (Grammar.chain read level left ts) := by
  refine .peek here ?_
  unfold Grammar.chain nextKind
  dsimp only
  cases mark : level.operator? (next ts).kind with
  | none => exact .ok left here
  | some op =>
    refine .advance closed here rfl (Grammar.ne_endOfInput_of_operator? mark) fun later => ?_
    refine .bind (operand_tracks sim level later) fun right _ _ later => ?_
    exact .lift_bind fun whole => sim _ _ _ later

theorem arguments_tracks (here : Stands all i ts) :
    Tracks all (arguments all scanner i) (Grammar.arguments read ts) := by
  refine .bind (sim .expression _ _ here) fun e _ _ later => ?_
  refine .skip closed later (by decide) (fun later => ?_) (.ok _ later)
  exact .bind (sim .arguments _ _ later) fun _ _ _ later => .ok _ later

theorem condition_tracks {wanted : Wanted} (here : Stands all i ts) :
    Tracks all (condition all scanner wanted i) (Grammar.condition read wanted ts) := by
  refine .bind (expect_tracks closed here (by decide)) fun _ _ _ later => ?_
  refine .bind (sim .expression _ _ later) fun e _ _ later => ?_
  exact .bind (expect_tracks closed later (by decide)) fun _ _ _ later => .ok _ later

theorem newVariable_tracks (here : Stands all i ts) (word : nextKind ts = .varWord) :
    Tracks all (newVariable all scanner i) (Grammar.newVariable read (next ts) ts.tail) := by
  refine .advance closed here word (by decide) fun later => ?_
  refine .bind (expect_tracks closed later (by decide)) fun name _ _ later => ?_
  refine .bind (expect_tracks closed later (by decide)) fun _ _ _ later => ?_
  exact .bind (sim .expression _ _ later) fun _ _ _ later => .ok _ later

theorem assignment_tracks (here : Stands all i ts) (name : nextKind ts = .identifier)
    (mark : nextKind ts.tail = .equals) :
    Tracks all (assignment all scanner i) (Grammar.assignment read (next ts) ts.tail) := by
  refine .advance closed here name (by decide) fun later => ?_
  refine .advance closed later mark (by decide) fun later => ?_
  exact .bind (sim .expression _ _ later) fun _ _ _ later => .ok _ later

theorem branch_tracks (here : Stands all i ts) (word : nextKind ts = .ifWord) :
    Tracks all (branch all scanner i) (Grammar.branch read (next ts) ts.tail) := by
  refine .advance closed here word (by decide) fun later => ?_
  refine .bind (condition_tracks sim closed later) fun test _ _ later => ?_
  refine .bind (sim .block _ _ later) fun (thenBody, thenSpan) _ _ later => ?_
  refine .skip closed later (by decide) (fun later => ?_) (.ok _ later)
  exact .bind (sim .block _ _ later) fun _ _ _ later => .ok _ later

theorem loop_tracks (here : Stands all i ts) (word : nextKind ts = .whileWord) :
    Tracks all (loop all scanner i) (Grammar.loop read (next ts) ts.tail) := by
  refine .advance closed here word (by decide) fun later => ?_
  refine .bind (condition_tracks sim closed later) fun test _ _ later => ?_
  exact .bind (sim .block _ _ later) fun _ _ _ later => .ok _ later

theorem result_tracks (here : Stands all i ts) (word : nextKind ts = .returnWord) :
    Tracks all (result all scanner i) (Grammar.result read (next ts) ts.tail) := by
  refine .advance closed here word (by decide) fun later => ?_
  refine .peek later (.ite (fun _ => .ok _ later) fun _ => ?_)
  exact .bind (sim .expression _ _ later) fun _ _ _ later => .ok _ later

omit sim in
theorem jump_tracks {jump : Jump} (here : Stands all i ts) (word : nextKind ts = kind)
    (ne : kind ≠ .endOfInput) :
    Tracks all (Cursor.jump all jump i) (.ok (.jump jump (next ts).span, ts.tail)) :=
  .advance closed here word ne fun later => .ok _ later

omit closed in
theorem expressionStatement_tracks (here : Stands all i ts) :
    Tracks all (expressionStatement scanner i) (Grammar.expressionStatement read ts) :=
  .bind (sim .expression _ _ here) fun _ _ _ later => .ok _ later

theorem bareStatement_tracks (here : Stands all i ts) :
    Tracks all (bareStatement all scanner i) (Grammar.bareStatement read ts) := by
  refine .peek here ?_
  unfold Grammar.bareStatement
  dsimp only
  generalize begins : (next ts).kind = kind
  cases kind with
  | varWord => exact newVariable_tracks sim closed here begins
  | ifWord => exact branch_tracks sim closed here begins
  | whileWord => exact loop_tracks sim closed here begins
  | returnWord => exact result_tracks sim closed here begins
  | breakWord => exact jump_tracks closed here begins (by decide)
  | continueWord => exact jump_tracks closed here begins (by decide)
  | identifier =>
    refine .peek (here.later closed begins (by decide)) (.ite (fun mark => ?_) fun _ => ?_)
    · exact assignment_tracks sim closed here begins mark
    · exact expressionStatement_tracks sim here
  | _ => exact expressionStatement_tracks sim here

theorem statement_tracks (here : Stands all i ts) :
    Tracks all (statement all scanner i) (Grammar.statement read ts) := by
  refine .bind (bareStatement_tracks sim closed here) fun s i ts later => ?_
  show Tracks all (skip all .semicolon i >>= _) (.ok (s, Grammar.skipSemicolon ts))
  rw [later.skip_eq (by decide)]
  unfold Grammar.skipSemicolon
  by_cases mark : nextKind ts = .semicolon
  · rw [if_pos mark, if_pos mark]
    exact .ok s (later.later closed mark (by decide))
  · rw [if_neg mark, if_neg mark]
    exact .ok s later

theorem block_tracks (here : Stands all i ts) :
    Tracks all (block all scanner i) (Grammar.block read ts) := by
  refine .peek here (.ite (fun opening => braces_tracks sim closed here opening) fun _ => ?_)
  exact .bind (sim .statement _ _ here) fun _ _ _ later => .ok _ later

omit closed

theorem body_tracks (here : Stands all i ts) :
    Tracks all (body all scanner i) (Grammar.body read ts) := by
  refine .peek here (.ite (fun _ => .ok _ here) fun _ => ?_)
  refine .bind (sim .statement _ _ here) fun s _ _ later => ?_
  exact .bind (sim .body _ _ later) fun _ _ _ later => .ok _ later

theorem program_tracks (here : Stands all i ts) :
    Tracks all (program all scanner i) (Grammar.program read ts) := by
  refine .peek here (.ite (fun _ => .ok _ here) fun _ => ?_)
  refine .bind (sim .statement _ _ here) fun s _ _ later => ?_
  exact .bind (sim .program _ _ later) fun _ _ _ later => .ok _ later

theorem produce_tracks (closed : Closed all) :
    TracksAll all (produce all scanner) (Grammar.produce read) := by
  intro phrase i ts here
  cases phrase with
  | program => exact program_tracks sim here
  | body => exact body_tracks sim here
  | block => exact block_tracks sim closed here
  | statement => exact statement_tracks sim closed here
  | operation level => exact operation_tracks sim here
  | chain level left => exact chain_tracks sim closed here
  | unary => exact unary_tracks sim closed here
  | arguments => exact arguments_tracks sim closed here

end

/-- The cursor reads what the list is read as, with the same fuel. -/
theorem scan_tracks (closed : Closed all) (fuel : Nat) :
    TracksAll all (scan all fuel) (Grammar.read fuel) := by
  induction fuel with
  | zero => exact fun _ _ _ _ => .fault .exhausted
  | succ fuel ih => exact produce_tracks ih closed

end Cursor

end Scriptlet
