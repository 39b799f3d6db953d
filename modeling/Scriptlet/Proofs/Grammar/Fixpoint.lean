import Scriptlet.Proofs.Grammar.Progress

/-
  The grammar without fuel.
  A production reads the phrases inside it on fewer tokens, or on the same tokens at a lower place
  in the order of phrases. So the fuel that `enough` gives decides what is read, more fuel changes
  nothing (`read_stable`), and the reader with enough fuel is its own round of productions
  (`readAll_eq_produce`). What each production makes of the phrases inside it therefore holds of
  every phrase (`readAll_induction`).
-/

namespace Scriptlet

/-- The place of a phrase among those that can begin with it without taking a token. -/
def Phrase.weight : Phrase → Nat
  | .program | .body | .block => 8
  | .statement | .arguments => 7
  | .operation .disjunction => 6
  | .operation .conjunction => 5
  | .operation .comparison => 4
  | .operation .sum => 3
  | .operation .product => 2
  | .unary => 1
  | .chain _ _ => 0

/-- What bounds the productions that are nested in reading a phrase. -/
def Phrase.need (phrase : Phrase) (ts : List Token) : Nat :=
  16 * ts.length + phrase.weight

theorem Phrase.weight_le (phrase : Phrase) : phrase.weight ≤ 8 := by
  cases phrase with
  | operation level => cases level <;> decide
  | _ => simp [weight]

namespace Grammar

/-- The two readers read alike where less than `bound` is needed. -/
def AgreeBelow (bound : Nat) (read' read : Readers) : Prop :=
  ∀ (phrase : Phrase) (ts : List Token), phrase.need ts < bound → read' phrase ts = read phrase ts

variable {read' read : Readers} {ts : List Token} {level : Level} {bound : Nat}

theorem bind_congr_ok {ε α β : Type} {m' m : Except ε α} {f' f : α → Except ε β} (first : m' = m)
    (then_ : ∀ a, m = .ok a → f' a = f a) : (m' >>= f') = (m >>= f) := by
  subst first
  cases m' with
  | error e => rfl
  | ok a => exact then_ a rfl

section

variable (agree : AgreeBelow bound read' read)
include agree

theorem expression_local (le : 16 * ts.length + 6 < bound) :
    read' .expression ts = read .expression ts :=
  agree _ _ le

theorem operand_local (le : 16 * ts.length + (Phrase.operation level).weight ≤ bound) :
    operand read' level ts = operand read level ts := by
  cases level <;> exact agree _ _ le

theorem body_local (le : 16 * ts.length + 8 < bound) : read' .body ts = read .body ts :=
  agree _ _ le

theorem braces_local (opening : nextKind ts = .leftBrace) (le : 16 * ts.length ≤ bound) :
    braces read' ts = braces read ts := by
  have shorter := (ahead_tail opening (by decide)).2
  exact bind_congr_ok (body_local agree (by omega)) fun _ _ => rfl

theorem declaration_local {name : Token} {params : List String}
    (opening : nextKind ts = .leftBrace) (le : 16 * ts.length ≤ bound) :
    declaration read' name params ts = declaration read name params ts :=
  bind_congr_ok (braces_local agree opening le) fun _ _ => rfl

theorem call_local {name : Token} (le : 16 * ts.length + 7 < bound) :
    call read' name ts = call read name ts := by
  refine bind_congr_ok ?_ fun _ _ => rfl
  unfold callArguments
  split
  · rfl
  · exact agree _ _ le

theorem named_local {name : Token} (le : 16 * ts.length + 8 ≤ bound) :
    named read' name ts = named read name ts := by
  unfold named
  split
  next params mid found =>
    have shorter := (params?_ahead found).2
    exact declaration_local agree (params?_eq_some_iff.1 found).2.1 (by omega)
  next =>
    split
    next paren =>
      have shorter := (ahead_tail paren (by decide)).2
      exact call_local agree (by omega)
    next => rfl

theorem primary_local (le : 16 * ts.length ≤ bound) : primary read' ts = primary read ts := by
  unfold primary
  dsimp only
  split
  next paren =>
    have shorter := (ahead_tail paren (by decide)).2
    exact bind_congr_ok (expression_local agree (by omega)) fun _ _ => rfl
  next name =>
    have shorter := (ahead_tail name (by decide)).2
    exact named_local agree (by omega)
  next => rfl

theorem unary_local (le : 16 * ts.length + 1 ≤ bound) : unary read' ts = unary read ts := by
  unfold unary
  split
  next op found =>
    have shorter := (ahead_tail rfl (ne_endOfInput_of_unaryOp? found)).2
    refine bind_congr_ok (agree _ _ ?_) fun _ _ => rfl
    show 16 * ts.tail.length + 1 < bound
    omega
  next => exact primary_local agree (by omega)

variable (forward : Advancing read)
include forward

theorem operation_local (le : 16 * ts.length + (Phrase.operation level).weight ≤ bound) :
    operation read' level ts = operation read level ts := by
  refine bind_congr_ok (operand_local agree le) fun a made => ?_
  obtain ⟨left, mid⟩ := a
  have shorter := (operand_ahead forward made).2
  refine agree _ _ ?_
  show 16 * mid.length + 0 < bound
  omega

theorem chain_local {left : Expr} (le : 16 * ts.length ≤ bound) :
    chain read' level left ts = chain read level left ts := by
  unfold chain
  split
  next => rfl
  next op found =>
    have shorter := (ahead_tail rfl (ne_endOfInput_of_operator? found)).2
    have low := Phrase.weight_le (.operation level)
    refine bind_congr_ok (operand_local agree (by omega)) fun a made => ?_
    obtain ⟨right, mid⟩ := a
    have after := (operand_ahead forward made).2
    refine bind_congr_ok rfl fun whole _ => ?_
    refine agree _ _ ?_
    show 16 * mid.length + 0 < bound
    omega

theorem arguments_local (le : 16 * ts.length + 7 ≤ bound) :
    arguments read' ts = arguments read ts := by
  refine bind_congr_ok (expression_local agree (by omega)) fun a made => ?_
  obtain ⟨e, mid⟩ := a
  have shorter := (expression_ahead forward made).2
  dsimp only
  split
  · have tail := (List.tail_suffix mid).length_le
    refine bind_congr_ok (agree _ _ ?_) fun _ _ => rfl
    show 16 * mid.tail.length + 7 < bound
    omega
  · rfl

omit forward in
theorem condition_local {wanted : Wanted} (le : 16 * ts.length ≤ bound) :
    condition read' wanted ts = condition read wanted ts := by
  refine bind_congr_ok rfl fun a made => ?_
  obtain ⟨t, mid⟩ := a
  obtain ⟨paren, -, rfl⟩ := expect_ok_iff.1 made
  have shorter := (ahead_tail paren (by decide)).2
  exact bind_congr_ok (expression_local agree (by omega)) fun _ _ => rfl

omit forward in
theorem block_phrase_local (le : 16 * ts.length + 8 < bound) : read' .block ts = read .block ts :=
  agree _ _ le

theorem branch_local {start : Token} (le : 16 * ts.length ≤ bound) :
    branch read' start ts = branch read start ts := by
  refine bind_congr_ok (condition_local agree le) fun a made => ?_
  obtain ⟨test, mid⟩ := a
  have shorter := (condition_ahead forward made).2
  refine bind_congr_ok (block_phrase_local agree (by omega)) fun b made => ?_
  obtain ⟨⟨thenBody, thenSpan⟩, after⟩ := b
  have later := (forward .block _ _ _ made).1.length_le
  dsimp only
  split
  · have tail := (List.tail_suffix after).length_le
    exact bind_congr_ok (block_phrase_local agree (by omega)) fun _ _ => rfl
  · rfl

theorem loop_local {start : Token} (le : 16 * ts.length ≤ bound) :
    loop read' start ts = loop read start ts := by
  refine bind_congr_ok (condition_local agree le) fun a made => ?_
  obtain ⟨test, mid⟩ := a
  have shorter := (condition_ahead forward made).2
  exact bind_congr_ok (block_phrase_local agree (by omega)) fun _ _ => rfl

omit forward

theorem result_local {start : Token} (le : 16 * ts.length + 6 < bound) :
    result read' start ts = result read start ts := by
  unfold result
  split
  · rfl
  · exact bind_congr_ok (expression_local agree le) fun _ _ => rfl

theorem newVariable_local {start : Token} (le : 16 * ts.length + 6 < bound) :
    newVariable read' start ts = newVariable read start ts := by
  refine bind_congr_ok rfl fun a made => ?_
  obtain ⟨name, mid⟩ := a
  obtain ⟨-, -, rfl⟩ := expect_ok_iff.1 made
  refine bind_congr_ok rfl fun b made => ?_
  obtain ⟨mark, mid⟩ := b
  obtain ⟨-, -, rfl⟩ := expect_ok_iff.1 made
  have tail := ((List.tail_suffix ts.tail).trans (List.tail_suffix ts)).length_le
  exact bind_congr_ok (expression_local agree (by omega)) fun _ _ => rfl

theorem assignment_local {name : Token} (le : 16 * ts.length + 6 < bound) :
    assignment read' name ts = assignment read name ts := by
  have tail := (List.tail_suffix ts).length_le
  exact bind_congr_ok (expression_local agree (by omega)) fun _ _ => rfl

include forward

theorem bareStatement_local (le : 16 * ts.length + 7 ≤ bound) :
    bareStatement read' ts = bareStatement read ts := by
  have after : ∀ {kind : TokenKind}, nextKind ts = kind → kind ≠ .endOfInput →
      ts.tail.length < ts.length :=
    fun begins ne => (ahead_tail begins ne).2
  obtain ⟨k, eq⟩ | ⟨k, eq⟩ | ⟨k, eq⟩ | ⟨k, eq⟩ | ⟨k, eq⟩ | ⟨k, eq⟩ | ⟨k, -, eq⟩ | ⟨-, eq⟩ :=
    bareStatement_forms ts <;> rw [eq, eq]
  · have shorter := after k (by decide)
    exact newVariable_local agree (by omega)
  · have shorter := after k (by decide)
    exact branch_local agree forward (by omega)
  · have shorter := after k (by decide)
    exact loop_local agree forward (by omega)
  · have shorter := after k (by decide)
    exact result_local agree (by omega)
  · have shorter := after k (by decide)
    exact assignment_local agree (by omega)
  · exact bind_congr_ok (expression_local agree (by omega)) fun _ _ => rfl

/-- A production depends only on what needs less than itself. -/
theorem produce_local (phrase : Phrase) (le : phrase.need ts ≤ bound) :
    produce read' phrase ts = produce read phrase ts := by
  unfold Phrase.need at le
  cases phrase with
  | program =>
    show program read' ts = program read ts
    unfold program
    split
    · rfl
    · refine bind_congr_ok (agree _ _ ?_) fun a made => ?_
      · exact Nat.lt_of_lt_of_le (Nat.lt_succ_self _) le
      · obtain ⟨s, mid⟩ := a
        have shorter := (forward .statement _ _ _ made).2 trivial
        refine bind_congr_ok (agree _ _ ?_) fun _ _ => rfl
        unfold Phrase.need
        omega
  | body =>
    show Grammar.body read' ts = Grammar.body read ts
    unfold Grammar.body
    split
    · rfl
    · refine bind_congr_ok (agree _ _ ?_) fun a made => ?_
      · exact Nat.lt_of_lt_of_le (Nat.lt_succ_self _) le
      · obtain ⟨s, mid⟩ := a
        have shorter := (forward .statement _ _ _ made).2 trivial
        refine bind_congr_ok (agree _ _ ?_) fun _ _ => rfl
        unfold Phrase.need
        omega
  | block =>
    show block read' ts = block read ts
    unfold block
    split
    next opening => exact braces_local agree opening (by omega)
    next =>
      refine bind_congr_ok (agree _ _ ?_) fun _ _ => rfl
      exact Nat.lt_of_lt_of_le (Nat.lt_succ_self _) le
  | statement => exact bind_congr_ok (bareStatement_local agree forward le) fun _ _ => rfl
  | operation level => exact operation_local agree forward le
  | chain level left => exact chain_local agree forward le
  | unary => exact unary_local agree le
  | arguments => exact arguments_local agree forward le

end

/-- With more fuel than a phrase needs, one round of fuel more changes nothing. -/
theorem read_succ (fuel : Nat) : AgreeBelow fuel (Grammar.read (fuel + 1)) (Grammar.read fuel) := by
  induction fuel with
  | zero => intro phrase ts small; omega
  | succ fuel ih =>
    intro phrase ts small
    exact produce_local ih (read_advances fuel) phrase (by omega)

/-- With more fuel than a phrase needs, the fuel does not matter. -/
theorem read_stable {phrase : Phrase} {fuel : Nat} (enough : phrase.need ts < fuel) (more : Nat) :
    Grammar.read (fuel + more) phrase ts = Grammar.read fuel phrase ts := by
  induction more with
  | zero => rfl
  | succ more ih =>
    rw [← ih, ← Nat.add_assoc]
    exact read_succ (fuel + more) phrase ts (by omega)

/-- The reader of every phrase, with enough fuel. -/
def readAll : Readers := fun phrase ts => Grammar.read (enough ts) phrase ts

theorem need_lt_enough (phrase : Phrase) (ts : List Token) : phrase.need ts < enough ts := by
  have low := phrase.weight_le
  unfold Phrase.need enough
  omega

/-- Any fuel above the need reads as enough fuel does. -/
theorem read_eq_readAll {phrase : Phrase} {fuel : Nat} (above : phrase.need ts < fuel) :
    Grammar.read fuel phrase ts = readAll phrase ts := by
  unfold readAll
  rcases Nat.le_total fuel (enough ts) with le | le
  · obtain ⟨more, eq⟩ := Nat.exists_eq_add_of_le le
    rw [eq, read_stable above]
  · obtain ⟨more, eq⟩ := Nat.exists_eq_add_of_le le
    rw [eq, read_stable (need_lt_enough phrase ts)]

/-- The reader with enough fuel is its own round of productions. -/
theorem readAll_eq_produce (phrase : Phrase) (ts : List Token) :
    readAll phrase ts = produce readAll phrase ts := by
  have same : AgreeBelow (phrase.need ts) readAll (Grammar.read (phrase.need ts)) := by
    intro inner rest small
    exact (read_eq_readAll small).symm
  rw [produce_local same (read_advances _) phrase (Nat.le_refl _),
    ← read_eq_readAll (Nat.lt_succ_self (phrase.need ts))]
  rfl

/-! ## The productions with enough fuel -/

theorem readAll_operation (level : Level) (ts : List Token) :
    readAll (.operation level) ts = operation readAll level ts :=
  readAll_eq_produce (.operation level) ts

theorem readAll_chain (level : Level) (left : Expr) (ts : List Token) :
    readAll (.chain level left) ts = chain readAll level left ts :=
  readAll_eq_produce (.chain level left) ts

theorem readAll_unary (ts : List Token) : readAll .unary ts = unary readAll ts :=
  readAll_eq_produce .unary ts

theorem readAll_arguments (ts : List Token) : readAll .arguments ts = arguments readAll ts :=
  readAll_eq_produce .arguments ts

theorem readAll_statement (ts : List Token) : readAll .statement ts = statement readAll ts :=
  readAll_eq_produce .statement ts

theorem readAll_block (ts : List Token) : readAll .block ts = block readAll ts :=
  readAll_eq_produce .block ts

theorem readAll_body (ts : List Token) : readAll .body ts = Grammar.body readAll ts :=
  readAll_eq_produce .body ts

theorem readAll_program (ts : List Token) : readAll .program ts = program readAll ts :=
  readAll_eq_produce .program ts

/-! ## Induction on the nesting of phrases -/

/-- Whatever the reader accepts, the reader with enough fuel reads alike. -/
def Follows (read : Readers) : Prop :=
  ∀ (phrase : Phrase) (ts : List Token) (r : phrase.Result × List Token),
    read phrase ts = .ok r → readAll phrase ts = .ok r

theorem readAll_advances : Advancing readAll :=
  fun phrase ts r rest made => read_advances _ phrase ts r rest made

/-- The reader with enough fuel for what needs less than `bound`; for all else there is a fault. -/
def readBelow (stuck : List Token → ParseFault) (bound : Nat) : Readers := fun phrase ts =>
  if phrase.need ts < bound then readAll phrase ts else .error (stuck ts)

theorem readBelow_follows (stuck : List Token → ParseFault) (bound : Nat) :
    Follows (readBelow stuck bound) := by
  intro phrase ts r made
  unfold readBelow at made
  split at made
  · exact made
  · cases made

/-- What each production makes of the phrases inside it holds of every phrase. Of the reader of the
phrases inside nothing is known but that it has the property and follows `readAll`: where it fails
it may do so with a fault of one's choice, provided that this has the property. -/
theorem readAll_induction
    {P : (phrase : Phrase) → List Token → Except ParseFault (phrase.Result × List Token) → Prop}
    (stuck : List Token → ParseFault) (bottom : ∀ phrase ts, P phrase ts (.error (stuck ts)))
    (round : ∀ read, Follows read → (∀ phrase ts, P phrase ts (read phrase ts)) →
      ∀ phrase ts, P phrase ts (produce read phrase ts))
    (phrase : Phrase) (ts : List Token) : P phrase ts (readAll phrase ts) := by
  induction need : phrase.need ts using Nat.strongRecOn generalizing phrase ts with
  | ind bound ih =>
    have same : AgreeBelow bound (readBelow stuck bound) readAll :=
      fun inner rest small => if_pos small
    have inside : ∀ phrase ts, P phrase ts (readBelow stuck bound phrase ts) := by
      intro inner rest
      unfold readBelow
      split
      next small => exact ih _ small inner rest rfl
      next => exact bottom inner rest
    rw [readAll_eq_produce, ← produce_local same readAll_advances phrase (Nat.le_of_eq need)]
    exact round _ (readBelow_follows stuck bound) inside phrase ts

end Grammar
end Scriptlet
