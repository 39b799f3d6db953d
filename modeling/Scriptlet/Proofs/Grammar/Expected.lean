import Mathlib.Data.List.Nodup
import Scriptlet.Proofs.Grammar.Located
import Scriptlet.Proofs.Grammar.Parting
import Scriptlet.Proofs.Grammar.Spans
import Scriptlet.Proofs.Lexing.Accepted

/-
  What a syntax error depends on, and what it promises.
  A list of tokens is refused at a place if, whatever the spans of the tokens are, the fault is
  about the token there (`FailsAt`); so a token is not taken for another one that looks alike. The
  syntax error of a list that ends with the end of the input is at one place (`exists_failsAt`,
  `FailsAt.unique`). No token behind the place is looked at (`ofTokens_eq_of_take`), and every kind
  of token that is named as expected gets the reading beyond it (`expected_accepted`).
-/

namespace Scriptlet

/-! ## Labels of kinds -/

namespace TokenKind

/-- All kinds of tokens. -/
def all : List TokenKind :=
  keywords ++ twoCharOperators ++ oneCharOperators ++ [.number, .string, .identifier, .endOfInput]

theorem mem_all (kind : TokenKind) : kind ∈ all := by
  cases kind <;> decide

/-- A kind is known by its label. -/
theorem label_injective : Function.Injective label := by
  have distinct : (all.map label).Nodup := by decide +kernel
  intro kind other same
  exact List.inj_on_of_nodup_map distinct (mem_all kind) (mem_all other) same

end TokenKind

/-- What the lexer makes of any text for one of the kinds that are wanted is accepted. -/
theorem Wanted.accepts_of_lexed {wanted : Wanted} {t : Token}
    (expects : t.kind.label ∈ wanted.kinds.map TokenKind.label)
    (lexed : ∃ source ts, Token.tokenize source = .ok ts ∧ ∃ u ∈ ts, u.unspanned = t.unspanned) :
    wanted.Accepts t := by
  obtain ⟨kind, mem, same⟩ := List.mem_map.1 expects
  obtain ⟨source, ts, tokens, u, inside, alike⟩ := lexed
  refine ⟨TokenKind.label_injective same ▸ mem, fun number => ?_⟩
  have kind : u.kind = .number := (Token.kind_eq_of_unspanned alike).trans number
  have numeral := (Token.wellLexed_of_tokenize tokens u inside).numeral kind
  rw [Token.lexeme_eq_of_unspanned alike] at numeral
  obtain ⟨digits, exponent, read⟩ := Binary.readChars?_numeral (f := .single) numeral
  unfold Binary.read?
  rw [read]
  rfl

namespace Token

/-! ## Numbered tokens -/

/-- The tokens with their places, counted from one, for their spans. -/
def numbered (ts : List Token) : List Token :=
  ts.mapIdx fun i t => { t with span := ⟨i + 1, i + 1⟩ }

variable {ts : List Token} {t : Token} {i n : Nat}

theorem numbered_unspanned (ts : List Token) :
    (numbered ts).map unspanned = ts.map unspanned := by
  refine List.ext_getElem? fun i => ?_
  unfold numbered
  rw [List.getElem?_map, List.getElem?_mapIdx, Option.map_map, List.getElem?_map]
  rfl

theorem exists_numbered (h : ts[i]? = some t) :
    ∃ u, (numbered ts)[i]? = some u ∧ u.unspanned = t.unspanned := by
  refine ⟨{ t with span := ⟨i + 1, i + 1⟩ }, ?_, rfl⟩
  unfold numbered
  rw [List.getElem?_mapIdx, h]
  rfl

theorem start_of_numbered (h : (numbered ts)[i]? = some t) : t.span.start = i + 1 := by
  unfold numbered at h
  rw [List.getElem?_mapIdx] at h
  obtain ⟨u, -, rfl⟩ := Option.map_eq_some_iff.1 h
  rfl

/-- No place of a numbered list looks like another. -/
theorem place_of_mem_drop (h : t ∈ (numbered ts).drop n) : n < t.span.start := by
  obtain ⟨k, found⟩ := List.mem_iff_getElem?.1 h
  rw [List.getElem?_drop] at found
  rw [start_of_numbered found]
  omega

end Token

namespace Grammar

variable {ts us : List Token} {t : Token} {i n : Nat} {wanted : Wanted}

/-- A fault behind a place of a numbered list is not about a token before it. -/
theorem lt_of_within_drop
    (h : Within ((Token.numbered ts).drop n) (.error (.unexpected wanted t) :
      Except ParseFault (List Stmt × List Token)))
    (found : (Token.numbered ts)[i]? = some t) : n ≤ i := by
  have start := Token.start_of_numbered found
  obtain ⟨rest, inside, rfl⟩ := h
  cases rest with
  | nil => cases start
  | cons u rest =>
    have later := Token.place_of_mem_drop (inside.subset List.mem_cons_self)
    have start : u.span.start = i + 1 := start
    omega

/-! ## Two lists with the same beginning -/

namespace Fork

/-- Two lists of tokens that are the same up to place `n`, but for spans. -/
def ofTake (n : Nat) (ts us : List Token)
    (agree : (ts.take n).map Token.unspanned = (us.take n).map Token.unspanned) : Fork where
  stem := (ts.take n).zip (us.take n)
  alike := by
    rintro ⟨t, u⟩ mem
    obtain ⟨k, found⟩ := List.mem_iff_getElem?.1 mem
    obtain ⟨ht, hu⟩ := List.getElem?_zip_eq_some.1 found
    have same := congrArg (·[k]?) agree
    simp only [List.getElem?_map, ht, hu, Option.map_some, Option.some.injEq] at same
    exact same
  left := ts.drop n
  right := us.drop n

theorem twin_append {F : Fork} : ∀ pre pre' : List Token,
    pre.map Token.unspanned = pre'.map Token.unspanned → (∀ p ∈ pre.zip pre', p ∈ F.stem) →
    F.Twin (pre ++ F.left) (pre' ++ F.right)
  | [], [], _, _ => .here
  | t :: pre, u :: pre', alike, inside => by
    have later := (List.cons.inj alike).2
    refine .cons (inside (t, u) List.mem_cons_self) (twin_append pre pre' later fun p mem => ?_)
    exact inside p (List.mem_cons_of_mem _ mem)

theorem ofTake_twin
    (agree : (ts.take n).map Token.unspanned = (us.take n).map Token.unspanned) :
    (ofTake n ts us agree).Twin ts us := by
  have twin := twin_append (F := ofTake n ts us agree) _ _ agree fun _ mem => mem
  rwa [show (ofTake n ts us agree).left = ts.drop n from rfl,
    show (ofTake n ts us agree).right = us.drop n from rfl, List.take_append_drop,
    List.take_append_drop] at twin

/-- The pairs of the stem are of tokens at the same place. -/
theorem exists_place_of_mem
    (agree : (ts.take n).map Token.unspanned = (us.take n).map Token.unspanned) {t u : Token}
    (mem : (t, u) ∈ (ofTake n ts us agree).stem) :
    ∃ k < n, ts[k]? = some t ∧ us[k]? = some u := by
  obtain ⟨k, found⟩ := List.mem_iff_getElem?.1 mem
  obtain ⟨ht, hu⟩ := List.getElem?_zip_eq_some.1 found
  rw [List.getElem?_take] at ht hu
  split at ht
  next lt => exact ⟨k, lt, ht, by rwa [if_pos lt] at hu⟩
  next => cases ht

end Fork

/-- A numbered list that is refused at a place in the common beginning: the other list is refused at
the same place. -/
theorem readAll_error_of_take
    (agree : ((Token.numbered ts).take n).map Token.unspanned = (us.take n).map Token.unspanned)
    (lt : i < n) (found : (Token.numbered ts)[i]? = some t)
    (failed : readAll .program (Token.numbered ts) = .error (.unexpected wanted t)) :
    ∃ u, us[i]? = some u ∧ readAll .program us = .error (.unexpected wanted u) := by
  have start := Token.start_of_numbered found
  have outside : ¬ Within ((Token.numbered ts).drop n)
      (.error (.unexpected wanted t) : Except ParseFault (List Stmt × List Token)) :=
    fun within => absurd (lt_of_within_drop within found) (Nat.not_le_of_lt lt)
  rcases (readAll_echo (Fork.ofTake_twin agree)).forms_of_error failed with
    ⟨u, mem, failed'⟩ | ⟨rfl, -⟩ | goes | ⟨goes, -⟩
  · obtain ⟨k, -, ht, hu⟩ := Fork.exists_place_of_mem agree mem
    have same : k + 1 = i + 1 := (Token.start_of_numbered ht).symm.trans start
    cases same
    exact ⟨u, hu, failed'⟩
  · exact absurd (within_error wanted _) outside
  · exact absurd (failed ▸ goes.of_tail) outside
  · exact absurd (failed ▸ goes) outside

/-- A numbered list that is refused where the common beginning ends, and another one with a token
there that was wanted: this one is not refused at this place or before it. -/
theorem lt_of_accepts {wanted' : Wanted} {j : Nat} {t' u : Token}
    (agree : ((Token.numbered ts).take i).map Token.unspanned =
      ((Token.numbered us).take i).map Token.unspanned)
    (found : (Token.numbered ts)[i]? = some t)
    (failed : readAll .program (Token.numbered ts) = .error (.unexpected wanted t))
    (other : (Token.numbered us)[i]? = some t') (accepts : wanted.Accepts t')
    (found' : (Token.numbered us)[j]? = some u)
    (failed' : readAll .program (Token.numbered us) = .error (.unexpected wanted' u)) : i < j := by
  have tail : ∀ us : List Token, (us.drop i).tail = us.drop (i + 1) := fun us => List.tail_drop
  rcases (readAll_echo (Fork.ofTake_twin agree)).forms_of_error failed with
    ⟨_, mem, -⟩ | ⟨-, unfit⟩ | goes | ⟨-, goes'⟩
  · obtain ⟨k, lt, hk, -⟩ := Fork.exists_place_of_mem agree mem
    have same := (Token.start_of_numbered hk).symm.trans (Token.start_of_numbered found)
    omega
  · have begins : next ((Token.numbered us).drop i) = t' := by
      unfold next
      rw [List.headD_eq_head?_getD, List.head?_drop, other]
      rfl
    exact absurd (begins ▸ accepts) unfit
  · have goes : Within ((Token.numbered ts).drop (i + 1)) _ := tail _ ▸ failed ▸ goes
    exact absurd (lt_of_within_drop goes found) (Nat.not_succ_le_self i)
  · have goes' : Within ((Token.numbered us).drop (i + 1)) _ := tail _ ▸ failed' ▸ goes'
    exact lt_of_within_drop goes' found'

end Grammar

namespace Program

open Grammar

variable {ts us : List Token} {t eof : Token} {i : Nat} {wanted : Wanted} {fault : ParseFault}

/-- The tokens are refused at place `i`: whatever their spans are, the fault is about the token
there. -/
def FailsAt (ts : List Token) (i : Nat) (wanted : Wanted) : Prop :=
  ∀ us : List Token, us.map Token.unspanned = ts.map Token.unspanned →
    ∃ found, us[i]? = some found ∧ ofTokens us = .error (.unexpected wanted found)

theorem ofTokens_error_iff :
    ofTokens ts = .error fault ↔ readAll .program ts = .error fault :=
  Rule.map_error_iff

theorem FailsAt.numbered (h : FailsAt ts i wanted) :
    ∃ found, (Token.numbered ts)[i]? = some found ∧
      readAll .program (Token.numbered ts) = .error (.unexpected wanted found) := by
  obtain ⟨found, place, failed⟩ := h _ (Token.numbered_unspanned ts)
  exact ⟨found, place, ofTokens_error_iff.1 failed⟩

/-- A list is refused at one place only. -/
theorem FailsAt.unique {j : Nat} {wanted' : Wanted} (h : FailsAt ts i wanted)
    (h' : FailsAt ts j wanted') : i = j ∧ wanted = wanted' := by
  obtain ⟨found, place, failed⟩ := h.numbered
  obtain ⟨found', place', failed'⟩ := h'.numbered
  cases failed.symm.trans failed'
  have same := (Token.start_of_numbered place).symm.trans (Token.start_of_numbered place')
  exact ⟨Nat.succ.inj same, rfl⟩

/-- A list with the tokens of a numbered one up to the place where this is refused is refused there
too. -/
theorem failsAt_of_take (place : (Token.numbered ts)[i]? = some t)
    (failed : ofTokens (Token.numbered ts) = .error (.unexpected wanted t))
    (agree : (us.take (i + 1)).map Token.unspanned = (ts.take (i + 1)).map Token.unspanned) :
    FailsAt us i wanted := by
  intro us' alike
  have agree' : ((Token.numbered ts).take (i + 1)).map Token.unspanned =
      (us'.take (i + 1)).map Token.unspanned := by
    rw [List.map_take, List.map_take, Token.numbered_unspanned, alike, ← List.map_take,
      ← List.map_take, agree]
  obtain ⟨u, found, failed'⟩ :=
    readAll_error_of_take agree' (Nat.lt_succ_self i) place (ofTokens_error_iff.1 failed)
  exact ⟨u, found, ofTokens_error_iff.2 failed'⟩

theorem closed_of_unspanned (alike : us.map Token.unspanned = ts.map Token.unspanned)
    (closed : Closed ts) : Closed us := by
  intro t last
  have mem : t.unspanned ∈ (us.map Token.unspanned).getLast? := by
    rw [List.getLast?_map]
    exact Option.mem_map_of_mem _ last
  rw [alike, List.getLast?_map] at mem
  obtain ⟨u, last', same⟩ := Option.map_eq_some_iff.1 mem
  exact (Token.kind_eq_of_unspanned same).symm.trans (closed u last')

/-- A syntax error in a list that ends with the end of the input is at one of its tokens. -/
theorem exists_failsAt (closed : Closed ts) (refused : ofTokens ts = .error fault)
    (syntactic : fault.kind = .parser) : ∃ i wanted, FailsAt ts i wanted := by
  have refused := ofTokens_error_iff.1 refused
  have alike := Token.numbered_unspanned ts
  have nonempty : Token.numbered ts ≠ [] := by
    intro none
    rw [none] at alike
    cases ts with
    | nil => cases (readAll_program []).symm.trans refused
    | cons => cases alike
  have same : erased (Phrase.erase .program) (readAll .program (Token.numbered ts)) =
      erased (Phrase.erase .program) (readAll .program ts) := by
    rw [← readAll_unspanned, ← readAll_unspanned, alike]
  have accounted := readAll_accounted (closed_of_unspanned alike closed) .program _ .start
    ⟨List.suffix_refl _, nonempty⟩
  rw [refused] at same
  cases failed : readAll .program (Token.numbered ts) with
  | ok r =>
    rw [failed] at same
    cases same
  | error fault' =>
    rw [failed] at same accounted
    cases fault' with
    | unexpected wanted found =>
      obtain ⟨i, place⟩ := List.mem_iff_getElem?.1 accounted
      exact ⟨i, wanted, failsAt_of_take place (ofTokens_error_iff.2 failed) rfl⟩
    | typeMismatch op left right span =>
      cases fault with
      | typeMismatch => cases syntactic
      | _ => cases same
    | exhausted => exact accounted.elim

/-- The tokens behind the one that a syntax error is about decide nothing about it: there is such a
token, and whatever follows it, the same fault is at the same place. -/
theorem ofTokens_eq_of_take (closed : Closed ts) (refused : ofTokens ts = .error fault)
    (syntactic : fault.kind = .parser) :
    (∃ i wanted, FailsAt ts i wanted) ∧
      ∀ i wanted (us : List Token), FailsAt ts i wanted → us.take (i + 1) = ts.take (i + 1) →
        FailsAt us i wanted ∧ ofTokens us = .error fault := by
  refine ⟨exists_failsAt closed refused syntactic, fun i wanted us fails agree => ?_⟩
  obtain ⟨found, place, failed⟩ := fails.numbered
  have fails' : FailsAt us i wanted :=
    failsAt_of_take place (ofTokens_error_iff.2 failed) (congrArg (·.map Token.unspanned) agree)
  refine ⟨fails', ?_⟩
  obtain ⟨t, ht, failed⟩ := fails ts rfl
  obtain ⟨u, hu, failed'⟩ := fails' us rfl
  have same : us[i]? = ts[i]? := by
    have := congrArg (·[i]?) agree
    simpa only [List.getElem?_take, Nat.lt_succ_self, if_true] using this
  rw [ht, hu] at same
  cases same
  exact failed'.trans (failed.symm.trans refused)

/-- The tokens of `f(a,)`, without that of the end. -/
def openArguments : List Token :=
  [⟨.identifier, "f", ⟨0, 1⟩⟩, ⟨.leftParen, "(", ⟨1, 2⟩⟩, ⟨.identifier, "a", ⟨2, 3⟩⟩,
   ⟨.comma, ",", ⟨3, 4⟩⟩, ⟨.rightParen, ")", ⟨4, 5⟩⟩]

theorem openArguments_fails : FailsAt (openArguments ++ [.atEnd 5]) 4 .operand :=
  failsAt_of_take rfl (eq_error_of_fault (by decide +kernel)) rfl

theorem openArguments_refused : ofTokens (openArguments ++ [.atEnd 5]) =
    .error (.unexpected .operand ⟨.rightParen, ")", ⟨4, 5⟩⟩) :=
  eq_error_of_fault (by decide +kernel)

/-- No braces behind `f(a,)` make a declaration of it. -/
theorem ofTokens_eq_of_take_braces :
    FailsAt (openArguments ++
      [⟨.leftBrace, "\x7b", ⟨6, 7⟩⟩, ⟨.rightBrace, "\x7d", ⟨7, 8⟩⟩, .atEnd 8]) 4 .operand ∧
    ofTokens (openArguments ++
      [⟨.leftBrace, "\x7b", ⟨6, 7⟩⟩, ⟨.rightBrace, "\x7d", ⟨7, 8⟩⟩, .atEnd 8]) =
      .error (.unexpected .operand ⟨.rightParen, ")", ⟨4, 5⟩⟩) := by
  have closed : Closed (openArguments ++ [.atEnd 5]) := by
    intro t last
    cases last
    rfl
  exact (ofTokens_eq_of_take closed openArguments_refused rfl).2 4 .operand _
    openArguments_fails rfl

/-- With any token of a kind that a syntax error names as expected in the place of the one that it
is about, and then the end of the input, there is no syntax error at this place or before it. -/
theorem expected_accepted (fails : FailsAt ts i wanted) (refused : ofTokens ts = .error fault)
    (expects : t.kind.label ∈ fault.expected)
    (lexed : ∃ source tokens, Token.tokenize source = .ok tokens ∧
      ∃ u ∈ tokens, u.unspanned = t.unspanned)
    (ends : eof.kind = .endOfInput) :
    (∀ j wanted', FailsAt (ts.take i ++ [t, eof]) j wanted' → i < j) ∧
      ∀ fault', ofTokens (ts.take i ++ [t, eof]) = .error fault' → fault'.kind = .parser →
        ∃ j wanted', i < j ∧ FailsAt (ts.take i ++ [t, eof]) j wanted' := by
  have later : ∀ j wanted', FailsAt (ts.take i ++ [t, eof]) j wanted' → i < j := by
    intro j wanted' fails'
    obtain ⟨found, place, failed⟩ := fails.numbered
    obtain ⟨found', place', failed'⟩ := fails'.numbered
    obtain ⟨u, hu, failed₀⟩ := fails ts rfl
    have lt : i < ts.length := (List.getElem?_eq_some_iff.1 hu).1
    have short : (ts.take i).length = i := List.length_take_of_le (Nat.le_of_lt lt)
    have agree : ((Token.numbered ts).take i).map Token.unspanned =
        ((Token.numbered (ts.take i ++ [t, eof])).take i).map Token.unspanned := by
      rw [List.map_take, List.map_take, Token.numbered_unspanned, Token.numbered_unspanned,
        ← List.map_take, ← List.map_take, List.take_left' short]
    have other : (ts.take i ++ [t, eof])[i]? = some t := by
      rw [List.getElem?_append_right (Nat.le_of_eq short), short, Nat.sub_self]
      rfl
    obtain ⟨t', other', same⟩ := Token.exists_numbered other
    have accepts : wanted.Accepts t' := by
      cases refused.symm.trans failed₀
      obtain ⟨source, tokens, tokenized, v, mem, alike⟩ := lexed
      rw [← Token.kind_eq_of_unspanned same] at expects
      exact Wanted.accepts_of_lexed expects
        ⟨source, tokens, tokenized, v, mem, alike.trans same.symm⟩
    exact lt_of_accepts agree place failed other' accepts place' failed'
  refine ⟨later, fun fault' refused' syntactic => ?_⟩
  have closed : Closed (ts.take i ++ [t, eof]) := by
    intro u last
    have last : (ts.take i ++ [t, eof]).getLast? = some u := last
    rw [List.getLast?_append] at last
    cases last
    exact ends
  obtain ⟨j, wanted', fails'⟩ := exists_failsAt closed refused' syntactic
  exact ⟨j, wanted', later j wanted' fails', fails'⟩

/-- With a number for the closing parenthesis of `f(a,)` something is still missing, behind it. -/
theorem expected_accepted_number : ∃ j wanted, 4 < j ∧
    FailsAt (openArguments.take 4 ++ [⟨.number, "1", ⟨4, 5⟩⟩, .atEnd 5]) j wanted := by
  have lexed : Token.tokenize "1" = .ok [⟨.number, "1", ⟨0, 1⟩⟩, .atEnd 1] :=
    Token.ok_of_toOption (by decide +kernel)
  have refused' : ofTokens (openArguments.take 4 ++ [⟨.number, "1", ⟨4, 5⟩⟩, .atEnd 5]) =
      .error (.unexpected .argumentsEnd (.atEnd 5)) :=
    eq_error_of_fault (by decide +kernel)
  exact (expected_accepted openArguments_fails openArguments_refused (by decide)
    ⟨"1", _, lexed, _, List.mem_cons_self, rfl⟩ rfl).2 _ refused' rfl

end Program

end Scriptlet
