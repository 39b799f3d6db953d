import Scriptlet.Proofs.Grammar.Faults
import Scriptlet.Proofs.Grammar.Tracking

/-
  The reading with a cursor goes forward and stops.
  The cursor stands before the tokens that the reading of the list leaves, so it stays in the list,
  an accepted phrase moves it forward, and with enough fuel the reading ends with a result or with
  a fault of the tokens (`scan_forward`). An attempt that fails leaves the cursor where it was
  (`tryDeclaration_attempt`, `tryCall_attempt`). Main statement: `reading_forward`.
-/

namespace Scriptlet

namespace Cursor

open Grammar (next nextKind Closed bind_of_ok)

variable {α : Type} {all ts : List Token} {i : Nat}

/-! ## Where the cursor is left -/

/-- There is one token of the end, and it is the last one. -/
def EndsOnce (all : List Token) : Prop :=
  ∃ before last, all = before ++ [last] ∧ last.kind = .endOfInput ∧
    ∀ t ∈ before, t.kind ≠ .endOfInput

theorem EndsOnce.closed (ends : EndsOnce all) : Closed all := by
  obtain ⟨before, last, rfl, kind, -⟩ := ends
  intro t found
  rw [List.getLast?_concat] at found
  cases found
  exact kind

/-- The tokens of a source have one of the end, the last. -/
theorem endsOnce_of_tokenize {source : String} (h : Token.tokenize source = .ok ts) :
    EndsOnce ts := by
  have covers := Token.covers_of_list h
  have last := covers.getLast?
  have parted := List.dropLast_append_getLast? _ last
  exact ⟨ts.dropLast, _, parted.symm, rfl, covers.ordinary⟩

/-- A token with another one behind it is not that of the end. -/
theorem EndsOnce.more (ends : EndsOnce all) (here : Stands all i ts) (behind : i + 1 < all.length) :
    nextKind ts ≠ .endOfInput := by
  obtain ⟨before, last, rfl, -, ordinary⟩ := ends
  rw [List.length_append, List.length_singleton] at behind
  have inside : i < before.length := Nat.lt_of_succ_lt_succ behind
  have found := here.getElem?
  rw [List.getElem?_append_left inside] at found
  exact ordinary _ (List.mem_of_getElem? found)

/-- An attempt that begins at `i` takes a token or leaves the cursor there, and the cursor stays in
the list. -/
structure Attempt (all : List Token) (i : Nat) (o : Except Stop (Option α × Nat)) : Prop where
  forward : ∀ a j, o = .ok (some a, j) → i < j ∧ j < all.length
  restored : ∀ j, o = .ok (none, j) → j = i
  inRange : i + 1 < all.length → ∀ k, o ≠ .error (.outOfRange k)

theorem Attempt.back (all : List Token) (i : Nat) :
    Attempt all i (.ok (none, i) : Except Stop (Option α × Nat)) := by
  refine ⟨nofun, fun j same => ?_, nofun⟩
  cases same
  rfl

theorem Attempt.of_tracks {m : Except Stop (α × Nat)} {o : Except ParseFault (α × List Token)}
    (here : Stands all i ts) (first : Tracks all m o)
    (ahead : ∀ a rest, o = .ok (a, rest) → Ahead ts rest) :
    Attempt all i (m >>= fun (a, j) => .ok (some a, j)) := by
  cases first with
  | ok a there =>
    refine ⟨fun b j same => ?_, nofun, nofun⟩
    cases same
    exact ⟨here.lt_of_ahead there (ahead _ _ rfl), there.inside⟩
  | fault fault => exact ⟨nofun, nofun, nofun⟩

theorem tryDeclaration_of_end (read : Scanners) (here : Stands all i ts)
    (last : nextKind ts = .endOfInput) : tryDeclaration all read i = .ok (none, i) := by
  have stays : advance all i = .ok (next ts, i) := by
    refine (bind_of_ok here.peek_eq).trans ?_
    rw [if_pos (show (next ts).kind = .endOfInput from last)]
  have unlisted : parameterList all i = .ok (none, i) := by
    unfold parameterList
    rw [here.skip_eq (by decide), if_neg (by rw [last]; decide)]
    rfl
  unfold tryDeclaration
  rw [bind_of_ok stays]
  exact bind_of_ok unlisted

theorem tryDeclaration_attempt (ends : EndsOnce all) (inside : i < all.length) (fuel : Nat) :
    Attempt all i (tryDeclaration all (scan all fuel) i) := by
  have here : Stands all i (all.drop i) := ⟨inside, rfl⟩
  by_cases more : nextKind (all.drop i) = .endOfInput
  · rw [tryDeclaration_of_end _ here more]
    exact .back all i
  · obtain ⟨-, back⟩ | ⟨params, mid, j, listed, there, brace, eq⟩ :=
      tryDeclaration_cases ends.closed (scan all fuel) here more
    · rw [back]
      exact .back all i
    · rw [eq]
      have sim := scan_tracks ends.closed fuel
      refine .of_tracks here (declaration_tracks sim ends.closed there brace) fun e rest made => ?_
      obtain ⟨body, span, made, -⟩ := Grammar.declaration_ok_iff.1 made
      have first := (ahead_tail rfl more).trans (Grammar.params?_ahead listed)
      exact first.trans (Grammar.braces_ahead (Grammar.read_advances fuel) brace made)

theorem tryCall_attempt (ends : EndsOnce all) (inside : i < all.length) (fuel : Nat) :
    Attempt all i (tryCall all (scan all fuel) i) := by
  have here : Stands all i (all.drop i) := ⟨inside, rfl⟩
  by_cases behind : i + 1 < all.length
  · have more := ends.more here behind
    obtain ⟨-, back⟩ | ⟨paren, there, eq⟩ :=
      tryCall_cases ends.closed (scan all fuel) here more
    · rw [back]
      exact .back all i
    · rw [eq]
      have sim := scan_tracks ends.closed fuel
      refine .of_tracks here (call_tracks sim ends.closed there) fun e rest made => ?_
      have later := Grammar.call_suffix (Grammar.read_advances fuel) made
      exact (ahead_tail rfl more).trans_suffix (later.trans (List.tail_suffix _))
  · have beyond : peek all (i + 1) = .error (.outOfRange (i + 1)) := by
      unfold peek
      rw [List.getElem?_eq_none (Nat.le_of_not_lt behind)]
    unfold tryCall
    rw [Grammar.bind_of_error beyond]
    exact ⟨nofun, nofun, fun within => absurd within behind⟩

/-- A program is read up to the token of the end. -/
theorem nextKind_of_program {fuel : Nat} {statements : List Stmt} {rest : List Token}
    (made : Grammar.read fuel .program ts = .ok (statements, rest)) :
    nextKind rest = .endOfInput := by
  induction fuel generalizing ts statements with
  | zero => cases made
  | succ fuel ih =>
    rcases Grammar.program_ok_iff.1 made with ⟨ends, -, rfl⟩ | ⟨-, s, mid, more, -, later, -⟩
    · exact ends
    · exact ih later

/-- The reading of a phrase that begins at `i` is that of the tokens left there. It stops by itself
if there is enough fuel, asks for no token that is not there, and moves the cursor forward in the
list. -/
structure Forward (all : List Token) (fuel : Nat) (phrase : Phrase) (i : Nat) : Prop where
  same : Tracks all (scan all fuel phrase i) (Grammar.read fuel phrase (all.drop i))
  stops : phrase.need (all.drop i) < fuel → scan all fuel phrase i ≠ .error (.fault .exhausted)
  inRange : ∀ k, scan all fuel phrase i ≠ .error (.outOfRange k)
  inside : ∀ r j, scan all fuel phrase i = .ok (r, j) → i ≤ j ∧ j < all.length
  takes : phrase.Takes → ∀ r j, scan all fuel phrase i = .ok (r, j) → i < j

theorem scan_forward (ends : EndsOnce all) (inside : i < all.length) (fuel : Nat)
    (phrase : Phrase) : Forward all fuel phrase i := by
  have here : Stands all i (all.drop i) := ⟨inside, rfl⟩
  have tracks := scan_tracks ends.closed fuel phrase i _ here
  obtain ⟨r, j, rest, scanned, made, there⟩ | ⟨fault, scanned, made⟩ := tracks.forms
  · obtain ⟨suffix, takes⟩ := Grammar.read_advances fuel phrase _ r rest made
    have only : ∀ r' j', scan all fuel phrase i = .ok (r', j') → j' = j := by
      intro r' j' same
      rw [scanned] at same
      cases same
      rfl
    refine ⟨tracks, fun _ => by rw [scanned]; nofun, by rw [scanned]; nofun, ?_, ?_⟩
    · rintro r' j' same
      rw [only r' j' same]
      exact ⟨here.le_of_suffix there suffix, there.inside⟩
    · rintro taking r' j' same
      rw [only r' j' same]
      exact here.lt_of_ahead there ⟨suffix, takes taking⟩
  · refine ⟨tracks, fun enough => ?_, by rw [scanned]; nofun, by rw [scanned]; nofun,
      fun _ => by rw [scanned]; nofun⟩
    rw [Grammar.read_eq_readAll enough] at made
    rw [scanned]
    rintro ⟨⟩
    exact Grammar.readAll_warranted phrase _ _ made

/-- What the reading of a program by a cursor comes to, without the cursor. -/
def whole (o : Except Stop (List Stmt × Nat)) : Except Stop Program :=
  o.map fun r => ⟨r.1⟩

/-- With enough fuel the cursor reads the program of the tokens, up to their end. -/
theorem scan_program (ends : EndsOnce all) {fuel : Nat} (enough : Grammar.enough all ≤ fuel) :
    whole (scan all fuel .program 0) = lift (Program.ofTokens all) ∧
      ∀ statements j, scan all fuel .program 0 = .ok (statements, j) → j + 1 = all.length := by
  have here : Stands all 0 all := by
    obtain ⟨before, last, rfl, -⟩ := ends
    exact ⟨by simp, rfl⟩
  have above := Nat.lt_of_lt_of_le (Grammar.need_lt_enough .program all) enough
  have read : Grammar.read fuel .program all = Grammar.readAll .program all :=
    Grammar.read_eq_readAll above
  have parsed : Program.ofTokens all = (Grammar.readAll .program all).map fun r => ⟨r.1⟩ := rfl
  rw [parsed]
  obtain ⟨statements, j, rest, scanned, made, there⟩ | ⟨fault, scanned, made⟩ :=
    (scan_tracks ends.closed fuel .program 0 _ here).forms
  · rw [scanned, ← read, made]
    refine ⟨rfl, fun statements' j' same => ?_⟩
    cases same
    have last := nextKind_of_program made
    have := there.inside
    by_contra short
    exact ends.more there (by omega) last
  · rw [scanned, ← read, made]
    exact ⟨rfl, nofun⟩

/-- The reading of tokens goes forward and stops, for every list whose only token of the end is its
last one. It never descends for ever into phrases. With enough fuel, whatever it is, a cursor at the
first token reads the program of the tokens, or the fault of theirs, and is left at the end. From
every place in the list the reading of a phrase is that of the tokens left there. It asks for no
token that is not in the list, and with fuel above what it needs it does not fail for want of it. An
accepted phrase leaves the cursor in the list, and further on if it takes a token, as a statement,
an expression and a block do. Declarations and calls that are tried leave the cursor further on in
the list or exactly where it was. -/
theorem reading_forward (ends : EndsOnce all) :
    (WellFounded fun inside around : Phrase × List Token =>
      Grammar.Reads around.1 around.2 inside.1 inside.2) ∧
    (Program.ofTokens all ≠ .error .exhausted ∧ ∀ fuel, Grammar.enough all ≤ fuel →
      whole (scan all fuel .program 0) = lift (Program.ofTokens all) ∧
      ∀ statements j, scan all fuel .program 0 = .ok (statements, j) → j + 1 = all.length) ∧
    (∀ fuel phrase i, i < all.length → Forward all fuel phrase i) ∧
    ∀ fuel i, i < all.length →
      Attempt all i (tryDeclaration all (scan all fuel) i) ∧
      Attempt all i (tryCall all (scan all fuel) i) := by
  have unexhausted : Program.ofTokens all ≠ .error .exhausted := fun exhausted =>
    Grammar.readAll_warranted .program all _ (Rule.map_error_iff.1 exhausted)
  refine ⟨Grammar.wellFounded_reads, ⟨unexhausted, fun _ enough => scan_program ends enough⟩,
    fun fuel phrase i inside => scan_forward ends inside fuel phrase, fun fuel i inside => ?_⟩
  exact ⟨tryDeclaration_attempt ends inside fuel, tryCall_attempt ends inside fuel⟩

/-- A call is read as a statement; tried as a declaration it takes its parentheses for a parameter
list, and the cursor is set back. -/
theorem reading_forward_call : ∃ all, Token.tokenize "f(a)" = .ok all ∧ EndsOnce all ∧
    whole (scan all 96 .program 0) = lift (Program.ofTokens all) ∧
    (∃ s j, scan all 96 .statement 0 = .ok (s, j) ∧ 0 < j ∧ j < all.length) ∧
    (∃ j, tryDeclaration all (scan all 96) 0 = .ok (none, j) ∧ j = 0) ∧
    ∃ e j, tryCall all (scan all 96) 0 = .ok (some e, j) ∧ 0 < j ∧ j < all.length := by
  let all : List Token := [⟨.identifier, "f", ⟨0, 1⟩⟩, ⟨.leftParen, "(", ⟨1, 2⟩⟩,
    ⟨.identifier, "a", ⟨2, 3⟩⟩, ⟨.rightParen, ")", ⟨3, 4⟩⟩, .atEnd 4]
  have tokens : Token.tokenize "f(a)" = .ok all := Token.ok_of_toOption (by decide +kernel)
  have ends := endsOnce_of_tokenize tokens
  have here : Stands all 0 all := ⟨by decide, rfl⟩
  have sim := scan_tracks ends.closed 96
  have statement : ∃ s j, scan all 96 .statement 0 = .ok (s, j) := by
    obtain ⟨s, j, rest, scanned, -⟩ | ⟨fault, -, refused⟩ := (sim .statement 0 all here).forms
    · exact ⟨s, j, scanned⟩
    · cases refused
  have back : tryDeclaration all (scan all 96) 0 = .ok (none, 0) := by
    obtain ⟨-, back⟩ | ⟨params, mid, j, listed, -⟩ :=
      tryDeclaration_cases ends.closed (scan all 96) here (by decide)
    · exact back
    · cases listed
  have call : ∃ e j, tryCall all (scan all 96) 0 = .ok (some e, j) := by
    obtain ⟨other, -⟩ | ⟨-, there, eq⟩ :=
      tryCall_cases ends.closed (scan all 96) here (by decide)
    · exact absurd rfl other
    · rw [eq]
      obtain ⟨e, j, rest, scanned, -⟩ | ⟨fault, -, refused⟩ :=
        (call_tracks sim ends.closed there).forms
      · exact ⟨e, j, by rw [scanned]; rfl⟩
      · cases refused
  obtain ⟨-, ⟨-, programs⟩, phrases, attempts⟩ := reading_forward ends
  have forward := phrases 96 .statement 0 (by decide)
  obtain ⟨declared, called⟩ := attempts 96 0 (by decide)
  obtain ⟨s, j, scanned⟩ := statement
  obtain ⟨e, k, taken⟩ := call
  exact ⟨all, tokens, ends, (programs 96 (by decide)).1,
    ⟨s, j, scanned, forward.takes trivial s j scanned, (forward.inside s j scanned).2⟩,
    ⟨0, back, declared.restored 0 back⟩, e, k, taken, called.forward e k taken⟩

end Cursor

end Scriptlet
