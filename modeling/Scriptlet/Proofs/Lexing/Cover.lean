import Mathlib.Data.List.Chain
import Mathlib.Data.List.TakeWhile
import Scriptlet.Proofs.Lexing.Accepted

/-
  The tokens of a source cover it.
  Whatever rules are used, each round of the lexer leaves a shorter text, so there is an end; the
  tokens are pieces of the source in their order, what stands before, between and after them is
  blank, and one token of the end closes them. Main statement: `tokenizeWith_tiles`.
-/

namespace Scriptlet

/-! ## Pieces of a text -/

/-- The span goes from one character boundary of the text to another, and `piece` is between. -/
def Span.Cuts (span : Span) (text piece : List Char) : Prop :=
  ∃ before after, text = before ++ (piece ++ after) ∧
    Text.byteLength before = span.start ∧ Text.byteLength (before ++ piece) = span.stop

/-- There is nothing but blanks between the two bounds of the span. -/
def Span.IsGap (span : Span) (text : List Char) : Prop :=
  ∃ gap, span.Cuts text gap ∧ ∀ c ∈ gap, Text.isBlank c = true

theorem Text.byteLength_pos {cs : List Char} (h : cs ≠ []) : 0 < byteLength cs := by
  obtain ⟨c, cs, rfl⟩ := List.exists_cons_of_ne_nil h
  exact Nat.lt_of_lt_of_le c.utf8Size_pos (Nat.le_add_right _ _)

/-- A span cuts one piece out of a text only. -/
theorem Span.Cuts.unique {span : Span} {text piece piece' : List Char}
    (h : span.Cuts text piece) (h' : span.Cuts text piece') : piece = piece' := by
  -- two prefixes of one text with as many bytes are the same
  have same : ∀ xs ys xs' ys' : List Char, xs ++ ys = xs' ++ ys' →
      Text.byteLength xs = Text.byteLength xs' → xs = xs' := by
    intro xs ys xs' ys' eq size
    rcases List.append_eq_append_iff.1 eq with ⟨more, rfl, -⟩ | ⟨more, rfl, -⟩
    · by_cases none : more = []
      · rw [none, List.append_nil]
      · have := Text.byteLength_pos none
        rw [Text.byteLength_append] at size
        omega
    · by_cases none : more = []
      · rw [none, List.append_nil]
      · have := Text.byteLength_pos none
        rw [Text.byteLength_append] at size
        omega
  obtain ⟨before, after, rfl, start, stop⟩ := h
  obtain ⟨before', after', eq, start', stop'⟩ := h'
  obtain rfl := same _ _ _ _ eq (start.trans start'.symm)
  have whole := same (before ++ piece) after (before ++ piece') after' (by simpa using eq)
    (stop.trans stop'.symm)
  exact List.append_cancel_left whole

namespace Token

variable {rules : List Rule} {offset : Nat} {cs : List Char} {ts : List Token}

/-! ## Rounds -/

/-- One round of the lexer: blanks are skipped, the rules take a token, and `after` is left. -/
def Round (rules : List Rule) (after before : List Char) : Prop :=
  ∃ offset c cs split, before.dropWhile Text.isBlank = c :: cs ∧
    first? rules offset c cs = .ok (some split) ∧ split.rest = after

theorem length_lt_of_round {after before : List Char} (h : Round rules after before) :
    after.length < before.length := by
  obtain ⟨offset, c, cs, split, visible, taken, rfl⟩ := h
  have shorter := rest_length_lt_of_first? taken
  rw [← visible] at shorter
  exact Nat.lt_of_lt_of_le shorter (length_dropWhile_le _ _)

/-- No text allows rounds for ever. -/
theorem wellFounded_round (rules : List Rule) : WellFounded (Round rules) :=
  Subrelation.wf length_lt_of_round (measure List.length).wf

/-! ## The tokens in their places -/

/-- The text from `offset` on is blanks, then a lexeme that is not empty, and so on to the blanks
before its end; the tokens say where each lexeme stands. -/
inductive Covers : Nat → List Char → List Token → Prop where
  | ending {offset : Nat} {gap : List Char} (blank : ∀ c ∈ gap, Text.isBlank c = true) :
      Covers offset gap [atEnd (offset + Text.byteLength gap)]
  | token {offset : Nat} {gap lexeme rest : List Char} {kind : TokenKind} {ts : List Token}
      (blank : ∀ c ∈ gap, Text.isBlank c = true) (nonempty : lexeme ≠ [])
      (ordinary : kind ≠ .endOfInput)
      (later : Covers (offset + Text.byteLength gap + Text.byteLength lexeme) rest ts) :
      Covers offset (gap ++ (lexeme ++ rest))
        (⟨kind, String.ofList lexeme, ⟨offset + Text.byteLength gap,
          offset + Text.byteLength gap + Text.byteLength lexeme⟩⟩ :: ts)

theorem ne_endOfInput_of_mem_kinds {rule : Rule} {kind : TokenKind} (h : kind ∈ rule.kinds) :
    kind ≠ .endOfInput := by
  rintro rfl
  revert h
  cases rule <;> decide

theorem isBlank_of_mem_takeWhile (cs : List Char) :
    ∀ c ∈ cs.takeWhile Text.isBlank, Text.isBlank c = true :=
  fun c mem => List.all_eq_true.1 List.all_takeWhile c mem

theorem covers_of_list (h : list rules offset cs = .ok ts) : Covers offset cs ts := by
  fun_induction list rules offset cs generalizing ts with
  | case1 offset cs none =>
    cases h
    exact .ending (List.dropWhile_eq_nil_iff.1 none)
  | case2 => cases h
  | case3 => cases h
  | case4 offset cs c rest visible start split taken stop =>
    rename_i ih
    obtain ⟨later, made, rfl⟩ := Rule.map_ok_iff.1 h
    obtain ⟨rule, -, starts, accepted⟩ := exists_rule_of_first? taken
    have text : cs = cs.takeWhile Text.isBlank ++ (split.lexeme ++ split.rest) := by
      rw [Rule.recognize_append accepted, ← visible, List.takeWhile_append_dropWhile]
    rw [text]
    exact .token (isBlank_of_mem_takeWhile cs) (Rule.lexeme_ne_nil starts accepted)
      (ne_endOfInput_of_mem_kinds (Rule.kind_mem_kinds accepted)) (ih made)

namespace Covers

theorem ne_nil (h : Covers offset cs ts) : ts ≠ [] := by
  cases h <;> exact List.cons_ne_nil _ _

/-- The last token is that of the end. -/
theorem getLast? (h : Covers offset cs ts) :
    ts.getLast? = some (atEnd (offset + Text.byteLength cs)) := by
  induction h with
  | ending => rfl
  | token blank nonempty ordinary later ih =>
    rw [List.getLast?_cons, ih]
    simp [Nat.add_assoc]

/-- Only the last token is that of the end. -/
theorem ordinary (h : Covers offset cs ts) : ∀ t ∈ ts.dropLast, t.kind ≠ .endOfInput := by
  induction h with
  | ending => intro t mem; cases mem
  | token blank nonempty different later ih =>
    rw [List.dropLast_cons_of_ne_nil later.ne_nil]
    intro t mem
    rcases List.mem_cons.1 mem with rfl | mem
    · exact different
    · exact ih t mem

/-- The other tokens are pieces of the text that are not empty. -/
theorem cuts {text : List Char} (h : Covers offset cs ts) (before : List Char)
    (whole : text = before ++ cs) (size : Text.byteLength before = offset) :
    ∀ t ∈ ts.dropLast, t.lexeme ≠ "" ∧ t.span.Cuts text t.lexeme.toList := by
  induction h generalizing before with
  | ending => intro t mem; cases mem
  | @token offset gap lexeme rest kind ts blank nonempty different later ih =>
    rw [List.dropLast_cons_of_ne_nil later.ne_nil]
    intro t mem
    rcases List.mem_cons.1 mem with rfl | mem
    · have chars : (String.ofList lexeme).toList = lexeme := String.toList_ofList
      refine ⟨fun empty => nonempty (chars.symm.trans (congrArg String.toList empty)), ?_⟩
      rw [chars]
      refine ⟨before ++ gap, rest, by simpa using whole, ?_, ?_⟩
      · rw [Text.byteLength_append, size]
      · rw [Text.byteLength_append, Text.byteLength_append, size]
    · refine ih (before ++ gap ++ lexeme) (by simpa using whole) ?_ t mem
      rw [Text.byteLength_append, Text.byteLength_append, size]

/-- Each token begins at the offset or after it, and the tokens come one after another. -/
theorem pairwise (h : Covers offset cs ts) :
    (∀ t ∈ ts, offset ≤ t.span.start) ∧
      ts.Pairwise fun a b => a.span.start < a.span.stop ∧ a.span.stop ≤ b.span.start := by
  induction h with
  | ending => exact ⟨by simp [atEnd], List.pairwise_singleton _ _⟩
  | @token offset gap lexeme rest kind ts blank nonempty ordinary later ih =>
    have wide := Text.byteLength_pos nonempty
    refine ⟨?_, List.pairwise_cons.2 ⟨fun t mem => ⟨?_, ih.1 t mem⟩, ih.2⟩⟩
    · intro t mem
      rcases List.mem_cons.1 mem with rfl | mem
      · exact Nat.le_add_right _ _
      · have := ih.1 t mem
        omega
    · show offset + Text.byteLength gap < offset + Text.byteLength gap + Text.byteLength lexeme
      omega

/-- There are only blanks before the first token and between two. -/
theorem isChain {text : List Char} (h : Covers offset cs ts) (before : List Char) {start : Nat}
    (whole : text = before ++ cs) (size : Text.byteLength before = offset) :
    List.IsChain (fun a b : Span => Span.IsGap ⟨a.stop, b.start⟩ text)
      (⟨start, offset⟩ :: ts.map Token.span) := by
  induction h generalizing before start with
  | @ending offset gap blank =>
    refine .cons_cons ⟨gap, ⟨before, [], ?_, size, ?_⟩, blank⟩ (.singleton _)
    · rw [whole, List.append_nil]
    · rw [Text.byteLength_append, size]
      rfl
  | @token offset gap lexeme rest kind ts blank nonempty ordinary later ih =>
    refine .cons_cons ⟨gap, ⟨before, lexeme ++ rest, whole, size, ?_⟩, blank⟩ ?_
    · rw [Text.byteLength_append, size]
    · refine ih (before ++ gap ++ lexeme) (by simpa using whole) ?_
      rw [Text.byteLength_append, Text.byteLength_append, size]

/-- The text is the lexemes with a gap before each; that of the end is empty. -/
theorem woven (h : Covers offset cs ts) :
    ∃ gaps : List (List Char), gaps.length = ts.length ∧
      (∀ gap ∈ gaps, ∀ c ∈ gap, Text.isBlank c = true) ∧
      cs = (List.zipWith (fun gap t => gap ++ t.lexeme.toList) gaps ts).flatten := by
  induction h with
  | @ending offset gap blank =>
    refine ⟨[gap], rfl, ?_, ?_⟩
    · intro g mem
      rw [List.mem_singleton.1 mem]
      exact blank
    · simp [atEnd]
  | @token offset gap lexeme rest kind ts blank nonempty ordinary later ih =>
    obtain ⟨gaps, size, blanks, rfl⟩ := ih
    refine ⟨gap :: gaps, congrArg (· + 1) size, ?_, by simp⟩
    intro g mem
    rcases List.mem_cons.1 mem with rfl | mem
    · exact blank
    · exact blanks g mem

end Covers

/-- The tokens are the source: each but the last is a piece of it, in their order, with only blanks
around them, and the last one stands for its end. -/
structure Tiles (source : String) (ts : List Token) : Prop where
  last : ts.getLast? = some (atEnd (Text.byteLength source.toList))
  ordinary : ∀ t ∈ ts.dropLast, t.kind ≠ .endOfInput
  piece : ∀ t ∈ ts.dropLast, t.lexeme ≠ "" ∧
    ∀ piece, t.span.Cuts source.toList piece ↔ piece = t.lexeme.toList
  ordered : ts.Pairwise fun a b => a.span.start < a.span.stop ∧ a.span.stop ≤ b.span.start
  gaps : List.IsChain (fun a b : Span => Span.IsGap ⟨a.stop, b.start⟩ source.toList)
    (.zero :: ts.map Token.span)
  woven : ∃ gaps : List (List Char), gaps.length = ts.length ∧
    (∀ gap ∈ gaps, ∀ c ∈ gap, Text.isBlank c = true) ∧
    source.toList = (List.zipWith (fun gap t => gap ++ t.lexeme.toList) gaps ts).flatten

/-- By any list of rules there is an end to the rounds on every text, and the tokens of a source
that is accepted tile it. -/
theorem tokenizeWith_tiles (rules : List Rule) (source : String) :
    WellFounded (Round rules) ∧
      ∀ ts, tokenizeWith rules source = .ok ts → Tiles source ts := by
  refine ⟨wellFounded_round rules, fun ts made => ?_⟩
  have covers := covers_of_list made
  refine ⟨?_, covers.ordinary, fun t mem => ?_, covers.pairwise.2, covers.isChain [] rfl rfl,
    covers.woven⟩
  · rw [covers.getLast?, Nat.zero_add]
  · obtain ⟨nonempty, cut⟩ := covers.cuts [] rfl rfl t mem
    refine ⟨nonempty, fun piece => ⟨fun other => other.unique cut, ?_⟩⟩
    rintro rfl
    exact cut

theorem ok_of_toOption {ε α : Type} {r : Except ε α} {a : α} (h : r.toOption = some a) :
    r = .ok a := by
  cases r with
  | error e => cases h
  | ok b => exact congrArg Except.ok (Option.some.inj h)

/-- Two rules, one of them twice, and a text with letters of two bytes. -/
theorem tokenizeWith_tiles_accents :
    ∃ ts, tokenizeWith [.identifier, .number, .identifier] " é\u00a0.5à " = .ok ts ∧
      ts.length = 4 ∧ Tiles " é\u00a0.5à " ts := by
  have made : tokenizeWith [.identifier, .number, .identifier] " é\u00a0.5à " =
      .ok [⟨.identifier, "é", ⟨1, 3⟩⟩, ⟨.number, ".5", ⟨5, 7⟩⟩, ⟨.identifier, "à", ⟨7, 9⟩⟩,
        atEnd 10] :=
    ok_of_toOption (by decide +kernel)
  exact ⟨_, made, rfl, (tokenizeWith_tiles _ _).2 _ made⟩

end Token

end Scriptlet
