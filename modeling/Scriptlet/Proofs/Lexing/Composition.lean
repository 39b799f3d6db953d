import Scriptlet.Proofs.Lexing.Cover
import Scriptlet.Proofs.Lexing.Spaced

/-
  Tokens of texts that are put together.
  Each rule looks beyond the token that it takes, but a blank stops it, and it sees nothing but
  the character where it stopped (`Rule.recognize_akin`); so the first token stays when what
  follows it is exchanged for a text that is over, that begins with a blank, or that begins in the
  same way (`first?_akin`). Hence the tokens of two texts with blanks between them are those of
  the first and then those of the second, moved (`list_append`, `list_shift`). Main statement:
  `tokenize_append`.
-/

namespace Scriptlet

variable {cs lexeme rest rest' more : List Char} {c : Char} {s : Rule.Split}

/-- The text `rest'` is over, or begins with a blank or as `rest` does. -/
def Akin (rest rest' : List Char) : Prop :=
  ∀ c ∈ rest'.head?, Text.isBlank c = true ∨ c ∈ rest.head?

theorem Akin.refl (rest : List Char) : Akin rest rest :=
  fun _ head => .inr head

theorem Closed.akin (closed : Closed rest') (rest : List Char) : Akin rest rest' :=
  fun c head => .inl (closed c head)

theorem Closed.akin_append (closed : Closed more) (rest : List Char) :
    Akin rest (rest ++ more) := by
  cases rest with
  | nil => exact closed.akin []
  | cons c rest => exact .refl (c :: rest)

/-- What is false of blanks and of the first character of `rest` is false of that of `rest'`. -/
theorem Akin.head {p : Char → Bool} (akin : Akin rest rest')
    (blank : ∀ c, Text.isBlank c = true → p c = false) (first : ∀ c ∈ rest.head?, p c = false) :
    ∀ c ∈ rest'.head?, p c = false := by
  intro c head
  rcases akin c head with isBlank | same
  · exact blank c isBlank
  · exact first c same

namespace Rule

variable {rule : Rule} {kinds : List TokenKind} {offset : Nat}

/-! ## An accepted token is accepted again -/

/-- Nothing after its closing quote matters to a string. -/
theorem scanQuoted_again {start : Nat} {body : List Char}
    (h : scanQuoted start offset cs = .ok (body, rest)) (start' offset' : Nat)
    (rest' : List Char) : scanQuoted start' offset' (body ++ rest') = .ok (body, rest') := by
  fun_induction scanQuoted start offset cs generalizing body offset' with
  | case1 => cases h
  | case2 =>
    cases h
    rfl
  | case3 offset cs ih =>
    obtain ⟨⟨b, r⟩, scanned, made⟩ := map_ok_iff.1 h
    cases made
    rw [List.cons_append, List.cons_append, scanQuoted, ih scanned]
    rfl
  | case4 => cases h
  | case5 => cases h
  | case6 offset c cs noQuote _ noEscape noBreak ih =>
    obtain ⟨⟨b, r⟩, scanned, made⟩ := map_ok_iff.1 h
    cases made
    rw [List.cons_append, scanQuoted, if_neg noEscape, if_neg noBreak, ih scanned]
    · rfl
    · exact noQuote
    · intro tail escape
      exact absurd escape noEscape

/-- A number that stops at `rest` stops at `rest'`. -/
theorem scanNumber_again (akin : Akin rest rest') {seenPoint : Bool} {body : List Char}
    (h : scanNumber seenPoint cs = (body, rest)) :
    scanNumber seenPoint (body ++ rest') = (body, rest') := by
  fun_induction scanNumber seenPoint cs generalizing body with
  | case1 seenPoint =>
    cases h
    cases rest' with
    | nil => rfl
    | cons d rest' =>
      have blank := (akin d rfl).resolve_right fun head => by cases head
      obtain ⟨-, notDigit, notPoint, -⟩ := not_in_token_of_isBlank blank
      simp [scanNumber, notDigit, notPoint]
  | case2 seenPoint c cs digit b r scanned ih =>
    cases h
    rw [List.cons_append, scanNumber, if_pos digit, ih scanned]
  | case3 seenPoint c cs noDigit point b r scanned ih =>
    cases h
    rw [List.cons_append, scanNumber, if_neg noDigit, if_pos point, ih scanned]
  | case4 seenPoint c cs noDigit noPoint =>
    cases h
    cases rest' with
    | nil => rfl
    | cons d rest' =>
      rcases akin d rfl with blank | same
      · obtain ⟨-, notDigit, notPoint, -⟩ := not_in_token_of_isBlank blank
        simp [scanNumber, notDigit, notPoint]
      · cases same
        rw [List.nil_append, scanNumber, if_neg noDigit, if_neg noPoint]

/-- A word that stops at its rest stops at `rest'`. -/
theorem word_again (akin : Akin (afterWord cs) rest') :
    word (word cs ++ rest') = word cs ∧ afterWord (word cs ++ rest') = rest' := by
  refine Token.word_append (fun c mem => List.all_eq_true.1 List.all_takeWhile c mem) ?_
  refine akin.head (fun c blank => (not_in_token_of_isBlank blank).1) fun c head => ?_
  have stop := List.head?_dropWhile_not Text.isWordChar cs
  rw [show (cs.dropWhile Text.isWordChar).head? = some c from head] at stop
  exact Bool.eq_false_iff.2 fun more => by simp [more] at stop

/-- A rule that accepts a token accepts it before every rest that is akin. -/
theorem recognize_akin (h : rule.recognize offset cs = .ok (some s)) (akin : Akin s.rest rest')
    (offset' : Nat) :
    rule.recognize offset' (s.lexeme ++ rest') = .ok (some ⟨s.kind, s.lexeme, rest'⟩) := by
  cases rule with
  | quotedText =>
    cases cs with
    | nil => cases h
    | cons c cs =>
      obtain ⟨⟨body, rest⟩, scanned, made⟩ := map_ok_iff.1 h
      cases made
      exact congrArg (Except.map _) (scanQuoted_again scanned _ _ rest')
  | twoCharOperator =>
    obtain ⟨kind, found, rfl⟩ := Option.map_eq_some_iff.1 (Except.ok.inj h)
    exact congrArg Except.ok (Token.scanOneOf_twoChar rest' kind (List.mem_of_find?_eq_some found))
  | oneCharOperator =>
    obtain ⟨kind, found, rfl⟩ := Option.map_eq_some_iff.1 (Except.ok.inj h)
    exact congrArg Except.ok (Token.scanOneOf_oneChar rest' kind (List.mem_of_find?_eq_some found))
  | number =>
    simp only [recognize, Except.ok.injEq, Option.ite_none_right_eq_some] at h
    obtain ⟨digit, h⟩ := h
    cases h
    unfold recognize
    rw [scanNumber_again akin rfl]
    exact congrArg Except.ok (if_pos digit)
  | keyword =>
    obtain ⟨kind, found, rfl⟩ := Option.map_eq_some_iff.1 (Except.ok.inj h)
    obtain ⟨word, after⟩ := word_again akin
    unfold recognize
    rw [word, after, found]
    rfl
  | identifier =>
    cases h
    obtain ⟨word, after⟩ := word_again akin
    unfold recognize
    rw [word, after]

/-! ## A rule that declines declines again -/

/-- Operators have one or two characters, none of them blank. -/
theorem operator_chars : ∀ kind ∈ TokenKind.twoCharOperators ++ TokenKind.oneCharOperators,
    kind.spellingChars.length ≤ 2 ∧ ∀ c ∈ kind.spellingChars, Text.isBlank c = false := by
  have all : (TokenKind.twoCharOperators ++ TokenKind.oneCharOperators).all (fun kind =>
      decide (kind.spellingChars.length ≤ 2) && kind.spellingChars.all fun c => !Text.isBlank c) =
      true := by decide +kernel
  intro kind mem
  simpa using List.all_eq_true.1 all kind mem

/-- An operator that is not found at the head of a token and its rest is not found when the rest
is exchanged: it would have to end in the first character after the token. -/
theorem scanOneOf_eq_none_akin
    (sub : kinds ⊆ TokenKind.twoCharOperators ++ TokenKind.oneCharOperators)
    (h : scanOneOf kinds (lexeme ++ rest) = none) (nonempty : lexeme ≠ [])
    (akin : Akin rest rest') : scanOneOf kinds (lexeme ++ rest') = none := by
  unfold scanOneOf at h ⊢
  rw [Option.map_eq_none_iff, List.find?_eq_none] at h ⊢
  intro kind mem begins
  refine h kind mem (List.isPrefixOf_iff_prefix.2 ?_)
  obtain ⟨short, visible⟩ := operator_chars kind (sub mem)
  have longer := List.isPrefixOf_iff_prefix.1 begins
  rcases Nat.le_total kind.spellingChars.length lexeme.length with le | le
  · have inside := List.prefix_of_prefix_length_le longer (List.prefix_append lexeme rest') le
    exact inside.trans (List.prefix_append lexeme rest)
  · -- the operator is the lexeme and at most one character of what follows
    obtain ⟨extra, spelled⟩ :=
      List.prefix_of_prefix_length_le (List.prefix_append lexeme rest') longer le
    have size := congrArg List.length spelled
    have := List.length_pos_iff.2 nonempty
    rw [List.length_append] at size
    rw [← spelled, List.prefix_append_right_inj] at longer ⊢
    match extra with
    | [] => exact List.nil_prefix
    | [d] =>
      obtain ⟨tail, rfl⟩ := longer
      have notBlank := visible d (by simp [← spelled])
      have same : d ∈ rest.head? := by
        refine (akin d rfl).resolve_left fun blank => ?_
        rw [blank] at notBlank
        cases notBlank
      obtain ⟨tail', rfl⟩ := List.head?_eq_some_iff.1 same
      exact ⟨tail', rfl⟩
    | _ :: _ :: _ => simp only [List.length_cons] at size; omega

/-! ## The first token -/

theorem head_of_keyword (h : Rule.keyword.canStart c = true) : Text.isNameStart c = true := by
  obtain ⟨kind, mem, begins⟩ := List.any_eq_true.1 h
  exact (Token.spelling_of_keyword kind mem).1 c (beq_iff_eq.1 begins)

/-- No rule may start at a blank. -/
theorem isBlank_eq_false_of_canStart (h : rule.canStart c = true) : Text.isBlank c = false := by
  have operator : ∀ kinds ⊆ TokenKind.twoCharOperators ++ TokenKind.oneCharOperators,
      beginsOneOf kinds c = true → Text.isBlank c = false := by
    intro kinds sub begins
    obtain ⟨kind, mem, begins⟩ := List.any_eq_true.1 begins
    exact (head_of_operator kind (sub mem) c (beq_iff_eq.1 begins)).2.2.2.1
  have named : Text.isNameStart c = true → Text.isBlank c = false := fun start =>
    isBlank_eq_false_of_isWordChar (Text.isWordChar_of_isNameStart start)
  cases rule with
  | quotedText =>
    rw [beq_iff_eq.1 h]
    decide
  | twoCharOperator => exact operator _ (List.subset_append_left _ _) h
  | oneCharOperator => exact operator _ (List.subset_append_right _ _) h
  | number =>
    refine Bool.eq_false_iff.2 fun blank => ?_
    obtain ⟨-, notDigit, notPoint, -⟩ := not_in_token_of_isBlank blank
    rcases Bool.or_eq_true_iff.1 h with digit | point
    · rw [digit] at notDigit
      cases notDigit
    · exact notPoint (beq_iff_eq.1 point)
  | keyword => exact named (head_of_keyword h)
  | identifier => exact named h

/-- Where a rule may start but declines and another one takes a token, both rules look for
operators, or the token is a name that is no keyword. -/
theorem recognize_eq_none_akin {other : Rule} (start : rule.canStart c = true)
    (declines : rule.recognize offset (c :: cs) = .ok none) (starts : other.canStart c = true)
    (taken : other.recognize offset (c :: cs) = .ok (some s)) (akin : Akin s.rest rest')
    (offset' : Nat) : rule.recognize offset' (s.lexeme ++ rest') = .ok none := by
  have nonempty := lexeme_ne_nil starts taken
  have whole := recognize_append taken
  cases rule with
  | quotedText =>
    obtain ⟨_, -, made⟩ := map_ok_iff.1 declines
    cases made
  | twoCharOperator =>
    rw [← whole] at declines
    exact congrArg Except.ok (scanOneOf_eq_none_akin (List.subset_append_left _ _)
      (Except.ok.inj declines) nonempty akin)
  | oneCharOperator =>
    rw [← whole] at declines
    exact congrArg Except.ok (scanOneOf_eq_none_akin (List.subset_append_right _ _)
      (Except.ok.inj declines) nonempty akin)
  | number =>
    have noDigit : (scanNumber false (c :: cs)).1.any Char.isDigit = false := by
      refine Bool.eq_false_iff.2 fun digit => ?_
      have some := (congrArg Except.ok (if_pos digit)).symm.trans declines
      cases some
    rcases Bool.or_eq_true_iff.1 start with digit | point
    · simp [scanNumber, digit] at noDigit
    · -- only numbers begin with a point
      obtain rfl := beq_iff_eq.1 point
      have isNumber : other = .number := by
        cases other <;> first | rfl | exact absurd starts (by decide +kernel)
      rw [isNumber, declines] at taken
      cases taken
  | keyword =>
    have sorts := mem_of_canStart_of_isNameStart (head_of_keyword start) starts
    simp only [List.mem_cons, List.not_mem_nil, or_false] at sorts
    obtain rfl | rfl := sorts
    · rw [declines] at taken
      cases taken
    · cases taken
      have none := Option.map_eq_none_iff.1 (Except.ok.inj declines)
      obtain ⟨word, -⟩ := word_again akin
      unfold recognize
      rw [word, none]
      rfl
  | identifier => cases declines

end Rule

namespace Token

variable {rules : List Rule} {offset : Nat} {ts : List Token} {gap : List Char}

/-- The first token stays when its rest is exchanged for one that is akin. -/
theorem first?_akin (h : first? rules offset c cs = .ok (some s)) (akin : Akin s.rest rest')
    {cs' : List Char} (text : c :: cs' = s.lexeme ++ rest') (offset' : Nat) :
    first? rules offset' c cs' = .ok (some ⟨s.kind, s.lexeme, rest'⟩) := by
  obtain ⟨taker, -, starts, taken⟩ := exists_rule_of_first? h
  induction rules with
  | nil => cases h
  | cons rule rules ih =>
    rw [first?] at h
    split at h
    next start =>
      split at h
      · cases h
      next made =>
        cases h
        refine first?_take start ?_
        rw [text]
        exact Rule.recognize_akin made akin offset'
      next declines =>
        rw [first?_skip, ih h]
        intro
        rw [text]
        exact Rule.recognize_eq_none_akin start declines starts taken akin offset'
    next noStart => rw [first?_skip (skip_of_canStart (Bool.eq_false_iff.2 noStart)), ih h]

/-! ## Texts in a row -/

/-- Blanks before a text only move its tokens. -/
theorem list_gap (blank : ∀ c ∈ gap, Text.isBlank c = true) (offset : Nat) (cs : List Char) :
    list rules offset (gap ++ cs) = list rules (offset + Text.byteLength gap) cs := by
  rw [list_eq rules offset, list_eq rules (offset + _)]
  rw [List.dropWhile_append_of_pos blank, List.takeWhile_append_of_pos blank,
    Text.byteLength_append, Text.byteLength_append, Nat.add_assoc, Nat.add_assoc]

/-- Before a blank or the end the tokens of a text are the same, and those of what follows come
after them. -/
theorem list_append (h : list rules offset cs = .ok ts) (closed : Closed more) :
    list rules offset (cs ++ more) =
      (list rules (offset + Text.byteLength cs) more).map (ts.dropLast ++ ·) := by
  fun_induction list rules offset cs generalizing ts with
  | case1 offset cs none =>
    cases h
    rw [list_gap (List.dropWhile_eq_nil_iff.1 none)]
    cases list rules (offset + Text.byteLength cs) more <;> rfl
  | case2 => cases h
  | case3 => cases h
  | case4 offset cs c rest visible start split taken stop =>
    rename_i ih
    obtain ⟨later, made, rfl⟩ := Rule.map_ok_iff.1 h
    obtain ⟨rule, -, -, accepted⟩ := exists_rule_of_first? taken
    have head : c :: rest = split.lexeme ++ split.rest := (Rule.recognize_append accepted).symm
    have whole : cs = cs.takeWhile Text.isBlank ++ (split.lexeme ++ split.rest) := by
      rw [← head, ← visible, List.takeWhile_append_dropWhile]
    have begun : (cs ++ more).takeWhile Text.isBlank = cs.takeWhile Text.isBlank := by
      rw [List.takeWhile_append, if_neg]
      intro size
      have := congrArg List.length visible
      have := congrArg List.length (List.takeWhile_append_dropWhile (p := Text.isBlank) (l := cs))
      simp only [List.length_append, List.length_cons] at *
      omega
    have visible' : (cs ++ more).dropWhile Text.isBlank = c :: (rest ++ more) := by
      rw [List.dropWhile_append, visible]
      rfl
    have taken' : first? rules (offset + Text.byteLength ((cs ++ more).takeWhile Text.isBlank)) c
        (rest ++ more) = .ok (some ⟨split.kind, split.lexeme, split.rest ++ more⟩) := by
      refine first?_akin taken (closed.akin_append split.rest) ?_ _
      rw [← List.append_assoc, ← head, List.cons_append]
    -- what follows begins at the same place, counted from the rest or from the whole text
    have size : stop + Text.byteLength split.rest = offset + Text.byteLength cs := by
      conv => rhs; rw [whole]
      simp only [Text.byteLength_append, start, stop, Nat.add_assoc]
    rw [list_of_first? visible' taken', begun]
    show (list rules stop (split.rest ++ more)).map _ = _
    rw [ih made, size, List.dropLast_cons_of_ne_nil (covers_of_list made).ne_nil]
    cases list rules (offset + Text.byteLength cs) more <;> rfl

/-- The token `count` bytes further on. -/
def shift (count : Nat) (t : Token) : Token :=
  { t with span := ⟨t.span.start + count, t.span.stop + count⟩ }

/-- The tokens of a text that begins further on are moved. -/
theorem list_shift (h : list rules offset cs = .ok ts) (count : Nat) :
    list rules (offset + count) cs = .ok (ts.map (shift count)) := by
  fun_induction list rules offset cs generalizing ts with
  | case1 offset cs none =>
    cases h
    rw [list_of_blank _ none]
    simp [atEnd, shift, Nat.add_right_comm]
  | case2 => cases h
  | case3 => cases h
  | case4 offset cs c rest visible start split taken stop =>
    rename_i ih
    obtain ⟨later, made, rfl⟩ := Rule.map_ok_iff.1 h
    obtain ⟨rule, -, -, accepted⟩ := exists_rule_of_first? taken
    have head : c :: rest = split.lexeme ++ split.rest := (Rule.recognize_append accepted).symm
    rw [list_of_first? visible (first?_akin taken (.refl _) head _)]
    have moved : offset + count + Text.byteLength (cs.takeWhile Text.isBlank) = start + count :=
      Nat.add_right_comm _ _ _
    have after : start + count + Text.byteLength split.lexeme = stop + count :=
      Nat.add_right_comm _ _ _
    dsimp only
    rw [moved, after, ih made]
    rfl

/-! ## Tokens of an accepted source -/

/-- Each token before that of the end is the first one of its own text. -/
theorem lexable_of_tokenize {source : String} (h : tokenize source = .ok ts) :
    ∀ t ∈ ts.dropLast, Lexable t := by
  have each : ∀ t ∈ ts, t.kind ≠ .endOfInput → Lexable t := by
    refine forall_mem_of_list (fun offset c cs split span taken _ => ?_)
      (fun size ordinary => absurd rfl ordinary) h
    obtain ⟨rule, -, starts, accepted⟩ := exists_rule_of_first? taken
    have head := Rule.recognize_append accepted
    obtain ⟨d, ds, chars⟩ := List.exists_cons_of_ne_nil (Rule.lexeme_ne_nil starts accepted)
    obtain ⟨rfl, -⟩ := List.cons.inj ((congrArg (· ++ split.rest) chars).symm.trans head)
    refine ⟨d, ds, ?_, Rule.isBlank_eq_false_of_canStart starts, fun offset' rest' closed => ?_⟩
    · rw [String.toList_ofList, chars]
    · rw [← chars]
      refine first?_akin taken (closed.akin _) ?_ offset'
      rw [chars, List.cons_append]
  intro t mem
  exact each t (List.dropLast_subset ts mem) ((covers_of_list h).ordinary t mem)

/-- The tokens are those before the end, and that of the end. -/
theorem unspanned_of_tokenize {source : String} (h : tokenize source = .ok ts) :
    ts.map unspanned = ts.dropLast.map unspanned ++ [atEnd 0] := by
  have covers := covers_of_list h
  have last := List.getLast?_eq_some_iff.1 covers.getLast?
  obtain ⟨front, rfl⟩ := last
  rw [List.dropLast_concat, List.map_append]
  rfl

theorem closed_of_blank {w : String} (nonempty : w ≠ "")
    (blank : ∀ c ∈ w.toList, Text.isBlank c = true) (rest : List Char) :
    Closed (w.toList ++ rest) := by
  obtain ⟨d, ds, chars⟩ := List.exists_cons_of_ne_nil
    (fun none => nonempty (String.toList_eq_nil_iff.1 none))
  rw [chars] at blank ⊢
  intro c head
  obtain rfl : d = c := Option.some.inj head
  exact blank d List.mem_cons_self

/-- Lexemes with the same blanks between every two are joined. -/
theorem joined_intercalate {w : String} (nonempty : w ≠ "")
    (blank : ∀ c ∈ w.toList, Text.isBlank c = true) (ts : List Token) :
    Joined ts (w.intercalate (ts.map Token.lexeme)).toList := by
  have after : ∀ gap : List Char, (∀ c ∈ gap, Text.isBlank c = true) →
      Joined ts (gap ++ w.toList.intercalate ((ts.map Token.lexeme).map String.toList)) := by
    induction ts with
    | nil =>
      intro gap space
      rw [List.map_nil, List.map_nil, List.intercalate_nil, List.append_nil]
      exact .ending space
    | cons t ts ih =>
      intro gap space
      cases ts with
      | nil => exact .token space (fun c head => nomatch head) (.ending (fun c mem => nomatch mem))
      | cons u us =>
        have joined := Joined.token (t := t) space (closed_of_blank nonempty blank _)
          (ih w.toList blank)
        rw [← List.append_assoc t.lexeme.toList] at joined
        rw [List.map_cons, List.map_cons, List.map_cons, List.map_cons,
          List.intercalate_cons_cons]
        exact joined
  rw [String.toList_intercalate]
  exact after [] fun c mem => nomatch mem

/-- Two accepted texts with blanks between them have the tokens of the first before its end and
then those of the second, moved; and however the lexemes of an accepted text are joined by blanks,
the tokens are the same but for their spans. -/
theorem tokenize_append :
    (∀ (first second w : String) (ts us : List Token), tokenize first = .ok ts →
      tokenize second = .ok us → w ≠ "" → (∀ c ∈ w.toList, Text.isBlank c = true) →
      tokenize (first ++ w ++ second) = .ok (ts.dropLast ++
        us.map (shift (Text.byteLength first.toList + Text.byteLength w.toList)))) ∧
    ∀ (source text : String) (ts : List Token), tokenize source = .ok ts →
      Joined ts.dropLast text.toList →
      ∃ out, tokenize text = .ok out ∧ out.map unspanned = ts.map unspanned := by
  refine ⟨fun first second w ts us tokens tokens' nonempty blank => ?_,
    fun source text ts tokens joined => ?_⟩
  · have appended := list_append tokens (closed_of_blank nonempty blank second.toList)
    have moved := list_shift tokens' (Text.byteLength first.toList + Text.byteLength w.toList)
    unfold tokenize tokenizeWith
    rw [String.toList_append, String.toList_append, List.append_assoc, appended, list_gap blank,
      Nat.add_assoc, moved]
    rfl
  · rw [unspanned_of_tokenize tokens]
    exact list_joined (lexable_of_tokenize tokens) 0 joined

/-- A name before a wide blank and a comparison, and the lexemes of the comparison alone. -/
theorem tokenize_append_wide :
    tokenize "ä" = .ok [⟨.identifier, "ä", ⟨0, 2⟩⟩, atEnd 2] ∧
    tokenize "x>=.5" = .ok [⟨.identifier, "x", ⟨0, 1⟩⟩, ⟨.greaterEqual, ">=", ⟨1, 3⟩⟩,
      ⟨.number, ".5", ⟨3, 5⟩⟩, atEnd 5] ∧
    tokenize ("ä" ++ "\u3000" ++ "x>=.5") = .ok [⟨.identifier, "ä", ⟨0, 2⟩⟩,
      ⟨.identifier, "x", ⟨5, 6⟩⟩, ⟨.greaterEqual, ">=", ⟨6, 8⟩⟩, ⟨.number, ".5", ⟨8, 10⟩⟩,
      atEnd 10] ∧
    ∃ out, tokenize ("\u3000\n".intercalate ["x", ">=", ".5"]) = .ok out ∧
      out.map unspanned = [⟨.identifier, "x", .zero⟩, ⟨.greaterEqual, ">=", .zero⟩,
        ⟨.number, ".5", .zero⟩, atEnd 0] := by
  have name : tokenize "ä" = .ok [⟨.identifier, "ä", ⟨0, 2⟩⟩, atEnd 2] :=
    ok_of_toOption (by decide +kernel)
  have comparison : tokenize "x>=.5" = .ok [⟨.identifier, "x", ⟨0, 1⟩⟩,
      ⟨.greaterEqual, ">=", ⟨1, 3⟩⟩, ⟨.number, ".5", ⟨3, 5⟩⟩, atEnd 5] :=
    ok_of_toOption (by decide +kernel)
  refine ⟨name, comparison, ?_, ?_⟩
  · exact tokenize_append.1 _ _ _ _ _ name comparison (by decide) (List.all_eq_true.1 rfl)
  · exact tokenize_append.2 _ _ _ comparison
      (joined_intercalate (by decide) (List.all_eq_true.1 rfl) [_, _, _])

end Token

end Scriptlet
