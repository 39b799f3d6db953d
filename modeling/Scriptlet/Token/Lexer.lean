import Scriptlet.Token.Rule

/-
  A source text as a list of tokens.
  Blanks are skipped, the first willing rule takes each token, and a token for the end of the input
  closes the list. Main statement: an accepted token leaves a shorter text.
-/

namespace Scriptlet.Token

/-- The token at the head of the text `c :: cs`, by the first of the rules that may start there and
does not decline. -/
def first? (rules : List Rule) (offset : Nat) (c : Char) (cs : List Char) :
    Except LexFault (Option Rule.Split) :=
  match rules with
  | [] => .ok none
  | rule :: rules =>
    if rule.canStart c then
      match rule.recognize offset (c :: cs) with
      | .error fault => .error fault
      | .ok (some split) => .ok (some split)
      | .ok none => first? rules offset c cs
    else first? rules offset c cs

/-- The first token is the one that some rule recognises where it may start. -/
theorem exists_rule_of_first? {rules : List Rule} {offset : Nat} {c : Char} {cs : List Char}
    {split : Rule.Split} (h : first? rules offset c cs = .ok (some split)) :
    ∃ rule ∈ rules, rule.canStart c = true ∧
      rule.recognize offset (c :: cs) = .ok (some split) := by
  induction rules with
  | nil => cases h
  | cons rule rules ih =>
    rw [first?] at h
    split at h
    next start =>
      split at h
      · cases h
      next hs =>
        cases h
        exact ⟨rule, List.mem_cons_self, start, hs⟩
      · obtain ⟨r, mem, found⟩ := ih h
        exact ⟨r, List.mem_cons_of_mem _ mem, found⟩
    next =>
      obtain ⟨r, mem, found⟩ := ih h
      exact ⟨r, List.mem_cons_of_mem _ mem, found⟩

theorem rest_length_lt_of_first? {rules : List Rule} {offset : Nat} {c : Char} {cs : List Char}
    {split : Rule.Split} (h : first? rules offset c cs = .ok (some split)) :
    split.rest.length < (c :: cs).length := by
  obtain ⟨_, _, start, hs⟩ := exists_rule_of_first? h
  exact Rule.rest_length_lt start hs

theorem length_dropWhile_le (p : Char → Bool) (cs : List Char) :
    (cs.dropWhile p).length ≤ cs.length :=
  (List.dropWhile_suffix p).length_le

/-- The tokens of a text that begins at `offset`. -/
def list (rules : List Rule) (offset : Nat) (cs : List Char) : Except LexFault (List Token) :=
  match _blank : cs.dropWhile Text.isBlank with
  | [] => .ok [atEnd (offset + Text.byteLength cs)]
  | c :: rest =>
    let start := offset + Text.byteLength (cs.takeWhile Text.isBlank)
    match _taken : first? rules start c rest with
    | .error fault => .error fault
    | .ok none =>
      .error (.unexpectedCharacter c ⟨start, start + c.utf8Size⟩ (rules.map Rule.label))
    | .ok (some split) =>
      let stop := start + Text.byteLength split.lexeme
      (list rules stop split.rest).map
        (⟨split.kind, String.ofList split.lexeme, ⟨start, stop⟩⟩ :: ·)
termination_by cs.length
decreasing_by
  have shorter := rest_length_lt_of_first? _taken
  have := length_dropWhile_le Text.isBlank cs
  rw [_blank] at this
  omega

/-- The tokens of a source by the given rules. -/
def tokenizeWith (rules : List Rule) (source : String) : Except LexFault (List Token) :=
  list rules 0 source.toList

/-- The tokens of a source. -/
def tokenize (source : String) : Except LexFault (List Token) :=
  tokenizeWith Rule.defaults source

end Scriptlet.Token
