import Mathlib.Data.List.Perm.Basic
import Scriptlet.Proofs.Lexing.Composition

/-
  The order of the token rules.
  The rules fall into families: no character starts rules of two families, so at each place of a
  text only the rules of one family look at it, and their order among themselves decides which of
  them takes the token. Main statement: rules in any order that keeps the one inside the families
  take the same tokens or find the same fault (`tokenizeWith_reordered`).
-/

namespace Scriptlet

namespace Rule

variable {c : Char} {rule : Rule} {rules : List Rule}

/-! ## Families -/

/-- The families of rules, each in the order in which its rules are tried. -/
def families : List (List Rule) :=
  [[.quotedText], [.twoCharOperator, .oneCharOperator], [.number], [.keyword, .identifier]]

theorem canStart_operator_ne_quote (h : Rule.twoCharOperator.canStart c = true ∨
    Rule.oneCharOperator.canStart c = true) : c ≠ '"' := by
  have operator : ∀ kinds ⊆ TokenKind.twoCharOperators ++ TokenKind.oneCharOperators,
      beginsOneOf kinds c = true → c ≠ '"' := by
    intro kinds sub begins
    obtain ⟨kind, mem, begins⟩ := List.any_eq_true.1 begins
    exact (head_of_operator kind (sub mem) c (beq_iff_eq.1 begins)).2.2.2.2
  rcases h with begins | begins
  · exact operator _ (List.subset_append_left _ _) begins
  · exact operator _ (List.subset_append_right _ _) begins

/-- The rules that start at one character are of one family. -/
theorem exists_family (c : Char) :
    ∃ family ∈ families, ∀ rule : Rule, rule.canStart c = true → rule ∈ family := by
  by_cases name : Text.isNameStart c = true
  · exact ⟨[.keyword, .identifier], by decide, fun _ => mem_of_canStart_of_isNameStart name⟩
  have noWord : Rule.keyword.canStart c ≠ true := fun start => name (head_of_keyword start)
  by_cases number : c.isDigit = true ∨ c = '.'
  · obtain ⟨noTwo, noOne⟩ := canStart_operator_eq_false (.inr number)
    refine ⟨[.number], by decide, fun rule start => ?_⟩
    cases rule with
    | quotedText =>
      obtain rfl := beq_iff_eq.1 start
      exact absurd number (by decide)
    | twoCharOperator => exact absurd start (Bool.eq_false_iff.1 noTwo)
    | oneCharOperator => exact absurd start (Bool.eq_false_iff.1 noOne)
    | number => exact List.mem_singleton_self _
    | keyword => exact absurd start noWord
    | identifier => exact absurd start name
  have noNumber : Rule.number.canStart c ≠ true := by
    intro start
    exact number ((Bool.or_eq_true_iff.1 start).imp id beq_iff_eq.1)
  by_cases quote : c = '"'
  · refine ⟨[.quotedText], by decide, fun rule start => ?_⟩
    cases rule with
    | quotedText => exact List.mem_singleton_self _
    | twoCharOperator => exact absurd quote (canStart_operator_ne_quote (.inl start))
    | oneCharOperator => exact absurd quote (canStart_operator_ne_quote (.inr start))
    | number => exact absurd start noNumber
    | keyword => exact absurd start noWord
    | identifier => exact absurd start name
  · refine ⟨[.twoCharOperator, .oneCharOperator], by decide, fun rule start => ?_⟩
    cases rule with
    | quotedText => exact absurd (beq_iff_eq.1 start) quote
    | twoCharOperator | oneCharOperator => decide
    | number => exact absurd start noNumber
    | keyword => exact absurd start noWord
    | identifier => exact absurd start name

/-- The rules are all of the rules, in an order that keeps the one inside each family. -/
structure Reordered (rules : List Rule) : Prop where
  perm : rules.Perm defaults
  operators : [.twoCharOperator, .oneCharOperator].Sublist rules
  words : [.keyword, .identifier].Sublist rules

namespace Reordered

theorem mem (h : Reordered rules) (rule : Rule) : rule ∈ rules := by
  rw [h.perm.mem_iff]
  cases rule <;> decide

theorem family_sublist (h : Reordered rules) {family : List Rule} (mem : family ∈ families) :
    family.Sublist rules := by
  obtain rfl | rfl | rfl | rfl : family = [.quotedText] ∨
      family = [.twoCharOperator, .oneCharOperator] ∨ family = [.number] ∨
      family = [.keyword, .identifier] := by simpa [families] using mem
  · exact List.singleton_sublist.2 (h.mem .quotedText)
  · exact h.operators
  · exact List.singleton_sublist.2 (h.mem .number)
  · exact h.words

/-- The rules that start at a character stand in the order of their family. -/
theorem filter_canStart (h : Reordered rules) {family : List Rule} (mem : family ∈ families)
    (only : ∀ rule : Rule, rule.canStart c = true → rule ∈ family) :
    rules.filter (·.canStart c) = family.filter (·.canStart c) := by
  have ordered := (h.family_sublist mem).filter (·.canStart c)
  have once : rules.Nodup := h.perm.nodup_iff.2 (by decide)
  have all : (family.filter (·.canStart c)).Perm (rules.filter (·.canStart c)) := by
    refine (List.perm_ext_iff_of_nodup (ordered.nodup (once.filter _)) (once.filter _)).2 ?_
    intro rule
    rw [List.mem_filter, List.mem_filter]
    exact ⟨fun found => ⟨h.mem rule, found.2⟩, fun found => ⟨only rule found.2, found.2⟩⟩
  exact (ordered.eq_of_length all.length_eq).symm

end Reordered

theorem reordered_defaults : Reordered defaults :=
  ⟨.refl _, by decide, by decide⟩

end Rule

namespace LexFault

/-- Two faults are one but for the labels of the rules in use. -/
inductive Relabelled (rules rules' : List Rule) : LexFault → LexFault → Prop
  | same (fault : LexFault) : Relabelled rules rules' fault fault
  | character (c : Char) (span : Span) : Relabelled rules rules'
      (.unexpectedCharacter c span (rules.map Rule.label))
      (.unexpectedCharacter c span (rules'.map Rule.label))

/-- Faults with other labels are diagnosed alike but for what would have been accepted. -/
theorem Relabelled.diagnostic {rules rules' : List Rule} {fault fault' : LexFault}
    (h : Relabelled rules rules' fault fault') (source : String) :
    fault'.diagnostic.locatedIn source =
      { fault.diagnostic.locatedIn source with expected := fault'.expected } := by
  cases h with
  | same => cases fault <;> rfl
  | character => rfl

end LexFault

namespace Token

variable {rules rules' : List Rule}

/-! ## Tokens -/

/-- Rules that do not start are not tried. -/
theorem first?_filter (rules : List Rule) (offset : Nat) (c : Char) (cs : List Char) :
    first? rules offset c cs = first? (rules.filter (·.canStart c)) offset c cs := by
  induction rules with
  | nil => rfl
  | cons rule rules ih =>
    by_cases start : rule.canStart c = true
    · have kept : (rule :: rules).filter (·.canStart c) = rule :: rules.filter (·.canStart c) :=
        List.filter_cons_of_pos start
      rw [kept, first?, first?, ih]
    · have dropped : (rule :: rules).filter (·.canStart c) = rules.filter (·.canStart c) :=
        List.filter_cons_of_neg start
      rw [dropped, first?_skip fun h => absurd h start, ih]

theorem first?_reordered (h : Rule.Reordered rules) (h' : Rule.Reordered rules') (offset : Nat)
    (c : Char) (cs : List Char) : first? rules offset c cs = first? rules' offset c cs := by
  obtain ⟨family, mem, only⟩ := Rule.exists_family c
  rw [first?_filter rules, first?_filter rules', h.filter_canStart mem only,
    h'.filter_canStart mem only]

/-- Two readings of a text come to the same tokens, or to faults that differ in their labels. -/
inductive Concur (rules rules' : List Rule) :
    Except LexFault (List Token) → Except LexFault (List Token) → Prop
  | tokens (ts : List Token) : Concur rules rules' (.ok ts) (.ok ts)
  | fault {fault fault' : LexFault} (h : LexFault.Relabelled rules rules' fault fault') :
    Concur rules rules' (.error fault) (.error fault')

theorem Concur.map (f : List Token → List Token) {r r' : Except LexFault (List Token)}
    (h : Concur rules rules' r r') : Concur rules rules' (r.map f) (r'.map f) := by
  cases h with
  | tokens ts => exact .tokens (f ts)
  | fault h => exact .fault h

theorem list_concur (same : ∀ offset c cs, first? rules' offset c cs = first? rules offset c cs)
    (offset : Nat) (cs : List Char) :
    Concur rules rules' (list rules offset cs) (list rules' offset cs) := by
  fun_induction list rules offset cs with
  | case1 offset cs none =>
    rw [list_of_blank offset none]
    exact .tokens _
  | case2 offset cs c rest visible start fault taken =>
    rw [list_eq, visible]
    dsimp only
    rw [same, taken]
    exact .fault (.same fault)
  | case3 offset cs c rest visible start taken =>
    rw [list_eq, visible]
    dsimp only
    rw [same, taken]
    exact .fault (.character c _)
  | case4 offset cs c rest visible start split taken stop ih =>
    rw [list_of_first? visible ((same _ _ _).trans taken)]
    exact ih.map _

/-- The order of the rules matters inside the families only: any other order takes the same tokens,
or finds the same fault at the same place, with the labels of the rules in their order if it is
about a character that no rule accepts. -/
theorem tokenizeWith_reordered (perm : rules.Perm Rule.defaults)
    (operators : [.twoCharOperator, .oneCharOperator].Sublist rules)
    (words : [.keyword, .identifier].Sublist rules) (source : String) :
    (∃ ts, tokenize source = .ok ts ∧ tokenizeWith rules source = .ok ts) ∨
      ∃ fault fault', tokenize source = .error fault ∧ tokenizeWith rules source = .error fault' ∧
        (fault' = fault ∨ ∃ c span,
          fault = .unexpectedCharacter c span (Rule.defaults.map Rule.label) ∧
          fault' = .unexpectedCharacter c span (rules.map Rule.label)) ∧
        fault'.diagnostic.locatedIn source =
          { fault.diagnostic.locatedIn source with expected := fault'.expected } := by
  have concur : Concur Rule.defaults rules (tokenize source) (tokenizeWith rules source) :=
    list_concur (first?_reordered ⟨perm, operators, words⟩ Rule.reordered_defaults) 0 source.toList
  generalize tokenize source = r, tokenizeWith rules source = r' at concur ⊢
  cases concur with
  | tokens ts => exact .inl ⟨ts, rfl, rfl⟩
  | @fault fault fault' h =>
    refine .inr ⟨fault, fault', rfl, rfl, ?_, h.diagnostic source⟩
    cases h with
    | same => exact .inl rfl
    | character c span => exact .inr ⟨c, span, rfl, rfl⟩

/-- Words before everything else, numbers between them, and quotes last. -/
def wordsFirst : List Rule :=
  [.keyword, .number, .identifier, .twoCharOperator, .oneCharOperator, .quotedText]

/-- An operator that is cut short after a name. -/
theorem tokenizeWith_reordered_cut :
    wordsFirst.Perm Rule.defaults ∧ [.twoCharOperator, .oneCharOperator].Sublist wordsFirst ∧
      [.keyword, .identifier].Sublist wordsFirst ∧
      ∃ fault fault', tokenize "a >= !" = .error fault ∧
        tokenizeWith wordsFirst "a >= !" = .error fault' ∧
        fault'.diagnostic.locatedIn "a >= !" =
          { fault.diagnostic.locatedIn "a >= !" with expected := fault'.expected } := by
  have perm : wordsFirst.Perm Rule.defaults := by decide
  have operators : [.twoCharOperator, .oneCharOperator].Sublist wordsFirst := by decide
  have words : [.keyword, .identifier].Sublist wordsFirst := by decide
  refine ⟨perm, operators, words, ?_⟩
  rcases tokenizeWith_reordered perm operators words "a >= !" with
    ⟨ts, made, -⟩ | ⟨fault, fault', refused, refused', -, alike⟩
  · have refused : (tokenize "a >= !").isOk = false := by decide +kernel
    rw [made] at refused
    cases refused
  · exact ⟨fault, fault', refused, refused', alike⟩

end Token
end Scriptlet
