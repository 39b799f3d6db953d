import Scriptlet.Proofs.Evaluation.WrittenCall
import Scriptlet.Proofs.Grammar.Faults
import Scriptlet.Proofs.Lexing.Numerals

/-
  Number tokens are the numbers.
  A numeral is one token of its source (`tokenize_numeral`) and a program that comes to the number
  it reads as (`execute_numeral`); conversely every number token is a numeral. Main statement:
  `Program.number_tokens_read`.
-/

namespace Scriptlet

open Decimal (IsNumeral)

variable {text source : String}

/-- The token that a numeral is. -/
def Token.ofNumeral (text : String) : Token :=
  ⟨.number, text, ⟨0, Text.byteLength text.toList⟩⟩

/-- A numeral is one token. -/
theorem Token.tokenize_numeral (numeral : IsNumeral text.toList) :
    tokenize text = .ok [ofNumeral text, .atEnd (Text.byteLength text.toList)] := by
  have heads : Heads ⟨.number, text, .zero⟩ [] := heads_numeral numeral nofun
  have listed := list_of_heads_next heads 0 (list_of_blank _ rfl)
  rw [List.append_nil, Nat.zero_add] at listed
  exact listed

/-- As a program a numeral comes to the number that it reads as. -/
theorem Value.execute_numeral {x : Single} (numeral : IsNumeral text.toList)
    (reads : Binary.read? text = some x) (fuel : Nat) (scope : ScopeId) (s : State) :
    Interpreter.execute fuel scope text s = .value (.number x) s := by
  have tokens : Token.tokenize text = .ok ([.ofNumeral text] ++ [.atEnd _]) :=
    Token.tokenize_numeral numeral
  have denotes := denotes_literal (literal?_number reads (Token.ofNumeral text).span)
  have program := Program.parse_of_readsUnary tokens denotes.opens denotes.reads
  unfold Interpreter.execute runSource
  rw [Program.ofSource_ok_iff.2 program]
  exact (runProgram_expr _ _ _ _ _).trans (denotes.value _ _ _)

/-! ## Messages -/

theorem Diagnostic.message_locatedIn (d : Diagnostic) (source : String) :
    (d.locatedIn source).message = d.message := by
  unfold locatedIn
  split <;> rfl

/-- The text begins with the character. -/
def Text.Begins (c : Char) (text : String) : Prop :=
  text.toList.head? = some c

instance (c : Char) (text : String) : Decidable (Text.Begins c text) :=
  inferInstanceAs (Decidable (_ = _))

theorem Text.Begins.append {c : Char} (h : Begins c text) (more : String) :
    Begins c (text ++ more) := by
  unfold Begins
  rw [String.toList_append, List.head?_append, h]
  rfl

/-- The first character of a message tells it from that for an invalid number. -/
theorem Wanted.not_numeral_prefix {c : Char} (ne : c ≠ 'i') (begins : Text.Begins c text) :
    ¬ Wanted.numeral.message.toList <+: text.toList := by
  rintro ⟨rest, eq⟩
  have first : text.toList.head? = some 'i' := by
    rw [← eq]
    rfl
  exact ne (Option.some.inj (begins.symm.trans first))

theorem LexFault.message_begins (fault : LexFault) : Text.Begins 'u' fault.message := by
  cases fault with
  | unexpectedCharacter c span labels =>
    have fixed : Text.Begins 'u' "unexpected character `" := by decide
    exact (fixed.append _).append _
  | unsupportedEscape span =>
    show Text.Begins 'u' "unsupported escape sequence in string literal"
    decide
  | unterminatedString span =>
    show Text.Begins 'u' "unterminated string literal"
    decide

theorem Wanted.message_begins {wanted : Wanted} (ne : wanted ≠ .numeral) :
    ∃ c, c ≠ 'i' ∧ Text.Begins c wanted.message := by
  cases wanted with
  | numeral => exact absurd rfl ne
  | operand => exact ⟨'u', by decide, by decide⟩
  | _ => exact ⟨'e', by decide, by decide⟩

theorem ParseFault.message_begins {fault : ParseFault}
    (other : ∀ t, fault ≠ .unexpected .numeral t) :
    ∃ c, c ≠ 'i' ∧ Text.Begins c fault.message := by
  cases fault with
  | unexpected wanted found =>
    have ne : wanted ≠ .numeral := by
      rintro rfl
      exact other found rfl
    obtain ⟨c, differs, begins⟩ := Wanted.message_begins ne
    exact ⟨c, differs, (begins.append _).append _⟩
  | typeMismatch op left right span =>
    have fixed : Text.Begins 'T' "Type mismatch: cannot compare " := by decide
    have whole := (((((fixed.append left.label).append " with ").append right.label).append
      " using `").append op.symbol).append "`"
    exact ⟨'T', by decide, whole⟩
  | exhausted => exact ⟨'n', by decide, by decide⟩

namespace Program

/-- No diagnostic of a source is that for an invalid number. -/
theorem not_numeral_message_of_ofSource {d : Diagnostic} (h : ofSource source = .error d) :
    ¬ Wanted.numeral.message.toList <+: d.message.toList := by
  unfold ofSource at h
  cases refused : parse source with
  | ok p =>
    rw [refused] at h
    cases h
  | error fault =>
    rw [refused] at h
    cases h
    cases fault with
    | lexical fault =>
      show ¬ _ <+: (fault.diagnostic.locatedIn source).message.toList
      rw [Diagnostic.message_locatedIn]
      exact Wanted.not_numeral_prefix (by decide) fault.message_begins
    | grammatical fault =>
      have other : ∀ t, fault ≠ .unexpected .numeral t := by
        rintro t rfl
        exact parse_ne_numeral source t refused
      obtain ⟨c, differs, begins⟩ := ParseFault.message_begins other
      show ¬ _ <+: (fault.diagnostic.locatedIn source).message.toList
      rw [Diagnostic.message_locatedIn]
      exact Wanted.not_numeral_prefix differs begins

/-- Number tokens are the numbers. By whatever rules the tokens of a source are made, each number
token is a numeral that the next character of the source does not extend, and it reads as a number
that is neither negative nor not a number; so no source is refused for an invalid number. Conversely
every numeral is one number token, and as a program it comes to the number that it reads as. -/
theorem number_tokens_read :
    (∀ (rules : List Rule) (source : String) (ts : List Token),
      Token.tokenizeWith rules source = .ok ts →
        ∀ t ∈ ts, t.kind = .number → t.NumberIn source) ∧
    (∀ (source : String) (d : Diagnostic), ofSource source = .error d →
      ¬ Wanted.numeral.message.toList <+: d.message.toList) ∧
    ∀ text : String, IsNumeral text.toList →
      Token.tokenize text = .ok [.ofNumeral text, .atEnd (Text.byteLength text.toList)] ∧
      ∃ x : Single, Binary.read? text = some x ∧ x.Unsigned ∧
        ∀ fuel scope s, Interpreter.execute fuel scope text s = .value (.number x) s := by
  refine ⟨fun _ _ _ => Token.numberIn_of_tokenizeWith,
    fun _ _ => not_numeral_message_of_ofSource, fun text numeral => ?_⟩
  obtain ⟨x, reads, unsigned⟩ := Binary.exists_unsigned_of_numeral (f := .single) numeral
  exact ⟨Token.tokenize_numeral numeral, x, reads, unsigned, Value.execute_numeral numeral reads⟩

/-- A second point begins another number, an open parenthesis is what is wrong before a point that
ends a number, and digits may be missing on either side of a point. -/
theorem number_tokens_read_points :
    Token.NumberIn "1.2.3" ⟨.number, ".3", ⟨3, 5⟩⟩ ∧
    (∃ d, ofSource "(5." = .error d ∧ ¬ Wanted.numeral.message.toList <+: d.message.toList) ∧
    ∃ x : Single, Binary.read? ".5" = some x ∧ x.Unsigned ∧
      Interpreter.execute 0 State.root ".5" (.initial {}) = .value (.number x) (.initial {}) := by
  obtain ⟨placed, reported, executed⟩ := number_tokens_read
  have tokens : Token.tokenizeWith Rule.defaults "1.2.3" =
      .ok [⟨.number, "1.2", ⟨0, 3⟩⟩, ⟨.number, ".3", ⟨3, 5⟩⟩, .atEnd 5] :=
    Token.ok_of_toOption (by decide +kernel)
  have refused : ofSource "(5." = .error
      { kind := .parser, message := "expected `)` after expression, found end of input",
        span := some ⟨3, 3⟩, position := some ⟨1, 4⟩, expected := ["`)`"] } :=
    eq_error_of_fault (by decide +kernel)
  have numeral : IsNumeral ".5".toList :=
    @IsNumeral.pointed [] ['5'] nofun (List.forall_mem_singleton.2 rfl) nofun
  obtain ⟨-, x, reads, unsigned, run⟩ := executed ".5" numeral
  have second := placed _ _ _ tokens _ (List.mem_cons_of_mem _ List.mem_cons_self) rfl
  exact ⟨second, ⟨_, refused, reported _ _ refused⟩, x, reads, unsigned, run _ _ _⟩

end Program

end Scriptlet
