import Scriptlet.Proofs.Grammar.Located

/-
  Faults that there are reasons for.
  Whatever the tokens are, no phrase ends for want of fuel, and what is refused as a number is a
  number token that does not read as one (`readAll_warranted`). The lexer yields no such token, so
  no source is refused for an invalid number (`Program.parse_ne_numeral`).
-/

namespace Scriptlet

/-- The fault is not the want of fuel, and what it refuses as a number is a number token that does
not read as one. -/
def ParseFault.Warranted : ParseFault → Prop
  | .unexpected wanted found => wanted = .numeral →
    found.kind = .number ∧ (Binary.read? found.lexeme : Option Single) = none
  | .typeMismatch _ _ _ _ => True
  | .exhausted => False

namespace Grammar

variable {α β : Type} {read : Readers} {level : Level} {ts : List Token} {start name : Token}

/-- If there is a fault, it is warranted. -/
def Warranted (o : Except ParseFault α) : Prop :=
  ∀ fault, o = .error fault → fault.Warranted

/-! ## Single tokens -/

theorem Warranted.ok (a : α) : Warranted (.ok a) :=
  nofun

theorem Warranted.error {fault : ParseFault} (h : fault.Warranted) :
    Warranted (.error fault : Except ParseFault α) := by
  intro other same
  cases same
  exact h

theorem Warranted.bind {m : Except ParseFault α} {f : α → Except ParseFault β}
    (first : Warranted m) (then_ : ∀ a, Warranted (f a)) : Warranted (m >>= f) := by
  cases m with
  | error fault => exact .error (first fault rfl)
  | ok a => exact then_ a

theorem expect_warranted (kind : TokenKind) {wanted : Wanted} (other : wanted ≠ .numeral)
    (ts : List Token) : Warranted (expect kind wanted ts) := by
  unfold expect
  split
  next => exact .ok _
  next => exact .error fun same => absurd same other

theorem combine_warranted (op : BinaryOp) (left right : Expr) :
    Warranted (combine op left right) := by
  unfold combine
  dsimp only
  split
  next => exact .error trivial
  next => exact .ok _

theorem literal?_warranted (token : Token) : Warranted (literal? token) := by
  unfold literal?
  split
  next number =>
    split
    next => exact .ok _
    next unread => exact .error fun _ => ⟨number, unread⟩
  next => exact .ok _
  next => exact .ok _
  next => exact .ok _
  next => exact .ok _
  next => exact .error nofun

/-! ## Productions -/

section

variable (h : ∀ phrase ts, Warranted (read phrase ts))
include h

theorem operand_warranted (level : Level) (ts : List Token) :
    Warranted (operand read level ts) := by
  cases level with
  | product => exact h .unary ts
  | _ => exact h (.operation _) ts

theorem chain_warranted (left : Expr) (ts : List Token) : Warranted (chain read level left ts) := by
  unfold chain
  split
  next => exact .ok _
  next op mark =>
    refine .bind (operand_warranted h level _) fun (right, _) => ?_
    exact .bind (combine_warranted op left right) fun _ => h _ _

theorem braces_warranted (ts : List Token) : Warranted (braces read ts) :=
  .bind (h .body _) fun _ => .bind (expect_warranted _ (by decide) _) fun _ => .ok _

theorem call_warranted (ts : List Token) : Warranted (call read name ts) := by
  have listed : Warranted (callArguments read ts) := by
    unfold callArguments
    split
    next => exact .ok _
    next => exact h .arguments ts
  exact .bind listed fun _ => .bind (expect_warranted _ (by decide) _) fun _ => .ok _

theorem named_warranted (ts : List Token) : Warranted (named read name ts) := by
  unfold named
  split
  next => exact .bind (braces_warranted h _) fun _ => .ok _
  next =>
    split
    next => exact call_warranted h _
    next => exact .ok _

theorem primary_warranted (ts : List Token) : Warranted (primary read ts) := by
  unfold primary
  dsimp only
  split
  next =>
    refine .bind (h .expression _) fun _ => ?_
    exact .bind (expect_warranted _ (by decide) _) fun _ => .ok _
  next => exact named_warranted h _
  next => exact .bind (literal?_warranted _) fun _ => .ok _

theorem unary_warranted (ts : List Token) : Warranted (unary read ts) := by
  unfold unary
  split
  next => exact .bind (h .unary _) fun _ => .ok _
  next => exact primary_warranted h ts

theorem arguments_warranted (ts : List Token) : Warranted (arguments read ts) := by
  refine .bind (h .expression ts) fun (e, ts) => ?_
  dsimp only
  split
  next => exact .bind (h .arguments _) fun _ => .ok _
  next => exact .ok _

theorem condition_warranted {wanted : Wanted} (other : wanted ≠ .numeral) (ts : List Token) :
    Warranted (condition read wanted ts) := by
  refine .bind (expect_warranted _ other ts) fun _ => .bind (h .expression _) fun _ => ?_
  exact .bind (expect_warranted _ (by decide) _) fun _ => .ok _

theorem newVariable_warranted (ts : List Token) : Warranted (newVariable read start ts) := by
  refine .bind (expect_warranted _ (by decide) ts) fun _ => ?_
  refine .bind (expect_warranted _ (by decide) _) fun _ => ?_
  exact .bind (h .expression _) fun _ => .ok _

theorem branch_warranted (ts : List Token) : Warranted (branch read start ts) := by
  refine .bind (condition_warranted h (by decide) ts) fun _ => .bind (h .block _) fun (_, ts) => ?_
  dsimp only
  split
  next => exact .bind (h .block _) fun _ => .ok _
  next => exact .ok _

theorem loop_warranted (ts : List Token) : Warranted (loop read start ts) :=
  .bind (condition_warranted h (by decide) ts) fun _ => .bind (h .block _) fun _ => .ok _

theorem result_warranted (ts : List Token) : Warranted (result read start ts) := by
  unfold result
  split
  next => exact .ok _
  next => exact .bind (h .expression ts) fun _ => .ok _

theorem bareStatement_warranted (ts : List Token) : Warranted (bareStatement read ts) := by
  obtain ⟨-, eq⟩ | ⟨-, eq⟩ | ⟨-, eq⟩ | ⟨-, eq⟩ | ⟨-, eq⟩ | ⟨-, eq⟩ | ⟨-, -, eq⟩ | ⟨-, eq⟩ :=
    bareStatement_forms ts <;> rw [eq]
  · exact newVariable_warranted h _
  · exact branch_warranted h _
  · exact loop_warranted h _
  · exact result_warranted h _
  · exact .ok _
  · exact .ok _
  · exact .bind (h .expression _) fun _ => .ok _
  · exact .bind (h .expression ts) fun _ => .ok _

theorem block_warranted (ts : List Token) : Warranted (block read ts) := by
  unfold block
  split
  next => exact braces_warranted h ts
  next => exact .bind (h .statement ts) fun _ => .ok _

theorem body_warranted (ts : List Token) : Warranted (Grammar.body read ts) := by
  unfold Grammar.body
  split
  next => exact .ok _
  next => exact .bind (h .statement ts) fun _ => .bind (h .body _) fun _ => .ok _

theorem program_warranted (ts : List Token) : Warranted (program read ts) := by
  unfold program
  split
  next => exact .ok _
  next => exact .bind (h .statement ts) fun _ => .bind (h .program _) fun _ => .ok _

theorem produce_warranted (phrase : Phrase) (ts : List Token) :
    Warranted (produce read phrase ts) := by
  cases phrase with
  | program => exact program_warranted h ts
  | body => exact body_warranted h ts
  | block => exact block_warranted h ts
  | statement => exact .bind (bareStatement_warranted h ts) fun _ => .ok _
  | operation level => exact .bind (operand_warranted h level ts) fun _ => h _ _
  | chain level left => exact chain_warranted h left ts
  | unary => exact unary_warranted h ts
  | arguments => exact arguments_warranted h ts

end

/-- Every phrase is read to its end or to a warranted fault. -/
theorem readAll_warranted (phrase : Phrase) (ts : List Token) :
    Warranted (readAll phrase ts) := by
  refine readAll_induction (P := fun _ _ r => Warranted r)
    (fun ts => .unexpected .operand (next ts)) (fun _ _ => .error nofun) ?_ phrase ts
  exact fun _ _ inside => produce_warranted inside

end Grammar

/-! ## Sources -/

namespace Program

/-- No source is refused for an invalid number: each of its number tokens reads as one. -/
theorem parse_ne_numeral (source : String) (t : Token) :
    parse source ≠ .error (.grammatical (.unexpected .numeral t)) := by
  intro refused
  obtain ⟨lexical, -, same⟩ | ⟨ts, fault, tokens, unread, same⟩ := parse_error_cases refused
  · cases same
  · cases same
    have whole : Grammar.Remains ts ts :=
      ⟨List.suffix_refl ts, (Token.covers_of_list tokens).ne_nil⟩
    have located := Grammar.readAll_accounted (Token.closed_of_tokenize tokens) .program ts .start
      whole
    rw [unread] at located
    obtain ⟨number, none⟩ := Grammar.readAll_warranted .program ts _ unread rfl
    have numeral := (Token.wellLexed_of_tokenize tokens t located).numeral number
    obtain ⟨x, reads, -⟩ := Binary.exists_unsigned_of_numeral (f := .single) numeral
    exact Option.some_ne_none x (reads.symm.trans none)

end Program

end Scriptlet
