import Scriptlet.Proofs.Grammar.Everywhere
import Scriptlet.Proofs.Lexing.Spaced

/-
  Programs as source text.
  Operands are in parentheses only where the order of the levels and the grouping from the left
  ask for it; blocks are in braces, and a semicolon ends every statement. How a number is written
  is a parameter: any numeral that reads back as the number will do. Main statement: the tokens of
  a program that was read from a source are the tokens of its text (`tokenize_render`).
-/

namespace Scriptlet

/-! ## Numbers -/

/-- A way of writing numbers: a numeral for each that reads back as it. -/
structure Numerals where
  text : Single → List Char
  numeral : ∀ x, x.Unsigned → Decimal.IsNumeral (text x)
  reads : ∀ x, x.Unsigned → Binary.readChars? (text x) = some x

/-- A power of ten that is beyond every finite number. -/
def Numerals.beyond : List Char :=
  Decimal.positional 1 39

theorem Numerals.readChars?_beyond :
    Binary.readChars? Numerals.beyond = some (.infinite false : Single) := by
  decide +kernel

/-- The shortest numerals, as numbers are displayed; infinity is a power of ten. -/
def Numerals.shortest : Numerals where
  text
    | .finite _ units _ => Binary.magnitudeText .single units
    | _ => Numerals.beyond
  numeral x _ := by
    cases x with
    | nan => exact (Decimal.positional_numeral 1 39).1
    | infinite negative => exact (Decimal.positional_numeral 1 39).1
    | finite negative units fits => exact Binary.isNumeral_magnitudeText _ units
  reads x unsigned := by
    cases x with
    | nan => cases unsigned.1
    | infinite negative =>
      obtain rfl : negative = false := unsigned.2
      exact Numerals.readChars?_beyond
    | finite negative units fits =>
      obtain rfl : negative = false := unsigned.2
      rw [Binary.readChars?_eq_readUnsigned? (Binary.isNumeral_magnitudeText _ units)]
      exact Binary.readUnsigned?_magnitudeText fits false

/-! ## Tokens -/

/-- The token of a kind with a fixed text. -/
def TokenKind.fixed (kind : TokenKind) : Token :=
  ⟨kind, kind.spelling?.getD "", .zero⟩

/-- The token of a name. -/
def Token.name (name : String) : Token :=
  ⟨.identifier, name, .zero⟩

/-- The token of a literal. -/
def Literal.token (style : Numerals) : Literal → Token
  | .number x => ⟨.number, String.ofList (style.text x), .zero⟩
  | .string s => ⟨.string, Quoted.quote s, .zero⟩
  | .bool true => TokenKind.trueWord.fixed
  | .bool false => TokenKind.falseWord.fixed
  | .null => TokenKind.nullWord.fixed

/-- The place of a level in the order of precedence, loosest first. -/
def Level.rank : Level → Nat
  | .disjunction => 0
  | .conjunction => 1
  | .comparison => 2
  | .sum => 3
  | .product => 4

/-- The rank of an operation on one operand, above that of every level. -/
def unaryRank : Nat := 5

/-- The level of an operator. -/
def BinaryOp.level : BinaryOp → Level
  | .or => .disjunction
  | .and => .conjunction
  | .equal | .notEqual | .less | .lessEqual | .greater | .greaterEqual => .comparison
  | .add | .sub => .sum
  | .mul | .div | .mod => .product

/-- The kind of token an operator is written with. -/
def BinaryOp.kind : BinaryOp → TokenKind
  | .add => .plus
  | .sub => .minus
  | .mul => .times
  | .div => .divide
  | .mod => .modulo
  | .equal => .equalEqual
  | .notEqual => .notEqual
  | .less => .less
  | .lessEqual => .lessEqual
  | .greater => .greater
  | .greaterEqual => .greaterEqual
  | .and => .andWord
  | .or => .orWord

/-- The kind of token an operator before one operand is written with. -/
def UnaryOp.kind : UnaryOp → TokenKind
  | .negate => .minus
  | .not => .notWord

/-- How tightly the parts of an expression hold together. -/
def Expr.rank : Expr → Nat
  | .binary op _ _ _ => op.level.rank
  | .unary _ _ _ => unaryRank
  | _ => unaryRank + 1

/-- The tokens, in parentheses if they stand where only tighter expressions may. -/
def enclosed (loose : Bool) (ts : List Token) : List Token :=
  if loose then TokenKind.leftParen.fixed :: (ts ++ [TokenKind.rightParen.fixed]) else ts

/-- The tokens of a parameter list, without its parentheses. -/
def paramTokens : List String → List Token
  | [] => []
  | [param] => [.name param]
  | param :: next :: params =>
    .name param :: TokenKind.comma.fixed :: paramTokens (next :: params)

mutual

/-- The tokens of an expression. A left operand may be on the level of its operator, a right one
must be tighter. -/
def Expr.tokens (style : Numerals) : Expr → List Token
  | .literal value _ => [value.token style]
  | .variable name _ => [.name name]
  | .binary op left right _ =>
    enclosed (left.rank < op.level.rank) (left.tokens style) ++
      op.kind.fixed :: enclosed (right.rank < op.level.rank + 1) (right.tokens style)
  | .unary op operand _ =>
    op.kind.fixed :: enclosed (operand.rank < unaryRank) (operand.tokens style)
  | .call name args _ =>
    .name name :: TokenKind.leftParen.fixed ::
      (argTokens style args ++ [TokenKind.rightParen.fixed])
  | .function declaration _ => declaration.tokens style

/-- The tokens of the arguments, with commas between them. -/
def argTokens (style : Numerals) : List Expr → List Token
  | [] => []
  | [e] => e.tokens style
  | e :: next :: args => e.tokens style ++ TokenKind.comma.fixed :: argTokens style (next :: args)

/-- The tokens of a statement. -/
def Stmt.tokens (style : Numerals) : Stmt → List Token
  | .variable name value _ =>
    TokenKind.varWord.fixed :: .name name :: TokenKind.equals.fixed ::
      (value.tokens style ++ [TokenKind.semicolon.fixed])
  | .assign name value _ =>
    .name name :: TokenKind.equals.fixed :: (value.tokens style ++ [TokenKind.semicolon.fixed])
  | .branch test thenBody none _ =>
    TokenKind.ifWord.fixed :: TokenKind.leftParen.fixed ::
      (test.tokens style ++ TokenKind.rightParen.fixed :: TokenKind.leftBrace.fixed ::
        (bodyTokens style thenBody ++ [TokenKind.rightBrace.fixed, TokenKind.semicolon.fixed]))
  | .branch test thenBody (some elseBody) _ =>
    TokenKind.ifWord.fixed :: TokenKind.leftParen.fixed ::
      (test.tokens style ++ TokenKind.rightParen.fixed :: TokenKind.leftBrace.fixed ::
        (bodyTokens style thenBody ++ TokenKind.rightBrace.fixed :: TokenKind.elseWord.fixed ::
          TokenKind.leftBrace.fixed ::
            (bodyTokens style elseBody ++
              [TokenKind.rightBrace.fixed, TokenKind.semicolon.fixed])))
  | .loop test body _ =>
    TokenKind.whileWord.fixed :: TokenKind.leftParen.fixed ::
      (test.tokens style ++ TokenKind.rightParen.fixed :: TokenKind.leftBrace.fixed ::
        (bodyTokens style body ++ [TokenKind.rightBrace.fixed, TokenKind.semicolon.fixed]))
  | .result none _ => [TokenKind.returnWord.fixed, TokenKind.semicolon.fixed]
  | .result (some value) _ =>
    TokenKind.returnWord.fixed :: (value.tokens style ++ [TokenKind.semicolon.fixed])
  | .jump .breakLoop _ => [TokenKind.breakWord.fixed, TokenKind.semicolon.fixed]
  | .jump .continueLoop _ => [TokenKind.continueWord.fixed, TokenKind.semicolon.fixed]
  | .expr value _ => value.tokens style ++ [TokenKind.semicolon.fixed]

/-- The tokens of the statements, one after the other. -/
def bodyTokens (style : Numerals) : List Stmt → List Token
  | [] => []
  | s :: rest => s.tokens style ++ bodyTokens style rest

/-- The tokens of a function declaration. -/
def Declaration.tokens (style : Numerals) : Declaration → List Token
  | ⟨name, params, body, _, _⟩ =>
    .name name :: TokenKind.leftParen.fixed ::
      (paramTokens params ++ TokenKind.rightParen.fixed :: TokenKind.leftBrace.fixed ::
        (bodyTokens style body ++ [TokenKind.rightBrace.fixed]))

end

/-- The text of a program: its tokens with a blank after each. -/
def Program.render (style : Numerals) (p : Program) : String :=
  String.ofList (Token.spaced (bodyTokens style p.statements))

/-! ## Trees that can be written -/

/-- A literal that some token stands for. -/
def Literal.Writable : Literal → Prop
  | .number x => x.Unsigned
  | .string s => IsPlainText s.toList
  | _ => True

/-- An expression whose head can be written, and is read as it is. -/
def Expr.Writable : Expr → Prop
  | .literal value _ => value.Writable
  | .variable name _ => IsName name.toList
  | .binary op left right _ => Grammar.Comparable op left right
  | .unary _ _ _ => True
  | .call name _ _ => IsName name.toList
  | .function ⟨name, params, body, hasReturn, _⟩ _ =>
    IsName name.toList ∧ (∀ param ∈ params, IsName param.toList) ∧ hasReturn = anyReturns body

/-- A statement whose head can be written. -/
def Stmt.Writable : Stmt → Prop
  | .variable name _ _ => IsName name.toList
  | .assign name _ _ => IsName name.toList
  | _ => True

/-- What each node of a tree that can be written is like. -/
def writable : Condition :=
  ⟨Expr.Writable, Stmt.Writable⟩

theorem isName_of_namedBy {name : String} (h : NamedBy WellLexed name) : IsName name.toList := by
  obtain ⟨t, lexed, kind, rfl⟩ := h
  exact lexed.name kind

theorem literal_writable {t : Token} (lexed : WellLexed t) {value : Literal}
    (made : Grammar.literal? t = .ok value) : value.Writable := by
  unfold Grammar.literal? at made
  split at made
  next number =>
    split at made
    next x reads =>
      cases made
      obtain ⟨y, reads', unsigned⟩ := Binary.exists_unsigned_of_numeral (lexed.numeral number)
      obtain rfl : y = x := Option.some.inj (reads'.symm.trans reads)
      exact unsigned
    next => cases made
  next string =>
    cases made
    exact lexed.text string
  next =>
    cases made
    exact trivial
  next =>
    cases made
    exact trivial
  next =>
    cases made
    exact trivial
  next => cases made

/-- What is read from the tokens of a source can be written. -/
theorem implies_writable : (fromTokens WellLexed).Implies writable where
  expr
    | .literal _ _, ⟨_, lexed, made⟩ => literal_writable lexed made
    | .variable _ _, h => isName_of_namedBy h
    | .binary _ _ _ _, h => h
    | .unary _ _ _, _ => trivial
    | .call _ _ _, h => isName_of_namedBy h
    | .function ⟨_, _, _, _, _⟩ _, ⟨named, names, returns⟩ =>
      ⟨isName_of_namedBy named, fun param mem => isName_of_namedBy (names param mem), returns⟩
  stmt
    | .variable _ _ _, h => isName_of_namedBy h
    | .assign _ _ _, h => isName_of_namedBy h
    | .branch _ _ _ _, _ | .loop _ _ _, _ | .result _ _, _ | .jump _ _, _ | .expr _ _, _ => trivial

/-! ## Written tokens are read back -/

/-- A token that its text yields, with its span at the beginning. -/
def Written (t : Token) : Prop :=
  Lexable t ∧ t.unspanned = t

theorem written_fixed {kind : TokenKind} (fixed : kind.spelling? ≠ none) : Written kind.fixed := by
  obtain ⟨lexeme, spelled⟩ := Option.ne_none_iff_exists'.1 fixed
  refine ⟨Token.lexable_fixed ?_, rfl⟩
  rw [spelled]
  rfl

theorem written_name {name : String} (h : IsName name.toList) : Written (.name name) :=
  ⟨Token.lexable_name h, rfl⟩

theorem written_literal (style : Numerals) {value : Literal} (h : value.Writable) :
    Written (value.token style) := by
  cases value with
  | number x =>
    refine ⟨Token.lexable_numeral ?_, rfl⟩
    rw [String.toList_ofList]
    exact style.numeral x h
  | string s => exact ⟨Token.lexable_quoted h, rfl⟩
  | bool b => cases b <;> exact written_fixed (by decide)
  | null => exact written_fixed (by decide)

theorem BinaryOp.spelled (op : BinaryOp) : op.kind.spelling? ≠ none := by
  cases op <;> decide

theorem UnaryOp.spelled (op : UnaryOp) : op.kind.spelling? ≠ none := by
  cases op <;> decide

section

variable {ts more : List Token}

theorem allTokens_cons {sort : Token → Prop} {t : Token} :
    AllTokens sort (t :: ts) ↔ sort t ∧ AllTokens sort ts := by
  unfold AllTokens
  exact List.forall_mem_cons

theorem allTokens_append {sort : Token → Prop} :
    AllTokens sort (ts ++ more) ↔ AllTokens sort ts ∧ AllTokens sort more := by
  unfold AllTokens
  exact List.forall_mem_append

theorem allTokens_nil {sort : Token → Prop} : AllTokens sort [] := by
  intro t mem
  cases mem

theorem written_enclosed (loose : Bool) (h : AllTokens Written ts) :
    AllTokens Written (enclosed loose ts) := by
  unfold enclosed
  split
  · rw [allTokens_cons, allTokens_append, allTokens_cons]
    exact ⟨written_fixed (by decide), h, written_fixed (by decide), allTokens_nil⟩
  · exact h

theorem written_params : ∀ params : List String, (∀ param ∈ params, IsName param.toList) →
    AllTokens Written (paramTokens params)
  | [], _ => allTokens_nil
  | [param], names => by
    rw [paramTokens, allTokens_cons]
    exact ⟨written_name (names param List.mem_cons_self), allTokens_nil⟩
  | param :: next :: params, names => by
    rw [paramTokens, allTokens_cons, allTokens_cons]
    have others := written_params (next :: params) fun p mem => names p (List.mem_cons_of_mem _ mem)
    exact ⟨written_name (names param List.mem_cons_self), written_fixed (by decide), others⟩

end

mutual

theorem Expr.written (style : Numerals) :
    ∀ e : Expr, e.Everywhere writable → AllTokens Written (e.tokens style)
  | .literal value _, h => by
    rw [Expr.tokens, allTokens_cons]
    exact ⟨written_literal style h, allTokens_nil⟩
  | .variable name _, h => by
    rw [Expr.tokens, allTokens_cons]
    exact ⟨written_name h, allTokens_nil⟩
  | .binary op left right _, h => by
    rw [Expr.tokens, allTokens_append, allTokens_cons]
    exact ⟨written_enclosed _ (left.written style h.2.1), written_fixed op.spelled,
      written_enclosed _ (right.written style h.2.2)⟩
  | .unary op operand _, h => by
    rw [Expr.tokens, allTokens_cons]
    exact ⟨written_fixed op.spelled, written_enclosed _ (operand.written style h.2)⟩
  | .call name args _, h => by
    rw [Expr.tokens, allTokens_cons, allTokens_cons, allTokens_append, allTokens_cons]
    exact ⟨written_name h.1, written_fixed (by decide), written_args style args h.2,
      written_fixed (by decide), allTokens_nil⟩
  | .function ⟨name, params, body, _, _⟩ _, h => by
    rw [Expr.tokens, Declaration.tokens, allTokens_cons, allTokens_cons, allTokens_append,
      allTokens_cons, allTokens_cons, allTokens_append, allTokens_cons]
    exact ⟨written_name h.1.1, written_fixed (by decide), written_params params h.1.2.1,
      written_fixed (by decide), written_fixed (by decide), written_body style body h.2,
      written_fixed (by decide), allTokens_nil⟩

theorem written_args (style : Numerals) :
    ∀ args : List Expr, argsEverywhere writable args → AllTokens Written (argTokens style args)
  | [], _ => allTokens_nil
  | [e], h => e.written style h.1
  | e :: next :: args, h => by
    rw [argTokens, allTokens_append, allTokens_cons]
    exact ⟨e.written style h.1, written_fixed (by decide), written_args style (next :: args) h.2⟩

theorem Stmt.written (style : Numerals) :
    ∀ s : Stmt, s.Everywhere writable → AllTokens Written (s.tokens style)
  | .variable name value _, h => by
    simp only [Stmt.tokens, allTokens_cons, allTokens_append]
    exact ⟨written_fixed (by decide), written_name h.1, written_fixed (by decide),
      value.written style h.2, written_fixed (by decide), allTokens_nil⟩
  | .assign name value _, h => by
    simp only [Stmt.tokens, allTokens_cons, allTokens_append]
    exact ⟨written_name h.1, written_fixed (by decide), value.written style h.2,
      written_fixed (by decide), allTokens_nil⟩
  | .branch test thenBody none _, h => by
    simp only [Stmt.tokens, allTokens_cons, allTokens_append]
    exact ⟨written_fixed (by decide), written_fixed (by decide), test.written style h.2.1,
      written_fixed (by decide), written_fixed (by decide), written_body style thenBody h.2.2,
      written_fixed (by decide), written_fixed (by decide), allTokens_nil⟩
  | .branch test thenBody (some elseBody) _, h => by
    simp only [Stmt.tokens, allTokens_cons, allTokens_append]
    exact ⟨written_fixed (by decide), written_fixed (by decide), test.written style h.2.1,
      written_fixed (by decide), written_fixed (by decide), written_body style thenBody h.2.2.1,
      written_fixed (by decide), written_fixed (by decide), written_fixed (by decide),
      written_body style elseBody h.2.2.2, written_fixed (by decide), written_fixed (by decide),
      allTokens_nil⟩
  | .loop test body _, h => by
    simp only [Stmt.tokens, allTokens_cons, allTokens_append]
    exact ⟨written_fixed (by decide), written_fixed (by decide), test.written style h.2.1,
      written_fixed (by decide), written_fixed (by decide), written_body style body h.2.2,
      written_fixed (by decide), written_fixed (by decide), allTokens_nil⟩
  | .result none _, _ => by
    simp only [Stmt.tokens, allTokens_cons]
    exact ⟨written_fixed (by decide), written_fixed (by decide), allTokens_nil⟩
  | .result (some value) _, h => by
    simp only [Stmt.tokens, allTokens_cons, allTokens_append]
    exact ⟨written_fixed (by decide), value.written style h.2, written_fixed (by decide),
      allTokens_nil⟩
  | .jump .breakLoop _, _ => by
    simp only [Stmt.tokens, allTokens_cons]
    exact ⟨written_fixed (by decide), written_fixed (by decide), allTokens_nil⟩
  | .jump .continueLoop _, _ => by
    simp only [Stmt.tokens, allTokens_cons]
    exact ⟨written_fixed (by decide), written_fixed (by decide), allTokens_nil⟩
  | .expr value _, h => by
    simp only [Stmt.tokens, allTokens_cons, allTokens_append]
    exact ⟨value.written style h.2, written_fixed (by decide), allTokens_nil⟩

/-- The tokens of statements that can be written are those of their text. -/
theorem written_body (style : Numerals) :
    ∀ body : List Stmt, bodyEverywhere writable body → AllTokens Written (bodyTokens style body)
  | [], _ => allTokens_nil
  | s :: rest, h => by
    rw [bodyTokens, allTokens_append]
    exact ⟨s.written style h.1, written_body style rest h.2⟩

end

/-- The tokens of a program's text are those it is written with, and that of the end. -/
theorem tokenize_render (style : Numerals) {p : Program}
    (h : bodyEverywhere writable p.statements) :
    ∃ out, Token.tokenize (p.render style) = .ok out ∧
      out.map Token.unspanned = bodyTokens style p.statements ++ [.atEnd 0] := by
  have all := written_body style p.statements h
  obtain ⟨out, made, same⟩ := Token.tokenize_spaced fun t mem => (all t mem).1
  have bare : (bodyTokens style p.statements).map Token.unspanned = bodyTokens style p.statements :=
    (List.map_congr_left fun t mem => (all t mem).2).trans (List.map_id _)
  rw [bare] at same
  exact ⟨out, made, same⟩

end Scriptlet
