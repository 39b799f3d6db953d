import Scriptlet.Proofs.Grammar.Everywhere

/-
  The nodes of a program.
  The expressions and statements of a tree are listed, bodies of declared functions included. A
  condition holds everywhere in a tree exactly if it holds at each node of the list
  (`bodyEverywhere_iff`), and what holds everywhere also holds everywhere inside each node
  (`bodyEverywhere_inside`).
-/

namespace Scriptlet

/-- A node of a tree. -/
inductive Node where
  | expr (e : Expr)
  | stmt (s : Stmt)

/-- Where a node stands. -/
def Node.span : Node → Span
  | .expr e => e.span
  | .stmt s => s.span

/-- The condition holds of a node. -/
def Condition.At (c : Condition) : Node → Prop
  | .expr e => c.expr e
  | .stmt s => c.stmt s

mutual

/-- The nodes of an expression. -/
def Expr.nodes : Expr → List Node
  | .literal value span => [.expr (.literal value span)]
  | .variable name span => [.expr (.variable name span)]
  | .binary op left right span => .expr (.binary op left right span) :: (left.nodes ++ right.nodes)
  | .unary op operand span => .expr (.unary op operand span) :: operand.nodes
  | .call name args span => .expr (.call name args span) :: argNodes args
  | .function declaration span => .expr (.function declaration span) :: declaration.nodes

/-- The nodes of arguments. -/
def argNodes : List Expr → List Node
  | [] => []
  | e :: rest => e.nodes ++ argNodes rest

/-- The nodes of a statement. -/
def Stmt.nodes : Stmt → List Node
  | .variable name value span => .stmt (.variable name value span) :: value.nodes
  | .assign name value span => .stmt (.assign name value span) :: value.nodes
  | .branch test thenBody none span =>
    .stmt (.branch test thenBody none span) :: (test.nodes ++ bodyNodes thenBody)
  | .branch test thenBody (some elseBody) span =>
    .stmt (.branch test thenBody (some elseBody) span) ::
      (test.nodes ++ (bodyNodes thenBody ++ bodyNodes elseBody))
  | .loop test body span => .stmt (.loop test body span) :: (test.nodes ++ bodyNodes body)
  | .result none span => [.stmt (.result none span)]
  | .result (some value) span => .stmt (.result (some value) span) :: value.nodes
  | .jump jump span => [.stmt (.jump jump span)]
  | .expr value span => .stmt (.expr value span) :: value.nodes

/-- The nodes of statements. -/
def bodyNodes : List Stmt → List Node
  | [] => []
  | s :: rest => s.nodes ++ bodyNodes rest

/-- The nodes of the body of a declared function. -/
def Declaration.nodes : Declaration → List Node
  | ⟨_, _, body, _, _⟩ => bodyNodes body

end

variable {c : Condition}

/-! ## Everywhere and at each node -/

mutual

theorem Expr.everywhere_iff : ∀ e : Expr, e.Everywhere c ↔ ∀ n ∈ e.nodes, c.At n
  | .literal _ _ => by
    rw [Expr.nodes, List.forall_mem_singleton]
    exact Iff.rfl
  | .variable _ _ => by
    rw [Expr.nodes, List.forall_mem_singleton]
    exact Iff.rfl
  | .binary _ left right _ => by
    rw [Expr.nodes, List.forall_mem_cons, List.forall_mem_append]
    exact and_congr_right' (and_congr left.everywhere_iff right.everywhere_iff)
  | .unary _ operand _ => by
    rw [Expr.nodes, List.forall_mem_cons]
    exact and_congr_right' operand.everywhere_iff
  | .call _ args _ => by
    rw [Expr.nodes, List.forall_mem_cons]
    exact and_congr_right' (argsEverywhere_iff args)
  | .function declaration _ => by
    rw [Expr.nodes, List.forall_mem_cons]
    exact and_congr_right' declaration.everywhere_iff

theorem argsEverywhere_iff : ∀ args : List Expr,
    argsEverywhere c args ↔ ∀ n ∈ argNodes args, c.At n
  | [] => iff_of_true trivial fun _ member => nomatch member
  | e :: rest => by
    rw [argNodes, List.forall_mem_append]
    exact and_congr e.everywhere_iff (argsEverywhere_iff rest)

theorem Stmt.everywhere_iff : ∀ s : Stmt, s.Everywhere c ↔ ∀ n ∈ s.nodes, c.At n
  | .variable _ value _ => by
    rw [Stmt.nodes, List.forall_mem_cons]
    exact and_congr_right' value.everywhere_iff
  | .assign _ value _ => by
    rw [Stmt.nodes, List.forall_mem_cons]
    exact and_congr_right' value.everywhere_iff
  | .branch test thenBody none _ => by
    rw [Stmt.nodes, List.forall_mem_cons, List.forall_mem_append]
    exact and_congr_right' (and_congr test.everywhere_iff (bodyEverywhere_iff thenBody))
  | .branch test thenBody (some elseBody) _ => by
    rw [Stmt.nodes, List.forall_mem_cons, List.forall_mem_append, List.forall_mem_append]
    exact and_congr_right' (and_congr test.everywhere_iff
      (and_congr (bodyEverywhere_iff thenBody) (bodyEverywhere_iff elseBody)))
  | .loop test body _ => by
    rw [Stmt.nodes, List.forall_mem_cons, List.forall_mem_append]
    exact and_congr_right' (and_congr test.everywhere_iff (bodyEverywhere_iff body))
  | .result none _ => by
    rw [Stmt.nodes, List.forall_mem_singleton]
    exact Iff.rfl
  | .result (some value) _ => by
    rw [Stmt.nodes, List.forall_mem_cons]
    exact and_congr_right' value.everywhere_iff
  | .jump _ _ => by
    rw [Stmt.nodes, List.forall_mem_singleton]
    exact Iff.rfl
  | .expr value _ => by
    rw [Stmt.nodes, List.forall_mem_cons]
    exact and_congr_right' value.everywhere_iff

/-- A condition holds everywhere in a body exactly if it holds at each node. -/
theorem bodyEverywhere_iff : ∀ body : List Stmt,
    bodyEverywhere c body ↔ ∀ n ∈ bodyNodes body, c.At n
  | [] => iff_of_true trivial fun _ member => nomatch member
  | s :: rest => by
    rw [bodyNodes, List.forall_mem_append]
    exact and_congr s.everywhere_iff (bodyEverywhere_iff rest)

theorem Declaration.everywhere_iff : ∀ d : Declaration, d.Everywhere c ↔ ∀ n ∈ d.nodes, c.At n
  | ⟨_, _, body, _, _⟩ => bodyEverywhere_iff body

end

/-! ## Inside each node -/

/-- The condition holds everywhere in the tree that a node begins. -/
def Condition.inside (c : Condition) : Condition :=
  ⟨fun e => e.Everywhere c, fun s => s.Everywhere c⟩

mutual

theorem Expr.everywhere_inside : ∀ e : Expr, e.Everywhere c → e.Everywhere c.inside
  | .literal _ _, h => h
  | .variable _ _, h => h
  | .binary _ left right _, h =>
    ⟨h, left.everywhere_inside h.2.1, right.everywhere_inside h.2.2⟩
  | .unary _ operand _, h => ⟨h, operand.everywhere_inside h.2⟩
  | .call _ args _, h => ⟨h, argsEverywhere_inside args h.2⟩
  | .function declaration _, h => ⟨h, declaration.everywhere_inside h.2⟩

theorem argsEverywhere_inside : ∀ args : List Expr,
    argsEverywhere c args → argsEverywhere c.inside args
  | [], _ => trivial
  | e :: rest, h => ⟨e.everywhere_inside h.1, argsEverywhere_inside rest h.2⟩

theorem Stmt.everywhere_inside : ∀ s : Stmt, s.Everywhere c → s.Everywhere c.inside
  | .variable _ value _, h => ⟨h, value.everywhere_inside h.2⟩
  | .assign _ value _, h => ⟨h, value.everywhere_inside h.2⟩
  | .branch test thenBody none _, h =>
    ⟨h, test.everywhere_inside h.2.1, bodyEverywhere_inside thenBody h.2.2⟩
  | .branch test thenBody (some elseBody) _, h =>
    ⟨h, test.everywhere_inside h.2.1, bodyEverywhere_inside thenBody h.2.2.1,
      bodyEverywhere_inside elseBody h.2.2.2⟩
  | .loop test body _, h => ⟨h, test.everywhere_inside h.2.1, bodyEverywhere_inside body h.2.2⟩
  | .result none _, h => h
  | .result (some value) _, h => ⟨h, value.everywhere_inside h.2⟩
  | .jump _ _, h => h
  | .expr value _, h => ⟨h, value.everywhere_inside h.2⟩

/-- What holds everywhere in a body holds everywhere inside each of its nodes. -/
theorem bodyEverywhere_inside : ∀ body : List Stmt,
    bodyEverywhere c body → bodyEverywhere c.inside body
  | [], _ => trivial
  | s :: rest, h => ⟨s.everywhere_inside h.1, bodyEverywhere_inside rest h.2⟩

theorem Declaration.everywhere_inside : ∀ d : Declaration,
    d.Everywhere c → d.Everywhere c.inside
  | ⟨_, _, body, _, _⟩, h => bodyEverywhere_inside body h

end

end Scriptlet
