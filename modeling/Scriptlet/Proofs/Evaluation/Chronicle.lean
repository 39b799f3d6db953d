import Scriptlet.Proofs.Evaluation.Parts

/-
  The order of a run.
  Parts of parts come to an end, since tasks use fuel up and everything else is smaller than what it
  is a part of (`leads_wellFounded`). So what happens at single moments is listed for a whole run in
  the order in which it happens (`Moment.chronicle`).
-/

namespace Scriptlet

/-- The second moment is a part of the first one. -/
def PartOf (part whole : Moment) : Prop :=
  Leads whole part

/-! ## Parts of parts come to an end -/

/-- There is no endless descent into the parts of tasks with the given fuel. -/
def TasksEnd (fuel : Nat) : Prop :=
  ∀ (task : Task) (s : State) (calls : Nat), Acc PartOf ⟨fuel, .task task, s, calls⟩

mutual

theorem Expr.acc_partOf {fuel : Nat} (tasks : TasksEnd fuel) : ∀ (e : Expr) (scope : ScopeId)
    (s : State) (calls : Nat), Acc PartOf ⟨fuel, .expr scope e, s, calls⟩
  | .literal _ _, _, _, _ => ⟨_, fun _ leads => nomatch leads⟩
  | .variable _ _, _, _, _ => ⟨_, fun _ leads => nomatch leads⟩
  | .function _ _, _, _, _ => ⟨_, fun _ leads => nomatch leads⟩
  | .binary _ l r _, _, _, _ => ⟨_, fun
    | _, .left => l.acc_partOf tasks _ _ _
    | _, .right _ _ => r.acc_partOf tasks _ _ _⟩
  | .unary _ e _, _, _, _ => ⟨_, fun
    | _, .operand => e.acc_partOf tasks _ _ _⟩
  | .call _ es _, _, _, _ => ⟨_, fun
    | _, .arguments => argsAcc_partOf tasks es _ _ _
    | _, .dispatch _ => tasks _ _ _⟩

theorem argsAcc_partOf {fuel : Nat} (tasks : TasksEnd fuel) : ∀ (es : List Expr)
    (scope : ScopeId) (s : State) (calls : Nat), Acc PartOf ⟨fuel, .args scope es, s, calls⟩
  | [], _, _, _ => ⟨_, fun _ leads => nomatch leads⟩
  | e :: es, _, _, _ => ⟨_, fun
    | _, .head => e.acc_partOf tasks _ _ _
    | _, .tail _ => argsAcc_partOf tasks es _ _ _⟩

end

mutual

theorem Stmt.acc_partOf {fuel : Nat} (tasks : TasksEnd fuel) : ∀ (st : Stmt) (scope : ScopeId)
    (s : State) (calls : Nat), Acc PartOf ⟨fuel, .stmt scope st, s, calls⟩
  | .variable _ e _, _, _, _ => ⟨_, fun
    | _, .newValue => e.acc_partOf tasks _ _ _⟩
  | .assign _ e _, _, _, _ => ⟨_, fun
    | _, .assigned => e.acc_partOf tasks _ _ _⟩
  | .branch c thenBody none _, _, _, _ => ⟨_, fun
    | _, .test => c.acc_partOf tasks _ _ _
    | _, .thenPart _ => bodyAcc_partOf tasks thenBody _ _ _ _⟩
  | .branch c thenBody (some elseBody) _, _, _, _ => ⟨_, fun
    | _, .test => c.acc_partOf tasks _ _ _
    | _, .thenPart _ => bodyAcc_partOf tasks thenBody _ _ _ _
    | _, .elsePart _ => bodyAcc_partOf tasks elseBody _ _ _ _⟩
  | .loop _ _ _, _, _, _ => ⟨_, fun
    | _, .rounds => tasks _ _ _⟩
  | .result none _, _, _, _ => ⟨_, fun _ leads => nomatch leads⟩
  | .result (some e) _, _, _, _ => ⟨_, fun
    | _, .returned => e.acc_partOf tasks _ _ _⟩
  | .jump _ _, _, _, _ => ⟨_, fun _ leads => nomatch leads⟩
  | .expr e _, _, _, _ => ⟨_, fun
    | _, .alone => e.acc_partOf tasks _ _ _⟩

theorem bodyAcc_partOf {fuel : Nat} (tasks : TasksEnd fuel) : ∀ (ss : List Stmt)
    (scope : ScopeId) (last : Value) (s : State) (calls : Nat),
    Acc PartOf ⟨fuel, .body scope last ss, s, calls⟩
  | [], _, _, _, _ => ⟨_, fun _ leads => nomatch leads⟩
  | st :: ss, _, _, _, _ => ⟨_, fun
    | _, .first => st.acc_partOf tasks _ _ _
    | _, .rest _ => bodyAcc_partOf tasks ss _ _ _ _⟩

end

section

variable {fuel : Nat} (tasks : TasksEnd fuel)
include tasks

theorem HostAction.acc_partOf (a : HostAction) (s : State) (calls : Nat) :
    Acc PartOf ⟨fuel, .action a, s, calls⟩ := by
  induction a generalizing s with
  | done result => exact ⟨_, fun _ leads => nomatch leads⟩
  | ask request code resume _ ih =>
    refine ⟨_, fun part leads => ?_⟩
    cases leads with
    | handled free => exact tasks _ _ _
    | called => exact tasks _ _ _
    | executed => exact tasks _ _ _
    | resumed first => exact ih _ _

theorem Work.acc_partOf (w : Work) (s : State) (calls : Nat) :
    Acc PartOf ⟨fuel, w, s, calls⟩ := by
  cases w with
  | expr scope e => exact e.acc_partOf tasks scope s calls
  | args scope es => exact argsAcc_partOf tasks es scope s calls
  | stmt scope st => exact st.acc_partOf tasks scope s calls
  | body scope last ss => exact bodyAcc_partOf tasks ss scope last s calls
  | program scope p =>
    refine ⟨_, fun part leads => ?_⟩
    cases leads with
    | statements => exact bodyAcc_partOf tasks p.statements scope .null s calls
  | action a => exact a.acc_partOf tasks s calls
  | task task => exact tasks task s calls

end

/-- The parts of a task have less fuel. -/
theorem Leads.fuel_of_task {m m' : Moment} {task : Task} (leads : Leads m m')
    (same : m.work = .task task) : m.fuel = m'.fuel + 1 := by
  cases leads <;> first | rfl | cases same

theorem tasksEnd (fuel : Nat) : TasksEnd fuel := by
  induction fuel with
  | zero => exact fun _ _ _ => ⟨_, fun _ leads => nomatch leads.fuel_of_task rfl⟩
  | succ fuel ih =>
    refine fun task s calls => ⟨_, fun part leads => ?_⟩
    obtain ⟨rest, work, t, calls'⟩ := part
    have less : fuel = rest := Nat.succ.inj (leads.fuel_of_task rfl)
    rw [← less]
    exact work.acc_partOf ih t calls'

/-- There is no endless descent into the parts of an evaluation. -/
theorem partOf_wellFounded : WellFounded PartOf :=
  ⟨fun m => m.work.acc_partOf (tasksEnd m.fuel) m.state m.calls⟩

/-! ## What happens in a row -/

namespace Moment

/-- What happens at a moment and then at its parts. -/
def chronicle {α : Type} (event : Moment → List α) (m : Moment) : List α :=
  event m ++ m.parts.attach.flatMap fun part => part.1.chronicle event
termination_by partOf_wellFounded.wrap m
decreasing_by
  exact mem_parts.1 part.2

theorem chronicle_eq {α : Type} (event : Moment → List α) (m : Moment) :
    m.chronicle event = event m ++ m.parts.flatMap (chronicle event) := by
  rw [chronicle]
  congr 1
  rw [List.flatMap_subtype (g := chronicle event) fun _ _ => rfl, List.unattach_attach]

end Moment

end Scriptlet
