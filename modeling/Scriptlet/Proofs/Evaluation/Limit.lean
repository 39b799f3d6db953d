import Scriptlet.Proofs.Evaluation.Coverage
import Scriptlet.Proofs.Evaluation.Depth
import Scriptlet.Proofs.Evaluation.Mirror

/-
  The limit on calls.
  The limit is looked at only where a call is counted, and told only by the failure of a call that
  is refused. A strict server gives up where a call would be refused; as long as it does not, it
  does every task as the server of all tasks does (`strictServe_eq`), and a server with a higher
  limit does the same (`strictServe_mirrors`). Main statement: `raised_limit_unobserved`.
-/

namespace Scriptlet

/-- The outcome is the same with another map of states that agrees where it is left. -/
theorem Outcome.map_congr {α : Type} {o : Outcome α} {f g : State → State}
    (h : o.Leaves fun t => f t = g t) : o.map f = o.map g := by
  cases o with
  | value a t => exact congrArg (Outcome.value a) h
  | failure e t => exact congrArg (Outcome.failure e) h
  | outOfFuel => rfl

/-- The state with another limit on calls. -/
def State.withLimit (s : State) (limit : Nat) : State :=
  { s with maxCallDepth := limit }

/-! ## Calls that are refused -/

/-- The moment is a call that the state refuses. -/
def Moment.Refused (m : Moment) : Prop :=
  match m.work with
  | .task task => task.Refused m.state
  | _ => False

/-- Each call that is entered takes fuel. -/
theorem Leads.fuel_add_calls_le {m m' : Moment} (h : Leads m m') :
    m'.fuel + m'.calls ≤ m.fuel + m.calls := by
  cases h <;> dsimp only <;> omega

theorem Reaches.fuel_add_calls_le {m m' : Moment} (h : Reaches m m') :
    m'.fuel + m'.calls ≤ m.fuel + m.calls := by
  induction h with
  | refl => exact Nat.le_refl _
  | tail _ next ih => exact Nat.le_trans next.fuel_add_calls_le ih

/-- No call of a run is refused whose fuel does not reach to the limit. -/
theorem not_refused_of_fuel {fuel : Nat} {work : Work} {s : State} {m : Moment}
    (little : s.depth + fuel < s.maxCallDepth)
    (h : Reaches ⟨fuel, work, s, s.depth⟩ m) : ¬ m.Refused := by
  -- what the calls under way have taken of the fuel keeps their number below the limit
  have counted : m.Counted s.maxCallDepth := h.counted ⟨rfl, rfl, by dsimp only; omega⟩
  have spent : m.fuel + m.calls ≤ fuel + s.depth := h.fuel_add_calls_le
  have room : m.state.depth < m.state.maxCallDepth := by
    rw [counted.depth, counted.max]
    omega
  intro refused
  unfold Moment.Refused Task.Refused at refused
  split at refused
  next task _ =>
    split at refused
    next => exact absurd refused.1 (Nat.not_le_of_lt room)
    next => exact refused
  next => exact refused

/-! ## The strict server -/

/-- The server of all tasks that gives up where a call is refused. -/
def strictServe : Nat → Server
  | 0 => fun _ _ => .outOfFuel
  | fuel + 1 => fun task s =>
    if task.Refused s then .outOfFuel else step (strictServe fuel) task s

theorem strictServe_obeys (E : Effect) (fuel : Nat) : Server.Obeys E (strictServe fuel) := by
  induction fuel with
  | zero =>
    intro task _ s _
    exact trivial
  | succ fuel ih =>
    intro task fits s legal
    unfold strictServe
    split
    next => exact trivial
    next => exact step_obeys ih task fits s legal

/-- If a task leads to no refused call, the strict server does it like the server of all tasks. -/
theorem strictServe_eq {fuel calls : Nat} {task : Task} {s : State}
    (admitted : ∀ m, Reaches ⟨fuel, .task task, s, calls⟩ m → ¬ m.Refused) :
    strictServe fuel task s = serve fuel task s := by
  induction fuel generalizing task s calls with
  | zero => rfl
  | succ fuel ih =>
    have agrees : AgreesAfter (strictServe fuel) fuel task s calls := by
      intro work t calls' leads task' u calls'' reaches
      exact ih fun m further => admitted m (.head leads (reaches.trans further))
    -- one step asks its server only for what it leads to, and that is done alike
    have done : step (strictServe fuel) task s = serve (fuel + 1) task s :=
      (Moment.covered ⟨fuel + 1, .task task, s, calls⟩).task fuel task rfl rfl _ agrees
    have here : ¬ task.Refused s := admitted _ .refl
    unfold strictServe
    rw [if_neg here]
    exact done

/-- If an evaluation leads to no refused call, it ends with the strict server as it does. -/
theorem Work.runWith_strictServe {work : Work} {fuel calls : Nat} {s : State}
    (admitted : ∀ m, Reaches ⟨fuel, work, s, calls⟩ m → ¬ m.Refused) :
    work.runWith (strictServe fuel) s = work.run fuel s := by
  refine (Moment.covered ⟨fuel, work, s, calls⟩).part (strictServe fuel) ?_
  intro task t calls' reaches
  exact strictServe_eq fun m further => admitted m (reaches.trans further)

/-! ## A higher limit -/

/-- The second run has the given limit if that is the higher one, and may go on where the first one
gives up. -/
def raisedLimit (limit : Nat) : Mirror where
  effect := balance
  scopes := id
  frames := id
  limit n := max n limit
  sees _ := True
  gaps := True
  raises n := Nat.le_max_left n limit
  roots _ := rfl
  kept _ := rfl
  bind _ _ _ := rfl
  next _ := rfl
  push _ _ := rfl
  pop _ := rfl
  child _ _ := rfl
  root _ _ := trivial
  frame _ := trivial
  execute _ := trivial
  define _ := trivial
  read _ := trivial
  bindings _ := trivial

theorem image_raisedLimit {s : State} {limit : Nat} (le : s.maxCallDepth ≤ limit) :
    (raisedLimit limit).image s = s.withLimit limit := by
  show { s with maxCallDepth := max s.maxCallDepth limit } = { s with maxCallDepth := limit }
  rw [Nat.max_eq_right le]

/-- What the strict server does is done in the same way with a higher limit. -/
theorem strictServe_mirrors (limit fuel : Nat) :
    Server.Mirrors (raisedLimit limit) (strictServe fuel) (serve fuel) := by
  induction fuel with
  | zero => exact ⟨strictServe_obeys balance 0, fun _ _ _ _ _ => .inr ⟨trivial, rfl⟩⟩
  | succ fuel ih =>
    refine ⟨strictServe_obeys balance (fuel + 1), fun task fits seen s legal => ?_⟩
    unfold strictServe
    split
    next => exact .inr ⟨trivial, rfl⟩
    next admitted =>
      exact step_mirrored ih fits seen legal fun refused => absurd refused admitted

/-- A higher limit on calls is not observed: if an evaluation ends and no call is refused anywhere
in its run, then with a higher limit it ends with the same value or failure and the same state. -/
theorem raised_limit_unobserved {s : State} {limit : Nat} (le : s.maxCallDepth ≤ limit)
    {fuel : Nat} {work : Work} (ended : work.run fuel s ≠ .outOfFuel)
    (admitted : ∀ m, Reaches ⟨fuel, work, s, s.depth⟩ m → ¬ m.Refused) :
    work.run fuel (s.withLimit limit) = (work.run fuel s).map (·.withLimit limit) := by
  have seen : work.Seen (raisedLimit limit) := work.seen_of_all fun _ => trivial
  have mirrored := Work.runWith_mirrors (strictServe_mirrors limit fuel) (fits_balance work) seen s
    trivial
  rw [Work.runWith_strictServe admitted, image_raisedLimit le] at mirrored
  rcases mirrored with same | ⟨-, out⟩
  · have limits : (work.run fuel s).Leaves fun t =>
        (raisedLimit limit).image t = t.withLimit limit :=
      (work.run_balanced fuel s).mono fun t balanced =>
        image_raisedLimit (by rw [balanced.maxCallDepth]; exact le)
    exact same.trans (Outcome.map_congr limits)
  · exact absurd out ended

/-- A call within a call ends alike where 512 and where 1000 calls may be nested. -/
theorem raised_limit_unobserved_print :
    ∃ p : Program, ∃ t, (Work.program State.root p).run 9 (.initial {}) = .value .void t ∧
      t.recorded = [.line "null"] ∧
      (Work.program State.root p).run 9 (.initial { maxCallDepth := 1000 }) =
        .value .void (t.withLimit 1000) := by
  let print : Expr := .call "print" [.literal .null .zero] .zero
  let p : Program := ⟨[.expr (.function ⟨"f", [], [.expr print .zero], false, .zero⟩ .zero) .zero,
    .expr (.call "f" [] .zero) .zero]⟩
  have ended : (Work.program State.root p).run 9 (.initial {}) = .value .void _ := rfl
  have finishes : (Work.program State.root p).run 9 (.initial {}) ≠ .outOfFuel := by
    rw [ended]
    exact nofun
  have le : (State.initial {}).maxCallDepth ≤ 1000 := by decide
  have raised := raised_limit_unobserved le finishes fun m reaches =>
    not_refused_of_fuel (by decide) reaches
  rw [ended] at raised
  exact ⟨p, _, ended, rfl, raised⟩

end Scriptlet
