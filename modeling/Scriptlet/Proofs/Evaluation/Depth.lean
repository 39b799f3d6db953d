import Scriptlet.Proofs.Evaluation.Coverage
import Scriptlet.Proofs.Evaluation.Environments
import Scriptlet.Proofs.Evaluation.Reachable

/-
  The count of calls.
  Every evaluation leaves the depth as it found it, however it ends (`balance`). Along a run the
  depth is therefore the number of calls under way, which only the two ways to enter a call raise.
  Main statement: `depth_exact`.
-/

namespace Scriptlet

/-- Both states count the same calls and allow the same depth, and the second one has the
environments of the first one, those of the calls under way no more and no fewer. -/
structure Balanced (s t : State) : Prop where
  depth : t.depth = s.depth
  maxCallDepth : t.maxCallDepth = s.maxCallDepth
  environments : s.Extends t

namespace Balanced

variable {s t u : State}

theorem refl (s : State) : Balanced s s :=
  ⟨rfl, rfl, .refl s⟩

theorem trans (first : Balanced s t) (next : Balanced t u) : Balanced s u where
  depth := next.depth.trans first.depth
  maxCallDepth := next.maxCallDepth.trans first.maxCallDepth
  environments := first.environments.trans next.environments

end Balanced

/-- Evaluation of any code, with a host that may ask anything, is balanced. -/
def balance : Effect where
  code := .any
  permits _ := True
  legal _ := True
  changes _ := Balanced
  refl _ := .refl
  trans := .trans
  widen h := h
  parsed := Program.everywhere_any
  native _ _ _ := HostAction.only_of_all (fun _ => trivial) _
  scripted _ _ := Declaration.everywhere_of_all (fun _ => trivial) (fun _ => trivial) _
  handler _ _ := HostAction.only_of_all (fun _ => trivial) _
  install _ _ := ⟨trivial, rfl, rfl, .of_rootAt rfl rfl⟩
  record _ _ := ⟨trivial, rfl, rfl, .of_rootAt rfl rfl⟩
  assign id name _ _ := ⟨trivial, rfl, rfl, .bind _ id name _⟩
  define _ h := h
  execute _ h := h
  handling _ _ := ⟨trivial, fun _ _ h =>
    ⟨trivial, h.depth, h.maxCallDepth, ⟨h.environments.roots, h.environments.frames⟩⟩⟩
  call _ _ := ⟨trivial, fun _ _ h =>
    ⟨trivial, congrArg (· - 1) h.depth, h.maxCallDepth,
      ⟨h.environments.roots, h.environments.frames⟩⟩⟩
  frame _ _ := ⟨trivial, fun _ _ h => ⟨trivial, h.depth, h.maxCallDepth, h.environments.pop⟩⟩
  child id _ := ⟨trivial, rfl, rfl, .child _ id⟩
  register _ _ _ := ⟨trivial, rfl, rfl, .of_rootAt rfl rfl⟩
  replace _ _ _ _ := ⟨trivial, rfl, rfl, .of_rootAt rfl rfl⟩

theorem fits_balance (work : Work) : work.Fits balance :=
  Work.fits_of_all (fun _ => trivial) (fun _ => trivial) (work.only_of_all fun _ => trivial)

/-- However an evaluation ends, it is balanced. -/
theorem Work.run_balanced (work : Work) (fuel : Nat) (s : State) :
    (work.run fuel s).Leaves (Balanced s) :=
  (work.run_obeys (fits_balance work) fuel s trivial).mono fun _ ended => ended.2

/-- A call that is one too many fails, and the calls before it are left. -/
example : ∃ e t, (Work.program State.root ⟨[
      .expr (.function ⟨"f", [], [.expr (.call "f" [] .zero) .zero], false, .zero⟩ .zero) .zero,
      .expr (.call "f" [] .zero) .zero]⟩).run 9 (.initial { maxCallDepth := 3 }) = .failure e t ∧
    t.depth = 0 :=
  ⟨_, _, rfl, rfl⟩

/-- The depth is the number of calls under way and does not exceed the limit. -/
structure Moment.Counted (limit : Nat) (m : Moment) : Prop where
  depth : m.state.depth = m.calls
  max : m.state.maxCallDepth = limit
  within : m.calls ≤ limit

/-- What an evaluation comes to begin is counted if the evaluation is. -/
theorem Leads.counted {limit : Nat} {m m' : Moment} (h : Leads m m') (counted : m.Counted limit) :
    m'.Counted limit := by
  obtain ⟨depth, max, within⟩ := counted
  obtain ⟨-, begun⟩ := h.begins (fits_balance m.work) trivial
  cases begun with
  | part w calls legal changes =>
    refine ⟨?_, changes.maxCallDepth.trans max, calls ▸ within⟩
    rw [calls, changes.depth, depth]
  | handling calls free state asked =>
    rw [← calls] at depth within
    refine ⟨?_, ?_, within⟩
    · rw [state]
      exact depth
    · rw [state]
      exact max
  | native calls room state =>
    refine ⟨?_, ?_, ?_⟩
    · rw [state, calls, ← depth]
      rfl
    · rw [state]
      exact max
    · rw [calls, ← depth, ← max]
      exact room
  | scripted scope calls room legal changes =>
    refine ⟨?_, changes.maxCallDepth.trans max, ?_⟩
    · rw [changes.depth, calls, ← depth]
      rfl
    · rw [calls, ← depth, ← max]
      exact room

theorem Reaches.counted {limit : Nat} {m m' : Moment} (h : Reaches m m')
    (counted : m.Counted limit) : m'.Counted limit := by
  induction h with
  | refl => exact counted
  | tail _ step ih => exact step.counted ih

/-- No call is under way in a state that a host can bring about. -/
theorem Reachable.depth_eq_zero {admits : Program → Prop} {s : State} (h : Reachable admits s) :
    s.depth = 0 := by
  induction h with
  | initial settings => rfl
  | @ran s t fuel work before begun ended ih =>
    exact ((work.run_balanced fuel s).ends ended).depth.trans ih
  | bound before ended ih =>
    rcases Run.ends_of_assign ended with rfl | ⟨-, rfl⟩
    · exact ih
    · exact ih
  | child before id ih => exact ih
  | registered before made ih =>
    rw [State.register_eq_ok made]
    exact ih
  | handled before handler ih => exact ih
  | taken before recorded ih => exact ih

/-- Between evaluations the depth is 0. At every moment of an evaluation it is the number of calls
that were entered and not left, at most the limit; every evaluation that a run comes to begin,
however it ends, leaves the depth and the environments that it found; and the moments are all that
there is to a run. -/
theorem depth_exact {admits : Program → Prop} {s : State} (reachable : Reachable admits s) :
    s.depth = 0 ∧ ∀ (fuel : Nat) (work : Work) (m : Moment), Reaches ⟨fuel, work, s, 0⟩ m →
      m.state.depth = m.calls ∧ m.calls ≤ s.maxCallDepth ∧
        m.state.maxCallDepth = s.maxCallDepth ∧
        (m.work.run m.fuel m.state).Leaves (Balanced m.state) ∧ m.Covered := by
  have zero := reachable.depth_eq_zero
  refine ⟨zero, fun fuel work m reaches => ?_⟩
  have counted : m.Counted s.maxCallDepth := reaches.counted ⟨zero, rfl, Nat.zero_le _⟩
  have balanced := m.work.run_balanced m.fuel m.state
  exact ⟨counted.depth, counted.within, counted.max, balanced, m.covered⟩

theorem depth_exact_print :
    ∃ m, Reaches ⟨9, .task (.call State.root "print" [.null] .zero), .initial {}, 0⟩ m ∧
      m.state.depth = 1 ∧ (m.work.run m.fuel m.state).Leaves (Balanced m.state) := by
  have entered : Reaches ⟨9, .task (.call State.root "print" [.null] .zero), .initial {}, 0⟩
      ⟨8, .action (HostFunction.print.invoke [.null]), (State.initial {}).enter, 1⟩ :=
    .single (.native rfl (by decide))
  have reachable : Reachable Program.Parsed (.initial {}) := .initial {}
  obtain ⟨depth, -, -, balanced, -⟩ := (depth_exact reachable).2 _ _ _ entered
  exact ⟨_, entered, depth, balanced⟩

end Scriptlet
