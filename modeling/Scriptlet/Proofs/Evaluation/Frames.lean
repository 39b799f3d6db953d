import Scriptlet.Proofs.Evaluation.Environments
import Scriptlet.Proofs.Evaluation.Reachable

/-
  Who writes variables.
  As long as the host writes no variables itself and executes no sources, an expression and a call
  write no environment, and a statement writes the one it is executed in: the environment of a call
  is new and gone with it. Main statement: `writes_own_environment`.
-/

namespace Scriptlet

/-- The request neither writes a variable nor executes a source. -/
def HostRequest.Quiet : HostRequest → Prop
  | .execute _ _ | .define _ _ _ => False
  | _ => True

/-- The functions of the host and the print handler neither write variables nor execute sources. -/
abbrev State.Quiet (s : State) : Prop :=
  s.AsksOnly HostRequest.Quiet

theorem State.quiet_initial (settings : Settings) : (initial settings).Quiet :=
  asksOnly_initial settings (fun _ => trivial) fun _ => trivial

/-- Evaluation of any code, with a quiet host, writes the environment it is in at most. -/
def ownership : Effect where
  code := .any
  permits := HostRequest.Quiet
  legal := State.Quiet
  changes := OnlyWrites
  refl _ _ := .of_scope? rfl rfl
  trans := .trans
  widen := .widen
  parsed := Program.everywhere_any
  native quiet found := quiet.native found
  scripted _ _ := Declaration.everywhere_of_all (fun _ => trivial) (fun _ => trivial) _
  handler quiet := quiet.handler
  install quiet _ := ⟨quiet.install _ _, .of_scope? rfl rfl⟩
  record _ quiet := ⟨quiet.of_same rfl rfl, .of_scope? rfl rfl⟩
  assign id name quiet _ := ⟨quiet.of_same rfl rfl, .bind _ id name _⟩
  define permitted := permitted.elim
  execute permitted := permitted.elim
  handling quiet _ := ⟨quiet.of_same rfl rfl, fun _ quiet' h =>
    ⟨quiet'.of_same rfl rfl, ⟨h.roots, h.frames⟩, h.kept⟩⟩
  call quiet _ := ⟨quiet.of_same rfl rfl, fun _ quiet' h =>
    ⟨quiet'.of_same rfl rfl, ⟨h.roots, h.frames⟩, h.kept⟩⟩
  frame _ quiet := ⟨quiet.of_same rfl rfl, fun _ quiet' h => ⟨quiet'.of_same rfl rfl, h.frame⟩⟩
  child id quiet := ⟨quiet.of_same rfl rfl, .child _ id⟩
  register _ own quiet := ⟨quiet.register own, .of_scope? rfl rfl⟩
  replace _ own quiet _ := ⟨⟨quiet.native, own⟩, .of_scope? rfl rfl⟩

theorem fits_ownership {work : Work} (only : work.Only HostRequest.Quiet) :
    work.Fits ownership :=
  Work.fits_of_all (fun _ => trivial) (fun _ => trivial) only

/-- However an evaluation ends, it wrote its own environment at most. -/
theorem Work.run_onlyWrites (work : Work) (only : work.Only HostRequest.Quiet) {s : State}
    (quiet : s.Quiet) (fuel : Nat) : (work.run fuel s).Leaves (OnlyWrites work.writes s) :=
  (work.run_obeys (fits_ownership only) fuel s quiet).mono fun _ ended => ended.2

/-- With a quiet host, expressions and calls write none of the environments that there are, also the
calls that a run comes to make; statements, programs and sources write at most the one they are
executed in. -/
theorem writes_own_environment {s : State} (quiet : s.Quiet) (fuel : Nat) (scope : ScopeId) :
    (∀ e : Expr, (e.eval (serve fuel) scope s).Leaves (OnlyWrites none s)) ∧
    (∀ name args,
      (Interpreter.callFunction fuel scope name args s).Leaves (OnlyWrites none s)) ∧
    (∀ st : Stmt, (st.exec (serve fuel) scope s).Leaves (OnlyWrites (some scope) s)) ∧
    (∀ p, (Interpreter.executeProgram fuel scope p s).Leaves (OnlyWrites (some scope) s)) ∧
    (∀ source, (Interpreter.execute fuel scope source s).Leaves (OnlyWrites (some scope) s)) ∧
    (∀ (work : Work) (m : Moment) (id : ScopeId) (name : String) (args : List Value) (span : Span),
      work.Only HostRequest.Quiet → Reaches ⟨fuel, work, s, s.depth⟩ m →
      m.work = .task (.call id name args span) →
      (m.work.run m.fuel m.state).Leaves (OnlyWrites none m.state)) := by
  refine ⟨fun e => ?_, fun name args => ?_, fun st => ?_, fun p => ?_, fun source => ?_, ?_⟩
  · exact (Work.expr scope e).run_onlyWrites trivial quiet fuel
  · exact (Work.task (.call scope name args .zero)).run_onlyWrites trivial quiet (fuel + 1)
  · exact (Work.stmt scope st).run_onlyWrites trivial quiet fuel
  · exact (Work.program scope p).run_onlyWrites trivial quiet fuel
  · exact (Work.task (.execute scope source)).run_onlyWrites trivial quiet (fuel + 1)
  · intro work m id name args span only reaches call
    have quiet' : m.state.Quiet := (reaches.fits (fits_ownership only) quiet).2
    rw [call]
    exact (Work.task (.call id name args span)).run_onlyWrites trivial quiet' m.fuel

theorem writes_own_environment_constant :
    ∃ t, Interpreter.callFunction 9 State.root "f" []
        ((State.initial {}).install "f" (.scripted
          ⟨"f", [], [.assign "PI" (.literal (.bool true) .zero) .zero], false, .zero⟩)) =
      .value .void t ∧ t.scope? State.root = (State.initial {}).scope? State.root := by
  have quiet := (State.quiet_initial {}).install "f"
    ⟨"f", [], [.assign "PI" (.literal (.bool true) .zero) .zero], false, .zero⟩
  have kept := (writes_own_environment quiet 9 State.root).2.1 "f" []
  exact ⟨_, rfl, kept.kept nofun rfl⟩

end Scriptlet
