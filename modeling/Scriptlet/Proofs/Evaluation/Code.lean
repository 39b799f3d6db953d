import Scriptlet.Proofs.Evaluation.Reachable

/-
  Code that was read.
  What every program read from a source is like everywhere, the declared functions of a reachable
  state are like too: functions get into the table by the evaluation of such programs only. Main
  statements: `Reachable.keeps`, and the same at every moment of a run (`Reaches.keeps`).
-/

namespace Scriptlet

/-- The declared functions of the state satisfy the condition everywhere, themselves included. -/
def State.Keeps (c : Condition) (s : State) : Prop :=
  ∀ name d, s.functions.get? name = some (.scripted d) →
    ∃ span, (Expr.function d span).Everywhere c

theorem State.Keeps.install {c : Condition} {s : State} (keeps : s.Keeps c) (name : String)
    {callable : Callable}
    (h : ∀ d, callable = .scripted d → ∃ span, (Expr.function d span).Everywhere c) :
    (s.install name callable).Keeps c := by
  intro other d found
  rcases State.get?_of_install found with same | old
  · exact h d same.symm
  · exact keeps other d old

theorem State.Keeps.everywhere {c : Condition} {s : State} (keeps : s.Keeps c) {name : String}
    {d : Declaration} (found : s.functions.get? name = some (.scripted d)) : d.Everywhere c := by
  obtain ⟨span, head, inner⟩ := keeps name d found
  exact inner

/-- The condition holds everywhere in the programs that were read. -/
def Condition.OfSources (c : Condition) : Prop :=
  ∀ {source p}, Program.parse source = .ok p → bodyEverywhere c p.statements

/-- Evaluation of code that was read, with a host that may ask anything. -/
def keeping (c : Condition) (sources : c.OfSources) : Effect where
  code := c
  permits _ := True
  legal := State.Keeps c
  changes _ _ _ := True
  refl _ _ := trivial
  trans _ _ := trivial
  widen _ := trivial
  parsed read := sources read
  native _ _ _ := HostAction.only_of_all (fun _ => trivial) _
  scripted keeps found := keeps.everywhere found
  handler _ _ := HostAction.only_of_all (fun _ => trivial) _
  install {s d span} keeps fits := by
    refine ⟨keeps.install _ fun other same => ?_, trivial⟩
    cases same
    exact ⟨span, fits⟩
  record _ keeps := ⟨keeps, trivial⟩
  assign _ _ keeps _ := ⟨keeps, trivial⟩
  define _ _ := trivial
  execute _ _ := trivial
  handling keeps _ := ⟨keeps, fun _ keeps' _ => ⟨keeps', trivial⟩⟩
  call keeps _ := ⟨keeps, fun _ keeps' _ => ⟨keeps', trivial⟩⟩
  frame _ keeps := ⟨keeps, fun _ keeps' _ => ⟨keeps', trivial⟩⟩
  child _ keeps := ⟨keeps, trivial⟩
  register _ _ keeps := ⟨keeps.install _ nofun, trivial⟩
  replace _ _ keeps _ := ⟨keeps, trivial⟩

section

variable {c : Condition} (sources : c.OfSources)
include sources

theorem Work.Begun.fits_keeping {work : Work} (begun : work.Begun Program.Parsed) :
    work.Fits (keeping c sources) :=
  begun.fits (fun _ => trivial) fun _ ⟨_, read⟩ => sources read

/-- All declared functions of a state that a host can bring about are like those that were read. -/
theorem Reachable.keeps {s : State} (h : Reachable Program.Parsed s) : s.Keeps c := by
  induction h with
  | initial settings =>
    refine State.Keeps.install (s := { State.initial settings with functions := .empty }) nofun
      "print" fun d same => ?_
    cases same
  | @ran s t fuel work before begun ended ih =>
    exact ((work.run_obeys (begun.fits_keeping sources) fuel s ih).ends ended).1
  | bound before ended ih =>
    rcases Run.ends_of_assign ended with rfl | ⟨-, rfl⟩
    · exact ih
    · exact ih
  | child before id ih => exact ih
  | registered before made ih =>
    rw [State.register_eq_ok made]
    exact ih.install _ nofun
  | handled before handler ih => exact ih
  | taken before recorded ih => exact ih

/-- At every moment of an evaluation that a host begins, the code and the declared functions are as
those that were read. -/
theorem Reaches.keeps {fuel calls : Nat} {work : Work} {s : State} {m : Moment}
    (h : Reaches ⟨fuel, work, s, calls⟩ m) (reachable : Reachable Program.Parsed s)
    (begun : work.Begun Program.Parsed) :
    m.work.Fits (keeping c sources) ∧ m.state.Keeps c :=
  h.fits (begun.fits_keeping sources) (reachable.keeps sources)

end

end Scriptlet
