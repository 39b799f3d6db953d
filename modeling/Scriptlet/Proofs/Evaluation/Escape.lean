import Scriptlet.Interpreter
import Scriptlet.Proofs.Evaluation.Lockstep

/-
  Jumps never escape.
  If every jump of a program and of the declared functions lies in a loop of its function, and the
  host raises no stray jumps, then no run ends with one; this is read off two runs of the same code
  from the same state, with stray jumps like nothing (`orderly`). Of any program at all the loops
  keep their jumps. Main statement: `jumps_stay_in_loops`.
-/

namespace Scriptlet

/-- The failure is that of a jump outside of loops. -/
def Failure.isStray : Failure → Bool
  | .diagnostic d => d.kind == .controlFlow
  | .io _ => false

theorem Failure.isStray_placeless (e : Failure) : e.placeless.isStray = e.isStray := by
  cases e <;> rfl

theorem Failure.isStray_orSpan (e : Failure) (span : Span) :
    (e.orSpan span).isStray = e.isStray := by
  rw [← isStray_placeless, e.placeless_orSpan, e.isStray_placeless]

/-- The same run, and no stray jumps. -/
def orderly : Likeness where
  span := Eq
  failure e e' := e = e' ∧ e.isStray = false
  entry := Eq
  strays := False
  span_refl _ := rfl
  diagnostic _ ordinary := ⟨rfl, beq_eq_false_iff_ne.2 ordinary⟩
  orSpan {e e' a b} alike at_ := by
    rw [alike.1, at_]
    refine ⟨rfl, ?_⟩
    rw [e'.isStray_orSpan, ← alike.1]
    exact alike.2

/-! ## States without stray jumps -/

/-- A failure that is the result is not that of a stray jump. -/
def NoStray (result : Except Failure Value) : Prop :=
  ∀ e, result = .error e → e.isStray = false

/-- If the request is to execute a program, its jumps lie in loops. -/
def HostRequest.Orderly : HostRequest → Prop
  | .execute _ source => ∀ p, Program.ofSource source = .ok p → p.Confined
  | _ => True

/-- The answer to the request is not the failure of a stray jump. -/
def HostRequest.Ordinary : (request : HostRequest) → request.Answer → Prop
  | .record _, answer | .print _, answer | .call _ _ _, answer | .execute _ _, answer
  | .define _ _ _, answer | .read _ _ _, answer | .register _ _ _, answer => NoStray answer
  | .bindings _, _ | .functions, _ | .child _, _ | .onPrint, _ => True

/-- The action executes no program with a stray jump and does not end with one, as long as no answer
is one; nor does the code that comes with what it asks. -/
def HostAction.Orderly : HostAction → Prop
  | .done result => NoStray result
  | .ask request code resume => request.Orderly ∧ (∀ given, (code given).Orderly) ∧
    ∀ answer, request.Ordinary answer → (resume answer).Orderly

/-- The jumps of all declared functions lie in loops, and the host raises no stray jumps. -/
structure State.Confined (s : State) : Prop where
  scripted : ∀ {name d}, s.functions.get? name = some (.scripted d) → d.Confined
  native : ∀ {name f}, s.functions.get? name = some (.native f) → ∀ args, (f.invoke args).Orderly
  handler : ∀ line, (s.handler line).Orderly

/-- The run does not end with a stray jump, and the jumps of all functions that it leaves lie in
loops. -/
def Outcome.Orderly {α : Type} : Outcome α → Prop
  | .value _ t => t.Confined
  | .failure e t => e.isStray = false ∧ t.Confined
  | .outOfFuel => True

/-! ## Jumps in loops are orderly -/

theorem orderly_of_jumpsInLoops : jumpsInLoops.Implies orderly.code where
  expr e h := by
    cases e with
    | function d span => exact fun escapes => Bool.noConfusion (escapes.symm.trans h)
    | _ => exact trivial
  stmt _ _ := trivial

theorem jumpsInLoops_of_orderly : orderly.code.Implies jumpsInLoops where
  expr e h := by
    cases e with
    | function d span => exact Bool.eq_false_iff.2 h
    | _ => exact trivial
  stmt _ _ := trivial

theorem Program.Confined.alike {p : Program} (h : p.Confined) : p.Alike orderly p where
  statements := bodyAlike_self _ (bodyEverywhere_mono orderly_of_jumpsInLoops _ h.inner)
  own escapes := Bool.noConfusion (escapes.symm.trans h.own)

theorem Program.Alike.confined {p p' : Program} (h : p.Alike orderly p') : p.Confined where
  own := Bool.eq_false_iff.2 h.own
  inner := bodyEverywhere_mono jumpsInLoops_of_orderly _ (bodyEverywhere_of_alike h.statements)

theorem Declaration.Confined.alike {d : Declaration} (h : d.Confined) : d.Alike orderly d :=
  d.alike_self (d.everywhere_mono orderly_of_jumpsInLoops h.inner)
    fun escapes => Bool.noConfusion (escapes.symm.trans h.own)

theorem Declaration.Alike.confined : ∀ {d d' : Declaration}, d.Alike orderly d' → d.Confined
  | ⟨_, _, _, _, _⟩, _, h => by
    obtain ⟨_, _, -, inner, own, -⟩ := h
    exact ⟨Bool.eq_false_iff.2 own,
      bodyEverywhere_mono jumpsInLoops_of_orderly _ (bodyEverywhere_of_alike inner)⟩

/-! ## The host without stray jumps -/

theorem orderly_results_iff {result result' : Except Failure Value} :
    orderly.Results result result' ↔ result = result' ∧ NoStray result := by
  constructor
  · intro same
    cases same with
    | ok v => exact ⟨rfl, fun _ failed => by cases failed⟩
    | error alike =>
      obtain ⟨rfl, ordinary⟩ := alike
      exact ⟨rfl, fun _ failed => by cases failed; exact ordinary⟩
  · rintro ⟨rfl, ordinary⟩
    cases result with
    | ok v => exact .ok v
    | error e => exact .error ⟨rfl, ordinary e rfl⟩

/-- An orderly request is like itself, and its alike answers are the same and ordinary. -/
theorem HostRequest.Orderly.alike {request : HostRequest} (h : request.Orderly) :
    ∃ S R, request.Alike orderly Eq request S R ∧ (∀ given given', S given given' →
      given = given') ∧ ∀ answer answer', R answer answer' →
        answer = answer' ∧ request.Ordinary answer := by
  have results : ∀ result result', orderly.Results result result' →
      result = result' ∧ NoStray result := fun _ _ => orderly_results_iff.1
  have same {α : Type} : ∀ a a' : α, a = a' → a = a' := fun _ _ h => h
  cases request with
  | record entry => exact ⟨_, _, .record rfl, same, results⟩
  | print line => exact ⟨_, _, .print line, same, results⟩
  | call scope name args => exact ⟨_, _, .call rfl name args, same, results⟩
  | execute scope source =>
    exact ⟨_, _, .execute rfl (sourcesAlike_self fun p read => (h p read).alike), same, results⟩
  | define scope name v => exact ⟨_, _, .define rfl name v, same, results⟩
  | read scope name span => exact ⟨_, _, .read rfl name rfl, same, results⟩
  | bindings scope => exact ⟨_, _, .bindings rfl, same, fun _ _ h => ⟨h, trivial⟩⟩
  | functions => exact ⟨_, _, .functions, same, fun _ _ h => ⟨h, trivial⟩⟩
  | child scope => exact ⟨_, _, .child rfl, same, fun _ _ h => ⟨h, trivial⟩⟩
  | register scope name slots => exact ⟨_, _, .register rfl name slots, same, results⟩
  | onPrint => exact ⟨_, _, .onPrint, same, fun _ _ h => ⟨h, trivial⟩⟩

/-- A request that is like one is orderly, and so is what its ordinary answers are like. -/
theorem HostRequest.orderly_of_alike {request request' : HostRequest}
    {S : request.Given → request'.Given → Prop} {R : request.Answer → request'.Answer → Prop}
    (h : request.Alike orderly Eq request' S R) : request.Orderly ∧
      (∀ given, ∃ given', S given given') ∧
      ∀ answer, request.Ordinary answer → ∃ answer', R answer answer' := by
  have results : ∀ result, NoStray result → ∃ result', orderly.Results result result' :=
    fun result ordinary => ⟨result, orderly_results_iff.2 ⟨rfl, ordinary⟩⟩
  have same {α : Type} : ∀ a : α, ∃ a', a = a' := fun a => ⟨a, rfl⟩
  cases h with
  | execute scope sources =>
    refine ⟨fun p read => ?_, same, results⟩
    cases sources with
    | programs read' _ alike =>
      rw [read'] at read
      cases read
      exact alike.confined
    | diagnostics failed _ _ =>
      rw [failed] at read
      cases read
  | bindings => exact ⟨trivial, same, fun answer _ => same answer⟩
  | functions => exact ⟨trivial, same, fun answer _ => same answer⟩
  | child => exact ⟨trivial, same, fun answer _ => same answer⟩
  | onPrint => exact ⟨trivial, same, fun answer _ => same answer⟩
  | _ => exact ⟨trivial, same, results⟩

theorem HostAction.Orderly.alike {action : HostAction} (h : action.Orderly) :
    action.Alike orderly Eq action := by
  induction action with
  | done result => exact ⟨result, rfl, orderly_results_iff.2 ⟨rfl, h⟩⟩
  | ask request code resume coded ih =>
    obtain ⟨S, R, asked, given, answered⟩ := h.1.alike
    refine ⟨request, code, resume, S, R, rfl, asked, fun g g' same => ?_, fun a a' same => ?_⟩
    · cases given g g' same
      exact coded g (h.2.1 g)
    · obtain ⟨rfl, ordinary⟩ := answered a a' same
      exact ih a (h.2.2 a ordinary)

theorem HostAction.orderly_of_alike {action action' : HostAction}
    (h : action.Alike orderly Eq action') : action.Orderly := by
  induction action generalizing action' with
  | done result =>
    obtain ⟨result', -, same⟩ := h
    exact (orderly_results_iff.1 same).2
  | ask request code resume coded ih =>
    obtain ⟨request', code', resume', S, R, -, asked, given, answered⟩ := h
    obtain ⟨orderly, gives, answers⟩ := HostRequest.orderly_of_alike asked
    refine ⟨orderly, fun g => ?_, fun answer ordinary => ?_⟩
    · obtain ⟨g', same⟩ := gives g
      exact coded g (given g g' same)
    · obtain ⟨answer', same⟩ := answers answer ordinary
      exact ih answer (answered answer answer' same)

/-! ## Runs -/

theorem State.Confined.alike {s : State} (h : s.Confined) :
    s.Alike orderly (.identity s.frames.size) s := by
  refine s.alike_self (fun {name callable} found => ?_) (fun line => (h.handler line).alike)
    fun _ _ => rfl
  cases callable with
  | native f => exact .native rfl rfl fun args => (h.native found args).alike
  | scripted d => exact .scripted (h.scripted found).alike

theorem State.Alike.confined {calls : Nat} {t t' : State}
    (h : t.Alike orderly (.identity calls) t') : t.Confined := by
  refine ⟨fun {name d} found => ?_, fun {name f} found args => ?_, fun line => ?_⟩
  · have same := h.functions name
    rw [found] at same
    generalize t'.functions.get? name = callable at same
    cases same with
    | some alike =>
      cases alike with
      | scripted alike => exact alike.confined
  · have same := h.functions name
    rw [found] at same
    generalize t'.functions.get? name = callable at same
    cases same with
    | some alike =>
      cases alike with
      | native _ _ acts => exact HostAction.orderly_of_alike (acts args)
  · exact HostAction.orderly_of_alike (h.handler line)

theorem confined_initial (settings : Settings) : (State.initial settings).Confined :=
  (State.alike_initial settings fun _ => rfl).confined

/-- A computation that goes in step with itself ends without a stray jump. -/
theorem ends_orderly {s : State} {m : Run Value} (confined : s.Confined)
    (h : Run.Alike orderly (.identity s.frames.size) Eq m m) : (m s).Orderly := by
  -- no failure is like itself if it is that of a stray jump, so the run cannot end with one
  have ended := h confined.alike
  cases made : m s with
  | value v t =>
    rw [made] at ended
    cases ended with
    | value _ left => exact left.confined
  | failure e t =>
    rw [made] at ended
    cases ended with
    | failure alike left => exact ⟨alike.2, left.confined⟩
  | outOfFuel => exact trivial

/-- No loop hands a jump on: a break in its own body ends it, and a continue begins its next
round. -/
structure KeepsJumps (fuel : Nat) (scope : ScopeId) (c : Expr) (body : List Stmt) (span : Span)
    (s : State) : Prop where
  ends : ∀ {flow t}, (Stmt.loop c body span).exec (serve fuel) scope s = .value flow t →
    flow = .normal .null ∨ ∃ v, flow = .result v
  stops : ∀ {t u}, holds (serve fuel) scope c s = .value true t →
    execBody (serve fuel) scope .null body t = .value (.jump .breakLoop) u →
    (Stmt.loop c body span).exec (serve (fuel + 1)) scope s = .value (.normal .null) u
  goesOn : ∀ {t u}, holds (serve fuel) scope c s = .value true t →
    execBody (serve fuel) scope .null body t = .value (.jump .continueLoop) u →
    (Stmt.loop c body span).exec (serve (fuel + 1)) scope s =
      (Stmt.loop c body span).exec (serve fuel) scope u

/-- If the jumps of all functions lie in their loops and the host raises no stray ones, no source
and no program whose jumps do, and no call, ends with a stray jump in any environment, or leaves a
function with one; and of whatever code, all loops keep their jumps. -/
theorem jumps_stay_in_loops :
    (∀ s : State, s.Confined → ∀ (fuel : Nat) (scope : ScopeId),
      (∀ source, (∀ p, Program.ofSource source = .ok p → p.Confined) →
        (Interpreter.execute fuel scope source s).Orderly) ∧
      (∀ p : Program, p.Confined → (Interpreter.executeProgram fuel scope p s).Orderly) ∧
      ∀ name args, (Interpreter.callFunction fuel scope name args s).Orderly) ∧
    ∀ fuel scope c body span s, KeepsJumps fuel scope c body span s := by
  refine ⟨fun s confined fuel scope => ?_, fun fuel scope c body span s => ?_⟩
  · have served := serve_alike orderly fuel
    refine ⟨fun source h => ?_, fun p h => ?_, fun name args => ?_⟩
    · exact ends_orderly confined
        (runSource_alike served rfl (sourcesAlike_self fun p read => (h p read).alike))
    · exact ends_orderly confined (runProgram_alike served rfl h.alike)
    · exact ends_orderly confined (callNamed_alike served rfl name args rfl)
  · exact ⟨serve_loop_ends, serve_loop_break, serve_loop_continue⟩

/-- A function is declared and called inside a loop, and each has a break of its own. -/
theorem jumps_stay_in_loops_nested : ∃ (p : Program) (t : State), p.Confined ∧
    Interpreter.executeProgram 9 State.root p (.initial {}) = .value .null t ∧ t.Confined ∧
    t.functionNames = ["print", "f"] := by
  let always : Expr := .literal (.bool true) .zero
  let inner : Stmt := .loop always [.jump .breakLoop .zero] .zero
  let f : Declaration := ⟨"f", [], [inner, .result (some always) .zero], true, .zero⟩
  let p : Program := ⟨[.loop always [.expr (.function f .zero) .zero,
    .branch (.call "f" [] .zero) [.jump .breakLoop .zero] none .zero] .zero]⟩
  have confined : p.Confined := by
    refine ⟨rfl, ?_⟩
    simp [p, f, inner, always, jumpsInLoops, bodyEverywhere, Stmt.Everywhere, Expr.Everywhere,
      Declaration.Everywhere, argsEverywhere, anyEscapes, Stmt.escapes]
  have ran : Interpreter.executeProgram 9 State.root p (.initial {}) = .value .null _ := rfl
  have ended := (jumps_stay_in_loops.1 _ (confined_initial {}) 9 State.root).2.1 p confined
  rw [ran] at ended
  exact ⟨p, _, confined, ran, ended, rfl⟩

end Scriptlet
