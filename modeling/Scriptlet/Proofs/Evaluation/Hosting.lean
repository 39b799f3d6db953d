import Scriptlet.Proofs.Evaluation.Scoping

/-
  Sessions as hosts.
  A session does with its interpreter only what a host can do; the functions of the catalog record,
  and turn back to the root at most (`Catalog.only_make`). Main statement: the interpreter of a
  session is always in a state that the operations of a host bring about
  (`Session.respond_hosted`), so that its environments are rooted (`Session.Hosted.rooted`).
-/

namespace Scriptlet

/-! ## The functions of the catalog -/

section

variable {permits : HostRequest → Prop}

namespace Catalog

/-- The item, under whatever name it is made, asks only what is permitted. -/
def Item.Only (permits : HostRequest → Prop) (i : Item) : Prop :=
  ∀ name args, ((i.make name).invoke args).Only permits

theorem only_item {id : String} {types : List ParamType} {body : Arguments types → HostAction}
    (only : ∀ xs, (body xs).Only permits) : (item id types body).Only permits := by
  refine fun name => HostFunction.only_invoke fun args => ?_
  unfold item HostFunction.typed
  dsimp only
  split
  · exact trivial
  · exact only _

/-- The functions of the catalog record, and call functions and execute sources in the root. -/
theorem only_make (record : ∀ entry, permits (.record entry))
    (call : ∀ name args, permits (.call home name args))
    (execute : ∀ source, permits (.execute home source)) : ∀ i ∈ items, i.Only permits := by
  have checked {c : Prop} [Decidable c] {e : HostAction} {v : Value} (only : e.Only permits) :
      HostAction.Only permits (if c then e else .value v) := by
    split
    · exact only
    · exact trivial
  unfold items
  repeat' refine List.forall_mem_cons.2 ⟨?_, ?_⟩
  all_goals try exact only_item fun _ => trivial
  -- what is left are the functions that check, record, call and execute, and the untyped ones
  · exact only_item fun _ => checked trivial
  · exact only_item fun _ => checked trivial
  · exact only_item fun _ => ⟨record _, nofun, fun _ => trivial⟩
  · exact only_item fun _ => ⟨call _ _, nofun, fun _ => trivial⟩
  · exact only_item fun _ => ⟨execute _, nofun, fun _ => trivial⟩
  · exact fun _ => HostFunction.only_invoke fun _ => trivial
  · exact fun _ => HostFunction.only_invoke fun _ => trivial
  · exact fun _ => HostFunction.only_invoke fun _ => trivial
  · nofun

theorem only_of_find? (record : ∀ entry, permits (.record entry))
    (call : ∀ name args, permits (.call home name args))
    (execute : ∀ source, permits (.execute home source)) {id name : String} {f : HostFunction}
    (found : find? id name = some f) (args : List Value) : (f.invoke args).Only permits := by
  obtain ⟨i, member, rfl⟩ := Option.map_eq_some_iff.1 found
  exact only_make record call execute i (List.mem_of_find?_eq_some member) name args

end Catalog

end

/-! ## Sessions -/

namespace Session

/-- The state of the session is one that a host brings about. -/
def Hosted (settings : Settings) (s : Session) : Prop :=
  Relation.ReflTransGen Operation (.initial settings) s.state

variable {settings : Settings} {s s' : Session}

theorem hosted_new (settings : Settings) : (new settings).Hosted settings :=
  .refl

/-- What a session does with its interpreter is an operation of a host. -/
theorem Hosted.turn (hosted : s.Hosted settings) (turn : s.Turn s') : s'.Hosted settings := by
  cases turn with
  | idle => exact hosted
  | loaded read => exact hosted
  | evaluated begins ended => exact hosted.tail (.evaluated ended)
  | bound here ended => exact hosted.tail (.bound ended)
  | child here => exact hosted.tail (.child _)
  | registered here found made => exact hosted.tail (.registered made)
  | recording => exact hosted.tail (.handled _)
  | executing source => exact hosted.tail (.handled _)
  | recorded entries => exact hosted.tail (.taken entries)

theorem Hosted.rooted (hosted : s.Hosted settings) : s.state.Rooted :=
  (orderly_of_reached hosted).oneRoot.rooted

/-- Whatever a session is asked, its interpreter is in a state that a host brings about. -/
theorem respond_hosted (hosted : s.Hosted settings) (fuel : Nat) (request : Step) :
    (s.respond fuel request).1.Hosted settings :=
  Hosted.turn (hosted.turn (.recorded [])) (Session.step_turn _ fuel request)

end Session

end Scriptlet
