import Scriptlet.Host.Catalog
import Scriptlet.Proofs.Evaluation.Effect

/-
  Calls of functions with typed parameters.
  A call does nothing with its arguments unless all of them convert: it fails because of their
  number, or because of the leftmost one that does not convert (`FirstRefused`), or else does what
  the body does with the converted ones (`Converted`). What a call in a program yields is what the
  function does, with failures placed at the call (`Outcome.Answered`).
  Main statement: `typed_call_all_or_nothing`.
-/

namespace Scriptlet

/-! ## Converting arguments -/

/-- The arguments convert, one by one, to the given ones. -/
def Converted : (types : List ParamType) → List Value → Arguments types → Prop
  | [], args, _ => args = []
  | _ :: _, [], _ => False
  | type :: types, v :: vs, (x, xs) => v.convert type = .ok x ∧ Converted types vs xs

/-- The argument at the place `i` does not convert, with the diagnostic `d`, and all arguments to
the left of it do. -/
structure FirstRefused (types : List ParamType) (args : List Value) (i : Nat) (d : Diagnostic) :
    Prop where
  refused : ∃ type v, types[i]? = some type ∧ args[i]? = some v ∧
    v.convert type = .error (.diagnostic d)
  before : ∀ j < i, ∀ type v, types[j]? = some type → args[j]? = some v →
    ∃ x, v.convert type = .ok x

section

variable {name : String} {place i : Nat} {type : ParamType} {types : List ParamType} {v : Value}
  {args : List Value} {d : Diagnostic}

theorem FirstRefused.here (refused : v.convert type = .error (.diagnostic d)) :
    FirstRefused (type :: types) (v :: args) 0 d where
  refused := ⟨type, v, rfl, rfl, refused⟩
  before _ lt := absurd lt (Nat.not_lt_zero _)

theorem FirstRefused.cons {x : type.Carrier} (ok : v.convert type = .ok x)
    (later : FirstRefused types args i d) : FirstRefused (type :: types) (v :: args) (i + 1) d where
  refused := later.refused
  before j lt type' v' hType hArg := by
    rcases j with - | j
    · cases hType
      cases hArg
      exact ⟨x, ok⟩
    · exact later.before j (Nat.lt_of_succ_lt_succ lt) type' v' hType hArg

theorem convert_of_some {x : type.Carrier} (h : v.convert? type = some x) :
    v.convert type = .ok x := by
  unfold Value.convert
  rw [h]

/-- An argument that is not converted is refused with a diagnostic. -/
theorem convert_cases (v : Value) (type : ParamType) :
    (∃ x, v.convert type = .ok x) ∨ ∃ d, v.convert type = .error (.diagnostic d) := by
  unfold Value.convert
  cases v.convert? type with
  | some x => exact .inl ⟨x, rfl⟩
  | none => exact .inr ⟨_, rfl⟩

/-- As many arguments as parameters convert, or one of them is the leftmost that does not. -/
theorem converted_or_firstRefused : ∀ {types : List ParamType} {args : List Value},
    args.length = types.length →
      (∃ xs, Converted types args xs) ∨ ∃ i d, FirstRefused types args i d
  | [], args, count => .inl ⟨(), List.eq_nil_of_length_eq_zero count⟩
  | type :: types, v :: args, count => by
    rcases convert_cases v type with ⟨x, ok⟩ | ⟨d, refused⟩
    · rcases converted_or_firstRefused (Nat.succ.inj count) with ⟨xs, all⟩ | ⟨i, d, later⟩
      · exact .inl ⟨(x, xs), ok, all⟩
      · exact .inr ⟨i + 1, d, later.cons ok⟩
    · exact .inr ⟨0, d, .here refused⟩

theorem Converted.length_eq : ∀ {types : List ParamType} {args : List Value}
    {xs : Arguments types}, Converted types args xs → args.length = types.length
  | [], _, _, all => congrArg List.length (show _ = [] from all)
  | _ :: _, _ :: _, (_, _), all => congrArg Nat.succ (length_eq all.2)

theorem Converted.convertArguments : ∀ {types : List ParamType} {args : List Value}
    {xs : Arguments types} {place : Nat}, Converted types args xs →
      HostFunction.convertArguments name place types args = .ok xs
  | [], _, _, _, _ => rfl
  | _ :: _, _ :: _, (_, _), _, all => by
    unfold HostFunction.convertArguments
    rw [all.1]
    dsimp only
    rw [Converted.convertArguments all.2]
    rfl

/-- The failure of the conversion is that of the leftmost argument that does not convert, with one
more note. -/
theorem FirstRefused.convertArguments : ∀ {types : List ParamType} {args : List Value}
    {place i : Nat}, FirstRefused types args i d →
      HostFunction.convertArguments name place types args =
        .error (.diagnostic (d.withNote (HostFunction.conversionNote name (place + i))))
  | [], _, _, _, h => by
    obtain ⟨type, v, found, -, -⟩ := h.refused
    cases found
  | _ :: _, [], _, _, h => by
    obtain ⟨type, v, -, found, -⟩ := h.refused
    cases found
  | type :: types, v :: args, place, 0, h => by
    obtain ⟨type', v', hType, hArg, refused⟩ := h.refused
    cases hType
    cases hArg
    unfold HostFunction.convertArguments
    rw [refused]
    rfl
  | type :: types, v :: args, place, i + 1, h => by
    obtain ⟨x, ok⟩ := h.before 0 (Nat.zero_lt_succ i) type v rfl rfl
    have later : FirstRefused types args i d :=
      ⟨h.refused, fun j lt => h.before (j + 1) (Nat.succ_lt_succ lt)⟩
    unfold HostFunction.convertArguments
    rw [ok]
    dsimp only
    rw [later.convertArguments, Nat.add_right_comm]
    rfl

end

/-! ## Calls -/

/-- The diagnostic `d'` is `d` at `span`, unless `d` has a span of its own. -/
structure Diagnostic.Placed (span : Span) (d d' : Diagnostic) : Prop where
  kind : d'.kind = d.kind
  message : d'.message = d.message
  span : d'.span = some (d.span.getD span)
  position : d'.position = d.position
  expected : d'.expected = d.expected
  notes : d'.notes = d.notes

theorem Diagnostic.placed_orSpan (span : Span) (d : Diagnostic) :
    d.Placed span (d.orSpan span) := by
  unfold orSpan
  cases own : d.span with
  | none => exact ⟨rfl, rfl, by rw [own]; rfl, rfl, rfl, rfl⟩
  | some place => exact ⟨rfl, rfl, by rw [own]; exact own, rfl, rfl, rfl⟩

/-- What a call at `span` yields, for how the function called ends: the call is over, and a
diagnostic is placed. -/
inductive Outcome.Answered (span : Span) : Outcome Value → Outcome Value → Prop
  | value (v : Value) (t : State) : Answered span (.value v t) (.value v t.leave)
  | diagnostic {d d' : Diagnostic} (placed : d.Placed span d') (t : State) :
    Answered span (.failure (.diagnostic d) t) (.failure (.diagnostic d') t.leave)
  | io (reason : String) (t : State) :
    Answered span (.failure (.io reason) t) (.failure (.io reason) t.leave)
  | outOfFuel : Answered span .outOfFuel .outOfFuel

theorem Outcome.Answered.of_diagnostic {span : Span} {d : Diagnostic} {t : State}
    {o : Outcome Value} (h : (Outcome.failure (.diagnostic d) t).Answered span o) :
    ∃ d', d.Placed span d' ∧ o = .failure (.diagnostic d') t.leave := by
  cases h with
  | diagnostic placed => exact ⟨_, placed, rfl⟩

/-- Called with `args`, the function does what `action` does, once, and nothing else: called
directly by the host, and called by an expression, if the depth allows one more call. -/
structure HostFunction.Does (f : HostFunction) (args : List Value) (action : HostAction) :
    Prop where
  direct : ∀ fuel s, Interpreter.callNative fuel f args s = perform (serve fuel) action s
  evaluated : ∀ {fuel scope key exprs span s t},
    evalArgs (serve (fuel + 1)) scope exprs s = .value args t →
      t.functions.get? key = some (.native f) → t.depth < t.maxCallDepth →
        (perform (serve fuel) action t.enter).Answered span
          ((Expr.call key exprs span).eval (serve (fuel + 1)) scope s)

section

variable {f : HostFunction} {args : List Value} {action : HostAction} {span : Span} {s t : State}

theorem Run.answered_between (m : Run Value) (s : State) :
    (m s.enter).Answered span ((m.orSpan span).between State.enter State.leave s) := by
  unfold between orSpan
  cases m s.enter with
  | value v t => exact .value v t
  | failure e t =>
    cases e with
    | diagnostic d => exact .diagnostic (d.placed_orSpan span) t
    | io reason => exact .io reason t
  | outOfFuel => exact .outOfFuel

theorem eval_call_of_native {fuel : Nat} {scope : ScopeId} {key : String} {exprs : List Expr}
    (values : evalArgs (serve (fuel + 1)) scope exprs s = .value args t)
    (found : t.functions.get? key = some (.native f)) (room : t.depth < t.maxCallDepth) :
    (Expr.call key exprs span).eval (serve (fuel + 1)) scope s =
      ((perform (serve fuel) (f.invoke args)).orSpan span).between State.enter State.leave t := by
  unfold Expr.eval
  rw [Run.bind_value values, ← Run.counted_of_room span _ room]
  exact callNamed_of_native _ _ _ found

theorem HostFunction.invoke_typed (name : String) (types : List ParamType)
    (body : Arguments types → HostAction) (args : List Value) :
    (typed name types body).invoke args =
      if args.length = types.length then
        match convertArguments name 1 types args with
        | .error e => .fail e
        | .ok xs => body xs
      else .fail (Fault.argumentCount name types.length args.length).bare := by
  have arity : (typed name types body).arity = some types.length :=
    congrArg some (List.length_map _)
  unfold invoke
  rw [arity]
  rfl

theorem HostFunction.does_of_invoke (h : f.invoke args = action) : f.Does args action where
  direct fuel s := by
    unfold Interpreter.callNative
    rw [h]
  evaluated values found room := by
    rw [eval_call_of_native values found room, h]
    exact Run.answered_between _ _

end

/-- Typed calls are all-or-nothing in their arguments, whatever the body is. With another number of
arguments than parameters, the call does nothing but fail; with as many, all arguments convert, or
one is the leftmost that does not. If one does not, the call does nothing but fail with its
refusal, to which a note is added; and if all convert, it does what the body does with them. -/
theorem typed_call_all_or_nothing (name : String) (types : List ParamType)
    (body : Arguments types → HostAction) (args : List Value) :
    (args.length ≠ types.length → (HostFunction.typed name types body).Does args
      (.fail (.diagnostic { kind := .arity, message :=
        s!"function `{name}` expected {types.length} argument(s) but received {args.length}" }))) ∧
    (args.length = types.length →
      (∃ xs, Converted types args xs) ∨ ∃ i d, FirstRefused types args i d) ∧
    (∀ i d, args.length = types.length → FirstRefused types args i d →
      (HostFunction.typed name types body).Does args (.fail (.diagnostic
        { d with notes := d.notes ++ [s!"while converting argument {i + 1} of `{name}`"] }))) ∧
    ∀ xs, Converted types args xs → (HostFunction.typed name types body).Does args (body xs) := by
  refine ⟨fun other => HostFunction.does_of_invoke ?_, converted_or_firstRefused,
    fun i d count refused => HostFunction.does_of_invoke ?_,
    fun xs all => HostFunction.does_of_invoke ?_⟩ <;> rw [HostFunction.invoke_typed]
  · rw [if_neg other]
    rfl
  · rw [if_pos count, refused.convertArguments, Nat.add_comm]
    rfl
  · rw [if_pos all.length_eq, all.convertArguments]

/-- A function that joins a number, a text, a truth value and any value. -/
def mix : HostFunction :=
  .typed "mix" [.int64, .string, .bool, .value] fun (count, label, flag, v, _) =>
    .value (.string (Catalog.mixedText count label flag v))

/-- Given four arguments of which the second and the third do not convert, the function fails for
the second one, and called in a program, the failure stands at the call. Given one argument it fails
for the number of them, and given four that convert, it joins them. -/
theorem typed_call_all_or_nothing_mix :
    ∃ d : Diagnostic, d.kind = .conversion ∧ d.span = none ∧
      d.notes = ["while converting argument 2 of `mix`"] ∧
      (∀ fuel s, Interpreter.callNative fuel mix
        [.number 1, .null, .string "maybe", .null] s = .failure (.diagnostic d) s) ∧
      (∃ d', d.Placed ⟨0, 27⟩ d' ∧
        (Expr.call "mix" [.literal (.number 1) ⟨4, 5⟩, .literal .null ⟨7, 11⟩,
          .literal (.string "maybe") ⟨13, 20⟩, .literal .null ⟨22, 26⟩] ⟨0, 27⟩).eval (serve 1)
            State.root ((State.initial {}).install "mix" (.native mix)) =
          .failure (.diagnostic d') ((State.initial {}).install "mix" (.native mix))) ∧
      (∀ fuel s, Interpreter.callNative fuel mix [.number 1] s =
        .failure (Fault.argumentCount "mix" 4 1).bare s) ∧
      ∀ fuel s, Interpreter.callNative fuel mix [.number 1, .bool true, .string "TRUE", .null] s =
        .value (.string "1|true|true|null:null") s := by
  have law := typed_call_all_or_nothing "mix" [.int64, .string, .bool, .value]
    fun (count, label, flag, v, _) => .value (.string (Catalog.mixedText count label flag v))
  have one : (Value.number 1).convert .int64 = .ok (1 : Int) :=
    convert_of_some (show some (Binary.round64 1) = some (1 : Int) by decide +kernel)
  have flag : (Value.string "TRUE").convert .bool = .ok true :=
    convert_of_some (show (Value.string "TRUE").toBool? = some true by decide +kernel)
  have refused : FirstRefused [.int64, .string, .bool, .value]
      [.number 1, .null, .string "maybe", .null] 1 _ := .cons one (.here rfl)
  have fails : mix.Does _ _ := (law _).2.2.1 1 _ rfl refused
  have counts : mix.Does [.number 1] (.fail (Fault.argumentCount "mix" 4 1).bare) :=
    (law _).1 (by decide)
  have joins : mix.Does [.number 1, .bool true, .string "TRUE", .null]
      (.value (.string (Catalog.mixedText 1 "true" true .null))) :=
    (law _).2.2.2 ((1 : Int), "true", true, .null, ()) ⟨one, rfl, flag, rfl, rfl⟩
  refine ⟨_, rfl, rfl, rfl, fails.direct, ?_, counts.direct, fun fuel s => ?_⟩
  · exact (fails.evaluated (t := (State.initial {}).install "mix" (.native mix))
      rfl rfl (by decide)).of_diagnostic
  · rw [joins.direct]
    exact congrArg (Outcome.value · s) (by decide +kernel)

end Scriptlet
