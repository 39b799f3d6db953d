import Scriptlet.Proofs.Evaluation.Chronicle

/-
  What a run records.
  The entries that an evaluation adds to the transcript are the chronicle of what is recorded at its
  moments (`Moment.told`), however it ends: the order in which the parts of an evaluation are listed
  is the order in which they act.
-/

namespace Scriptlet

/-- What is recorded at a moment. -/
def recording (m : Moment) : List Entry :=
  match m.work with
  | .action (.ask (.record entry) _ _) => [entry]
  | _ => []

/-- If the computation ends, it has added these entries to the transcript. -/
def Outcome.Records {α : Type} (entries : List Entry) (s : State) (o : Outcome α) : Prop :=
  o.Leaves fun t => t.transcript = s.transcript ++ entries

theorem Outcome.flatMap_onward {α β γ : Type} (o : Outcome α) (f : α → State → List β)
    (g : β → List γ) : (o.onward f).flatMap g = o.onward fun a t => (f a t).flatMap g := by
  cases o <;> rfl

theorem Outcome.onward_nil {α β : Type} (o : Outcome α) :
    (o.onward fun _ _ => ([] : List β)) = [] := by
  cases o <;> rfl

namespace Run

variable {α β : Type} {m : Run α} {f : α → Run β} {s : State} {entries : List Entry}

theorem records_of_same (h : (m s).Leaves (·.recorded = s.recorded)) : (m s).Records [] s := by
  refine h.mono fun t same => ?_
  unfold State.transcript
  rw [same, List.append_nil]

theorem records_of_leaves (h : (m s).Leaves (· = s)) : (m s).Records [] s :=
  records_of_same (h.mono fun _ same => congrArg State.recorded same)

theorem records_lift (r : Except Failure α) : (Run.lift r s).Records [] s :=
  records_of_leaves (by cases r <;> exact rfl)

/-- What follows adds its entries after those of the first part. -/
theorem records_bind {later : α → State → List Entry} (first : (m s).Records entries s)
    (next : ∀ a t, m s = .value a t → (f a t).Records (later a t) t) :
    ((m >>= f) s).Records (entries ++ (m s).onward later) s := by
  rw [bind_eq]
  cases made : m s with
  | value a t =>
    rw [made] at first
    refine (next a t made).mono fun u ended => ?_
    rw [ended, first, List.append_assoc]
    rfl
  | failure e t =>
    rw [made] at first
    exact first.trans (congrArg _ (List.append_nil entries).symm)
  | outOfFuel => exact trivial

theorem records_then (first : (m s).Records entries s)
    (silent : ∀ a t, m s = .value a t → (f a t).Records [] t) :
    ((m >>= f) s).Records entries s := by
  have all := records_bind first silent
  rw [Outcome.onward_nil, List.append_nil] at all
  exact all

theorem records_attempt (h : (m s).Records entries s) : (Run.attempt m s).Records entries s := by
  unfold attempt
  cases made : m s with
  | value a t =>
    rw [made] at h
    exact h
  | failure e t =>
    rw [made] at h
    exact h
  | outOfFuel => exact trivial

theorem records_orSpan (span : Span) (h : (m s).Records entries s) :
    (m.orSpan span s).Records entries s := by
  unfold orSpan
  cases made : m s with
  | value a t =>
    rw [made] at h
    exact h
  | failure e t =>
    rw [made] at h
    exact h
  | outOfFuel => exact trivial

/-- What is done around a computation does not record. -/
theorem records_between {before after : State → State}
    (silent : (before s).recorded = s.recorded) (silent' : ∀ t, (after t).recorded = t.recorded)
    (h : (m (before s)).Records entries (before s)) :
    (m.between before after s).Records entries s := by
  refine leaves_between (h.mono fun t ended => ?_)
  unfold State.transcript at *
  rw [silent', ended, silent]

theorem records_assign (id : ScopeId) (name : String) (v : Value) (span : Span) :
    (Run.assign id name v span s).Records [] s := by
  unfold Run.assign
  split
  next => exact records_of_leaves rfl
  next => exact records_of_same rfl

theorem records_register (id : ScopeId) (f : HostFunction) :
    (Run.register id f s).Records [] s := by
  unfold Run.register
  split
  next t made =>
    rw [State.register_eq_ok made]
    exact (List.append_nil s.transcript).symm
  next => exact records_of_leaves rfl

theorem records_bindParams (scope : ScopeId) (span : Span) : ∀ (names : List String)
    (values : List Value) (s : State), (bindParams scope span names values s).Records [] s
  | name :: names, v :: values, _ =>
    records_then (records_assign scope name v span) fun _ t _ =>
      records_bindParams scope span names values t
  | [], [], _ => records_of_leaves rfl
  | [], _ :: _, _ => records_of_leaves rfl
  | _ :: _, [], _ => records_of_leaves rfl

end Run

open Run

/-- What the evaluation adds to the transcript is what its moments record. -/
def Moment.Told (m : Moment) : Prop :=
  (m.work.run m.fuel m.state).Records (m.chronicle recording) m.state

/-! ## What is evaluated records what its parts record

In each case the first part is set against the head of the list of parts, and what follows it
against the rest, which depends on how the first part ends. -/

section

variable {fuel calls : Nat} {scope : ScopeId} {s : State}

theorem Expr.told {e : Expr}
    (parts : ∀ part, Leads ⟨fuel, .expr scope e, s, calls⟩ part → part.Told) :
    Moment.Told ⟨fuel, .expr scope e, s, calls⟩ := by
  unfold Moment.Told
  rw [Moment.chronicle_eq]
  cases e with
  | literal value span => exact records_of_leaves rfl
  | «variable» name span => exact records_of_leaves (leaves_lookup scope name span s)
  | function declaration span => exact records_of_same rfl
  | binary op l r span =>
    show ((l.eval (serve fuel) scope >>= _) s).Records (List.flatMap _ (_ :: _)) s
    rw [List.flatMap_cons, Outcome.flatMap_onward]
    refine records_bind (parts _ .left) fun a t first => ?_
    cases settled : op.settled? a l.span with
    | error e => exact records_of_leaves rfl
    | ok settled? =>
      cases settled? with
      | some v => exact records_of_leaves rfl
      | none =>
        show ((r.eval (serve fuel) scope >>= _) t).Records (List.flatMap _ [_]) t
        rw [List.flatMap_singleton]
        exact records_then (parts _ (.right first settled)) fun b u _ => records_lift _
  | unary op e span =>
    show ((e.eval (serve fuel) scope >>= _) s).Records (List.flatMap _ [_]) s
    rw [List.flatMap_singleton]
    exact records_then (parts _ .operand) fun v t _ => records_lift _
  | call name es span =>
    show ((evalArgs (serve fuel) scope es >>= _) s).Records (List.flatMap _ (_ :: _)) s
    rw [List.flatMap_cons, Outcome.flatMap_onward]
    refine records_bind (parts _ .arguments) fun vs t first => ?_
    rw [List.flatMap_singleton]
    exact parts _ (.dispatch first)

theorem args_told {es : List Expr}
    (parts : ∀ part, Leads ⟨fuel, .args scope es, s, calls⟩ part → part.Told) :
    Moment.Told ⟨fuel, .args scope es, s, calls⟩ := by
  unfold Moment.Told
  rw [Moment.chronicle_eq]
  cases es with
  | nil => exact records_of_leaves rfl
  | cons e es =>
    show ((e.eval (serve fuel) scope >>= _) s).Records (List.flatMap _ (_ :: _)) s
    rw [List.flatMap_cons, Outcome.flatMap_onward]
    refine records_bind (parts _ .head) fun v t first => ?_
    rw [List.flatMap_singleton]
    exact records_then (parts _ (.tail first)) fun vs u _ => records_of_leaves rfl

theorem holds_told {c : Expr} (test : Moment.Told ⟨fuel, .expr scope c, s, calls⟩) :
    (holds (serve fuel) scope c s).Records
      (Moment.chronicle recording ⟨fuel, .expr scope c, s, calls⟩) s :=
  records_then test fun _ _ _ => records_lift _

theorem bindValue_told {name : String} {e : Expr} {span : Span}
    (value : Moment.Told ⟨fuel, .expr scope e, s, calls⟩) :
    (bindValue (serve fuel) scope name e span s).Records
      (Moment.chronicle recording ⟨fuel, .expr scope e, s, calls⟩) s :=
  records_then value fun v _ _ =>
    records_then (records_assign scope name v span) fun _ _ _ => records_of_leaves rfl

theorem branchBody_told {body : List Stmt}
    (part : Moment.Told ⟨fuel, .body scope .null body, s, calls⟩) :
    ((execBody (serve fuel) scope .null body >>= fun flow => pure flow.settle) s).Records
      (List.flatMap (Moment.chronicle recording) [⟨fuel, .body scope .null body, s, calls⟩]) s := by
  rw [List.flatMap_singleton]
  exact records_then part fun _ _ _ => records_of_leaves rfl

theorem Stmt.told {st : Stmt}
    (parts : ∀ part, Leads ⟨fuel, .stmt scope st, s, calls⟩ part → part.Told) :
    Moment.Told ⟨fuel, .stmt scope st, s, calls⟩ := by
  unfold Moment.Told
  rw [Moment.chronicle_eq]
  cases st with
  | «variable» name e span =>
    show (bindValue (serve fuel) scope name e span s).Records (List.flatMap _ [_]) s
    rw [List.flatMap_singleton]
    exact bindValue_told (parts _ .newValue)
  | assign name e span =>
    show (bindValue (serve fuel) scope name e span s).Records (List.flatMap _ [_]) s
    rw [List.flatMap_singleton]
    exact bindValue_told (parts _ .assigned)
  | branch c thenBody elseBody span =>
    cases elseBody with
    | none =>
      show ((holds (serve fuel) scope c >>= _) s).Records (List.flatMap _ (_ :: _)) s
      rw [List.flatMap_cons, Outcome.flatMap_onward]
      refine records_bind (holds_told (parts _ .test)) fun goesOn t first => ?_
      cases goesOn with
      | false => exact records_of_leaves rfl
      | true => exact branchBody_told (parts _ (.thenPart first))
    | some elseBody =>
      show ((holds (serve fuel) scope c >>= _) s).Records (List.flatMap _ (_ :: _)) s
      rw [List.flatMap_cons, Outcome.flatMap_onward]
      refine records_bind (holds_told (parts _ .test)) fun goesOn t first => ?_
      cases goesOn with
      | false => exact branchBody_told (parts _ (.elsePart first))
      | true => exact branchBody_told (parts _ (.thenPart first))
  | loop c body span =>
    show (serve fuel (.loop scope c body) s).Records (List.flatMap _ [_]) s
    rw [List.flatMap_singleton]
    exact parts _ .rounds
  | result value span =>
    cases value with
    | none => exact records_of_leaves rfl
    | some e =>
      show ((e.eval (serve fuel) scope >>= _) s).Records (List.flatMap _ [_]) s
      rw [List.flatMap_singleton]
      exact records_then (parts _ .returned) fun _ _ _ => records_of_leaves rfl
  | jump jump span => exact records_of_leaves rfl
  | expr e span =>
    show ((e.eval (serve fuel) scope >>= _) s).Records (List.flatMap _ [_]) s
    rw [List.flatMap_singleton]
    exact records_then (parts _ .alone) fun _ _ _ => records_of_leaves rfl

theorem body_told {ss : List Stmt} {last : Value}
    (parts : ∀ part, Leads ⟨fuel, .body scope last ss, s, calls⟩ part → part.Told) :
    Moment.Told ⟨fuel, .body scope last ss, s, calls⟩ := by
  unfold Moment.Told
  rw [Moment.chronicle_eq]
  cases ss with
  | nil => exact records_of_leaves rfl
  | cons st ss =>
    show ((st.exec (serve fuel) scope >>= _) s).Records (List.flatMap _ (_ :: _)) s
    rw [List.flatMap_cons, Outcome.flatMap_onward]
    refine records_bind (parts _ .first) fun flow t first => ?_
    cases flow with
    | normal v =>
      show (execBody (serve fuel) scope v ss t).Records (List.flatMap _ [_]) t
      rw [List.flatMap_singleton]
      exact parts _ (.rest first)
    | result v => exact records_of_leaves rfl
    | jump jump => exact records_of_leaves rfl

theorem program_told {p : Program}
    (parts : ∀ part, Leads ⟨fuel, .program scope p, s, calls⟩ part → part.Told) :
    Moment.Told ⟨fuel, .program scope p, s, calls⟩ := by
  unfold Moment.Told
  rw [Moment.chronicle_eq]
  show ((execBody (serve fuel) scope .null p.statements >>= _) s).Records (List.flatMap _ [_]) s
  rw [List.flatMap_singleton]
  exact records_then (parts _ .statements) fun _ _ _ => records_lift _

theorem deliver_told {line : String}
    (handled : s.handling = false →
      Moment.Told ⟨fuel, .task (.act (s.handler line)), s.withHandling true, calls⟩) :
    (deliver (serve fuel) line s).Records
      ((HostRequest.parts fuel calls s (.print line)).flatMap (Moment.chronicle recording)) s := by
  unfold deliver HostRequest.parts
  dsimp only
  split
  next => exact records_of_leaves rfl
  next free =>
    rw [List.flatMap_singleton]
    refine records_between rfl (fun _ => rfl) ?_
    have told := handled (Bool.eq_false_iff.2 free)
    exact records_then (records_attempt told) fun _ _ _ => records_of_leaves rfl

/-- What an answer takes to give: what is recorded at the request, and by what it leads to. -/
theorem respond_told {request : HostRequest} {code : request.Given → HostAction}
    {resume : request.Answer → HostAction}
    (parts : ∀ part, Leads ⟨fuel, .action (.ask request code resume), s, calls⟩ part →
      part.Told) :
    (respond (serve fuel) request code s).Records
      (recording ⟨fuel, .action (.ask request code resume), s, calls⟩ ++
        (request.parts fuel calls s).flatMap (Moment.chronicle recording)) s := by
  cases request with
  | record entry =>
    show (s.record entry).transcript = s.transcript ++ [entry]
    unfold State.transcript
    exact List.reverse_cons
  | print line =>
    exact records_attempt (deliver_told fun free => parts _ (.handled free))
  | call id name vs =>
    refine records_attempt (m := serve fuel (.call id name vs .zero)) ?_
    show (serve fuel (.call id name vs .zero) s).Records (List.flatMap _ [_]) s
    rw [List.flatMap_singleton]
    exact parts _ .called
  | execute id source =>
    refine records_attempt (m := serve fuel (.execute id source)) ?_
    show (serve fuel (.execute id source) s).Records (List.flatMap _ [_]) s
    rw [List.flatMap_singleton]
    exact parts _ .executed
  | define id name v =>
    refine records_attempt (records_then (records_assign id name v .zero) fun _ _ _ => ?_)
    exact records_of_leaves rfl
  | read id name span => exact records_attempt (records_of_leaves (leaves_lookup id name span s))
  | bindings id => exact records_of_leaves rfl
  | functions => exact records_of_leaves rfl
  | child id => exact records_of_same rfl
  | register id name slots =>
    refine records_attempt (records_then (records_register id _) fun _ _ _ => ?_)
    exact records_of_leaves rfl
  | onPrint =>
    show (respond (serve fuel) .onPrint code s).Records [] s
    unfold respond
    dsimp only
    split
    next => exact records_of_leaves (m := Pure.pure false) rfl
    next => exact (List.append_nil s.transcript).symm

theorem HostAction.told {a : HostAction}
    (parts : ∀ part, Leads ⟨fuel, .action a, s, calls⟩ part → part.Told) :
    Moment.Told ⟨fuel, .action a, s, calls⟩ := by
  unfold Moment.Told
  rw [Moment.chronicle_eq]
  cases a with
  | done result => exact records_lift result
  | ask request code resume =>
    show ((respond (serve fuel) request code >>= _) s).Records
      (_ ++ (request.parts fuel calls s ++ _).flatMap _) s
    rw [List.flatMap_append, ← List.append_assoc, Outcome.flatMap_onward]
    refine records_bind (respond_told parts) fun answer t first => ?_
    rw [List.flatMap_singleton]
    exact parts _ (.resumed first)

theorem callLibrary_records (name : String) (vs : List Value) (span : Span) (s : State) :
    (callLibrary name vs span s).Records [] s := by
  unfold callLibrary
  split
  next => exact records_of_leaves rfl
  next f found => exact records_lift _

theorem call_told {name : String} {vs : List Value} {span : Span}
    (parts : ∀ part, Leads ⟨fuel + 1, .task (.call scope name vs span), s, calls⟩ part →
      part.Told) :
    Moment.Told ⟨fuel + 1, .task (.call scope name vs span), s, calls⟩ := by
  unfold Moment.Told
  rw [Moment.chronicle_eq]
  show (callNamed (serve fuel) scope name vs span s).Records
    ((callParts fuel calls s scope name vs span).flatMap _) s
  unfold callNamed callParts
  cases found : s.functions.get? name with
  | none => exact callLibrary_records name vs span s
  | some callable =>
    cases callable with
    | native f =>
      dsimp only
      rcases Nat.lt_or_ge s.depth s.maxCallDepth with room | full
      · rw [counted_of_room span _ room, if_pos room, List.flatMap_singleton]
        have performed := parts _ (.native found room)
        exact records_between rfl (fun _ => rfl) (records_orSpan span performed)
      · rw [counted_of_full span _ full, if_neg (Nat.not_lt_of_le full)]
        exact records_of_leaves rfl
    | scripted d =>
      dsimp only
      by_cases count : vs.length = d.params.length
      · rw [callDeclared_of_count _ span count]
        rcases Nat.lt_or_ge s.depth s.maxCallDepth with room | full
        · rw [counted_of_room span _ room, if_pos ⟨count, room⟩, Outcome.flatMap_onward]
          refine records_between rfl (fun _ => rfl) (records_between rfl (fun _ => rfl) ?_)
          refine records_bind (records_bindParams _ span d.params vs _) fun _ t bound => ?_
          rw [List.flatMap_singleton]
          exact records_then (parts _ (.scripted found count room bound)) fun _ _ _ =>
            records_lift _
        · rw [counted_of_full span _ full, if_neg fun fits => Nat.not_lt_of_le full fits.2]
          exact records_of_leaves rfl
      · rw [if_neg fun fits => count fits.1]
        unfold callDeclared
        rw [if_neg count]
        exact records_of_leaves rfl

theorem loop_told {c : Expr} {body : List Stmt}
    (parts : ∀ part, Leads ⟨fuel + 1, .task (.loop scope c body), s, calls⟩ part → part.Told) :
    Moment.Told ⟨fuel + 1, .task (.loop scope c body), s, calls⟩ := by
  unfold Moment.Told
  rw [Moment.chronicle_eq]
  show ((holds (serve fuel) scope c >>= _) s).Records (List.flatMap _ (_ :: _)) s
  rw [List.flatMap_cons, Outcome.flatMap_onward]
  refine records_bind (holds_told (parts _ .condition)) fun goesOn t first => ?_
  cases goesOn with
  | false => exact records_of_leaves rfl
  | true =>
    show ((execBody (serve fuel) scope .null body >>= _) t).Records (List.flatMap _ (_ :: _)) t
    rw [List.flatMap_cons, Outcome.flatMap_onward]
    refine records_bind (parts _ (.round first)) fun flow u ended => ?_
    have again (goesOn : flow = .jump .continueLoop ∨ ∃ v, flow = .normal v) :
        (serve fuel (.loop scope c body) u).Records
          (List.flatMap (Moment.chronicle recording) [⟨fuel, .task (.loop scope c body), u, calls⟩])
          u := by
      rw [List.flatMap_singleton]
      exact parts _ (.again first ended goesOn)
    cases flow with
    | normal v => exact again (.inr ⟨v, rfl⟩)
    | result v => exact records_of_leaves rfl
    | jump jump =>
      cases jump with
      | breakLoop => exact records_of_leaves rfl
      | continueLoop => exact again (.inl rfl)

theorem execute_told {source : String}
    (parts : ∀ part, Leads ⟨fuel + 1, .task (.execute scope source), s, calls⟩ part → part.Told) :
    Moment.Told ⟨fuel + 1, .task (.execute scope source), s, calls⟩ := by
  unfold Moment.Told
  rw [Moment.chronicle_eq]
  show (runSource (serve fuel) scope source s).Records
    ((Task.parts fuel calls s (.execute scope source)).flatMap _) s
  unfold runSource Task.parts
  dsimp only
  cases read : Program.ofSource source with
  | error d =>
    cases parsed : Program.parse source with
    | error fault => exact records_of_leaves rfl
    | ok p =>
      rw [Program.ofSource_ok_iff.2 parsed] at read
      cases read
  | ok p =>
    have parsed := Program.ofSource_ok_iff.1 read
    rw [parsed]
    show (runProgram (serve fuel) scope p s).Records (List.flatMap _ [_]) s
    rw [List.flatMap_singleton]
    exact parts _ (.source parsed)

/-- What an evaluation records, its parts record in the order in which they begin. -/
theorem Moment.told (m : Moment) : m.Told := by
  induction m using partOf_wellFounded.induction with
  | _ m ih =>
    obtain ⟨fuel, work, s, calls⟩ := m
    cases work with
    | expr scope e => exact Expr.told ih
    | args scope es => exact args_told ih
    | stmt scope st => exact Stmt.told ih
    | body scope last ss => exact body_told ih
    | program scope p => exact program_told ih
    | action a => exact HostAction.told ih
    | task t =>
      cases fuel with
      | zero => exact trivial
      | succ fuel =>
        cases t with
        | call scope name vs span => exact call_told ih
        | loop scope c body => exact loop_told ih
        | execute scope source => exact execute_told ih
        | act a =>
          unfold Moment.Told
          rw [Moment.chronicle_eq]
          show (perform (serve fuel) a s).Records (List.flatMap _ [_]) s
          rw [List.flatMap_singleton]
          exact ih _ .act

end

end Scriptlet
