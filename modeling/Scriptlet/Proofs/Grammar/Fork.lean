import Scriptlet.Proofs.Grammar.Progress

/-
  Two readings that part.
  Two lists of tokens begin alike, but for spans, and then go on in different ways (`Fork`). As long
  as both readings are in what the lists share they do the same. Once one of them has come to where
  the lists part there are few ways in which they can differ (`Echo`), and these are kept by every
  way in which a production is put together from the phrases inside it: one after the other
  (`Steady.bind`), one or another as the next token tells (`Steady.choose`), or none at a token that
  ends a list of statements (`Steady.orEnd`).
-/

namespace Scriptlet

namespace Token

variable {t u : Token}

theorem kind_eq_of_unspanned (h : t.unspanned = u.unspanned) : t.kind = u.kind :=
  (congrArg Token.kind h :)

theorem lexeme_eq_of_unspanned (h : t.unspanned = u.unspanned) : t.lexeme = u.lexeme :=
  (congrArg Token.lexeme h :)

end Token

namespace Wanted

/-- The token has one of the kinds that are wanted, and a number can be read. -/
def Accepts (wanted : Wanted) (t : Token) : Prop :=
  t.kind ∈ wanted.kinds ∧
    (t.kind = .number → (Binary.read? t.lexeme : Option Single).isSome = true)

variable {wanted : Wanted} {t : Token}

/-- What is wanted is the beginning of an operand. -/
def BeginsOperand (wanted : Wanted) : Prop := wanted = .operand ∨ wanted = .numeral

theorem BeginsOperand.accepts (begins : wanted.BeginsOperand) (h : wanted.Accepts t) :
    operand.Accepts t := by
  rcases begins with rfl | rfl
  · exact h
  · have kind : t.kind = .number := List.mem_singleton.1 h.1
    exact ⟨kind ▸ by decide, h.2⟩

/-- Names can begin operands. -/
theorem operand_accepts_of_identifier (begins : t.kind = .identifier) :
    operand.Accepts t := by
  refine ⟨begins ▸ by decide, fun number => ?_⟩
  cases begins.symm.trans number

/-- No operand begins with a token that ends a list of statements. -/
theorem not_operand_accepts_of_endsResult (ends : Grammar.endsResult t.kind = true) :
    ¬ operand.Accepts t := by
  have none : ∀ kind ∈ operand.kinds, Grammar.endsResult kind = false := by decide
  intro fits
  exact absurd (none _ fits.1) (ne_false_of_eq_true ends)

/-- A token that is refused as an operand and as the end of a block is refused at every place where
a list of statements can end. -/
theorem not_accepts_of_operand (which : wanted.BeginsOperand ∨ wanted = .blockEnd)
    (unfit : ¬ operand.Accepts t) (other : t.kind ≠ .rightBrace) : ¬ wanted.Accepts t := by
  intro fits
  rcases which with begins | rfl
  · exact unfit (begins.accepts fits)
  · exact other (List.mem_singleton.1 fits.1)

end Wanted

namespace Grammar

variable {α β κ μ : Type} {ts us rest : List Token}

/-! ## Where a reading looks -/

/-- What was read leaves an end of the tokens, or the unexpected token begins such an end. -/
def Within (ts : List Token) : Except ParseFault (α × List Token) → Prop
  | .ok (_, rest) => rest <:+ ts
  | .error (.unexpected _ found) => ∃ rest, rest <:+ ts ∧ found = next rest
  | .error _ => True

theorem Within.mono {o : Except ParseFault (α × List Token)} (h : Within ts o) (sub : ts <:+ us) :
    Within us o := by
  match o, h with
  | .ok (_, rest), h => exact h.trans sub
  | .error (.unexpected _ found), ⟨rest, inside, begins⟩ => exact ⟨rest, inside.trans sub, begins⟩
  | .error (.typeMismatch _ _ _ _), _ => trivial
  | .error .exhausted, _ => trivial

theorem Within.of_tail {o : Except ParseFault (α × List Token)} (h : Within ts.tail o) :
    Within ts o :=
  h.mono (List.tail_suffix ts)

theorem tail_suffix_tail (sub : rest <:+ ts) : rest.tail <:+ ts.tail := by
  obtain ⟨before, rfl⟩ := sub
  cases before with
  | nil => exact List.suffix_refl _
  | cons t before => exact (List.tail_suffix rest).trans (List.suffix_append before rest)

theorem within_error (wanted : Wanted) (ts : List Token) :
    Within ts (.error (.unexpected wanted (next ts)) : Except ParseFault (α × List Token)) :=
  ⟨ts, List.suffix_refl ts, rfl⟩

theorem Within.bind {m : Except ParseFault (α × List Token)}
    {f : α × List Token → Except ParseFault (β × List Token)} (first : Within ts m)
    (then_ : ∀ r rest, Within rest (f (r, rest))) : Within ts (m >>= f) := by
  match m, first with
  | .ok (r, rest), first => exact (then_ r rest).mono first
  | .error (.unexpected _ _), first => exact first
  | .error (.typeMismatch _ _ _ _), _ => trivial
  | .error .exhausted, _ => trivial

/-- A phrase that takes a token reads on from it, unless it refuses the token for one that an
operand can begin with. It takes none of those that end a list of statements. -/
inductive Start (ts : List Token) (o : Except ParseFault (α × List Token)) : Prop
  | takes (more : endsResult (nextKind ts) = false) (goes : Within ts.tail o)
  | refuses {wanted : Wanted} (begins : wanted.BeginsOperand)
    (failed : o = .error (.unexpected wanted (next ts)))
    (unfit : ¬ Wanted.operand.Accepts (next ts))
  | exhausted (failed : o = .error .exhausted)

namespace Start

variable {o : Except ParseFault (α × List Token)}

theorem of_kind {kind : TokenKind} (begins : nextKind ts = kind) (more : endsResult kind = false)
    (goes : Within ts.tail o) : Start ts o :=
  .takes (begins ▸ more) goes

theorem forms (h : Start ts o) : Within ts.tail o ∨ ∃ wanted : Wanted, wanted.BeginsOperand ∧
    o = .error (.unexpected wanted (next ts)) ∧ ¬ Wanted.operand.Accepts (next ts) := by
  cases h with
  | takes _ goes => exact .inl goes
  | refuses begins failed unfit => exact .inr ⟨_, begins, failed, unfit⟩
  | exhausted failed => exact .inl (failed ▸ trivial)

theorem within (h : Start ts o) : Within ts o := by
  rcases h.forms with goes | ⟨wanted, -, failed, -⟩
  · exact goes.of_tail
  · exact failed ▸ within_error wanted ts

/-- A token that an operand can begin with is taken. -/
theorem within_tail (h : Start ts o) (fits : Wanted.operand.Accepts (next ts)) :
    Within ts.tail o := by
  rcases h.forms with goes | ⟨-, -, -, unfit⟩
  · exact goes
  · exact absurd fits unfit

theorem bind {f : α × List Token → Except ParseFault (β × List Token)} (first : Start ts o)
    (then_ : ∀ r rest, Within rest (f (r, rest))) : Start ts (o >>= f) := by
  cases first with
  | takes more goes => exact .takes more (goes.bind then_)
  | refuses begins failed unfit =>
    subst failed
    exact .refuses begins rfl unfit
  | exhausted failed =>
    subst failed
    exact .exhausted rfl

end Start

/-- Which phrase a reading is inside of, as far as the end of a list of statements matters to it. -/
inductive Place where
  | expression
  | statement
  | program
deriving DecidableEq

/-- What follows a statement, at a token that ends its list of statements, takes this token or
leaves it, or refuses it as no beginning of an operand or as no end of the block. -/
inductive Rests (place : Place) (ts : List Token) (o : Except ParseFault (α × List Token)) : Prop
  | goes (further : Within ts.tail o)
  | stays {r : α} (open_ : place ≠ .expression) (made : o = .ok (r, ts))
  | fails {wanted : Wanted} (which : wanted.BeginsOperand ∨ wanted = .blockEnd)
    (failed : o = .error (.unexpected wanted (next ts)))

theorem Rests.map {place : Place} {o : Except ParseFault (α × List Token)}
    {f : α × List Token → Except ParseFault (β × List Token)} {g : α → β} (h : Rests place ts o)
    (made : ∀ r ts, f (r, ts) = .ok (g r, ts)) : Rests place ts (o >>= f) := by
  cases h with
  | goes further => exact .goes (further.bind fun r rest => made r rest ▸ List.suffix_refl rest)
  | @stays r open_ read =>
    subst read
    exact .stays open_ (made r ts)
  | fails which failed =>
    subst failed
    exact .fails which rfl

/-! ## Two lists that begin alike -/

/-- Two lists of tokens: a stem that is the same in both but for spans, and what follows it in the
one list and in the other. -/
structure Fork where
  stem : List (Token × Token)
  alike : ∀ p ∈ stem, p.1.unspanned = p.2.unspanned
  left : List Token
  right : List Token

namespace Fork

/-- The same place in both lists, not behind the stem. -/
inductive Twin (F : Fork) : List Token → List Token → Prop
  | here : Twin F F.left F.right
  | cons {t u : Token} {ts us : List Token} (mem : (t, u) ∈ F.stem) (later : Twin F ts us) :
    Twin F (t :: ts) (u :: us)

theorem Twin.forms {F : Fork} (h : F.Twin ts us) : (ts = F.left ∧ us = F.right) ∨
    ∃ t u ts' us', ts = t :: ts' ∧ us = u :: us' ∧ (t, u) ∈ F.stem ∧ F.Twin ts' us' := by
  cases h with
  | here => exact .inl ⟨rfl, rfl⟩
  | @cons t u ts us mem later => exact .inr ⟨t, u, ts, us, rfl, rfl, mem, later⟩

theorem Twin.length_le {F : Fork} (h : F.Twin ts us) : F.right.length ≤ us.length := by
  induction h with
  | here => exact Nat.le_refl _
  | cons _ _ ih => exact Nat.le_succ_of_le ih

/-- What is behind the place where the lists part in the one is behind it in the other. -/
theorem Twin.eq_left_of_suffix {F : Fork} (h : F.Twin ts us) (behind : us <:+ F.right) :
    ts = F.left := by
  cases h with
  | here => rfl
  | cons mem later =>
    have short := behind.length_le
    have long := later.length_le
    rw [List.length_cons] at short
    omega

/-- The two lists in the other order. -/
def swap (F : Fork) : Fork where
  stem := F.stem.map Prod.swap
  alike := by
    intro p mem
    obtain ⟨q, inside, rfl⟩ := List.mem_map.1 mem
    exact (F.alike q inside).symm
  left := F.right
  right := F.left

variable {F : Fork} {t u : Token}

theorem Twin.swap (h : F.Twin ts us) : F.swap.Twin us ts := by
  induction h with
  | here => exact .here
  | cons mem _ ih => exact .cons (List.mem_map.2 ⟨_, mem, rfl⟩) ih

theorem kind_eq (mem : (t, u) ∈ F.stem) : t.kind = u.kind :=
  Token.kind_eq_of_unspanned (F.alike _ mem)

end Fork

/-- How two readings from the same place in both lists can come out, where `key` is what is looked
at in a result. The first one is the one that is reported on. -/
inductive Echo (F : Fork) (place : Place) (key : α → κ)
    (o o' : Except ParseFault (α × List Token)) : Prop
  /-- Both read a phrase and leave the same place. -/
  | accepted {r r' : α} {rest rest' : List Token} (made : o = .ok (r, rest))
    (made' : o' = .ok (r', rest')) (alike : key r = key r') (twin : F.Twin rest rest')
  /-- Both refuse the same token of the stem. -/
  | refused {wanted : Wanted} {t u : Token} (mem : (t, u) ∈ F.stem)
    (failed : o = .error (.unexpected wanted t)) (failed' : o' = .error (.unexpected wanted u))
  /-- The first refuses its token behind the stem, and would not have been helped by the other. -/
  | spared {wanted : Wanted} (failed : o = .error (.unexpected wanted (next F.left)))
    (unfit : ¬ wanted.Accepts (next F.right))
  /-- The first has gone on behind the token behind the stem. -/
  | passed (goes : Within F.left.tail o)
  /-- The second has gone on behind the token behind the stem, and the first is behind the stem. -/
  | overtaken (goes : Within F.left o) (goes' : Within F.right.tail o')
  /-- The first is at the end of a list of statements where no statement ends in the second. -/
  | astray {r : α} (open_ : place ≠ .expression) (made : o = .ok (r, F.left))
    (ends : endsResult (nextKind F.left) = true)
    (unfit : ¬ Wanted.operand.Accepts (next F.right)) (other : nextKind F.right ≠ .rightBrace)
  /-- The first is a whole program. -/
  | done {r : α} {rest : List Token} (whole : place = .program) (made : o = .ok (r, rest))

section

variable {F : Fork} {place : Place} {key : α → κ} {key' : β → μ}
  {o o' : Except ParseFault (α × List Token)}
  {f f' : α × List Token → Except ParseFault (β × List Token)}

/-! ## One phrase after another -/

/-- Where two lists part, two phrases that take a token come out in one of the ways. -/
theorem Start.echo (h : Start F.left o) (h' : Start F.right o') : Echo F place key o o' := by
  rcases h.forms with goes | ⟨wanted, begins, failed, -⟩
  · exact .passed goes
  · rcases h'.forms with goes' | ⟨-, -, -, unfit'⟩
    · exact .overtaken (failed ▸ within_error wanted _) goes'
    · exact .spared failed fun fits => unfit' (begins.accepts fits)

theorem Echo.bind {before : Place} (first : Echo F before key o o')
    (total : before = .program → place = .program ∧ ∀ r ts, ∃ s, f (r, ts) = .ok s)
    (forward : ∀ r rest, Within rest (f (r, rest)))
    (forward' : ∀ r rest, Within rest (f' (r, rest)))
    (then_ : ∀ {r r' rest rest'}, o = .ok (r, rest) → o' = .ok (r', rest') → key r = key r' →
      F.Twin rest rest' → Echo F place key' (f (r, rest)) (f' (r', rest')))
    (rests : before ≠ .expression → ∀ r ts, endsResult (nextKind ts) = true →
      Rests place ts (f (r, ts))) :
    Echo F place key' (o >>= f) (o' >>= f') := by
  cases first with
  | accepted made made' alike twin =>
    have later := then_ made made' alike twin
    rw [made, made']
    exact later
  | refused mem failed failed' =>
    rw [failed, failed']
    exact .refused mem rfl rfl
  | spared failed unfit =>
    rw [failed]
    exact .spared rfl unfit
  | passed goes => exact .passed (goes.bind forward)
  | overtaken goes goes' => exact .overtaken (goes.bind forward) (goes'.bind forward')
  | @astray r open_ made ends unfit other =>
    -- what follows goes on, is still at the end of the list, or refuses what the second refuses too
    rw [made]
    cases rests open_ r F.left ends with
    | goes further => exact .passed further
    | stays open_ made => exact .astray open_ made ends unfit other
    | fails which failed =>
      exact .spared failed (Wanted.not_accepts_of_operand which unfit other)
  | @done r rest whole made =>
    obtain ⟨whole, total⟩ := total whole
    obtain ⟨s, read⟩ := total r rest
    rw [made]
    exact .done whole read

/-- Where the first reading refuses a token, both refuse it in the stem, or it stands behind the
stem. -/
theorem Echo.forms_of_error {wanted : Wanted} {t : Token} (e : Echo F place key o o')
    (failed : o = .error (.unexpected wanted t)) :
    (∃ u, (t, u) ∈ F.stem ∧ o' = .error (.unexpected wanted u)) ∨
      (t = next F.left ∧ ¬ wanted.Accepts (next F.right)) ∨ Within F.left.tail o ∨
        (Within F.left o ∧ Within F.right.tail o') := by
  cases e with
  | accepted made => cases failed.symm.trans made
  | astray _ made => cases failed.symm.trans made
  | done _ made => cases failed.symm.trans made
  | refused mem failed₁ failed' =>
    cases failed.symm.trans failed₁
    exact .inl ⟨_, mem, failed'⟩
  | spared failed₁ unfit =>
    cases failed.symm.trans failed₁
    exact .inr (.inl ⟨rfl, unfit⟩)
  | passed goes => exact .inr (.inr (.inl goes))
  | overtaken goes goes' => exact .inr (.inr (.inr ⟨goes, goes'⟩))

end

/-- Nothing of a result is looked at. -/
abbrev nothing (_ : α) : Unit := ()

theorem nothing_eq (a b : α) : nothing a = nothing b := rfl

theorem expect_within (kind : TokenKind) (wanted : Wanted) (ts : List Token) :
    Within ts (expect kind wanted ts) := by
  unfold expect
  split
  next => exact List.tail_suffix ts
  next => exact within_error wanted ts

/-- A token of the kind is taken, if that kind is all that is wanted where the second reading is. -/
theorem expect_echo {F : Fork} {place : Place} {kind : TokenKind} {wanted : Wanted}
    (twin : F.Twin ts us) (only : wanted.Accepts (next us) → nextKind us = kind) :
    Echo F place nothing (expect kind wanted ts) (expect kind wanted us) := by
  unfold expect
  cases twin with
  | here =>
    by_cases h : nextKind F.left = kind
    · rw [if_pos h]
      exact .passed (List.suffix_refl _)
    · rw [if_neg h]
      by_cases h' : nextKind F.right = kind
      · rw [if_pos h']
        exact .overtaken (within_error wanted _) (List.suffix_refl _)
      · exact .spared rfl fun fits => h' (only fits)
  | @cons t u ts us mem later =>
    have same : nextKind (t :: ts) = nextKind (u :: us) := Fork.kind_eq mem
    rw [← same]
    by_cases h : nextKind (t :: ts) = kind
    · rw [if_pos h, if_pos h]
      exact .accepted rfl rfl (nothing_eq _ _) later
    · rw [if_neg h, if_neg h]
      exact .refused mem rfl rfl

/-! ## Readers that keep two readings together -/

/-- Two readers go forward, and from the same place in both lists they come out in one of the ways
in which two readings can. -/
structure Steady (F : Fork) (place : Place) (key : α → κ) (m m' : Reader α) : Prop where
  forward : ∀ ts, Within ts (m ts)
  forward' : ∀ ts, Within ts (m' ts)
  echo : ∀ {ts us}, F.Twin ts us → Echo F place key (m ts) (m' us)

/-- Two such readers of a phrase that takes a token. -/
structure Taking (F : Fork) (place : Place) (key : α → κ) (m m' : Reader α) : Prop
    extends Steady F place key m m' where
  starts : ∀ ts, Start ts (m ts)
  starts' : ∀ ts, Start ts (m' ts)

variable {F : Fork} {place : Place} {key : α → κ} {key' : β → μ} {m m' : Reader α}
  {f f' : α × List Token → Except ParseFault (β × List Token)}

namespace Steady

theorem pure {r r' : α} (alike : key r = key r') :
    Steady F place key (fun ts => .ok (r, ts)) fun ts => .ok (r', ts) where
  forward := List.suffix_refl
  forward' := List.suffix_refl
  echo twin := .accepted rfl rfl alike twin

theorem bind (first : Steady F .expression key m m')
    (then_ : ∀ r r', key r = key r' →
      Steady F place key' (fun ts => f (r, ts)) fun ts => f' (r', ts)) :
    Steady F place key' (fun ts => m ts >>= f) fun ts => m' ts >>= f' where
  forward ts := (first.forward ts).bind fun r => (then_ r r rfl).forward
  forward' ts := (first.forward' ts).bind fun r => (then_ r r rfl).forward'
  echo twin := (first.echo twin).bind nofun (fun r => (then_ r r rfl).forward)
    (fun r => (then_ r r rfl).forward') (fun _ _ alike => (then_ _ _ alike).echo)
    fun open_ => absurd rfl open_

/-- What follows a statement must rest where the list of statements ends. -/
theorem bindStatement (first : Steady F .statement key m m')
    (then_ : ∀ r r', key r = key r' →
      Steady F place key' (fun ts => f (r, ts)) fun ts => f' (r', ts))
    (rests : ∀ r ts, endsResult (nextKind ts) = true → Rests place ts (f (r, ts))) :
    Steady F place key' (fun ts => m ts >>= f) fun ts => m' ts >>= f' where
  forward ts := (first.forward ts).bind fun r => (then_ r r rfl).forward
  forward' ts := (first.forward' ts).bind fun r => (then_ r r rfl).forward'
  echo twin := (first.echo twin).bind nofun (fun r => (then_ r r rfl).forward)
    (fun r => (then_ r r rfl).forward') (fun _ _ alike => (then_ _ _ alike).echo) fun _ => rests

/-- Something is made of what was read, whatever the phrase is inside of. -/
theorem map {g g' : α → β} (first : Steady F place key m m')
    (made : ∀ r ts, f (r, ts) = .ok (g r, ts)) (made' : ∀ r ts, f' (r, ts) = .ok (g' r, ts))
    (alike : ∀ r r', key r = key r' → key' (g r) = key' (g' r')) :
    Steady F place key' (fun ts => m ts >>= f) fun ts => m' ts >>= f' where
  forward ts := (first.forward ts).bind fun r rest => made r rest ▸ List.suffix_refl rest
  forward' ts := (first.forward' ts).bind fun r rest => made' r rest ▸ List.suffix_refl rest
  echo twin := by
    refine (first.echo twin).bind (fun whole => ⟨whole, fun r ts => ⟨_, made r ts⟩⟩)
      (fun r rest => made r rest ▸ List.suffix_refl rest)
      (fun r rest => made' r rest ▸ List.suffix_refl rest) (fun _ _ same twin => ?_)
      fun open_ r ts _ => .stays open_ (made r ts)
    rw [made, made']
    exact .accepted rfl rfl (alike _ _ same) twin

/-! ### One phrase or another -/

/-- A token of the kind is taken, if that kind is all that is wanted. -/
theorem expect (kind : TokenKind) {wanted : Wanted} (kinds : wanted.kinds = [kind]) :
    Steady F place nothing (expect kind wanted) (expect kind wanted) where
  forward := expect_within kind wanted
  forward' := expect_within kind wanted
  echo twin := expect_echo twin fun fits => List.mem_singleton.1 (kinds ▸ fits.1)

/-- The next token tells whether it is taken. What is read if it is not has to be known only where
neither reading takes it. -/
theorem chooseElse (p : TokenKind → Prop) [DecidablePred p] {leave leave' : Reader α}
    (take take' : Token → Reader α)
    (taken : ∀ t u, t.unspanned = u.unspanned → p t.kind → Steady F place key (take t) (take' u))
    (forward : ∀ ts, Within ts (leave ts)) (forward' : ∀ ts, Within ts (leave' ts))
    (left_ : ∀ {ts us}, F.Twin ts us → ¬ p (nextKind ts) → ¬ p (nextKind us) →
      Echo F place key (leave ts) (leave' us)) :
    Steady F place key (fun ts => if p (nextKind ts) then take (next ts) ts.tail else leave ts)
      fun ts => if p (nextKind ts) then take' (next ts) ts.tail else leave' ts where
  forward ts := by
    split
    next h => exact ((taken _ _ rfl h).forward ts.tail).of_tail
    next => exact forward ts
  forward' ts := by
    split
    next h => exact ((taken _ _ rfl h).forward' ts.tail).of_tail
    next => exact forward' ts
  echo twin := by
    cases twin with
    | here =>
      by_cases h : p (nextKind F.left)
      · rw [if_pos h]
        exact .passed ((taken _ _ rfl h).forward _)
      · by_cases h' : p (nextKind F.right)
        · rw [if_neg h, if_pos h']
          exact .overtaken (forward _) ((taken _ _ rfl h').forward' _)
        · rw [if_neg h, if_neg h']
          exact left_ .here h h'
    | @cons t u ts us mem later =>
      by_cases h : p t.kind
      · have h' : p u.kind := Fork.kind_eq mem ▸ h
        show Echo F place key (if p t.kind then take t ts else leave (t :: ts))
          (if p u.kind then take' u us else leave' (u :: us))
        rw [if_pos h, if_pos h']
        exact (taken t u (F.alike _ mem) h).echo later
      · have h' : ¬ p u.kind := Fork.kind_eq mem ▸ h
        show Echo F place key (if p t.kind then take t ts else leave (t :: ts))
          (if p u.kind then take' u us else leave' (u :: us))
        rw [if_neg h, if_neg h']
        exact left_ (.cons mem later) h h'

/-- The next token tells whether it is taken or the phrase goes on without it. -/
theorem choose (p : TokenKind → Prop) [DecidablePred p] {leave leave' : Reader α}
    (take take' : Token → Reader α)
    (taken : ∀ t u, t.unspanned = u.unspanned → p t.kind → Steady F place key (take t) (take' u))
    (left_ : Steady F place key leave leave') :
    Steady F place key (fun ts => if p (nextKind ts) then take (next ts) ts.tail else leave ts)
      fun ts => if p (nextKind ts) then take' (next ts) ts.tail else leave' ts :=
  chooseElse p take take' taken left_.forward left_.forward' fun twin _ _ => left_.echo twin

/-- The next token is taken, whatever it is. -/
theorem take (take take' : Token → Reader α)
    (taken : ∀ t u, Steady F place key (take t) (take' u)) :
    Steady F place key (fun ts => take (next ts) ts.tail) fun ts => take' (next ts) ts.tail where
  forward ts := ((taken (next ts) (next ts)).forward ts.tail).of_tail
  forward' ts := ((taken (next ts) (next ts)).forward' ts.tail).of_tail
  echo twin := by
    cases twin with
    | here => exact .passed ((taken (next F.left) (next F.left)).forward _)
    | cons mem later => exact (taken _ _).echo later

/-- Nothing is read at a token that ends a list of statements. -/
theorem orEnd (p : TokenKind → Prop) [DecidablePred p] {r r' : α}
    (open_ : place ≠ .expression) (ends : ∀ kind, p kind → endsResult kind = true)
    (brace : place = .program ∨ p .rightBrace) (alike : key r = key r')
    (more : Taking F place key m m') :
    Steady F place key (fun ts => if p (nextKind ts) then .ok (r, ts) else m ts)
      fun ts => if p (nextKind ts) then .ok (r', ts) else m' ts where
  forward ts := by
    split
    next => exact List.suffix_refl ts
    next => exact more.forward ts
  forward' ts := by
    split
    next => exact List.suffix_refl ts
    next => exact more.forward' ts
  echo twin := by
    cases twin with
    | here =>
      by_cases h : p (nextKind F.left) <;> by_cases h' : p (nextKind F.right)
      · rw [if_pos h, if_pos h']
        exact .accepted rfl rfl alike .here
      · -- the first list of statements ends where the second one goes on or is refused
        rw [if_pos h, if_neg h']
        rcases (more.starts' F.right).forms with goes' | ⟨-, -, -, unfit⟩
        · exact .overtaken (List.suffix_refl _) goes'
        · rcases brace with whole | brace
          · exact .done whole rfl
          · exact .astray open_ rfl (ends _ h) unfit fun same => h' (same ▸ brace)
      · -- and the other way round: no operand begins where the second one ends
        rw [if_neg h, if_pos h']
        rcases (more.starts F.left).forms with goes | ⟨wanted, begins, failed, -⟩
        · exact .passed goes
        · have unfit := Wanted.not_operand_accepts_of_endsResult (ends _ h')
          exact .spared failed fun fits => unfit (begins.accepts fits)
      · rw [if_neg h, if_neg h']
        exact more.echo .here
    | @cons t u ts us mem later =>
      have same : nextKind (t :: ts) = nextKind (u :: us) := Fork.kind_eq mem
      by_cases h : p (nextKind (t :: ts))
      · rw [if_pos h, if_pos (same ▸ h)]
        exact .accepted rfl rfl alike (.cons mem later)
      · rw [if_neg h, if_neg (same ▸ h)]
        exact more.echo (.cons mem later)

end Steady

namespace Taking

/-- A phrase that takes a token is known by what it takes, and by what it makes of a token that both
lists have. -/
theorem of_starts (starts : ∀ ts, Start ts (m ts)) (starts' : ∀ ts, Start ts (m' ts))
    (taken : ∀ {t u ts us}, (t, u) ∈ F.stem → F.Twin ts us →
      Echo F place key (m (t :: ts)) (m' (u :: us))) : Taking F place key m m' where
  forward ts := (starts ts).within
  forward' ts := (starts' ts).within
  echo twin := by
    cases twin with
    | here => exact (starts F.left).echo (starts' F.right)
    | cons mem later => exact taken mem later
  starts := starts
  starts' := starts'

theorem bind (first : Taking F .expression key m m')
    (then_ : ∀ r r', key r = key r' →
      Steady F place key' (fun ts => f (r, ts)) fun ts => f' (r', ts)) :
    Taking F place key' (fun ts => m ts >>= f) fun ts => m' ts >>= f' where
  toSteady := first.toSteady.bind then_
  starts ts := (first.starts ts).bind fun r => (then_ r r rfl).forward
  starts' ts := (first.starts' ts).bind fun r => (then_ r r rfl).forward'

theorem bindStatement (first : Taking F .statement key m m')
    (then_ : ∀ r r', key r = key r' →
      Steady F place key' (fun ts => f (r, ts)) fun ts => f' (r', ts))
    (rests : ∀ r ts, endsResult (nextKind ts) = true → Rests place ts (f (r, ts))) :
    Taking F place key' (fun ts => m ts >>= f) fun ts => m' ts >>= f' where
  toSteady := first.toSteady.bindStatement then_ rests
  starts ts := (first.starts ts).bind fun r => (then_ r r rfl).forward
  starts' ts := (first.starts' ts).bind fun r => (then_ r r rfl).forward'

end Taking

end Grammar
end Scriptlet
