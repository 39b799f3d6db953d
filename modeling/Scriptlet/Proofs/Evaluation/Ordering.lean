import Mathlib.Order.Defs.LinearOrder
import Scriptlet.Value.Operation

/-
  The order of values.
  Two numbers are ordered by size, and every other pair by its texts, so an order test never fails.
  Each of the two orders is total and transitive. Three values meet only one of them unless exactly
  two of the three are numbers: then the two are ordered by size, but each of them by its text
  against the third. Main statement: `ordering_coherent`.
-/

namespace Scriptlet

namespace Binary

variable {f : Format} {x y : Binary f}

theorem compare?_swap (x y : Binary f) : y.compare? x = (x.compare? y).map Ordering.swap := by
  unfold compare?
  rw [Bool.or_comm]
  split
  · rfl
  · exact congrArg some (Int.compare_swap x.rank y.rank).symm

theorem compare?_eq_none_iff : x.compare? y = none ↔ x = nan ∨ y = nan := by
  unfold compare?
  cases x <;> cases y <;> simp [isNan]

theorem compare?_of_ne_nan (hx : x ≠ nan) (hy : y ≠ nan) :
    x.compare? y = some (compare x.rank y.rank) := by
  unfold compare?
  cases x <;> cases y <;> simp_all [isNan]

end Binary

namespace Value

variable {a b c : Value}

/-- Whether the value is a number. -/
def isNumber (v : Value) : Bool := v.number?.isSome

theorem eq_number_of_isNumber (h : a.isNumber = true) : ∃ x, a = .number x := by
  cases a with
  | number x => exact ⟨x, rfl⟩
  | _ => cases h

/-- Two values of the type of numbers, at least one of which is not a number. -/
def Unordered (a b : Value) : Prop :=
  ∃ x y, a = .number x ∧ b = .number y ∧ (x = .nan ∨ y = .nan)

theorem Unordered.comm : a.Unordered b ↔ b.Unordered a := by
  constructor
  · rintro ⟨x, y, rfl, rfl, nan⟩
    exact ⟨y, x, rfl, rfl, nan.symm⟩
  · rintro ⟨x, y, rfl, rfl, nan⟩
    exact ⟨y, x, rfl, rfl, nan.symm⟩

/-! ## The two orders -/

/-- A pair with another value than a number is ordered by its texts. -/
theorem compare?_of_not_number (other : ¬ (a.isNumber = true ∧ b.isNumber = true)) :
    a.compare? b = some (compare a.text b.text) := by
  unfold compare?
  split
  next x y => exact absurd ⟨rfl, rfl⟩ other
  next => rfl

theorem compare?_swap (a b : Value) : b.compare? a = (a.compare? b).map Ordering.swap := by
  by_cases numbers : a.isNumber = true ∧ b.isNumber = true
  · obtain ⟨x, rfl⟩ := eq_number_of_isNumber numbers.1
    obtain ⟨y, rfl⟩ := eq_number_of_isNumber numbers.2
    exact Binary.compare?_swap x y
  · rw [compare?_of_not_number numbers, compare?_of_not_number (mt And.symm numbers)]
    exact congrArg some Std.OrientedOrd.eq_swap

theorem compare?_eq_none_iff : a.compare? b = none ↔ a.Unordered b := by
  by_cases numbers : a.isNumber = true ∧ b.isNumber = true
  · obtain ⟨x, rfl⟩ := eq_number_of_isNumber numbers.1
    obtain ⟨y, rfl⟩ := eq_number_of_isNumber numbers.2
    refine Binary.compare?_eq_none_iff.trans ⟨fun nan => ⟨x, y, rfl, rfl, nan⟩, ?_⟩
    rintro ⟨x', y', same, same', nan⟩
    rwa [number.inj same, number.inj same']
  · rw [compare?_of_not_number numbers]
    refine ⟨nofun, ?_⟩
    rintro ⟨x, y, rfl, rfl, -⟩
    exact absurd ⟨rfl, rfl⟩ numbers

/-! ## Transitivity -/

/-- `a` is not above `b`. -/
def AtMost (a b : Value) : Prop :=
  ∃ o, a.compare? b = some o ∧ o.isLE = true

/-- The comparisons along `a`, `b` and `c` are those of three keys of one order. -/
def OneOrder (a b c : Value) : Prop :=
  ∃ (κ : Type) (_ : Ord κ) (_ : Std.TransOrd κ) (x y z : κ), a.compare? b = some (compare x y) ∧
    b.compare? c = some (compare y z) ∧ a.compare? c = some (compare x z)

theorem OneOrder.atMost_trans (h : OneOrder a b c) (ab : a.AtMost b) (bc : b.AtMost c) :
    a.AtMost c := by
  obtain ⟨κ, _, _, x, y, z, hab, hbc, hac⟩ := h
  obtain ⟨o, ho, le⟩ := ab
  obtain ⟨o', ho', le'⟩ := bc
  cases hab.symm.trans ho
  cases hbc.symm.trans ho'
  exact ⟨_, hac, Std.TransOrd.isLE_trans le le'⟩

theorem OneOrder.below_trans (h : OneOrder a b c) (ab : a.compare? b = some .lt)
    (bc : b.AtMost c) : a.compare? c = some .lt := by
  obtain ⟨κ, _, _, x, y, z, hab, hbc, hac⟩ := h
  obtain ⟨o, ho, le⟩ := bc
  have lt : compare x y = .lt := Option.some.inj (hab.symm.trans ab)
  cases hbc.symm.trans ho
  rw [hac, Std.TransCmp.lt_of_lt_of_isLE lt le]

/-- What is not a number is neither below nor above one. -/
theorem ne_nan_of_atMost {x y : Single} (h : (number x).AtMost (.number y)) :
    x ≠ .nan ∧ y ≠ .nan := by
  obtain ⟨o, ho, -⟩ := h
  have ordered : ¬ (x = .nan ∨ y = .nan) := by
    intro nan
    cases (Binary.compare?_eq_none_iff.2 nan).symm.trans ho
  exact not_or.1 ordered

/-- Three values are compared in one order unless exactly two of them are numbers. -/
theorem oneOrder_of_atMost (count : [a, b, c].countP isNumber ≠ 2) (ab : a.AtMost b)
    (bc : b.AtMost c) : OneOrder a b c := by
  by_cases numbers : a.isNumber = true ∧ b.isNumber = true ∧ c.isNumber = true
  · obtain ⟨x, rfl⟩ := eq_number_of_isNumber numbers.1
    obtain ⟨y, rfl⟩ := eq_number_of_isNumber numbers.2.1
    obtain ⟨z, rfl⟩ := eq_number_of_isNumber numbers.2.2
    obtain ⟨hx, hy⟩ := ne_nan_of_atMost ab
    obtain ⟨-, hz⟩ := ne_nan_of_atMost bc
    exact ⟨Int, inferInstance, inferInstance, x.rank, y.rank, z.rank,
      Binary.compare?_of_ne_nan hx hy, Binary.compare?_of_ne_nan hy hz,
      Binary.compare?_of_ne_nan hx hz⟩
  · have texts : ¬ (a.isNumber = true ∧ b.isNumber = true) ∧
        ¬ (b.isNumber = true ∧ c.isNumber = true) ∧ ¬ (a.isNumber = true ∧ c.isNumber = true) := by
      cases ha : a.isNumber <;> cases hb : b.isNumber <;> cases hc : c.isNumber <;> simp_all
    exact ⟨String, inferInstance, inferInstance, a.text, b.text, c.text,
      compare?_of_not_number texts.1, compare?_of_not_number texts.2.1,
      compare?_of_not_number texts.2.2⟩

end Value

/-! ## The order tests -/

namespace BinaryOp

variable {op : BinaryOp} {accept : Ordering → Bool} {a b c : Value}

/-- Which order of its operands an order test accepts. -/
def orderTest? : BinaryOp → Option (Ordering → Bool)
  | .less => some (· == .lt)
  | .lessEqual => some (· != .gt)
  | .greater => some (· == .gt)
  | .greaterEqual => some (· != .lt)
  | _ => none

/-- An order test never fails, whatever the operands. -/
theorem apply_of_orderTest? (test : op.orderTest? = some accept) (info : OperandInfo)
    (a b : Value) : op.apply info a b = .ok (.bool ((a.compare? b).any accept)) := by
  cases op with
  | less | lessEqual | greater | greaterEqual => cases test; rfl
  | _ => cases test

/-- The operator yields true, wherever the operands stand. -/
def Holds (op : BinaryOp) (a b : Value) : Prop :=
  ∀ info, op.apply info a b = .ok (.bool true)

theorem holds_iff (test : op.orderTest? = some accept) :
    op.Holds a b ↔ ∃ o, a.compare? b = some o ∧ accept o = true := by
  have settled : op.Holds a b ↔ (a.compare? b).any accept = true := by
    constructor
    · intro holds
      have made := (apply_of_orderTest? test ⟨.zero, .zero, .zero, false⟩ a b).symm.trans (holds _)
      exact Value.bool.inj (Except.ok.inj made)
    · intro accepted info
      rw [apply_of_orderTest? test, accepted]
  rw [settled, Option.any_eq_true]

theorem less_holds_iff : BinaryOp.less.Holds a b ↔ a.compare? b = some .lt := by
  rw [holds_iff rfl]
  simp

theorem greater_holds_iff : BinaryOp.greater.Holds a b ↔ a.compare? b = some .gt := by
  rw [holds_iff rfl]
  simp

theorem lessEqual_holds_iff : BinaryOp.lessEqual.Holds a b ↔ a.AtMost b := by
  rw [holds_iff rfl]
  refine exists_congr fun o => and_congr_right fun _ => ?_
  cases o <;> decide

theorem greaterEqual_holds_iff : BinaryOp.greaterEqual.Holds a b ↔ b.AtMost a := by
  rw [holds_iff rfl]
  unfold Value.AtMost
  rw [Value.compare?_swap a b]
  constructor
  · rintro ⟨o, ho, accepted⟩
    exact ⟨o.swap, by rw [ho]; rfl, by cases o <;> trivial⟩
  · rintro ⟨turned, hturned, le⟩
    obtain ⟨o, ho, rfl⟩ := Option.map_eq_some_iff.1 hturned
    exact ⟨o, ho, by cases o <;> trivial⟩

end BinaryOp

/-- One of the three holds, and the other two do not. -/
def ExactlyOne (p q r : Prop) : Prop :=
  (p ∧ ¬ q ∧ ¬ r) ∨ (¬ p ∧ q ∧ ¬ r) ∨ (¬ p ∧ ¬ q ∧ r)

namespace Value

variable {a b : Value}

/-- Ordered values are in exactly one of three orders. -/
theorem exactlyOne_of_compare? (ordered : a.compare? b ≠ none) :
    ExactlyOne (BinaryOp.less.Holds a b) (BinaryOp.greater.Holds a b)
      (BinaryOp.lessEqual.Holds a b ∧ BinaryOp.greaterEqual.Holds a b) := by
  obtain ⟨o, ho⟩ := Option.ne_none_iff_exists'.1 ordered
  have turned : b.compare? a = some o.swap := by rw [compare?_swap a b, ho]; rfl
  rw [BinaryOp.less_holds_iff, BinaryOp.greater_holds_iff, BinaryOp.lessEqual_holds_iff,
    BinaryOp.greaterEqual_holds_iff]
  unfold AtMost ExactlyOne
  rw [ho, turned]
  cases o <;> simp

/-- The order tests are coherent: turning the operands round turns their order round, only what is
not a number has no order, ordered values are in exactly one order, and the order is transitive
along three values unless exactly two of them are numbers. -/
theorem ordering_coherent (a b c : Value) :
    b.compare? a = (a.compare? b).map Ordering.swap ∧
    (a.compare? b = none ↔ a.Unordered b) ∧ (b.compare? a = none ↔ a.Unordered b) ∧
    (BinaryOp.less.Holds a b ↔ BinaryOp.greater.Holds b a) ∧
    (BinaryOp.lessEqual.Holds a b ↔ BinaryOp.greaterEqual.Holds b a) ∧
    (a.compare? b ≠ none → ExactlyOne (BinaryOp.less.Holds a b) (BinaryOp.greater.Holds a b)
      (BinaryOp.lessEqual.Holds a b ∧ BinaryOp.greaterEqual.Holds a b)) ∧
    ([a, b, c].countP isNumber ≠ 2 → BinaryOp.lessEqual.Holds b c →
      (BinaryOp.lessEqual.Holds a b → BinaryOp.lessEqual.Holds a c) ∧
      (BinaryOp.less.Holds a b → BinaryOp.less.Holds a c)) := by
  refine ⟨compare?_swap a b, compare?_eq_none_iff, compare?_eq_none_iff.trans Unordered.comm, ?_,
    ?_, exactlyOne_of_compare?, fun count bc => ?_⟩
  · rw [BinaryOp.less_holds_iff, BinaryOp.greater_holds_iff, compare?_swap a b]
    cases a.compare? b with
    | none => simp
    | some o => cases o <;> simp
  · rw [BinaryOp.lessEqual_holds_iff, BinaryOp.greaterEqual_holds_iff]
  · rw [BinaryOp.lessEqual_holds_iff] at bc
    rw [BinaryOp.lessEqual_holds_iff, BinaryOp.lessEqual_holds_iff, BinaryOp.less_holds_iff,
      BinaryOp.less_holds_iff]
    refine ⟨fun ab => (oneOrder_of_atMost count ab bc).atMost_trans ab bc, fun ab => ?_⟩
    exact (oneOrder_of_atMost count ⟨_, ab, rfl⟩ bc).below_trans ab bc

/-- A number between two strings is ordered by its text. -/
theorem ordering_coherent_between :
    [Value.string "10", .number 2, .string "9"].countP isNumber ≠ 2 ∧
      BinaryOp.less.Holds (.string "10") (.number 2) ∧
      BinaryOp.lessEqual.Holds (.number 2) (.string "9") ∧
      BinaryOp.less.Holds (.string "10") (.string "9") := by
  have numbers : [Value.string "10", .number 2, .string "9"].countP isNumber ≠ 2 := by decide
  have first : BinaryOp.less.Holds (.string "10") (.number 2) :=
    BinaryOp.less_holds_iff.2 (by decide +kernel)
  have second : BinaryOp.lessEqual.Holds (.number 2) (.string "9") :=
    BinaryOp.lessEqual_holds_iff.2 ⟨.lt, by decide +kernel, rfl⟩
  obtain ⟨-, -, -, -, -, -, transitive⟩ :=
    ordering_coherent (.string "10") (.number 2) (.string "9")
  exact ⟨numbers, first, second, (transitive numbers second).2 first⟩

/-- With a string between two numbers the order is not transitive. -/
example : (Value.number 10).compare? (.string "9") = some .lt ∧
    (Value.string "9").compare? (.number 9) = some .eq ∧
    (Value.number 10).compare? (.number 9) = some .gt := by
  decide +kernel

end Value
end Scriptlet
