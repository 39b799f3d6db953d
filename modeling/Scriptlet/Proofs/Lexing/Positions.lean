import Mathlib.Data.List.DropRight
import Scriptlet.Proofs.Lexing.Boundaries

/-
  Positions stand for offsets.
  The position of an offset is where the characters before it lead from the first position
  (`locate_append`), so its line counts line feeds and its column the characters of the current
  line (`foldl_next`). A character leads forward, and so the positions of the boundaries of a text
  are in the order of the boundaries (`locate_before_iff`). Main statement: `locate_identifies`.
-/

namespace Scriptlet

/-! ## Sizes in bytes -/

namespace Text

theorem utf8ByteSize_ofList (cs : List Char) :
    (String.ofList cs).utf8ByteSize = byteLength cs := by
  induction cs with
  | nil => rfl
  | cons c cs ih =>
    have split : String.ofList (c :: cs) = String.singleton c ++ String.ofList cs := by
      rw [String.singleton_eq_ofList, ← String.ofList_append]
      rfl
    rw [split, String.utf8ByteSize_append, String.utf8ByteSize_singleton, ih, byteLength_cons]

theorem utf8ByteSize_eq (s : String) : s.utf8ByteSize = byteLength s.toList := by
  rw [← utf8ByteSize_ofList, String.ofList_toList]

/-- The boundaries of the characters of a text are the valid positions in its bytes. -/
theorem boundary_iff_isValid {source : String} {offset : Nat} :
    Boundary 0 source.toList offset ↔ String.Pos.Raw.IsValid source ⟨offset⟩ := by
  rw [String.Pos.Raw.isValid_iff_exists_append]
  constructor
  · rintro ⟨passed, rest, whole, rfl⟩
    refine ⟨.ofList passed, .ofList rest, ?_, ?_⟩
    · rw [← String.ofList_append, ← whole, String.ofList_toList]
    · rw [Nat.zero_add, ← utf8ByteSize_ofList]
      rfl
  · rintro ⟨before, after, rfl, place⟩
    refine ⟨before.toList, after.toList, String.toList_append, ?_⟩
    rw [Nat.zero_add, ← utf8ByteSize_eq]
    exact congrArg String.Pos.Raw.byteIdx place

end Text

namespace Position

variable {p q r : Position} {source : String} {a b : Nat}

/-! ## The order of positions -/

/-- The first position comes before the second: on an earlier line, or earlier on the same one. -/
def Before (p q : Position) : Prop :=
  p.line < q.line ∨ p.line = q.line ∧ p.column < q.column

theorem Before.irrefl (p : Position) : ¬ p.Before p := by
  unfold Before
  omega

theorem Before.trans (h : p.Before q) (h' : q.Before r) : p.Before r := by
  unfold Before at *
  omega

/-- The position after a character comes later. -/
theorem before_next (p : Position) (c : Char) : p.Before (p.next c) := by
  unfold next
  split
  · exact .inl (Nat.lt_succ_self _)
  · exact .inr ⟨rfl, Nat.lt_succ_self _⟩

/-- The position after characters, if there are any, comes later. -/
theorem before_foldl (p : Position) {cs : List Char} (some : cs ≠ []) :
    p.Before (cs.foldl next p) := by
  induction cs generalizing p with
  | nil => exact absurd rfl some
  | cons c cs ih =>
    rcases eq_or_ne cs [] with rfl | more
    · exact p.before_next c
    · exact (p.before_next c).trans (ih (p.next c) more)

/-! ## The position after a beginning of a text -/

/-- The walk passes the characters before the offset. -/
theorem advance_append (p : Position) (passed rest : List Char) :
    p.advance (passed ++ rest) (Text.byteLength passed) = passed.foldl next p := by
  induction passed generalizing p with
  | nil => cases rest <;> rfl
  | cons c passed ih =>
    have wide := c.utf8Size_pos
    have left : Text.byteLength (c :: passed) - c.utf8Size = Text.byteLength passed := by
      rw [Text.byteLength_cons]
      omega
    rw [List.cons_append, advance, if_neg (by rw [Text.byteLength_cons]; omega), left, ih]
    rfl

/-- The walk ends with the text, however far the offset is. -/
theorem advance_of_le (p : Position) {cs : List Char} {count : Nat}
    (le : Text.byteLength cs ≤ count) : p.advance cs count = cs.foldl next p := by
  induction cs generalizing p count with
  | nil => rfl
  | cons c cs ih =>
    have wide := c.utf8Size_pos
    rw [Text.byteLength_cons] at le
    rw [advance, if_neg (by omega), ih (p.next c) (by omega)]
    rfl

/-- Lines are counted by line feeds, and columns by the characters after the last one. -/
theorem foldl_next (passed : List Char) :
    passed.foldl next first =
      ⟨1 + passed.count '\n', 1 + (passed.rtakeWhile (· != '\n')).length⟩ := by
  induction passed using List.reverseRecOn with
  | nil => rfl
  | append_singleton passed c ih =>
    rw [List.foldl_append, ih, List.foldl_cons, List.foldl_nil, next, List.count_append]
    split
    next feed =>
      rw [feed, List.rtakeWhile_concat_neg _ _ _ (by decide)]
      rfl
    next other =>
      have same : (c != '\n') = true := bne_iff_ne.2 other
      have none : [c].count '\n' = 0 := List.count_eq_zero.2 (by simpa using Ne.symm other)
      rw [List.rtakeWhile_concat_pos (fun x => x != '\n') passed c same, List.length_append, none]
      rfl

/-- The position of an offset is that after the characters before it. -/
theorem locate_append {passed rest : List Char} (whole : source.toList = passed ++ rest) :
    locate source (Text.byteLength passed) = passed.foldl next first := by
  unfold locate
  rw [whole]
  exact first.advance_append passed rest

/-- Of two boundaries the one that comes first has the position that comes first. -/
theorem locate_before (ha : Text.Boundary 0 source.toList a) (hb : Text.Boundary 0 source.toList b)
    (lt : a < b) : (locate source a).Before (locate source b) := by
  obtain ⟨passed, rest, whole, rfl⟩ := ha
  obtain ⟨passed', rest', whole', rfl⟩ := hb
  rw [Nat.zero_add, Nat.zero_add] at *
  -- the longer one of two beginnings of the source goes on from the shorter one
  obtain ⟨more, rfl⟩ | ⟨more, rfl⟩ : (∃ more, passed' = passed ++ more) ∨
      ∃ more, passed = passed' ++ more := by
    rcases List.append_eq_append_iff.1 (whole.symm.trans whole') with
      ⟨more, longer, -⟩ | ⟨more, longer, -⟩
    · exact .inl ⟨more, longer⟩
    · exact .inr ⟨more, longer⟩
  · have some : more ≠ [] := by
      rintro rfl
      rw [List.append_nil] at lt
      exact Nat.lt_irrefl _ lt
    rw [locate_append whole, locate_append whole', List.foldl_append]
    exact before_foldl _ some
  · rw [Text.byteLength_append] at lt
    omega

theorem locate_before_iff (ha : Text.Boundary 0 source.toList a)
    (hb : Text.Boundary 0 source.toList b) :
    (locate source a).Before (locate source b) ↔ a < b := by
  refine ⟨fun before => ?_, locate_before ha hb⟩
  rcases Nat.lt_trichotomy a b with lt | rfl | gt
  · exact lt
  · exact absurd before (Before.irrefl _)
  · exact absurd (before.trans (locate_before hb ha gt)) (Before.irrefl _)

theorem locate_injective (ha : Text.Boundary 0 source.toList a)
    (hb : Text.Boundary 0 source.toList b) (same : locate source a = locate source b) : a = b := by
  rcases Nat.lt_trichotomy a b with lt | eq | gt
  · exact absurd (same ▸ locate_before ha hb lt) (Before.irrefl _)
  · exact eq
  · exact absurd (same ▸ locate_before hb ha gt) (Before.irrefl _)

/-- What lies beyond the end is located as the end. -/
theorem locate_of_le {offset : Nat} (le : Text.byteLength source.toList ≤ offset) :
    locate source offset = locate source (Text.byteLength source.toList) := by
  unfold locate
  rw [advance_of_le first le, advance_of_le first (Nat.le_refl _)]

/-- Positions identify the places between the characters of a source. The line of such a place is
one more than the line feeds before it, and its column one more than the characters since the last
of them; the order of the places is that of their positions, line before column; and whatever lies
beyond the end is located as the end. -/
theorem locate_identifies (source : String) :
    (∀ before after : String, source = before ++ after →
      locate source before.utf8ByteSize = ⟨1 + before.toList.count '\n',
        1 + (before.toList.rtakeWhile (· != '\n')).length⟩) ∧
    (∀ a b : Nat, String.Pos.Raw.IsValid source ⟨a⟩ → String.Pos.Raw.IsValid source ⟨b⟩ →
      ((locate source a).Before (locate source b) ↔ a < b) ∧
        (locate source a = locate source b → a = b)) ∧
    ∀ offset : Nat, source.utf8ByteSize ≤ offset →
      locate source offset = locate source source.utf8ByteSize := by
  refine ⟨fun before after whole => ?_, fun a b ha hb => ?_, fun offset le => ?_⟩
  · have chars : source.toList = before.toList ++ after.toList := by
      rw [whole, String.toList_append]
    rw [Text.utf8ByteSize_eq, locate_append chars, foldl_next]
  · have ha := Text.boundary_iff_isValid.2 ha
    have hb := Text.boundary_iff_isValid.2 hb
    exact ⟨locate_before_iff ha hb, locate_injective ha hb⟩
  · rw [Text.utf8ByteSize_eq] at le ⊢
    exact locate_of_le le

/-- After a letter of two bytes and two line feeds: the places before and after the second line
feed, and an offset beyond the end. -/
theorem locate_identifies_feeds :
    locate "é\n\nb" 3 = ⟨2, 1⟩ ∧ locate "é\n\nb" 4 = ⟨3, 1⟩ ∧
      (locate "é\n\nb" 3).Before (locate "é\n\nb" 4) ∧
      locate "é\n\nb" 9 = locate "é\n\nb" 5 := by
  obtain ⟨counts, order, beyond⟩ := locate_identifies "é\n\nb"
  have between := order 3 4 (by decide) (by decide)
  exact ⟨counts "é\n" "\nb" rfl, counts "é\n\n" "b" rfl, between.1.2 (by decide),
    beyond 9 (by decide)⟩

end Position

end Scriptlet
