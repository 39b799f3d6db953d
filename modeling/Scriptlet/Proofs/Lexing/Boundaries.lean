import Scriptlet.Proofs.Lexing.Cover

/-
  Spans that keep to characters.
  A span fits a text if it starts and stops between characters of it. The spans of all tokens do,
  and where a text falls into no tokens so does the span of the fault (`fits_of_list_error`): its
  bounds are counted from the sizes of the characters that were passed.
-/

namespace Scriptlet

/-- The place is between two characters of the text `cs`, which begins at `offset`, or at one of
its ends. -/
def Text.Boundary (offset : Nat) (cs : List Char) (place : Nat) : Prop :=
  ∃ passed rest, cs = passed ++ rest ∧ place = offset + byteLength passed

namespace Text.Boundary

variable {offset place : Nat} {cs : List Char}

theorem first (offset : Nat) (cs : List Char) : Boundary offset cs offset :=
  ⟨[], cs, rfl, rfl⟩

theorem last (offset : Nat) (cs : List Char) : Boundary offset cs (offset + byteLength cs) :=
  ⟨cs, [], (List.append_nil cs).symm, rfl⟩

/-- What is a boundary of the end of a text is one of the text. -/
theorem append (passed : List Char) (h : Boundary (offset + byteLength passed) cs place) :
    Boundary offset (passed ++ cs) place := by
  obtain ⟨more, rest, rfl, rfl⟩ := h
  exact ⟨passed ++ more, rest, by simp, by rw [byteLength_append, Nat.add_assoc]⟩

theorem cons (c : Char) (h : Boundary (offset + c.utf8Size) cs place) :
    Boundary offset (c :: cs) place :=
  append [c] h

theorem le (h : Boundary offset cs place) : place ≤ offset + byteLength cs := by
  obtain ⟨passed, rest, rfl, rfl⟩ := h
  rw [byteLength_append]
  omega

end Text.Boundary

/-- The span starts and stops at boundaries of the text `cs`, which begins at `offset`. -/
structure Span.Fits (offset : Nat) (cs : List Char) (span : Span) : Prop where
  ordered : span.start ≤ span.stop
  start : Text.Boundary offset cs span.start
  stop : Text.Boundary offset cs span.stop

theorem Span.Fits.append {offset : Nat} {cs : List Char} {span : Span} (passed : List Char)
    (h : span.Fits (offset + Text.byteLength passed) cs) : span.Fits offset (passed ++ cs) :=
  ⟨h.ordered, h.start.append passed, h.stop.append passed⟩

/-! ## Faults -/

namespace Rule

variable {rule : Rule} {start offset : Nat} {c : Char} {cs : List Char} {fault : LexFault}

theorem map_error_iff {ε α β : Type} {f : α → β} {r : Except ε α} {e : ε} :
    r.map f = .error e ↔ r = .error e := by
  cases r <;> simp [Except.map]

/-- A fault of a string starts with the string or between its characters, and stops there. -/
theorem boundary_of_scanQuoted_error (le : start ≤ offset)
    (h : scanQuoted start offset cs = .error fault) :
    fault.span.start ≤ fault.span.stop ∧
      (fault.span.start = start ∨ Text.Boundary offset cs fault.span.start) ∧
      Text.Boundary offset cs fault.span.stop := by
  fun_induction scanQuoted start offset cs with
  | case1 offset =>
    cases h
    exact ⟨le, .inl rfl, .first _ _⟩
  | case2 => cases h
  | case3 offset cs ih =>
    obtain ⟨ordered, starts, stops⟩ := ih (by omega) (map_error_iff.1 h)
    exact ⟨ordered, starts.imp_right (.append ['\\', '"']), stops.append ['\\', '"']⟩
  | case4 offset cs =>
    cases h
    exact ⟨Nat.le_succ offset, .inr (.first _ _), .cons _ (.first _ _)⟩
  | case5 offset =>
    cases h
    exact ⟨le, .inl rfl, .first _ _⟩
  | case6 offset c cs _ _ _ _ ih =>
    obtain ⟨ordered, starts, stops⟩ := ih (by omega) (map_error_iff.1 h)
    exact ⟨ordered, starts.imp_right (.cons c), stops.cons c⟩

/-- Only a string can be at fault, and its fault fits the text. -/
theorem fits_of_recognize_error (h : rule.recognize offset (c :: cs) = .error fault) :
    fault.span.Fits offset (c :: cs) := by
  cases rule with
  | quotedText =>
    obtain ⟨ordered, starts, stops⟩ :=
      boundary_of_scanQuoted_error (Nat.le_add_right _ _) (map_error_iff.1 h)
    refine ⟨ordered, ?_, stops.cons c⟩
    rcases starts with starts | starts
    · rw [starts]
      exact .first _ _
    · exact starts.cons c
  | _ => cases h

end Rule

namespace Token

variable {rules : List Rule} {offset : Nat} {c : Char} {cs : List Char} {ts : List Token}
  {fault : LexFault}

theorem fits_of_first?_error (h : first? rules offset c cs = .error fault) :
    fault.span.Fits offset (c :: cs) := by
  induction rules with
  | nil => cases h
  | cons rule rules ih =>
    rw [first?] at h
    split at h
    · split at h
      next found =>
        cases h
        exact Rule.fits_of_recognize_error found
      next => cases h
      next => exact ih h
    · exact ih h

/-- The fault of a text that falls into no tokens fits the text, by any list of rules. -/
theorem fits_of_list_error (h : list rules offset cs = .error fault) :
    fault.span.Fits offset cs := by
  have blanks : ∀ {cs rest : List Char}, cs.dropWhile Text.isBlank = rest →
      cs.takeWhile Text.isBlank ++ rest = cs := by
    rintro cs rest rfl
    exact List.takeWhile_append_dropWhile
  fun_induction list rules offset cs with
  | case1 => cases h
  | case2 offset cs c rest visible start found first =>
    cases h
    rw [← blanks visible]
    exact (fits_of_first?_error first).append _
  | case3 offset cs c rest visible start first =>
    cases h
    rw [← blanks visible]
    refine Span.Fits.append _ ⟨Nat.le_add_right _ _, .first _ _, ?_⟩
    exact .cons c (.first _ _)
  | case4 offset cs c rest visible start split taken stop =>
    rename_i ih
    obtain ⟨rule, -, -, accepted⟩ := exists_rule_of_first? taken
    rw [← blanks visible, ← Rule.recognize_append accepted]
    exact ((ih (Rule.map_error_iff.1 h)).append split.lexeme).append _

/-! ## Tokens -/

/-- The tokens of a text fit it. -/
theorem Covers.fits (h : Covers offset cs ts) : ∀ t ∈ ts, t.span.Fits offset cs := by
  induction h with
  | @ending offset gap blank =>
    intro t mem
    rw [List.mem_singleton.1 mem]
    exact ⟨Nat.le_refl _, .last _ _, .last _ _⟩
  | @token offset gap lexeme rest kind ts blank nonempty ordinary later ih =>
    intro t mem
    rcases List.mem_cons.1 mem with rfl | mem
    · refine .append gap ⟨Nat.le_add_right _ _, .first _ _, ?_⟩
      exact (Text.Boundary.first _ rest).append lexeme
    · exact ((ih t mem).append lexeme).append gap

end Token

end Scriptlet
