import Scriptlet.Proofs.Lexing.Spaced

/-
  String literals and the texts they can express.
  The scanner goes along a literal looking one character ahead, and the text of the literal is
  found by leaving out its outer quotes and each backslash before a quote. Both agree on what is
  escaped: a scanned literal is the quoted form of its text (`escape_unescape_of_scanQuoted`), and
  the quoted form of a plain text is scanned as a whole. Main statement: `quoted_bijective`.
-/

namespace Scriptlet

instance (cs : List Char) : Decidable (IsPlainText cs) :=
  List.decidableBAll (fun c => c ≠ '\\' ∧ c ≠ '\n' ∧ c ≠ '\r') cs

namespace Quoted

theorem escape_cons_of_ne {c : Char} (h : c ≠ '"') (cs : List Char) :
    escape (c :: cs) = c :: escape cs :=
  if_neg h

theorem quote_unquote_of_escaped {inner : List Char} (escaped : escape (unescape inner) = inner) :
    quote (unquote (String.ofList ('"' :: (inner ++ ['"'])))) =
      String.ofList ('"' :: (inner ++ ['"'])) := by
  unfold unquote unquoteChars quote quoteChars
  rw [String.toList_ofList, String.toList_ofList, Rule.inside_quotes, escaped]

end Quoted

namespace Rule

open Quoted (escape unescape)

variable {offset : Nat} {c : Char} {cs rest : List Char} {split : Split}

/-- Between its quotes a scanned string is written as its text asks for. -/
theorem escape_unescape_of_scanQuoted {start : Nat} {body : List Char}
    (h : scanQuoted start offset cs = .ok (body, rest)) :
    ∃ inner, body = inner ++ ['"'] ∧ escape (unescape inner) = inner := by
  fun_induction scanQuoted start offset cs generalizing body with
  | case1 => cases h
  | case2 =>
    cases h
    exact ⟨[], rfl, rfl⟩
  | case3 offset cs ih =>
    obtain ⟨⟨b, r⟩, hs, made⟩ := map_ok_iff.1 h
    cases made
    obtain ⟨inner, rfl, escaped⟩ := ih hs
    exact ⟨'\\' :: '"' :: inner, rfl, congrArg ('\\' :: '"' :: ·) escaped⟩
  | case4 => cases h
  | case5 => cases h
  | case6 offset c cs noQuote _ noEscape _ ih =>
    obtain ⟨⟨b, r⟩, hs, made⟩ := map_ok_iff.1 h
    cases made
    obtain ⟨inner, rfl, escaped⟩ := ih hs
    refine ⟨c :: inner, rfl, ?_⟩
    rw [unescape_cons_of_ne noEscape, Quoted.escape_cons_of_ne noQuote, escaped]

theorem quote_unquote_of_quotedText
    (h : Rule.quotedText.recognize offset ('"' :: cs) = .ok (some split)) :
    Quoted.quote (Quoted.unquote (String.ofList split.lexeme)) = String.ofList split.lexeme := by
  obtain ⟨⟨body, rest⟩, scanned, made⟩ := map_ok_iff.1 h
  cases made
  obtain ⟨inner, rfl, escaped⟩ := escape_unescape_of_scanQuoted scanned
  exact Quoted.quote_unquote_of_escaped escaped

end Rule

namespace Token

open Quoted (quote unquote)

variable {source : String} {ts : List Token}

/-- Every string token of a source is the quoted form of its text. -/
theorem quote_unquote_of_tokenize (h : tokenize source = .ok ts) :
    ∀ t ∈ ts, t.kind = .string → quote (unquote t.lexeme) = t.lexeme := by
  refine forall_mem_of_list (fun offset c cs split span first kind => ?_) (fun _ => nofun) h
  obtain ⟨i, rule, taken⟩ := exists_takes_of_first? first
  have mem : split.kind ∈ rule.kinds := Rule.kind_mem_kinds taken.made
  rw [show split.kind = .string from kind] at mem
  obtain rfl := Rule.rule_eq_of_mem_kinds .quotedText (by decide) mem
  obtain rfl : c = '"' := beq_iff_eq.1 taken.start
  exact Rule.quote_unquote_of_quotedText taken.made

/-- The quoted form of a plain text is one token. -/
theorem tokenize_quote {s : String} (plain : IsPlainText s.toList) :
    tokenize (quote s) = .ok [⟨.string, quote s, ⟨0, Text.byteLength (quote s).toList⟩⟩,
      atEnd (Text.byteLength (quote s).toList)] := by
  have heads : Heads ⟨.string, quote s, .zero⟩ [] := heads_quoted plain []
  have last : ∀ offset, list Rule.defaults offset [] = .ok [atEnd offset] :=
    fun offset => list_of_blank offset rfl
  have whole := list_of_heads_next heads 0 (last _)
  rwa [List.append_nil, Nat.zero_add] at whole

/-- Quoting is a bijection from plain texts to string tokens: the quoted form of a plain text is one
token, which spans it and stands for the text, and every string token stands for a plain text
and is the quoted form of it. So string tokens that stand for one text are written alike. -/
theorem quoted_bijective :
    (∀ s : String, IsPlainText s.toList →
      tokenize (quote s) = .ok [⟨.string, quote s, ⟨0, Text.byteLength (quote s).toList⟩⟩,
        atEnd (Text.byteLength (quote s).toList)] ∧
      unquote (quote s) = s) ∧
    (∀ source ts, tokenize source = .ok ts → ∀ t ∈ ts, t.kind = .string →
      IsPlainText (unquote t.lexeme).toList ∧ quote (unquote t.lexeme) = t.lexeme) ∧
    (∀ source source' ts ts', tokenize source = .ok ts → tokenize source' = .ok ts' →
      ∀ t ∈ ts, ∀ t' ∈ ts', t.kind = .string → t'.kind = .string →
        unquote t.lexeme = unquote t'.lexeme → t.lexeme = t'.lexeme) := by
  refine ⟨fun s plain => ⟨tokenize_quote plain, unquote_quote plain⟩, ?_, ?_⟩
  · intro source ts made t mem kind
    exact ⟨(wellLexed_of_tokenize made t mem).text kind, quote_unquote_of_tokenize made t mem kind⟩
  · intro source source' ts ts' made made' t mem t' mem' kind kind' same
    rw [← quote_unquote_of_tokenize made t mem kind, same,
      quote_unquote_of_tokenize made' t' mem' kind']

/-- A text that begins and ends with a quote, with a letter of two bytes between them. -/
theorem quoted_bijective_quotes :
    IsPlainText "\"é\"".toList ∧
      tokenize "\"\\\"é\\\"\"" = .ok [⟨.string, "\"\\\"é\\\"\"", ⟨0, 8⟩⟩, atEnd 8] ∧
      unquote "\"\\\"é\\\"\"" = "\"é\"" ∧
      IsPlainText (unquote "\"\\\"é\\\"\"").toList := by
  have plain : IsPlainText "\"é\"".toList := by decide
  obtain ⟨made, back⟩ := quoted_bijective.1 "\"é\"" plain
  obtain ⟨text, -⟩ := quoted_bijective.2.1 _ _ made _ List.mem_cons_self rfl
  exact ⟨plain, made, back, text⟩

end Token

end Scriptlet
