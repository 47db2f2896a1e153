import RuleMachine.Proofs.Source.Places

/-!
# Quoted texts

A text without line feeds is written between quotes of either kind with a backslash before each
quote of the kind and each backslash (`Lexeme.inQuotes`). What is so written is scanned as one token,
whatever comes after it, and every quoted text that is scanned is so written
(`Lexer.quoted_writing`).
-/

namespace RuleMachine

namespace Lexeme

variable {quote : Char} {text : List Char}

/-- The rest of a quoted text, up to its closing quote, is the writing of a text. -/
theorem exists_of_quotedBody (feed : quote ≠ '\n') {n : Nat}
    (body : quotedBody quote text = some n) :
    ∃ s, '\n' ∉ s ∧ text.take n = escapeFor quote s ++ [quote] := by
  fun_induction quotedBody quote text generalizing n with
  | case1 | case3 | case5 => cases body
  | case2 c text special ih =>
    obtain ⟨m, tail, rfl⟩ := Option.map_eq_some_iff.mp body
    obtain ⟨s, line, written⟩ := ih tail
    have inLine : '\n' ≠ c := by
      rintro rfl
      rcases special with same | same
      · exact feed same.symm
      · cases same
    refine ⟨c :: s, by simp [inLine, line], ?_⟩
    rw [escapeFor_cons, if_pos special, List.append_assoc, ← written]
    rfl
  | case4 text =>
    cases body
    exact ⟨[], List.not_mem_nil, rfl⟩
  | case6 c text _ differs plain ih =>
    obtain ⟨m, tail, rfl⟩ := Option.map_eq_some_iff.mp body
    obtain ⟨s, line, written⟩ := ih tail
    rw [not_or] at plain
    refine ⟨c :: s, by simp [Ne.symm plain.1, line], ?_⟩
    rw [escapeFor_cons, if_neg (not_or.mpr ⟨differs, plain.2⟩), List.append_assoc, ← written]
    rfl

theorem exists_of_quotedLiteral (feed : quote ≠ '\n') (some : text ≠ [])
    (taken : quotedLiteral quote text = text.length) :
    ∃ s, '\n' ∉ s ∧ text = inQuotes quote s := by
  unfold quotedLiteral at taken
  split at taken
  · next c text =>
    split at taken
    · next same =>
      cases body : quotedBody quote text with
      | none => simp [body] at taken
      | some n =>
        obtain rfl : n = text.length := by simpa [body] using taken
        obtain ⟨s, line, written⟩ := exists_of_quotedBody feed body
        rw [List.take_length] at written
        exact ⟨s, line, by rw [same, written]; rfl⟩
    · cases taken
  · exact absurd rfl some

end Lexeme

open Lexeme

variable {α : Type} {t : Token α} {value : String}

/-- A quoted text that is a lexeme is the writing of its value. -/
theorem Token.IsLexeme.quoted (h : t.IsLexeme) (kind : t.kind = .literal (.quoted value)) :
    ∃ quote ∈ ['"', '\''], '\n' ∉ value.toList ∧
      t.text.toList = inQuotes quote value.toList := by
  have some := h.solid
  obtain ⟨shape, ⟨rule, rfl, -, first⟩, made, -⟩ := h
  rw [List.append_nil] at first
  obtain ⟨mem, taken⟩ := extent_of_firstMatch first
  have extent : ∃ quote ∈ ['"', '\''], rule.extent = quotedLiteral quote ∧ rule.shape = .quoted := by
    rw [kind] at made
    simp only [Mode.rules, List.mem_cons, List.not_mem_nil, or_false] at mem
    rcases mem with rfl | rfl | rfl | rfl | rfl | rfl | rfl | rfl | rfl | rfl | rfl | rfl | rfl <;>
      first | exact ⟨'"', by simp, rfl, rfl⟩ | exact ⟨'\'', by simp, rfl, rfl⟩ | cases made
  obtain ⟨quote, kinds, extent, shape⟩ := extent
  have feed : quote ≠ '\n' := fun same => absurd (same ▸ kinds) (by decide)
  obtain ⟨s, line, written⟩ := exists_of_quotedLiteral feed some (extent ▸ taken)
  have value : value = String.ofList s := by
    rw [kind, shape] at made
    cases made
    rw [written, unquote_inQuotes]
  refine ⟨quote, kinds, ?_, ?_⟩
  · rwa [value, String.toList_ofList]
  · rwa [value, String.toList_ofList]

namespace Lexer

/-- A text without line feeds that is written between quotes is scanned as one token with the text
as its value, before whatever comes next; and every token with a quoted text is the writing of its
value. -/
theorem quoted_writing :
    (∀ quote ∈ ['"', '\''], ∀ s : String, '\n' ∉ s.toList →
      ∀ (l : Lexer) (rest : List Char), l.mode = .main →
        (l.scan (inQuotes quote s.toList ++ rest) : Scanned α) =
          ((l.pass (inQuotes quote s.toList)).scan rest).prepend
            [⟨.literal (.quoted s), String.ofList (inQuotes quote s.toList), l.position⟩]) ∧
    ∀ (t : Token α) (value : String), Emits t → t.kind = .literal (.quoted value) →
      ∃ quote ∈ ['"', '\''], '\n' ∉ value.toList ∧
        t.text = String.ofList (inQuotes quote value.toList) := by
  constructor
  · intro quote mem s line l rest main
    have scanned := scan_lexeme (α := α) main (.quoted mem line rest)
    rwa [Shape.kind, unquote_inQuotes, String.ofList_toList] at scanned
  · intro t value emits kind
    rcases emits.isLexeme with line | ignored | injected | lexeme
    · simp [Token.isLine, kind] at line
    · simp [Token.isIgnored, kind] at ignored
    · simp [Token.isInjected, kind] at injected
    · obtain ⟨quote, mem, line, written⟩ := lexeme.quoted kind
      exact ⟨quote, mem, line, by rw [← written, String.ofList_toList]⟩

/-- An apostrophe within the text, a backslash at its end, and one more apostrophe after it. -/
theorem quoted_writing_apostrophe :
    let s := "it's \\"
    let t : Token Unit := ⟨.literal (.quoted s), "'it\\'s \\\\'", .start⟩
    (∃ l : Lexer, ({} : Lexer).scan ("'it\\'s \\\\'".toList ++ ['\'']) =
      (l.scan ['\'']).prepend [t]) ∧
    Emits t ∧ ∃ quote ∈ ['"', '\''], t.text = String.ofList (inQuotes quote s.toList) := by
  intro s t
  have written : inQuotes '\'' s.toList = "'it\\'s \\\\'".toList := by decide +kernel
  have scanned := quoted_writing (α := Unit).1 '\'' (by simp) s (by decide +kernel) {} ['\''] rfl
  rw [written, String.ofList_toList] at scanned
  have made : tokenize [t.text] ([] : List Unit) = .ok [t] := by decide +kernel
  have emits : Emits t := .source made (.head _)
  obtain ⟨quote, mem, -, text⟩ := quoted_writing.2 t s emits rfl
  exact ⟨⟨_, scanned⟩, emits, quote, mem, text⟩

end Lexer

end RuleMachine
