import RuleMachine.Proofs.Source.Rules

/-!
# Lexemes before a blank

Where a lexeme ends before a blank or at it, it stays the same lexeme with something else in the
place of the blank, if there is an operator on one side and neither a numeral nor a run of operator
characters goes on over the seam (`firstMatch_close`).
-/

namespace RuleMachine

open Lexeme

namespace Lexeme

/-- With `after` right behind the text a numeral or a run of operator characters that begins with
the text goes on over its end. -/
def Fuses (text after : List Char) : Prop :=
  text.length < decimalNumeral (text ++ after) ∨ text.length < run isOperator (text ++ after)

/-- There is an operator character in the text, or in front of what comes after it. -/
def Edge (text after : List Char) : Prop :=
  (∃ d ∈ text, isOperator d) ∨ ∃ d ∈ after.head?, isOperator d

variable {p : Char → Bool} {c : Char} {text rest after : List Char}

/-- No operator character is one of others. -/
theorem not_of_isOperator (others : "!@#%^&*-+=|/:<>.?~".toList.any p = false)
    (operator : isOperator c) : p c = false :=
  Bool.eq_false_iff.mpr (List.any_eq_false.mp others c (List.contains_iff_mem.mp operator))

/-- A rule that takes no operator characters does not go on over a seam with one next to it. -/
theorem Takes.le_seam {extent : List Char → Nat} (h : Takes extent p)
    (others : "!@#%^&*-+=|/:<>.?~".toList.any p = false)
    (edge : Edge text after) :
    extent (text ++ after) ≤ text.length := by
  refine Nat.le_of_not_lt fun lt => ?_
  obtain ⟨all, next⟩ := h.of_lt lt
  rcases edge with ⟨d, mem, operator⟩ | ⟨d, mem, operator⟩
  · exact Bool.eq_false_iff.mp (not_of_isOperator others operator) (all d mem)
  · exact Bool.eq_false_iff.mp (not_of_isOperator others operator) (next d mem)

/-- A fixed text of operator characters goes on over a seam only if a run of them does. -/
theorem exact_le_seam {front : List Char} (operators : front.all isOperator)
    (apart : ¬ Fuses text after) : exact front (text ++ after) ≤ text.length := by
  refine Nat.le_of_not_lt fun lt => apart (.inr ?_)
  simp only [exact, List.isPrefixOf_iff_prefix] at lt
  split at lt
  · next fits => exact Nat.lt_of_lt_of_le lt (le_run fits (List.all_eq_true.mp operators))
  · exact absurd lt (Nat.not_lt_zero _)

/-- A run that does not reach over the end of a text, where it could go on, ends before it. -/
theorem run_seam (next : p c) (le : run p (text ++ c :: rest) ≤ text.length) (after : List Char) :
    run p (text ++ after) = run p (text ++ c :: rest) := by
  induction text with
  | nil => simp [run, next] at le
  | cons d text ih =>
    simp only [List.cons_append, run, List.length_cons] at le ⊢
    split
    · next here =>
      rw [if_pos here] at le
      rw [ih (Nat.le_of_succ_le_succ le)]
    · rfl

/-- A run that ends within a text ends there whatever comes after. -/
theorem run_append_of_lt (inside : run p text < text.length) (after : List Char) :
    run p (text ++ after) = run p text := by
  have cut := run_cut p text after
  omega

theorem commentEnd_append (inside : run (· = '*') text < text.length) (after : List Char) :
    commentEnd (text ++ after) = commentEnd text := by
  have left : text.drop (run (· = '*') text) ≠ [] := by
    rw [Ne, List.drop_eq_nil_iff]
    omega
  simp only [commentEnd, run_append_of_lt inside,
    List.drop_append_of_le_length (Nat.le_of_lt inside)]
  generalize text.drop (run (· = '*') text) = others at left
  obtain _ | ⟨d, others⟩ := others
  · exact absurd rfl left
  · grind

theorem lineFeed_cons (c : Char) (text : List Char) :
    lineFeed (c :: text) = if c = '\n' then run Text.isBlank text + 1 else 0 := by
  unfold lineFeed
  grind

theorem commentEnd_stars (all : ∀ d ∈ text, d = '*') (plain : c ≠ '*' ∧ c ≠ '/')
    (rest : List Char) : commentEnd (text ++ c :: rest) = 0 := by
  have stars : run (· = '*') (text ++ c :: rest) = text.length :=
    run_append (by simpa using all) (by simpa using plain.1)
  simp only [commentEnd, stars, List.drop_left]
  grind

/-- Stars that are passed are counted. -/
theorem commentText_stars (all : ∀ d ∈ text, d = '*') (stars : Nat) (after : List Char) :
    commentText stars (text ++ after) = commentText (stars + text.length) after := by
  induction text generalizing stars with
  | nil => rfl
  | cons d text ih =>
    obtain ⟨star, all⟩ := List.forall_mem_cons.mp all
    rw [List.cons_append, commentText, if_pos star, ih all, List.length_cons]
    congr 1
    omega

theorem commentText_seam (plain : c ≠ '*' ∧ c ≠ '/') {stars : Nat}
    (le : commentText stars (text ++ c :: rest) ≤ stars + text.length) (after : List Char) :
    commentText stars (text ++ after) = commentText stars (text ++ c :: rest) := by
  induction text generalizing stars with
  | nil =>
    simp [commentText, plain] at le
    omega
  | cons d text ih =>
    simp only [List.cons_append, commentText, List.length_cons] at le ⊢
    split
    · next star =>
      rw [if_pos star] at le
      exact ih (by omega)
    · next other =>
      rw [if_neg other] at le
      split
      · rfl
      · next more =>
        rw [if_neg more] at le
        rw [ih (by omega)]

end Lexeme

variable {text rest after : List Char} {rule : LexRule} {n : Nat} {c : Char}

/-- In main text no rule goes on over a seam that has an operator on one side and does not fuse. -/
theorem firstMatch_seam (first : firstMatch text Mode.main.rules = some (rule, n))
    (edge : Edge text after)
    (apart : ¬ Fuses text after) : firstMatch (text ++ after) Mode.main.rules = some (rule, n) := by
  rw [firstMatch_append fun _ => Mode.regular_of_mem, first]
  have quoted {quote : Char} (mem : quote ∈ ['"', '\'']) := quotedLiteral_le mem first after
  simp only [Mode.rules, List.forall_mem_cons]
  refine ⟨Takes.lineBreak.le_seam (by decide) edge, (Takes.run _).le_seam (by decide) edge,
    exact_le_seam (by decide) apart, exact_le_seam (by decide) apart,
    quoted (by decide), quoted (by decide), (Takes.radixNumeral _ _).le_seam (by decide) edge,
    (Takes.radixNumeral _ _).le_seam (by decide) edge,
    (Takes.radixNumeral _ _).le_seam (by decide) edge, Nat.le_of_not_lt fun lt => apart (.inl lt),
    Takes.identifier.le_seam (by decide) edge, Takes.punctuation.le_seam (by decide) edge,
    Nat.le_of_not_lt fun lt => apart (.inr lt), List.forall_mem_nil _⟩

/-- In a line comment no rule goes on over a seam at which there was a blank. -/
theorem firstMatch_seam_line (blank : isSpace c)
    (first : firstMatch (text ++ c :: rest) Mode.lineComment.rules = some (rule, n))
    (le : n ≤ text.length) (after : List Char) :
    firstMatch (text ++ after) Mode.lineComment.rules = some (rule, n) := by
  have inLine : c ≠ '\n' := fun same => absurd (same ▸ blank) (by decide)
  obtain _ | ⟨d, text⟩ := text
  · exact absurd (Nat.le_zero.mp le) (ne_zero_of_firstMatch first)
  refine firstMatch_of_agree ?_ first le
  simp only [Mode.rules, List.forall_mem_cons]
  refine ⟨fun le => run_seam (by simpa using inLine) le after, fun le => ?_, List.forall_mem_nil _⟩
  simp only [List.cons_append, List.length_cons, lineFeed_cons] at le ⊢
  split
  · next same =>
    rw [if_pos same] at le
    rw [run_seam (Text.isBlank_of_isSpace blank) (Nat.le_of_succ_le_succ le)]
  · rfl

/-- In a block comment no rule goes on over a seam at which there was neither a star nor a slash. -/
theorem firstMatch_seam_block (plain : c ≠ '*' ∧ c ≠ '/')
    (first : firstMatch (text ++ c :: rest) Mode.blockComment.rules = some (rule, n))
    (le : n ≤ text.length) (after : List Char) :
    firstMatch (text ++ after) Mode.blockComment.rules = some (rule, n) := by
  -- Comment text that ends before the seam is not stars alone: these would go on with the blank.
  have some : ¬ ∀ d ∈ text, d = '*' := fun all => by
    have taken := commentText_stars all 0 (c :: rest)
    simp only [commentText, plain, if_false, false_and] at taken
    simp only [Mode.rules, firstMatch, commentEnd_stars all plain rest, if_true, taken] at first
    rw [if_neg (by omega)] at first
    cases first
    omega
  have inside : run (· = '*') text < text.length := by
    refine Nat.lt_of_not_le fun whole => some fun d mem => ?_
    have all := all_run (· = '*') text
    rw [List.take_of_length_le whole] at all
    simpa using all d mem
  have other : text.all (· = '*') = false := by
    rw [Bool.eq_false_iff]
    exact fun all => some fun d mem => by simpa using List.all_eq_true.mp all d mem
  refine firstMatch_of_agree ?_ first le
  simp only [Mode.rules, List.forall_mem_cons]
  refine ⟨fun _ => ?_, fun le => ?_, fun _ => ?_, List.forall_mem_nil _⟩
  · rw [commentEnd_append inside, commentEnd_append inside]
  · exact commentText_seam plain (by simpa using le) after
  · simp [trailingStars, List.all_append, other]

/-- A lexeme before a blank or at it stays the same with what comes after the blank right behind it,
where this does not fuse. -/
theorem firstMatch_close {mode : Mode} (blank : c = ' ' ∨ c = '\t')
    (first : firstMatch (text ++ c :: rest) mode.rules = some (rule, n)) (le : n ≤ text.length)
    (edge : Edge text after)
    (apart : ¬ Fuses text after) : firstMatch (text ++ after) mode.rules = some (rule, n) := by
  cases mode with
  | main =>
    exact firstMatch_seam (firstMatch_cut (fun _ => Mode.regular_of_mem) first le) edge apart
  | lineComment =>
    exact firstMatch_seam_line (by rcases blank with rfl | rfl <;> rfl) first le after
  | blockComment =>
    exact firstMatch_seam_block (by rcases blank with rfl | rfl <;> decide) first le after

end RuleMachine
