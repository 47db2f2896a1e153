import RuleMachine.Source.Lexer

/-!
# Lexemes

What the rules of the lexer take of a text that consists of one lexeme and of something after it
(`Lexes`): names, numerals, quoted texts, brackets, blanks and operators.
-/

namespace RuleMachine

/-- What may come right after a name or a numeral, so that no more of the text belongs to it. -/
def Ends (rest : List Char) : Prop :=
  ∀ c ∈ rest.head?, c ∈ [' ', ',', ')', ']', '}', ':', '\n']

theorem Ends.stops {p : Char → Bool} {rest : List Char} (ends : Ends rest)
    (none : [' ', ',', ')', ']', '}', ':', '\n'].any p = false) :
    ∀ c ∈ rest.head?, p c = false :=
  fun c mem => Bool.eq_false_iff.mpr (List.any_eq_false.mp none c (ends c mem))

namespace Lexeme

def beginsName (c : Char) : Bool := c = '$' || c = '_' || Text.isIdentifierStart c

def continuesName (c : Char) : Bool := c = '$' || Text.isIdentifierContinue c

/-- No digit is a letter. -/
theorem not_isAlpha_of_isDigit {c : Char} (digit : c.isDigit) : c.isAlpha = false := by
  rw [Bool.eq_false_iff]
  intro alpha
  have below : c.val ≤ 57 := of_decide_eq_true (Bool.and_eq_true_iff.mp digit).2
  have above : 65 ≤ c.val := by
    rcases Bool.or_eq_true_iff.mp alpha with upper | lower
    · exact (of_decide_eq_true upper).1
    · exact UInt32.le_trans (by decide) (of_decide_eq_true (Bool.and_eq_true_iff.mp lower).1)
  exact absurd (UInt32.le_trans above below) (by decide)

theorem not_isDigit_of_beginsName {c : Char} (begins : beginsName c) : c.isDigit = false := by
  rw [Bool.eq_false_iff]
  intro digit
  have below : c.val ≤ 57 := of_decide_eq_true (Bool.and_eq_true_iff.mp digit).2
  have ascii : c.toNat < 128 := Nat.lt_of_le_of_lt below (by decide)
  simp only [beginsName, Text.isIdentifierStart, ascii, if_true, not_isAlpha_of_isDigit digit,
    Bool.or_false, Bool.or_eq_true, decide_eq_true_eq] at begins
  rcases begins with rfl | rfl <;> exact absurd digit (by decide)

/-- A backslash before each quote of the kind and each backslash. -/
def escapeFor (quote : Char) (text : List Char) : List Char :=
  text.flatMap fun c => if c = quote ∨ c = '\\' then ['\\', c] else [c]

/-- The text as it is written between quotes of the kind. -/
def inQuotes (quote : Char) (text : List Char) : List Char :=
  quote :: escapeFor quote text ++ [quote]

variable {p : Char → Bool} {c d : Char} {text rest : List Char}

theorem run_append (all : ∀ c ∈ text, p c) (stops : ∀ c ∈ rest.head?, p c = false) :
    run p (text ++ rest) = text.length := by
  induction text with
  | nil =>
    cases rest with
    | nil => rfl
    | cons c rest => simp [run, stops c rfl]
  | cons c text ih => simp [run, all c (.head _), ih fun c mem => all c (.tail _ mem)]

theorem run_singleton (first : p c) (stops : ∀ c ∈ rest.head?, p c = false) :
    run p (c :: rest) = 1 := by
  have all : ∀ d ∈ [c], p d := fun d mem => List.mem_singleton.mp mem ▸ first
  exact run_append all stops

theorem identifier_append (begins : beginsName c) (continues : ∀ d ∈ text, continuesName d)
    (ends : Ends rest) : identifier (c :: text ++ rest) = text.length + 1 := by
  have stops : ∀ d ∈ rest.head?, continuesName d = false := ends.stops (by decide)
  refine (if_pos begins).trans ?_
  exact congrArg (· + 1) (run_append continues stops)

theorem fraction_eq_zero (ends : Ends rest) : fraction rest = 0 := by
  unfold fraction
  split
  · exact absurd (ends _ rfl) (by decide)
  · rfl

theorem exponent_eq_zero (ends : Ends rest) : exponent rest = 0 := by
  cases rest with
  | nil => rfl
  | cons e rest =>
    refine if_neg ?_
    rintro (rfl | rfl) <;> exact absurd (ends _ rfl) (by decide)

theorem unsignedNumeral_append (digit : c.isDigit) (digits : ∀ d ∈ text, isDigitOrGap d)
    (ends : Ends rest) : unsignedNumeral (c :: text ++ rest) = text.length + 1 := by
  have whole : run isDigitOrGap (text ++ rest) = text.length :=
    run_append digits (ends.stops (by decide))
  simp only [List.cons_append, unsignedNumeral, digit, if_true, whole, List.drop_left,
    fraction_eq_zero ends, List.drop_zero, exponent_eq_zero ends]
  omega

/-- After a zero at the front of a numeral no letter of a base comes. -/
theorem radixNumeral_eq_zero (digits : ∀ d ∈ text, isDigitOrGap d) (ends : Ends rest)
    {letter : Char} (mem : letter ∈ ['x', 'o', 'b']) (base : Nat) :
    radixNumeral letter base (c :: text ++ rest) = 0 := by
  have other (d : Char) (h : (text ++ rest).head? = some d) : d ≠ letter := by
    rw [List.head?_append, Option.or_eq_some_iff] at h
    rintro rfl
    rcases h with first | ⟨-, next⟩
    · have letters : ['x', 'o', 'b'].any isDigitOrGap = false := by decide
      exact List.any_eq_false.mp letters d mem (digits d (List.mem_of_mem_head? first))
    · have letters : (['x', 'o', 'b'].contains d) = false :=
        ends.stops (p := List.contains ['x', 'o', 'b']) (by decide) d next
      exact Bool.eq_false_iff.mp letters (List.contains_iff_mem.mpr mem)
  rw [List.cons_append]
  generalize text ++ rest = tail at other
  unfold radixNumeral
  split
  · next d tail same =>
    cases same
    exact if_neg fun both => other d rfl both.1
  · rfl

theorem escapeFor_cons (quote c : Char) (text : List Char) : escapeFor quote (c :: text) =
    (if c = quote ∨ c = '\\' then ['\\', c] else [c]) ++ escapeFor quote text :=
  List.flatMap_cons

theorem unescape_escapeFor (quote : Char) (text : List Char) :
    unescape (escapeFor quote text) = text := by
  induction text with
  | nil => rfl
  | cons c text ih =>
    rw [escapeFor_cons]
    split
    · simp [unescape, ih]
    · next plain =>
      rw [not_or] at plain
      simp [unescape, plain, ih]

theorem unquote_inQuotes (quote : Char) (text : List Char) :
    unquote (inQuotes quote text) = String.ofList text := by
  rw [unquote, inQuotes, List.cons_append, List.tail_cons, List.dropLast_concat, unescape_escapeFor]

theorem quotedBody_escapeFor {quote : Char} (other : quote ≠ '\\') (line : '\n' ∉ text) :
    quotedBody quote (escapeFor quote text ++ quote :: rest) =
      some ((escapeFor quote text).length + 1) := by
  induction text with
  | nil => simp [escapeFor, quotedBody, other]
  | cons c text ih =>
    have ih := ih fun mem => line (.tail _ mem)
    have inLine : c ≠ '\n' := fun same => line (same ▸ .head _)
    rw [escapeFor_cons]
    split
    · next special => simp [quotedBody, special, ih]
    · next plain =>
      rw [not_or] at plain
      simp [quotedBody, plain, inLine, ih]

end Lexeme

/-- The first rule that takes any of the text takes the lexeme, as a token of the shape, and leaves
the rest. -/
def Lexes (shape : Shape) (text rest : List Char) : Prop :=
  ∃ rule : LexRule, rule.shape = shape ∧ rule.next = none ∧
    firstMatch (text ++ rest) Mode.main.rules = some (rule, text.length)

namespace Lexes

open Lexeme

variable {c : Char} {text rest : List Char}

/-- The rules for line breaks, blanks, comments and quoted texts look at the first character. -/
theorem firstMatch_of_plain (plain : c ∉ ['\n', '\r', ' ', '\t', '/', '"', '\'']) :
    firstMatch (c :: text) Mode.main.rules = firstMatch (c :: text) (Mode.main.rules.drop 6) := by
  simp only [List.mem_cons, List.not_mem_nil, or_false, not_or] at plain
  simp [firstMatch, Mode.rules, lineBreak, run, isSpace, exact, quotedLiteral, plain,
    Ne.symm plain.2.2.2.2.1]

theorem name (begins : beginsName c) (continues : ∀ d ∈ text, continuesName d)
    (ends : Ends rest) : Lexes .identifier (c :: text) rest := by
  have other (ds : List Char) (h : ds.any beginsName = false) : c ∉ ds :=
    fun mem => List.any_eq_false.mp h c mem begins
  have sign : c ≠ '-' := fun same => other ['-'] (by decide) (by simp [same])
  have zero : c ≠ '0' := fun same => other ['0'] (by decide) (by simp [same])
  have extent := identifier_append begins continues ends
  have digit := not_isDigit_of_beginsName begins
  refine ⟨{ shape := .identifier, extent := identifier }, rfl, rfl, ?_⟩
  rw [List.cons_append, firstMatch_of_plain (other _ (by decide))]
  simp_all [firstMatch, Mode.rules, radixNumeral, decimalNumeral, unsignedNumeral]

theorem numeral (digit : c.isDigit) (digits : ∀ d ∈ text, isDigitOrGap d) (ends : Ends rest) :
    Lexes .decimal (c :: text) rest := by
  have other (ds : List Char) (h : ds.any Char.isDigit = false) : c ∉ ds :=
    fun mem => List.any_eq_false.mp h c mem digit
  have sign : c ≠ '-' := fun same => other ['-'] (by decide) (by simp [same])
  have extent := unsignedNumeral_append digit digits ends
  have noBase {letter : Char} (mem : letter ∈ ['x', 'o', 'b']) (base : Nat) :
      radixNumeral letter base (c :: text ++ rest) = 0 := radixNumeral_eq_zero digits ends mem base
  refine ⟨{ shape := .decimal, extent := decimalNumeral }, rfl, rfl, ?_⟩
  rw [List.cons_append, firstMatch_of_plain (other _ (by decide))]
  simp_all [firstMatch, Mode.rules, decimalNumeral]

theorem quoted {quote : Char} (mem : quote ∈ ['"', '\'']) (line : '\n' ∉ text)
    (rest : List Char) : Lexes .quoted (inQuotes quote text) rest := by
  have other : quote ≠ '\\' := fun same => absurd (same ▸ mem) (by decide)
  have body : quotedBody quote (escapeFor quote text ++ quote :: rest) = _ :=
    quotedBody_escapeFor other line
  refine ⟨{ shape := .quoted, extent := quotedLiteral quote }, rfl, rfl, ?_⟩
  simp only [List.mem_cons, List.not_mem_nil, or_false] at mem
  rcases mem with rfl | rfl <;>
    simp [firstMatch, Mode.rules, lineBreak, run, isSpace, exact, quotedLiteral, inQuotes, body]

theorem bracket (punctuation : isPunctuation c) (rest : List Char) :
    Lexes .punctuation [c] rest := by
  refine ⟨{ shape := .punctuation, extent := Lexeme.punctuation }, rfl, rfl, ?_⟩
  have mem := List.contains_iff_mem.mp punctuation
  simp only [List.mem_cons, List.not_mem_nil, or_false] at mem
  rcases mem with rfl | rfl | rfl | rfl | rfl | rfl | rfl | rfl <;> rfl

theorem space (solid : ∀ c ∈ rest.head?, isSpace c = false) : Lexes .ignored [' '] rest := by
  refine ⟨{ shape := .ignored, extent := run isSpace }, rfl, rfl, ?_⟩
  have extent : run isSpace ([' '] ++ rest) = 1 := run_singleton rfl solid
  simp_all [firstMatch, Mode.rules, lineBreak]

theorem line (solid : ∀ c ∈ rest.head?, Text.isBlank c = false) : Lexes .line ['\n'] rest := by
  refine ⟨{ shape := .line, extent := lineBreak }, rfl, rfl, ?_⟩
  have blanks : run Text.isBlank rest = 0 := run_append (List.forall_mem_nil _) solid
  simp [firstMatch, Mode.rules, lineBreak, blanks]

theorem hash (stops : ∀ c ∈ rest.head?, isOperator c = false) : Lexes .operator ['#'] rest := by
  refine ⟨{ shape := .operator, extent := run isOperator }, rfl, rfl, ?_⟩
  have extent : run isOperator ('#' :: rest) = 1 := run_singleton rfl stops
  have letter : Text.isIdentifierStart '#' = false := by decide
  rw [List.cons_append, firstMatch_of_plain (by decide), List.nil_append]
  simp [firstMatch, Mode.rules, radixNumeral, decimalNumeral, unsignedNumeral, identifier,
    Lexeme.punctuation, isPunctuation, extent, letter]

theorem spaced {text : String}
    (mem : text ∈ ["+", "-", "*", "/", "%", "**", "=", "@", "->", ":"]) (rest : List Char) :
    Lexes .operator text.toList (' ' :: rest) := by
  refine ⟨{ shape := .operator, extent := run isOperator }, rfl, rfl, ?_⟩
  simp only [List.mem_cons, List.not_mem_nil, or_false] at mem
  rcases mem with rfl | rfl | rfl | rfl | rfl | rfl | rfl | rfl | rfl | rfl <;> rfl

end Lexes

end RuleMachine
