import RuleMachine.Proofs.Numbers
import RuleMachine.Proofs.Source.Places

/-!
# The numbers of numerals

The rules for numerals take underscores among the digits, and the number is read of the text that
is left without them (`bare`). A rule is content with underscores alone where it asks for digits, so
what is left may be a base or an exponent without any digit (`isDigitless`). No number is read of
such a numeral, and one of every other (`Lexer.isNaN_numeral`).
-/

namespace RuleMachine

namespace Lexeme

/-- The text without its underscores. -/
def bare (text : List Char) : List Char := text.filter (· ≠ '_')

/-- Without its underscores the numeral is a base and no digit, or one in base ten that ends with
the letter or the sign of its exponent. -/
def isDigitless (text : List Char) : Bool :=
  [['0', 'x'], ['0', 'o'], ['0', 'b']].contains (bare text) ||
    (bare text).all isNumeric && (bare text).getLast?.any ['e', 'E', '+', '-'].contains

variable {p : Char → Bool} {text whole part power : List Char} {base : Nat}

theorem bare_append (s t : List Char) : bare (s ++ t) = bare s ++ bare t :=
  List.filter_append ..

/-! ## Numerals with a base -/

theorem isFinite_digit : ∀ d < 16, (Nat.toFloat d).isFinite := by decide +kernel

/-- Gathering digits of a base never leaves the numbers. -/
theorem isNaN_gather (proper : Double.isProper base.toFloat) (small : base ≤ 16) {acc : Float}
    (number : acc.isNaN = false) (digits : ∀ c ∈ text, (Text.digit? base c).isSome) :
    (text.foldl (fun acc c => acc * base.toFloat +
      ((Text.digit? base c).elim Decimal.notANumber Nat.toFloat)) acc).isNaN = false := by
  induction text generalizing acc with
  | nil => exact number
  | cons c text ih =>
    obtain ⟨digit, digits⟩ := List.forall_mem_cons.mp digits
    obtain ⟨d, value⟩ := Option.isSome_iff_exists.mp digit
    have below : d < base := by
      have kept := (Option.filter_eq_some_iff.mp value).2
      simpa using kept
    refine ih ?_ digits
    simp only [value, Option.elim_some]
    exact Double.isNaN_add (Double.isNaN_mul number proper) (isFinite_digit d (by omega))

theorem isNaN_radixValue (proper : Double.isProper base.toFloat) (small : base ≤ 16)
    (digits : ∀ c ∈ text, isRadixDigit base c) (zero letter : Char) :
    (radixValue base (zero :: letter :: text)).isNaN = (bare text).isEmpty := by
  have all : ∀ c ∈ bare text, (Text.digit? base c).isSome := by
    intro c mem
    obtain ⟨mem, other⟩ := List.mem_filter.mp mem
    have either := digits c mem
    simp only [isRadixDigit, Bool.or_eq_true, decide_eq_true_eq] at either
    exact either.resolve_right (by simpa using other)
  unfold radixValue
  split
  · next none =>
    replace none : bare text = [] := none
    rw [none]
    decide +kernel
  · next some =>
    replace some : bare text ≠ [] := some
    refine (isNaN_gather proper small (by decide +kernel) all).trans ?_
    rw [eq_comm, List.isEmpty_eq_false_iff]
    exact some

/-- What a rule for a base takes is the base, and no digit exactly where nothing is left without
underscores. -/
theorem isNaN_radixNumeral {letter : Char}
    (mem : (letter, base) ∈ [('x', 16), ('o', 8), ('b', 2)]) (some : text ≠ [])
    (taken : radixNumeral letter base text = text.length) :
    (radixValue base text).isNaN = isDigitless text := by
  rw [radixNumeral_eq] at taken
  split at taken
  · next begins =>
    obtain ⟨⟨rest, rfl⟩, -⟩ := begins
    have digits : ∀ c ∈ rest, isRadixDigit base c := by
      have all := all_run (isRadixDigit base) rest
      rwa [List.take_of_length_le] at all
      simp at taken
      omega
    have plain : letter ≠ '_' ∧ isNumeric letter = false ∧
        letter ∈ ['x', 'o', 'b'] ∧ Double.isProper base.toFloat ∧ base ≤ 16 := by
      simp only [List.mem_cons, Prod.mk.injEq, List.not_mem_nil, or_false] at mem
      rcases mem with ⟨rfl, rfl⟩ | ⟨rfl, rfl⟩ | ⟨rfl, rfl⟩ <;> decide +kernel
    obtain ⟨other, letters, known, proper, small⟩ := plain
    have bared : bare (['0', letter] ++ rest) = '0' :: letter :: bare rest := by
      simp [bare, other]
    rw [isDigitless, bared]
    refine (isNaN_radixValue proper small digits '0' letter).trans ?_
    cases bare rest with
    | nil => simpa [letters] using known
    | cons => simp [letters]
  · exact absurd (List.length_eq_zero_iff.mp taken.symm) some

/-! ## Numerals in base ten -/

/-- Nothing, or a point and what may stand among digits. -/
inductive IsPart (p : Char → Bool) : List Char → Prop
  | none : IsPart p []
  | some {ds} : (∀ d ∈ ds, p d) → IsPart p ('.' :: ds)

/-- Nothing, or an exponent: its letter, an optional sign, and what may stand among digits. -/
inductive IsPower (p : Char → Bool) : List Char → Prop
  | none : IsPower p []
  | some {e sign ds} : e = 'e' ∨ e = 'E' → sign ∈ [[], ['+'], ['-']] → (∀ d ∈ ds, p d) →
      IsPower p (e :: (sign ++ ds))

/-- The parts of a numeral in base ten, where `p` may stand among digits. -/
structure IsDecimal (p : Char → Bool) (whole part power : List Char) : Prop where
  begins : ∃ d ds, whole = d :: ds ∧ d.isDigit
  whole : ∀ d ∈ whole, p d
  part : IsPart p part
  power : IsPower p power

theorem isPart_fraction (text : List Char) : IsPart isDigitOrGap (text.take (fraction text)) := by
  unfold fraction
  split
  · rw [List.take_succ_cons]
    exact .some (all_run _ _)
  · exact .none

theorem isPower_exponent (text : List Char) :
    IsPower isDigitOrGap (text.take (exponent text)) := by
  obtain _ | ⟨e, text⟩ := text
  · exact .none
  have digits := all_run isDigitOrGap (text.drop (sign text))
  change IsPower isDigitOrGap ((e :: text).take (if e = 'e' ∨ e = 'E' then
    if run isDigitOrGap (text.drop (sign text)) = 0 then 0 else
      1 + sign text + run isDigitOrGap (text.drop (sign text)) else 0))
  split
  · next letter =>
    split
    · exact .none
    · rw [Nat.add_assoc, Nat.add_comm 1, List.take_succ_cons, List.take_add]
      refine .some letter ?_ digits
      unfold sign
      split
      · split
        · next either => rcases either with rfl | rfl <;> simp
        · simp
      · simp
  · exact .none

theorem isDecimal_of_unsignedNumeral (some : text ≠ [])
    (taken : unsignedNumeral text = text.length) :
    ∃ whole part power, text = whole ++ part ++ power ∧ IsDecimal isDigitOrGap whole part power := by
  obtain _ | ⟨c, text⟩ := text
  · exact absurd rfl some
  rw [unsignedNumeral_eq] at taken
  dsimp only at taken
  split at taken
  · next digit =>
    let after := text.drop (run isDigitOrGap text)
    have power : (after.drop (fraction after)).take (exponent (after.drop (fraction after))) =
        after.drop (fraction after) := by
      refine List.take_of_length_le ?_
      simp only [afterDigit, List.length_cons] at taken
      simp only [after, List.length_drop] at taken ⊢
      omega
    refine ⟨c :: text.take (run isDigitOrGap text), after.take (fraction after),
      after.drop (fraction after), ?_, ⟨c, _, rfl, digit⟩, ?_, isPart_fraction _, ?_⟩
    · rw [List.append_assoc, List.take_append_drop, List.cons_append, List.take_append_drop]
    · exact List.forall_mem_cons.mpr ⟨by simp [isDigitOrGap, digit], all_run _ _⟩
    · exact power ▸ isPower_exponent _
  · cases taken

/-! ### Underscores -/

theorem bare_digits (all : ∀ d ∈ text, isDigitOrGap d) : ∀ d ∈ bare text, d.isDigit := by
  intro d mem
  obtain ⟨mem, other⟩ := List.mem_filter.mp mem
  have either := all d mem
  simp only [isDigitOrGap, Bool.or_eq_true, decide_eq_true_eq] at either
  exact either.resolve_right (by simpa using other)

theorem IsPart.bare (h : IsPart isDigitOrGap part) : IsPart Char.isDigit (bare part) := by
  cases h with
  | none => exact .none
  | some digits => exact .some (bare_digits digits)

theorem IsPower.bare (h : IsPower isDigitOrGap power) : IsPower Char.isDigit (bare power) := by
  cases h with
  | none => exact .none
  | @some e sign ds letter mem digits =>
    have kept : Lexeme.bare (e :: (sign ++ ds)) = e :: (sign ++ Lexeme.bare ds) := by
      simp only [List.mem_cons, List.not_mem_nil, or_false] at mem
      rcases letter with rfl | rfl <;> rcases mem with rfl | rfl | rfl <;> rfl
    rw [kept]
    exact .some letter mem (bare_digits digits)

theorem IsDecimal.bare (h : IsDecimal isDigitOrGap whole part power) :
    IsDecimal Char.isDigit (bare whole) (bare part) (bare power) where
  begins := by
    obtain ⟨d, ds, rfl, digit⟩ := h.begins
    have other : d ≠ '_' := by
      rintro rfl
      cases digit
    exact ⟨d, Lexeme.bare ds, by simp [Lexeme.bare, other], digit⟩
  whole := bare_digits h.whole
  part := h.part.bare
  power := h.power.bare

/-! ### Reading -/

/-- An exponent is read, unless it has no digit. -/
theorem readExponent_isNone {e : Char} {sign ds : List Char} (letter : e = 'e' ∨ e = 'E')
    (mem : sign ∈ [[], ['+'], ['-']]) (digits : ∀ d ∈ ds, d.isDigit) :
    (Decimal.readExponent (e :: (sign ++ ds))).isNone = ds.isEmpty := by
  have all : ds.all Char.isDigit := List.all_eq_true.mpr digits
  simp only [List.mem_cons, List.not_mem_nil, or_false] at mem
  simp only [Decimal.readExponent, if_pos letter]
  rcases mem with rfl | rfl | rfl
  · rw [List.nil_append]
    split
    · exact absurd (digits '-' (.head _)) (by decide)
    · exact absurd (digits '+' (.head _)) (by decide)
    · cases ds <;> simp [all]
  · cases ds <;> simp [all]
  · cases ds <;> simp [all]

theorem getLast?_of_digits (digits : ∀ d ∈ text, d.isDigit) :
    text.getLast?.any ['e', 'E', '+', '-'].contains = false := by
  have none : ['e', 'E', '+', '-'].any Char.isDigit = false := by decide
  cases last : text.getLast? with
  | none => rfl
  | some d =>
    refine Bool.eq_false_iff.mpr fun mem => ?_
    exact List.any_eq_false.mp none d (List.contains_iff_mem.mp mem)
      (digits d (List.mem_of_getLast? last))

theorem readExponent_eq_none (h : IsPower Char.isDigit power) :
    (Decimal.readExponent power).isNone = power.getLast?.any ['e', 'E', '+', '-'].contains := by
  cases h with
  | none => rfl
  | @some e sign ds letter mem digits =>
    rw [readExponent_isNone letter mem digits, ← List.cons_append, List.getLast?_append]
    cases ds with
    | nil =>
      simp only [List.mem_cons, List.not_mem_nil, or_false] at mem
      rcases letter with rfl | rfl <;> rcases mem with rfl | rfl | rfl <;> rfl
    | cons d ds =>
      have last := getLast?_of_digits digits
      rw [List.getLast?_cons, Option.some_or] at *
      exact last.symm

theorem readUnsigned_eq (h : IsDecimal Char.isDigit whole part power) :
    Decimal.readUnsigned (whole ++ part ++ power) = (Decimal.readExponent power).map fun e =>
      Decimal.nearest (Decimal.ofDigits (whole ++ part.tail)) (e - part.tail.length) := by
  have taken (rest : List Char) (stops : ∀ c ∈ rest.head?, c.isDigit = false) {ds : List Char}
      (digits : ∀ d ∈ ds, d.isDigit) :
      (ds ++ rest).takeWhile Char.isDigit = ds ∧ (ds ++ rest).dropWhile Char.isDigit = rest := by
    rw [List.takeWhile_append_of_pos digits, List.dropWhile_append_of_pos digits]
    cases rest with
    | nil => simp
    | cons c rest => simp [stops c rfl]
  have ends : ∀ c ∈ power.head?, c.isDigit = false ∧ c ≠ '.' := by
    cases h.power with
    | none => nofun
    | some letter =>
      rintro _ ⟨⟩
      rcases letter with rfl | rfl <;> decide
  have some : whole ≠ [] := by
    obtain ⟨d, ds, rfl, -⟩ := h.begins
    exact List.cons_ne_nil _ _
  rw [List.append_assoc]
  cases h.part with
  | none =>
    obtain ⟨front, back⟩ := taken power (fun c next => (ends c next).1) h.whole
    simp only [Decimal.readUnsigned, List.nil_append, front, back]
    split
    · next rest => exact absurd rfl (ends '.' rfl).2
    · simp [some, Option.map_eq_bind]
  | @some ds digits =>
    obtain ⟨front, back⟩ := taken ('.' :: ds ++ power) (by rintro _ ⟨⟩; rfl) h.whole
    obtain ⟨front', back'⟩ := taken power (fun c next => (ends c next).1) digits
    simp only [Decimal.readUnsigned, front, back]
    simp [front', back', some, Option.map_eq_bind]

/-- A numeral in base ten ends in the middle of its exponent, or it has a last digit or a point. -/
theorem IsDecimal.getLast? (h : IsDecimal Char.isDigit whole part power) :
    (whole ++ part ++ power).getLast?.any ['e', 'E', '+', '-'].contains =
      power.getLast?.any ['e', 'E', '+', '-'].contains := by
  rw [List.getLast?_append]
  cases last : power.getLast? with
  | some d => rfl
  | none =>
    rw [Option.none_or, List.getLast?_append]
    cases h.part with
    | none => exact getLast?_of_digits h.whole
    | @some ds digits =>
      have last := getLast?_of_digits digits
      rw [List.getLast?_cons, Option.some_or]
      cases back : ds.getLast? with
      | none => rfl
      | some d => rwa [back] at last

/-- Whatever its sign, a number is read of a numeral, unless that ends within its exponent. -/
theorem isNaN_readUnsigned (h : IsDecimal Char.isDigit whole part power) {signed : Float → Float}
    (kept : ∀ x : Float, x.isNaN = false → (signed x).isNaN = false) :
    (((Decimal.readUnsigned (whole ++ part ++ power)).map signed).getD Decimal.notANumber).isNaN =
      (whole ++ part ++ power).getLast?.any ['e', 'E', '+', '-'].contains := by
  rw [h.getLast?, ← readExponent_eq_none h.power, readUnsigned_eq h]
  cases Decimal.readExponent power with
  | none =>
    change Decimal.notANumber.isNaN = true
    decide +kernel
  | some e => exact kept _ (Decimal.isNaN_nearest ..)

/-- A digit begins a numeral, and no sign. -/
theorem IsDecimal.read? (h : IsDecimal p whole part power) :
    Decimal.read? (whole ++ part ++ power) = Decimal.readUnsigned (whole ++ part ++ power) := by
  obtain ⟨d, ds, rfl, digit⟩ := h.begins
  have sign : d ≠ '-' ∧ d ≠ '+' := by
    constructor <;>
    · rintro rfl
      cases digit
  simp [Decimal.read?, sign]

/-- What the rule for numerals in base ten takes is no number exactly where it ends within its
exponent. -/
theorem isNaN_decimalNumeral (some : text ≠ []) (taken : decimalNumeral text = text.length) :
    (decimalValue text).isNaN = isDigitless text := by
  have numeric : (bare text).all isNumeric := by
    have all := Takes.decimalNumeral text
    rw [taken, List.take_length] at all
    exact List.all_eq_true.mpr fun c mem => all c (List.mem_filter.mp mem).1
  have base : [['0', 'x'], ['0', 'o'], ['0', 'b']].contains (bare text) = false := by
    have letters : [['0', 'x'], ['0', 'o'], ['0', 'b']].any (·.all isNumeric) = false := by decide
    refine Bool.eq_false_iff.mpr fun mem => ?_
    exact List.any_eq_false.mp letters _ (List.contains_iff_mem.mp mem) numeric
  rw [isDigitless, base, numeric, Bool.false_or, Bool.true_and]
  change ((Decimal.read? (bare text)).getD Decimal.notANumber).isNaN = _
  obtain _ | ⟨c, text⟩ := text
  · exact absurd rfl some
  rw [decimalNumeral_cons] at taken
  split at taken
  · next minus =>
    subst minus
    split at taken
    · cases taken
    · next unsigned =>
      have left : text ≠ [] := by
        rintro rfl
        exact unsigned rfl
      obtain ⟨whole, part, power, rfl, h⟩ :=
        isDecimal_of_unsignedNumeral left (Nat.succ.inj taken)
      have number := isNaN_readUnsigned h.bare fun x => Double.isNaN_neg (x := x)
      have minus : bare ('-' :: (whole ++ part ++ power)) =
          '-' :: (bare whole ++ bare part ++ bare power) := by
        rw [← bare_append, ← bare_append]
        rfl
      obtain ⟨d, ds, begins, -⟩ := h.bare.begins
      rw [minus, List.getLast?_cons_of_ne_nil (by simp [begins])]
      exact number
  · obtain ⟨whole, part, power, split, h⟩ := isDecimal_of_unsignedNumeral some taken
    have number := isNaN_readUnsigned h.bare (fun x (kept : (id x).isNaN = false) => kept)
    rw [split, bare_append, bare_append, h.bare.read?]
    simpa using number

end Lexeme

/-! ## Numbers of tokens -/

open Lexeme

variable {α : Type} {t : Token α} {x : Float}

/-- The number of a numeral that is a lexeme is none exactly where the numeral is digitless. -/
theorem Token.IsLexeme.isNaN (h : t.IsLexeme) (number : t.kind = .literal (.number x)) :
    x.isNaN = isDigitless t.text.toList := by
  have some := h.solid
  obtain ⟨shape, ⟨rule, rfl, -, first⟩, kind, -⟩ := h
  rw [List.append_nil] at first
  obtain ⟨mem, taken⟩ := extent_of_firstMatch first
  rw [number] at kind
  simp only [Mode.rules, List.mem_cons, List.not_mem_nil, or_false] at mem
  rcases mem with rfl | rfl | rfl | rfl | rfl | rfl | rfl | rfl | rfl | rfl | rfl | rfl | rfl <;>
    cases kind
  · exact isNaN_radixNumeral (.head _) some taken
  · exact isNaN_radixNumeral (.tail _ (.head _)) some taken
  · exact isNaN_radixNumeral (.tail _ (.tail _ (.head _))) some taken
  · exact isNaN_decimalNumeral some taken

namespace Lexer

/-- No number is read of a numeral without any digit after its base or in its exponent, and one is
read of every other. -/
theorem isNaN_numeral (emits : Emits t) (number : t.kind = .literal (.number x)) :
    x.isNaN = isDigitless t.text.toList := by
  rcases emits.isLexeme with line | ignored | injected | lexeme
  · simp [Token.isLine, number] at line
  · simp [Token.isIgnored, number] at ignored
  · simp [Token.isInjected, number] at injected
  · exact lexeme.isNaN number

/-- An underscore in the place of the exponent's digits. -/
theorem isNaN_numeral_exponent : ∃ t : Token Unit, ∃ x, Emits t ∧ t.text = "-2.5e+_" ∧
    t.kind = .literal (.number x) ∧ x.isNaN = isDigitless t.text.toList := by
  let t : Token Unit := ⟨.literal (.number (decimalValue "-2.5e+_".toList)), "-2.5e+_", .start⟩
  have made : tokenize ["-2.5e+_"] ([] : List Unit) = .ok [t] := rfl
  have emits : Emits t := .source made (.head _)
  exact ⟨t, _, emits, rfl, rfl, isNaN_numeral emits rfl⟩

/-- An underscore in the place of a base's digits: the source is one numeral, and no number. -/
theorem exists_isNaN_numeral : ∃ t : Token Unit, ∃ x, tokenize ["0x_"] [] = .ok [t] ∧
    t.kind = .literal (.number x) ∧ x.isNaN := by
  let t : Token Unit := ⟨.literal (.number (radixValue 16 "0x_".toList)), "0x_", .start⟩
  have made : tokenize ["0x_"] ([] : List Unit) = .ok [t] := rfl
  exact ⟨t, _, made, rfl, by decide +kernel⟩

end Lexer

end RuleMachine
