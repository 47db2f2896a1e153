import RuleMachine.Proofs.Source.Spelling

/-!
# The rules of the lexer

What a rule of main text takes hangs on the characters it takes and on a few after them. If it ends
within the first part of a text, then it takes the same of that part alone (`Lexeme.Regular`), so a
lexeme that stands in a text is a lexeme by itself (`firstMatch_cut`). What is a lexeme by itself is
one before any text into which no rule goes on (`firstMatch_append`); which characters a rule may
take is known (`Lexeme.Takes`).
-/

namespace RuleMachine

/-! ## Blanks -/

namespace Text

open CodePoints in
theorem ofGaps_ofList (table : List Char) :
    ofGaps (String.ofList table) = fromGaps 0 (hexNumbers none table) := by
  rw [ofGaps, String.toList_ofList]

/-- The blanks beyond ASCII. -/
def wideBlanks : List Nat :=
  [0x85, 0xA0, 0x1680, 0x2000, 0x2001, 0x2002, 0x2003, 0x2004, 0x2005, 0x2006, 0x2007, 0x2008,
    0x2009, 0x200A, 0x2028, 0x2029, 0x202F, 0x205F, 0x3000]

theorem mem_of_isBlank {c : Char} (blank : isBlank c) :
    c.toNat ≤ 32 ∨ c.toNat ∈ wideBlanks := by
  simp only [isBlank, Bool.or_eq_true, Bool.and_eq_true, decide_eq_true_eq, beq_iff_eq] at blank
  simp only [wideBlanks, List.mem_cons, List.not_mem_nil, or_false]
  omega

set_option maxRecDepth 100000 in
theorem identifierStarts_solid : wideBlanks.all fun n => !identifierStarts.any (·.contains n) := by
  rw [identifierStarts, show CodePoints.ofGaps _ = _ from ofGaps_ofList _]
  decide +kernel

theorem isBlank_of_isSpace {c : Char} (space : Lexeme.isSpace c) : isBlank c := by
  simp only [Lexeme.isSpace, Bool.or_eq_true, decide_eq_true_eq] at space
  rcases space with (rfl | rfl) | rfl <;> decide

theorem isDigit_solid {c : Char} (blank : isBlank c) : c.isDigit = false := by
  rw [Bool.eq_false_iff]
  intro digit
  obtain ⟨above, below⟩ := Bool.and_eq_true_iff.mp digit
  have above : 48 ≤ c.toNat := of_decide_eq_true above
  have below : c.toNat ≤ 57 := of_decide_eq_true below
  rcases mem_of_isBlank blank with narrow | wide
  · omega
  · simp only [wideBlanks, List.mem_cons, List.not_mem_nil, or_false] at wide
    omega

theorem isIdentifierStart_solid {c : Char} (blank : isBlank c) : isIdentifierStart c = false := by
  unfold isIdentifierStart
  rcases mem_of_isBlank blank with narrow | wide
  · rw [if_pos (by omega)]
    rw [Bool.eq_false_iff]
    intro alpha
    have above : 65 ≤ c.toNat := by
      rcases Bool.or_eq_true_iff.mp alpha with upper | lower
      · exact (of_decide_eq_true upper).1
      · exact Nat.le_trans (by decide) (of_decide_eq_true (Bool.and_eq_true_iff.mp lower).1)
    omega
  · have beyond : ¬ c.toNat < 128 := by
      simp only [wideBlanks, List.mem_cons, List.not_mem_nil, or_false] at wide
      omega
    rw [if_neg beyond, ← Bool.not_eq_true']
    exact List.all_eq_true.mp identifierStarts_solid _ wide

end Text

namespace Lexeme

/-- A rule takes no more than there is, and of the first part of a text the same as of the whole, if
of this it takes no more than the first part. -/
structure Regular (extent : List Char → Nat) : Prop where
  within (text : List Char) : extent text ≤ text.length
  cut {text rest : List Char} : extent (text ++ rest) ≤ text.length →
    extent text = extent (text ++ rest)

variable {p : Char → Bool} {c quote : Char} {text rest : List Char}

/-! ## Runs -/

theorem run_cut (p : Char → Bool) (text rest : List Char) :
    run p text = min (run p (text ++ rest)) text.length := by
  induction text with
  | nil => simp [run]
  | cons c text ih =>
    simp only [List.cons_append, run, List.length_cons]
    split <;> omega

theorem run_le (p : Char → Bool) (text : List Char) : run p text ≤ text.length := by
  have cut := run_cut p text []
  omega

theorem all_run (p : Char → Bool) (text : List Char) : ∀ c ∈ text.take (run p text), p c := by
  induction text with
  | nil => exact List.forall_mem_nil _
  | cons c text ih =>
    unfold run
    split
    · next here => exact List.forall_mem_cons.mpr ⟨here, ih⟩
    · exact List.forall_mem_nil _

theorem Regular.run (p : Char → Bool) : Regular (run p) where
  within := run_le p
  cut {text rest} le := by
    have cut := run_cut p text rest
    omega

/-! ## Lexemes that begin in a certain way -/

/-- A fixed text in front is in front of the first part if this is as long. -/
theorem prefix_of_append {front : List Char} (le : front.length ≤ text.length)
    (fits : front <+: text ++ rest) : front <+: text :=
  List.prefix_of_prefix_length_le fits (List.prefix_append ..) le

theorem le_run {front : List Char} (fits : front <+: text) (all : ∀ c ∈ front, p c) :
    front.length ≤ run p text := by
  obtain ⟨rest, rfl⟩ := fits
  have whole : run p front = front.length := by
    have ended : ∀ c ∈ ([] : List Char).head?, p c = false := nofun
    simpa using run_append all ended
  have cut := run_cut p front rest
  omega

theorem Regular.exact (front : List Char) : Regular (exact front) where
  within text := by
    simp only [Lexeme.exact]
    split
    · next fits => exact (List.isPrefixOf_iff_prefix.mp fits).length_le
    · exact Nat.zero_le _
  cut {text rest} le := by
    simp only [Lexeme.exact, List.isPrefixOf_iff_prefix] at le ⊢
    by_cases fits : front <+: text ++ rest
    · rw [if_pos fits] at le
      rw [if_pos fits, if_pos (prefix_of_append le fits)]
    · rw [if_neg fits, if_neg fun fits' => fits (fits'.trans (List.prefix_append ..))]

/-- The line feed, and the carriage return before it, are blanks themselves. -/
theorem lineBreak_eq (text : List Char) : lineBreak text =
    if ['\n'] <+: text ∨ ['\r', '\n'] <+: text then run Text.isBlank text else 0 := by
  unfold lineBreak
  split
  · simp [run, Text.isBlank]
  · simp [run, Text.isBlank]
  · next other other' =>
    refine (if_neg ?_).symm
    rintro (⟨rest, rfl⟩ | ⟨rest, rfl⟩)
    · exact other rest rfl
    · exact other' rest rfl

theorem Regular.lineBreak : Regular lineBreak where
  within text := by
    rw [lineBreak_eq]
    split
    · exact run_le _ _
    · exact Nat.zero_le _
  cut {text rest} le := by
    rw [lineBreak_eq] at le
    rw [lineBreak_eq, lineBreak_eq]
    by_cases begins : ['\n'] <+: text ++ rest ∨ ['\r', '\n'] <+: text ++ rest
    · rw [if_pos begins] at le
      have shorter {front : List Char} (blank : front.all Text.isBlank)
          (fits : front <+: text ++ rest) : front <+: text :=
        prefix_of_append (Nat.le_trans (le_run fits (List.all_eq_true.mp blank)) le) fits
      rw [if_pos begins, if_pos (begins.imp (shorter (by decide)) (shorter (by decide)))]
      exact (Regular.run _).cut le
    · have longer {front : List Char} (fits : front <+: text) : front <+: text ++ rest :=
        fits.trans (List.prefix_append ..)
      rw [if_neg begins, if_neg fun begins' => begins (begins'.imp longer longer)]

/-! ## Quoted texts -/

/-- A quoted text ends with its closing quote, whatever comes after. -/
theorem quotedBody_take (other : quote ≠ '\\') {n : Nat} (body : quotedBody quote text = some n)
    (rest : List Char) : n ≤ text.length ∧ quotedBody quote (text.take n ++ rest) = some n := by
  fun_induction quotedBody quote text generalizing n with
  | case1 | case3 | case5 => cases body
  | case2 c text special ih =>
    obtain ⟨m, tail, rfl⟩ := Option.map_eq_some_iff.mp body
    obtain ⟨le, same⟩ := ih tail
    refine ⟨Nat.add_le_add_right le 2, ?_⟩
    simp [quotedBody, special, same]
  | case4 text =>
    cases body
    simp [quotedBody, other]
  | case6 c text _ differs plain ih =>
    obtain ⟨m, tail, rfl⟩ := Option.map_eq_some_iff.mp body
    obtain ⟨le, same⟩ := ih tail
    rw [not_or] at plain
    refine ⟨Nat.add_le_add_right le 1, ?_⟩
    simp [quotedBody, plain, differs, same]

theorem quotedLiteral_take (other : quote ≠ '\\') {n : Nat} (taken : quotedLiteral quote text = n)
    (pos : n ≠ 0) (rest : List Char) :
    n ≤ text.length ∧ quotedLiteral quote (text.take n ++ rest) = n := by
  unfold quotedLiteral at taken
  split at taken
  · next c text =>
    split at taken
    · next same =>
      cases body : quotedBody quote text with
      | none => simp_all
      | some m =>
        obtain rfl : m + 1 = n := by simpa [body] using taken
        obtain ⟨le, again⟩ := quotedBody_take other body rest
        refine ⟨Nat.add_le_add_right le 1, ?_⟩
        simp [quotedLiteral, same, again]
    · exact absurd taken.symm pos
  · exact absurd taken.symm pos

theorem quotedLiteral_append (other : quote ≠ '\\') (taken : quotedLiteral quote text ≠ 0)
    (rest : List Char) : quotedLiteral quote (text ++ rest) = quotedLiteral quote text := by
  have again := (quotedLiteral_take other rfl taken
    (text.drop (quotedLiteral quote text) ++ rest)).2
  rwa [← List.append_assoc, List.take_append_drop] at again

theorem Regular.quotedLiteral (other : quote ≠ '\\') : Regular (quotedLiteral quote) where
  within text := by
    by_cases taken : Lexeme.quotedLiteral quote text = 0
    · omega
    · exact (quotedLiteral_take other rfl taken []).1
  cut {text rest} le := by
    by_cases taken : Lexeme.quotedLiteral quote (text ++ rest) = 0
    · by_cases taken' : Lexeme.quotedLiteral quote text = 0
      · rw [taken, taken']
      · exact (quotedLiteral_append other taken' rest).symm
    · have again := (quotedLiteral_take other rfl taken
        (text.drop (Lexeme.quotedLiteral quote (text ++ rest)))).2
      rwa [List.take_append_of_le_length le, List.take_append_drop] at again

/-! ## Names and numerals -/

/-- One character, and what another rule takes after it. -/
theorem Regular.after (p : Char → Bool) {extent : List Char → Nat} (h : Regular extent) :
    Regular fun
      | c :: rest => if p c then extent rest + 1 else 0
      | [] => 0 where
  within text := by
    cases text with
    | nil => exact Nat.le_refl _
    | cons c text =>
      have within := h.within text
      dsimp only [List.length_cons]
      split <;> omega
  cut {text rest} le := by
    cases text with
    | nil => exact (Nat.le_zero.mp le).symm
    | cons c text =>
      dsimp only [List.cons_append, List.length_cons] at le ⊢
      split at le
      · next here => rw [if_pos here, if_pos here, h.cut (Nat.le_of_succ_le_succ le)]
      · next here => rw [if_neg here, if_neg here]

/-- What one rule takes, and what another takes after it. -/
theorem Regular.andThen {first second : List Char → Nat} (h : Regular first) (h' : Regular second) :
    Regular fun text => first text + second (text.drop (first text)) where
  within text := by
    have within := h.within text
    have within' := h'.within (text.drop (first text))
    rw [List.length_drop] at within'
    omega
  cut {text rest} le := by
    have same := h.cut (Nat.le_trans (Nat.le_add_right ..) le)
    have within := h.within text
    rw [← same, List.drop_append_of_le_length within] at le ⊢
    rw [h'.cut]
    rw [List.length_drop]
    omega

theorem fraction_eq : fraction = fun
    | c :: rest => if c = '.' then run isDigitOrGap rest + 1 else 0
    | [] => 0 := by
  funext text
  unfold fraction
  grind

theorem Regular.fraction : Regular fraction := by
  rw [fraction_eq]
  simpa using Regular.after (· = '.') (Regular.run isDigitOrGap)

theorem Regular.exponent : Regular exponent where
  within text := by
    unfold Lexeme.exponent
    grind [run_le]
  cut {text rest} le := by
    unfold Lexeme.exponent at le ⊢
    grind [run_cut]

/-- What a numeral takes after its first digit. -/
def afterDigit (text : List Char) : Nat :=
  let whole := run isDigitOrGap text
  let part := fraction (text.drop whole)
  whole + (part + exponent ((text.drop whole).drop part))

theorem unsignedNumeral_eq : unsignedNumeral = fun
    | c :: rest => if c.isDigit then afterDigit rest + 1 else 0
    | [] => 0 := by
  funext text
  unfold unsignedNumeral afterDigit
  grind

theorem Regular.unsignedNumeral : Regular unsignedNumeral := by
  rw [unsignedNumeral_eq]
  exact .after Char.isDigit (.andThen (.run _) (.andThen .fraction .exponent))

theorem decimalNumeral_cons (c : Char) (text : List Char) : decimalNumeral (c :: text) =
    if c = '-' then if unsignedNumeral text = 0 then 0 else unsignedNumeral text + 1
    else unsignedNumeral (c :: text) := by
  unfold decimalNumeral
  grind

theorem Regular.decimalNumeral : Regular decimalNumeral where
  within text := by
    cases text with
    | nil => exact Nat.le_refl _
    | cons c text =>
      have within := Regular.unsignedNumeral.within text
      have within' := Regular.unsignedNumeral.within (c :: text)
      rw [decimalNumeral_cons, List.length_cons] at *
      grind
  cut {text rest} le := by
    cases text with
    | nil => exact (Nat.le_zero.mp le).symm
    | cons c text =>
      have cut : _ ≤ text.length → _ = Lexeme.unsignedNumeral (text ++ rest) :=
        Regular.unsignedNumeral.cut
      have cut' : _ ≤ (c :: text).length → _ = Lexeme.unsignedNumeral (c :: text ++ rest) :=
        Regular.unsignedNumeral.cut
      rw [List.cons_append, decimalNumeral_cons, List.length_cons] at *
      rw [decimalNumeral_cons]
      grind

/-- A digit of a base, or a gap between digits. -/
def isRadixDigit (base : Nat) (c : Char) : Bool := (Text.digit? base c).isSome || c = '_'

theorem radixNumeral_eq (letter : Char) (base : Nat) (text : List Char) :
    radixNumeral letter base text =
      if ['0', letter] <+: text ∧ run (isRadixDigit base) (text.drop 2) ≠ 0 then
        run (isRadixDigit base) (text.drop 2) + 2
      else 0 := by
  unfold radixNumeral
  split
  · next c rest =>
    simp only [List.cons_prefix_cons, List.nil_prefix, true_and, and_true, eq_comm (a := letter),
      List.drop_succ_cons, List.drop_zero]
    rfl
  · next other =>
    refine (if_neg ?_).symm
    rintro ⟨⟨rest, rfl⟩, -⟩
    exact other letter rest rfl

theorem Regular.radixNumeral (letter : Char) (base : Nat) :
    Regular (radixNumeral letter base) where
  within text := by
    have le := run_le (isRadixDigit base) (text.drop 2)
    rw [List.length_drop] at le
    rw [radixNumeral_eq]
    split <;> omega
  cut {text rest} le := by
    have longer (fits : ['0', letter] <+: text) : ['0', letter] <+: text ++ rest :=
      fits.trans (List.prefix_append ..)
    have digits (two : 2 ≤ text.length) := by
      have cut := run_cut (isRadixDigit base) (text.drop 2) rest
      rwa [← List.drop_append_of_le_length two, List.length_drop] at cut
    rw [radixNumeral_eq] at le
    rw [radixNumeral_eq, radixNumeral_eq]
    split at le
    · next taken =>
      have two : 2 ≤ text.length := by omega
      have fits : ['0', letter] <+: text := prefix_of_append two taken.1
      rw [if_pos taken, if_pos ⟨fits, by have := digits two; omega⟩]
      have := digits two
      omega
    · next none =>
      rw [if_neg none, if_neg]
      rintro ⟨fits, some⟩
      have := digits fits.length_le
      exact none ⟨longer fits, by omega⟩

theorem identifier_eq : identifier = fun
    | c :: rest => if beginsName c then run continuesName rest + 1 else 0
    | [] => 0 := by
  funext text
  cases text <;> rfl

theorem Regular.identifier : Regular identifier := by
  rw [identifier_eq]
  exact .after beginsName (.run continuesName)

theorem punctuation_eq : punctuation = fun
    | c :: _ => if isPunctuation c then 0 + 1 else 0
    | [] => 0 := by
  funext text
  cases text <;> rfl

theorem Regular.punctuation : Regular punctuation := by
  have none : Regular fun _ => 0 := ⟨fun _ => Nat.zero_le _, fun _ => rfl⟩
  rw [punctuation_eq]
  exact none.after isPunctuation

/-! ## Characters that rules take -/

/-- All that a rule takes satisfies `p`. -/
def Takes (extent : List Char → Nat) (p : Char → Bool) : Prop :=
  ∀ text : List Char, ∀ c ∈ text.take (extent text), p c

theorem Takes.after {q : Char → Bool} {extent : List Char → Nat} (first : ∀ c, p c → q c)
    (h : Takes extent q) : Takes (fun
      | c :: rest => if p c then extent rest + 1 else 0
      | [] => 0) q := by
  intro text
  cases text with
  | nil => nofun
  | cons c text =>
    dsimp only
    split
    · next here => exact List.forall_mem_cons.mpr ⟨first c here, h text⟩
    · nofun

theorem Takes.andThen {first second : List Char → Nat} (h : Takes first p)
    (h' : Takes second p) : Takes (fun text => first text + second (text.drop (first text))) p := by
  intro text
  rw [List.take_add, List.forall_mem_append]
  exact ⟨h text, h' _⟩

theorem Takes.run (p : Char → Bool) : Takes (run p) p := all_run p

theorem Takes.punctuation : Takes punctuation isPunctuation := by
  have nothing : Takes (fun _ => 0) isPunctuation := fun _ => nofun
  rw [punctuation_eq]
  exact nothing.after fun _ => id

theorem Takes.exact (front : List Char) : Takes (exact front) front.contains := by
  intro text
  simp only [Lexeme.exact, List.isPrefixOf_iff_prefix]
  split
  · next fits =>
    obtain ⟨rest, rfl⟩ := fits
    rw [List.take_left]
    exact fun c => List.contains_iff_mem.mpr
  · exact List.forall_mem_nil _

theorem Takes.lineBreak : Takes lineBreak Text.isBlank := by
  intro text
  rw [lineBreak_eq]
  split
  · exact all_run _ text
  · nofun

theorem Takes.radixNumeral (letter : Char) (base : Nat) : Takes (radixNumeral letter base)
    fun c => ['0', letter].contains c || isRadixDigit base c := by
  intro text
  rw [radixNumeral_eq]
  split
  · next taken =>
    obtain ⟨⟨rest, rfl⟩, -⟩ := taken
    simp only [List.cons_append, List.nil_append, List.drop_succ_cons, List.drop_zero,
      List.take_succ_cons, List.forall_mem_cons]
    refine ⟨by simp, by simp, fun c mem => ?_⟩
    simp [all_run (isRadixDigit base) rest c mem]
  · nofun

/-- A character of a numeral in base ten. -/
def isNumeric (c : Char) : Bool := isDigitOrGap c || ['.', 'e', 'E', '+', '-'].contains c

theorem isNumeric_of_isDigitOrGap {c : Char} (h : isDigitOrGap c) : isNumeric c := by
  simp [isNumeric, h]

theorem Takes.digits : Takes (Lexeme.run isDigitOrGap) isNumeric :=
  fun text c mem => isNumeric_of_isDigitOrGap (all_run isDigitOrGap text c mem)

theorem Takes.fraction : Takes fraction isNumeric := by
  rw [fraction_eq]
  simpa using Takes.after (p := (· = '.')) (by simp; decide) .digits

/-- The sign of an exponent. -/
def sign : List Char → Nat
  | c :: _ => if c = '+' ∨ c = '-' then 1 else 0
  | [] => 0

theorem Takes.sign : Takes sign isNumeric := by
  intro text
  unfold Lexeme.sign
  split
  · split
    · next either => rcases either with rfl | rfl <;> simp <;> decide
    · nofun
  · nofun

theorem Takes.exponent : Takes exponent isNumeric := by
  intro text
  have all := Takes.sign.andThen .digits text.tail
  obtain _ | ⟨e, text⟩ := text
  · nofun
  change ∀ c ∈ (e :: text).take (if e = 'e' ∨ e = 'E' then
    if Lexeme.run isDigitOrGap (text.drop (Lexeme.sign text)) = 0 then 0 else
      1 + Lexeme.sign text + Lexeme.run isDigitOrGap (text.drop (Lexeme.sign text)) else 0),
    isNumeric c
  split
  · next letter =>
    split
    · nofun
    · rw [Nat.add_assoc, Nat.add_comm 1, List.take_succ_cons, List.forall_mem_cons]
      refine ⟨?_, all⟩
      rcases letter with rfl | rfl <;> decide
  · nofun

theorem Takes.unsignedNumeral : Takes unsignedNumeral isNumeric := by
  rw [unsignedNumeral_eq]
  refine .after (fun c digit => ?_) (.andThen .digits (.andThen .fraction .exponent))
  exact isNumeric_of_isDigitOrGap (by simp [isDigitOrGap, digit])

theorem Takes.decimalNumeral : Takes decimalNumeral isNumeric := by
  intro text
  cases text with
  | nil => nofun
  | cons c text =>
    rw [decimalNumeral_cons]
    split
    · next sign =>
      split
      · nofun
      · exact List.forall_mem_cons.mpr ⟨sign ▸ by decide, Takes.unsignedNumeral text⟩
    · exact Takes.unsignedNumeral (c :: text)

theorem Takes.identifier : Takes identifier fun c => beginsName c || continuesName c := by
  rw [identifier_eq]
  refine .after (fun c begins => by simp [begins]) ?_
  exact fun text c mem => by simp [all_run continuesName text c mem]

/-- A rule that goes on into what comes after a text takes all of the text and the character that
comes next. -/
theorem Takes.of_lt {extent : List Char → Nat} (h : Takes extent p)
    (lt : text.length < extent (text ++ rest)) :
    (∀ c ∈ text, p c) ∧ ∀ c ∈ rest.head?, p c := by
  have all := h (text ++ rest)
  rw [List.take_append, List.forall_mem_append, List.take_of_length_le (Nat.le_of_lt lt)] at all
  refine ⟨all.1, fun c next => all.2 c ?_⟩
  obtain ⟨m, more⟩ := Nat.exists_eq_add_of_lt lt
  cases rest with
  | nil => cases next
  | cons d rest =>
    cases next
    rw [more, show text.length + m + 1 - text.length = m + 1 by omega, List.take_succ_cons]
    exact .head _

/-- No rule goes on over a character that it does not take. -/
theorem Takes.le {extent : List Char → Nat} (h : Takes extent p) (stop : p c = false) :
    extent (text ++ c :: rest) ≤ text.length := by
  refine Nat.le_of_not_lt fun lt => ?_
  exact Bool.eq_false_iff.mp stop ((h.of_lt lt).2 c rfl)

end Lexeme

/-! ## The first rule that applies -/

open Lexeme

theorem Mode.regular_of_mem {rule : LexRule} (mem : rule ∈ Mode.main.rules) :
    Regular rule.extent := by
  simp only [Mode.rules, List.mem_cons, List.not_mem_nil, or_false] at mem
  rcases mem with rfl | rfl | rfl | rfl | rfl | rfl | rfl | rfl | rfl | rfl | rfl | rfl | rfl
  · exact .lineBreak
  · exact .run _
  · exact .exact _
  · exact .exact _
  · exact .quotedLiteral (by decide)
  · exact .quotedLiteral (by decide)
  · exact .radixNumeral _ _
  · exact .radixNumeral _ _
  · exact .radixNumeral _ _
  · exact .decimalNumeral
  · exact .identifier
  · exact .punctuation
  · exact .run _

variable {text rest : List Char} {rules : List LexRule} {rule : LexRule} {n : Nat}

theorem firstMatch_congr {text text' : List Char}
    (same : ∀ r ∈ rules, r.extent text = r.extent text') :
    firstMatch text rules = firstMatch text' rules := by
  induction rules with
  | nil => rfl
  | cons r rules ih =>
    obtain ⟨here, later⟩ := List.forall_mem_cons.mp same
    rw [firstMatch, firstMatch, here, ih later]

theorem extent_of_firstMatch (first : firstMatch text rules = some (rule, n)) :
    rule ∈ rules ∧ rule.extent text = n := by
  induction rules with
  | nil => cases first
  | cons r rules ih =>
    rw [firstMatch] at first
    split at first
    · exact ⟨.tail _ (ih first).1, (ih first).2⟩
    · cases first
      exact ⟨.head _, rfl⟩

/-- What rules make of the front of a text up to a bound, they make of every text of which those
that end there take the same. -/
theorem firstMatch_of_agree {text' : List Char} {bound : Nat}
    (agree : ∀ r ∈ rules, r.extent text ≤ bound → r.extent text' = r.extent text)
    (first : firstMatch text rules = some (rule, n)) (le : n ≤ bound) :
    firstMatch text' rules = some (rule, n) := by
  induction rules with
  | nil => cases first
  | cons r rules ih =>
    obtain ⟨here, later⟩ := List.forall_mem_cons.mp agree
    rw [firstMatch] at first ⊢
    split at first
    · next zero =>
      have zero' : r.extent text' = 0 := (here (zero ▸ Nat.zero_le _)).trans zero
      rw [if_pos zero']
      exact ih later first
    · next some =>
      cases first
      rw [here le, if_neg some]

/-- A lexeme that stands in a text is a lexeme of what ends with it or after it. -/
theorem firstMatch_cut (regular : ∀ r ∈ rules, Regular r.extent)
    (first : firstMatch (text ++ rest) rules = some (rule, n)) (le : n ≤ text.length) :
    firstMatch text rules = some (rule, n) :=
  firstMatch_of_agree (fun r mem => (regular r mem).cut) first le

/-- A lexeme is one before a text into which no rule goes on. -/
theorem firstMatch_append (regular : ∀ r ∈ rules, Regular r.extent)
    (stops : ∀ r ∈ rules, r.extent (text ++ rest) ≤ text.length) :
    firstMatch (text ++ rest) rules = firstMatch text rules :=
  firstMatch_congr fun r mem => ((regular r mem).cut (stops r mem)).symm

/-- No rule but its own takes a quote. -/
theorem firstMatch_quote {quote : Char} (mem : quote ∈ ['"', '\''])
    (zero : quotedLiteral quote (quote :: text) = 0) :
    firstMatch (quote :: text) Mode.main.rules = none := by
  simp only [List.mem_cons, List.not_mem_nil, or_false] at mem
  have others : Text.isIdentifierStart quote = false ∧ isPunctuation quote = false ∧
      isOperator quote = false := by
    rcases mem with rfl | rfl <;> decide
  rcases mem with rfl | rfl <;>
    simp_all [firstMatch, Mode.rules, lineBreak, run, isSpace, exact, quotedLiteral, radixNumeral,
      decimalNumeral, unsignedNumeral, identifier, punctuation]

/-- Where a quote begins a lexeme, the quoted text ends with it. -/
theorem quotedLiteral_le {quote : Char} (mem : quote ∈ ['"', '\''])
    (first : firstMatch text Mode.main.rules = some (rule, n)) (rest : List Char) :
    quotedLiteral quote (text ++ rest) ≤ text.length := by
  have other : quote ≠ '\\' := fun same => absurd (same ▸ mem) (by decide)
  by_cases taken : quotedLiteral quote text = 0
  · obtain _ | ⟨c, text⟩ := text
    · cases first
    have differs : c ≠ quote := fun same => by
      subst same
      cases (firstMatch_quote mem taken).symm.trans first
    simp [quotedLiteral, differs]
  · rw [quotedLiteral_append other taken]
    exact (Regular.quotedLiteral other).within text

/-- A rule that is not the first to apply does not apply. -/
theorem firstMatch_cons {r : LexRule} (first : firstMatch text (r :: rules) = some (rule, n))
    (other : rule.shape ≠ r.shape) :
    r.extent text = 0 ∧ firstMatch text rules = some (rule, n) := by
  rw [firstMatch] at first
  split at first
  · next zero => exact ⟨zero, first⟩
  · cases first
    exact absurd rfl other

/-- What is neither a line break nor blank stays the same lexeme with a blank after it. -/
theorem firstMatch_spaced (first : firstMatch text Mode.main.rules = some (rule, n))
    (inLine : rule.shape ≠ .line) (kept : rule.shape ≠ .ignored) (rest : List Char) :
    firstMatch (text ++ ' ' :: rest) Mode.main.rules = some (rule, n) := by
  rw [firstMatch_append fun _ => Mode.regular_of_mem, first]
  have quoted {quote : Char} (mem : quote ∈ ['"', '\'']) := quotedLiteral_le mem first (' ' :: rest)
  obtain ⟨line, others⟩ := firstMatch_cons first inLine
  obtain ⟨blank, -⟩ := firstMatch_cons others kept
  simp only [Mode.rules, List.forall_mem_cons]
  refine ⟨?_, ?_, (Takes.exact _).le (by decide), (Takes.exact _).le (by decide),
    quoted (by decide), quoted (by decide), (Takes.radixNumeral _ _).le (by decide),
    (Takes.radixNumeral _ _).le (by decide), (Takes.radixNumeral _ _).le (by decide),
    Takes.decimalNumeral.le (by decide), Takes.identifier.le (by decide),
    Takes.punctuation.le (by decide), (Takes.run _).le (by decide), List.forall_mem_nil _⟩
  · obtain _ | ⟨c, _ | ⟨d, text⟩⟩ := text
    · cases first
    · have other : c ≠ '\n' := fun same => by simp [lineBreak, same] at line
      simp [lineBreak, other]
    · have same : lineBreak (c :: d :: text ++ ' ' :: rest) = 0 := by
        unfold lineBreak at line ⊢
        grind
      omega
  · obtain _ | ⟨c, text⟩ := text
    · cases first
    · have solid : isSpace c = false := by
        by_cases space : isSpace c <;> simp_all [run]
      simp [run, solid]

/-- What is neither a line break nor blank does not begin with a blank. -/
theorem firstMatch_solid {c : Char}
    (first : firstMatch (c :: text) Mode.main.rules = some (rule, n))
    (inLine : rule.shape ≠ .line) (kept : rule.shape ≠ .ignored) : Text.isBlank c = false := by
  rw [Bool.eq_false_iff]
  intro blank
  obtain ⟨mem, extent⟩ := extent_of_firstMatch first
  refine ne_zero_of_firstMatch first (extent ▸ ?_)
  have other {cs : List Char} (solid : cs.any Text.isBlank = false) : c ∉ cs :=
    fun mem => List.any_eq_false.mp solid c mem blank
  have plain : c ∉ ['"', '\'', '0', '-', '$', '_'] := other (by decide)
  simp only [List.mem_cons, List.not_mem_nil, or_false, not_or] at plain
  have punctuation : isPunctuation c = false :=
    Bool.eq_false_iff.mpr fun mem => other (by decide) (List.contains_iff_mem.mp mem)
  have operator : isOperator c = false :=
    Bool.eq_false_iff.mpr fun mem => other (by decide) (List.contains_iff_mem.mp mem)
  have digit := Text.isDigit_solid blank
  have start := Text.isIdentifierStart_solid blank
  simp only [Mode.rules, List.mem_cons, List.not_mem_nil, or_false] at mem
  rcases mem with rfl | rfl | rfl | rfl | rfl | rfl | rfl | rfl | rfl | rfl | rfl | rfl | rfl
  · exact absurd rfl inLine
  · exact absurd rfl kept
  · exact absurd rfl kept
  · exact absurd rfl kept
  · simp [quotedLiteral, plain]
  · simp [quotedLiteral, plain]
  · simp [radixNumeral, plain]
  · simp [radixNumeral, plain]
  · simp [radixNumeral, plain]
  · simp [decimalNumeral_cons, unsignedNumeral, plain, digit]
  · simp [identifier, plain, start]
  · simp [Lexeme.punctuation, punctuation]
  · simp [run, operator]

end RuleMachine
