import RuleMachine.Proofs.Grammar.Unplaced
import RuleMachine.Proofs.Source.Places
import RuleMachine.Proofs.Source.Reprint
import RuleMachine.Proofs.Source.Seams

/-!
# Blanks between operators and words

A blank with an operator on one side and a name, a numeral, a quoted text or a bracket on the other
(`Gap`) can be left out of a source. The tokens before it stay the same, unless a numeral or an
operator among them goes on over the place where it was (`Gap.Fuses`); behind it the lexer is in the
same mode, and what follows differs in places only (`Gap.tokenize_closed`). So the declarations are
the same (`Gap.parse_iff`).

A numeral does go on over that place: a minus sign right before it belongs to it, also behind an
operand, where the grammar asks for an operator (`Gap.parse_not_iff_numeral`).
-/

namespace RuleMachine

open Lexeme

variable {α : Type}

/-! ## What tokens spell -/

theorem spelled_singleton (t : Token α) : spelled [t] = t.text.toList := List.append_nil _

theorem spelled_suffix {ts us : List (Token α)} (h : ts <:+ us) : spelled ts <:+ spelled us := by
  obtain ⟨front, rfl⟩ := h
  exact ⟨spelled front, (spelled_append front ts).symm⟩

/-- Tokens that spell less than others that begin in the same place are the first of these. -/
theorem append_of_spelled {ts us xs ys : List (Token α)} (all : ts ++ us = xs ++ ys)
    (less : (spelled xs).length < (spelled ts).length) :
    ∃ ms, ms ≠ [] ∧ ts = xs ++ ms ∧ ys = ms ++ us := by
  rcases List.append_eq_append_iff.mp all with ⟨ms, rfl, -⟩ | ⟨ms, rfl, rfl⟩
  · rw [spelled_append, List.length_append] at less
    omega
  · refine ⟨ms, ?_, rfl, rfl⟩
    rintro rfl
    rw [List.append_nil] at less
    exact Nat.lt_irrefl _ less

/-- Beside an operator, no tokens at the end of `ts` that the text ends with fuse with what comes
after. -/
def Separate (ts : List (Token α)) (text after : List Char) : Prop :=
  ∀ crossing, crossing ≠ [] → crossing <:+ ts → spelled crossing <:+ text →
    Edge (spelled crossing) after ∧ ¬ Fuses (spelled crossing) after

theorem Separate.mono {ts us : List (Token α)} {text text' after : List Char}
    (h : Separate ts text after) (last : us <:+ ts) (suffix : text' <:+ text) :
    Separate us text' after :=
  fun crossing some here inside => h crossing some (here.trans last) (inside.trans suffix)

/-! ## Scanning in the same mode -/

/-- What was scanned in two runs that differ in places only. The second does not fail if the first
does not. -/
structure Scanned.Alike (s s' : Scanned α) : Prop where
  tokens : List.Forall₂ Token.Alike s.tokens s'.tokens
  mode : s.lexer.mode = s'.lexer.mode
  failure : s.failure = none → s'.failure = none

namespace Lexer

variable {l l' l₁ : Lexer} {text rest after : List Char} {rule : LexRule} {n : Nat} {c : Char}
  {s : Token α} {ts : List (Token α)}

theorem after_mode (mode : l.mode = l'.mode) (rule : LexRule) (text text' : List Char) :
    (l.after rule text).mode = (l'.after rule text').mode := by
  rw [Lexer.after, Lexer.after, mode]

/-- Scanning depends on the mode, not on the place. -/
theorem scanWith_alike (mode : l.mode = l'.mode) (fuel : Nat) (text : List Char) :
    (scanWith fuel l text : Scanned α).Alike (scanWith fuel l' text) := by
  induction fuel generalizing l l' text with
  | zero => cases text <;> exact ⟨.nil, mode, fun _ => rfl⟩
  | succ fuel ih =>
    cases text with
    | nil => exact ⟨.nil, mode, fun _ => rfl⟩
    | cons c rest =>
      simp only [scanWith, mode]
      split
      · exact ⟨.nil, mode, fun failed => absurd failed (Option.some_ne_none _)⟩
      · next rule n _ =>
        have more := ih (l.after_mode mode rule ((c :: rest).take n) ((c :: rest).take n))
          ((c :: rest).drop n)
        exact ⟨.cons ⟨rfl, rfl⟩ more.tokens, more.mode, more.failure⟩

theorem inject_alike (mode : l.mode = l'.mode) (value : Option α) :
    List.Forall₂ Token.Alike (value.bind l.inject).toList (value.bind l'.inject).toList := by
  cases value with
  | none => exact .nil
  | some value =>
    rw [Option.bind_some, Option.bind_some, inject, inject, mode]
    split
    · exact .cons ⟨rfl, rfl⟩ .nil
    · exact .nil

/-- Segments that are scanned in the same mode have the same tokens but for their places. -/
theorem scanSegments_alike (mode : l.mode = l'.mode) {segments : List String} {values : List α}
    (scanned : l.scanSegments segments values = .ok ts) :
    ∃ ts', l'.scanSegments segments values = .ok ts' ∧ List.Forall₂ Token.Alike ts ts' := by
  induction segments generalizing l l' values ts with
  | nil =>
    unfold scanSegments finish at scanned ⊢
    rw [← mode]
    by_cases block : l.mode = .blockComment
    · rw [if_pos block] at scanned
      cases scanned
    · rw [if_neg block] at scanned ⊢
      cases scanned
      exact ⟨[], rfl, .nil⟩
  | cons segment segments ih =>
    obtain ⟨ts, m, us, first, more, rfl⟩ := scanSegments_ok scanned
    have alike := scanWith_alike (α := α) mode segment.toList.length segment.toList
    change (l.scan _).Alike (l'.scan _) at alike
    rw [first] at alike
    rw [scanSegments_cons]
    generalize l'.scan segment.toList = again at alike
    obtain ⟨ts', m', failure⟩ := again
    obtain rfl := alike.failure rfl
    obtain ⟨us', more', same⟩ := ih alike.mode more
    refine ⟨ts' ++ ((between segments values).bind m'.inject).toList ++ us', ?_, ?_⟩
    · simp only [more', Except.map]
    · exact List.rel_append (List.rel_append alike.tokens (inject_alike alike.mode _)) same

/-! ## Token by token -/

/-- A token that was scanned before the end of a text is a lexeme of it. -/
theorem scan_inv (goesOn : rest ≠ [])
    (scanned : l.scan (s.text.toList ++ rest) = ⟨s :: ts, l₁, none⟩) :
    ∃ rule, firstMatch (s.text.toList ++ rest) l.mode.rules =
        some (rule, s.text.toList.length) ∧ s.kind = rule.shape.kind s.text.toList ∧
      (l.after rule s.text.toList).scan rest = ⟨ts, l₁, none⟩ := by
  cases first : firstMatch (s.text.toList ++ rest) l.mode.rules with
  | none =>
    generalize s.text.toList ++ rest = text at first scanned
    cases text with
    | nil => cases scanned
    | cons c text =>
      rw [scan, List.length_cons, scanWith, first] at scanned
      cases scanned
  | some made =>
    obtain ⟨rule, n⟩ := made
    have taken := congrArg Scanned.tokens ((scan_eq first).symm.trans scanned)
    obtain ⟨taken, -⟩ := List.cons.inj taken
    have text : (s.text.toList ++ rest).take n = s.text.toList :=
      String.toList_ofList.symm.trans (congrArg (·.text.toList) taken)
    have length : n = s.text.toList.length := by
      have pos := List.length_pos_iff.mpr goesOn
      have cut := congrArg List.length text
      rw [List.length_take, List.length_append] at cut
      omega
    subst length
    rw [scan_append first] at scanned
    refine ⟨rule, rfl, text ▸ (congrArg Token.kind taken).symm, ?_⟩
    generalize (l.after rule s.text.toList).scan rest = more at scanned ⊢
    obtain ⟨us, m, failure⟩ := more
    obtain ⟨tokens, rfl, rfl⟩ := Scanned.mk.inj scanned
    rw [(List.cons.inj tokens).2.symm]
    rfl

/-- Up to a blank the same is scanned with what comes after it right behind, if none of the last
tokens fuses with that. -/
theorem scan_seam (mode : l.mode = l'.mode) {us : List (Token α)} (blank : c = ' ' ∨ c = '\t')
    (scanned : l.scan (spelled ts ++ c :: rest) = ⟨ts ++ us, l₁, none⟩)
    (separate : Separate ts (spelled ts) after) :
    ∃ (m m' : Lexer) (ts' : List (Token α)), m.mode = m'.mode ∧
      m.scan (c :: rest) = ⟨us, l₁, none⟩ ∧
      (l'.scan (spelled ts ++ after) : Scanned α) = (m'.scan after).prepend ts' ∧
      List.Forall₂ Token.Alike ts ts' ∧ (ts = [] → m = l) ∧
      ∀ s ∈ ts.getLast?, s.isLine = false → s.isIgnored = false → m.mode = .main := by
  -- That the lexer has not moved where there are no tokens says which mode the last token left.
  induction ts generalizing l l' with
  | nil => exact ⟨l, l', [], mode, scanned, rfl, .nil, fun _ => rfl, nofun⟩
  | cons s ts ih =>
    have front (rest : List Char) :
        spelled (s :: ts) ++ rest = s.text.toList ++ (spelled ts ++ rest) := List.append_assoc ..
    have goesOn : spelled ts ++ c :: rest ≠ [] := List.append_ne_nil_of_right_ne_nil _ nofun
    rw [front] at scanned
    obtain ⟨rule, first, kind, more⟩ := scan_inv goesOn scanned
    have close : firstMatch (s.text.toList ++ (spelled ts ++ after)) l.mode.rules =
        some (rule, s.text.toList.length) := by
      obtain ⟨edge, apart⟩ :=
        separate (s :: ts) (List.cons_ne_nil s ts) List.suffix_rfl List.suffix_rfl
      rw [← front] at first ⊢
      refine firstMatch_close blank first ?_ edge apart
      exact (List.prefix_append _ (spelled ts)).length_le
    have again : (l'.scan (s.text.toList ++ (spelled ts ++ after)) : Scanned α) = _ :=
      scan_append (mode ▸ close)
    have tail : ts <:+ s :: ts := List.suffix_cons s ts
    obtain ⟨m, m', ts', modes, seam, back, alike, same, main⟩ := ih (l.after_mode mode rule _ _)
      more (separate.mono tail (spelled_suffix tail))
    let s' : Token α := ⟨rule.shape.kind s.text.toList, String.ofList s.text.toList, l'.position⟩
    refine ⟨m, m', s' :: ts', modes, seam, ?_, .cons ⟨kind, String.ofList_toList.symm⟩ alike, nofun,
      ?_⟩
    · rw [front, again, back, ← Scanned.prepend_append]
      rfl
    · intro u last inLine kept
      cases ts with
      | cons s₁ ts => exact main u last inLine kept
      | nil =>
        cases last
        obtain ⟨main, stays⟩ := rules_of_kept (extent_of_firstMatch first).1
          (fun same => by simp [Token.isLine, kind, same, Shape.kind] at inLine)
          (fun same => by simp [Token.isIgnored, kind, same, Shape.kind] at kept)
        rw [same rfl, Lexer.after, stays]
        exact main

/-- A blank does not leave main text. -/
theorem next_of_blank (blank : c = ' ' ∨ c = '\t')
    (first : firstMatch (c :: text) Mode.main.rules = some (rule, n)) : rule.next = none := by
  have line : lineBreak (c :: text) = 0 := by rcases blank with rfl | rfl <;> rfl
  have space : isSpace c := by rcases blank with rfl | rfl <;> rfl
  simp only [Mode.rules, firstMatch, line, if_true, run, space] at first
  rw [if_neg (Nat.succ_ne_zero _)] at first
  cases first
  rfl

/-- Without a blank after some tokens, the last of which is neither a line break nor blank, the same
is scanned, if none of them fuses with what comes after. -/
theorem scan_gap (mode : l.mode = l'.mode) {us : List (Token α)}
    (spaces : ∀ c ∈ s.text.toList, c = ' ' ∨ c = '\t') (goesOn : after ≠ [])
    (scanned : l.scan (spelled ts ++ s.text.toList ++ after) = ⟨ts ++ s :: us, l₁, none⟩)
    (last : ∃ t ∈ ts.getLast?, t.isLine = false ∧ t.isIgnored = false)
    (separate : Separate ts (spelled ts) after) :
    (⟨ts ++ us, l₁, none⟩ : Scanned α).Alike (l'.scan (spelled ts ++ after)) := by
  have solid : s.text ≠ "" := by
    have all := scanWith_solid (α := α) (spelled ts ++ s.text.toList ++ after).length l
      (spelled ts ++ s.text.toList ++ after)
    unfold scan at scanned
    rw [scanned] at all
    exact all s (List.mem_append_right _ (.head _))
  obtain ⟨c, cs, front⟩ : ∃ c cs, s.text.toList = c :: cs :=
    List.exists_cons_of_ne_nil fun none => solid (String.toList_eq_nil_iff.mp none)
  have blank := spaces c (front ▸ .head _)
  rw [List.append_assoc, front, List.cons_append] at scanned
  obtain ⟨m, m', ts', modes, seam, back, alike, -, main⟩ := scan_seam mode blank scanned separate
  obtain ⟨t, mem, inLine, kept⟩ := last
  have main := main t mem inLine kept
  rw [← List.cons_append, ← front] at seam
  obtain ⟨rule, first, kind, more⟩ := scan_inv goesOn seam
  rw [main, front, List.cons_append] at first
  have stays : (m.after rule s.text.toList).mode = m'.mode := by
    rw [Lexer.after, next_of_blank blank first]
    exact modes
  have rest := scanWith_alike (α := α) stays after.length after
  change (Lexer.scan _ after).Alike (m'.scan after) at rest
  rw [more] at rest
  rw [back]
  exact ⟨List.rel_append alike rest.tokens, rest.mode, rest.failure⟩

/-- The last of some tokens is neither a line break nor blank, and ends the text. -/
def Ended (ts : List (Token α)) (text : String) : Prop :=
  ∃ t ∈ ts.getLast?, t.isLine = false ∧ t.isIgnored = false ∧ t.text.toList ≠ [] ∧
    t.text.toList <:+ text.toList

/-- The same for a blank in a segment. -/
theorem scanSegments_gap {front back : List String} {left right : String} {values : List α}
    {us : List (Token α)} (spaces : ∀ c ∈ s.text.toList, c = ' ' ∨ c = '\t')
    (goesOn : right.toList ≠ [])
    (scanned : l.scanSegments (front ++ (left ++ s.text ++ right) :: back) values =
      .ok (ts ++ s :: us))
    (place : spelled ts = front.flatMap String.toList ++ left.toList) (last : Ended ts left)
    (separate : Separate ts left.toList right.toList) :
    ∃ ts', l.scanSegments (front ++ (left ++ right) :: back) values = .ok ts' ∧
      List.Forall₂ Token.Alike (ts ++ us) ts' := by
  have left_pos : 0 < left.toList.length := by
    obtain ⟨t, -, -, -, some, suffix⟩ := last
    exact Nat.lt_of_lt_of_le (List.length_pos_iff.mpr some) suffix.length_le
  have right_pos : 0 < right.toList.length := List.length_pos_iff.mpr goesOn
  induction front generalizing l ts values with
  | nil =>
    obtain ⟨fs, m, vs, first, more, all⟩ := scanSegments_ok scanned
    -- The blank and more lie in this segment, so its tokens begin with those up to the blank.
    rw [List.flatMap_nil, List.nil_append] at place
    rw [List.append_cons, List.append_assoc fs] at all
    have longer : (spelled (ts ++ [s])).length < (spelled fs).length := by
      rw [(scan_ok first).1, spelled_append, place, spelled_singleton]
      simp only [String.toList_append, List.length_append]
      omega
    obtain ⟨ms, -, rfl, rfl⟩ := append_of_spelled all.symm longer
    rw [String.toList_append, String.toList_append, ← place, List.append_assoc ts] at first
    obtain ⟨t, mem, inLine, kept, -⟩ := last
    have alike := scan_gap rfl spaces goesOn first ⟨t, mem, inLine, kept⟩ (place ▸ separate)
    rw [place, ← String.toList_append] at alike
    rw [List.nil_append, scanSegments_cons]
    generalize l.scan (left ++ right).toList = again at alike
    obtain ⟨fs', m', failure⟩ := again
    obtain rfl := alike.failure rfl
    obtain ⟨vs', more', same⟩ := scanSegments_alike alike.mode more
    refine ⟨fs' ++ ((between back values).bind m'.inject).toList ++ vs', ?_, ?_⟩
    · simp only [more', Except.map]
    · rw [← List.append_assoc, ← List.append_assoc]
      exact List.rel_append (List.rel_append alike.tokens (inject_alike alike.mode _)) same
  | cons segment front ih =>
    rw [List.cons_append] at scanned ⊢
    obtain ⟨fs, m, vs, first, more, all⟩ := (scanSegments_ok_iff (by simp)).mp scanned
    rw [List.flatMap_cons, List.append_assoc] at place
    -- The blank lies in a later segment, so the tokens up to it begin with those of this one.
    have made : spelled (fs ++ (values.head?.bind m.inject).toList) = segment.toList := by
      rw [spelled_append, (scan_ok first).1, spelled_inject, List.append_nil]
    have shorter : (spelled (fs ++ (values.head?.bind m.inject).toList)).length <
        (spelled ts).length := by
      rw [made, place, List.length_append, List.length_append]
      omega
    obtain ⟨ms, some, rfl, rfl⟩ := append_of_spelled all shorter
    rw [spelled_append, made, List.append_cancel_left_eq] at place
    rw [Ended, List.getLast?_append_of_ne_nil _ some] at last
    obtain ⟨ts', scanned', same⟩ :=
      ih more place last (separate.mono (List.suffix_append ..) List.suffix_rfl)
    refine ⟨_, (scanSegments_ok_iff (by simp)).mpr ⟨fs, m, ts', first, scanned', rfl⟩, ?_⟩
    rw [List.append_assoc _ ms]
    exact List.rel_append (List.forall₂_same.mpr fun t _ => .refl t) same

end Lexer

/-! ## Operators and words -/

namespace Token

def isOperator (t : Token α) : Bool :=
  match t.kind with
  | .operator => true
  | _ => false

/-- A name, a numeral, a quoted text or a bracket. -/
def isWord (t : Token α) : Bool :=
  match t.kind with
  | .identifier | .literal (.quoted _) | .literal (.number _) => true
  | .punctuation => (brackets.role? t).isSome
  | _ => false

variable {t : Token α}

/-- Operators and words are neither line breaks nor blank. -/
theorem plain (h : t.isOperator ∨ t.isWord) : t.isLine = false ∧ t.isIgnored = false := by
  cases kind : t.kind <;> simp_all [isOperator, isWord, isLine, isIgnored]

/-- Operators are runs of operator characters. -/
theorem IsLexeme.operators (h : t.IsLexeme) (operator : t.isOperator) :
    ∀ c ∈ t.text.toList, Lexeme.isOperator c := by
  obtain ⟨shape, ⟨rule, rfl, -, first⟩, kind, -⟩ := h
  rw [List.append_nil] at first
  obtain ⟨mem, extent⟩ := extent_of_firstMatch first
  have shape : rule.shape = .operator := by
    rw [isOperator, kind] at operator
    cases made : rule.shape <;> simp_all [Shape.kind]
  have run : rule.extent = run Lexeme.isOperator := by
    simp only [Mode.rules, List.mem_cons, List.not_mem_nil, or_false] at mem
    rcases mem with rfl | rfl | rfl | rfl | rfl | rfl | rfl | rfl | rfl | rfl | rfl | rfl | rfl <;>
      first | rfl | cases shape
  have all := all_run Lexeme.isOperator t.text.toList
  rwa [← run, extent, List.take_length] at all

end Token

/-- Operators and words of a source are lexemes. -/
theorem isLexeme_of_tokenize {segments : List String} {values : List α} {ts : List (Token α)}
    (scanned : tokenize segments values = .ok ts) {t : Token α} (mem : t ∈ ts)
    (h : t.isOperator ∨ t.isWord) : t.IsLexeme := by
  have all := Lexer.forall_scanSegments
    (P := fun t => (t.isOperator ∨ t.isWord) → t.isLine ∨ t.isIgnored ∨ t.IsLexeme)
    (fun fuel l text t mem _ => Lexer.scanWith_lexemes fuel l text t mem)
    (fun _ _ => by simp [Token.isOperator, Token.isWord]) scanned t mem h
  simpa [Token.plain h] using all

/-- Taking a blank in before another token changes nothing. -/
theorem assemble_ignored {ds : Delimiters} {ts us : List (Token α)} {s u : Token α}
    (ignored : s.isIgnored) : assemble ds (ts ++ s :: u :: us) = assemble ds (ts ++ u :: us) := by
  have same (a : Assembly α) : (s :: u :: us).foldlM (Assembly.push ds) a =
      (u :: us).foldlM (Assembly.push ds) a := by
    rw [List.foldlM_cons, Assembly.push, if_pos ignored]
    rfl
  rw [assemble_eq, assemble_eq, List.foldlM_append, List.foldlM_append]
  simp only [same]

/-! ## Blanks between an operator and a word -/

/-- Two templates, of which the second is the first without the blank between an operator and a
word. -/
structure Gap (t t' : Template) where
  front : List String
  left : String
  right : String
  back : List String
  before : List (Token Value)
  first : Token Value
  blank : Token Value
  second : Token Value
  after : List (Token Value)
  opened : t.segments =
    front ++ (left ++ first.text ++ blank.text ++ (second.text ++ right)) :: back
  closed : t'.segments = front ++ (left ++ first.text ++ (second.text ++ right)) :: back
  values : t'.values = t.values
  tokens : tokenize t.segments t.values = .ok (before ++ [first] ++ blank :: second :: after)
  place : spelled before = front.flatMap String.toList ++ left.toList
  ignored : blank.isIgnored
  spaces : ∀ c ∈ blank.text.toList, c = ' ' ∨ c = '\t'
  sides : first.isOperator ∧ second.isWord ∨ first.isWord ∧ second.isOperator

namespace Gap

variable {t t' : Template}

/-- Without the blank a numeral or an operator that begins with some of the tokens before it goes on
into what comes after it. -/
def Fuses (g : Gap t t') : Prop :=
  ∃ crossing, crossing ≠ [] ∧ crossing <:+ g.before ++ [g.first] ∧
    spelled crossing <:+ (g.left ++ g.first.text).toList ∧
    Lexeme.Fuses (spelled crossing) (g.second.text ++ g.right).toList

theorem first_plain (g : Gap t t') : g.first.isLine = false ∧ g.first.isIgnored = false :=
  Token.plain (g.sides.imp And.left And.left)

theorem first_isLexeme (g : Gap t t') : g.first.IsLexeme :=
  isLexeme_of_tokenize g.tokens (by simp) (g.sides.imp And.left And.left)

theorem second_isLexeme (g : Gap t t') : g.second.IsLexeme :=
  isLexeme_of_tokenize g.tokens (by simp) (g.sides.imp And.right And.right).symm

/-- One of the sides of the blank is an operator. -/
theorem edge (g : Gap t t') {crossing : List (Token Value)} (some : crossing ≠ [])
    (suffix : crossing <:+ g.before ++ [g.first]) :
    Edge (spelled crossing) (g.second.text ++ g.right).toList := by
  rcases g.sides with ⟨operator, -⟩ | ⟨-, operator⟩
  · have last : crossing.getLast? = .some g.first := by
      obtain ⟨init, whole⟩ := suffix
      rw [← List.getLast?_append_of_ne_nil init some, whole, List.getLast?_concat]
    obtain ⟨c, mem⟩ := List.exists_mem_of_ne_nil _ g.first_isLexeme.solid
    exact .inl ⟨c, List.mem_flatMap.mpr ⟨g.first, List.mem_of_getLast? last, mem⟩,
      g.first_isLexeme.operators operator c mem⟩
  · obtain ⟨c, cs, front⟩ := List.exists_cons_of_ne_nil g.second_isLexeme.solid
    refine .inr ⟨c, ?_, g.second_isLexeme.operators operator c (front ▸ .head _)⟩
    rw [String.toList_append, front]
    rfl

/-- What comes after the blank fuses with nothing, if it goes on neither numerals nor operators. -/
theorem apart_of_next (g : Gap t t')
    (next : g.second.text.toList.head?.all fun c => !isNumeric c && !isOperator c) :
    ¬ g.Fuses := by
  obtain ⟨c, cs, front⟩ := List.exists_cons_of_ne_nil g.second_isLexeme.solid
  obtain ⟨numeric, operator⟩ : isNumeric c = false ∧ isOperator c = false := by
    simpa [front] using next
  have head : c ∈ (g.second.text ++ g.right).toList.head? := by
    rw [String.toList_append, front]
    rfl
  rintro ⟨crossing, -, -, -, numeral | operators⟩
  · exact Bool.eq_false_iff.mp numeric ((Takes.decimalNumeral.of_lt numeral).2 c head)
  · exact Bool.eq_false_iff.mp operator (((Takes.run _).of_lt operators).2 c head)

/-- Without the blank the source has the same other tokens, if nothing fuses. -/
theorem tokenize_closed (g : Gap t t') (apart : ¬ g.Fuses) :
    ∃ ts, tokenize t'.segments t'.values = .ok ts ∧
      List.Forall₂ Token.Alike (g.before ++ [g.first] ++ g.second :: g.after) ts := by
  have tokens := g.tokens
  have place : spelled (g.before ++ [g.first]) =
      g.front.flatMap String.toList ++ (g.left ++ g.first.text).toList := by
    rw [spelled_append, g.place, spelled_singleton, String.toList_append, List.append_assoc]
  have goesOn : (g.second.text ++ g.right).toList ≠ [] := by
    rw [String.toList_append]
    exact List.append_ne_nil_of_left_ne_nil g.second_isLexeme.solid _
  have last : Lexer.Ended (g.before ++ [g.first]) (g.left ++ g.first.text) := by
    refine ⟨g.first, by simp, g.first_plain.1, g.first_plain.2, g.first_isLexeme.solid, ?_⟩
    rw [String.toList_append]
    exact List.suffix_append ..
  rw [g.opened] at tokens
  rw [g.closed, g.values]
  refine Lexer.scanSegments_gap g.spaces goesOn tokens place last ?_
  intro crossing some suffix inside
  exact ⟨g.edge some suffix, fun fuses => apart ⟨crossing, some, suffix, inside, fuses⟩⟩

/-- Without the blank the source has the same declarations, if nothing fuses. -/
theorem parse_iff (g : Gap t t') (apart : ¬ g.Fuses) {ds : List Declaration} :
    t.parse = .ok ds ↔ t'.parse = .ok ds := by
  obtain ⟨ts, closed, same⟩ := g.tokenize_closed apart
  have assembled : t.tree = assemble brackets (g.before ++ [g.first] ++ g.second :: g.after) := by
    rw [Template.tree, g.tokens]
    exact assemble_ignored g.ignored
  have assembled' : t'.tree = assemble brackets ts := by
    rw [Template.tree, closed]
    rfl
  simp only [Template.parse_ok, assembled, assembled']
  constructor
  · rintro ⟨tree, made, program⟩
    obtain ⟨tree', made', alike⟩ := assemble_alike same made
    exact ⟨tree', made', tree.program_alike alike program⟩
  · rintro ⟨tree, made, program⟩
    obtain ⟨tree', made', alike⟩ := assemble_alike (same.flip.imp fun _ _ => .symm) made
    exact ⟨tree', made', tree.program_alike alike program⟩

/-- After `n` of the tokens there is a blank between an operator and a word. -/
def blankAt (left first blank second : String) (n : Nat) (ts : List (Token Value)) : Bool :=
  match ts.drop n with
  | t :: s :: u :: _ =>
    spelled (ts.take n) = left.toList ∧ [t.text, s.text, u.text] = [first, blank, second] ∧
      s.isIgnored ∧ (t.isOperator ∧ u.isWord ∨ t.isWord ∧ u.isOperator)
  | _ => false

/-- A blank in a text is found by scanning it. -/
theorem exists_of_tokenize {text text' second : String} (left first blank right : String) (n : Nat)
    (opened : text = left ++ first ++ blank ++ (second ++ right))
    (closed : text' = left ++ first ++ (second ++ right))
    (spaces : blank.toList.all fun c => c = ' ' ∨ c = '\t')
    (found : (tokenize [text] []).toOption.any (blankAt left first blank second n)) :
    ∃ g : Gap (.ofText text) (.ofText text'), g.second.text = second := by
  cases scanned : (tokenize [text] [] : Except SyntaxError (List (Token Value))) with
  | error e => simp [scanned, Except.toOption] at found
  | ok ts =>
    replace found : blankAt left first blank second n ts := by
      simpa [scanned, Except.toOption] using found
    unfold blankAt at found
    split at found
    · next t s u after tail =>
      obtain ⟨place, texts, ignored, sides⟩ := of_decide_eq_true found
      obtain ⟨rfl, rfl, rfl⟩ : t.text = first ∧ s.text = blank ∧ u.text = second := by
        simpa using texts
      refine ⟨⟨[], left, right, [], ts.take n, t, s, u, after, ?_, ?_, rfl, ?_, place, ignored,
        by simpa using spaces, sides⟩, rfl⟩
      · exact congrArg (fun text => [text]) opened
      · exact congrArg (fun text => [text]) closed
      · rw [List.append_assoc, List.singleton_append, ← tail, List.take_append_drop]
        exact scanned
    · cases found

/-- A difference without the blank before its second name. -/
theorem parse_iff_difference : ∃ ds, (Template.ofText "start = n - m\n_ @ _ -> n").parse = .ok ds ∧
    (Template.ofText "start = n -m\n_ @ _ -> n").parse = .ok ds := by
  have found : ∃ g : Gap (.ofText "start = n - m\n_ @ _ -> n")
      (.ofText "start = n -m\n_ @ _ -> n"), g.second.text = "m" :=
    exists_of_tokenize "start = n " "-" " " "\n_ @ _ -> n" 6 (by decide +kernel) (by decide +kernel)
      (by decide +kernel) (by decide +kernel)
  obtain ⟨g, text⟩ := found
  have apart : ¬ g.Fuses := g.apart_of_next (by rw [text]; decide +kernel)
  have parses : (Template.ofText "start = n - m\n_ @ _ -> n").parse.toOption.isSome := by
    decide +kernel
  generalize parsed : (Template.ofText "start = n - m\n_ @ _ -> n").parse = result at parses
  cases result with
  | error e => cases parses
  | ok ds => exact ⟨ds, rfl, (g.parse_iff apart).mp parsed⟩

/-- A numeral takes the minus sign right before it, and then there is no difference any more. -/
theorem parse_not_iff_numeral :
    ∃ _ : Gap (.ofText "start = 2 - 1\n1 @ _ -> null") (.ofText "start = 2 -1\n1 @ _ -> null"),
      (∃ ds, (Template.ofText "start = 2 - 1\n1 @ _ -> null").parse = .ok ds) ∧
        ∀ ds, (Template.ofText "start = 2 -1\n1 @ _ -> null").parse ≠ .ok ds := by
  have found : ∃ g : Gap (.ofText "start = 2 - 1\n1 @ _ -> null")
      (.ofText "start = 2 -1\n1 @ _ -> null"), g.second.text = "1" :=
    exists_of_tokenize "start = 2 " "-" " " "\n1 @ _ -> null" 6 (by decide +kernel)
      (by decide +kernel) (by decide +kernel) (by decide +kernel)
  obtain ⟨g, -⟩ := found
  have parses : (Template.ofText "start = 2 - 1\n1 @ _ -> null").parse.toOption.isSome := by
    decide +kernel
  have fails : (Template.ofText "start = 2 -1\n1 @ _ -> null").parse.toOption.isNone := by
    decide +kernel
  generalize (Template.ofText "start = 2 - 1\n1 @ _ -> null").parse = result at parses
  generalize (Template.ofText "start = 2 -1\n1 @ _ -> null").parse = result' at fails
  cases result with
  | error e => cases parses
  | ok ds =>
    refine ⟨g, ⟨ds, rfl⟩, ?_⟩
    rintro ds' rfl
    cases fails

end Gap

end RuleMachine
