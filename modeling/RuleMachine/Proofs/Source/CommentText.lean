import Mathlib.Data.Nat.Find
import RuleMachine.Proofs.Source.Seams
import RuleMachine.Proofs.Source.Sessions

/-!
# The text of comments

A comment ends at the first place where its ending stands in one of the texts that are scanned
(`FirstEnd`). What a rule takes of a comment reaches up to that place at most, unless it is the
ending itself (`firstMatch_lineComment`, `firstMatch_blockComment`), and some rule always takes
something (`exists_firstMatch`). So the text before the ending is scanned into ignored tokens
(`Lexer.scan_before_end`), and a text without an ending is ignored as a whole
(`Lexer.scan_without_end`). Behind the ending main text goes on (`Lexer.scan_block_end`,
`Lexer.scan_line_end`).
-/

namespace RuleMachine

open Lexeme

/-- What ends a comment. -/
def Mode.ending : Mode → List Char
  | .main => []
  | .lineComment => ['\n']
  | .blockComment => ['*', '/']

/-- The first place where `ending` stands in a text is after `body` and before `rest`. -/
structure FirstEnd (ending text body rest : List Char) : Prop where
  split : text = body ++ ending ++ rest
  first : ∀ before after, text = before ++ ending ++ after → body.length ≤ before.length

namespace FirstEnd

variable {ending text body rest : List Char}

theorem exists_of_infix (inside : ending <:+: text) :
    ∃ body rest, FirstEnd ending text body rest := by
  have some : ∃ n before after, before.length = n ∧ text = before ++ ending ++ after := by
    obtain ⟨before, after, whole⟩ := inside
    exact ⟨_, before, after, rfl, whole.symm⟩
  classical
  obtain ⟨body, rest, length, whole⟩ := Nat.find_spec some
  refine ⟨body, rest, whole, fun before after other => ?_⟩
  rw [length]
  exact Nat.find_min' some ⟨before, after, rfl, other⟩

theorem unique {body' rest' : List Char} (h : FirstEnd ending text body rest)
    (h' : FirstEnd ending text body' rest') : body = body' ∧ rest = rest' := by
  have length := Nat.le_antisymm (h.first _ _ h'.split) (h'.first _ _ h.split)
  have same := h.split.symm.trans h'.split
  rw [List.append_assoc, List.append_assoc] at same
  obtain ⟨bodies, rests⟩ := List.append_inj same length
  exact ⟨bodies, List.append_cancel_left rests⟩

theorem of_append (front : List Char)
    (h : FirstEnd ending (front ++ text) (front ++ body) rest) :
    FirstEnd ending text body rest := by
  obtain ⟨split, first⟩ := h
  constructor
  · rw [List.append_assoc, List.append_assoc, List.append_cancel_left_eq] at split
    rw [split, List.append_assoc]
  · intro before after whole
    have longer := first (front ++ before) after (by simp only [whole, List.append_assoc])
    rw [List.length_append, List.length_append] at longer
    omega

end FirstEnd

/-! ## The rules of comments -/

namespace Lexeme

variable {text rest : List Char}

/-- A run goes no further than to the first character that it leaves out. -/
theorem run_le_of_not {p : Char → Bool} {c : Char} (out : p c = false) (before rest : List Char) :
    run p (before ++ c :: rest) ≤ before.length := by
  induction before with
  | nil => simp [run, out]
  | cons d before ih =>
    simp only [List.cons_append, run, List.length_cons]
    split
    · exact Nat.succ_le_succ ih
    · exact Nat.zero_le _

theorem run_of_stars {stars : List Char} (all : ∀ d ∈ stars, d = '*') (rest : List Char) :
    run (· = '*') (stars ++ ['*', '/'] ++ rest) = stars.length + 1 := by
  have shape : stars ++ ['*', '/'] ++ rest = (stars ++ ['*']) ++ '/' :: rest := by simp
  have counted : run (· = '*') ((stars ++ ['*']) ++ '/' :: rest) = (stars ++ ['*']).length := by
    refine run_append (fun d mem => ?_) (by simp)
    rcases List.mem_append.mp mem with star | last
    · exact decide_eq_true (all d star)
    · exact decide_eq_true (List.mem_singleton.mp last)
  rw [shape, counted, List.length_append, List.length_singleton]

/-- Some stars, and the star and the slash that end a block comment. -/
theorem commentEnd_of_stars {stars : List Char} (all : ∀ d ∈ stars, d = '*') (rest : List Char) :
    commentEnd (stars ++ ['*', '/'] ++ rest) = stars.length + 2 := by
  have slash : (stars ++ ['*', '/'] ++ rest).drop (stars.length + 1) = '/' :: rest := by
    rw [List.append_assoc, List.drop_length_add_append]
    rfl
  rw [commentEnd, run_of_stars all rest]
  simp only [slash]
  rw [if_neg (Nat.succ_ne_zero _)]

theorem firstEnd_of_stars {stars : List Char} (all : ∀ d ∈ stars, d = '*') (rest : List Char) :
    FirstEnd ['*', '/'] (stars ++ ['*', '/'] ++ rest) stars rest := by
  refine ⟨rfl, fun before after other => ?_⟩
  have counted := run_of_stars all rest
  have shape : before ++ ['*', '/'] ++ after = (before ++ ['*']) ++ '/' :: after := by simp
  have le := run_le_of_not (p := (· = '*')) (c := '/') (by simp) (before ++ ['*']) after
  rw [← shape, ← other, counted, List.length_append] at le
  exact Nat.le_of_succ_le_succ le

theorem stars_of_commentEnd (some : commentEnd text ≠ 0) :
    ∃ stars rest, (∀ d ∈ stars, d = '*') ∧ text = stars ++ ['*', '/'] ++ rest ∧
      commentEnd text = stars.length + 2 := by
  have stars := all_run (· = '*') text
  have whole := List.take_append_drop (run (· = '*') text) text
  have length := run_le (· = '*') text
  simp only [commentEnd] at some ⊢
  generalize run (· = '*') text = k at stars whole length some ⊢
  split at some
  · next rest slash =>
    rw [slash] at whole
    obtain _ | k := k
    · exact absurd rfl some
    -- The last of the stars counted belongs to the ending.
    have last : text.take (k + 1) = text.take k ++ ['*'] := by
      have here : text[k] = '*' := by
        simpa using stars text[k] (by
          rw [List.take_succ_eq_append_getElem length]
          exact List.mem_append_right _ (.head _))
      rw [List.take_succ_eq_append_getElem length, here]
    refine ⟨text.take k, rest, fun d mem => ?_, ?_, ?_⟩
    · simpa using stars d (last ▸ List.mem_append_left _ mem)
    · rw [List.append_assoc, List.cons_append, List.singleton_append]
      conv_lhs => rw [← whole, last, List.append_assoc, List.singleton_append]
    · rw [if_neg (Nat.succ_ne_zero k), List.length_take_of_le (Nat.le_of_succ_le length)]
  · exact absurd rfl some

/-- Comment text does not reach into an ending. -/
theorem commentText_le (stars : Nat) (before after : List Char) :
    commentText stars (before ++ ['*', '/'] ++ after) ≤ stars + before.length := by
  induction before generalizing stars with
  | nil => simp [commentText]
  | cons d before ih =>
    simp only [List.cons_append, commentText, List.length_cons]
    split
    · have := ih (stars + 1)
      omega
    · split
      · exact Nat.zero_le _
      · have := ih 0
        omega

/-- Where there is no comment text, stars come first and then an ending or nothing. -/
theorem stars_of_commentText {stars : Nat} (none : commentText stars text = 0) :
    (∀ d ∈ text, d = '*') ∨
      ∃ front rest, (∀ d ∈ front, d = '*') ∧ text = front ++ '/' :: rest ∧
        stars + front.length ≠ 0 := by
  induction text generalizing stars with
  | nil => exact .inl (List.forall_mem_nil _)
  | cons c text ih =>
    rw [commentText] at none
    split at none
    · next star =>
      rcases ih none with all | ⟨front, rest, all, whole, some⟩
      · exact .inl (List.forall_mem_cons.mpr ⟨star, all⟩)
      · refine .inr ⟨c :: front, rest, List.forall_mem_cons.mpr ⟨star, all⟩, by rw [whole]; rfl, ?_⟩
        rw [List.length_cons]
        omega
    · split at none
      · next slash =>
        exact .inr ⟨[], text, List.forall_mem_nil _, by rw [slash.1]; rfl, slash.2⟩
      · omega

end Lexeme

variable {text body rest : List Char} {rule : LexRule} {n : Nat} {m : Mode}

/-- A rule that takes text of a comment, up to the first ending at most. -/
structure Passes (m : Mode) (rule : LexRule) (n : Nat) (text : List Char) : Prop where
  ignored : rule.shape = .ignored
  stays : rule.next = none
  le : ∀ before after, text = before ++ m.ending ++ after → n ≤ before.length

theorem firstMatch_lineComment (first : firstMatch text Mode.lineComment.rules = some (rule, n)) :
    Passes .lineComment rule n text ∨
      rule.shape = .line ∧ rule.next = some .main ∧
        ∃ rest, FirstEnd ['\n'] text [] rest ∧ n = run Text.isBlank rest + 1 := by
  simp only [Mode.rules, firstMatch] at first
  split at first
  · split at first
    · cases first
    · next feed =>
      cases first
      obtain _ | ⟨c, rest⟩ := text
      · exact absurd rfl feed
      · rw [lineFeed_cons] at feed ⊢
        split at feed
        · next same =>
          refine .inr ⟨rfl, rfl, rest, ⟨by rw [same]; rfl, fun _ _ _ => Nat.zero_le _⟩, ?_⟩
          rw [if_pos same]
        · exact absurd rfl feed
  · cases first
    refine .inl ⟨rfl, rfl, ?_⟩
    rintro before after rfl
    rw [Mode.ending, List.append_assoc, List.singleton_append]
    exact run_le_of_not (by simp) before after

theorem firstMatch_blockComment
    (first : firstMatch text Mode.blockComment.rules = some (rule, n)) :
    Passes .blockComment rule n text ∨
      rule.shape = .ignored ∧ rule.next = some .main ∧
        ∃ stars rest, FirstEnd ['*', '/'] text stars rest ∧ n = stars.length + 2 := by
  simp only [Mode.rules, firstMatch] at first
  split at first
  · split at first
    · split at first
      · cases first
      · next some =>
        cases first
        refine .inl ⟨rfl, rfl, ?_⟩
        rintro before after rfl
        simp [trailingStars, Mode.ending] at some
    · cases first
      refine .inl ⟨rfl, rfl, ?_⟩
      rintro before after rfl
      exact (commentText_le 0 before after).trans_eq (Nat.zero_add _)
  · next some =>
    cases first
    obtain ⟨stars, rest, all, rfl, length⟩ := stars_of_commentEnd some
    exact .inr ⟨rfl, rfl, stars, rest, firstEnd_of_stars all rest, length⟩

/-- What a rule takes of a comment lies before its ending, or the comment is over after it. -/
theorem firstMatch_comment (comment : m ≠ .main)
    (first : firstMatch text m.rules = some (rule, n)) :
    Passes m rule n text ∨ rule.next = some .main := by
  cases m with
  | main => exact absurd rfl comment
  | lineComment => exact (firstMatch_lineComment first).imp_right fun ending => ending.2.1
  | blockComment => exact (firstMatch_blockComment first).imp_right fun ending => ending.2.1

theorem exists_firstMatch_of_mem {rules : List LexRule} (mem : rule ∈ rules)
    (takes : rule.extent text ≠ 0) : ∃ rule n, firstMatch text rules = some (rule, n) := by
  induction rules with
  | nil => cases mem
  | cons r rules ih =>
    rw [firstMatch]
    split
    · next none =>
      rcases List.mem_cons.mp mem with rfl | later
      · exact absurd none takes
      · exact ih later
    · exact ⟨_, _, rfl⟩

/-- In a comment some rule takes something of every text. -/
theorem exists_firstMatch (comment : m ≠ .main) (left : text ≠ []) :
    ∃ rule n, firstMatch text m.rules = some (rule, n) := by
  cases m with
  | main => exact absurd rfl comment
  | lineComment =>
    obtain _ | ⟨c, rest⟩ := text
    · exact absurd rfl left
    · by_cases feed : c = '\n'
      · exact exists_firstMatch_of_mem (.tail _ (.head _)) (by simp [lineFeed_cons, feed])
      · exact exists_firstMatch_of_mem (.head _) (by simp [run, feed])
  | blockComment =>
    by_cases noEnd : commentEnd text = 0
    · by_cases noText : commentText 0 text = 0
      · have all : ∀ d ∈ text, d = '*' := by
          rcases stars_of_commentText noText with all | ⟨front, rest, all, whole, counted⟩
          · exact all
          · -- Stars before a slash are an ending.
            obtain ⟨stars, d, rfl⟩ : ∃ stars d, front = stars ++ [d] := by
              rcases List.eq_nil_or_concat front with rfl | ⟨stars, d, rfl⟩
              · exact absurd rfl counted
              · exact ⟨stars, d, List.concat_eq_append⟩
            obtain rfl := all d (List.mem_append_right _ (.head _))
            have ending := commentEnd_of_stars
              (fun d mem => all d (List.mem_append_left _ mem)) rest
            have shape : stars ++ ['*', '/'] ++ rest = text := by simp [whole]
            rw [shape, noEnd] at ending
            cases ending
        have length : trailingStars text = text.length := if_pos (by simpa using all)
        exact exists_firstMatch_of_mem (.tail _ (.tail _ (.head _))) (by simpa [length] using left)
      · exact exists_firstMatch_of_mem (.tail _ (.head _)) noText
    · exact exists_firstMatch_of_mem (.head _) noEnd

/-! ## Scanning a comment -/

namespace Lexer

variable {α : Type} {l : Lexer}

/-- The state in main text after a text. -/
def close (l : Lexer) (text : List Char) : Lexer := { l.pass text with mode := .main }

theorem close_pass (l : Lexer) (s t : List Char) : (l.pass s).close t = l.close (s ++ t) := by
  simp only [close, pass, Position.advance_append]

theorem after_of_main (leaves : rule.next = some .main) (text : List Char) :
    l.after rule text = l.close text := by
  simp [Lexer.after, close, pass, leaves]

/-- The first token of a comment, where it is not the ending. -/
theorem scan_passes (first : firstMatch text l.mode.rules = some (rule, n))
    (passes : Passes l.mode rule n text) :
    (l.scan text : Scanned α) = ((l.pass (text.take n)).scan (text.drop n)).prepend
      [⟨.ignored, String.ofList (text.take n), l.position⟩] := by
  rw [scan_eq first, after_of_stays passes.stays, passes.ignored]
  rfl

/-- Before the first ending there are ignored tokens, and then the one that ends the comment. -/
theorem scan_before_end (comment : l.mode ≠ .main)
    (ends : FirstEnd l.mode.ending text body rest) :
    ∃ (ts : List (Token α)) (last : List Char), (∀ t ∈ ts, t.kind = .ignored) ∧
      body = spelled ts ++ last ∧
      l.scan text = ((l.pass (spelled ts)).scan (last ++ l.mode.ending ++ rest)).prepend ts ∧
      ∃ rule n, firstMatch (last ++ l.mode.ending ++ rest) l.mode.rules = some (rule, n) ∧
        rule.next = some .main := by
  -- Each token that is not the end takes something of the text before the ending.
  induction length : body.length using Nat.strong_induction_on generalizing l text body with
  | _ k ih =>
  have left : text ≠ [] := by
    obtain ⟨rfl, -⟩ := ends
    intro empty
    cases mode : l.mode <;> simp_all [Mode.ending]
  obtain ⟨rule, n, first⟩ := exists_firstMatch comment left
  rcases firstMatch_comment comment first with passes | leaves
  · have le := passes.le body rest ends.split
    have pos := ne_zero_of_firstMatch first
    have front : text.take n = body.take n := by
      rw [ends.split, List.append_assoc, List.take_append_of_le_length le]
    have shorter : (body.drop n).length < k := by
      rw [List.length_drop]
      omega
    have later : FirstEnd l.mode.ending (text.drop n) (body.drop n) rest := by
      refine FirstEnd.of_append (text.take n) ?_
      rwa [List.take_append_drop, front, List.take_append_drop]
    obtain ⟨ts, last, ignored, whole, scanned, closing⟩ :=
      ih _ shorter (l := l.pass (text.take n)) comment later rfl
    refine ⟨⟨.ignored, String.ofList (text.take n), l.position⟩ :: ts, last,
      List.forall_mem_cons.mpr ⟨rfl, ignored⟩, ?_, ?_, closing⟩
    · rw [spelled_cons, String.toList_ofList, List.append_assoc, front, ← whole,
        List.take_append_drop]
    · rw [scan_passes first passes, scanned, ← Scanned.prepend_append, ← pass_append, spelled_cons,
        String.toList_ofList]
      rfl
  · refine ⟨[], body, List.forall_mem_nil _, rfl, ?_, rule, n, ends.split ▸ first, leaves⟩
    rw [← ends.split]
    rfl

/-- A text without an ending is ignored. -/
theorem scan_without_end (comment : l.mode ≠ .main) (open_ : ¬ l.mode.ending <:+: text) :
    (∀ t ∈ (l.scan text : Scanned α).tokens, t.kind = .ignored) ∧
      (l.scan text : Scanned α).failure = none ∧
      (l.scan text : Scanned α).lexer = l.pass text := by
  induction length : text.length using Nat.strong_induction_on generalizing l text with
  | _ k ih =>
  by_cases left : text = []
  · subst left
    exact ⟨List.forall_mem_nil _, rfl, rfl⟩
  obtain ⟨rule, n, first⟩ := exists_firstMatch comment left
  rcases firstMatch_comment comment first with passes | leaves
  · have pos := ne_zero_of_firstMatch first
    have shorter : (text.drop n).length < k := by
      have := List.length_pos_iff.mpr left
      rw [List.length_drop]
      omega
    have more : ¬ l.mode.ending <:+: text.drop n := fun inside =>
      open_ (inside.trans (List.drop_suffix n text).isInfix)
    obtain ⟨ignored, whole, reached⟩ := ih _ shorter (l := l.pass (text.take n)) comment more rfl
    rw [scan_passes first passes]
    refine ⟨List.forall_mem_cons.mpr ⟨rfl, ignored⟩, whole, ?_⟩
    rw [Scanned.prepend, reached, ← pass_append, List.take_append_drop]
  · exfalso
    refine open_ ?_
    cases mode : l.mode with
    | main => exact absurd mode comment
    | lineComment =>
      rw [mode] at first
      rcases firstMatch_lineComment first with passes | ⟨-, -, rest, ends, -⟩
      · cases passes.stays.symm.trans leaves
      · exact ⟨[], rest, ends.split.symm⟩
    | blockComment =>
      rw [mode] at first
      rcases firstMatch_blockComment first with passes | ⟨-, -, stars, rest, ends, -⟩
      · cases passes.stays.symm.trans leaves
      · exact ⟨stars, rest, ends.split.symm⟩

/-- A block comment ends with the star and the slash, and main text goes on. -/
theorem scan_block_end (block : l.mode = .blockComment)
    (ends : FirstEnd ['*', '/'] text body rest) :
    ∃ ts : List (Token α), (∀ t ∈ ts, t.kind = .ignored) ∧ spelled ts = body ++ ['*', '/'] ∧
      l.scan text = ((l.close (body ++ ['*', '/'])).scan rest).prepend ts := by
  have comment : l.mode ≠ .main := by simp [block]
  have ending : l.mode.ending = ['*', '/'] := by rw [block]; rfl
  obtain ⟨ts, last, ignored, rfl, scanned, rule, n, first, leaves⟩ :=
    scan_before_end (α := α) comment (ending ▸ ends)
  rw [ending] at scanned first
  have here : FirstEnd ['*', '/'] (last ++ ['*', '/'] ++ rest) last rest := by
    refine FirstEnd.of_append (spelled ts) ?_
    rw [← List.append_assoc, ← List.append_assoc, ← ends.split]
    exact ends
  rcases firstMatch_blockComment (block ▸ first) with passes | ⟨shape, -, stars, more, same, rfl⟩
  · cases passes.stays.symm.trans leaves
  obtain ⟨rfl, rfl⟩ := here.unique same
  have taken : last.length + 2 = (last ++ ['*', '/']).length := by simp
  rw [taken] at first
  have closing := scan_append (α := α) (l := l.pass (spelled ts)) first
  rw [after_of_main leaves, close_pass, shape] at closing
  let final : Token α :=
    ⟨.ignored, String.ofList (last ++ ['*', '/']), (l.pass (spelled ts)).position⟩
  refine ⟨ts ++ [final], List.forall_mem_append.mpr ⟨ignored, List.forall_mem_singleton.mpr rfl⟩,
    ?_, ?_⟩
  · have text : spelled [final] = last ++ ['*', '/'] := by simp [spelled, final]
    rw [spelled_append, text, List.append_assoc]
  · rw [scanned, closing, ← Scanned.prepend_append, List.append_assoc]
    rfl

/-- A line comment ends with the line feed, and main text goes on after the blanks that belong to
it. -/
theorem scan_line_end (line : l.mode = .lineComment) (ends : FirstEnd ['\n'] text body rest) :
    ∃ (ts : List (Token α)) (blanks more : List Char), (∀ t ∈ ts, t.kind = .ignored) ∧
      spelled ts = body ∧ rest = blanks ++ more ∧ (∀ c ∈ blanks, Text.isBlank c) ∧
      (∀ c ∈ more.head?, Text.isBlank c = false) ∧
      l.scan text = ((l.close (body ++ '\n' :: blanks)).scan more).prepend
        (ts ++ [⟨.line, String.ofList ('\n' :: blanks), l.position.advance body⟩]) := by
  have comment : l.mode ≠ .main := by simp [line]
  have ending : l.mode.ending = ['\n'] := by rw [line]; rfl
  obtain ⟨ts, last, ignored, rfl, scanned, rule, n, first, leaves⟩ :=
    scan_before_end (α := α) comment (ending ▸ ends)
  rw [ending] at scanned first
  have here : FirstEnd ['\n'] (last ++ ['\n'] ++ rest) last rest := by
    refine FirstEnd.of_append (spelled ts) ?_
    rw [← List.append_assoc, ← List.append_assoc, ← ends.split]
    exact ends
  rcases firstMatch_lineComment (line ▸ first) with passes | ⟨shape, -, after, same, rfl⟩
  · cases passes.stays.symm.trans leaves
  obtain ⟨rfl, rfl⟩ := here.unique same
  have split := List.takeWhile_append_dropWhile (p := Text.isBlank) (l := rest)
  have blank : ∀ c ∈ rest.takeWhile Text.isBlank, Text.isBlank c := fun _ => List.mem_takeWhile_imp
  have stops : ∀ c ∈ (rest.dropWhile Text.isBlank).head?, Text.isBlank c = false := by
    intro c mem
    have := List.head?_dropWhile_not Text.isBlank rest
    rw [Option.mem_def.mp mem] at this
    simpa using this
  generalize rest.takeWhile Text.isBlank = blanks, rest.dropWhile Text.isBlank = more
    at split blank stops
  subst split
  refine ⟨ts, blanks, more, ignored, (List.append_nil _).symm, rfl, blank, stops, ?_⟩
  have taken : run Text.isBlank (blanks ++ more) + 1 = ('\n' :: blanks).length := by
    rw [run_append blank stops, List.length_cons]
  rw [taken] at first
  have closing : ((l.pass (spelled ts)).scan ('\n' :: blanks ++ more) : Scanned α) = _ :=
    scan_append first
  rw [after_of_main leaves, close_pass, shape] at closing
  rw [scanned, List.append_nil, Scanned.prepend_append]
  exact congrArg _ closing

end Lexer

end RuleMachine
