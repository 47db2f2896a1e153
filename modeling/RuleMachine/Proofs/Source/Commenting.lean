import Mathlib.Data.List.Infix
import RuleMachine.Proofs.Source.Blanks
import RuleMachine.Proofs.Source.Comments

/-!
# Comments between tokens

A block comment may be put in between the tokens of main text, without any blank: the tokens before
it stay the same (`Lexer.Reaches.again`), its own are ignored, and main text goes on behind it. So
the tokens of a source that are neither ignored nor line breaks are the same, but for their places
(`tokenize_commented`). The places meant are all those that scanning passes
(`Lexer.exists_reaches`).

Only behind an operator that is not so, since a run of operator characters goes on with the slash
and the star that a comment would begin with.
-/

namespace RuleMachine

open Lexeme

variable {α : Type}

/-! ## The rules before a slash -/

namespace Lexeme

variable {text rest : List Char} {c : Char}

/-- Comment text ends before an ending, whatever comes after that. -/
theorem commentText_append (stars : Nat) (before after after' : List Char) :
    commentText stars (before ++ ['*', '/'] ++ after) =
      commentText stars (before ++ ['*', '/'] ++ after') := by
  induction before generalizing stars with
  | nil => simp [commentText]
  | cons c before ih => simp only [List.cons_append, commentText, ih]

theorem commentText_within (stars : Nat) (text : List Char) :
    commentText stars text ≤ stars + text.length := by
  induction text generalizing stars with
  | nil => exact Nat.zero_le _
  | cons c text ih =>
    have inStars := ih (stars + 1)
    have behind := ih 0
    simp only [commentText, List.length_cons]
    split
    · omega
    · split <;> omega

theorem commentEnd_within (text : List Char) : commentEnd text ≤ text.length := by
  by_cases none : commentEnd text = 0
  · exact none ▸ Nat.zero_le _
  · obtain ⟨stars, rest, -, whole, taken⟩ := stars_of_commentEnd none
    rw [taken, whole, List.length_append, List.length_append]
    exact Nat.le_add_right ..

theorem Takes.lineFeed : Takes lineFeed Text.isBlank := by
  intro text
  obtain _ | ⟨c, text⟩ := text
  · nofun
  · rw [lineFeed_cons]
    split
    · next same => exact List.forall_mem_cons.mpr ⟨same ▸ by decide, all_run Text.isBlank text⟩
    · nofun

theorem Regular.lineFeed : Regular lineFeed := by
  refine Eq.subst (motive := Regular) ?_ (.after (· = '\n') (.run Text.isBlank))
  funext text
  cases text with
  | nil => rfl
  | cons c text => simp [lineFeed_cons]

end Lexeme

variable {text rest : List Char} {rule : LexRule} {n : Nat}

/-- No rule takes more than there is. -/
theorem Mode.within_of_mem {m : Mode} (mem : rule ∈ m.rules) (text : List Char) :
    rule.extent text ≤ text.length := by
  cases m with
  | main => exact (Mode.regular_of_mem mem).within text
  | lineComment =>
    simp only [Mode.rules, List.mem_cons, List.not_mem_nil, or_false] at mem
    rcases mem with rfl | rfl
    · exact run_le _ text
    · exact Regular.lineFeed.within text
  | blockComment =>
    simp only [Mode.rules, List.mem_cons, List.not_mem_nil, or_false] at mem
    rcases mem with rfl | rfl | rfl
    · exact commentEnd_within text
    · simpa using commentText_within 0 text
    · simp only [trailingStars]
      split
      · exact Nat.le_refl _
      · exact Nat.zero_le _

/-- Of a comment that ends in a text, a rule takes the same whatever comes after the text. -/
theorem firstMatch_block_append (closes : ['*', '/'] <:+: text) (after after' : List Char) :
    firstMatch (text ++ after) Mode.blockComment.rules =
      firstMatch (text ++ after') Mode.blockComment.rules := by
  obtain ⟨before, more, rfl⟩ := closes
  have inside : run (· = '*') (before ++ ['*', '/'] ++ more) <
      (before ++ ['*', '/'] ++ more).length := by
    have shape : before ++ ['*', '/'] ++ more = (before ++ ['*']) ++ '/' :: more := by simp
    have le := run_le_of_not (p := (· = '*')) (c := '/') (by simp) (before ++ ['*']) more
    rw [shape, List.length_append, List.length_cons]
    omega
  refine firstMatch_congr ?_
  simp only [Mode.rules, List.forall_mem_cons]
  refine ⟨?_, ?_, ?_, List.forall_mem_nil _⟩
  · rw [commentEnd_append inside, commentEnd_append inside]
  · rw [List.append_assoc, List.append_assoc _ _ after']
    exact commentText_append 0 before _ _
  · simp [trailingStars]

/-- What stands in a line comment that ends in a text, or is the end, stays the same before a
slash. -/
theorem firstMatch_line_slash (closes : '\n' ∈ text)
    (first : firstMatch (text ++ rest) Mode.lineComment.rules = some (rule, n))
    (le : n ≤ text.length) (after : List Char) :
    firstMatch (text ++ '/' :: after) Mode.lineComment.rules = some (rule, n) := by
  have regular : ∀ r ∈ Mode.lineComment.rules, Regular r.extent := by
    simp only [Mode.rules, List.forall_mem_cons]
    exact ⟨.run _, .lineFeed, List.forall_mem_nil _⟩
  rw [firstMatch_append regular, firstMatch_cut regular first le]
  simp only [Mode.rules, List.forall_mem_cons]
  refine ⟨?_, Takes.lineFeed.le (by decide), List.forall_mem_nil _⟩
  obtain ⟨before, more, rfl⟩ := List.append_of_mem closes
  rw [List.append_assoc, List.cons_append]
  refine Nat.le_trans (run_le_of_not (by simp) _ _) ?_
  rw [List.length_append]
  exact Nat.le_add_right ..

/-- What opens a comment in main text does so whatever comes after. -/
theorem firstMatch_opener (first : firstMatch (text ++ rest) Mode.main.rules = some (rule, n))
    (opens : rule.next ≠ none) (le : n ≤ text.length) (after : List Char) :
    firstMatch (text ++ after) Mode.main.rules = some (rule, n) := by
  have pos := ne_zero_of_firstMatch first
  obtain ⟨mem, extent⟩ := extent_of_firstMatch first
  have begins {front : List Char} (taken : Lexeme.exact front (text ++ rest) = n) :
      n = front.length ∧ ∃ more, text = front ++ more := by
    simp only [Lexeme.exact, List.isPrefixOf_iff_prefix] at taken
    split at taken
    · next fits =>
      obtain ⟨more, whole⟩ := prefix_of_append (taken ▸ le) fits
      exact ⟨taken.symm, more, whole.symm⟩
    · exact absurd taken.symm pos
  simp only [Mode.rules, List.mem_cons, List.not_mem_nil, or_false] at mem
  rcases mem with rfl | rfl | rfl | rfl | rfl | rfl | rfl | rfl | rfl | rfl | rfl | rfl | rfl <;>
    first
    | exact absurd rfl opens
    | obtain ⟨rfl, more, rfl⟩ := begins extent
      rfl

theorem unsignedNumeral_of_isOperator (all : ∀ d ∈ text, isOperator d) :
    unsignedNumeral text = 0 := by
  cases text with
  | nil => rfl
  | cons d text =>
    have digit : d.isDigit = false := not_of_isOperator (by decide) (all d (.head _))
    simp [unsignedNumeral, digit]

theorem decimalNumeral_of_isOperator (all : ∀ d ∈ text, isOperator d) :
    decimalNumeral text = 0 := by
  cases text with
  | nil => rfl
  | cons d text =>
    rw [decimalNumeral_cons, unsignedNumeral_of_isOperator all,
      unsignedNumeral_of_isOperator (List.forall_mem_cons.mp all).2]
    simp

/-- Operator characters alone are no lexeme but an operator, with all of them. -/
theorem exists_not_isOperator (first : firstMatch text Mode.main.rules = some (rule, n))
    (stays : rule.next = none) (shorter : rule.shape = .operator → n < text.length) :
    ∃ d ∈ text, isOperator d = false := by
  by_contra all
  push Not at all
  replace all : ∀ d ∈ text, isOperator d := fun d mem => by simpa using all d mem
  have pos := ne_zero_of_firstMatch first
  obtain ⟨mem, taken⟩ := extent_of_firstMatch first
  obtain _ | ⟨c, text⟩ := text
  · cases first
  have operator : isOperator c := all c (.head _)
  have apart {p : Char → Bool} (takes : Takes rule.extent p)
      (others : "!@#%^&*-+=|/:<>.?~".toList.any p = false) : False := by
    refine Bool.eq_false_iff.mp (not_of_isOperator others operator) (takes (c :: text) c ?_)
    rw [taken]
    obtain ⟨m, rfl⟩ := Nat.exists_eq_succ_of_ne_zero pos
    exact .head _
  have quoted {quote : Char} (plain : isOperator quote = false) :
      quotedLiteral quote (c :: text) = 0 := by
    refine if_neg ?_
    rintro rfl
    exact Bool.eq_false_iff.mp plain operator
  simp only [Mode.rules, List.mem_cons, List.not_mem_nil, or_false] at mem
  rcases mem with rfl | rfl | rfl | rfl | rfl | rfl | rfl | rfl | rfl | rfl | rfl | rfl | rfl
  · exact apart .lineBreak (by decide)
  · exact apart (.run _) (by decide)
  · cases stays
  · cases stays
  · exact pos (taken ▸ quoted (by decide))
  · exact pos (taken ▸ quoted (by decide))
  · exact apart (.radixNumeral _ _) (by decide)
  · exact apart (.radixNumeral _ _) (by decide)
  · exact apart (.radixNumeral _ _) (by decide)
  · exact pos (taken ▸ decimalNumeral_of_isOperator all)
  · exact apart .identifier (by decide)
  · exact apart .punctuation (by decide)
  · have whole : run isOperator (c :: text) = (c :: text).length := by
      have ended : ∀ d ∈ ([] : List Char).head?, isOperator d = false := by
        intro d none
        cases none
      simpa using run_append all ended
    have short := shorter rfl
    rw [← taken] at short
    exact absurd whole (Nat.ne_of_lt short)

/-- A lexeme of main text is one before a slash, unless it is an operator that ends there. -/
theorem firstMatch_main_slash (first : firstMatch (text ++ rest) Mode.main.rules = some (rule, n))
    (le : n ≤ text.length) (shorter : rule.shape = .operator → n < text.length)
    (after : List Char) :
    firstMatch (text ++ '/' :: after) Mode.main.rules = some (rule, n) := by
  by_cases stays : rule.next = none
  · have cut := firstMatch_cut (fun _ => Mode.regular_of_mem) first le
    obtain ⟨d, mem, other⟩ := exists_not_isOperator cut stays shorter
    refine firstMatch_seam cut (.inr ⟨'/', rfl, by decide⟩) ?_
    rintro (numeral | operators)
    · exact absurd (Takes.decimalNumeral.le (by decide)) (Nat.not_le.mpr numeral)
    · exact Bool.eq_false_iff.mp other (((Takes.run _).of_lt operators).1 d mem)
  · exact firstMatch_opener first stays le _

/-- In every mode, if a comment ends in the text. -/
theorem firstMatch_slash {m : Mode} (first : firstMatch (text ++ rest) m.rules = some (rule, n))
    (le : n ≤ text.length) (shorter : rule.shape = .operator → n < text.length)
    (closes : m ≠ .main → m.ending <:+: text) (after : List Char) :
    firstMatch (text ++ '/' :: after) m.rules = some (rule, n) := by
  cases m with
  | main => exact firstMatch_main_slash first le shorter after
  | lineComment =>
    have feed : '\n' ∈ text := (List.singleton_infix_iff _ _).mp (closes (by decide))
    exact firstMatch_line_slash feed first le after
  | blockComment => rwa [firstMatch_block_append (closes (by decide)) _ rest]

namespace Lexer

variable {l l' k : Lexer} {part : List Char} {ts : List (Token α)}

/-! ## Between two tokens -/

/-- Scanning a text, the lexer has given the tokens when it is in the state `k` and `rest` is
left. -/
inductive Reaches : Lexer → List Char → List (Token α) → Lexer → List Char → Prop
  | here (l : Lexer) (text : List Char) : Reaches l text [] l text
  | token {l k : Lexer} {part text rest : List Char} {rule : LexRule} {ts : List (Token α)} :
      firstMatch (part ++ text) l.mode.rules = some (rule, part.length) →
      Reaches (l.after rule part) text ts k rest →
      Reaches l (part ++ text) (⟨rule.shape.kind part, String.ofList part, l.position⟩ :: ts) k rest

/-- Between any two of the tokens that a text is scanned into, and at both ends, is such a place. -/
theorem exists_reaches {us : List (Token α)} (scanned : (l.scan text).tokens = ts ++ us) :
    ∃ k rest, Reaches l text ts k rest ∧ (k.scan rest).tokens = us := by
  induction ts generalizing l text with
  | nil => exact ⟨l, text, .here l text, scanned⟩
  | cons t ts ih =>
    cases first : firstMatch text l.mode.rules with
    | none =>
      have stopped : (l.scan text : Scanned α).tokens = [] := by
        cases text with
        | nil => rfl
        | cons c text => rw [scan, List.length_cons, scanWith, first]
      cases stopped.symm.trans scanned
    | some made =>
      obtain ⟨rule, n⟩ := made
      obtain ⟨mem, taken⟩ := extent_of_firstMatch first
      have length : (text.take n).length = n :=
        List.length_take_of_le (taken ▸ Mode.within_of_mem mem text)
      rw [scan_eq first] at scanned
      obtain ⟨rfl, others⟩ := List.cons.inj scanned
      obtain ⟨k, rest, reached, left⟩ := ih others
      rw [← List.take_append_drop n text] at first
      refine ⟨k, rest, ?_, left⟩
      conv => arg 2; rw [← List.take_append_drop n text]
      exact .token (by rw [length]; exact first) reached

namespace Reaches

theorem split (h : Reaches l text ts k rest) : text = spelled ts ++ rest := by
  induction h with
  | here => rfl
  | token _ _ ih => rw [spelled_cons, String.toList_ofList, List.append_assoc, ← ih]

theorem scan (h : Reaches l text ts k rest) :
    (l.scan text : Scanned α) = (k.scan rest).prepend ts := by
  induction h with
  | here => rfl
  | token first _ ih => rw [scan_append first, ih, ← Scanned.prepend_append]; rfl

theorem solid (h : Reaches l text ts k rest) (some : ts ≠ []) : spelled ts ≠ [] := by
  cases h with
  | here => exact absurd rfl some
  | @token _ _ part _ _ _ _ first =>
    have pos := ne_zero_of_firstMatch first
    rw [spelled_cons, String.toList_ofList]
    exact List.append_ne_nil_of_left_ne_nil (fun none => pos (by rw [none]; rfl)) _

/-- What leads out of a comment is an ending, or ends with one. -/
theorem ending_of_leaves (comment : l.mode ≠ .main) (leaves : rule.next = some .main)
    (first : firstMatch (part ++ text) l.mode.rules = some (rule, part.length)) :
    l.mode.ending <:+: part := by
  have pos := ne_zero_of_firstMatch first
  cases mode : l.mode with
  | main => exact absurd mode comment
  | lineComment =>
    rw [mode] at first
    rcases firstMatch_lineComment first with passes | ⟨-, -, more, ends, -⟩
    · cases passes.stays.symm.trans leaves
    · obtain _ | ⟨c, part⟩ := part
      · exact absurd rfl pos
      · obtain ⟨rfl, -⟩ := List.cons.inj ends.split
        exact ⟨[], part, rfl⟩
  | blockComment =>
    rw [mode] at first
    rcases firstMatch_blockComment first with passes | ⟨-, -, stars, more, ends, length⟩
    · cases passes.stays.symm.trans leaves
    · obtain ⟨rfl, -⟩ := List.append_inj ends.split (by simp [length])
      exact ⟨stars, [], by simp [Mode.ending]⟩

/-- From within a comment the lexer comes to main text only behind an ending. -/
theorem ending (h : Reaches l text ts k rest) (comment : l.mode ≠ .main) (main : k.mode = .main) :
    l.mode.ending <:+: spelled ts := by
  induction h with
  | here => exact absurd main comment
  | @token l k part text rest rule ts first more ih =>
    rw [spelled_cons, String.toList_ofList]
    rcases firstMatch_comment comment first with passes | leaves
    · rw [after_of_stays passes.stays] at ih
      exact (ih comment main).trans (List.suffix_append ..).isInfix
    · exact (ending_of_leaves comment leaves first).trans (List.prefix_append ..).isInfix

/-- The tokens up to a place in main text are scanned again before a slash, unless the last is an
operator. -/
theorem again (h : Reaches l text ts k rest) (main : k.mode = .main)
    (apart : ∀ t ∈ ts.getLast?, t.isOperator = false) (mode : l.mode = l'.mode)
    (after : List Char) :
    ∃ ts' k', Reaches (α := α) l' (spelled ts ++ '/' :: after) ts' k' ('/' :: after) ∧
      k'.mode = .main ∧ List.Forall₂ Token.Alike ts ts' := by
  induction h generalizing l' with
  | here => exact ⟨[], l', .here _ _, mode ▸ main, .nil⟩
  | @token l k part text rest rule ts first more ih =>
    have whole := more.split
    have closes (comment : l.mode ≠ .main) := (Reaches.token first more).ending comment main
    have last : ∀ t ∈ ts.getLast?, t.isOperator = false := by
      intro t mem
      refine apart t ?_
      rw [List.getLast?_cons, Option.mem_def.mp mem]
      rfl
    obtain ⟨ts', k', again, main', alike⟩ := ih main last (l.after_mode mode rule part part)
    rw [spelled_cons, String.toList_ofList] at closes
    have le : part.length ≤ (part ++ spelled ts).length := (List.prefix_append ..).length_le
    have shorter : rule.shape = .operator → part.length < (part ++ spelled ts).length := by
      intro operator
      have goesOn : ts ≠ [] := by
        rintro rfl
        have other := apart _ rfl
        simp [Token.isOperator, operator, Shape.kind] at other
      have pos := List.length_pos_iff.mpr (more.solid goesOn)
      rw [List.length_append]
      omega
    rw [whole, ← List.append_assoc] at first
    have slash := firstMatch_slash first le shorter closes after
    rw [List.append_assoc, mode] at slash
    refine ⟨⟨rule.shape.kind part, String.ofList part, l'.position⟩ :: ts', k', ?_, main',
      .cons ⟨rfl, rfl⟩ alike⟩
    rw [spelled_cons, String.toList_ofList, List.append_assoc]
    exact .token slash again

end Reaches

end Lexer

/-! ## A comment is put in -/

/-- The tokens that are neither ignored nor line breaks. -/
def significant (ts : List (Token α)) : List (Token α) :=
  ts.filter fun t => !t.isIgnored && !t.isLine

theorem significant_append (ts us : List (Token α)) :
    significant (ts ++ us) = significant ts ++ significant us :=
  List.filter_append ..

theorem significant_ignored {ts : List (Token α)} (ignored : ∀ t ∈ ts, t.kind = .ignored) :
    significant ts = [] := by
  refine List.filter_eq_nil_iff.mpr fun t mem => ?_
  simp [Token.isIgnored, ignored t mem]

theorem significant_alike {ts us : List (Token α)} (alike : List.Forall₂ Token.Alike ts us) :
    List.Forall₂ Token.Alike (significant ts) (significant us) :=
  List.rel_filter (fun t u same => by simp [same.isIgnored, same.isLine]) alike

/-- A text without an ending ends with the first one after it. -/
theorem firstEnd_of_open {comment : List Char} (open_ : ¬ ['*', '/'] <:+: comment)
    (rest : List Char) :
    FirstEnd ['*', '/'] (comment ++ ['*', '/'] ++ rest) comment rest := by
  refine ⟨rfl, fun before after other => Nat.le_of_not_lt fun shorter => open_ ?_⟩
  -- An earlier ending begins within the text. It does not end within it, so its slash is a star.
  obtain ⟨more, rfl⟩ : before ++ ['*'] <+: comment := by
    have front : before ++ ['*'] <+: comment ++ ['*', '/'] ++ rest :=
      ⟨'/' :: after, by simp [other]⟩
    refine List.prefix_of_prefix_length_le front ⟨['*', '/'] ++ rest, by simp⟩ ?_
    rwa [List.length_append, List.length_singleton]
  have next : '/' :: after = more ++ ['*', '/'] ++ rest := by simpa using other.symm
  obtain _ | ⟨c, more⟩ := more
  · cases next
  · obtain ⟨rfl, -⟩ := List.cons.inj next
    exact ⟨before, more, by simp⟩

namespace Lexer

variable {l k : Lexer} {ts : List (Token α)} {comment : List Char}

/-- In main text a comment is ignored, and main text goes on behind it. -/
theorem scan_comment (main : k.mode = .main) (open_ : ¬ ['*', '/'] <:+: comment)
    (rest : List Char) :
    ∃ (us : List (Token α)) (m : Lexer), (∀ t ∈ us, t.kind = .ignored) ∧ m.mode = .main ∧
      k.scan ('/' :: '*' :: (comment ++ ['*', '/'] ++ rest)) = (m.scan rest).prepend us := by
  let inside := k.inBlock ['/', '*']
  obtain ⟨us, ignored, -, scanned⟩ := scan_block_end (α := α) (l := inside) rfl
    (firstEnd_of_open open_ rest)
  refine ⟨⟨.ignored, "/*", k.position⟩ :: us, inside.close (comment ++ ['*', '/']),
    List.forall_mem_cons.mpr ⟨rfl, ignored⟩, rfl, ?_⟩
  rw [scan_opener main, scanned, ← Scanned.prepend_append]
  rfl

/-- A comment between the tokens of a segment changes no others but in their places. -/
theorem scan_commented (h : Reaches l text ts k rest) (main : k.mode = .main)
    (apart : ∀ t ∈ ts.getLast?, t.isOperator = false) (open_ : ¬ ['*', '/'] <:+: comment) :
    ∃ (us : List (Token α)) (m : Lexer), m.mode = .main ∧
      l.scan (spelled ts ++ '/' :: '*' :: (comment ++ ['*', '/'] ++ rest)) =
        (m.scan rest).prepend us ∧
      List.Forall₂ Token.Alike (significant ts) (significant us) := by
  obtain ⟨ts', k', again, main', alike⟩ :=
    h.again main apart rfl ('*' :: (comment ++ ['*', '/'] ++ rest))
  obtain ⟨us, m, ignored, main'', scanned⟩ := scan_comment (α := α) main' open_ rest
  refine ⟨ts' ++ us, m, main'', ?_, ?_⟩
  · rw [again.scan, scanned, ← Scanned.prepend_append]
  · rw [significant_append, significant_ignored ignored, List.append_nil]
    exact significant_alike alike

/-- The same for a comment in one of some segments. -/
theorem scanSegments_commented {front back : List String} {left right comment : String}
    {values : List α} {tokens : List (Token α)}
    (scanned : l.scanSegments (front ++ (left ++ right) :: back) values = .ok tokens)
    (h : Reaches (l.through (front.map (Call.scan (α := α)))) (left ++ right).toList ts k
      right.toList)
    (main : k.mode = .main) (apart : ∀ t ∈ ts.getLast?, t.isOperator = false)
    (open_ : ¬ ['*', '/'] <:+: comment.toList) :
    ∃ tokens', l.scanSegments
        (front ++ (left ++ "/*" ++ comment ++ "*/" ++ right) :: back) values = .ok tokens' ∧
      List.Forall₂ Token.Alike (significant tokens) (significant tokens') := by
  induction front generalizing l values tokens with
  | nil =>
    change Reaches l _ _ _ _ at h
    obtain ⟨fs, m, vs, first, more, rfl⟩ := scanSegments_ok scanned
    have place : left.toList = spelled ts := by
      have split := h.split
      rwa [String.toList_append, List.append_cancel_right_eq] at split
    obtain ⟨us, m', main', again, alike⟩ := scan_commented h main apart open_
    have text : (left ++ "/*" ++ comment ++ "*/" ++ right).toList =
        spelled ts ++ '/' :: '*' :: (comment.toList ++ ['*', '/'] ++ right.toList) := by
      simp [String.toList_append, place]
    have same := scanWith_alike (α := α) (main.trans main'.symm) right.toList.length right.toList
    change (k.scan _).Alike (m'.scan _) at same
    rw [h.scan] at first
    rw [List.nil_append, scanSegments_cons, text, again]
    generalize k.scan right.toList = kept at first same
    generalize m'.scan right.toList = kept' at same
    obtain ⟨gs, n, failure⟩ := kept
    obtain ⟨gs', n', failure'⟩ := kept'
    obtain ⟨rfl, rfl, rfl⟩ := Scanned.mk.inj first
    obtain rfl := same.failure rfl
    obtain ⟨vs', more', others⟩ := scanSegments_alike same.mode more
    refine ⟨us ++ gs' ++ ((between back values).bind n'.inject).toList ++ vs', ?_, ?_⟩
    · simp only [Scanned.prepend, more', Except.map]
    · simp only [significant_append]
      refine List.rel_append (List.rel_append (List.rel_append alike ?_) ?_) ?_
      · exact significant_alike same.tokens
      · exact significant_alike (inject_alike same.mode _)
      · exact significant_alike others
  | cons segment front ih =>
    rw [List.cons_append] at scanned ⊢
    obtain ⟨fs, m, vs, first, more, rfl⟩ := (scanSegments_ok_iff (by simp)).mp scanned
    have reached : (l.call (Call.scan (α := α) segment)).lexer = m := by rw [call, first]
    obtain ⟨vs', more', alike⟩ := ih more (by rw [← reached]; exact h)
    refine ⟨_, (scanSegments_ok_iff (by simp)).mpr ⟨fs, m, vs', first, more', rfl⟩, ?_⟩
    simp only [significant_append]
    exact List.rel_append (List.forall₂_same.mpr fun t _ => .refl t) alike

end Lexer

open Lexer

/-- At each place between two tokens of main text, the first of which is no operator, a comment may
be put in, and so it may at both ends of a segment: the tokens that are neither ignored nor line
breaks are the same. -/
theorem tokenize_commented {front back : List String} {left right comment : String}
    {values : List α} {tokens before : List (Token α)} {k : Lexer}
    (scanned : tokenize (front ++ (left ++ right) :: back) values = .ok tokens)
    (between : Reaches (through {} (front.map (Call.scan (α := α)))) (left ++ right).toList before k
      right.toList)
    (main : k.mode = .main) (apart : ∀ t ∈ before.getLast?, t.isOperator = false)
    (open_ : ¬ ['*', '/'] <:+: comment.toList) :
    ∃ tokens', tokenize (front ++ (left ++ "/*" ++ comment ++ "*/" ++ right) :: back) values =
        .ok tokens' ∧
      List.Forall₂ Token.Alike (significant tokens) (significant tokens') :=
  scanSegments_commented scanned between main apart open_

/-- Behind a name, with a star at the end of the comment. -/
theorem tokenize_commented_name : ∃ tokens tokens' : List (Token Unit),
    tokenize ["a+ b"] [] = .ok tokens ∧ tokenize ["a/* c **/+ b"] [] = .ok tokens' ∧
    List.Forall₂ Token.Alike (significant tokens) (significant tokens') := by
  let tokens : List (Token Unit) := [⟨.identifier, "a", ⟨0, 1, 1⟩⟩, ⟨.operator, "+", ⟨1, 1, 2⟩⟩,
    ⟨.ignored, " ", ⟨2, 1, 3⟩⟩, ⟨.identifier, "b", ⟨3, 1, 4⟩⟩]
  have scanned : tokenize ([] ++ ("a" ++ "+ b") :: []) [] = .ok tokens := by decide +kernel
  have name : firstMatch (['a'] ++ "+ b".toList) Mode.main.rules =
      some (⟨.identifier, identifier, none⟩, ['a'].length) := rfl
  have between : Reaches {} ("a" ++ "+ b").toList (tokens.take 1) (({} : Lexer).pass ['a'])
      "+ b".toList := .token (l := {}) name (.here _ _)
  have open_ : ¬ ['*', '/'] <:+: " c *".toList := by decide
  obtain ⟨tokens', again, alike⟩ := tokenize_commented scanned between rfl (by decide) open_
  exact ⟨tokens, tokens', scanned, again, alike⟩

/-- Behind an operator what would open a comment belongs to the operator. -/
theorem tokenize_not_commented_operator :
    ∃ tokens tokens' before : List (Token Unit), ∃ k : Lexer,
      tokenize ["a" ++ "+" ++ "b"] [] = .ok tokens ∧
      Reaches {} ("a" ++ "+" ++ "b").toList before k "b".toList ∧ k.mode = .main ∧
      tokenize ["a" ++ "+" ++ "/* c */" ++ "b"] [] = .ok tokens' ∧
      ¬ List.Forall₂ Token.Alike (significant tokens) (significant tokens') := by
  let tokens : List (Token Unit) := [⟨.identifier, "a", ⟨0, 1, 1⟩⟩, ⟨.operator, "+", ⟨1, 1, 2⟩⟩,
    ⟨.identifier, "b", ⟨2, 1, 3⟩⟩]
  let tokens' : List (Token Unit) := [⟨.identifier, "a", ⟨0, 1, 1⟩⟩,
    ⟨.operator, "+/*", ⟨1, 1, 2⟩⟩, ⟨.ignored, " ", ⟨4, 1, 5⟩⟩, ⟨.identifier, "c", ⟨5, 1, 6⟩⟩,
    ⟨.ignored, " ", ⟨6, 1, 7⟩⟩, ⟨.operator, "*/", ⟨7, 1, 8⟩⟩, ⟨.identifier, "b", ⟨9, 1, 10⟩⟩]
  have name : firstMatch (['a'] ++ ['+', 'b']) Mode.main.rules =
      some (⟨.identifier, identifier, none⟩, ['a'].length) := rfl
  have operator : firstMatch (['+'] ++ "b".toList) Mode.main.rules =
      some (⟨.operator, run isOperator, none⟩, ['+'].length) := rfl
  have between : Reaches {} ("a" ++ "+" ++ "b").toList (tokens.take 2)
      ((({} : Lexer).pass ['a']).pass ['+']) "b".toList :=
    .token (l := {}) name (.token (l := ({} : Lexer).pass ['a']) operator (.here _ _))
  refine ⟨tokens, tokens', _, _, by decide +kernel, between, rfl, by decide +kernel, fun alike => ?_⟩
  have lengths := alike.length_eq
  revert lengths
  decide

end RuleMachine
