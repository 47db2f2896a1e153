import RuleMachine.Proofs.Source.CommentText

/-!
# Comments

The calls of a lexer that is in a comment go by without a failure and without a token that is not
ignored, until a text has the ending (`Lexer.session_swallowed`). A lexer that is in a block comment
has scanned the text that the comment began in (`Lexer.opensIn_of_mode_block`), and has kept the
place (`Lexer.OpensIn.lexer`). What this comes to over all calls is `Lexer.comments_exact`.
-/

namespace RuleMachine

namespace Lexer

variable {α : Type} {l : Lexer} {m : Mode}

/-- The text that a call scans. -/
def Call.text : Call α → List Char
  | .scan segment => segment.toList
  | .inject _ => []

/-- The ending stands in the text of the call. -/
def Call.Closes (m : Mode) (c : Call α) : Prop := m.ending <:+: c.text

/-- The state after some calls. -/
def through (l : Lexer) (calls : List (Call α)) : Lexer :=
  calls.foldl (fun l c => (l.call c).lexer) l

/-- A call inside a comment: it does not fail, its text is ignored, and a value is dropped. -/
structure Call.Swallowed (c : Call α) (s : Scanned α) : Prop where
  whole : s.failure = none
  ignored : ∀ t ∈ s.tokens, t.kind = .ignored
  spells : spelled s.tokens = c.text
  dropped : ∀ value, c = .inject value → s.tokens = []

theorem through_append (l : Lexer) (xs ys : List (Call α)) :
    l.through (xs ++ ys) = (l.through xs).through ys := List.foldl_append

theorem Call.not_closes_inject (comment : m ≠ .main) (value : α) :
    ¬ Call.Closes m (.inject value) := by
  intro inside
  cases m <;> simp_all [Closes, Mode.ending, text]

theorem call_swallowed {c : Call α} (comment : l.mode ≠ .main) (open_ : ¬ c.Closes l.mode) :
    c.Swallowed (l.call c) ∧ (l.call c).lexer = l.pass c.text := by
  cases c with
  | scan segment =>
    obtain ⟨ignored, whole, reached⟩ := scan_without_end (α := α) comment open_
    have spells : spelled (l.scan segment.toList : Scanned α).tokens = segment.toList := by
      rcases l.scanWith_covers (α := α) (Nat.le_refl segment.toList.length) with
        ⟨-, spells⟩ | ⟨c, rest, stopped, -⟩
      · exact spells.symm
      · cases stopped.symm.trans whole
    exact ⟨⟨whole, ignored, spells, nofun⟩, reached⟩
  | inject value =>
    have none_made : (l.inject value).toList = [] := by simp [inject, comment]
    refine ⟨⟨rfl, ?_, ?_, fun _ _ => none_made⟩, rfl⟩
    · simp only [call, none_made]
      exact List.forall_mem_nil _
    · simp only [call, none_made]
      rfl

/-- While no text has the ending, the comment goes on. -/
theorem session_swallowed {calls : List (Call α)} (comment : l.mode ≠ .main)
    (open_ : ∀ c ∈ calls, ¬ c.Closes l.mode) :
    (∀ r ∈ l.session calls, r.1.Swallowed r.2) ∧
      l.through calls = l.pass (calls.flatMap Call.text) := by
  induction calls generalizing l with
  | nil => exact ⟨List.forall_mem_nil _, rfl⟩
  | cons c calls ih =>
    obtain ⟨here, later⟩ := List.forall_mem_cons.mp open_
    obtain ⟨swallowed, reached⟩ := call_swallowed comment here
    have more := ih (l := l.pass c.text) comment later
    rw [← reached] at more
    refine ⟨List.forall_mem_cons.mpr ⟨swallowed, more.1⟩, ?_⟩
    rw [List.flatMap_cons, pass_append, ← reached]
    exact more.2

/-- The first call that has the ending. -/
theorem first_closes (comment : m ≠ .main) (calls : List (Call α)) :
    (∀ c ∈ calls, ¬ c.Closes m) ∨
      ∃ earlier segment later body rest, calls = earlier ++ .scan segment :: later ∧
        (∀ c ∈ earlier, ¬ c.Closes m) ∧ FirstEnd m.ending segment.toList body rest := by
  induction calls with
  | nil => exact .inl (List.forall_mem_nil _)
  | cons c calls ih =>
    by_cases here : c.Closes m
    · cases c with
      | scan segment =>
        obtain ⟨body, rest, ends⟩ := FirstEnd.exists_of_infix here
        exact .inr ⟨[], segment, calls, body, rest, rfl, List.forall_mem_nil _, ends⟩
      | inject value => exact absurd here (Call.not_closes_inject comment value)
    · rcases ih with none | ⟨earlier, segment, later, body, rest, rfl, none, ends⟩
      · exact .inl (List.forall_mem_cons.mpr ⟨here, none⟩)
      · exact .inr ⟨c :: earlier, segment, later, body, rest, rfl,
          List.forall_mem_cons.mpr ⟨here, none⟩, ends⟩

/-- A scan fails in main text only. -/
theorem scanWith_main_of_failure {fuel : Nat} {text : List Char}
    (failed : (scanWith fuel l text : Scanned α).failure ≠ none) :
    (scanWith fuel l text : Scanned α).lexer.mode = .main := by
  fun_induction scanWith with
  | case1 | case2 => exact absurd rfl failed
  | case3 fuel l c rest none =>
    by_contra comment
    obtain ⟨rule, n, first⟩ := exists_firstMatch comment (List.cons_ne_nil c rest)
    cases none.symm.trans first
  | case4 fuel l c rest rule n first text scanned ih => exact ih failed

/-! ## Comments that are left open -/

/-- Scanning the text leaves a block comment open that begins in it: after the tokens `ts` the lexer
is in the state `k` in main text, the opening `/*` comes next, and no ending comes after that. -/
structure OpensIn (l : Lexer) (text : List Char) (ts : List (Token α)) (k : Lexer) : Prop where
  main : k.mode = .main
  place : k.position = l.position.advance (spelled ts)
  goesOn : ∃ right, text = spelled ts ++ '/' :: '*' :: right ∧
    l.scan text = (k.scan ('/' :: '*' :: right)).prepend ts ∧ ¬ ['*', '/'] <:+: right

/-- The state in a block comment that began in main text. -/
def inBlock (k : Lexer) (text : List Char) : Lexer where
  mode := .blockComment
  position := k.position.advance text
  commentStart := some k.position

theorem scan_opener {k : Lexer} (main : k.mode = .main) (right : List Char) :
    (k.scan ('/' :: '*' :: right) : Scanned α) = ((k.inBlock ['/', '*']).scan right).prepend
      [⟨.ignored, "/*", k.position⟩] := by
  let rule : LexRule :=
    { shape := .ignored, extent := Lexeme.exact ['/', '*'], next := some .blockComment }
  have first : firstMatch (['/', '*'] ++ right) k.mode.rules = some (rule, 2) := by
    rw [main]
    rfl
  exact scan_append first

namespace OpensIn

variable {text : List Char} {ts : List (Token α)} {k : Lexer}

theorem lexer (h : OpensIn l text ts k) :
    (l.scan text : Scanned α).lexer =
      ⟨.blockComment, l.position.advance text, some k.position⟩ := by
  obtain ⟨main, place, right, whole, scanned, open_⟩ := h
  have comment : (k.inBlock ['/', '*']).mode ≠ .main := nofun
  obtain ⟨-, -, reached⟩ := scan_without_end (α := α) comment open_
  rw [scanned, scan_opener main, Scanned.prepend, Scanned.prepend, reached, whole,
    Position.advance_append, ← place]
  rfl

theorem prepend {l' : Lexer} {rest : List Char} {front : List (Token α)} (h : OpensIn l' rest ts k)
    (first : (l.scan text : Scanned α) = (l'.scan rest).prepend front)
    (whole : text = spelled front ++ rest)
    (moved : l'.position = l.position.advance (spelled front)) :
    OpensIn l text (front ++ ts) k := by
  obtain ⟨main, place, right, split, scanned, open_⟩ := h
  refine ⟨main, ?_, right, ?_, ?_, open_⟩
  · rw [place, moved, spelled_append, Position.advance_append]
  · rw [whole, split, spelled_append, List.append_assoc]
  · rw [first, scanned, ← Scanned.prepend_append]

end OpensIn

/-- Only the opening in main text leads into a block comment. -/
theorem opener_of_after {text : List Char} {rule : LexRule} {n : Nat}
    (first : firstMatch text l.mode.rules = some (rule, n)) (other : l.mode ≠ .blockComment)
    (block : (l.after rule (text.take n)).mode = .blockComment) :
    l.mode = .main ∧ text = '/' :: '*' :: text.drop n := by
  obtain ⟨mem, extent⟩ := extent_of_firstMatch first
  have next : rule.next = some .blockComment := by
    cases next : rule.next with
    | none => exact absurd (by simpa [Lexer.after, next] using block) other
    | some m => simpa [Lexer.after, next] using block
  have opener : l.mode = .main ∧ rule.extent = Lexeme.exact ['/', '*'] := by
    cases mode : l.mode with
    | main =>
      rw [mode] at mem
      simp only [Mode.rules, List.mem_cons, List.not_mem_nil, or_false] at mem
      obtain rfl | rfl | rfl | rfl | rfl | rfl | rfl | rfl | rfl | rfl | rfl | rfl | rfl := mem
      all_goals first | exact ⟨rfl, rfl⟩ | cases next
    | lineComment =>
      rw [mode] at mem
      simp only [Mode.rules, List.mem_cons, List.not_mem_nil, or_false] at mem
      rcases mem with rfl | rfl <;> cases next
    | blockComment => exact absurd mode other
  refine ⟨opener.1, ?_⟩
  have pos := ne_zero_of_firstMatch first
  rw [opener.2] at extent
  simp only [Lexeme.exact, List.isPrefixOf_iff_prefix] at extent
  split at extent
  · next fits =>
    obtain ⟨rest, rfl⟩ := fits
    rw [← extent]
    rfl
  · exact absurd extent.symm pos

/-- After a text the lexer is in a block comment if it was before and the text has no ending, or the
comment began in the text. -/
theorem scan_mode_block {text : List Char}
    (block : (l.scan text : Scanned α).lexer.mode = .blockComment) :
    l.mode = .blockComment ∧ ¬ ['*', '/'] <:+: text ∨
      ∃ (ts : List (Token α)) (k : Lexer), OpensIn l text ts k := by
  induction length : text.length using Nat.strong_induction_on generalizing l text with
  | _ size ih =>
  by_cases here : l.mode = .blockComment
  · by_cases closes : ['*', '/'] <:+: text
    · -- After the ending, main text is scanned as if it stood alone.
      obtain ⟨body, rest, ends⟩ := FirstEnd.exists_of_infix closes
      obtain ⟨front, -, spells, scanned⟩ := scan_block_end (α := α) here ends
      have shorter : rest.length < size := by
        rw [← length, ends.split, List.append_assoc, List.length_append, List.length_append,
          List.length_cons]
        omega
      rw [scanned] at block
      rcases ih _ shorter block rfl with ⟨main, -⟩ | ⟨ts, k, opens⟩
      · cases main
      · exact .inr ⟨_, k, opens.prepend scanned (spells ▸ ends.split) (by rw [spells]; rfl)⟩
    · exact .inl ⟨here, closes⟩
  · refine .inr ?_
    obtain _ | ⟨c, text⟩ := text
    · exact absurd block here
    cases first : firstMatch (c :: text) l.mode.rules with
    | none =>
      rw [scan, List.length_cons, scanWith, first] at block
      exact absurd block here
    | some made =>
      obtain ⟨rule, n⟩ := made
      have scanned := scan_eq (α := α) first
      have pos := ne_zero_of_firstMatch first
      have shorter : ((c :: text).drop n).length < size := by
        rw [List.length_drop, ← length, List.length_cons]
        omega
      rw [scanned] at block
      rcases ih _ shorter block rfl with ⟨began, open_⟩ | ⟨ts, k, opens⟩
      · obtain ⟨main, whole⟩ := opener_of_after first here began
        exact ⟨[], l, main, rfl, (c :: text).drop n, whole, congrArg l.scan whole, open_⟩
      · refine ⟨_, k, opens.prepend scanned ?_ ?_⟩
        · simp [spelled]
        · simp [spelled, Lexer.after]

/-- After some calls the lexer is in a block comment only if one of them left it open and none after
that has the ending. -/
theorem opensIn_of_mode_block (main : l.mode = .main) {calls : List (Call α)}
    (block : (l.through calls).mode = .blockComment) :
    ∃ (earlier : List (Call α)) (segment : String) (later : List (Call α)) (ts : List (Token α))
      (k : Lexer), calls = earlier ++ .scan segment :: later ∧
        OpensIn (l.through earlier) segment.toList ts k ∧
        ∀ c ∈ later, ¬ c.Closes .blockComment := by
  induction calls using List.reverseRecOn with
  | nil => cases main.symm.trans block
  | append_singleton calls c ih =>
    rw [through_append] at block
    -- The comment was open before the last call, or it began in it.
    have last : (l.through calls).mode = .blockComment ∧ ¬ c.Closes .blockComment ∨
        ∃ segment ts k, c = .scan segment ∧
          OpensIn (α := α) (l.through calls) segment.toList ts k := by
      cases c with
      | scan segment =>
        rcases scan_mode_block block with stays | ⟨ts, k, opens⟩
        · exact .inl stays
        · exact .inr ⟨segment, ts, k, rfl, opens⟩
      | inject value => exact .inl ⟨block, Call.not_closes_inject (by decide) value⟩
    rcases last with ⟨before, open_⟩ | ⟨segment, ts, k, rfl, opens⟩
    · obtain ⟨earlier, segment, later, ts, k, rfl, opens, none⟩ := ih before
      refine ⟨earlier, segment, later ++ [c], ts, k, by simp, opens, ?_⟩
      exact List.forall_mem_append.mpr ⟨none, List.forall_mem_singleton.mpr open_⟩
    · exact ⟨calls, segment, [], ts, k, rfl, opens, List.forall_mem_nil _⟩

theorem OpensIn.through_later {earlier later : List (Call α)} {segment : String}
    {ts : List (Token α)} {k : Lexer} (opens : OpensIn (l.through earlier) segment.toList ts k)
    (none : ∀ c ∈ later, ¬ c.Closes .blockComment) :
    (l.through (earlier ++ .scan segment :: later)).mode = .blockComment ∧
      (l.through (earlier ++ .scan segment :: later)).commentStart = some k.position := by
  have split : earlier ++ .scan segment :: later = earlier ++ [.scan segment] ++ later := by simp
  rw [split, through_append, through_append]
  have state : (l.through earlier).through [.scan segment] =
      ⟨.blockComment, (l.through earlier).position.advance segment.toList, some k.position⟩ :=
    opens.lexer
  have comment : ((l.through earlier).through [Call.scan (α := α) segment]).mode ≠ .main := by
    rw [state]
    nofun
  have goesOn := (session_swallowed comment (by rwa [state])).2
  rw [goesOn, state]
  exact ⟨rfl, rfl⟩

theorem through_tiles (l : Lexer) (calls : List (Call α)) :
    Tiles l.position (emitted (l.session calls)) (l.through calls).position := by
  induction calls generalizing l with
  | nil => rfl
  | cons c calls ih => exact (l.call_tiles c).append (ih _)

/-- Where a block comment is open and none of the calls that follow has the ending, the source may
not end after them. The comment began in a scan that left it open, and its own opening is named. -/
theorem finish_of_mode_block {earlier later : List (Call α)}
    (block : (through {} earlier).mode = .blockComment)
    (none : ∀ c ∈ later, ¬ c.Closes .blockComment) :
    ∃ (before : List (Call α)) (segment : String) (since : List (Call α)) (ts : List (Token α))
      (k : Lexer), earlier = before ++ .scan segment :: since ∧
        OpensIn (through {} before) segment.toList ts k ∧
        (∀ c ∈ since, ¬ c.Closes .blockComment) ∧
        (through {} (earlier ++ later)).finish =
          some (.unterminatedComment (.past (spelled (emitted (session {} before) ++ ts)))) := by
  obtain ⟨before, segment, since, ts, k, rfl, opens, open_⟩ := opensIn_of_mode_block rfl block
  refine ⟨before, segment, since, ts, k, rfl, opens, open_, ?_⟩
  have place : k.position = .past (spelled (emitted (session {} before) ++ ts)) := by
    rw [opens.place, (through_tiles {} before).stop_eq, ← Position.advance_append, ← spelled_append]
    exact Position.start_advance _
  rw [List.append_assoc, List.cons_append]
  obtain ⟨block, began⟩ := opens.through_later (List.forall_mem_append.mpr ⟨open_, none⟩)
  rw [finish, if_pos block, began, ← place]
  rfl

/-! ## The whole session -/

/-- What becomes of comments over the calls of a lexer. -/
structure CommentsExact (α : Type) : Prop where
  /-- No scan fails inside a comment. -/
  total : ∀ (l : Lexer) (calls : List (Call α)), ∀ r ∈ l.session calls,
    r.2.failure ≠ none → r.2.lexer.mode = .main
  /-- While no text has the ending, each call gives ignored tokens that spell its text, and values
  are dropped; the lexer stays in the comment and only moves on. -/
  goesOn : ∀ (l : Lexer) (calls : List (Call α)), l.mode ≠ .main →
    (∀ c ∈ calls, ¬ c.Closes l.mode) →
    (∀ r ∈ l.session calls, r.1.Swallowed r.2) ∧
      l.through calls = l.pass (calls.flatMap Call.text)
  /-- Otherwise there is a first text with the ending, and a first place of the ending in it. -/
  orEnds : ∀ (m : Mode) (calls : List (Call α)), m ≠ .main →
    (∀ c ∈ calls, ¬ c.Closes m) ∨
      ∃ earlier segment later body rest, calls = earlier ++ .scan segment :: later ∧
        (∀ c ∈ earlier, ¬ c.Closes m) ∧ FirstEnd m.ending segment.toList body rest
  /-- A line comment ends at its first line feed, which makes a token with the blanks after it.
  What is before it is ignored, and what comes after is main text. -/
  lineEnds : ∀ (l : Lexer) (earlier : List (Call α)) (segment : String) (body rest : List Char),
    l.mode = .lineComment → (∀ c ∈ earlier, ¬ c.Closes .lineComment) →
    FirstEnd ['\n'] segment.toList body rest →
    ∃ (ts : List (Token α)) (blanks more : List Char), (∀ t ∈ ts, t.kind = .ignored) ∧
      spelled ts = body ∧ rest = blanks ++ more ∧ (∀ c ∈ blanks, Text.isBlank c) ∧
      (∀ c ∈ more.head?, Text.isBlank c = false) ∧
      let reached := l.pass (earlier.flatMap Call.text)
      (l.through earlier).scan segment.toList =
        ((reached.close (body ++ '\n' :: blanks)).scan more).prepend
          (ts ++ [⟨.line, String.ofList ('\n' :: blanks), reached.position.advance body⟩])
  /-- A block comment ends at the first star and slash in one text. What is before them is ignored
  with them, and what comes after is main text. -/
  blockEnds : ∀ (l : Lexer) (earlier : List (Call α)) (segment : String) (body rest : List Char),
    l.mode = .blockComment → (∀ c ∈ earlier, ¬ c.Closes .blockComment) →
    FirstEnd ['*', '/'] segment.toList body rest →
    ∃ ts : List (Token α), (∀ t ∈ ts, t.kind = .ignored) ∧ spelled ts = body ++ ['*', '/'] ∧
      (l.through earlier).scan segment.toList =
        ((l.pass (earlier.flatMap Call.text)).close (body ++ ['*', '/'])
          |>.scan rest).prepend ts
  /-- Where the calls of a new lexer have left a block comment open and none that follow have the
  ending, the source may not end. The error names the place of this comment's own opening, past all
  that was scanned before it. -/
  unterminated : ∀ earlier later : List (Call α), (through {} earlier).mode = .blockComment →
    (∀ c ∈ later, ¬ c.Closes .blockComment) →
    ∃ (before : List (Call α)) (segment : String) (since : List (Call α)) (ts : List (Token α))
      (k : Lexer), earlier = before ++ .scan segment :: since ∧
        OpensIn (through {} before) segment.toList ts k ∧
        (∀ c ∈ since, ¬ c.Closes .blockComment) ∧
        (through {} (earlier ++ later)).finish =
          some (.unterminatedComment (.past (spelled (emitted (session {} before) ++ ts))))

theorem comments_exact : CommentsExact α where
  total l calls := by
    refine forall_session (P := fun _ s => s.failure ≠ none → s.lexer.mode = .main) ?_ l calls
    intro l c failed
    cases c with
    | scan segment => exact scanWith_main_of_failure failed
    | inject value => exact absurd rfl failed
  goesOn _ _ := session_swallowed
  orEnds _ calls comment := first_closes comment calls
  lineEnds l earlier segment body rest line none ends := by
    have comment : l.mode ≠ .main := by simp [line]
    have reached := (session_swallowed comment (line ▸ none)).2
    rw [reached]
    exact scan_line_end line ends
  blockEnds l earlier segment body rest block none ends := by
    have comment : l.mode ≠ .main := by simp [block]
    have reached := (session_swallowed comment (block ▸ none)).2
    rw [reached]
    exact scan_block_end block ends
  unterminated _ _ := finish_of_mode_block

namespace Stars

/-- The star of the second opening makes no ending with the slash that comes after it. -/
def opening : List (Call Nat) := [.scan "/* */ a /*/ *"]

/-- The star at the end of the text before makes no ending with the slash of the next. -/
def rest : List (Call Nat) := [.inject 1, .scan "/ b"]

end Stars

open Stars

theorem comments_exact_stars :
    (through {} opening).mode = .blockComment ∧ (∀ c ∈ rest, ¬ c.Closes .blockComment) ∧
      (∀ r ∈ (through {} opening).session rest, r.1.Swallowed r.2) ∧
      ∃ (before : List (Call Nat)) (segment : String) (since : List (Call Nat))
        (ts : List (Token Nat)) (k : Lexer), opening = before ++ .scan segment :: since ∧
          OpensIn (through {} before) segment.toList ts k ∧
          (∀ c ∈ since, ¬ c.Closes .blockComment) ∧
          (through {} (opening ++ rest)).finish =
            some (.unterminatedComment (.past (spelled (emitted (session {} before) ++ ts)))) := by
  have block : (through {} opening).mode = .blockComment := by decide +kernel
  have none : ∀ c ∈ rest, ¬ c.Closes .blockComment := by unfold Call.Closes; decide
  have comment : (through {} opening).mode ≠ .main := by simp [block]
  have swallowed := (comments_exact.goesOn _ _ comment (block.symm ▸ none)).1
  exact ⟨block, none, swallowed, comments_exact.unterminated _ _ block none⟩

/-- The opening that is left open is the second. -/
example : (through {} [Call.scan "/* */ a /*/ *", .inject 1, .scan "/ b"]).finish =
    some (.unterminatedComment ⟨8, 1, 9⟩) := by
  decide +kernel

end Lexer

end RuleMachine
