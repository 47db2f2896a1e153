import Mathlib.Data.List.Destutter
import Mathlib.Data.List.Forall2
import RuleMachine.Proofs.Source.Rules

/-!
# Printing tokens

The tokens of a source without blanks and comments, and with one line break for each run of them
(`canonical`), can be printed with single spaces between them (`reprint`). Scanning what is printed
gives these tokens again (`tokenize_reprint`): a token that is neither blank nor a line break is a
lexeme by itself (`Lexer.scanWith_lexemes`), and stays one with a space after it.
-/

namespace RuleMachine

variable {α : Type}

/-- Not two line breaks. -/
def Token.Apart (t u : Token α) : Prop := ¬ (t.isLine ∧ u.isLine)

instance : DecidableRel (Token.Apart (α := α)) :=
  fun t u => inferInstanceAs (Decidable (¬ (t.isLine ∧ u.isLine)))

/-- The tokens without the ignored ones, and of line breaks in a row only the first. -/
def canonical (ts : List (Token α)) : List (Token α) :=
  (ts.filter (!·.isIgnored)).destutter Token.Apart

/-- The text of a token, for a line break a single line feed. -/
def Token.printed (t : Token α) : String := if t.isLine then "\n" else t.text

/-- The tokens with single spaces between them. -/
def reprint (ts : List (Token α)) : String := " ".intercalate (ts.map Token.printed)

namespace Token

/-- The kinds agree, with the values of literals, and so do the texts but of line breaks. -/
def Same (t u : Token α) : Prop := t.kind = u.kind ∧ (t.isLine = false → t.text = u.text)

/-- By itself the text is a lexeme of main text that gives a token of the kind, neither a line break
nor blank. -/
def IsLexeme (t : Token α) : Prop :=
  ∃ shape, Lexes shape t.text.toList [] ∧ t.kind = shape.kind t.text.toList ∧
    shape ≠ .line ∧ shape ≠ .ignored

variable {t u : Token α}

theorem IsLexeme.solid (h : t.IsLexeme) : t.text.toList ≠ [] := by
  obtain ⟨shape, ⟨rule, -, -, first⟩, -⟩ := h
  intro none
  rw [none] at first
  exact ne_zero_of_firstMatch first rfl

theorem isIgnored_kind {shape : Shape} (kept : shape ≠ .ignored) {cs : List Char} {text : String}
    {p : Position} : (⟨shape.kind cs, text, p⟩ : Token α).isIgnored = false := by
  cases shape <;> first | rfl | exact absurd rfl kept

theorem Same.isLine (same : t.Same u) : t.isLine = u.isLine := by
  rw [Token.isLine, Token.isLine, same.1]

end Token

namespace Lexer

/-- Of each mode, the rules for what is neither a line break nor blank are rules of main text, which
is not left with them. -/
theorem rules_of_kept {mode : Mode} {rule : LexRule} (mem : rule ∈ mode.rules)
    (inLine : rule.shape ≠ .line) (kept : rule.shape ≠ .ignored) :
    mode = .main ∧ rule.next = none := by
  cases mode with
  | main =>
    refine ⟨rfl, ?_⟩
    simp only [Mode.rules, List.mem_cons, List.not_mem_nil, or_false] at mem
    rcases mem with rfl | rfl | rfl | rfl | rfl | rfl | rfl | rfl | rfl | rfl | rfl | rfl | rfl <;>
      first | rfl | exact absurd rfl kept
  | lineComment | blockComment =>
    simp only [Mode.rules, List.mem_cons, List.not_mem_nil, or_false] at mem
    rcases mem with rfl | rfl | rfl <;> first | exact absurd rfl kept | exact absurd rfl inLine

theorem scanWith_lexemes (fuel : Nat) (l : Lexer) (text : List Char) :
    ∀ t ∈ (scanWith fuel l text : Scanned α).tokens, t.isLine ∨ t.isIgnored ∨ t.IsLexeme := by
  fun_induction scanWith with
  | case1 | case2 | case3 => nofun
  | case4 fuel l c rest rule n first text scanned ih =>
    refine List.forall_mem_cons.mpr ⟨?_, ih⟩
    by_cases line : rule.shape = .line
    · exact .inl (by rw [Token.isLine, line]; rfl)
    by_cases ignored : rule.shape = .ignored
    · exact .inr (.inl (by rw [Token.isIgnored, ignored]; rfl))
    obtain ⟨mem, extent⟩ := extent_of_firstMatch first
    obtain ⟨main, stays⟩ := rules_of_kept mem line ignored
    have within : n ≤ (c :: rest).length := extent ▸ (Mode.regular_of_mem (main ▸ mem)).within _
    have length : text.length = n := List.length_take_of_le within
    refine .inr (.inr ⟨rule.shape, ⟨rule, rfl, stays, ?_⟩, ?_, line, ignored⟩)
    · rw [String.toList_ofList, List.append_nil, length]
      rw [main, ← List.take_append_drop n (c :: rest)] at first
      exact firstMatch_cut (fun _ => Mode.regular_of_mem) first (Nat.le_of_eq length.symm)
    · rw [String.toList_ofList]

end Lexer

namespace Lexes

variable {shape : Shape} {text rest : List Char}

theorem before_space (lexes : Lexes shape text []) (inLine : shape ≠ .line)
    (kept : shape ≠ .ignored) (rest : List Char) : Lexes shape text (' ' :: rest) := by
  obtain ⟨rule, rfl, stays, first⟩ := lexes
  rw [List.append_nil] at first
  exact ⟨rule, rfl, stays, firstMatch_spaced first inLine kept rest⟩

theorem solid (lexes : Lexes shape text []) (inLine : shape ≠ .line) (kept : shape ≠ .ignored)
    (rest : List Char) : ∀ c ∈ (text ++ rest).head?, Text.isBlank c = false := by
  obtain ⟨rule, rfl, -, first⟩ := lexes
  rw [List.append_nil] at first
  cases text with
  | nil => cases first
  | cons c text =>
    rintro _ ⟨⟩
    exact firstMatch_solid first inLine kept

/-- A line break takes a space after it. -/
theorem line_space (solid : ∀ c ∈ rest.head?, Text.isBlank c = false) :
    Lexes .line ['\n', ' '] rest := by
  refine ⟨{ shape := .line, extent := Lexeme.lineBreak }, rfl, rfl, ?_⟩
  have blanks : Lexeme.run Text.isBlank (' ' :: rest) = 1 := Lexeme.run_singleton rfl solid
  simp [firstMatch, Mode.rules, Lexeme.lineBreak, blanks]

end Lexes

/-! ## Scanning what is printed -/

/-- What may come after a printed token: the end, or a space and the next token, which is no second
line break in a row. -/
def Joins (t : Token α) (gap rest : List Char) : Prop :=
  gap = [] ∧ rest = [] ∨ gap = [' '] ∧ ∀ c ∈ rest.head?, Lexeme.isSpace c = false ∧
    (t.isLine → Text.isBlank c = false)

namespace Lexer

variable {l : Lexer} {t : Token α} {ts : List (Token α)}

theorem scan_printed (main : l.mode = .main) (h : t.isLine ∨ t.IsLexeme) {gap rest : List Char}
    (joins : Joins t gap rest) : ∃ tokens u,
      l.scan (t.printed.toList ++ gap ++ rest) =
        ((l.pass (t.printed.toList ++ gap)).scan rest).prepend tokens ∧
      tokens.filter (!·.isIgnored) = [u] ∧ u.Same t := by
  -- A line break takes the space after it; before all else the space is a token of its own.
  by_cases line : t.isLine
  · have kind : t.kind = .line := by
      unfold Token.isLine at line
      split at line <;> simp_all
    have lexes : Lexes .line (['\n'] ++ gap) rest := by
      rcases joins with ⟨rfl, rfl⟩ | ⟨rfl, solid⟩
      · exact .line (fun _ => nofun)
      · exact .line_space fun c next => (solid c next).2 line
    rw [Token.printed, if_pos line]
    exact ⟨_, _, scan_lexeme main lexes, rfl, kind.symm, nofun⟩
  · obtain ⟨shape, lexes, kind, inLine, kept⟩ := h.resolve_left line
    let u : Token α := ⟨shape.kind t.text.toList, String.ofList t.text.toList, l.position⟩
    have keeps : u.isIgnored = false := Token.isIgnored_kind kept
    have same : u.Same t := ⟨kind.symm, fun _ => String.ofList_toList⟩
    rw [Token.printed, if_neg line]
    rcases joins with ⟨rfl, rfl⟩ | ⟨rfl, solid⟩
    · refine ⟨[u], u, ?_, by simp [keeps], same⟩
      simpa only [List.append_nil] using scan_lexeme main lexes
    · have spaced : (l.scan (t.text.toList ++ ' ' :: rest) : Scanned α) = _ :=
        scan_lexeme main (lexes.before_space inLine kept rest)
      have space : ((l.pass t.text.toList).scan (' ' :: rest) : Scanned α) = _ :=
        scan_lexeme (l := l.pass t.text.toList) main (.space fun c next => (solid c next).1)
      refine ⟨[u, ⟨.ignored, " ", (l.pass t.text.toList).position⟩], u, ?_, ?_, same⟩
      · rw [List.append_assoc, List.singleton_append, spaced, space, pass_append,
          ← Scanned.prepend_append]
        rfl
      · rw [List.filter_cons_of_pos (by simp [keeps])]
        rfl

theorem reprint_cons (t u : Token α) (ts : List (Token α)) :
    (reprint (t :: u :: ts)).toList = t.printed.toList ++ [' '] ++ (reprint (u :: ts)).toList := by
  simp only [reprint, List.map_cons, String.intercalate_cons_cons, String.toList_append]
  rfl

/-- What is printed begins with the first token. -/
theorem reprint_front (t : Token α) (ts : List (Token α)) :
    ∃ rest, (reprint (t :: ts)).toList = t.printed.toList ++ rest := by
  cases ts with
  | nil => exact ⟨[], by simp [reprint]⟩
  | cons u ts => exact ⟨_, (reprint_cons t u ts).trans (List.append_assoc ..)⟩

theorem joins_reprint {t u : Token α} (h : u.isLine ∨ u.IsLexeme)
    (apart : t.Apart u) (ts : List (Token α)) :
    Joins t [' '] (reprint (u :: ts)).toList := by
  obtain ⟨rest, front⟩ := reprint_front u ts
  refine .inr ⟨rfl, ?_⟩
  rw [front, Token.printed]
  by_cases line : u.isLine
  · rw [if_pos line]
    rintro c ⟨⟩
    exact ⟨by decide, fun line' => absurd ⟨line', line⟩ apart⟩
  · obtain ⟨shape, lexes, -, inLine, kept⟩ := h.resolve_left line
    rw [if_neg line]
    intro c next
    have solid := Bool.eq_false_iff.mp (lexes.solid inLine kept rest c next)
    exact ⟨Bool.eq_false_iff.mpr fun space => solid (Text.isBlank_of_isSpace space),
      fun _ => Bool.eq_false_iff.mpr solid⟩

theorem scan_reprint {ts : List (Token α)} (h : ∀ t ∈ ts, t.isLine ∨ t.IsLexeme)
    (apart : ts.IsChain Token.Apart) {l : Lexer} (main : l.mode = .main) :
    ∃ tokens, l.scan (reprint ts).toList = ⟨tokens, l.pass (reprint ts).toList, none⟩ ∧
      List.Forall₂ Token.Same (tokens.filter (!·.isIgnored)) ts := by
  induction ts generalizing l with
  | nil => exact ⟨[], rfl, .nil⟩
  | cons t ts ih =>
    obtain ⟨here, later⟩ := List.forall_mem_cons.mp h
    cases ts with
    | nil =>
      obtain ⟨tokens, u, scanned, kept, same⟩ := scan_printed main here (.inl ⟨rfl, rfl⟩)
      refine ⟨tokens, ?_, kept ▸ .cons same .nil⟩
      simp only [List.append_nil] at scanned
      rw [reprint, List.map_singleton, String.intercalate_singleton, scanned]
      simp [Scanned.prepend, scan, scanWith]
    | cons u ts =>
      obtain ⟨separate, apart⟩ := List.isChain_cons_cons.mp apart
      obtain ⟨tokens, v, scanned, kept, same⟩ :=
        scan_printed main here (joins_reprint (later u (.head _)) separate ts)
      obtain ⟨tokens', scanned', kept'⟩ :=
        ih later apart (l := l.pass (t.printed.toList ++ [' '])) main
      refine ⟨tokens ++ tokens', ?_, ?_⟩
      · rw [reprint_cons, scanned, scanned', ← pass_append]
        rfl
      · rw [List.filter_append, kept]
        exact .cons same kept'

end Lexer

/-- A token that is kept is one of main text, and no blank. -/
theorem lexeme_of_mem_canonical {text : String} {tokens : List (Token α)}
    (scanned : tokenize [text] [] = .ok tokens) {t : Token α} (mem : t ∈ canonical tokens) :
    t.isLine ∨ t.IsLexeme := by
  obtain ⟨mem, kept⟩ := List.mem_filter.mp ((List.destutter_sublist _ _).subset mem)
  have all := Lexer.scanWith_lexemes (α := α) text.toList.length {} text.toList
  have whole : tokens = (({} : Lexer).scan text.toList).tokens := by
    simp only [tokenize, Lexer.scanSegments] at scanned
    grind [Except.map]
  rcases all t (whole ▸ mem) with line | ignored | lexeme
  · exact .inl line
  · simp [ignored] at kept
  · exact .inr lexeme

/-- The same tokens have line breaks in the same places. -/
theorem isChain_of_same {ts us : List (Token α)} (same : List.Forall₂ Token.Same ts us)
    (apart : us.IsChain Token.Apart) : ts.IsChain Token.Apart := by
  induction same with
  | nil => exact .nil
  | cons first rest ih =>
    cases rest with
    | nil => exact .singleton _
    | cons second rest =>
      obtain ⟨separate, apart⟩ := List.isChain_cons_cons.mp apart
      refine List.isChain_cons_cons.mpr ⟨?_, ih apart⟩
      rwa [Token.Apart, first.isLine, second.isLine]

/-- The printed tokens of a source are scanned as these tokens again. -/
theorem tokenize_reprint {text : String} {tokens : List (Token α)}
    (scanned : tokenize [text] [] = .ok tokens) :
    ∃ tokens', tokenize [reprint (canonical tokens)] [] = .ok tokens' ∧
      List.Forall₂ Token.Same (canonical tokens') (canonical tokens) := by
  have apart : (canonical tokens).IsChain Token.Apart := List.isChain_destutter _ _
  obtain ⟨tokens', again, same⟩ := Lexer.scan_reprint
    (fun t => lexeme_of_mem_canonical scanned) apart (l := {}) rfl
  have whole : canonical tokens' = tokens'.filter (!·.isIgnored) :=
    List.destutter_of_isChain _ _ (isChain_of_same same apart)
  exact ⟨tokens', tokenize_of_scan again rfl, whole ▸ same⟩

/-- Of a comment and of line breaks in a row one line feed is printed. -/
theorem tokenize_reprint_comment : ∃ tokens tokens' : List (Token Unit),
    tokenize ["a// b\n\n\t#"] [] = .ok tokens ∧ tokenize ["a \n #"] [] = .ok tokens' ∧
    List.Forall₂ Token.Same (canonical tokens') (canonical tokens) := by
  let tokens : List (Token Unit) := [⟨.identifier, "a", ⟨0, 1, 1⟩⟩, ⟨.ignored, "//", ⟨1, 1, 2⟩⟩,
    ⟨.ignored, " b", ⟨3, 1, 4⟩⟩, ⟨.line, "\n\n\t", ⟨5, 1, 6⟩⟩, ⟨.operator, "#", ⟨8, 3, 2⟩⟩]
  have scanned : tokenize ["a// b\n\n\t#"] [] = .ok tokens := by decide +kernel
  have printed : reprint (canonical tokens) = "a \n #" := by decide +kernel
  obtain ⟨tokens', again, same⟩ := tokenize_reprint scanned
  exact ⟨tokens, tokens', scanned, printed ▸ again, same⟩

end RuleMachine
