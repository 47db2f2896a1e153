import RuleMachine.Proofs.Grammar.Kept
import RuleMachine.Proofs.Source.Reprint
import RuleMachine.Proofs.Source.Sessions

/-!
# Places that errors name

Every token stands in the text of its source (`Token.StandsIn`): its place is the one past the text
before it. What is built of tokens, a tree and the cursors in it, takes its places from them, and
from within symbols, which can be cut after each character. So the place that an error of scanning,
of bracket matching or of parsing names is one in the source (`Template.parse_error_place`).
-/

namespace RuleMachine

namespace Position

/-- The place past a front part of the text. -/
def In (text : List Char) (p : Position) : Prop :=
  ∃ before after, text = before ++ after ∧ p = past before

variable {text : List Char}

theorem start_in (text : List Char) : start.In text := ⟨[], text, rfl, rfl⟩

theorem past_advance (before text : List Char) :
    (past before).advance text = past (before ++ text) := by
  rw [← start_advance, ← start_advance, advance_append]

end Position

namespace Lexeme

/-- A character of one byte that ends no line. -/
def isPlain (c : Char) : Bool := c.utf8Size = 1 && c ≠ '\n'

theorem isPlain_of_isPunctuation {c : Char} (h : isPunctuation c) : isPlain c := by
  have all : [',', ';', '(', ')', '{', '}', '[', ']'].all isPlain := by decide
  exact List.all_eq_true.mp all c (List.contains_iff_mem.mp h)

theorem isPlain_of_isOperator {c : Char} (h : isOperator c) : isPlain c := by
  have all : "!@#%^&*-+=|/:<>.?~".toList.all isPlain := by decide
  exact List.all_eq_true.mp all c (List.contains_iff_mem.mp h)

end Lexeme

open Lexeme

/-- Each plain character is a step of one in the offset and in the column. -/
theorem Position.advance_plain (p : Position) {text : List Char} (plain : ∀ c ∈ text, isPlain c) :
    p.advance text = ⟨p.offset + text.length, p.line, p.column + text.length⟩ := by
  induction text generalizing p with
  | nil => rfl
  | cons c text ih =>
    obtain ⟨here, plain⟩ := List.forall_mem_cons.mp plain
    simp only [isPlain, Bool.and_eq_true, decide_eq_true_eq] at here
    rw [advance_cons, ih _ plain, step, if_neg here.2, here.1, List.length_cons, Nat.add_assoc,
      Nat.add_assoc, Nat.add_comm 1]

variable {α : Type}

/-! ## Tokens -/

/-- A symbol has plain characters only. -/
def Token.IsPlain (t : Token α) : Prop := t.isSymbol → ∀ c ∈ t.text.toList, isPlain c

/-- The text of the token stands in the text, right after what is before the token's place, and if
it is a symbol, it can be cut after each character. -/
structure Token.StandsIn (text : List Char) (t : Token α) : Prop where
  place : ∃ before after, text = before ++ t.text.toList ++ after ∧ t.position = .past before
  plain : t.IsPlain

namespace Token.StandsIn

variable {text : List Char} {t : Token α}

theorem position_in (h : t.StandsIn text) : t.position.In text := by
  obtain ⟨before, after, split, place⟩ := h.place
  exact ⟨before, t.text.toList ++ after, by rw [split, List.append_assoc], place⟩

theorem stop_in (h : t.StandsIn text) : t.stop.In text := by
  obtain ⟨before, after, split, place⟩ := h.place
  refine ⟨before ++ t.text.toList, after, split, ?_⟩
  rw [Token.stop, place, Position.past_advance]

/-- A place within a symbol is one in the text. -/
theorem split_in (h : t.StandsIn text) (symbol : t.isSymbol) {n : Nat}
    (inside : n < t.text.length) :
    Position.In text ⟨t.position.offset + n, t.position.line, t.position.column + n⟩ := by
  obtain ⟨before, after, split, place⟩ := h.place
  let front := t.text.toList.take n
  have length : front.length = n :=
    List.length_take_of_le (String.length_toList ▸ Nat.le_of_lt inside)
  have passed : t.position.advance front = _ :=
    t.position.advance_plain fun c mem => h.plain symbol c (List.mem_of_mem_take mem)
  refine ⟨before ++ front, t.text.toList.drop n ++ after, ?_, ?_⟩
  · rw [List.append_assoc, ← List.append_assoc front, List.take_append_drop, split,
      List.append_assoc]
  · rw [← Position.past_advance, ← place, passed, length]

end Token.StandsIn

/-- Tokens that follow each other from the start stand in the text that they spell. -/
theorem Tiles.standsIn {q : Position} {ts : List (Token α)} (h : Tiles .start ts q)
    (plain : ∀ t ∈ ts, t.IsPlain) : ∀ t ∈ ts, t.StandsIn (spelled ts) := by
  intro t mem
  obtain ⟨front, back, rfl⟩ := List.append_of_mem mem
  refine ⟨⟨spelled front, spelled back, ?_, ?_⟩, plain t mem⟩
  · simp [spelled]
  · rw [h.position_eq, Position.start_advance]

/-! ## Scanning -/

namespace Lexer

/-- The rules for symbols take plain characters only. -/
theorem takes_plain {mode : Mode} {rule : LexRule} (mem : rule ∈ mode.rules)
    (symbol : rule.shape = .punctuation ∨ rule.shape = .operator) : Takes rule.extent isPlain := by
  have inLine : rule.shape ≠ .line := fun same => by simp [same] at symbol
  have kept : rule.shape ≠ .ignored := fun same => by simp [same] at symbol
  obtain ⟨rfl, -⟩ := rules_of_kept mem inLine kept
  simp only [Mode.rules, List.mem_cons, List.not_mem_nil, or_false] at mem
  rcases mem with rfl | rfl | rfl | rfl | rfl | rfl | rfl | rfl | rfl | rfl | rfl | rfl | rfl <;>
    simp at symbol
  · exact fun text c mem => isPlain_of_isPunctuation (Takes.punctuation text c mem)
  · exact fun text c mem => isPlain_of_isOperator (all_run isOperator text c mem)

theorem scanWith_plain (fuel : Nat) (l : Lexer) (text : List Char) :
    ∀ t ∈ (scanWith fuel l text : Scanned α).tokens, t.IsPlain := by
  fun_induction scanWith with
  | case1 | case2 | case3 => exact List.forall_mem_nil _
  | case4 fuel l c rest rule n first text scanned ih =>
    refine List.forall_mem_cons.mpr ⟨fun symbol => ?_, ih⟩
    obtain ⟨mem, rfl⟩ := extent_of_firstMatch first
    have shape : rule.shape = .punctuation ∨ rule.shape = .operator := by
      generalize rule.shape = shape at symbol
      cases shape <;> simp_all [Token.isSymbol, Shape.kind]
    rw [String.toList_ofList]
    exact takes_plain mem shape (c :: rest)

/-- The comment that was begun last began before this text or with a token of it. -/
theorem scanWith_commentStart (fuel : Nat) (l : Lexer) (text : List Char) :
    ∀ p ∈ (scanWith fuel l text : Scanned α).lexer.commentStart,
      p ∈ l.commentStart ∨ ∃ t ∈ (scanWith fuel l text : Scanned α).tokens, t.position = p := by
  fun_induction scanWith with
  | case1 | case2 | case3 => exact fun p => .inl
  | case4 fuel l c rest rule n first text scanned ih =>
    intro p mem
    rcases ih p mem with earlier | ⟨t, mem, here⟩
    · simp only [after] at earlier
      split at earlier
      · exact .inr ⟨_, .head _, Option.some.inj earlier⟩
      · exact .inl earlier
    · exact .inr ⟨t, .tail _ mem, here⟩

/-- The value after a segment: there is none after the last segment. -/
def between (segments : List String) (values : List α) : Option α :=
  if segments.isEmpty then none else values.head?

/-- A segment is scanned, and where this does not fail its tokens come first, then the token of the
value after it if there is one, and then those of the other segments. -/
theorem scanSegments_cons (l : Lexer) (segment : String) (segments : List String)
    (values : List α) : l.scanSegments (segment :: segments) values =
      match l.scan segment.toList with
      | ⟨_, _, some e⟩ => .error e
      | ⟨ts, l', none⟩ =>
        (l'.scanSegments segments (if segments.isEmpty then values else values.tail)).map
          fun us => ts ++ ((between segments values).bind l'.inject).toList ++ us := by
  rw [scanSegments, between]
  generalize l.scan segment.toList = scanned
  obtain ⟨ts, l', _ | e⟩ := scanned
  · simp only
    split <;> rfl
  · rfl

/-- The tokens of some segments are those of the first, of the value after it, and of the others. -/
theorem scanSegments_ok {l : Lexer} {segment : String} {segments : List String} {values : List α}
    {tokens : List (Token α)} (h : l.scanSegments (segment :: segments) values = .ok tokens) :
    ∃ ts l' us, l.scan segment.toList = ⟨ts, l', none⟩ ∧
      l'.scanSegments segments (if segments.isEmpty then values else values.tail) = .ok us ∧
      tokens = ts ++ ((between segments values).bind l'.inject).toList ++ us := by
  rw [scanSegments_cons] at h
  split at h
  · cases h
  · next ts l' scanned =>
    generalize more : l'.scanSegments segments _ = rest at h
    cases rest with
    | error e => cases h
    | ok us =>
      cases h
      exact ⟨ts, l', us, scanned, more, rfl⟩

/-- A segment with others after it has its value after it. -/
theorem scanSegments_ok_iff {l : Lexer} {segment : String} {segments : List String}
    {values : List α} {tokens : List (Token α)} (more : segments ≠ []) :
    l.scanSegments (segment :: segments) values = .ok tokens ↔
      ∃ ts l' us, l.scan segment.toList = ⟨ts, l', none⟩ ∧
        l'.scanSegments segments values.tail = .ok us ∧
        tokens = ts ++ (values.head?.bind l'.inject).toList ++ us := by
  have others : segments.isEmpty = false := List.isEmpty_eq_false_iff.mpr more
  constructor
  · intro h
    obtain ⟨ts, l', us, scanned, rest, whole⟩ := scanSegments_ok h
    rw [others, if_neg Bool.false_ne_true] at rest
    rw [between, others, if_neg Bool.false_ne_true] at whole
    exact ⟨ts, l', us, scanned, rest, whole⟩
  · rintro ⟨ts, l', us, scanned, rest, rfl⟩
    rw [scanSegments_cons, scanned, between, others, if_neg Bool.false_ne_true]
    simp only [Bool.false_eq_true, if_false, rest, Except.map]

/-- What holds of all tokens that are scanned and of those of values holds of all tokens. -/
theorem forall_scanSegments {P : Token α → Prop}
    (scanned : ∀ fuel l text, ∀ t ∈ (scanWith fuel l text : Scanned α).tokens, P t)
    (injected : ∀ value p, P ⟨.literal (.injected value), "", p⟩) {l : Lexer}
    {segments : List String} {values : List α} {tokens : List (Token α)}
    (h : l.scanSegments segments values = .ok tokens) : ∀ t ∈ tokens, P t := by
  induction segments generalizing l values tokens with
  | nil =>
    unfold scanSegments at h
    split at h
    · cases h
    · cases h
      nofun
  | cons segment segments ih =>
    obtain ⟨ts, l', us, first, more, rfl⟩ := scanSegments_ok h
    simp only [List.forall_mem_append]
    refine ⟨⟨?_, fun t mem => ?_⟩, ih more⟩
    · have all := scanned segment.toList.length l segment.toList
      unfold scan at first
      rwa [first] at all
    · obtain ⟨value, -, made⟩ := Option.bind_eq_some_iff.mp (Option.mem_toList.mp mem)
      unfold inject at made
      split at made
      · cases made
        exact injected value _
      · cases made

/-- A token that a new lexer gives, in whatever way it is called, or that is one of a source. -/
inductive Emits (t : Token α) : Prop
  | session {calls : List (Call α)} : t ∈ emitted (session {} calls) → Emits t
  | source {segments : List String} {values : List α} {tokens : List (Token α)} :
      tokenize segments values = .ok tokens → t ∈ tokens → Emits t

theorem Emits.isLexeme {t : Token α} (h : Emits t) :
    t.isLine ∨ t.isIgnored ∨ t.isInjected ∨ t.IsLexeme := by
  have scanned (fuel : Nat) (l : Lexer) (text : List Char) :
      ∀ t ∈ (scanWith fuel l text : Scanned α).tokens,
        t.isLine ∨ t.isIgnored ∨ t.isInjected ∨ t.IsLexeme :=
    fun t mem => (scanWith_lexemes fuel l text t mem).imp_right (.imp_right .inr)
  have injected (value : α) (p : Position) :
      let t : Token α := ⟨.literal (.injected value), "", p⟩
      t.isLine ∨ t.isIgnored ∨ t.isInjected ∨ t.IsLexeme := .inr (.inr (.inl rfl))
  cases h with
  | session mem => exact forall_emitted scanned injected {} _ t mem
  | source made mem => exact forall_scanSegments scanned injected made t mem

theorem scan_ok {l l' : Lexer} {segment : String} {ts : List (Token α)}
    (scanned : l.scan segment.toList = ⟨ts, l', none⟩) :
    spelled ts = segment.toList ∧ Tiles l.position ts l'.position := by
  have tiles := scanWith_tiles segment.toList.length l segment.toList (α := α)
  have covers := l.scanWith_covers (α := α) (Nat.le_refl segment.toList.length)
  unfold scan at scanned
  simp only [scanned] at tiles covers
  rcases covers with ⟨-, spells⟩ | ⟨_, _, stopped, -⟩
  · exact ⟨spells.symm, tiles⟩
  · cases stopped

theorem scan_error {l l' : Lexer} {segment : String} {ts : List (Token α)} {e : SyntaxError}
    (scanned : l.scan segment.toList = ⟨ts, l', some e⟩) :
    e.place = l.position.advance (spelled ts) ∧ spelled ts <+: segment.toList := by
  have tiles := scanWith_tiles segment.toList.length l segment.toList (α := α)
  have covers := l.scanWith_covers (α := α) (Nat.le_refl segment.toList.length)
  unfold scan at scanned
  simp only [scanned] at tiles covers
  rcases covers with ⟨whole, -⟩ | ⟨c, rest, stopped, spells⟩
  · cases whole
  · cases stopped
    exact ⟨tiles.stop_eq, c :: rest, spells.symm⟩

theorem spelled_inject (l : Lexer) (value : Option α) :
    spelled (value.bind l.inject).toList = [] := by
  cases value with
  | none => rfl
  | some value =>
    rw [Option.bind_some, inject]
    split <;> rfl

/-- The tokens of some segments spell them. -/
theorem scanSegments_spelled {l : Lexer} {segments : List String} {values : List α}
    {tokens : List (Token α)} (h : l.scanSegments segments values = .ok tokens) :
    spelled tokens = segments.flatMap String.toList := by
  induction segments generalizing l values tokens with
  | nil =>
    unfold scanSegments at h
    split at h
    · cases h
    · cases h
      rfl
  | cons segment segments ih =>
    obtain ⟨ts, l', us, first, more, rfl⟩ := scanSegments_ok h
    rw [spelled_append, spelled_append, (scan_ok first).1, spelled_inject, ih more,
      List.append_nil, List.flatMap_cons]

/-- An error of scanning some segments names a place in the text, where the lexer has come to a
place in it and the comment that was begun last began in it. -/
theorem scanSegments_error {l : Lexer} {segments : List String} {values : List α} {e : SyntaxError}
    {before : List Char} (here : l.position = .past before)
    (comment : ∀ p ∈ l.commentStart, p.In (before ++ segments.flatMap String.toList))
    (failed : l.scanSegments segments values = .error e) :
    e.place.In (before ++ segments.flatMap String.toList) := by
  induction segments generalizing l values before with
  | nil =>
    have position : l.position.In (before ++ [].flatMap String.toList) := ⟨before, _, rfl, here⟩
    unfold scanSegments finish at failed
    split at failed
    · next stopped =>
      split at stopped
      · cases stopped
        cases failed
        cases begun : l.commentStart with
        | none => exact position
        | some p => exact comment p begun
      · cases stopped
    · cases failed
  | cons segment segments ih =>
    rw [scanSegments_cons] at failed
    split at failed
    · next ts l' e' scanned =>
      cases failed
      obtain ⟨place, rest, split⟩ := scan_error scanned
      refine ⟨before ++ spelled ts, rest ++ segments.flatMap String.toList, ?_, ?_⟩
      · rw [List.flatMap_cons, ← split]
        simp only [List.append_assoc]
      · rw [place, here, Position.past_advance]
    · next ts l' scanned =>
      obtain ⟨spells, tiles⟩ := scan_ok scanned
      generalize more : l'.scanSegments segments _ = rest at failed
      cases rest with
      | ok us => cases failed
      | error e' =>
        cases failed
        rw [List.flatMap_cons, ← List.append_assoc] at comment ⊢
        refine ih ?_ ?_ more
        · rw [tiles.stop_eq, here, Position.past_advance, spells]
        -- The comment that is not ended may have begun in this segment or in an earlier one.
        · intro p begun
          have begins := scanWith_commentStart (α := α) segment.toList.length l segment.toList
          unfold scan at scanned
          rw [scanned] at begins
          rcases begins p begun with earlier | ⟨t, mem, rfl⟩
          · exact comment p earlier
          · obtain ⟨front, back, rfl⟩ := List.append_of_mem mem
            refine ⟨before ++ spelled front,
              spelled (t :: back) ++ segments.flatMap String.toList, ?_, ?_⟩
            · rw [← spells, spelled_append]
              simp only [List.append_assoc]
            · rw [tiles.position_eq, here, Position.past_advance]

end Lexer

theorem tokenize_standsIn {segments : List String} {values : List α} {tokens : List (Token α)}
    (h : tokenize segments values = .ok tokens) :
    ∀ t ∈ tokens, t.StandsIn (segments.flatMap String.toList) := by
  obtain ⟨q, tiles⟩ := tokenize_tiles h
  have plain : ∀ t ∈ tokens, t.IsPlain :=
    Lexer.forall_scanSegments Lexer.scanWith_plain (fun _ _ => nofun) h
  exact Lexer.scanSegments_spelled h ▸ tiles.standsIn plain

theorem tokenize_error {segments : List String} {values : List α} {e : SyntaxError}
    (failed : tokenize segments values = .error e) :
    e.place.In (segments.flatMap String.toList) := by
  have unbegun : ∀ p ∈ ({} : Lexer).commentStart, p.In ([] ++ segments.flatMap String.toList) :=
    fun _ => nofun
  exact Lexer.scanSegments_error rfl unbegun failed

/-! ## Assembling -/

mutual

/-- The tokens of a node, in order. -/
def Node.tokens : Node α → List (Token α)
  | .token t => [t]
  | .group opener closer children => opener :: Node.tokensIn children ++ [closer]

/-- The tokens of a list of nodes, in order. -/
def Node.tokensIn : List (Node α) → List (Token α)
  | [] => []
  | n :: ns => Node.tokens n ++ Node.tokensIn ns

end

namespace Node

variable {ns : List (Node α)} {t : Token α}

theorem mem_tokensIn : t ∈ tokensIn ns ↔ ∃ n ∈ ns, t ∈ n.tokens := by
  induction ns with
  | nil => simp [tokensIn]
  | cons n ns ih => simp [tokensIn, ih]

theorem forall_tokensIn_token {P : Token α → Prop} :
    (∀ u ∈ tokensIn (.token t :: ns), P u) ↔ P t ∧ ∀ u ∈ tokensIn ns, P u := by
  rw [tokensIn, tokens, List.singleton_append, List.forall_mem_cons]

theorem forall_tokensIn_group {P : Token α → Prop} {opener closer : Token α}
    {children : List (Node α)} : (∀ u ∈ tokensIn (.group opener closer children :: ns), P u) ↔
      P opener ∧ (∀ u ∈ tokensIn children, P u) ∧ P closer ∧ ∀ u ∈ tokensIn ns, P u := by
  simp only [tokensIn, tokens, List.cons_append, List.append_assoc, List.nil_append,
    List.forall_mem_cons, List.forall_mem_append]

theorem mem_tokensIn_reverse : t ∈ tokensIn ns.reverse ↔ t ∈ tokensIn ns := by
  simp [mem_tokensIn]

end Node

namespace Assembly

variable {ds : Delimiters} {P : Token α → Prop} {a b : Assembly α} {t : Token α}

/-- All that was taken in are tokens that satisfy `P`. -/
structure Made (P : Token α → Prop) (a : Assembly α) : Prop where
  nodes : ∀ t ∈ Node.tokensIn a.nodes, P t
  opened : ∀ g ∈ a.opened, P g.opener ∧ ∀ t ∈ Node.tokensIn g.before, P t
  stop : a.stop = .start ∨ ∃ t, P t ∧ t.stop = a.stop

/-- Either all is well, or the error names the place of a token that satisfies `P`. -/
def Ensures {β : Type} (P : Token α → Prop) (good : β → Prop) : Except SyntaxError β → Prop
  | .ok b => good b
  | .error e => ∃ t, P t ∧ e.place = t.position

theorem Made.place (h : a.Made P) (here : P t) : Ensures P (Made P) (a.place ds t) := by
  unfold Assembly.place
  split
  · exact ⟨Node.forall_tokensIn_token.mpr ⟨here, h.nodes⟩, h.opened, h.stop⟩
  · exact ⟨nofun, List.forall_mem_cons.mpr ⟨⟨here, h.nodes⟩, h.opened⟩, h.stop⟩
  · split
    · exact ⟨t, here, rfl⟩
    · next g outer opened =>
      have opened := opened ▸ h.opened
      obtain ⟨⟨first, before⟩, others⟩ := List.forall_mem_cons.mp opened
      split
      · refine ⟨Node.forall_tokensIn_group.mpr ⟨first, ?_, here, before⟩, others, h.stop⟩
        exact fun u mem => h.nodes u (Node.mem_tokensIn_reverse.mp mem)
      · exact ⟨t, here, rfl⟩

theorem Made.push (h : a.Made P) (here : P t) : Ensures P (Made P) (a.push ds t) := by
  have stopped : ({ a with stop := t.stop } : Assembly α).Made P :=
    ⟨h.nodes, h.opened, .inr ⟨t, here, rfl⟩⟩
  unfold Assembly.push
  dsimp only
  split
  · exact stopped
  split
  · exact stopped
  · exact Made.place ⟨stopped.nodes, stopped.opened, stopped.stop⟩ here

theorem Made.pushAll {ts : List (Token α)} (h : a.Made P) (all : ∀ t ∈ ts, P t) :
    Ensures P (Made P) (ts.foldlM (Assembly.push ds) a) := by
  induction ts generalizing a with
  | nil => exact h
  | cons t ts ih =>
    obtain ⟨here, later⟩ := List.forall_mem_cons.mp all
    have pushed : Ensures P (Made P) (a.push ds t) := h.push here
    rw [List.foldlM_cons]
    generalize a.push ds t = r at pushed
    cases r with
    | error e => exact pushed
    | ok b => exact ih pushed later

theorem Made.finish (h : a.Made P) : Ensures P
    (fun tree : Tree α => (∀ t ∈ Node.tokensIn tree.nodes, P t) ∧
      (tree.stop = .start ∨ ∃ t, P t ∧ t.stop = tree.stop)) a.finish := by
  unfold Assembly.finish
  split
  · refine ⟨?_, h.stop⟩
    simp only [Node.mem_tokensIn_reverse]
    exact h.nodes
  · next g outer opened =>
    have opened := opened ▸ h.opened
    exact ⟨g.opener, (opened g (.head _)).1, rfl⟩

end Assembly

/-- A tree is made of the tokens assembled, and ends with one if it has any; an error names the
place of one. -/
theorem assemble_made (ds : Delimiters) (ts : List (Token α)) : Assembly.Ensures (· ∈ ts)
    (fun tree : Tree α => (∀ t ∈ Node.tokensIn tree.nodes, t ∈ ts) ∧
      (tree.stop = .start ∨ ∃ t ∈ ts, t.stop = tree.stop)) (assemble ds ts) := by
  have empty : ({} : Assembly α).Made (· ∈ ts) := ⟨nofun, nofun, .inl rfl⟩
  have pushed : Assembly.Ensures (· ∈ ts) (Assembly.Made (· ∈ ts))
      (ts.foldlM (Assembly.push ds) {}) := empty.pushAll fun _ => id
  rw [assemble_eq]
  generalize ts.foldlM (Assembly.push ds) {} = r at pushed
  cases r with
  | error e => exact pushed
  | ok a => exact pushed.finish

/-! ## Parsing -/

/-- A cursor whose tokens all stand in the text, and whose nodes end at a place in it. -/
structure Cursor.StandsIn (text : List Char) (c : Cursor) : Prop where
  valid : c.Valid
  tokens : ∀ t ∈ Node.tokensIn c.nodes, t.StandsIn text
  stop : c.stop.In text

namespace Cursor.StandsIn

variable {text : List Char} {c : Cursor}

theorem position_in (h : c.StandsIn text) : c.position.In text := by
  obtain ⟨valid, tokens, stop⟩ := h
  unfold Cursor.position
  split
  · exact stop
  · next t rest nodes =>
    have stands := (Node.forall_tokensIn_token.mp (nodes ▸ tokens)).1
    rcases valid with zero | ⟨t', rest', nodes', symbol, inside⟩
    · rw [zero]
      exact stands.position_in
    · cases nodes.symm.trans nodes'
      exact stands.split_in symbol inside
  · next opener closer children rest nodes =>
    exact (Node.forall_tokensIn_group.mp (nodes ▸ tokens)).1.position_in

theorem stable (text : List Char) : Cursor.Stable (Cursor.StandsIn text) where
  skipLines {c} h := by
    refine ⟨h.valid.skipLines, ?_, ?_⟩
    · unfold Cursor.skipLines
      split
      · intro t mem
        obtain ⟨n, mem, inside⟩ := Node.mem_tokensIn.mp mem
        have sublist := List.dropWhile_sublist (l := c.nodes) (·.isLine)
        exact h.tokens t (Node.mem_tokensIn.mpr ⟨n, sublist.subset mem, inside⟩)
      · exact h.tokens
    · unfold Cursor.skipLines
      split <;> exact h.stop
  next {c} h := by
    refine ⟨Cursor.Valid.next c, fun t mem => ?_, h.stop⟩
    obtain ⟨n, mem, inside⟩ := Node.mem_tokensIn.mp mem
    exact h.tokens t (Node.mem_tokensIn.mpr ⟨n, List.mem_of_mem_tail mem, inside⟩)
  split {c t n} h front symbol inside := by
    obtain ⟨rest, nodes⟩ := Cursor.nodes_of_token? front
    exact ⟨.inr ⟨t, rest, nodes, symbol, inside⟩, h.tokens, h.stop⟩
  inside {c opener closer children rest} h nodes := by
    obtain ⟨-, tokens, closes, -⟩ := Node.forall_tokensIn_group.mp (nodes ▸ h.tokens)
    exact ⟨.inl rfl, tokens, closes.position_in⟩

end Cursor.StandsIn

/-- What is noted at a cursor that stands in the text names a place in it. -/
theorem Furthest.note_in {text : List Char} {f : Furthest} {c : Cursor} {what : String}
    (here : c.StandsIn text) (noted : ∀ p ∈ f.place, p.In text) :
    ∀ p ∈ (f.note c what).place, p.In text := by
  have new : ∀ p ∈ some c.position, p.In text := by
    rintro _ ⟨⟩
    exact here.position_in
  unfold note
  split
  · exact new
  · next q same =>
    have old : ∀ p ∈ some q, p.In text := same ▸ noted
    split
    · exact noted
    split
    · split
      · exact noted
      · exact noted
    · exact new

theorem Furthest.error_in {text : List Char} {f : Furthest} (noted : ∀ p ∈ f.place, p.In text) :
    f.error.place.In text := by
  change (f.place.getD .start).In text
  cases place : f.place with
  | none => exact Position.start_in text
  | some p => exact noted p place

/-- An error of the parser names a place in the text that the tree stands in. -/
theorem Tree.program_error_in {text : List Char} {t : Tree Value} {e : ParseError}
    (stands : t.start.StandsIn text) (failed : t.program = .error e) : e.place.In text := by
  let Noted (f : Furthest) : Prop := ∀ p ∈ f.place, p.In text
  have nothing : Noted {} := fun _ => nofun
  have keeps : (Production.program.read t.start ({} : Furthest)).Keeps
      (Cursor.StandsIn text) Noted (·.place.In text) :=
    Production.program.parse_keeps (Cursor.StandsIn.stable text) Furthest.note_in
      (fun here => here.position_in) _ stands nothing
  rw [program_eq] at failed
  generalize Production.program.read t.start ({} : Furthest) = reply at keeps failed
  cases reply with
  | ok => cases failed
  | mismatch f =>
    cases failed
    exact Furthest.error_in keeps
  | fatal e' =>
    cases failed
    exact keeps
  | exhausted =>
    cases failed
    exact Furthest.error_in nothing

namespace Template

/-- The text of a template. -/
def chars (t : Template) : List Char := t.segments.flatMap String.toList

variable {t : Template}

theorem tree_error_in {e : SyntaxError} (failed : t.tree = .error e) : e.place.In t.chars := by
  unfold tree at failed
  generalize tokenized : tokenize t.segments t.values = r at failed
  cases r with
  | error e' =>
    cases failed
    exact tokenize_error tokenized
  | ok tokens =>
    change assemble brackets tokens = _ at failed
    have made := assemble_made brackets tokens
    rw [failed] at made
    obtain ⟨u, mem, place⟩ := made
    exact place ▸ (tokenize_standsIn tokenized u mem).position_in

theorem tree_standsIn {tree : Tree Value} (made : t.tree = .ok tree) :
    tree.start.StandsIn t.chars := by
  unfold Template.tree at made
  generalize tokenized : tokenize t.segments t.values = r at made
  cases r with
  | error => cases made
  | ok tokens =>
    change assemble brackets tokens = _ at made
    have stands := tokenize_standsIn tokenized
    have whole := assemble_made brackets tokens
    rw [made] at whole
    obtain ⟨all, stop⟩ := whole
    refine ⟨tree.start_valid, fun u mem => stands u (all u mem), ?_⟩
    change tree.stop.In t.chars
    rcases stop with none | ⟨u, mem, stop⟩
    · exact none ▸ Position.start_in _
    · exact stop ▸ (stands u mem).stop_in

/-- The place that an error of parsing a template names is the one past some front part of the
text of the template. -/
theorem parse_error_place {e : CompileError} {p : Position} (failed : t.parse = .error e)
    (placed : e.place? = some p) :
    ∃ before after, t.chars = before ++ after ∧ p = .past before := by
  unfold Template.parse at failed
  generalize made : t.tree = r at failed
  cases r with
  | error e' =>
    cases failed
    cases placed
    exact tree_error_in made
  | ok tree =>
    change tree.program.mapError CompileError.grammar = _ at failed
    generalize parsed : tree.program = r at failed
    cases r with
    | ok => cases failed
    | error e' =>
      cases failed
      cases placed
      exact Tree.program_error_in (tree_standsIn made) parsed

/-- An operand is missing within a run of operator characters. -/
theorem parse_error_place_split : ∃ e, (Template.ofText "start = a +- b").parse = .error e ∧
    e.place? = some ⟨11, 1, 12⟩ ∧ ∃ before after,
      (Template.ofText "start = a +- b").chars = before ++ after ∧
        ⟨11, 1, 12⟩ = Position.past before := by
  have place : (match (Template.ofText "start = a +- b").parse with
      | .error e => e.place?
      | .ok _ => none) = some ⟨11, 1, 12⟩ := by decide +kernel
  generalize failed : (Template.ofText "start = a +- b").parse = r at place
  cases r with
  | ok => cases place
  | error e => exact ⟨e, rfl, place, parse_error_place failed place⟩

end Template

end RuleMachine
