import RuleMachine.Proofs.Source.Assembling
import RuleMachine.Proofs.Source.Lexemes
import RuleMachine.Template

/-!
# Spelling

A text that is put together from lexemes is scanned lexeme by lexeme, and assembling its tokens
adds nodes to the group that is open (`Spells`). What nodes these are can be said without regard to
what comes before the text; of what comes after it, it matters only what character comes next.
-/

namespace RuleMachine

theorem ne_zero_of_firstMatch {text : List Char} {rules : List LexRule} {rule : LexRule} {n : Nat}
    (h : firstMatch text rules = some (rule, n)) : n ≠ 0 := by
  induction rules with
  | nil => cases h
  | cons r rules ih =>
    rw [firstMatch] at h
    split at h
    · exact ih h
    · next some =>
      cases h
      exact some

/-! ## Scanning -/

/-- Tokens in front of what was scanned. -/
def Scanned.prepend {α : Type} (tokens : List (Token α)) (s : Scanned α) : Scanned α :=
  { s with tokens := tokens ++ s.tokens }

theorem Scanned.prepend_append {α : Type} (ts us : List (Token α)) (s : Scanned α) :
    s.prepend (ts ++ us) = (s.prepend us).prepend ts := by
  simp only [prepend, List.append_assoc]

namespace Lexer

variable {α : Type} {l : Lexer} {shape : Shape} {rule : LexRule} {n : Nat} {text rest : List Char}

/-- Fuel for each character is enough. -/
theorem scanWith_enough {fuel : Nat} (fuel' : Nat) (enough : text.length ≤ fuel)
    (enough' : text.length ≤ fuel') :
    (scanWith fuel l text : Scanned α) = scanWith fuel' l text := by
  induction fuel generalizing fuel' l text with
  | zero =>
    obtain rfl := List.length_eq_zero_iff.mp (Nat.le_zero.mp enough)
    simp only [scanWith]
  | succ fuel ih =>
    cases text with
    | nil => simp only [scanWith]
    | cons c text =>
      obtain _ | fuel' := fuel'
      · cases enough'
      simp only [scanWith]
      split
      · rfl
      · next rule n first =>
        have pos := ne_zero_of_firstMatch first
        have shorter : ((c :: text).drop n).length ≤ text.length := by
          rw [List.length_drop, List.length_cons]
          omega
        rw [List.length_cons] at enough enough'
        rw [ih fuel' (by omega) (by omega)]

/-- The state after a text that is scanned as main text. -/
def pass (l : Lexer) (text : List Char) : Lexer :=
  { l with position := l.position.advance text }

theorem after_of_stays (stays : rule.next = none) (text : List Char) :
    l.after rule text = l.pass text := by
  simp [Lexer.after, pass, stays]

theorem pass_append (l : Lexer) (s t : List Char) : l.pass (s ++ t) = (l.pass s).pass t := by
  simp only [pass, Position.advance_append]

/-- A lexeme and what comes after it. -/
theorem scan_eq (first : firstMatch text l.mode.rules = some (rule, n)) :
    (l.scan text : Scanned α) = ((l.after rule (text.take n)).scan (text.drop n)).prepend
      [⟨rule.shape.kind (text.take n), String.ofList (text.take n), l.position⟩] := by
  have pos := ne_zero_of_firstMatch first
  cases text with
  | nil =>
    have none : firstMatch [] l.mode.rules = none := by cases l.mode <;> rfl
    cases none.symm.trans first
  | cons c rest =>
    have shorter : ((c :: rest).drop n).length ≤ rest.length := by
      rw [List.length_drop, List.length_cons]
      omega
    rw [scan, List.length_cons, scanWith, first]
    simp only
    rw [scanWith_enough ((c :: rest).drop n).length shorter (Nat.le_refl _)]
    rfl

theorem scan_append (first : firstMatch (text ++ rest) l.mode.rules = some (rule, text.length)) :
    (l.scan (text ++ rest) : Scanned α) = ((l.after rule text).scan rest).prepend
      [⟨rule.shape.kind text, String.ofList text, l.position⟩] := by
  have made := scan_eq (α := α) first
  rwa [List.take_left, List.drop_left] at made

theorem scan_lexeme (main : l.mode = .main) (lexes : Lexes shape text rest) :
    (l.scan (text ++ rest) : Scanned α) = ((l.pass text).scan rest).prepend
      [⟨shape.kind text, String.ofList text, l.position⟩] := by
  obtain ⟨rule, rfl, stays, first⟩ := lexes
  rw [← after_of_stays stays]
  exact scan_append (main ▸ first)

end Lexer

/-! ## Assembling -/

namespace Bracket

def opens (b : Bracket) (p : Position) : Token Value := ⟨.punctuation, b.opener, p⟩

def closes (b : Bracket) (p : Position) : Token Value := ⟨.punctuation, b.closer, p⟩

variable (b : Bracket) (p : Position) {a : Assembly Value}

theorem push_opens (a : Assembly Value) : a.push brackets (b.opens p) =
    .ok { nodes := [], opened := ⟨b.opens p, a.nodes⟩ :: a.opened, stop := (b.opens p).stop } := by
  cases b <;> rfl

theorem push_closes {q : Position} {before : List (Node Value)} {outer : List (OpenGroup Value)}
    (opened : a.opened = ⟨b.opens q, before⟩ :: outer) : a.push brackets (b.closes p) =
      .ok { nodes := .group (b.opens q) (b.closes p) a.nodes.reverse :: before, opened := outer
            stop := (b.closes p).stop } := by
  have role : brackets.role? (b.closes p) = some (.closes b.opener) := by cases b <;> rfl
  have kept : (b.closes p).isIgnored = false ∧ (b.closes p).isLine = false := ⟨rfl, rfl⟩
  simp [Assembly.push, Assembly.place, kept, role, opened, opens]

end Bracket

/-- Taken in by the assembler in whatever state, the tokens add the nodes to the group that is open.
They end with no line break. -/
def Adds (tokens : List (Token Value)) (ns : List (Node Value)) : Prop :=
  ∀ a : Assembly Value, ∃ (line : Bool) (stop : Position),
    tokens.foldlM (Assembly.push brackets) a =
      .ok { a with nodes := ns.reverse ++ a.nodes, afterLine := line, stop } ∧
    (a.afterLine = false → line = false)

namespace Adds

variable {ts us : List (Token Value)} {ns ms : List (Node Value)} {t : Token Value}

theorem nil : Adds [] [] := fun a => ⟨a.afterLine, a.stop, rfl, id⟩

theorem append (h : Adds ts ns) (h' : Adds us ms) : Adds (ts ++ us) (ns ++ ms) := by
  intro a
  obtain ⟨line, stop, added, kept⟩ := h a
  obtain ⟨line', stop', added', kept'⟩ :=
    h' { a with nodes := ns.reverse ++ a.nodes, afterLine := line, stop }
  refine ⟨line', stop', ?_, kept' ∘ kept⟩
  rw [List.foldlM_append, added, List.reverse_append, List.append_assoc]
  exact added'

theorem ignored (ignored : t.isIgnored) : Adds [t] [] := by
  intro a
  refine ⟨a.afterLine, t.stop, ?_, id⟩
  simp [Assembly.push, ignored]

theorem token (kept : t.isIgnored = false) (inLine : t.isLine = false)
    (plain : brackets.role? t = none) : Adds [t] [.token t] := by
  intro a
  refine ⟨false, t.stop, ?_, fun _ => rfl⟩
  simp [Assembly.push, Assembly.place, kept, inLine, plain]

theorem group (b : Bracket) (p q : Position) (h : Adds ts ns) :
    Adds (b.opens p :: ts ++ [b.closes q]) [.group (b.opens p) (b.closes q) ns] := by
  intro a
  obtain ⟨line, stop, added, -⟩ := h
    { nodes := [], opened := ⟨b.opens p, a.nodes⟩ :: a.opened, stop := (b.opens p).stop }
  refine ⟨false, (b.closes q).stop, ?_, fun _ => rfl⟩
  rw [List.cons_append, List.foldlM_cons, b.push_opens]
  change List.foldlM (Assembly.push brackets) _ _ = _
  rw [List.foldlM_append, added]
  change List.foldlM (Assembly.push brackets) _ _ = _
  rw [List.foldlM_cons, b.push_closes _ rfl]
  simp

end Adds

/-! ## Texts -/

/-- After whatever main text, and before whatever `next` allows, the text adds nodes that `P`
describes. -/
def Spells (text : String) (next : List Char → Prop) (P : List (Node Value) → Prop) : Prop :=
  ∀ ⦃l : Lexer⦄ ⦃rest : List Char⦄, l.mode = .main → next rest →
    ∃ tokens ns, P ns ∧ Adds tokens ns ∧
      l.scan (text.toList ++ rest) = ((l.pass text.toList).scan rest).prepend tokens

/-- What may come right after a blank. -/
def Solid (rest : List Char) : Prop := ∀ c ∈ rest.head?, Lexeme.isSpace c = false

namespace Spells

variable {text text' : String} {next next' : List Char → Prop} {P Q R : List (Node Value) → Prop}

theorem imp (h : Spells text next P) (widens : ∀ ns, P ns → Q ns) : Spells text next Q := by
  intro l rest main allowed
  obtain ⟨tokens, ns, spelled, scanned⟩ := h main allowed
  exact ⟨tokens, ns, widens ns spelled, scanned⟩

theorem narrow (h : Spells text next P) (narrows : ∀ rest, next' rest → next rest) :
    Spells text next' P :=
  fun _ rest main allowed => h main (narrows rest allowed)

theorem empty (spelled : P []) : Spells "" next P :=
  fun _ _ _ _ => ⟨[], [], spelled, .nil, rfl⟩

theorem append (h : Spells text next P) (h' : Spells text' next' Q)
    (joins : ∀ rest, next' rest → next (text'.toList ++ rest)) :
    Spells (text ++ text') next' fun ns => ∃ ms ms', ns = ms ++ ms' ∧ P ms ∧ Q ms' := by
  intro l rest main allowed
  obtain ⟨ts, ns, spelled, adds, scanned⟩ := h main (joins rest allowed)
  obtain ⟨us, ms, spelled', adds', scanned'⟩ := h' (l := l.pass text.toList) main allowed
  refine ⟨ts ++ us, ns ++ ms, ⟨ns, ms, rfl, spelled, spelled'⟩, adds.append adds', ?_⟩
  rw [String.toList_append, List.append_assoc, scanned, scanned', Scanned.prepend_append,
    Lexer.pass_append]

theorem token (shape : Shape) (lexes : ∀ rest, next rest → Lexes shape text.toList rest)
    (spelled : ∀ p, P [.token ⟨shape.kind text.toList, text, p⟩])
    (adds : ∀ p, Adds [⟨shape.kind text.toList, text, p⟩]
      [.token ⟨shape.kind text.toList, text, p⟩]) : Spells text next P := by
  intro l rest main allowed
  refine ⟨_, _, spelled l.position, adds l.position, ?_⟩
  rw [Lexer.scan_lexeme main (lexes rest allowed), String.ofList_toList]

theorem space : Spells " " Solid (· = []) := by
  intro l rest main solid
  refine ⟨_, [], rfl, .ignored ?_, Lexer.scan_lexeme main (.space solid)⟩
  rfl

theorem group (b : Bracket) (h : Spells text next P)
    (closes : ∀ rest, next (b.closer.toList ++ rest))
    (whole : ∀ p q ns, P ns → Q [.group (b.opens p) (b.closes q) ns]) :
    Spells (b.opener ++ text ++ b.closer) (fun _ => True) Q := by
  intro l rest main _
  have opener (rest : List Char) : Lexes .punctuation b.opener.toList rest := by
    cases b <;> exact .bracket (by decide) rest
  have closer (rest : List Char) : Lexes .punctuation b.closer.toList rest := by
    cases b <;> exact .bracket (by decide) rest
  obtain ⟨ts, ns, spelled, adds, scanned⟩ := h (l := l.pass b.opener.toList) main (closes rest)
  let past := (l.pass b.opener.toList).pass text.toList
  refine ⟨b.opens l.position :: ts ++ [b.closes past.position], _,
    whole l.position past.position ns spelled, adds.group b _ _, ?_⟩
  rw [String.toList_append, String.toList_append, List.append_assoc, List.append_assoc,
    Lexer.scan_lexeme main (opener _), scanned,
    Lexer.scan_lexeme (l := (l.pass b.opener.toList).pass text.toList) main (closer _)]
  simp only [← Scanned.prepend_append, Lexer.pass_append, String.ofList_toList]
  rfl

end Spells

/-! ## Sources of two lines -/

/-- The tree of the tokens of two lines. -/
theorem Adds.assemble_lines {ts us : List (Token Value)} {ns ms : List (Node Value)}
    (h : Adds ts ns) (h' : Adds us ms) (text : String) (p : Position) :
    ∃ stop, assemble brackets (ts ++ ⟨.line, text, p⟩ :: us) =
      .ok ⟨ns ++ .token ⟨.line, text, p⟩ :: ms, stop⟩ := by
  let line : Token Value := ⟨.line, text, p⟩
  obtain ⟨_, stop, added, kept⟩ := h {}
  obtain rfl := kept rfl
  have pushed : Assembly.push brackets { nodes := ns.reverse, stop } line =
      .ok { nodes := .token line :: ns.reverse, afterLine := true, stop := line.stop } := rfl
  obtain ⟨afterLine, stop', added', -⟩ :=
    h' { nodes := .token line :: ns.reverse, afterLine := true, stop := line.stop }
  have all : (ts ++ line :: us).foldlM (Assembly.push brackets) {} =
      .ok { nodes := ms.reverse ++ .token line :: ns.reverse, afterLine, stop := stop' } := by
    rw [List.foldlM_append, added, List.append_nil]
    change ((line :: us).foldlM (Assembly.push brackets) { nodes := ns.reverse, stop }) = _
    rw [List.foldlM_cons, pushed]
    exact added'
  refine ⟨stop', ?_⟩
  rw [assemble_eq, all]
  simp [bind, Except.bind, Assembly.finish, line]

/-- The tokens of a source in one segment that ends in main text. -/
theorem tokenize_of_scan {α : Type} {text : String} {tokens : List (Token α)} {l : Lexer}
    (scanned : ({} : Lexer).scan text.toList = ⟨tokens, l, none⟩) (main : l.mode = .main) :
    tokenize [text] [] = .ok tokens := by
  simp [tokenize, Lexer.scanSegments, scanned, Lexer.finish, main, Except.map]

/-- The tree of two texts with a line break between them. -/
theorem Template.tree_of_lines {front back : String} {next next' : List Char → Prop}
    {P Q : List (Node Value) → Prop} (h : Spells front next P) (h' : Spells back next' Q)
    (ends : ∀ rest, next ('\n' :: rest)) (ends' : next' [])
    (solid : ∀ c ∈ back.toList.head?, Text.isBlank c = false) :
    ∃ tree line ns ms, (Template.ofText (front ++ "\n" ++ back)).tree = .ok tree ∧
      tree.nodes = ns ++ .token ⟨.line, "\n", line⟩ :: ms ∧ P ns ∧ Q ms := by
  let l := ({} : Lexer).pass front.toList
  obtain ⟨ts, ns, spelled, adds, scanned⟩ := h (l := {}) rfl (ends back.toList)
  obtain ⟨us, ms, spelled', adds', scanned'⟩ := h' (l := l.pass ['\n']) rfl ends'
  have broken : (l.scan ('\n' :: back.toList) : Scanned Value) =
      ((l.pass ['\n']).scan back.toList).prepend [⟨.line, "\n", l.position⟩] :=
    Lexer.scan_lexeme rfl (.line solid)
  have tokens : tokenize [front ++ "\n" ++ back] [] =
      .ok (ts ++ ⟨.line, "\n", l.position⟩ :: us) := by
    refine tokenize_of_scan (l := (l.pass ['\n']).pass back.toList) ?_ rfl
    have text : (front ++ "\n" ++ back).toList = front.toList ++ '\n' :: back.toList := by
      simp [String.toList_append]
    rw [List.append_nil] at scanned'
    rw [text, scanned, broken, scanned']
    simp [Scanned.prepend, Lexer.scan, Lexer.scanWith]
  obtain ⟨stop, assembled⟩ := adds.assemble_lines adds' "\n" l.position
  refine ⟨⟨ns ++ .token ⟨.line, "\n", l.position⟩ :: ms, stop⟩, l.position, ns, ms, ?_, rfl,
    spelled, spelled'⟩
  change (tokenize [front ++ "\n" ++ back] [] >>= _) = _
  rw [tokens]
  exact assembled

end RuleMachine
