import RuleMachine.Proofs.Grammar.Kept
import RuleMachine.Proofs.Grammar.Unplaced
import RuleMachine.Proofs.Lockstep
import RuleMachine.Proofs.Terms.Ends
import RuleMachine.Proofs.Terms.RoundTrip

/-!
# Comparisons as guards

A condition that begins with a host function, or with a group in round brackets that holds a
condition, is taken to be that node alone (`Overtaken`). So a comparison whose left side begins in
this way cannot be the guard of a rule (`cond_overtaken`); every other comparison can
(`cond_compare`), and the guard holds when the comparison does.

An expression in round brackets is a condition itself, so brackets at the front of the left side
overtake the comparison, unless what they hold is overtaken in its turn (`overtaken_group`).
-/

namespace RuleMachine

open Plain

/-! ## Conditions of one node -/

/-- The conditions that are tried first: a group that holds a condition, and a host function. -/
def nodeCond : Phrase Production Cond :=
  .orElse (.group .round (.production .orCond)) (.call <$> .terminal .callable)

/-- The other conditions. -/
def exprCond : Phrase Production Cond :=
  .orElse (.compare <$> .production .expr <*> .production .comparison <*> .production .expr)
    (.truthy <$> .production .expr)

theorem nodeCond_single : Single nodeCond :=
  .orElse (.group _ _) (.map _ (.terminal rfl))

theorem cond_eq {c : Cursor} (valid : c.Valid) : Production.cond.read c () =
    Parse.either (nodeCond.parse Production.read) (fun a c f => .ok a c f)
      (exprCond.parse Production.read) c () := by
  rw [Production.cond.read_eq valid]
  change Parse.either ((Phrase.group .round (.production .orCond)).parse Production.read) _
    (Parse.either ((Cond.call <$> Phrase.terminal .callable).parse Production.read) _
      (exprCond.parse Production.read)) c () = _
  simp only [nodeCond, Phrase.orElse, Phrase.parse_choose, Parse.either]
  cases (Phrase.group .round (.production .orCond)).parse Production.read c () with
  | mismatch =>
    dsimp only
    cases (Cond.call <$> Phrase.terminal .callable).parse Production.read c () <;> rfl
  | ok | fatal | exhausted => rfl

/-- A host function, or a group in round brackets that holds a condition. -/
def Node.IsCond : Node Value → Prop
  | .token t => ∃ f, t.kind = .literal (.injected (.callable f))
  | .group opener closer inside => opener.text = Bracket.round.opener ∧ ∃ c d,
      Production.orCond.read { nodes := inside, stop := closer.position } () = .ok c d () ∧ d.AtEnd

/-- The first of the nodes, line breaks apart, is a condition by itself. -/
def Overtaken (ns : List (Node Value)) : Prop :=
  ∃ n ms, ns.dropWhile (·.isLine) = n :: ms ∧ n.IsCond

section

variable {ns : List (Node Value)} {stop : Position}

theorem Parse.group_ok {α : Type} {b : Bracket} {p : Parse Unit α} {opener closer : Token Value}
    {inside : List (Node Value)} :
    (∃ a d, group b p { nodes := .group opener closer inside :: ns, stop } () = .ok a d ()) ↔
      opener.text = b.opener ∧
        ∃ a d, p { nodes := inside, stop := closer.position } () = .ok a d () ∧ d.AtEnd := by
  by_cases same : opener.text = b.opener
  · cases reply : p { nodes := inside, stop := closer.position } () with
    | ok a d f =>
      cases f
      by_cases atEnd : d.skipLines.nodes = []
      · simp [Parse.group, Parse.andThen, finish, Cursor.AtEnd, same, reply, atEnd]
      · simp [Parse.group, Parse.andThen, finish, Cursor.AtEnd, same, reply, atEnd]
    | mismatch | fatal | exhausted => simp [Parse.group, Parse.andThen, same, reply]
  · simp [Parse.group, same]

/-- These conditions fit where the first node is one. -/
theorem nodeCond_ok :
    (∃ c d, nodeCond.parse Production.read { nodes := ns, stop } () = .ok c d ()) ↔
      Overtaken ns := by
  rw [← nodeCond_single.passes.skipLines]
  unfold Overtaken
  change (∃ c d, nodeCond.parse Production.read
    { nodes := ns.dropWhile (·.isLine), stop } () = .ok c d ()) ↔ _
  cases front : ns.dropWhile (·.isLine) with
  | nil => simp [nodeCond_single.nothing]
  | cons n ms =>
    have solid : ¬ n.isLine := by
      have first := List.head_dropWhile_not (fun n : Node Value => n.isLine) (l := ns)
        (by simp [front])
      simpa [front] using first
    have only : (∃ m ms', n :: ms = m :: ms' ∧ m.IsCond) ↔ n.IsCond := by simp
    rw [only]
    cases n with
    | token t =>
      obtain ⟨kind, text, place⟩ := t
      cases kind with
      | line => exact absurd rfl solid
      | literal l =>
        rcases l with s | x | v
        · simp [nodeCond, Phrase.orElse, Node.IsCond]
        · simp [nodeCond, Phrase.orElse, Node.IsCond]
        · cases v <;> simp [nodeCond, Phrase.orElse, Node.IsCond]
      | ignored | identifier | punctuation | operator =>
        simp [nodeCond, Phrase.orElse, Node.IsCond]
    | group opener closer inside =>
      have group : (∃ a d, Parse.group .round Production.orCond.read
          { nodes := .group opener closer inside :: ms, stop } () = .ok a d ()) ↔ _ :=
        Parse.group_ok
      rw [Node.IsCond, ← group, nodeCond, Phrase.orElse, Phrase.parse_choose, Parse.either,
        Phrase.parse_group, Phrase.parse_production]
      cases Parse.group .round Production.orCond.read
        { nodes := .group opener closer inside :: ms, stop } () with
      | mismatch f =>
        cases f
        simp [Parse.terminal, Parse.terminal?, Cursor.token?]
      | ok | fatal | exhausted => rfl

/-- Where no node is taken for a condition, it does not fit. -/
theorem nodeCond_mismatch (whole : ¬ Overtaken ns) :
    nodeCond.parse Production.read { nodes := ns, stop } () = .mismatch () := by
  -- Whatever else it came to, the whole condition would come to as well.
  have lasts := Production.cond.read_lasts (c := { nodes := ns, stop }) (.inl rfl) ()
  have harmless := Production.cond.read_not_fatal rfl { nodes := ns, stop } ()
  rw [cond_eq (.inl rfl), Parse.either] at lasts harmless
  cases reply : nodeCond.parse Production.read { nodes := ns, stop } () with
  | ok c d => exact absurd (nodeCond_ok.mp ⟨c, d, reply⟩) whole
  | mismatch => rfl
  | fatal e => exact absurd (by rw [reply]) (harmless e)
  | exhausted => exact absurd (by rw [reply]) lasts

end

/-! ## Comparisons -/

/-- Alternatives that do not fit are passed. -/
theorem Phrase.oneOf_pass {α : Type} (before : List (Phrase Production α))
    (p : Phrase Production α) (after : List (Phrase Production α)) {c : Cursor}
    (none : ∀ q ∈ before, q.parse Production.read c () = .mismatch ()) :
    (oneOf (before ++ p :: after)).parse Production.read c () =
      (oneOf (p :: after)).parse Production.read c () := by
  induction before with
  | nil => rfl
  | cons q qs ih =>
    obtain ⟨here, there⟩ := List.forall_mem_cons.mp none
    rw [← ih there]
    cases qs with
    | nil | cons =>
      change Parse.either (q.parse Production.read) _ _ c () = _
      rw [Parse.either, here]
      rfl

namespace Comparison

/-- The nodes of a comparison operator. -/
def nodes (p q : Position) : Comparison → List (Node Value)
  | notIn => [.token ⟨.identifier, "not", p⟩, .token ⟨.identifier, "in", q⟩]
  | isNot => [.token ⟨.identifier, "is", p⟩, .token ⟨.identifier, "not", q⟩]
  | isIn => [.token ⟨.identifier, "in", p⟩]
  | is => [.token ⟨.identifier, "is", p⟩]
  | op => [.token ⟨.operator, op.symbol, p⟩]

theorem symbol_notMem (op : Comparison) : op.symbol ∉ Operator.symbols := by
  cases op <;> decide

/-- The comparisons whose symbol is one token, in the order in which they are tried. -/
def symbols : List Comparison := [eq, ne, ge, gt, le, lt]

def symbolic (op : Comparison) : Phrase Production Comparison := Production.operator op.symbol op

variable (p q stop : Position) {rest : List (Node Value)}

/-- No expression goes on with a comparison. -/
theorem bars (op : Comparison) : Bars (op.nodes p q ++ rest) := by
  cases op with
  | isIn | notIn | is | isNot => exact .of_word (by decide)
  | eq | ne | gt | ge | lt | le => exact .of_operator (symbol_notMem _)

/-- Nor does a symbol that no comparison begins with. -/
theorem symbol_mismatch (op : Comparison) {text : String} {p q stop : Position}
    (other : ∀ o ∈ symbols, ¬ text.toList <+: o.symbol.toList) :
    Parse.terminal (.symbol text) { nodes := op.nodes p q ++ rest, stop } () = .mismatch () := by
  cases op with
  | isIn | notIn | is | isNot => simp [nodes]
  | eq => simp [nodes, other eq (by decide)]
  | ne => simp [nodes, other ne (by decide)]
  | gt => simp [nodes, other gt (by decide)]
  | ge => simp [nodes, other ge (by decide)]
  | lt => simp [nodes, other lt (by decide)]
  | le => simp [nodes, other le (by decide)]

theorem symbolic_ok (op : Comparison) : op.symbolic.parse Production.read
    { nodes := .token ⟨.operator, op.symbol, p⟩ :: rest, stop } () =
      .ok op { nodes := rest, stop } () := by
  simp [symbolic]

theorem symbolic_other {op : Comparison} {text : String}
    (other : ¬ op.symbol.toList <+: text.toList) : op.symbolic.parse Production.read
      { nodes := .token ⟨.operator, text, p⟩ :: rest, stop } () = .mismatch () := by
  simp [symbolic, other]

/-- The comparisons that are words. -/
def worded : List (Phrase Production Comparison) := [
  Production.constant "in" isIn,
  (fun _ => notIn) <$> (.word "not" *> .word "in"),
  (fun negated => if negated.isSome then isNot else is) <$>
    (.word "is" *> .optional (.word "not"))]

theorem phrase_eq : Production.comparison.phrase = .oneOf (symbols.map symbolic ++ worded) := rfl

/-- A comparison is tried before any whose symbol its own goes on from. -/
theorem read_symbol {op : Comparison} (before after : List Comparison)
    (split : symbols = before ++ op :: after)
    (first : ∀ o ∈ before, ¬ o.symbol.toList <+: op.symbol.toList) :
    Production.comparison.read { nodes := .token ⟨.operator, op.symbol, p⟩ :: rest, stop } () =
      .ok op { nodes := rest, stop } () := by
  rw [Production.read_cons, phrase_eq, split, List.map_append, List.map_cons, List.append_assoc,
    List.cons_append, Phrase.oneOf_pass]
  · have ok : op.symbolic.parse Production.read
        { nodes := .token ⟨.operator, op.symbol, p⟩ :: rest, stop } () =
          .ok op { nodes := rest, stop } () := symbolic_ok p stop op
    cases after with
    | nil | cons =>
      change Parse.either (op.symbolic.parse Production.read) _ _ _ () = _
      rw [Parse.either, ok]
      rfl
  · intro o mem
    obtain ⟨o, mem', rfl⟩ := List.mem_map.mp mem
    exact symbolic_other p stop (first o mem')

/-- No word is a symbol. -/
theorem read_word (text : String) :
    Production.comparison.read { nodes := .token ⟨.identifier, text, p⟩ :: rest, stop } () =
      (Phrase.oneOf worded).parse Production.read
        { nodes := .token ⟨.identifier, text, p⟩ :: rest, stop } () := by
  rw [Production.read_cons, phrase_eq, worded, Phrase.oneOf_pass]
  intro o mem
  obtain ⟨o, -, rfl⟩ := List.mem_map.mp mem
  simp [symbolic]

theorem passes : (Phrase.production Production.comparison).Passes := by
  refine .production (phrase_eq ▸ .oneOf fun o mem => ?_)
  rcases List.mem_append.mp mem with symbol | word
  · obtain ⟨op, -, rfl⟩ := List.mem_map.mp symbol
    exact passes_operator _ _
  · simp only [worded, List.mem_cons, List.not_mem_nil, or_false] at word
    rcases word with rfl | rfl | rfl
    · exact .map _ (.terminal _)
    · exact .map _ (.seq (.map _ (.terminal _)) _)
    · exact .map _ (.seq (.map _ (.terminal _)) _)

theorem read_nodes (op : Comparison)
    (plain : Parse.terminal (.word "not") { nodes := rest, stop } () = .mismatch ()) :
    Production.comparison.read { nodes := op.nodes p q ++ rest, stop } () =
      .ok op { nodes := rest, stop } () := by
  cases op with
  | eq => exact read_symbol p stop [] [ne, ge, gt, le, lt] rfl (by decide)
  | ne => exact read_symbol p stop [eq] [ge, gt, le, lt] rfl (by decide)
  | ge => exact read_symbol p stop [eq, ne] [gt, le, lt] rfl (by decide)
  | gt => exact read_symbol p stop [eq, ne, ge] [le, lt] rfl (by decide)
  | le => exact read_symbol p stop [eq, ne, ge, gt] [lt] rfl (by decide)
  | lt => exact read_symbol p stop [eq, ne, ge, gt, le] [] rfl (by decide)
  | isIn | notIn | is | isNot =>
    rw [nodes, List.cons_append, read_word]
    simp [worded, plain]

end Comparison

/-- No symbol is among line breaks. -/
theorem Parse.symbol_lines {lines : List (Node Value)} (all : ∀ n ∈ lines, Node.isLine n)
    (text : String) (stop : Position) :
    terminal (.symbol text) { nodes := lines, stop } () = .mismatch () := by
  have passes : (Phrase.symbol text).Passes := .terminal _
  have none := passes.lines all [] stop
  rw [List.append_nil] at none
  exact none.trans (terminal_nil _)

namespace ReadsAlone

variable {ns more : List (Node Value)} {x : Expr} (h : ReadsAlone ns x)
include h

/-- An expression begins with none of the nodes that it may end before. -/
theorem not_bars : ¬ Bars (ns.dropWhile (·.isLine)) := by
  intro bars
  obtain ⟨stop, d, read, -⟩ := h
  have none : (Phrase.production Production.operand).parse Production.read
      { nodes := ns, stop } () = .mismatch () := by
    rw [← Single.operand.passes.skipLines]
    exact bars.operand stop
  rw [expr_mismatch (.inl rfl) none] at read
  cases read

theorem not_atEnd (stop : Position) : ¬ Cursor.AtEnd { nodes := ns, stop } := by
  intro atEnd
  have ended : ns.dropWhile (·.isLine) = [] := atEnd
  exact h.not_bars (ended ▸ .nil)

/-- No expression begins with the word `not`. -/
theorem not_negated (stop : Position) :
    Parse.terminal (.word "not") { nodes := ns ++ more, stop } () = .mismatch () := by
  have steady : Parse.terminal (.word "not") { nodes := ns ++ more, stop } () =
      (Parse.terminal (.word "not") { nodes := ns, stop } ()).extend more stop :=
    Parse.SteadyAt.terminal (.inl rfl) (h.not_atEnd stop) (.word "not") stop
  have refused : Parse.terminal? (Cursor.skipLines { nodes := ns, stop }) (.word "not") = none := by
    rw [Parse.terminal?_eq (.inl rfl) rfl, Option.map_eq_none_iff, Option.bind_eq_none_iff]
    rintro ⟨kind, text, place⟩ front
    by_contra taken
    obtain ⟨rest, nodes⟩ := Cursor.nodes_of_token? front
    have word : kind = .identifier ∧ text = "not" := by
      cases kind with
      | identifier => simpa [Terminal.value?] using taken
      | line | ignored | punctuation | operator | literal => simp [Terminal.value?] at taken
    obtain ⟨rfl, rfl⟩ := word
    have begins : ns.dropWhile (·.isLine) = .token ⟨.identifier, "not", place⟩ :: rest := nodes
    exact h.not_bars (begins ▸ .of_word (by decide))
  rw [steady, Parse.terminal, refused]
  rfl

/-- What comes after an expression does not matter to its first node. -/
theorem nodeCond_append (stop : Position) :
    nodeCond.parse Production.read { nodes := ns ++ more, stop } () =
      (nodeCond.parse Production.read { nodes := ns, stop } ()).extend more stop :=
  nodeCond_single.steadyAt (.inl rfl) (h.not_atEnd stop) stop

/-- After its first node an expression does not go on with a symbol that no operator begins with. -/
theorem afterFirst_mismatch {text : String}
    (other : ∀ o ∈ Operator.symbols, ¬ text.toList <+: o.toList) (stop : Position) :
    Parse.terminal (.symbol text) { nodes := afterFirst ns, stop } () = .mismatch () := by
  cases reply : Parse.terminal (.symbol text) { nodes := afterFirst ns, stop } () with
  | ok _ c =>
    -- Before the symbol the expression ends, so that only line breaks are left.
    have all := h.ends (.of_terminal other reply)
    exact reply.symm.trans (Parse.symbol_lines all text stop)
  | mismatch => rfl
  | fatal | exhausted => exact absurd reply (by unfold Parse.terminal; split <;> nofun)

/-- Nor does it with a comparison after it. -/
theorem afterFirst_compared {op : Comparison} {p q : Position} {text : String}
    (other : ∀ o ∈ Operator.symbols, ¬ text.toList <+: o.toList)
    (none : ∀ stop, Parse.terminal (.symbol text) { nodes := op.nodes p q ++ more, stop } () =
      .mismatch ()) (stop : Position) :
    Parse.terminal (.symbol text)
      { nodes := afterFirst ns ++ (op.nodes p q ++ more), stop } () = .mismatch () := by
  have passes : (Phrase.symbol text).Passes := .terminal _
  by_cases atEnd : Cursor.AtEnd { nodes := afterFirst ns, stop }
  · exact (passes.lines (List.dropWhile_eq_nil_iff.mp atEnd) _ stop).trans (none stop)
  · have steady : Parse.terminal (.symbol text)
        { nodes := afterFirst ns ++ (op.nodes p q ++ more), stop } () =
          (Parse.terminal (.symbol text) { nodes := afterFirst ns, stop } ()).extend
            (op.nodes p q ++ more) stop := Parse.SteadyAt.terminal (.inl rfl) atEnd _ stop
    rw [steady, h.afterFirst_mismatch other]
    rfl

end ReadsAlone

/-! ## Guards -/

section

variable {l r rest : List (Node Value)} {x y : Expr} (hl : ReadsAlone l x)
  (op : Comparison) (p q stop : Position)
include hl

/-- Where the first node is no condition, the comparison is the condition. -/
theorem cond_compare (hr : ReadsAlone r y) (bars : Bars rest) (whole : ¬ Overtaken l) :
    ∃ lines, (∀ n ∈ lines, Node.isLine n) ∧
      Production.cond.read { nodes := l ++ (op.nodes p q ++ (r ++ rest)), stop } () =
        .ok (.compare x op y) { nodes := lines ++ rest, stop } () := by
  have compares : Bars (op.nodes p q ++ (r ++ rest)) := op.bars p q
  obtain ⟨between, breaks, left⟩ := hl.followed compares stop
  obtain ⟨lines, all, right⟩ := hr.followed bars stop
  refine ⟨lines, all, ?_⟩
  have first : nodeCond.parse Production.read
      { nodes := l ++ (op.nodes p q ++ (r ++ rest)), stop } () = .mismatch () := by
    rw [hl.nodeCond_append stop, nodeCond_mismatch whole]
    rfl
  have compared : Production.comparison.read
      { nodes := between ++ (op.nodes p q ++ (r ++ rest)), stop } () =
        .ok op { nodes := r ++ rest, stop } () := by
    have passed := Comparison.passes.lines breaks (op.nodes p q ++ (r ++ rest)) stop
    rw [Phrase.parse_production] at passed
    rw [passed]
    exact op.read_nodes p q stop (hr.not_negated stop)
  have second : exprCond.parse Production.read
      { nodes := l ++ (op.nodes p q ++ (r ++ rest)), stop } () =
        .ok (.compare x op y) { nodes := lines ++ rest, stop } () := by
    simp only [exprCond, Phrase.orElse, Phrase.map_eq, Phrase.seq_eq, Phrase.parse_choose,
      Phrase.parse_seq, Phrase.parse_pure, Phrase.parse_production, Parse.either, Parse.andThen,
      left, compared, right]
    rfl
  rw [cond_eq (.inl rfl), Parse.either, first]
  exact second

/-- Before what no comparison begins with, it is the condition that the expression is true. -/
theorem cond_truthy (bars : Bars rest) (whole : ¬ Overtaken l)
    (none : Production.comparison.read { nodes := rest, stop } () = .mismatch ()) :
    ∃ lines, (∀ n ∈ lines, Node.isLine n) ∧
      Production.cond.read { nodes := l ++ rest, stop } () =
        .ok (.truthy x) { nodes := lines ++ rest, stop } () := by
  obtain ⟨lines, all, read⟩ := hl.followed bars stop
  refine ⟨lines, all, ?_⟩
  have first : nodeCond.parse Production.read { nodes := l ++ rest, stop } () = .mismatch () := by
    rw [hl.nodeCond_append stop, nodeCond_mismatch whole]
    rfl
  have compared := Comparison.passes.lines all rest stop
  rw [Phrase.parse_production, none] at compared
  rw [cond_eq (.inl rfl), Parse.either, first]
  simp only [exprCond, Phrase.orElse, Phrase.map_eq, Phrase.seq_eq, Phrase.parse_choose,
    Phrase.parse_seq, Phrase.parse_pure, Phrase.parse_production, Parse.either, Parse.andThen,
    read, compared]

/-- Where it is one, what comes after it is left. -/
theorem cond_overtaken (overtaken : Overtaken l) (more : List (Node Value)) : ∃ c,
    Production.cond.read { nodes := l ++ more, stop } () =
      .ok c { nodes := afterFirst l ++ more, stop } () := by
  obtain ⟨c, d, first⟩ := nodeCond_ok.mpr overtaken
  obtain rfl := nodeCond_single.next (.inl rfl) first
  refine ⟨c, ?_⟩
  rw [cond_eq (.inl rfl), Parse.either, hl.nodeCond_append stop, first]
  rfl

end

/-! ## Expressions that begin with a condition -/

theorem andCond_of_cond {c d : Cursor} (valid : c.Valid) {a : Cond}
    (read : Production.cond.read c () = .ok a d ())
    (both : Parse.terminal (.symbol "&") d () = .mismatch ()) :
    Production.andCond.read c () = .ok a d () := by
  have valid' := (Production.cond.read_goes valid read).1
  rw [Production.read_eq _ valid]
  simp (disch := first | decide | assumption) [Phrase.separatedBy, read, both,
    Production.combined]

theorem orCond_of_cond {c d : Cursor} (valid : c.Valid) {a : Cond}
    (read : Production.cond.read c () = .ok a d ())
    (both : Parse.terminal (.symbol "&") d () = .mismatch ())
    (bar : Parse.terminal (.symbol "|") d () = .mismatch ()) :
    Production.orCond.read c () = .ok a d () := by
  have valid' := (Production.cond.read_goes valid read).1
  have conds := andCond_of_cond valid read both
  rw [Production.read_eq _ valid]
  simp (disch := first | decide | assumption) [Phrase.separatedBy, conds, bar,
    Production.combined]

namespace ReadsAlone

variable {ns : List (Node Value)} {x : Expr} (h : ReadsAlone ns x)
include h

/-- What is left of an expression when it is read as a condition. -/
theorem orCond_read (stop : Position) : ∃ c left,
    Production.orCond.read { nodes := ns, stop } () = .ok c { nodes := left, stop } () ∧
      ((∀ n ∈ left, n.isLine) ↔ (Overtaken ns → ∀ n ∈ afterFirst ns, n.isLine)) := by
  by_cases overtaken : Overtaken ns
  · obtain ⟨c, read⟩ := cond_overtaken h stop overtaken []
    rw [List.append_nil, List.append_nil] at read
    refine ⟨c, afterFirst ns, orCond_of_cond (.inl rfl) read ?_ ?_, by simp [overtaken]⟩
    · exact h.afterFirst_mismatch (by decide) stop
    · exact h.afterFirst_mismatch (by decide) stop
  · have none : Production.comparison.read { nodes := [], stop } () = .mismatch () := by
      rw [Production.read_nil, Comparison.phrase_eq]
      simp [Comparison.symbols, Comparison.symbolic, Comparison.worded]
    obtain ⟨lines, all, truthy⟩ := cond_truthy h stop .nil overtaken none
    rw [List.append_nil, List.append_nil] at truthy
    have symbol (text : String) := Parse.symbol_lines all text stop
    refine ⟨.truthy x, lines, orCond_of_cond (.inl rfl) truthy (symbol "&") (symbol "|"), ?_⟩
    exact iff_of_true all fun taken => absurd taken overtaken

/-- An expression in round brackets is a condition, unless it begins with one and goes on. -/
theorem overtaken_group {opener closer : Token Value} (round : opener.text = Bracket.round.opener)
    (more : List (Node Value)) : Overtaken (.group opener closer ns :: more) ↔
      (Overtaken ns → ∀ n ∈ afterFirst ns, n.isLine) := by
  obtain ⟨c, left, read, ended⟩ := h.orCond_read closer.position
  rw [← ended]
  constructor
  · rintro ⟨n, ms, front, cond⟩
    obtain ⟨rfl, -⟩ := List.cons.inj front
    obtain ⟨-, c', d, read', atEnd⟩ := cond
    rw [read] at read'
    obtain ⟨-, rfl, -⟩ := Reply.ok.inj read'
    exact List.dropWhile_eq_nil_iff.mp atEnd
  · intro all
    exact ⟨_, more, rfl, round, c, _, read, List.dropWhile_eq_nil_iff.mpr all⟩

end ReadsAlone

/-! ## Rules -/

/-- The rule `_ @ _ if c -> #X`. -/
def Rule.guarded (c : Cond) : Rule :=
  ⟨.sequence [.state .wildcard, .event .wildcard, .cond c], .next (.tagged "X" []) []⟩

/-- The rule fires when its condition holds. -/
theorem Rule.guarded_run [Regex.Engine] {σ : Type} (call : HostFn → Scope → Run σ Value)
    (state event : Value) (c : Cond) (s : Scope) (w : World σ) :
    ((guarded c).on.run call state event s w).1 = Outcome.when (c.test call s w).1 s := by
  have wildcard (v : Value) : Pattern.wildcard.run v s = some s := rfl
  simp only [guarded, Step.run, Step.runAll, wildcard, pure_bind]
  rw [bind_apply, bind_apply]
  cases (c.test call s w).1 with
  | true | false => rfl

/-- A comparison is evaluated on the values of its two sides, the right one evaluated after the left
one, whatever patterns are kept compiled. -/
theorem Cond.test_compare [Regex.Engine] {σ : Type} (call : HostFn → Scope → Run σ Value)
    (x : Expr) (op : Comparison) (y : Expr) (s : Scope) (w : World σ) (cache : Regex.Cache) :
    ((Cond.compare x op y).test call s w).1 =
      (op.evaluate cache (x.eval call s w).1 (y.eval call s (x.eval call s w).2).1).1 := by
  let w' := (y.eval call s (x.eval call s w).2).2
  change (op.evaluate w'.cache (x.eval call s w).1 (y.eval call s (x.eval call s w).2).1).1 = _
  rw [Comparison.evaluate_fst, Comparison.evaluate_fst]

/-- The nodes of the front of the rule, on a line of its own, before those of its condition. -/
def guardNodes (place : Nat → Position) (ns : List (Node Value)) : List (Node Value) :=
  .token ⟨.line, "\n", place 0⟩ :: .token ⟨.identifier, "_", place 1⟩ ::
    .token ⟨.operator, "@", place 2⟩ :: .token ⟨.identifier, "_", place 3⟩ ::
    .token ⟨.identifier, "if", place 4⟩ :: ns

/-- The nodes of the rest of the rule. -/
def reactionNodes (place : Nat → Position) : List (Node Value) :=
  [.token ⟨.operator, "->", place 5⟩, .token ⟨.operator, "#", place 6⟩,
    .token ⟨.identifier, "X", place 7⟩]

/-- The nodes of `start = null`, before other nodes. -/
def startNodes (place : Nat → Position) (ns : List (Node Value)) : List (Node Value) :=
  .token ⟨.identifier, "start", place 8⟩ :: .token ⟨.operator, "=", place 9⟩ ::
    .token ⟨.identifier, "null", place 10⟩ :: ns

section

variable {ns : List (Node Value)} (place : Nat → Position) {stop : Position} {c : Cond} {d : Cursor}

/-- The left side of the rule ends where its condition does. -/
theorem orEvent_guard (read : Production.cond.read { nodes := ns, stop } () = .ok c d ())
    (bar : Parse.terminal (.symbol "|") d () = .mismatch ()) :
    Production.orEvent.read { nodes := guardNodes place ns, stop } () =
      .ok (Rule.guarded c).on d () := by
  have valid := (Production.cond.read_goes (.inl rfl) read).1
  have event : Production.condEvent.read { nodes := guardNodes place ns, stop } () =
      .ok (Rule.guarded c).on d () := by
    rw [guardNodes, Production.read_cons]
    simp (disch := first | decide | simp) [read, Rule.guarded]
  rw [Production.read_eq _ (.inl rfl)]
  simp (disch := first | decide | assumption) [Phrase.separatedBy, event, bar, Production.combined]

theorem rule_guard {lines : List (Node Value)} (all : ∀ n ∈ lines, Node.isLine n)
    (read : Production.cond.read { nodes := ns, stop } () =
      .ok c { nodes := lines ++ reactionNodes place, stop } ()) :
    Production.rule.read { nodes := guardNodes place ns, stop } () =
      .ok (.rule (.guarded c)) { nodes := [], stop } () := by
  have event := orEvent_guard place read
    ((Parse.terminal_lines all (.symbol "|")).trans (by simp [reactionNodes]))
  have arrow : Parse.terminal (.symbol "->") { nodes := lines ++ reactionNodes place, stop } () =
      Parse.terminal (.symbol "->") { nodes := reactionNodes place, stop } () :=
    Parse.terminal_lines all (.symbol "->")
  rw [Production.read_eq _ (.inl rfl)]
  simp (disch := first | decide | assumption) [event, arrow]
  simp (disch := first | decide | simp) [reactionNodes, Rule.guarded]

/-- Without an arrow after its condition it is no rule. -/
theorem rule_guard_mismatch (read : Production.cond.read { nodes := ns, stop } () = .ok c d ())
    (bar : Parse.terminal (.symbol "|") d () = .mismatch ())
    (arrow : Parse.terminal (.symbol "->") d () = .mismatch ()) :
    Production.rule.read { nodes := guardNodes place ns, stop } () = .mismatch () := by
  have event := orEvent_guard place read bar
  rw [Production.read_eq _ (.inl rfl)]
  simp (disch := first | decide | assumption) [event, arrow]
  simp (disch := first | decide | simp) [guardNodes, keywords]

theorem declaration_start :
    Production.declaration.read { nodes := startNodes place (guardNodes place ns), stop } () =
      .ok (.start (.const .null)) { nodes := guardNodes place ns, stop } () := by
  rw [startNodes, Production.read_cons]
  simp (disch := first | decide | simp) [guardNodes, Expr.chain]

theorem declaration_guard :
    Production.declaration.read { nodes := guardNodes place ns, stop } () = .mismatch () := by
  simp [guardNodes]

/-- A start state without a rule is no program. -/
theorem program_guard_mismatch
    (none : Production.rule.read { nodes := guardNodes place ns, stop } () = .mismatch ()) :
    Production.program.read { nodes := startNodes place (guardNodes place ns), stop } () =
      .mismatch () := by
  have declarations : (Phrase.many (.production .declaration)).parse Production.read
      { nodes := guardNodes place ns, stop } () =
        .ok [] { nodes := guardNodes place ns, stop } () := by
    rw [Phrase.parse_many rfl (.inl rfl)]
    simp [declaration_guard place, -Production.read_cons]
  rw [Production.read_eq _ (.inl rfl)]
  simp only [Production.phrase, Phrase.map_eq, Phrase.seq_eq, Phrase.parse_seq, Phrase.parse_pure,
    Phrase.parse_production, Parse.andThen, declaration_start place, declarations, none]

end

/-- The nodes of the program `start = null` with the rule, with those of its condition. -/
def guardedNodes (place : Nat → Position) (guard : List (Node Value)) : List (Node Value) :=
  startNodes place (guardNodes place (guard ++ reactionNodes place))

namespace Template

/-- A comparison is the guard of a rule if its left side does not begin with a condition, and else
it is refused. The guard holds in a scope when the comparison does of the values of its two
sides there, the right one evaluated after the left one, whatever patterns are kept compiled. -/
theorem parse_guarded {t : Template} {tree : Tree Value} (made : t.tree = .ok tree)
    {place : Nat → Position} {l r : List (Node Value)} {x y : Expr} (hl : ReadsAlone l x)
    (hr : ReadsAlone r y) (op : Comparison) {p q : Position}
    (nodes : tree.nodes = guardedNodes place (l ++ (op.nodes p q ++ r))) :
    (¬ Overtaken l →
      t.parse = .ok [.start (.const .null), .rule (.guarded (.compare x op y))]) ∧
    (Overtaken l → ∀ ds, t.parse ≠ .ok ds) ∧
    ∀ [Regex.Engine] {σ : Type} (call : HostFn → Scope → Run σ Value) (state event : Value)
      (s : Scope) (w : World σ) (cache : Regex.Cache),
      ((Rule.guarded (.compare x op y)).on.run call state event s w).1 = Outcome.when
        (op.evaluate cache (x.eval call s w).1 (y.eval call s (x.eval call s w).2).1).1 s := by
  have bars : Bars (reactionNodes place) := .of_operator (by decide)
  have cursor : tree.start = { nodes := startNodes place (guardNodes place
      (l ++ (op.nodes p q ++ (r ++ reactionNodes place)))), stop := tree.stop } := by
    rw [Tree.start, nodes, guardedNodes, List.append_assoc, List.append_assoc]
  refine ⟨fun whole => ?_, fun overtaken ds ok => ?_, ?_⟩
  · obtain ⟨lines, all, read⟩ := cond_compare hl op p q tree.stop hr bars whole
    have program := program_of_declaration_of_rule (.inl rfl) (declaration_start place)
      (declaration_guard place) (rule_guard place all read)
    exact parse_ok.mpr ⟨tree, made, tree.program_of_plain (cursor ▸ program)⟩
  · obtain ⟨c, read⟩ := cond_overtaken hl tree.stop overtaken
      (op.nodes p q ++ (r ++ reactionNodes place))
    have refused {text : String} (other : ∀ o ∈ Operator.symbols, ¬ text.toList <+: o.toList)
        (none : ∀ stop, Parse.terminal (.symbol text)
          { nodes := op.nodes p q ++ (r ++ reactionNodes place), stop } () = .mismatch ()) :=
      hl.afterFirst_compared other none tree.stop
    have rule := rule_guard_mismatch place read
      (refused (by decide) fun stop => op.symbol_mismatch (by decide))
      (refused (by decide) fun stop => op.symbol_mismatch (by decide))
    obtain ⟨tree', made', ok⟩ := parse_ok.mp ok
    obtain rfl := Except.ok.inj (made.symm.trans made')
    obtain ⟨d, program⟩ := Tree.plain_of_program ok
    rw [cursor, program_guard_mismatch place rule] at program
    cases program
  · intro _ σ call state event s w cache
    rw [Rule.guarded_run, Cond.test_compare call x op y s w cache]

/-- Two names are compared. -/
theorem parse_guarded_names : (ofText "start = null\n_ @ _ if n == m -> #X").parse =
    .ok [.start (.const .null), .rule (.guarded (.compare (.get "n") .eq (.get "m")))] := by
  let place : Nat → Position
    | 0 => ⟨12, 1, 13⟩
    | 1 => ⟨13, 2, 1⟩
    | 2 => ⟨15, 2, 3⟩
    | 3 => ⟨17, 2, 5⟩
    | 4 => ⟨19, 2, 7⟩
    | 5 => ⟨29, 2, 17⟩
    | 6 => ⟨32, 2, 20⟩
    | 7 => ⟨33, 2, 21⟩
    | 8 => ⟨0, 1, 1⟩
    | 9 => ⟨6, 1, 7⟩
    | _ => ⟨8, 1, 9⟩
  let l : List (Node Value) := [.token ⟨.identifier, "n", ⟨22, 2, 10⟩⟩]
  let r : List (Node Value) := [.token ⟨.identifier, "m", ⟨27, 2, 15⟩⟩]
  have alone (name : Identifier) (p : Position) :
      ReadsAlone [.token ⟨.identifier, name.text, p⟩] (.get name.text) :=
    .of_reads (ReadsAt.of_operand (reads_identifier p name) 0).reads
  let symbol : List (Node Value) := Comparison.eq.nodes ⟨24, 2, 12⟩ .start
  have made : (ofText "start = null\n_ @ _ if n == m -> #X").tree =
      .ok ⟨guardedNodes place (l ++ (symbol ++ r)), ⟨34, 2, 22⟩⟩ := rfl
  have whole : ¬ Overtaken l := by
    rintro ⟨_, _, ⟨⟩, _, ⟨⟩⟩
  let n : Identifier := ⟨⟨"n", by decide, by decide⟩, by decide⟩
  let m : Identifier := ⟨⟨"m", by decide, by decide⟩, by decide⟩
  exact (parse_guarded made (alone n _) (alone m _) .eq rfl).1 whole

/-- A left side that begins with a group is an expression, but the group is taken for the guard. -/
theorem parse_guarded_refused :
    (∃ ds, (ofText "start = (1 + 2) * 3\n_ @ _ -> null").parse = .ok ds) ∧
      ∀ ds, (ofText "start = null\n_ @ _ if (1 + 2) * 3 == 9 -> #X").parse ≠ .ok ds := by
  have parses : (ofText "start = (1 + 2) * 3\n_ @ _ -> null").parse.toOption.isSome := by
    decide +kernel
  have fails : (ofText "start = null\n_ @ _ if (1 + 2) * 3 == 9 -> #X").parse.toOption.isNone := by
    decide +kernel
  generalize (ofText "start = (1 + 2) * 3\n_ @ _ -> null").parse = result at parses
  generalize (ofText "start = null\n_ @ _ if (1 + 2) * 3 == 9 -> #X").parse = result' at fails
  cases result with
  | error e => cases parses
  | ok ds =>
    refine ⟨⟨ds, rfl⟩, ?_⟩
    rintro ds' rfl
    cases fails

end Template

end RuleMachine
