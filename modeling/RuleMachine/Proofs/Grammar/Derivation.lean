import RuleMachine.Proofs.Grammar.Progress

/-!
# The grammar without an order of choice

The grammar of programs as a relation: which pieces of source a production stands for, and what
these build (`Derives`). It knows no order of alternatives and no cursor. Its terminals are pieces:
symbols as far as they are cut, other tokens, and groups as a whole (`Piece`). Line breaks are no
pieces, but a piece knows whether it comes after one, as no field of a tagged form may.

`Spans` says which pieces lie between two cursors.
-/

namespace RuleMachine

/-- A terminal of the grammar; `broken` says that a line break comes before it. -/
inductive Piece where
  | symbol (broken : Bool) (text : String)
  | word (broken : Bool) (text : String)
  | literal (broken : Bool) (value : Literal Value)
  | group (broken : Bool) (bracket : Bracket) (inside : List Piece)

def Piece.broken : Piece → Bool
  | symbol broken _ | word broken _ | literal broken _ | group broken _ _ => broken

/-- The pieces from `c` to `d`. `b` says whether a line break has been passed before `c` since the
last piece, `b'` the same of `d`. -/
inductive Spans : Bool → Cursor → List Piece → Bool → Cursor → Prop
  | done {b c} : Spans b c [] b c
  | line {b c ps b' d t rest} :
      c.split = 0 → c.nodes = .token t :: rest → t.isLine →
      Spans true { c with nodes := rest } ps b' d → Spans b c ps b' d
  /-- Of a symbol token as much as `text` is passed, from where the cursor stands in it. -/
  | symbol {b c ps b' d t rest text} :
      c.nodes = .token t :: rest → t.isSymbol → text.toList <+: c.rest t →
      Spans false
        (if t.text.length ≤ c.split + text.length then c.next
          else { c with split := c.split + text.length }) ps b' d →
      Spans b c (.symbol b text :: ps) b' d
  | word {b c ps b' d t rest text} :
      c.split = 0 → c.nodes = .token t :: rest → t.identifier? = some text →
      Spans false c.next ps b' d → Spans b c (.word b text :: ps) b' d
  | literal {b c ps b' d t rest value} :
      c.split = 0 → c.nodes = .token t :: rest → t.literal? = some value →
      Spans false c.next ps b' d → Spans b c (.literal b value :: ps) b' d
  /-- A group is passed with all that is inside it. -/
  | group {b c ps b' d opener closer children rest bracket inside b'' e} :
      c.split = 0 → c.nodes = .group opener closer children :: rest →
      opener.text = bracket.opener →
      Spans false { nodes := children, stop := closer.position } inside b'' e → e.nodes = [] →
      Spans false c.next ps b' d → Spans b c (.group b bracket inside :: ps) b' d

theorem Spans.trans {b b' b'' : Bool} {c d e : Cursor} {ps qs : List Piece}
    (h : Spans b c ps b' d) (h' : Spans b' d qs b'' e) : Spans b c (ps ++ qs) b'' e := by
  induction h with
  | done => exact h'
  | line unsplit front line _ ih => exact .line unsplit front line (ih h')
  | symbol front symbol fits _ ih => exact .symbol front symbol fits (ih h')
  | word unsplit front word _ ih => exact .word unsplit front word (ih h')
  | literal unsplit front literal _ ih => exact .literal unsplit front literal (ih h')
  | group unsplit front opener inside all _ _ ih =>
    exact .group unsplit front opener inside all (ih h')

/-- The first piece comes after a line break only if one has been passed or is in front. -/
theorem Spans.broken_head {b b' : Bool} {c d : Cursor} {p : Piece} {ps : List Piece}
    (h : Spans b c (p :: ps) b' d) (inLine : c.atLineOrEnd = false) : p.broken = b := by
  cases h with
  | line unsplit front line =>
    simp [Cursor.atLineOrEnd, unsplit, front, Node.isLine, line] at inLine
  | symbol | word | literal | group => rfl

open Production in
mutual

/-- What a production stands for, and the value it builds from that. The forms of events that have
no meaning build nothing and are left out. -/
inductive Derives : {α : Type} → Production α → List Piece → α → Prop
  | program {ps qs ds rs} : Row declaration ps ds → ds ≠ [] → Row rule qs rs → rs ≠ [] →
      Derives program (ps ++ qs) (ds ++ rs)
  | states {b b' ps patterns} : Derives tagPatterns ps patterns →
      Derives declaration (.word b "states" :: .symbol b' "=" :: ps) (.states patterns)
  | actions {b b' ps patterns} : Derives tagPatterns ps patterns →
      Derives declaration (.word b "actions" :: .symbol b' "=" :: ps) (.actions patterns)
  | start {b b' ps e} : Derives tagExpr ps e →
      Derives declaration (.word b "start" :: .symbol b' "=" :: ps) (.start e)
  | tagPatterns {ps qs p rest} : Derives tagPattern ps p → Tail "|" tagPattern qs rest →
      Derives tagPatterns (ps ++ qs) (p :: rest)
  | reaction {b ps qs on effect} : Derives orEvent ps on → Derives orEffect qs effect →
      Derives rule (ps ++ .symbol b "->" :: qs) (.rule ⟨on, effect⟩)
  | extension {b ps qs dest source} : Derives tagExpr ps dest → Derives tagPattern qs source →
      Derives rule (ps ++ .word b "extends" :: qs) (.extension ⟨dest, source⟩)
  -- events
  | orEvent {ps qs s ss} : Derives condEvent ps s → Tail "|" condEvent qs ss →
      Derives orEvent (ps ++ qs) (combined .alternatives (s, ss))
  | on {b ps qs s e} : Derives state ps s → Derives event qs e →
      Derives condEvent (ps ++ .symbol b "@" :: qs) (.sequence [s, e])
  | onIf {b b' ps qs rs s e c} : Derives state ps s → Derives event qs e → Derives cond rs c →
      Derives condEvent (ps ++ .symbol b "@" :: qs ++ .word b' "if" :: rs)
        (.sequence [s, e, .cond c])
  | eventGroup {b ps s} : Derives orEvent ps s → Derives condEvent [.group b .round ps] s
  | orState {ps qs s ss} : Derives andState ps s → Tail "|" andState qs ss →
      Derives orState (ps ++ qs) (combined .alternatives (s, ss))
  | stateAnd {ps qs s cs} : Derives state ps s → Tail "&" cond qs cs →
      Derives andState (ps ++ qs) (combined .sequence (s, cs.map .cond))
  | condAnd {ps qs c cs} : Derives cond ps c → Tail "&" cond qs cs →
      Derives andState (ps ++ qs) (combined .sequence (.cond c, cs.map .cond))
  | stateGroup {b ps s} : Derives orState ps s → Derives state [.group b .round ps] s
  | stateTag {ps p} : Derives tagPattern ps p → Derives state ps (.state p)
  | event {ps p} : Derives tagPattern ps p → Derives event ps (.event p)
  -- conditions
  | orCond {ps qs c cs} : Derives andCond ps c → Tail "|" andCond qs cs →
      Derives orCond (ps ++ qs) (combined .any (c, cs))
  | andCond {ps qs c cs} : Derives cond ps c → Tail "&" cond qs cs →
      Derives andCond (ps ++ qs) (combined .all (c, cs))
  | condGroup {b ps c} : Derives orCond ps c → Derives cond [.group b .round ps] c
  | condCall {b f} : Derives cond [.literal b (.injected (.callable f))] (.call f)
  | compare {ps qs rs l op r} : Derives expr ps l → Derives comparison qs op → Derives expr rs r →
      Derives cond (ps ++ qs ++ rs) (.compare l op r)
  | truthy {ps e} : Derives expr ps e → Derives cond ps (.truthy e)
  | eq {b} : Derives comparison [.symbol b "=="] .eq
  | ne {b} : Derives comparison [.symbol b "!="] .ne
  | ge {b} : Derives comparison [.symbol b ">="] .ge
  | gt {b} : Derives comparison [.symbol b ">"] .gt
  | le {b} : Derives comparison [.symbol b "<="] .le
  | lt {b} : Derives comparison [.symbol b "<"] .lt
  | isIn {b} : Derives comparison [.word b "in"] .isIn
  | notIn {b b'} : Derives comparison [.word b "not", .word b' "in"] .notIn
  | isNot {b b'} : Derives comparison [.word b "is", .word b' "not"] .isNot
  | is {b} : Derives comparison [.word b "is"] .is
  -- effects
  | orEffect {ps qs e es} : Derives condEffect ps e → Tail "|" condEffect qs es →
      Derives orEffect (ps ++ qs) (combined .alternatives (e, es))
  | guarded {b ps qs e c} : Derives andEffect ps e → Derives cond qs c →
      Derives condEffect (ps ++ .word b "if" :: qs) (.guarded e c)
  | unguarded {ps e} : Derives andEffect ps e → Derives condEffect ps e
  | next {ps qs e as} : Derives tagExpr ps e → Row joinedAction qs as →
      Derives andEffect (ps ++ qs) (.next e as)
  | only {ps qs a as} : Derives action ps a → Row joinedAction qs as →
      Derives andEffect (ps ++ qs) (.only (a :: as))
  | joinedAction {b ps a} : Derives action ps a → Derives joinedAction (.symbol b "&" :: ps) a
  | nested {b ps e} : Derives orEffect ps e → Derives action [.group b .round ps] (.nested e)
  | dispatch {b ps e} : Derives tagExpr ps e →
      Derives action (.word b "dispatch" :: ps) (.dispatch e)
  | await {b b' f} :
      Derives action [.word b "await", .literal b' (.injected (.callable f))] (.await f)
  | exec {b b' f} :
      Derives action [.word b "exec", .literal b' (.injected (.callable f))] (.exec f)
  -- patterns
  | taggedPattern {b b' name ps fs} : Fields patternField ps fs →
      Derives tagPattern (.symbol b "#" :: .word b' name :: ps) (.tagged name fs)
  | tagPattern {ps p} : Derives pattern ps p → Derives tagPattern ps p
  | object {b ps fs} : Listed patternField ps fs →
      Derives pattern [.group b .curly ps] (.object fs)
  | array {b ps items} : Listed pattern ps items →
      Derives pattern [.group b .square ps] (.array items)
  | patternGroup {b ps p} : Derives tagPattern ps p → Derives pattern [.group b .round ps] p
  | wildcard {b} : Derives pattern [.word b "_"] .wildcard
  | literalPattern {ps v} : Derives literal ps v → Derives pattern ps (.literal v)
  | bind {b name} : name ∉ keywords → Derives pattern [.word b name] (.bind name)
  | patternField {b ps qs key p} : Derives fieldKey ps key → Derives pattern qs p →
      Derives patternField (ps ++ .symbol b ":" :: qs) (key, p)
  | bindField {b name} : name ∉ keywords →
      Derives patternField [.word b name] (Pattern.shorthand name)
  -- expressions
  | taggedExpr {b b' name ps fs} : Fields exprField ps fs →
      Derives tagExpr (.symbol b "#" :: .word b' name :: ps) (.tagged name fs)
  | tagExpr {ps e} : Derives expr ps e → Derives tagExpr ps e
  | expr {ps qs e es} : Derives product ps e → Operands [.add, .sub] product qs es →
      Derives expr (ps ++ qs) (Expr.chain e es)
  | product {ps qs e es} : Derives power ps e → Operands [.mul, .div, .rem] power qs es →
      Derives product (ps ++ qs) (Expr.chain e es)
  | raised {b ps qs l r} : Derives operand ps l → Derives power qs r →
      Derives power (ps ++ .symbol b "**" :: qs) (.binary .pow l r)
  | power {ps e} : Derives operand ps e → Derives power ps e
  | exprGroup {b ps e} : Derives tagExpr ps e → Derives operand [.group b .round ps] e
  | list {b ps es} : Listed expr ps es → Derives operand [.group b .square ps] (.list es)
  | record {b ps fs} : Listed exprField ps fs → Derives operand [.group b .curly ps] (.record fs)
  | const {ps v} : Derives literal ps v → Derives operand ps (.const v)
  | get {b name} : name ∉ keywords → Derives operand [.word b name] (.get name)
  | call {b f} : Derives operand [.literal b (.injected (.callable f))] (.call f)
  | exprField {b ps qs key e} : Derives fieldKey ps key → Derives expr qs e →
      Derives exprField (ps ++ .symbol b ":" :: qs) (key, e)
  | getField {b name} : name ∉ keywords →
      Derives exprField [.word b name] (Expr.shorthand name)
  -- literals and keys
  | trueWord {b} : Derives literal [.word b "true"] (.bool true)
  | falseWord {b} : Derives literal [.word b "false"] (.bool false)
  | nullWord {b} : Derives literal [.word b "null"] .null
  | undefinedWord {b} : Derives literal [.word b "undefined"] .undefined
  | string {b s} : Derives literal [.literal b (.quoted s)] (.string s)
  | number {b n} : Derives literal [.literal b (.number n)] (.number n)
  | injected {b v} : v.callable? = none → Derives literal [.literal b (.injected v)] v
  | key {b name} : name ∉ keywords → Derives fieldKey [.word b name] name
  | quotedKey {b s} : Derives fieldKey [.literal b (.quoted s)] s

/-- Any number of a production. -/
inductive Row : {α : Type} → Production α → List Piece → List α → Prop
  | nil {α} {n : Production α} : Row n [] []
  | cons {α} {n : Production α} {ps qs a as} : Derives n ps a → Row n qs as →
      Row n (ps ++ qs) (a :: as)

/-- Any number of a production, each after a symbol. -/
inductive Tail : String → {α : Type} → Production α → List Piece → List α → Prop
  | nil {text α} {n : Production α} : Tail text n [] []
  | cons {b text α} {n : Production α} {ps qs a as} : Derives n ps a → Tail text n qs as →
      Tail text n (.symbol b text :: ps ++ qs) (a :: as)

/-- Any number of a production with commas between them, and perhaps one after the last. -/
inductive Listed : {α : Type} → Production α → List Piece → List α → Prop
  | nil {α} {n : Production α} : Listed n [] []
  | last {α} {n : Production α} {ps a} : Derives n ps a → Listed n ps [a]
  | cons {b α} {n : Production α} {ps qs a as} : Derives n ps a → Listed n qs as →
      Listed n (ps ++ .symbol b "," :: qs) (a :: as)

/-- Any number of a production, none of them after a line break. -/
inductive Fields : {α : Type} → Production α → List Piece → List α → Prop
  | nil {α} {n : Production α} : Fields n [] []
  | cons {α} {n : Production α} {ps qs a as} : Derives n ps a →
      (∀ p ∈ ps.head?, p.broken = false) → Fields n qs as → Fields n (ps ++ qs) (a :: as)

/-- Any number of operands, each after one of the operators. -/
inductive Operands :
    List Operator → Production Expr → List Piece → List (Operator × Expr) → Prop
  | nil {ops n} : Operands ops n [] []
  | cons {b ops n ps qs op e es} : op ∈ ops → Derives n ps e → Operands ops n qs es →
      Operands ops n (.symbol b op.symbol :: ps ++ qs) ((op, e) :: es)

end

end RuleMachine
