import RuleMachine.Proofs.Source.Numerals
import RuleMachine.Proofs.Terms.Reading

/-!
# Terms are read as they are written

A term as it is written adds nodes that are read as its expression (`Term.written`). The program
that starts with the term therefore parses, and its start state is what the term denotes
(`Term.parse_source`).
-/

namespace RuleMachine

open Plain

/-! ## Values of literals -/

theorem Line.toList_quoted (s : Line) :
    s.quoted.toList = Lexeme.inQuotes '"' s.text.toList :=
  String.toList_ofList

theorem Line.unquote_quoted (s : Line) : Lexeme.unquote s.quoted.toList = s.text := by
  rw [s.toList_quoted, Lexeme.unquote_inQuotes, String.ofList_toList]

theorem Numeral.decimalValue_text (n : Numeral) : Lexeme.decimalValue n.text.toList = n.value := by
  obtain ⟨c, cs, front⟩ : ∃ c cs, n.text.toList = c :: cs := by
    have := n.begins
    cases front : n.text.toList with
    | nil => simp [front] at this
    | cons c cs => exact ⟨c, cs, rfl⟩
  have digit : c.isDigit := by simpa [front] using n.begins
  have digits : ∀ d ∈ cs, Lexeme.isDigitOrGap d := by simpa [front] using n.continues
  have shape : Lexeme.IsDecimal Lexeme.isDigitOrGap n.text.toList [] [] :=
    { begins := ⟨c, cs, front, digit⟩
      whole := front ▸ List.forall_mem_cons.mpr ⟨by simp [Lexeme.isDigitOrGap, digit], digits⟩
      part := .none
      power := .none }
  have reads := shape.bare.read?.trans (Lexeme.readUnsigned_eq shape.bare)
  simp only [Lexeme.bare, List.filter_nil, List.append_nil, List.tail_nil] at reads
  unfold Lexeme.decimalValue Numeral.value
  rw [reads]
  rfl

/-! ## Lexemes -/

/-- Text that may come after a blank and before what ends a name, and the nodes that it adds. -/
structure Written (text : String) (P : List (Node Value) → Prop) : Prop where
  solid : ∀ rest, Solid (text.toList ++ rest)
  spells : Spells text Ends P

theorem Written.mono {text : String} {P Q : List (Node Value) → Prop} (h : Written text P)
    (widens : ∀ ns, P ns → Q ns) : Written text Q :=
  ⟨h.solid, h.spells.imp widens⟩

theorem Solid.of_head {c : Char} {rest : List Char} (h : Lexeme.isSpace c = false) :
    Solid (c :: rest) := by
  rintro _ ⟨⟩
  exact h

/-- No character with a property that no blank has is a blank. -/
theorem Solid.of_property {p : Char → Bool} (none : [' ', '\t', '\r'].any p = false)
    {c : Char} {rest : List Char} (h : p c) : Solid (c :: rest) := by
  refine .of_head ?_
  rw [Bool.eq_false_iff]
  intro blank
  have mem : c ∈ [' ', '\t', '\r'] := by simpa [Lexeme.isSpace, or_assoc] using blank
  exact List.any_eq_false.mp none c mem h

/-- Text of a first character and others, each of a kind, that is one lexeme. -/
theorem Written.word {text : String} {p q : Char → Bool} {shape : Shape}
    {P : List (Node Value) → Prop} (begins : text.toList.head?.any p)
    (continues : text.toList.tail.all q) (none : [' ', '\t', '\r'].any p = false)
    (lexes : ∀ {c cs rest}, p c → (∀ d ∈ cs, q d) → Ends rest → Lexes shape (c :: cs) rest)
    (spelled : ∀ p, P [.token ⟨shape.kind text.toList, text, p⟩])
    (adds : ∀ p, Adds [⟨shape.kind text.toList, text, p⟩]
      [.token ⟨shape.kind text.toList, text, p⟩]) : Written text P := by
  obtain ⟨c, cs, front⟩ : ∃ c cs, text.toList = c :: cs := by
    cases front : text.toList with
    | nil => simp [front] at begins
    | cons c cs => exact ⟨c, cs, rfl⟩
  have begins : p c := by simpa [front] using begins
  have continues : ∀ d ∈ cs, q d := by simpa [front] using continues
  refine ⟨fun rest => ?_, .token shape (fun rest ends => ?_) spelled adds⟩
  · rw [front]
    exact .of_property none begins
  · exact front ▸ lexes begins continues ends

theorem Name.written (x : Name) {P : List (Node Value) → Prop}
    (spelled : ∀ p, P [.token ⟨.identifier, x.text, p⟩]) : Written x.text P :=
  .word x.begins x.continues (by decide) .name spelled fun _ => .token rfl rfl rfl

theorem Numeral.written (n : Numeral) {P : List (Node Value) → Prop}
    (spelled : ∀ p, P [.token ⟨.literal (.number n.value), n.text, p⟩]) : Written n.text P := by
  rw [← n.decimalValue_text] at spelled
  exact .word n.begins n.continues (by decide) .numeral spelled fun _ => .token rfl rfl rfl

theorem Line.written (s : Line) {P : List (Node Value) → Prop}
    (spelled : ∀ p, P [.token ⟨.literal (.quoted s.text), s.quoted, p⟩]) : Written s.quoted P := by
  rw [← s.unquote_quoted] at spelled
  refine ⟨fun rest => ?_, .token .quoted (fun rest _ => ?_) spelled fun p => .token rfl rfl rfl⟩
  · rw [s.toList_quoted]
    exact .of_head (by decide)
  · exact s.toList_quoted ▸ .quoted (.head _) s.unbroken rest

theorem Constant.written (c : Constant) {P : List (Node Value) → Prop}
    (spelled : ∀ p, P [.token ⟨.identifier, c.word, p⟩]) : Written c.word P := by
  cases c <;> exact Name.written ⟨_, by decide, by decide⟩ spelled

/-- An operator between blanks. -/
theorem spells_spaced (text : String)
    (mem : text ∈ ["+", "-", "*", "/", "%", "**", "=", "@", "->", ":"]) :
    Spells (" " ++ text ++ " ") Solid fun ns => ∃ p, ns = [.token ⟨.operator, text, p⟩] := by
  have role (p : Position) : brackets.role? (⟨.operator, text, p⟩ : Token Value) = none := by
    simp only [List.mem_cons, List.not_mem_nil, or_false] at mem
    rcases mem with rfl | rfl | rfl | rfl | rfl | rfl | rfl | rfl | rfl | rfl <;> rfl
  have solid (rest : List Char) : Solid (text.toList ++ rest) := by
    simp only [List.mem_cons, List.not_mem_nil, or_false] at mem
    rcases mem with rfl | rfl | rfl | rfl | rfl | rfl | rfl | rfl | rfl | rfl <;>
      exact Solid.of_head (c := _) (by decide)
  have op : Spells text (fun rest => ∃ more, rest = ' ' :: more) fun ns =>
      ∃ p, ns = [.token ⟨.operator, text, p⟩] := by
    refine .token .operator ?_ (fun p => ⟨p, rfl⟩) fun p => .token rfl rfl (role p)
    rintro _ ⟨more, rfl⟩
    exact .spaced mem more
  refine ((Spells.space.append op fun rest _ => solid rest).append .space
    fun rest _ => ⟨rest, rfl⟩).imp ?_
  rintro _ ⟨_, _, rfl, ⟨_, _, rfl, rfl, p, rfl⟩, rfl⟩
  exact ⟨p, rfl⟩

theorem spells_comma :
    Spells ", " Solid fun ns => ∃ p, ns = [.token ⟨.punctuation, ",", p⟩] := by
  have comma : Spells "," (fun _ => True) fun ns => ∃ p, ns = [.token ⟨.punctuation, ",", p⟩] :=
    .token .punctuation (fun rest _ => .bracket (by decide) rest) (fun p => ⟨p, rfl⟩)
      fun p => .token rfl rfl rfl
  refine (comma.append .space fun _ _ => trivial).imp ?_
  rintro _ ⟨_, _, rfl, ⟨p, rfl⟩, rfl⟩
  exact ⟨p, rfl⟩

theorem spells_colon :
    Spells ": " Solid fun ns => ∃ p, ns = [.token ⟨.operator, ":", p⟩] := by
  have colon : Spells ":" (fun rest => ∃ more, rest = ' ' :: more) fun ns =>
      ∃ p, ns = [.token ⟨.operator, ":", p⟩] := by
    refine .token .operator ?_ (fun p => ⟨p, rfl⟩) fun p => .token rfl rfl rfl
    rintro _ ⟨more, rfl⟩
    exact .spaced (by decide) more
  refine (colon.append .space fun rest _ => ⟨rest, rfl⟩).imp ?_
  rintro _ ⟨_, _, rfl, ⟨p, rfl⟩, rfl⟩
  exact ⟨p, rfl⟩

/-- A hash in front of a name. -/
theorem spells_hash (name : Name) : Spells ("#" ++ name.text) Ends fun ns =>
    ∃ p q, ns = [.token ⟨.operator, "#", p⟩, .token ⟨.identifier, name.text, q⟩] := by
  have hash : Spells "#" (fun rest => ∀ c ∈ rest.head?, Lexeme.isOperator c = false) fun ns =>
      ∃ p, ns = [.token ⟨.operator, "#", p⟩] :=
    .token .operator (fun rest stops => .hash stops) (fun p => ⟨p, rfl⟩) fun p => .token rfl rfl rfl
  have word : Spells name.text Ends fun ns => ∃ q, ns = [.token ⟨.identifier, name.text, q⟩] :=
    (name.written fun q => ⟨q, rfl⟩).spells
  refine (hash.append word fun rest _ => ?_).imp ?_
  · have begins := name.begins
    cases front : name.text.toList with
    | nil => simp [front] at begins
    | cons c cs =>
      rintro _ ⟨⟩
      rw [front] at begins
      have other : "!@#%^&*-+=|/:<>.?~".toList.any Lexeme.beginsName = false := by decide
      rw [Bool.eq_false_iff]
      intro operator
      exact List.any_eq_false.mp other c (List.contains_iff_mem.mp operator) begins
  · rintro _ ⟨_, _, rfl, ⟨p, rfl⟩, q, rfl⟩
    exact ⟨p, q, rfl⟩

theorem Written.group (b : Bracket) {text : String} {P Q : List (Node Value) → Prop}
    (h : Spells text Ends P) (whole : ∀ p q ns, P ns → Q [.group (b.opens p) (b.closes q) ns]) :
    Written (b.opener ++ text ++ b.closer) Q where
  solid rest := by
    rw [String.toList_append, String.toList_append]
    cases b <;> exact Solid.of_head (c := _) (by decide)
  spells := by
    refine (h.group b (fun rest => ?_) whole).narrow fun _ _ => trivial
    cases b <;> rintro _ ⟨⟩ <;> decide

/-! ## Lists -/

theorem intercalate_cons (sep x : String) (xs : List String) :
    sep.intercalate (x :: xs) = x ++ String.join (xs.map (sep ++ ·)) := by
  induction xs generalizing x with
  | nil => simp
  | cons y ys ih => simp [String.intercalate_cons_cons, ih, String.append_assoc]

/-- Items, each written as its text. -/
inductive AllWritten {α : Type} (n : Production α) : List String → List α → Prop
  | nil : AllWritten n [] []
  | cons {text a texts as} : (Written text fun ns => Reads n 0 ns a) → AllWritten n texts as →
      AllWritten n (text :: texts) (a :: as)

namespace AllWritten

variable {α : Type} {n : Production α} {texts : List String} {as : List α}

/-- What comes after an item is a separator or what comes after all. -/
theorem ends {sep : String} (separates : ∀ rest, Ends (sep.toList ++ rest)) (texts : List String)
    {rest : List Char} (h : Ends rest) :
    Ends ((String.join (texts.map (sep ++ ·))).toList ++ rest) := by
  cases texts with
  | nil => exact h
  | cons text texts =>
    rw [List.map_cons, String.join_cons, String.append_assoc, String.toList_append,
      List.append_assoc]
    exact separates _

/-- Items with a separator in front of each. -/
theorem separated {sep : String} {Q : List (Node Value) → Prop}
    {R : List (Node Value) → List α → Prop} (spells : Spells sep Solid Q)
    (separates : ∀ rest, Ends (sep.toList ++ rest)) (nil : R [] [])
    (cons : ∀ {ns ms ms' a as}, Q ns → Reads n 0 ms a → R ms' as → R (ns ++ (ms ++ ms')) (a :: as))
    (h : AllWritten n texts as) :
    Spells (String.join (texts.map (sep ++ ·))) Ends fun ns => R ns as := by
  induction h with
  | nil => exact .empty nil
  | @cons text a texts as item items ih =>
    have rest := item.spells.append ih fun _ => ends separates texts
    rw [List.map_cons, String.join_cons, String.append_assoc]
    refine (spells.append rest fun rest _ => ?_).imp ?_
    · rw [String.toList_append, List.append_assoc]
      exact item.solid _
    · rintro _ ⟨ns, _, rfl, separator, ms, ms', rfl, h, h'⟩
      exact cons separator h h'

theorem listed (h : AllWritten n texts as) :
    Spells (", ".intercalate texts) Ends fun ns => ReadsList n ns as := by
  have comma (rest : List Char) : Ends (", ".toList ++ rest) := by
    rintro _ ⟨⟩
    decide
  cases h with
  | nil => exact .empty .nil
  | cons item items =>
    have follow := items.separated spells_comma comma ReadsRest.nil
      (by rintro _ ms ms' a as ⟨p, rfl⟩ h h'; exact h'.cons h p)
    rw [intercalate_cons]
    refine (item.spells.append follow fun _ => ends comma _).imp ?_
    rintro _ ⟨ns, ms, rfl, h, h'⟩
    exact .cons h h'

theorem lined (h : AllWritten n texts as) :
    Spells (String.join (texts.map (" " ++ ·))) Ends fun ns => ReadsLine n ns as := by
  refine h.separated .space (fun rest => ?_) ReadsLine.nil ?_
  · rintro _ ⟨⟩
    decide
  · rintro _ ms ms' a as rfl h h'
    change ReadsLine n (ms ++ ms') (a :: as)
    exact .cons h h'

end AllWritten

/-! ## Terms -/

theorem Key.written (key : Key) : Written key.render fun ns => ∃ n, ns = [n] ∧ n.isOperand ∧
    ∀ rest stop, Production.fieldKey.read { nodes := n :: rest, stop } () =
      .ok key.name { nodes := rest, stop } () :=
  match key with
  | identifier x => x.written fun p => ⟨_, rfl, rfl, fieldKey_identifier p x⟩
  | quoted s => s.written fun p => ⟨_, rfl, rfl, fieldKey_quoted p _ _⟩

/-- A field as it is written. -/
theorem Key.written_field (key : Key) {text : String} {x : Expr}
    (value : Written text fun ns => Reads .expr 0 ns x) :
    Written (key.render ++ ": " ++ text) fun ns => Reads .exprField 0 ns (key.name, x) where
  solid rest := by
    rw [String.toList_append, String.toList_append, List.append_assoc, List.append_assoc]
    exact key.written.solid _
  spells := by
    have front := key.written.spells.append spells_colon fun _ _ => by rintro _ ⟨⟩; decide
    refine (front.append value.spells fun rest _ => value.solid rest).imp ?_
    rintro _ ⟨_, ns, rfl, ⟨_, _, rfl, ⟨n, rfl, operand, key⟩, p, rfl⟩, h⟩
    exact reads_field operand key h p

namespace Term

theorem written_tagged (name : Name) {texts : List String} {fields : List (String × Expr)}
    (h : AllWritten .exprField texts fields) :
    Written ("(#" ++ " ".intercalate (name.text :: texts) ++ ")") fun ns =>
      Reads .operand 3 ns (.tagged name.text fields) := by
  have inside : Spells ("#" ++ name.text ++ String.join (texts.map (" " ++ ·))) Ends fun ns =>
      ∃ p q ms, ns = .token ⟨.operator, "#", p⟩ :: .token ⟨.identifier, name.text, q⟩ :: ms ∧
        ReadsLine .exprField ms fields := by
    refine ((spells_hash name).append h.lined fun _ => AllWritten.ends ?_ _).imp ?_
    · rintro _ _ ⟨⟩
      decide
    · rintro _ ⟨_, ms, rfl, ⟨p, q, rfl⟩, lined⟩
      exact ⟨p, q, ms, rfl, lined⟩
  have text : "(#" ++ " ".intercalate (name.text :: texts) ++ ")" =
      "(" ++ ("#" ++ name.text ++ String.join (texts.map (" " ++ ·))) ++ ")" := by
    rw [intercalate_cons, ← String.append_assoc, ← String.append_assoc, ← String.append_assoc]
    rfl
  rw [text]
  refine .group .round inside ?_
  rintro p q _ ⟨hash, word, ms, rfl, lined⟩
  exact reads_tagged p q lined hash word

theorem written_binary (op : Operator) {left right : String} {l r : Expr}
    (hl : Written left fun ns => ReadsAt op.leftLevel ns l)
    (hr : Written right fun ns => ReadsAt op.rightLevel ns r) :
    Written (left ++ (" " ++ op.symbol ++ " ") ++ right) fun ns =>
      ReadsAt op.level ns (.binary op l r) where
  solid rest := by
    rw [String.toList_append, String.toList_append, List.append_assoc, List.append_assoc]
    exact hl.solid _
  spells := by
    have symbol := spells_spaced op.symbol (by cases op <;> decide)
    have front := hl.spells.append symbol fun _ _ => by cases op <;> rintro _ ⟨⟩ <;> decide
    refine (front.append hr.spells fun rest _ => hr.solid rest).imp ?_
    rintro _ ⟨_, ms, rfl, ⟨ns, _, rfl, h, p, rfl⟩, h'⟩
    rw [List.append_assoc]
    exact .binary op h h' p

mutual

theorem written : (e : Term) → (level : Nat) →
    Written (e.render level) fun ns => ReadsAt level ns e.expr
  | identifier x, level => x.written fun p => .of_operand (reads_identifier p x) level
  | quoted s, level => s.written fun p => .of_operand (reads_quoted p _ _) level
  | constant c, level => c.written fun p => .of_operand (reads_constant p c) level
  | number n, level => n.written fun p => .of_operand (reads_number p _ _) level
  | list items, level => .group .square (itemsWritten items).listed fun p q _ h =>
      .of_operand (reads_square p q h) level
  | record fields, level => .group .curly (fieldsWritten fields).listed fun p q _ h =>
      .of_operand (reads_curly p q h) level
  | tagged name fields, level =>
    (written_tagged name (fieldsWritten fields)).mono fun _ h => .of_operand h level
  | binary op l r, level => by
    have plain := written_binary op (l.written op.leftLevel) (r.written op.rightLevel)
    rw [render]
    split
    · exact .group .round plain.spells fun p q _ h =>
        .of_operand (reads_round p q (h.mono (Nat.zero_le _)).reads) level
    · next tight => exact plain.mono fun _ h => h.mono (Nat.le_of_not_lt tight)

theorem itemsWritten : (items : List Term) →
    AllWritten .expr (renderItems items) (exprs items)
  | [] => .nil
  | e :: es => .cons ((e.written 0).mono fun _ => ReadsAt.reads) (itemsWritten es)

theorem fieldsWritten : (fields : List (Key × Term)) →
    AllWritten .exprField (renderFields fields) (exprFields fields)
  | [] => .nil
  | (key, e) :: fields =>
    .cons (key.written_field ((e.written 0).mono fun _ => ReadsAt.reads)) (fieldsWritten fields)

end

end Term

/-! ## Programs -/

/-- The rule `_ @ _ -> null`: on every event every state stays. -/
def Rule.idle : Rule := ⟨.sequence [.state .wildcard, .event .wildcard], .next (.const .null) []⟩

/-- The nodes of the rule. -/
def idleNodes (p q r s t : Position) : List (Node Value) :=
  [.token ⟨.identifier, "_", p⟩, .token ⟨.operator, "@", q⟩, .token ⟨.identifier, "_", r⟩,
    .token ⟨.operator, "->", s⟩, .token ⟨.identifier, "null", t⟩]

theorem spells_idle : Spells ("_" ++ (" " ++ "@" ++ " ") ++ "_" ++ (" " ++ "->" ++ " ") ++ "null")
    Ends fun ns => ∃ p q r s t, ns = idleNodes p q r s t := by
  have wildcard : Written "_" fun ns => ∃ p, ns = [.token ⟨.identifier, "_", p⟩] :=
    Name.written ⟨"_", by decide, by decide⟩ fun p => ⟨p, rfl⟩
  have null : Written "null" fun ns => ∃ p, ns = [.token ⟨.identifier, "null", p⟩] :=
    Constant.written .null fun p => ⟨p, rfl⟩
  have on := spells_spaced "@" (by decide)
  have arrow := spells_spaced "->" (by decide)
  have blank (text : String) (rest : List Char) : Ends ((" " ++ text ++ " ").toList ++ rest) := by
    rw [String.toList_append, String.toList_append]
    rintro _ ⟨⟩
    decide
  refine ((((wildcard.spells.append on fun _ _ => blank _ _).append wildcard.spells
    fun rest _ => wildcard.solid rest).append arrow fun _ _ => blank _ _).append null.spells
    fun rest _ => null.solid rest).imp ?_
  rintro _ ⟨_, _, rfl, ⟨_, _, rfl, ⟨_, _, rfl, ⟨_, _, rfl, ⟨p, rfl⟩, q, rfl⟩, r, rfl⟩, s, rfl⟩,
    t, rfl⟩
  exact ⟨p, q, r, s, t, rfl⟩

section

variable {stop : Position} {ns : List (Node Value)}

/-- A declaration and a rule are a program. -/
theorem program_of_declaration_of_rule {d r : Declaration} {c : Cursor} (valid : c.Valid)
    (first : Production.declaration.read c () = .ok d { nodes := ns, stop } ())
    (noMore : Production.declaration.read { nodes := ns, stop } () = .mismatch ())
    (rule : Production.rule.read { nodes := ns, stop } () = .ok r { nodes := [], stop } ()) :
    Production.program.read c () = .ok [d, r] { nodes := [], stop } () := by
  have noRule : Production.rule.read { nodes := [], stop } () = .mismatch () := by
    simp (disch := first | decide | simp)
  have declarations : (Phrase.many (.production .declaration)).parse Production.read
      { nodes := ns, stop } () = .ok [] { nodes := ns, stop } () := by
    rw [Phrase.parse_many rfl (.inl rfl)]
    simp [noMore, -Production.read_cons]
  have rules : (Phrase.many (.production .rule)).parse Production.read { nodes := [], stop } () =
      .ok [] { nodes := [], stop } () := by
    rw [Phrase.parse_many rfl (.inl rfl)]
    simp [noRule, -Production.read_nil]
  rw [Production.read_eq _ valid]
  simp [first, declarations, rule, rules, Parse.finish, -Production.read_cons, -Phrase.parse_many]

/-- The nodes of a start state and the rule. -/
theorem program_nodes (stop : Position) {x : Expr} (h : Reads .expr 0 ns x)
    (word equals line p q r s t : Position) :
    Production.program.read
      { nodes := .token ⟨.identifier, "start", word⟩ :: .token ⟨.operator, "=", equals⟩ ::
          (ns ++ .token ⟨.line, "\n", line⟩ :: idleNodes p q r s t), stop } () =
      .ok [.start x, .rule .idle] { nodes := [], stop } () := by
  have stops : Stops 0 (.token ⟨.line, "\n", line⟩ :: idleNodes p q r s t) :=
    .line (.operand rfl)
  have value := (reads_tagExpr h).reads _ stop stops
  have first : Production.declaration.read
      { nodes := .token ⟨.identifier, "start", word⟩ :: .token ⟨.operator, "=", equals⟩ ::
          (ns ++ .token ⟨.line, "\n", line⟩ :: idleNodes p q r s t), stop } () =
      .ok (.start x) { nodes := .token ⟨.line, "\n", line⟩ :: idleNodes p q r s t, stop } () := by
    rw [Production.read_cons]
    simp [value]
  refine program_of_declaration_of_rule (.inl rfl) first ?_ ?_
  · simp [idleNodes]
  · simp (disch := first | decide | simp) [idleNodes, Rule.idle, Expr.chain]

end

namespace Term

/-- A program that starts with the term. -/
def source (e : Term) : String := "start = " ++ e.render 0 ++ "\n_ @ _ -> null"

/-- The tree of the program. -/
theorem tree_source (e : Term) : ∃ tree, (Template.ofText e.source).tree = .ok tree ∧
    ∃ word equals line p q r s t ns, Reads .expr 0 ns e.expr ∧
      tree.nodes = .token ⟨.identifier, "start", word⟩ :: .token ⟨.operator, "=", equals⟩ ::
        (ns ++ .token ⟨.line, "\n", line⟩ :: idleNodes p q r s t) := by
  have word : Written "start" fun ns => ∃ p, ns = [.token ⟨.identifier, "start", p⟩] :=
    Name.written ⟨"start", by decide, by decide⟩ fun p => ⟨p, rfl⟩
  have equals := spells_spaced "=" (by decide)
  have front := word.spells.append equals fun _ _ => by rintro _ ⟨⟩; decide
  have declaration := front.append (e.written 0).spells fun rest _ => (e.written 0).solid rest
  obtain ⟨tree, line, _, _, made, nodes, spelled, p, q, r, s, t, rfl⟩ :=
    Template.tree_of_lines declaration spells_idle (by rintro _ _ ⟨⟩; decide) (by rintro _ ⟨⟩)
      (by rintro _ ⟨⟩; decide)
  obtain ⟨_, ns, rfl, ⟨_, _, rfl, ⟨word, rfl⟩, equals, rfl⟩, reads⟩ := spelled
  have text : e.source = "start" ++ (" " ++ "=" ++ " ") ++ e.render 0 ++ "\n" ++
      ("_" ++ (" " ++ "@" ++ " ") ++ "_" ++ (" " ++ "->" ++ " ") ++ "null") := by
    rw [String.append_assoc]
    rfl
  rw [text]
  exact ⟨tree, made, word, equals, line, p, q, r, s, t, ns, reads.reads, nodes⟩

/-- Parsed as the start state of a program, a term as it is written gives the expression that it is,
and in every scope this gives a value that the term denotes. -/
theorem parse_source (e : Term) :
    (Template.ofText e.source).parse = .ok [.start e.expr, .rule .idle] ∧
    ∀ [Regex.Engine] {σ : Type} (call : HostFn → Scope → Run σ Value) (s : Scope) (w : World σ),
      e.Denotes s (e.expr.eval call s w).1 := by
  refine ⟨?_, fun call s w => e.denotes_eval call s w⟩
  obtain ⟨tree, made, word, equals, line, p, q, r, s, t, ns, reads, nodes⟩ := e.tree_source
  have read := program_nodes tree.stop reads word equals line p q r s t
  rw [← nodes] at read
  rw [Template.parse, made]
  change tree.program.mapError CompileError.grammar = _
  rw [tree.program_of_plain read]
  rfl

end Term

end RuleMachine
