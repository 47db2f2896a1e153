import RuleMachine.Proofs.Grammar.Fuel

/-!
# Reading without notes

What nodes are read as does not depend on what is kept of the notes (`Tree.program_of_plain`). With
nothing kept, reading nodes whose front is known is simplification: each reader has an equation for
each kind of node in front.
-/

namespace RuleMachine

instance : Notepad Unit := ⟨fun _ _ _ => ()⟩

/-- A program that is read without notes is the program. -/
theorem Tree.program_of_plain {t : Tree Value} {ds : List Declaration} {d : Cursor}
    (h : Production.program.read t.start () = .ok ds d ()) : t.program = .ok ds := by
  have follows : Reply.Follows (fun _ _ => True) (Production.program.read t.start ())
      (Production.program.read t.start ({} : Furthest)) :=
    Production.program.parse_follows (fun _ _ _ _ _ => trivial) (Nat.le_refl _) t.start_valid
      trivial
  rw [h] at follows
  rw [program_eq]
  generalize Production.program.read t.start ({} : Furthest) = reply at follows
  cases follows
  rfl

/-- Whether an operand may begin with the node: it is a group, a name or a literal. -/
def Node.isOperand : Node Value → Bool
  | .group .. => true
  | .token t => match t.kind with
    | .identifier | .literal _ => true
    | _ => false

/-! ## The node in front -/

section

variable {α : Type} {k : TokenKind Value} {text : String} {p stop : Position}
  {opener closer : Token Value} {n : Node Value} {inside ns : List (Node Value)}

@[simp] theorem Cursor.skipLines_token (h : k ≠ .line) :
    Cursor.skipLines { nodes := .token ⟨k, text, p⟩ :: ns, stop } =
      { nodes := .token ⟨k, text, p⟩ :: ns, stop } := by
  cases k <;> first | rfl | exact absurd rfl h

@[simp] theorem Cursor.skipLines_group :
    Cursor.skipLines { nodes := .group opener closer inside :: ns, stop } =
      { nodes := .group opener closer inside :: ns, stop } := rfl

@[simp] theorem Cursor.skipLines_nil :
    Cursor.skipLines { nodes := [], stop } = { nodes := [], stop } := rfl

theorem Cursor.skipLines_operand (h : n.isOperand) :
    Cursor.skipLines { nodes := n :: ns, stop } = { nodes := n :: ns, stop } := by
  rcases n with ⟨_ | _ | _ | _ | _, text, p⟩ | _ <;> first | rfl | cases h

theorem Cursor.atLineOrEnd_operand (h : n.isOperand) :
    Cursor.atLineOrEnd { nodes := n :: ns, stop } = false := by
  rcases n with ⟨_ | _ | _ | _ | _, text, p⟩ | _ <;> first | rfl | cases h

/-- A production is read as its phrase is. -/
@[simp] theorem Production.read_cons (m : Production α) :
    m.read { nodes := n :: ns, stop } () =
      m.phrase.parse Production.read { nodes := n :: ns, stop } () :=
  m.read_eq (.inl rfl) ()

@[simp] theorem Production.read_nil (m : Production α) :
    m.read { nodes := [], stop } () = m.phrase.parse Production.read { nodes := [], stop } () :=
  m.read_eq (.inl rfl) ()

namespace Parse

variable {r : Parse Unit α}

@[simp] theorem want_plain (what : String) (c : Cursor) :
    (want what c () : Reply Unit α) = .mismatch () := rfl

@[simp] theorem terminal_token (x : Terminal α) (h : k ≠ .line) :
    terminal x { nodes := .token ⟨k, text, p⟩ :: ns, stop } () =
      match terminal? { nodes := .token ⟨k, text, p⟩ :: ns, stop } x with
      | some (a, d) => .ok a d ()
      | none => .mismatch () := by
  unfold terminal
  rw [Cursor.skipLines_token h]
  rfl

theorem terminal_operand (h : n.isOperand) (text : String) :
    terminal (.symbol text) { nodes := n :: ns, stop } () = .mismatch () := by
  rcases n with ⟨_ | _ | _ | _ | _, text, p⟩ | _ <;> first | rfl | exact absurd h Bool.false_ne_true

@[simp] theorem terminal_line (x : Terminal α) :
    terminal x { nodes := .token ⟨.line, text, p⟩ :: ns, stop } () =
      terminal x { nodes := ns, stop } () := rfl

@[simp] theorem terminal_nil (x : Terminal α) :
    terminal x { nodes := [], stop } () = .mismatch () := by
  cases x <;> rfl

@[simp] theorem group_token (b : Bracket) (h : k ≠ .line) :
    group b r { nodes := .token ⟨k, text, p⟩ :: ns, stop } () = .mismatch () := by
  unfold group
  rw [Cursor.skipLines_token h]
  rfl

@[simp] theorem group_line (b : Bracket) :
    group b r { nodes := .token ⟨.line, text, p⟩ :: ns, stop } () =
      group b r { nodes := ns, stop } () := rfl

@[simp] theorem group_nil (b : Bracket) : group b r { nodes := [], stop } () = .mismatch () := rfl

end Parse

end

/-! ## Phrases -/

namespace Phrase

variable {ν : Type → Type} {α β : Type}

@[simp] theorem map_eq (f : α → β) (p : Phrase ν α) : f <$> p = .seq (.pure f) p := rfl

@[simp] theorem seq_eq (p : Phrase ν (α → β)) (q : Phrase ν α) : p <*> q = .seq p q := rfl

@[simp] theorem seqRight_eq (p : Phrase ν α) (q : Phrase ν β) :
    p *> q = .seq (.seq (.pure (Function.const α id)) p) q := rfl

@[simp] theorem seqLeft_eq (p : Phrase ν α) (q : Phrase ν β) :
    p <* q = .seq (.seq (.pure (Function.const β)) p) q := rfl

section

variable {ρ : Type} [Notepad ρ] (call : {α : Type} → ν α → Parse ρ α)

@[simp] theorem parse_pure (a : α) :
    (Phrase.pure a : Phrase ν α).parse call = fun c f => .ok a c f := rfl

@[simp] theorem parse_terminal (x : Terminal α) :
    (terminal x : Phrase ν α).parse call = Parse.terminal x := rfl

@[simp] theorem parse_production (n : ν α) : (production n).parse call = call n := rfl

@[simp] theorem parse_fail (c : Cursor) (f : ρ) :
    (fail none : Phrase ν α).parse call c f = .mismatch f := rfl

@[simp] theorem parse_fail_some (what : String) :
    (fail (some what) : Phrase ν α).parse call = Parse.want what := rfl

@[simp] theorem parse_seq (p : Phrase ν (α → β)) (q : Phrase ν α) :
    (seq p q).parse call = Parse.andThen (p.parse call) fun g =>
      Parse.andThen (q.parse call) fun a c f => .ok (g a) c f := rfl

@[simp] theorem parse_choose (p : Phrase ν α) (q : Phrase ν (α → β)) (r : Phrase ν β) :
    (choose p q r).parse call = Parse.either (p.parse call)
      (fun a => Parse.andThen (q.parse call) fun g c f => .ok (g a) c f) (r.parse call) := rfl

@[simp] theorem parse_group (b : Bracket) (p : Phrase ν α) :
    (group b p).parse call = Parse.group b (p.parse call) := rfl

@[simp] theorem parse_finish (what : String) :
    (finish what : Phrase ν Unit).parse call = Parse.finish what := rfl

end

end Phrase

@[simp] theorem Cursor.valid_unsplit (ns : List (Node Value)) (stop : Position) :
    Cursor.Valid { nodes := ns, stop } := .inl rfl

theorem Production.read_goes {α : Type} (n : Production α) : (n.read : Parse Unit α).Goes true :=
  fun _ _ _ _ _ valid ok => n.parse_goes _ valid ok

/-! ## Repetitions

What is left of a repetition after an item is the repetition again. -/

namespace Phrase

variable {α : Type} {p : Phrase Production α} {c : Cursor}

@[simp] theorem parse_many (consumes : p.consumes) (valid : c.Valid) :
    (many p).parse Production.read c () =
      Parse.either (p.parse Production.read)
        (fun a => Parse.andThen ((many p).parse Production.read) fun as c f => .ok (a :: as) c f)
        (fun c f => .ok [] c f) c () := by
  have goes := consumes ▸ p.parse_goes Production.read_goes
  obtain ⟨fuel, steps⟩ := Nat.exists_eq_add_one.mpr c.steps_pos
  change Parse.many _ c.steps c () = _
  rw [steps, Parse.many_succ goes valid]
  refine Parse.either_congr fun a d _ first => Parse.andThen_congr ?_ _
  obtain ⟨valid', -, before⟩ := goes valid first
  have less := (before rfl).steps_lt valid valid'
  exact Parse.many_enough goes valid' (by omega) (Nat.le_refl _) ()

@[simp] theorem parse_lineList (consumes : p.consumes) (valid : c.Valid) :
    (lineList p).parse Production.read c () =
      if c.atLineOrEnd then .ok [] c ()
      else Parse.either (p.parse Production.read)
        (fun a => Parse.andThen ((lineList p).parse Production.read)
          fun as c f => .ok (a :: as) c f)
        (fun c f => .ok [] c f) c () := by
  have goes := consumes ▸ p.parse_goes Production.read_goes
  obtain ⟨fuel, steps⟩ := Nat.exists_eq_add_one.mpr c.steps_pos
  change Parse.lineList _ c.steps c () = _
  rw [steps]
  simp only [Parse.lineList]
  split
  · rfl
  refine Parse.either_congr fun a d _ first => Parse.andThen_congr ?_ _
  obtain ⟨valid', -, before⟩ := goes valid first
  have less := (before rfl).steps_lt valid valid'
  exact Parse.lineList_enough goes valid' (by omega) (Nat.le_refl _) ()

@[simp] theorem parse_commaList (c : Cursor) : (commaList p).parse Production.read c () =
    if c.skipLines.nodes.isEmpty then .ok [] c.skipLines ()
    else Parse.andThen (p.parse Production.read)
      (fun a => Parse.andThen (fun c => Parse.commaRest (p.parse Production.read) c.steps c)
        fun as c f => .ok (a :: as) c f) c.skipLines () := rfl

/-- After an item comes the end, or a comma and then the end or an item. -/
theorem commaRest_eq (p : Phrase Production α) (valid : c.Valid) :
    Parse.commaRest (p.parse Production.read) c.steps c () =
      Parse.either (Parse.terminal (.symbol ","))
        (fun _ c f =>
          if c.skipLines.nodes.isEmpty then .ok [] c.skipLines f
          else Parse.andThen (p.parse Production.read)
            (fun a => Parse.andThen (fun c => Parse.commaRest (p.parse Production.read) c.steps c)
              fun as c f => .ok (a :: as) c f) c.skipLines f)
        (fun c f => .ok [] c f) c () := by
  have goes := p.parse_goes Production.read_goes
  obtain ⟨fuel, steps⟩ := Nat.exists_eq_add_one.mpr c.steps_pos
  rw [steps, Parse.commaRest]
  refine Parse.either_congr fun _ d _ comma => ?_
  obtain ⟨valid', -, before⟩ := Parse.Goes.terminal _ valid comma
  have less := (before rfl).steps_lt valid valid'
  split
  · rfl
  refine Parse.andThen_congr_right fun a e _ item => Parse.andThen_congr ?_ _
  obtain ⟨valid'', reaches, -⟩ := goes valid'.skipLines item
  have le := (d.skipLines_reaches.trans reaches).steps_le valid' valid''
  exact Parse.commaRest_enough goes valid'' (by omega) (Nat.le_refl _) ()

end Phrase

/-! ## What to unfold

With `Plain` open, simplification reads nodes whose front is known. -/

namespace Plain

attribute [scoped simp] Parse.terminal? Cursor.token? Cursor.rest Cursor.next Token.isSymbol
  Token.identifier? Token.literal? Parse.andThen Parse.either Phrase.oneOf Phrase.orElse
  Phrase.optional Phrase.separatedBy Phrase.symbol Phrase.word Phrase.consumes Terminal.consumes
  Production.phrase Production.constant Production.operator Production.taggedForm Production.pair
  Production.combined

end Plain

end RuleMachine
