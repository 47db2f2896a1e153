import RuleMachine.Grammar.Productions

/-!
# Reading goes forward

A cursor from which something was read stands at the same place or further on, and further on if
what was read takes anything (`Phrase.consumes`). Every production takes something
(`Production.parse_goes`), so nothing is read twice without the cursor having moved.
-/

namespace RuleMachine

namespace Cursor

/-- A cursor stands before a node, or inside a symbol. -/
def Valid (c : Cursor) : Prop :=
  c.split = 0 ∨ ∃ t rest, c.nodes = .token t :: rest ∧ t.isSymbol ∧ c.split < t.text.length

/-- `d` stands further on than `c` in the same nodes. -/
def Before (c d : Cursor) : Prop :=
  d.stop = c.stop ∧
    (d.nodes = c.nodes ∧ c.split < d.split ∨ ∃ n passed, c.nodes = n :: passed ++ d.nodes)

/-- `d` stands where `c` stands, or further on. -/
def Reaches (c d : Cursor) : Prop := d = c ∨ c.Before d

variable {c d e : Cursor}

theorem Before.reaches (h : c.Before d) : c.Reaches d := .inr h

theorem Reaches.refl (c : Cursor) : c.Reaches c := .inl rfl

theorem Before.trans (h : c.Before d) (h' : d.Before e) : c.Before e := by
  obtain ⟨stop, moved⟩ := h
  obtain ⟨stop', moved'⟩ := h'
  refine ⟨stop'.trans stop, ?_⟩
  rcases moved with ⟨same, less⟩ | ⟨n, passed, nodes⟩ <;>
    rcases moved' with ⟨same', less'⟩ | ⟨n', passed', nodes'⟩
  · exact .inl ⟨same'.trans same, by omega⟩
  · exact .inr ⟨n', passed', by rw [← same, nodes']⟩
  · exact .inr ⟨n, passed, by rw [nodes, same']⟩
  · exact .inr ⟨n, passed ++ n' :: passed', by rw [nodes, nodes']; simp⟩

theorem Reaches.before (h : c.Reaches d) (h' : d.Before e) : c.Before e := by
  rcases h with rfl | h
  · exact h'
  · exact h.trans h'

theorem Before.then (h : c.Before d) (h' : d.Reaches e) : c.Before e := by
  rcases h' with rfl | h'
  · exact h
  · exact h.trans h'

theorem Reaches.trans (h : c.Reaches d) (h' : d.Reaches e) : c.Reaches e := by
  rcases h with rfl | h
  · exact h'
  · exact (h.then h').reaches

theorem Reaches.stop_eq (h : c.Reaches d) : d.stop = c.stop := by
  rcases h with rfl | h
  · rfl
  · exact h.1

theorem Before.not_sameAs (h : c.Before d) : d.sameAs c = false := by
  obtain ⟨-, ⟨-, less⟩ | ⟨n, passed, nodes⟩⟩ := h
  · simp [sameAs]; omega
  · simp [sameAs, nodes]; omega

/-! ## How much is left -/

theorem Valid.split_lt (valid : c.Valid) {n : Node Value} {rest : List (Node Value)}
    (nodes : c.nodes = n :: rest) {weight : Node Value → Nat} (pos : 0 < weight n)
    (tokens : ∀ t, t.text.length < weight (.token t)) : c.split < weight n := by
  rcases valid with zero | ⟨t, rest', nodes', -, less⟩
  · omega
  · obtain ⟨rfl, -⟩ := List.cons.inj (nodes.symm.trans nodes')
    exact Nat.lt_trans less (tokens t)

/-- Whatever weighs every node, and a token more than its text is long, weighs less further on. -/
theorem Before.weight_lt (h : c.Before d) (valid : c.Valid) (valid' : d.Valid)
    (weight : Node Value → Nat) (total : List (Node Value) → Nat)
    (cons : ∀ n ns, total (n :: ns) = weight n + total ns) (pos : ∀ n, 0 < weight n)
    (tokens : ∀ t, t.text.length < weight (.token t)) :
    total d.nodes - d.split < total c.nodes - c.split := by
  obtain ⟨-, ⟨same, less⟩ | ⟨n, passed, nodes⟩⟩ := h
  · rcases valid' with zero | ⟨t, rest, nodes, -, bound⟩
    · omega
    · have : t.text.length < total d.nodes := by
        rw [nodes, cons]
        exact Nat.lt_add_right _ (tokens t)
      rw [← same]
      omega
  · have front := valid.split_lt nodes (pos n) tokens
    have rest : total d.nodes ≤ total (passed ++ d.nodes) := by
      clear nodes
      induction passed with
      | nil => exact Nat.le_refl _
      | cons m ms ih => rw [List.cons_append, cons]; omega
    rw [nodes, List.cons_append, cons]
    omega

theorem Node.steps_pos (n : Node Value) : 0 < Node.steps n := by
  cases n with
  | token t => exact Nat.succ_pos _
  | group => exact Nat.one_pos

theorem Before.steps_lt (h : c.Before d) (valid : c.Valid) (valid' : d.Valid) :
    d.steps < c.steps :=
  Nat.succ_lt_succ (h.weight_lt valid valid' Node.steps
    (fun ns => ns.foldr (fun n total => Node.steps n + total) 0)
    (fun _ _ => rfl) Node.steps_pos fun _ => Nat.lt_succ_self _)

theorem steps_pos (c : Cursor) : 0 < c.steps := Nat.succ_pos _

theorem Reaches.steps_le (h : c.Reaches d) (valid : c.Valid) (valid' : d.Valid) :
    d.steps ≤ c.steps := by
  rcases h with rfl | h
  · exact Nat.le_refl _
  · exact Nat.le_of_lt (h.steps_lt valid valid')

/-- The size of what is left of the nodes, with all that is inside them. -/
def room (c : Cursor) : Nat := RuleMachine.Node.sizes c.nodes - c.split

theorem size_pos (n : Node Value) : 0 < RuleMachine.Node.size n := by
  cases n with
  | token t => exact Nat.succ_pos _
  | group opener closer children => rw [RuleMachine.Node.size]; omega

theorem Before.room_lt (h : c.Before d) (valid : c.Valid) (valid' : d.Valid) : d.room < c.room :=
  h.weight_lt valid valid' RuleMachine.Node.size RuleMachine.Node.sizes
    (fun n ns => by rw [RuleMachine.Node.sizes]) size_pos
    fun t => by rw [RuleMachine.Node.size]; exact Nat.lt_succ_self _

theorem Reaches.room_le (h : c.Reaches d) (valid : c.Valid) (valid' : d.Valid) :
    d.room ≤ c.room := by
  rcases h with rfl | h
  · exact Nat.le_refl _
  · exact Nat.le_of_lt (h.room_lt valid valid')

/-! ## Passing line breaks, nodes and terminals -/

theorem dropWhile_eq {α : Type} (p : α → Bool) (xs : List α) :
    xs.dropWhile p = xs ∨ ∃ x passed, xs = x :: passed ++ xs.dropWhile p := by
  cases front : xs.takeWhile p with
  | nil => exact .inl (by simpa [front] using (List.takeWhile_append_dropWhile (p := p) (l := xs)))
  | cons x passed => exact .inr ⟨x, passed, by rw [← front, List.takeWhile_append_dropWhile]⟩

theorem skipLines_reaches (c : Cursor) : c.Reaches c.skipLines := by
  unfold skipLines
  split
  · next zero =>
    rcases dropWhile_eq (·.isLine) c.nodes with same | passed
    · exact .inl (by rw [same])
    · exact .inr ⟨rfl, .inr passed⟩
  · exact .refl c

/-- Where no line break is in front none is passed. -/
theorem skipLines_eq_of_inLine (c : Cursor) (inLine : ¬c.atLineOrEnd) : c.skipLines = c := by
  unfold skipLines
  split
  · next unsplit =>
    obtain ⟨nodes, split, stop⟩ := c
    cases nodes with
    | nil => simp [atLineOrEnd] at inLine; exact absurd unsplit inLine
    | cons n rest =>
      have other : ¬n.isLine := fun line => inLine (by simp [atLineOrEnd, line]; exact unsplit)
      simp only [List.dropWhile_cons_of_neg other]
  · rfl

theorem Valid.skipLines (valid : c.Valid) : c.skipLines.Valid := by
  unfold Cursor.skipLines
  split
  · next zero => exact .inl zero
  · exact valid

theorem Valid.next (c : Cursor) : c.next.Valid := .inl rfl

theorem before_next {n : Node Value} {rest : List (Node Value)} (nodes : c.nodes = n :: rest) :
    c.Before c.next :=
  ⟨rfl, .inr ⟨n, [], by simp [Cursor.next, nodes]⟩⟩

/-- A cursor is inside symbols only. -/
theorem Valid.split_eq_zero (valid : c.Valid) {t : Token Value} (front : c.token? = some t)
    (solid : t.isSymbol = false) : c.split = 0 := by
  rcases valid with zero | ⟨t', rest, nodes, symbol, -⟩
  · exact zero
  · simp [token?, nodes] at front
    simp [← front, symbol] at solid

theorem Valid.split_eq_zero_of_group (valid : c.Valid) {opener closer : Token Value}
    {children rest : List (Node Value)} (nodes : c.nodes = .group opener closer children :: rest) :
    c.split = 0 := by
  rcases valid with zero | ⟨t, rest', nodes', -⟩
  · exact zero
  · rw [nodes] at nodes'
    cases nodes'

theorem nodes_of_token? {t : Token Value} (h : c.token? = some t) :
    ∃ rest, c.nodes = .token t :: rest := by
  unfold token? at h
  split at h
  · next rest nodes => exact ⟨rest, by rw [nodes, Option.some.inj h]⟩
  · cases h

end Cursor

namespace Terminal

variable {α : Type}

/-- Whether a terminal takes anything. -/
def consumes : {α : Type} → Terminal α → Bool
  | _, .symbol text => text.toList ≠ []
  | _, _ => true

/-- Whether a terminal takes whole tokens. -/
def whole : {α : Type} → Terminal α → Bool
  | _, .symbol _ => false
  | _, _ => true

/-- What a whole token stands for as a terminal. A symbol may be a part of its token and stands for
nothing here. -/
def value? : {α : Type} → Terminal α → Token Value → Option α
  | _, .symbol _, _ => none
  | _, .word text, t => if t.identifier? = some text then some () else none
  | _, .name, t => t.identifier?
  | _, .ident, t => t.identifier?.filter (!keywords.contains ·)
  | _, .quoted, t =>
    match t.literal? with
    | some (.quoted s) => some s
    | _ => none
  | _, .number, t =>
    match t.literal? with
    | some (.number n) => some n
    | _ => none
  | _, .callable, t =>
    match t.literal? with
    | some (.injected (.callable f)) => some f
    | _ => none
  | _, .literal, t =>
    match t.literal? with
    | some (.quoted s) => some (.string s)
    | some (.number n) => some (.number n)
    | some (.injected (.callable _)) | none => none
    | some (.injected v) => some v

/-- No whole terminal is a symbol token. -/
theorem not_isSymbol_of_value? {x : Terminal α} {t : Token Value} {a : α}
    (h : x.value? t = some a) : t.isSymbol = false := by
  obtain ⟨kind, text, place⟩ := t
  cases kind with
  | line | ignored | identifier | literal => rfl
  | punctuation | operator => cases x <;> cases h

end Terminal

namespace Parse

variable {ρ α β : Type} {c d : Cursor}

/-- A terminal that is no symbol takes a whole token. -/
theorem terminal?_eq (valid : c.Valid) {x : Terminal α} (whole : x.whole) :
    terminal? c x = (c.token?.bind x.value?).map fun a => (a, c.next) := by
  cases front : c.token? with
  | none => cases x <;> simp [terminal?, front]
  | some t =>
    have unsplit := valid.split_eq_zero front
    obtain ⟨kind, text, place⟩ := t
    cases kind with
    | line | ignored | punctuation | operator =>
      cases x <;> simp_all [terminal?, Terminal.value?, Terminal.whole, Token.identifier?,
        Token.literal?]
    | identifier =>
      cases x <;> simp_all [terminal?, Terminal.value?, Terminal.whole, Token.identifier?,
        Token.literal?, Token.isSymbol, Option.filter]
      split <;> rfl
    | literal l =>
      rcases l with s | n | v
      · cases x <;> simp_all [terminal?, Terminal.value?, Terminal.whole, Token.identifier?,
          Token.literal?, Token.isSymbol]
      · cases x <;> simp_all [terminal?, Terminal.value?, Terminal.whole, Token.identifier?,
          Token.literal?, Token.isSymbol]
      · cases v <;> cases x <;> simp_all [terminal?, Terminal.value?, Terminal.whole,
          Token.identifier?, Token.literal?, Token.isSymbol]

/-- A symbol takes characters of a symbol token, and the token once they are its last. -/
theorem terminal?_symbol {t : Token Value} (front : c.token? = some t) (text : String) :
    terminal? c (.symbol text) =
      if t.isSymbol && text.toList.isPrefixOf (c.rest t) then
        some ((), if t.text.length ≤ c.split + text.length then c.next
          else { c with split := c.split + text.length })
      else none := by
  simp only [terminal?, front]
  rfl

/-- A symbol token with some of its characters passed. -/
theorem symbol_before {t : Token Value} (text : String) (front : c.token? = some t)
    (symbol : t.isSymbol) :
    let d := if t.text.length ≤ c.split + text.length then c.next
      else { c with split := c.split + text.length }
    d.Valid ∧ c.Reaches d ∧ (text.toList ≠ [] → c.Before d) := by
  obtain ⟨rest, nodes⟩ := Cursor.nodes_of_token? front
  dsimp only
  split
  · exact ⟨.next c, (Cursor.before_next nodes).reaches, fun _ => Cursor.before_next nodes⟩
  · next inside =>
    refine ⟨.inr ⟨t, rest, nodes, symbol, Nat.lt_of_not_le inside⟩, ?_⟩
    cases length : text.length with
    | zero =>
      rw [← String.length_toList, List.length_eq_zero_iff, String.toList_eq_nil_iff] at length
      exact ⟨.refl c, by simp [length]⟩
    | succ n =>
      have before : c.Before { c with split := c.split + (n + 1) } :=
        ⟨rfl, .inl ⟨rfl, Nat.lt_add_of_pos_right n.succ_pos⟩⟩
      exact ⟨before.reaches, fun _ => before⟩

theorem terminal?_before (valid : c.Valid) {x : Terminal α} {a : α}
    (h : terminal? c x = some (a, d)) :
    d.Valid ∧ c.Reaches d ∧ (x.consumes → c.Before d) := by
  by_cases whole : x.whole
  · rw [terminal?_eq valid whole] at h
    obtain ⟨a', value, same⟩ := Option.map_eq_some_iff.mp h
    obtain ⟨t, front, -⟩ := Option.bind_eq_some_iff.mp value
    obtain ⟨rest, nodes⟩ := Cursor.nodes_of_token? front
    obtain ⟨-, rfl⟩ := Prod.mk.inj same
    exact ⟨.next c, (Cursor.before_next nodes).reaches, fun _ => Cursor.before_next nodes⟩
  · cases x with
    | symbol text =>
      simp only [terminal?, Option.bind_eq_bind, Option.bind_eq_some_iff] at h
      obtain ⟨t, front, h⟩ := h
      split at h
      · next fits =>
        obtain ⟨-, rfl⟩ := Prod.mk.inj (Option.some.inj h)
        simp only [Bool.and_eq_true] at fits
        simpa [Terminal.consumes] using symbol_before text front fits.1
      · cases h
    | _ => exact absurd rfl whole

/-! ## Readers -/

theorem andThen_ok {p : Parse ρ α} {q : α → Parse ρ β} {f g : ρ} {b : β}
    (h : andThen p q c f = .ok b d g) :
    ∃ a e f', p c f = .ok a e f' ∧ q a e f' = .ok b d g := by
  unfold andThen at h
  split at h
  · next a e f' first => exact ⟨a, e, f', first, h⟩
  all_goals cases h

theorem either_ok {p : Parse ρ α} {q : α → Parse ρ β} {r : Parse ρ β} {f g : ρ} {b : β}
    (h : either p q r c f = .ok b d g) :
    andThen p q c f = .ok b d g ∨ ∃ f', p c f = .mismatch f' ∧ r c f' = .ok b d g := by
  unfold either at h
  unfold andThen
  split at h
  · exact .inl h
  · next f' first => exact .inr ⟨f', first, h⟩
  all_goals cases h

/-- From a valid cursor, `p` leads to a valid cursor that is not before it, and with `strict` to
one further on. -/
def Goes (strict : Bool) (p : Parse ρ α) : Prop :=
  ∀ ⦃c f a d g⦄, c.Valid → p c f = .ok a d g → d.Valid ∧ c.Reaches d ∧ (strict → c.Before d)

theorem Goes.weaken {p : Parse ρ α} {strict : Bool} (h : Goes strict p) : Goes false p :=
  fun _ _ _ _ _ valid ok => ⟨(h valid ok).1, (h valid ok).2.1, nofun⟩

theorem Goes.pure (a : α) : Goes false fun c (f : ρ) => .ok a c f := by
  rintro c f a d g valid ⟨⟩
  exact ⟨valid, .refl c, nofun⟩

theorem Goes.andThen {p : Parse ρ α} {q : α → Parse ρ β} {s t : Bool} (hp : Goes s p)
    (hq : ∀ a, Goes t (q a)) : Goes (s || t) (andThen p q) := by
  intro c f b d g valid ok
  obtain ⟨a, e, f', first, second⟩ := andThen_ok ok
  obtain ⟨valid', reaches, before⟩ := hp valid first
  obtain ⟨valid'', reaches', before'⟩ := hq a valid' second
  refine ⟨valid'', reaches.trans reaches', fun strict => ?_⟩
  rcases Bool.or_eq_true_iff.mp strict with strict | strict
  · exact (before strict).then reaches'
  · exact reaches.before (before' strict)

theorem Goes.either {p : Parse ρ α} {q : α → Parse ρ β} {r : Parse ρ β} {s t u : Bool}
    (hp : Goes s p) (hq : ∀ a, Goes t (q a)) (hr : Goes u r) :
    Goes ((s || t) && u) (either p q r) := by
  intro c f b d g valid ok
  rcases either_ok ok with both | ⟨f', -, other⟩
  · obtain ⟨valid', reaches, before⟩ := hp.andThen hq valid both
    exact ⟨valid', reaches, fun strict => before (Bool.and_eq_true_iff.mp strict).1⟩
  · obtain ⟨valid', reaches, before⟩ := hr valid other
    exact ⟨valid', reaches, fun strict => before (Bool.and_eq_true_iff.mp strict).2⟩

/-- Line breaks may be passed first. -/
theorem Goes.skipLines {p : Parse ρ α} {strict : Bool} (hp : Goes strict p) :
    Goes strict fun c => p c.skipLines := by
  intro c f a d g valid ok
  obtain ⟨valid', reaches, before⟩ := hp valid.skipLines ok
  exact ⟨valid', c.skipLines_reaches.trans reaches,
    fun strict => c.skipLines_reaches.before (before strict)⟩

theorem Goes.ite {p q : Parse ρ α} {strict : Bool} (b : Cursor → Bool) (hp : Goes strict p)
    (hq : Goes strict q) : Goes strict fun c f => if b c then p c f else q c f := by
  intro c f a d g valid ok
  dsimp only at ok
  split at ok
  · exact hp valid ok
  · exact hq valid ok

theorem Goes.many {p : Parse ρ α} {strict : Bool} (hp : Goes strict p) (fuel : Nat) :
    Goes false (many p fuel) := by
  induction fuel with
  | zero => exact .pure []
  | succ fuel ih =>
    intro c f as d g valid ok
    refine (hp.weaken.either (t := false) (fun a => ?_) (.pure [])) valid ok
    exact .ite (·.sameAs c) (.pure [a]) (ih.andThen fun as => .pure (a :: as))

theorem Goes.lineList {p : Parse ρ α} {strict : Bool} (hp : Goes strict p) (fuel : Nat) :
    Goes false (lineList p fuel) := by
  induction fuel with
  | zero => exact .pure []
  | succ fuel ih =>
    exact .ite (·.atLineOrEnd) (.pure []) (.either hp.weaken
      (fun a => ih.andThen fun as => .pure (a :: as)) (.pure []))

/-! ### Repetitions end by themselves -/

theorem andThen_congr {p p' : Parse ρ α} {f : ρ} (same : p c f = p' c f) (q : α → Parse ρ β) :
    andThen p q c f = andThen p' q c f := by
  unfold Parse.andThen
  rw [same]

theorem andThen_congr_right {p : Parse ρ α} {q q' : α → Parse ρ β} {f : ρ}
    (same : ∀ a d g, p c f = .ok a d g → q a d g = q' a d g) :
    andThen p q c f = andThen p q' c f := by
  unfold Parse.andThen
  cases first : p c f with
  | ok a d g => exact same a d g first
  | _ => rfl

theorem either_congr {p : Parse ρ α} {q q' : α → Parse ρ β} {r : Parse ρ β} {f : ρ}
    (same : ∀ a d g, p c f = .ok a d g → q a d g = q' a d g) :
    either p q r c f = either p q' r c f := by
  unfold Parse.either
  cases first : p c f with
  | ok a d g => exact same a d g first
  | _ => rfl

/-- What takes something is never the last because it took nothing. -/
theorem many_succ {p : Parse ρ α} (goes : Goes true p) (valid : c.Valid) (fuel : Nat) (f : ρ) :
    many p (fuel + 1) c f =
      either p (fun a => andThen (many p fuel) fun as c f => .ok (a :: as) c f)
        (fun c f => .ok [] c f) c f := by
  refine either_congr fun a d g first => ?_
  rw [((goes valid first).2.2 rfl).not_sameAs]
  rfl

/-- Fuel for all steps is as good as more. -/
theorem many_enough {p : Parse ρ α} (goes : Goes true p) {fuel fuel' : Nat} (valid : c.Valid)
    (enough : c.steps ≤ fuel) (enough' : c.steps ≤ fuel') (f : ρ) :
    many p fuel c f = many p fuel' c f := by
  induction fuel generalizing c f fuel' with
  | zero => exact absurd enough (Nat.not_succ_le_zero _)
  | succ fuel ih =>
    obtain ⟨fuel', rfl⟩ := Nat.exists_eq_add_one.mpr (Nat.lt_of_lt_of_le c.steps_pos enough')
    rw [many_succ goes valid, many_succ goes valid]
    refine either_congr fun a d g first => andThen_congr ?_ _
    obtain ⟨valid', -, before⟩ := goes valid first
    have less := (before rfl).steps_lt valid valid'
    exact ih valid' (by omega) (by omega) g

theorem lineList_enough {p : Parse ρ α} (goes : Goes true p) {fuel fuel' : Nat} (valid : c.Valid)
    (enough : c.steps ≤ fuel) (enough' : c.steps ≤ fuel') (f : ρ) :
    lineList p fuel c f = lineList p fuel' c f := by
  induction fuel generalizing c f fuel' with
  | zero => exact absurd enough (Nat.not_succ_le_zero _)
  | succ fuel ih =>
    obtain ⟨fuel', rfl⟩ := Nat.exists_eq_add_one.mpr (Nat.lt_of_lt_of_le c.steps_pos enough')
    simp only [Parse.lineList]
    split
    · rfl
    refine either_congr fun a d g first => andThen_congr ?_ _
    obtain ⟨valid', -, before⟩ := goes valid first
    have less := (before rfl).steps_lt valid valid'
    exact ih valid' (by omega) (by omega) g

variable [Notepad ρ]

theorem Goes.want (what : String) (strict : Bool) : Goes strict (want what : Parse ρ α) :=
  fun _ _ _ _ _ _ ok => by cases ok

theorem Goes.terminal (x : Terminal α) : Goes x.consumes (terminal x : Parse ρ α) := by
  intro c f a d g valid ok
  unfold Parse.terminal at ok
  split at ok
  · next a' d' taken =>
    cases ok
    obtain ⟨valid', reaches, before⟩ := terminal?_before valid.skipLines taken
    exact ⟨valid', c.skipLines_reaches.trans reaches,
      fun solid => c.skipLines_reaches.before (before solid)⟩
  · cases ok

theorem Goes.commaRest {p : Parse ρ α} {strict : Bool} (hp : Goes strict p) (fuel : Nat) :
    Goes false (commaRest p fuel) := by
  induction fuel with
  | zero => exact .pure []
  | succ fuel ih =>
    refine (Goes.terminal (ρ := ρ) (.symbol ",")).weaken.either (t := false)
      (fun _ => ?_) (.pure [])
    exact .ite (·.skipLines.nodes.isEmpty) (Goes.pure []).skipLines
      (hp.weaken.andThen fun a => ih.andThen fun as => .pure (a :: as)).skipLines

theorem Goes.commaList {p : Parse ρ α} {strict : Bool} (hp : Goes strict p) :
    Goes false (commaList p) := by
  refine .ite (·.skipLines.nodes.isEmpty) (Goes.pure []).skipLines
    (hp.weaken.andThen (t := false) fun a => ?_).skipLines
  intro c f as d g valid ok
  exact (hp.commaRest c.steps).andThen (fun as => .pure (a :: as)) valid ok

theorem Goes.finish (what : String) : Goes false (finish what : Parse ρ Unit) := by
  intro c f a d g valid ok
  unfold Parse.finish at ok
  split at ok
  · cases ok
    exact ⟨valid.skipLines, c.skipLines_reaches, nofun⟩
  · cases ok

/-- What comes after a group does not hang on what is in it. -/
theorem Goes.group (b : Bracket) (p : Parse ρ α) (strict : Bool) : Goes strict (group b p) := by
  intro c f a d g valid ok
  simp only [Parse.group] at ok
  split at ok
  · next opener closer children rest nodes =>
    split at ok
    · obtain ⟨a', e, f', -, ok⟩ := andThen_ok ok
      obtain ⟨-, e', f'', -, ok⟩ := andThen_ok ok
      cases ok
      have before := c.skipLines_reaches.before (Cursor.before_next nodes)
      exact ⟨.next _, before.reaches, fun _ => before⟩
    · cases ok
  · cases ok

theorem Goes.refuse (keyword feature : String) (p : Parse ρ Unit) {r : Parse ρ α} {strict : Bool}
    (hr : Goes strict r) : Goes strict (refuse keyword feature p r) := by
  intro c f a d g valid ok
  simp only [Parse.refuse] at ok
  rcases either_ok ok with refused | ⟨f', -, other⟩
  · obtain ⟨-, e, f', -, refused⟩ := andThen_ok refused
    obtain ⟨-, -, -, -, refused⟩ := andThen_ok refused
    cases refused
  · exact hr.skipLines valid other

/-- Commas are passed one by one, too. -/
theorem commaRest_enough {p : Parse ρ α} {strict : Bool} (goes : Goes strict p) {fuel fuel' : Nat}
    (valid : c.Valid) (enough : c.steps ≤ fuel) (enough' : c.steps ≤ fuel') (f : ρ) :
    commaRest p fuel c f = commaRest p fuel' c f := by
  induction fuel generalizing c f fuel' with
  | zero => exact absurd enough (Nat.not_succ_le_zero _)
  | succ fuel ih =>
    obtain ⟨fuel', rfl⟩ := Nat.exists_eq_add_one.mpr (Nat.lt_of_lt_of_le c.steps_pos enough')
    refine either_congr fun _ d g comma => ?_
    obtain ⟨valid', -, before⟩ := Goes.terminal _ valid comma
    have less := (before rfl).steps_lt valid valid'
    split
    · rfl
    refine andThen_congr_right fun a e h item => andThen_congr ?_ _
    obtain ⟨valid'', reaches, -⟩ := goes valid'.skipLines item
    have le := (d.skipLines_reaches.trans reaches).steps_le valid' valid''
    exact ih valid'' (by omega) (by omega) h

end Parse

/-! ## Phrases and productions -/

/-- Whether whatever a phrase describes takes anything. Productions do. -/
def Phrase.consumes {ν : Type → Type} : {α : Type} → Phrase ν α → Bool
  | _, .terminal x => x.consumes
  | _, .production _ | _, .fail _ | _, .group _ _ => true
  | _, .seq p q => p.consumes || q.consumes
  | _, .choose p q r => (p.consumes || q.consumes) && r.consumes
  | _, .refuse _ _ _ r => r.consumes
  | _, .pure _ | _, .many _ | _, .commaList _ | _, .lineList _ | _, .finish _ => false

theorem Phrase.parse_goes {ρ : Type} [Notepad ρ] {ν : Type → Type}
    {call : {α : Type} → ν α → Parse ρ α} (hcall : ∀ {α} (n : ν α), Parse.Goes true (call n))
    {α : Type} (p : Phrase ν α) : Parse.Goes p.consumes (p.parse call) := by
  induction p with
  | pure a => exact .pure a
  | terminal x => exact .terminal x
  | production n => exact hcall n
  | fail what =>
    cases what with
    | some what => exact .want what _
    | none => exact fun _ _ _ _ _ _ ok => by cases ok
  | seq p q ihp ihq =>
    refine ihp.andThen fun g => ?_
    simpa using ihq.andThen fun a => .pure (g a)
  | choose p q r ihp ihq ihr =>
    refine ihp.either (fun a => ?_) ihr
    simpa using ihq.andThen fun g => .pure (g a)
  | many p ih => exact fun c _ _ _ _ valid ok => ih.many c.steps valid ok
  | commaList p ih => exact ih.commaList
  | lineList p ih => exact fun c _ _ _ _ valid ok => ih.lineList c.steps valid ok
  | group b p ih => exact .group b _ _
  | refuse keyword feature p r ihp ihr => exact .refuse keyword feature _ ihr
  | finish what => exact .finish what

namespace Production

theorem consumes_phrase {α : Type} (n : Production α) : n.phrase.consumes := by
  cases n <;> rfl

variable {ρ : Type} [Notepad ρ]

/-- Whatever a production is, it takes something. -/
theorem parse_goes (fuel : Nat) {α : Type} (n : Production α) :
    Parse.Goes true (n.parse fuel : Parse ρ α) := by
  induction fuel generalizing α with
  | zero => exact fun _ _ _ _ _ _ ok => by cases ok
  | succ fuel ih => exact n.consumes_phrase ▸ n.phrase.parse_goes fun n => ih n

end Production

end RuleMachine
