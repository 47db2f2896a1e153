import Mathlib.Data.List.Induction
import RuleMachine.Proofs.Grammar.Fuel
import RuleMachine.Template

/-!
# What messages say

What reading asks for in vain is a refusal, at the cursor where it was asked for. Of all refusals of
a tree in order (`Tree.refusals`) the message keeps those with the greatest byte offset: the place
of the first of them, and what was wanted by any of them (`Furthest.Keeps`). There always are
refusals where a tree does not fit the grammar (`Phrase.parse_notes`).

Offsets do not tell all places apart. A line break has an offset of its own, though it is passed
before most terminals are looked for, and an injected value has the offset of what comes after it.
-/

namespace RuleMachine

/-- Something that was asked for in vain at a cursor. -/
structure Refusal where
  cursor : Cursor
  wanted : String

def Refusal.offset (r : Refusal) : Nat := r.cursor.position.offset

/-- All refusals in order. -/
instance : Notepad (List Refusal) := ⟨fun log c what => log ++ [⟨c, what⟩]⟩

/-! ## What is kept of the refusals -/

theorem eraseDups_concat (ws : List String) (w : String) :
    (ws ++ [w]).eraseDups = if w ∈ ws then ws.eraseDups else ws.eraseDups ++ [w] := by
  rw [List.eraseDups_append]
  by_cases mem : w ∈ ws
  · simp [List.removeAll, mem]
  · simp [List.removeAll, mem, List.eraseDups_cons]

theorem mem_eraseDups (ws : List String) (w : String) : w ∈ ws.eraseDups ↔ w ∈ ws := by
  induction ws using List.reverseRecOn with
  | nil => simp
  | append_singleton ws v ih =>
    rw [eraseDups_concat]
    by_cases mem : v ∈ ws
    · by_cases same : w = v
      · simp [same, mem]
      · simp [same, mem, ih]
    · simp [mem, ih]

theorem eraseDups_singleton (w : String) : [w].eraseDups = [w] := by
  simp [List.eraseDups_cons]

namespace Furthest

/-- What is kept of a log. -/
def ofLog (log : List Refusal) : Furthest := log.foldl (fun f r => f.note r.cursor r.wanted) {}

/-- `f` has the place of the first of the refusals with the greatest offset, and what was wanted by
any refusal with this offset, each once, in order. -/
def Keeps (f : Furthest) (log : List Refusal) : Prop :=
  ∃ earlier r later, log = earlier ++ r :: later ∧
    (∀ q ∈ earlier, q.offset < r.offset) ∧ (∀ q ∈ later, q.offset ≤ r.offset) ∧
    f.place = some r.cursor.position ∧ f.found = r.cursor.describe ∧
    f.expected = ((log.filter (·.offset = r.offset)).map (·.wanted)).eraseDups

theorem ofLog_append (log : List Refusal) (r : Refusal) :
    ofLog (log ++ [r]) = (ofLog log).note r.cursor r.wanted := by
  simp [ofLog]

theorem keeps_singleton (r : Refusal) : (note {} r.cursor r.wanted).Keeps [r] :=
  ⟨[], r, [], rfl, nofun, nofun, rfl, rfl, by simp [eraseDups_singleton, Furthest.note]⟩

section

variable {f : Furthest} {q r : Refusal} (place : f.place = some r.cursor.position)
include place

theorem note_of_lt (less : q.offset < r.offset) : f.note q.cursor q.wanted = f := by
  simp only [note, place]
  exact if_pos less

theorem note_of_eq (same : q.offset = r.offset) : f.note q.cursor q.wanted =
    if q.wanted ∈ f.expected then f else { f with expected := f.expected ++ [q.wanted] } := by
  simp only [Refusal.offset] at same
  simp [note, place, same]

theorem note_of_gt (more : r.offset < q.offset) : f.note q.cursor q.wanted =
    ⟨some q.cursor.position, [q.wanted], q.cursor.describe⟩ := by
  simp only [Refusal.offset] at more
  simp [note, place, Nat.lt_asymm more, Nat.ne_of_lt more]

end

theorem Keeps.note {f : Furthest} {log : List Refusal} (h : f.Keeps log) (q : Refusal) :
    (f.note q.cursor q.wanted).Keeps (log ++ [q]) := by
  obtain ⟨earlier, r, later, rfl, before, after, place, found, expected⟩ := h
  rcases Nat.lt_trichotomy q.offset r.offset with less | same | more
  · rw [note_of_lt place less]
    refine ⟨earlier, r, later ++ [q], by simp, before, ?_, place, found, ?_⟩
    · simpa [or_imp, forall_and] using ⟨after, Nat.le_of_lt less⟩
    · rw [expected, List.filter_append]
      simp [Nat.ne_of_lt less]
  · rw [note_of_eq place same]
    refine ⟨earlier, r, later ++ [q], by simp, before, ?_, ?_, ?_, ?_⟩
    · simpa [or_imp, forall_and] using ⟨after, Nat.le_of_eq same⟩
    · split <;> exact place
    · split <;> exact found
    · have mem : q.wanted ∈ f.expected ↔ _ := expected ▸ mem_eraseDups _ _
      rw [List.filter_append, List.map_append, List.filter_cons_of_pos (by simpa using same),
        List.filter_nil, List.map_singleton, eraseDups_concat, ← expected]
      simp only [mem]
      split <;> rfl
  · rw [note_of_gt place more]
    have all : ∀ p ∈ earlier ++ r :: later, p.offset ≤ r.offset := by
      intro p mem
      rcases List.mem_append.mp mem with mem | mem
      · exact Nat.le_of_lt (before p mem)
      rcases List.mem_cons.mp mem with rfl | mem
      · exact Nat.le_refl _
      · exact after p mem
    have none_left : (earlier ++ r :: later).filter (·.offset = q.offset) = [] := by
      simp only [List.filter_eq_nil_iff, decide_eq_true_eq]
      exact fun p mem => Nat.ne_of_lt (Nat.lt_of_le_of_lt (all p mem) more)
    refine ⟨earlier ++ r :: later, q, [], rfl, ?_, nofun, rfl, rfl, ?_⟩
    · exact fun p mem => Nat.lt_of_le_of_lt (all p mem) more
    · rw [List.filter_append, none_left]
      simp [eraseDups_singleton]

theorem keeps_ofLog {log : List Refusal} (some : log ≠ []) : (ofLog log).Keeps log := by
  induction log using List.reverseRecOn with
  | nil => exact absurd rfl some
  | append_singleton log r ih =>
    rw [ofLog_append]
    cases log with
    | nil => exact keeps_singleton r
    | cons => exact (ih (List.cons_ne_nil _ _)).note r

end Furthest

/-! ## Nothing fails without a refusal -/

namespace Parse

variable {α β : Type} {p : Parse (List Refusal) α} {s t u : Bool}

/-- `p` takes nothing from the log; with `always` the log is not empty where `p` does not fit; and
`p` ends reading only for what has no meaning. -/
def Notes (always : Bool) (p : Parse (List Refusal) α) : Prop :=
  ∀ c f, (∀ a d g, p c f = .ok a d g → f ≠ [] → g ≠ []) ∧
    (∀ g, p c f = .mismatch g → f ≠ [] ∨ always → g ≠ []) ∧
    ∀ e, p c f = .fatal e → ∃ feature place, e = .unsupported feature place

theorem Notes.goes (a : α) (d : Cursor → Cursor) :
    Notes true fun c (f : List Refusal) => .ok a (d c) f :=
  fun _ _ => ⟨by rintro _ _ _ ⟨⟩; exact id, nofun, nofun⟩

theorem Notes.pure (a : α) : Notes true fun c (f : List Refusal) => .ok a c f := .goes a id

theorem Notes.want (what : String) : Notes true (want what : Parse (List Refusal) α) :=
  fun _ _ => ⟨nofun, by rintro _ ⟨⟩ _; exact List.append_ne_nil_of_right_ne_nil _ nofun, nofun⟩

theorem Notes.terminal (x : Terminal α) : Notes true (terminal x : Parse (List Refusal) α) := by
  intro c f
  unfold Parse.terminal
  split
  · exact Notes.pure _ _ f
  · exact Notes.want _ _ f

theorem Notes.andThen {q : α → Parse (List Refusal) β} (hp : Notes s p) (hq : ∀ a, Notes t (q a)) :
    Notes (s && t) (andThen p q) := by
  intro c f
  obtain ⟨kept, noted, raised⟩ := hp c f
  unfold Parse.andThen
  cases first : p c f with
  | ok a d g =>
    obtain ⟨kept', noted', raised'⟩ := hq a d g
    refine ⟨fun b e h second some => kept' b e h second (kept a d g first some), ?_, raised'⟩
    intro h second some
    exact noted' h second (some.imp (kept a d g first) fun both => (Bool.and_eq_true_iff.mp both).2)
  | mismatch g =>
    refine ⟨nofun, ?_, nofun⟩
    rintro _ ⟨⟩ some
    exact noted g first (some.imp_right fun both => (Bool.and_eq_true_iff.mp both).1)
  | fatal e => exact ⟨nofun, nofun, by rintro _ ⟨⟩; exact raised e first⟩
  | exhausted => exact ⟨nofun, nofun, nofun⟩

theorem Notes.either {q : α → Parse (List Refusal) β} {r : Parse (List Refusal) β} (hp : Notes s p)
    (hq : ∀ a, Notes t (q a)) (hr : Notes u r) : Notes (t && (s || u)) (either p q r) := by
  intro c f
  obtain ⟨kept, noted, raised⟩ := hp c f
  unfold Parse.either
  cases first : p c f with
  | ok a d g =>
    obtain ⟨kept', noted', raised'⟩ := hq a d g
    refine ⟨fun b e h second some => kept' b e h second (kept a d g first some), ?_, raised'⟩
    intro h second some
    exact noted' h second (some.imp (kept a d g first) fun both => (Bool.and_eq_true_iff.mp both).1)
  | mismatch g =>
    obtain ⟨kept', noted', raised'⟩ := hr c g
    refine ⟨fun b e h second some => kept' b e h second (noted g first (.inl some)), ?_, raised'⟩
    intro h second some
    refine noted' h second ?_
    rcases some with some | both
    · exact .inl (noted g first (.inl some))
    rcases Bool.or_eq_true_iff.mp (Bool.and_eq_true_iff.mp both).2 with always | always
    · exact .inl (noted g first (.inr always))
    · exact .inr always
  | fatal e => exact ⟨nofun, nofun, by rintro _ ⟨⟩; exact raised e first⟩
  | exhausted => exact ⟨nofun, nofun, nofun⟩

theorem Notes.ite {q : Parse (List Refusal) α} (b : Cursor → Bool) (hp : Notes s p)
    (hq : Notes s q) : Notes s fun c f => if b c then p c f else q c f := by
  intro c f
  dsimp only
  split
  · exact hp c f
  · exact hq c f

theorem Notes.weaken (hp : Notes s p) (le : t → s) : Notes t p :=
  fun c f => ⟨(hp c f).1, fun g h some => (hp c f).2.1 g h (some.imp_right le), (hp c f).2.2⟩

theorem Notes.skipLines (hp : Notes s p) : Notes s fun c => p c.skipLines :=
  fun c => hp c.skipLines

theorem Notes.many (hp : Notes s p) (fuel : Nat) : Notes true (many p fuel) := by
  induction fuel with
  | zero => exact .pure []
  | succ fuel ih =>
    intro c
    refine (hp.either (t := true) (fun a => ?_) (.pure [])).weaken (fun _ => by simp) c
    exact .ite (·.sameAs c) (.pure [a]) (ih.andThen fun as => .pure (a :: as))

theorem Notes.lineList (hp : Notes s p) (fuel : Nat) : Notes true (lineList p fuel) := by
  induction fuel with
  | zero => exact .pure []
  | succ fuel ih =>
    exact .ite (·.atLineOrEnd) (.pure []) ((hp.either
      (fun a => ih.andThen fun as => .pure (a :: as)) (.pure [])).weaken fun _ => by simp)

theorem Notes.commaRest (hp : Notes s p) (fuel : Nat) : Notes s (commaRest p fuel) := by
  induction fuel with
  | zero => exact (Notes.pure []).weaken fun _ => rfl
  | succ fuel ih =>
    refine (Notes.either (t := s) (.terminal (.symbol ",")) (fun _ => ?_) (.pure [])).weaken
      fun always => by simp [always]
    refine .ite (·.skipLines.nodes.isEmpty) ((Notes.pure []).weaken fun _ => rfl).skipLines ?_
    refine (hp.andThen (t := s) fun a => ?_).skipLines.weaken fun always => by simp [always]
    exact (ih.andThen fun as => .pure (a :: as)).weaken fun always => by simp [always]

theorem Notes.commaList (hp : Notes s p) : Notes s (commaList p) := by
  refine .ite (·.skipLines.nodes.isEmpty) ((Notes.pure []).weaken fun _ => rfl).skipLines ?_
  refine (hp.andThen (t := s) fun a => ?_).skipLines.weaken fun always => by simp [always]
  intro c
  exact ((hp.commaRest c.steps).andThen (fun as => .pure (a :: as))).weaken
    (fun always => by simp [always]) c

theorem Notes.finish (what : String) : Notes true (finish what : Parse (List Refusal) Unit) := by
  intro c f
  unfold Parse.finish
  split
  · exact Notes.pure () _ f
  · exact Notes.want _ _ f

theorem Notes.group (b : Bracket) (hp : Notes s p) : Notes s (group b p) := by
  intro c f
  simp only [Parse.group]
  split
  · split
    · next opener closer children _ _ _ =>
      have whole (a : α) : Notes true (Parse.andThen (Parse.finish s!"'{b.closer}'")
          fun _ _ (f : List Refusal) => .ok a c.skipLines.next f) :=
        (Notes.finish _).andThen fun _ => .goes a fun _ => c.skipLines.next
      exact (hp.andThen whole).weaken (fun always => by simp [always])
        { nodes := children, stop := closer.position } f
    · exact (Notes.want _).weaken (fun _ => rfl) _ f
  · exact (Notes.want _).weaken (fun _ => rfl) _ f

theorem Notes.refuse (keyword feature : String) {p : Parse (List Refusal) Unit}
    {r : Parse (List Refusal) α} (hp : Notes s p) (hr : Notes t r) :
    Notes s (refuse keyword feature p r) := by
  intro c
  refine ((Notes.terminal (.word keyword)).either (t := s) (fun _ => ?_) hr).weaken
    (fun always => by simp [always]) c.skipLines
  refine (hp.andThen (t := true) fun _ _ _ => ?_).weaken fun always => by simp [always]
  exact ⟨nofun, by rintro _ ⟨⟩, by rintro _ ⟨⟩; exact ⟨_, _, rfl⟩⟩

end Parse

/-- Whether there is a refusal wherever the phrase does not fit. Of productions there is. -/
def Phrase.notes {ν : Type → Type} : {α : Type} → Phrase ν α → Bool
  | _, .fail what => what.isSome
  | _, .seq p q => p.notes && q.notes
  | _, .choose p q r => q.notes && (p.notes || r.notes)
  | _, .commaList p | _, .group _ p => p.notes
  | _, .refuse _ _ p _ => p.notes
  | _, .pure _ | _, .terminal _ | _, .production _ | _, .many _ | _, .lineList _ | _, .finish _ =>
    true

theorem Phrase.parse_notes {ν : Type → Type} {call : {α : Type} → ν α → Parse (List Refusal) α}
    (hcall : ∀ {α} (n : ν α), Parse.Notes true (call n)) {α : Type} (p : Phrase ν α) :
    Parse.Notes p.notes (p.parse call) := by
  induction p with
  | pure a => exact .pure a
  | terminal x => exact .terminal x
  | production n => exact hcall n
  | fail what =>
    cases what with
    | some what => exact .want what
    | none =>
      refine fun _ _ => ⟨nofun, ?_, nofun⟩
      rintro _ ⟨⟩ (some | always)
      · exact some
      · exact absurd always Bool.false_ne_true
  | seq p q ihp ihq =>
    refine (ihp.andThen (t := q.notes) fun g => ?_)
    simpa using ihq.andThen fun a => .pure (g a)
  | choose p q r ihp ihq ihr =>
    refine ihp.either (t := q.notes) (fun a => ?_) ihr
    simpa using ihq.andThen fun g => .pure (g a)
  | many p ih => exact fun c => ih.many c.steps c
  | commaList p ih => exact ih.commaList
  | lineList p ih => exact fun c => ih.lineList c.steps c
  | group b p ih => exact ih.group b
  | refuse keyword feature p r ihp ihr => exact ihp.refuse keyword feature ihr
  | finish what => exact .finish what

namespace Production

theorem notes_phrase {α : Type} (n : Production α) : n.phrase.notes := by
  cases n <;> rfl

theorem parse_notes (fuel : Nat) {α : Type} (n : Production α) :
    Parse.Notes true (n.parse fuel : Parse (List Refusal) α) := by
  induction fuel generalizing α with
  | zero => exact fun _ _ => ⟨nofun, nofun, nofun⟩
  | succ fuel ih => exact n.notes_phrase ▸ n.phrase.parse_notes fun n => ih n

end Production

/-! ## Messages -/

namespace Tree

/-- All that is asked for in vain in a tree that does not fit the grammar, in order. -/
def refusals (t : Tree Value) : List Refusal :=
  match Production.program.read t.start ([] : List Refusal) with
  | .mismatch log => log
  | _ => []

/-- Reading with a log and reading without one come to the same, and the log says what is kept. -/
theorem read_follows (t : Tree Value) :
    Reply.Follows (fun log f => f = Furthest.ofLog log)
      (Production.program.read t.start ([] : List Refusal))
      (Production.program.read t.start ({} : Furthest)) :=
  Production.program.parse_follows
    (fun _ _ c what notes => notes ▸ (Furthest.ofLog_append _ ⟨c, what⟩).symm)
    (Nat.le_refl _) t.start_valid rfl

/-- The message of a tree that does not fit the grammar, in terms of all that was asked for in vain:
the place is where the first of the requests at the greatest offset was made, what is found is what
stands there, and what is expected is all that was asked for at this offset, nothing that was asked
for at a smaller offset, each once and in order. -/
theorem program_error_keeps {t : Tree Value} {expected : List String} {found : String}
    {place : Position} (h : t.program = .error (.expected expected found place)) :
    ∃ earlier r later, t.refusals = earlier ++ r :: later ∧
      (∀ q ∈ earlier, q.offset < r.offset) ∧ (∀ q ∈ later, q.offset ≤ r.offset) ∧
      place = r.cursor.position ∧ found = r.cursor.describe ∧
      expected = ((t.refusals.filter (·.offset = r.offset)).map (·.wanted)).eraseDups := by
  have follows := t.read_follows
  have notes : (∀ log, Production.program.read t.start [] = .mismatch log → log ≠ []) ∧
      ∀ e, Production.program.read t.start ([] : List Refusal) = .fatal e →
        ∃ feature place, e = .unsupported feature place :=
    (Production.program.parse_notes _ t.start []).2.imp_left
      fun noted log h => noted log h (.inr rfl)
  have lasts := Production.program.read_lasts t.start_valid ([] : List Refusal)
  rw [program_eq] at h
  unfold refusals
  generalize Production.program.read t.start ([] : List Refusal) = reply at follows notes lasts
  generalize Production.program.read t.start ({} : Furthest) = reply' at follows h
  cases follows with
  | ok => cases h
  | @mismatch log f kept =>
    obtain ⟨earlier, r, later, same, before, after, place', found', expected'⟩ :=
      Furthest.keeps_ofLog (notes.1 log rfl)
    cases h
    exact ⟨earlier, r, later, same, before, after, by simp [kept, place'], kept ▸ found',
      kept ▸ expected'⟩
  | fatal e =>
    obtain ⟨_, _, rfl⟩ := notes.2 e rfl
    cases h
  | exhausted => exact absurd rfl lasts

instance (t : Tree Value) (e : ParseError) : Decidable (t.program = .error e) :=
  match t.program with
  | .ok _ => isFalse nofun
  | .error e' => decidable_of_iff (e' = e) (by simp)

/-- After a tag a field may come, or what goes on with a rule. -/
theorem program_error_keeps_field : ∃ t, (Template.ofText "start = #A\n#A 1").tree = .ok t ∧
    t.program = .error
      (.expected ["identifier", "string", "'@'", "'extends'"] "number 1" ⟨14, 2, 4⟩) ∧
    ∃ earlier r later, t.refusals = earlier ++ r :: later ∧
      (∀ q ∈ earlier, q.offset < r.offset) ∧ (∀ q ∈ later, q.offset ≤ r.offset) ∧
      ⟨14, 2, 4⟩ = r.cursor.position ∧ "number 1" = r.cursor.describe ∧
      ["identifier", "string", "'@'", "'extends'"] =
        ((t.refusals.filter (·.offset = r.offset)).map (·.wanted)).eraseDups := by
  obtain ⟨t, tree, fails⟩ := Template.exists_tree (t := .ofText "start = #A\n#A 1")
    (P := fun t => t.program = .error
      (.expected ["identifier", "string", "'@'", "'extends'"] "number 1" ⟨14, 2, 4⟩))
    (by decide +kernel)
  exact ⟨t, tree, fails, program_error_keeps fails⟩

/-- An expression is asked for in front of the line break, and all else that may stand there behind
it: so the message leaves out that an expression is expected. -/
theorem program_error_incomplete : ∃ t, (Template.ofText "start =\n@").tree = .ok t ∧
    (∃ r ∈ t.refusals, r.wanted = "expression" ∧ r.cursor.skipLines.position = ⟨8, 2, 1⟩) ∧
    t.program = .error (.expected
      ["'#'", "'('", "'['", "'\x7b'", "'true'", "'false'", "'null'", "'undefined'", "literal",
        "identifier", "host function"] "'@'" ⟨8, 2, 1⟩) :=
  Template.exists_tree (by decide +kernel)

end Tree

end RuleMachine
