import Mathlib.Data.List.Forall2
import Mathlib.Data.List.Induction
import RuleMachine.Proofs.Source.Spelling
import RuleMachine.Proofs.Source.Tiling

/-!
# Sessions of a lexer

A lexer is called to scan texts and to inject values, in any order, and a scan that fails ends
nothing. What one call does is said in three lemmas: its tokens spell what it scanned
(`Lexer.call_covers`), they follow each other without a gap (`Lexer.call_tiles`), and only injected
values have no text (`Lexer.call_solid`). So over a whole session no text is lost, and every place
is the one past the text before it (`Lexer.session_exact`).
-/

namespace RuleMachine

namespace Position

/-- The place past a text at the start of a source: its bytes, the lines up to it, and the
characters since its last line feed. -/
def past (text : List Char) : Position where
  offset := (String.ofList text).utf8ByteSize
  line := text.count '\n' + 1
  column := (text.reverse.takeWhile (· ≠ '\n')).length + 1

theorem start_advance (text : List Char) : start.advance text = past text := by
  induction text using List.reverseRecOn with
  | nil => rfl
  | append_singleton text c ih =>
    rw [advance_append, ih, advance_cons, advance_nil, step]
    split
    · next line =>
      have size : "\n".utf8ByteSize = '\n'.utf8Size := rfl
      simp [past, line, size]
    · next other => simp [past, other]

end Position

variable {α : Type}

/-- The texts of some tokens, one after the other. -/
def spelled (ts : List (Token α)) : List Char := ts.flatMap (·.text.toList)

theorem spelled_cons (t : Token α) (ts : List (Token α)) :
    spelled (t :: ts) = t.text.toList ++ spelled ts :=
  List.flatMap_cons

theorem spelled_append (ts us : List (Token α)) : spelled (ts ++ us) = spelled ts ++ spelled us :=
  List.flatMap_append

theorem spelled_flatMap {β : Type} (xs : List β) (f : β → List (Token α)) :
    spelled (xs.flatMap f) = (xs.map fun x => spelled (f x)).flatten := by
  rw [spelled, List.flatMap_assoc, List.flatMap_def]
  rfl

def Token.isInjected (t : Token α) : Bool :=
  match t.kind with
  | .literal (.injected _) => true
  | _ => false

namespace Tiles

variable {p q : Position} {ts front back : List (Token α)} {t : Token α}

theorem stop_eq (h : Tiles p ts q) : q = p.advance (spelled ts) := by
  induction ts generalizing p with
  | nil => exact Eq.symm h
  | cons t ts ih =>
    obtain ⟨here, rest⟩ := h
    rw [spelled_cons, Position.advance_append, ← here]
    exact ih rest

theorem position_eq (h : Tiles p (front ++ t :: back) q) :
    t.position = p.advance (spelled front) := by
  induction front generalizing p with
  | nil => exact h.1
  | cons u front ih =>
    obtain ⟨here, rest⟩ := h
    rw [spelled_cons, Position.advance_append, ← here]
    exact ih rest

end Tiles

namespace Lexer

/-- A call of a lexer. -/
inductive Call (α : Type) where
  | scan (segment : String)
  | inject (value : α)

/-- What a call gives. -/
def call (l : Lexer) : Call α → Scanned α
  | .scan segment => l.scan segment.toList
  | .inject value => ⟨(l.inject value).toList, l, none⟩

/-- Calls one after the other, with what each gives. -/
def session : Lexer → List (Call α) → List (Call α × Scanned α)
  | _, [] => []
  | l, c :: calls => (c, l.call c) :: session (l.call c).lexer calls

/-- All tokens of some calls. -/
def emitted (rs : List (Call α × Scanned α)) : List (Token α) := rs.flatMap (·.2.tokens)

/-- What a call has scanned, from the error it gave: without an error all of its text, else what is
before the character that the error names. A value has no text. -/
inductive Call.Covers : Call α → Option SyntaxError → List Char → Prop
  | all {segment} : Covers (.scan segment) none segment.toList
  | upTo {segment part c rest place} : segment.toList = part ++ c :: rest →
      Covers (.scan segment) (some (.unexpectedCharacter c place)) part
  | value {value} : Covers (.inject value) none []

/-! ## One call -/

/-- With fuel for each character, all is scanned up to a character that no rule takes. -/
theorem scanWith_covers {fuel : Nat} (l : Lexer) {text : List Char} (enough : text.length ≤ fuel) :
    let s : Scanned α := scanWith fuel l text
    s.failure = none ∧ text = spelled s.tokens ∨
      ∃ c rest, s.failure = some (.unexpectedCharacter c s.lexer.position) ∧
        text = spelled s.tokens ++ c :: rest := by
  fun_induction scanWith with
  | case1 => exact .inl ⟨rfl, rfl⟩
  | case2 l text some => exact absurd (List.length_eq_zero_iff.mp (Nat.le_zero.mp enough)) some
  | case3 fuel l c rest => exact .inr ⟨c, rest, rfl, rfl⟩
  | case4 fuel l c rest rule n first text scanned ih =>
    have pos := ne_zero_of_firstMatch first
    have front : (c :: rest) = text ++ (c :: rest).drop n := (List.take_append_drop n _).symm
    have shorter : ((c :: rest).drop n).length ≤ fuel := by
      rw [List.length_drop]
      omega
    have token : spelled (⟨rule.shape.kind text, String.ofList text, l.position⟩ :: scanned.tokens)
        = text ++ spelled scanned.tokens := by
      rw [spelled_cons, String.toList_ofList]
    rcases ih shorter with ⟨whole, spells⟩ | ⟨d, after, stopped, spells⟩
    · exact .inl ⟨whole, by rw [token, ← spells, ← front]⟩
    · refine .inr ⟨d, after, stopped, ?_⟩
      rw [token, List.append_assoc, ← spells, ← front]

theorem scanWith_solid (fuel : Nat) (l : Lexer) (text : List Char) :
    ∀ t ∈ (scanWith fuel l text : Scanned α).tokens, t.text ≠ "" := by
  fun_induction scanWith with
  | case1 | case2 | case3 => exact List.forall_mem_nil _
  | case4 fuel l c rest rule n first text scanned ih =>
    have pos := ne_zero_of_firstMatch first
    refine List.forall_mem_cons.mpr ⟨fun empty => ?_, ih⟩
    have none_taken : text = [] := by
      rw [← String.toList_ofList (l := text), String.toList_eq_nil_iff]
      exact empty
    rcases List.take_eq_nil_iff.mp none_taken with zero | none_left
    · exact pos zero
    · cases none_left

theorem call_covers (l : Lexer) (c : Call α) :
    c.Covers (l.call c).failure (spelled (l.call c).tokens) := by
  cases c with
  | scan segment =>
    rcases l.scanWith_covers (α := α) (Nat.le_refl segment.toList.length) with
      ⟨whole, spells⟩ | ⟨c, rest, stopped, spells⟩
    · simp only [call, scan, whole, ← spells]
      exact .all
    · simp only [call, scan, stopped]
      exact .upTo spells
  | inject value =>
    have none_spelled : spelled (l.inject value).toList = [] := by
      unfold inject
      split <;> rfl
    simp only [call, none_spelled]
    exact .value

theorem call_tiles (l : Lexer) (c : Call α) :
    Tiles l.position (l.call c).tokens (l.call c).lexer.position := by
  cases c with
  | scan segment => exact scanWith_tiles _ l segment.toList
  | inject value => exact l.inject_tiles (some value)

theorem call_place (l : Lexer) (c : Call α) :
    ∀ e ∈ (l.call c).failure, e.place = (l.call c).lexer.position := by
  intro e failed
  cases c with
  | scan segment =>
    rcases l.scanWith_covers (α := α) (Nat.le_refl segment.toList.length) with
      ⟨whole, -⟩ | ⟨c, rest, stopped, -⟩
    · cases whole.symm.trans failed
    · cases stopped.symm.trans failed
      rfl
  | inject value => cases failed

theorem call_solid (l : Lexer) (c : Call α) :
    ∀ t ∈ (l.call c).tokens, t.text = "" → t.isInjected := by
  intro t mem empty
  cases c with
  | scan segment => exact absurd empty (scanWith_solid _ l segment.toList t mem)
  | inject value =>
    simp only [call, inject] at mem
    split at mem
    · obtain rfl := List.mem_singleton.mp mem
      rfl
    · cases mem

/-! ## Many calls -/

theorem session_tiles (l : Lexer) (calls : List (Call α))
    {earlier later : List (Call α × Scanned α)} {r : Call α × Scanned α}
    (h : l.session calls = earlier ++ r :: later) :
    Tiles l.position (emitted (earlier ++ [r])) r.2.lexer.position := by
  induction calls generalizing l earlier with
  | nil => simp [session] at h
  | cons c calls ih =>
    have first := l.call_tiles c
    cases earlier with
    | nil =>
      cases h
      simpa [emitted] using first
    | cons r' earlier =>
      obtain ⟨rfl, rest⟩ := List.cons.inj h
      exact first.append (ih _ rest)

/-- What one call gives from any state is so for all calls of a session. -/
theorem forall_session {P : Call α → Scanned α → Prop} (one : ∀ l c, P c (call l c)) (l : Lexer)
    (calls : List (Call α)) : ∀ r ∈ l.session calls, P r.1 r.2 := by
  induction calls generalizing l with
  | nil => nofun
  | cons c calls ih => exact List.forall_mem_cons.mpr ⟨one l c, ih _⟩

/-- What is so for every token that is scanned and for every injected value is so for all tokens of
a session. -/
theorem forall_emitted {P : Token α → Prop}
    (scanned : ∀ fuel l text, ∀ t ∈ (scanWith fuel l text : Scanned α).tokens, P t)
    (injected : ∀ value p, P ⟨.literal (.injected value), "", p⟩) (l : Lexer)
    (calls : List (Call α)) : ∀ t ∈ emitted (l.session calls), P t := by
  have one (l : Lexer) (c : Call α) : ∀ t ∈ (l.call c).tokens, P t := by
    cases c with
    | scan segment => exact scanned _ l segment.toList
    | inject value =>
      simp only [call, inject]
      split
      · exact List.forall_mem_singleton.mpr (injected value l.position)
      · nofun
  intro t mem
  obtain ⟨r, called, mem⟩ := List.mem_flatMap.mp mem
  exact forall_session (P := fun _ r => ∀ t ∈ r.tokens, P t) one l calls r called t mem

/-- Whatever a new lexer is called for, also after scans that failed: the texts of all tokens are
what was scanned, in order; each token stands past all text before it; after each call the lexer
and the error that the call gave stand past all text scanned so far; and only tokens of injected
values have no text. -/
theorem session_exact (calls : List (Call α)) :
    ∃ parts : List (List Char),
      List.Forall₂ (fun r part => r.1.Covers r.2.failure part) (session {} calls) parts ∧
      spelled (emitted (session {} calls)) = parts.flatten ∧
      (∀ front t back, emitted (session {} calls) = front ++ t :: back →
        t.position = .past (spelled front) ∧ (t.text = "" → t.isInjected)) ∧
      ∀ earlier r later, session {} calls = earlier ++ r :: later →
        r.2.lexer.position = .past (parts.take (earlier.length + 1)).flatten ∧
        ∀ e ∈ r.2.failure, e.place = .past (parts.take (earlier.length + 1)).flatten := by
  have covers := forall_session (P := fun c r => c.Covers r.failure (spelled r.tokens))
    call_covers {} calls
  have solid := forall_session (P := fun _ r => ∀ t ∈ r.tokens, t.text = "" → t.isInjected)
    call_solid {} calls
  have place := forall_session (P := fun _ r => ∀ e ∈ r.failure, e.place = r.lexer.position)
    call_place {} calls
  have tiles (earlier r later) (h : session {} calls = earlier ++ r :: later) :
      Tiles .start (emitted (earlier ++ [r])) r.2.lexer.position := session_tiles {} calls h
  -- What a call has scanned is what its tokens spell.
  generalize session {} calls = results at covers solid place tiles
  let part (r : Call α × Scanned α) : List Char := spelled r.2.tokens
  refine ⟨results.map part, ?_, spelled_flatMap results _, ?_, ?_⟩
  · rw [List.forall₂_map_right_iff, List.forall₂_same]
    exact covers
  · intro front t back split
    constructor
    · rcases List.eq_nil_or_concat results with none_called | ⟨earlier, r, all⟩
      · simp [none_called, emitted] at split
      · rw [List.concat_eq_append] at all
        have whole := tiles earlier r [] all
        rw [← all, split] at whole
        exact whole.position_eq.trans (Position.start_advance _)
    · obtain ⟨r, called, mem⟩ := List.mem_flatMap.mp (split ▸ List.mem_append_right _ (.head _))
      exact solid r called t mem
  · intro earlier r later split
    have upTo : results.take (earlier.length + 1) = earlier ++ [r] := by
      rw [split, List.take_length_add_append]
      rfl
    have past : r.2.lexer.position =
        .past ((results.map part).take (earlier.length + 1)).flatten := by
      rw [(tiles earlier r later split).stop_eq, Position.start_advance, emitted, spelled_flatMap,
        ← List.map_take, upTo]
    have called : r ∈ results := split ▸ List.mem_append_right _ (.head _)
    exact ⟨past, fun e failed => (place r called e failed).trans past⟩

end Lexer

end RuleMachine
