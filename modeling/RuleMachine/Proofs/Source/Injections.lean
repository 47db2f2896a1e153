import Mathlib
import RuleMachine.Proofs.Source.Places

/-!
# Values between segments

One lexer scans the segments of a source, and the value after a segment is emitted where the lexer
is in main text. So the tokens of a source are, segment by segment, those of the segment and the
one of the value at the boundary after it (`tokenize_boundaries`): whatever comments are open at
earlier boundaries, no value comes to stand at another one.
-/

namespace RuleMachine

variable {α : Type}

namespace Lexer

/-- The state after the first `n` of some segments. -/
def reached (α : Type) (l : Lexer) (segments : List String) (n : Nat) : Lexer :=
  (segments.take n).foldl (fun l segment => (l.scan segment.toList : Scanned α).lexer) l

/-- The tokens of the segment at `i`. -/
def piece (l : Lexer) (segments : List String) (i : Nat) : List (Token α) :=
  segments[i]?.elim [] fun segment => ((l.reached α segments i).scan segment.toList).tokens

/-- The token of the value at the boundary after the segment at `i`. After the last segment there
is no boundary, and in a comment no token. -/
def boundary (l : Lexer) (segments : List String) (values : List α) (i : Nat) :
    Option (Token α) :=
  if i + 1 < segments.length ∧ (l.reached α segments (i + 1)).mode = .main then
    values[i]?.map fun value =>
      ⟨.literal (.injected value), "", (l.reached α segments (i + 1)).position⟩
  else none

variable {l l' : Lexer} {segment : String} {segments : List String} {values : List α}
  {ts tokens : List (Token α)}

theorem reached_cons (first : l.scan segment.toList = ⟨ts, l', none⟩) (n : Nat) :
    l.reached α (segment :: segments) (n + 1) = l'.reached α segments n := by
  rw [reached, List.take_succ_cons, List.foldl_cons, first, reached]

/-- The token at the boundary after a first segment. -/
theorem boundary_zero (first : l.scan segment.toList = ⟨ts, l', none⟩) :
    l.boundary (segment :: segments) values 0 = (between segments values).bind l'.inject := by
  have state : l.reached α (segment :: segments) 1 = l' := reached_cons first 0
  unfold boundary between inject
  rw [Nat.zero_add, state]
  cases segments with
  | nil => simp
  | cons second segments => cases values <;> simp

/-- Of every segment there are the tokens that scanning it gives, and of every boundary the token
that its value gives there. -/
theorem scanSegments_boundaries (h : l.scanSegments segments values = .ok tokens) :
    tokens = (List.range segments.length).flatMap fun i =>
      l.piece segments i ++ (l.boundary segments values i).toList := by
  induction segments generalizing l values tokens with
  | nil =>
    unfold scanSegments at h
    split at h
    · cases h
    · cases h
      rfl
  | cons segment segments ih =>
    obtain ⟨ts, l', us, first, more, rfl⟩ := scanSegments_ok h
    have front : l.piece (segment :: segments) 0 = ts := by
      change (l.scan segment.toList : Scanned α).tokens = ts
      rw [first]
    have later (i : Nat) (inside : i < segments.length) :
        l.piece (segment :: segments) (i + 1) ++
            (l.boundary (segment :: segments) values (i + 1)).toList =
          l'.piece segments i ++ (l'.boundary segments (if segments.isEmpty then values
            else values.tail) i).toList := by
      have some : segments.isEmpty = false := by
        cases segments with
        | nil => cases inside
        | cons => rfl
      simp [piece, boundary, reached_cons first, some]
    rw [List.length_cons, List.range_succ_eq_map, List.flatMap_cons, List.flatMap_map, front,
      boundary_zero first, ih more]
    congr 1
    exact List.flatMap_congr fun i mem => (later i (List.mem_range.mp mem)).symm

/-- No segment stops the lexer. -/
theorem scan_of_scanSegments (h : l.scanSegments segments values = .ok tokens) {i : Nat}
    (here : segments[i]? = some segment) : ∃ ts : List (Token α),
      (l.reached α segments i).scan segment.toList =
        ⟨ts, l.reached α segments (i + 1), none⟩ := by
  induction segments generalizing l values tokens i with
  | nil => cases here
  | cons front segments ih =>
    obtain ⟨ts, l', us, first, more, -⟩ := scanSegments_ok h
    rw [reached_cons first]
    cases i with
    | zero =>
      cases here
      exact ⟨ts, first⟩
    | succ i =>
      rw [reached_cons first]
      exact ih more here

/-- The lexer stands past the segments that are scanned. -/
theorem reached_position (h : l.scanSegments segments values = .ok tokens) {n : Nat}
    (inside : n ≤ segments.length) :
    (l.reached α segments n).position =
      l.position.advance ((segments.take n).flatMap String.toList) := by
  induction n with
  | zero => rfl
  | succ n ih =>
    obtain ⟨ts, scanned⟩ := scan_of_scanSegments h (List.getElem?_eq_getElem inside)
    obtain ⟨spells, tiles⟩ := scan_ok scanned
    rw [tiles.stop_eq, ih (Nat.le_of_lt inside), spells, ← Position.advance_append,
      List.take_succ_eq_append_getElem inside, List.flatMap_append, List.flatMap_singleton]

/-- Text is scanned to no token of a value. -/
theorem scanWith_not_injected (fuel : Nat) (l : Lexer) (text : List Char) :
    ∀ t ∈ (scanWith fuel l text : Scanned α).tokens, t.isInjected = false := by
  fun_induction scanWith with
  | case1 | case2 | case3 => exact List.forall_mem_nil _
  | case4 fuel l c rest rule n _ text scanned ih =>
    refine List.forall_mem_cons.mpr ⟨?_, ih⟩
    cases rule.shape <;> rfl

end Lexer

/-- The bytes of some texts are the bytes of each. -/
theorem Position.past_flatMap_offset (texts : List String) :
    (past (texts.flatMap String.toList)).offset = (texts.map String.utf8ByteSize).sum := by
  induction texts with
  | nil => rfl
  | cons text texts ih =>
    rw [List.map_cons, List.sum_cons, ← ih]
    simp [past]

namespace Template

/-- What can be added to a template. -/
inductive Addition where
  | text (more : String)
  | inject (value : Value)

/-- The value that an addition injects. -/
def Addition.value? : Addition → Option Value
  | .text _ => none
  | .inject value => some value

def add (t : Template) : Addition → Template
  | .text more => t.text more
  | .inject value => t.inject value

/-- A template that begins with a text. -/
def build (first : String) (additions : List Addition) : Template :=
  additions.foldl add (ofText first)

/-- A template has a boundary for each of its values. -/
theorem length_segments (t : Template) : t.segments.length = t.values.length + 1 := by
  simp [segments, values]

theorem values_foldl_add (t : Template) (additions : List Addition) :
    (additions.foldl add t).values = t.values ++ additions.filterMap Addition.value? := by
  induction additions generalizing t with
  | nil => simp
  | cons a additions ih =>
    rw [List.foldl_cons, ih]
    cases a <;> simp [add, text, inject, values, Addition.value?, List.filterMap_cons]

end Template

open Lexer

/-- The tokens of a source: of each segment in turn those that spell it, none of them a value's,
and then the one of the value with the number of the segment, if there is a boundary after the
segment and the lexer is in main text there; it stands past the bytes of all segments up to there.
A template has a boundary for each of the values that were injected. -/
theorem tokenize_boundaries :
    (∀ (segments : List String) (values : List α) (tokens : List (Token α)),
      tokenize segments values = .ok tokens →
        tokens = ((List.range segments.length).flatMap fun i =>
          piece {} segments i ++ (boundary {} segments values i).toList) ∧
        ∀ i segment, segments[i]? = some segment →
          spelled (piece {} segments i : List (Token α)) = segment.toList ∧
          (∀ t ∈ (piece {} segments i : List (Token α)), t.isInjected = false) ∧
          ∀ t ∈ boundary {} segments values i,
            t.position.offset = ((segments.take (i + 1)).map String.utf8ByteSize).sum) ∧
    ∀ (first : String) (additions : List Template.Addition),
      (Template.build first additions).values = additions.filterMap Template.Addition.value? ∧
      (Template.build first additions).segments.length =
        (Template.build first additions).values.length + 1 := by
  refine ⟨fun segments values tokens h => ⟨scanSegments_boundaries h, ?_⟩, fun first additions =>
    ⟨Template.values_foldl_add _ additions, Template.length_segments _⟩⟩
  intro i segment here
  obtain ⟨ts, scanned⟩ := scan_of_scanSegments h here
  have tokens_here : (piece {} segments i : List (Token α)) = ts := by
    rw [piece, here, Option.elim_some, scanned]
  refine ⟨tokens_here ▸ (scan_ok scanned).1, ?_, ?_⟩
  · have all := scanWith_not_injected (α := α) segment.toList.length (reached α {} segments i)
      segment.toList
    unfold scan at scanned
    rwa [scanned, ← tokens_here] at all
  · intro t mem
    have place : t.position = (reached α {} segments (i + 1)).position := by
      unfold boundary at mem
      split at mem
      · obtain ⟨value, -, rfl⟩ := Option.map_eq_some_iff.mp mem
        rfl
      · cases mem
    obtain ⟨inside, -⟩ := List.getElem?_eq_some_iff.mp here
    rw [place, reached_position h inside, ← Position.past_flatMap_offset]
    exact congrArg Position.offset (Position.start_advance _)

/-- Two values in comments, and a third one after them. -/
theorem tokenize_boundaries_comments : ∃ tokens : List (Token Nat),
    tokenize ["a/*é", "*/b//", "\nc ", "d"] [0, 1, 2] = .ok tokens ∧
    tokens = ((List.range 4).flatMap fun i => piece {} ["a/*é", "*/b//", "\nc ", "d"] i ++
      (boundary {} ["a/*é", "*/b//", "\nc ", "d"] [0, 1, 2] i).toList) ∧
    tokens.filter (·.isInjected) = [⟨.literal (.injected 2), "", ⟨13, 2, 3⟩⟩] := by
  let tokens : List (Token Nat) := [⟨.identifier, "a", ⟨0, 1, 1⟩⟩, ⟨.ignored, "/*", ⟨1, 1, 2⟩⟩,
    ⟨.ignored, "é", ⟨3, 1, 4⟩⟩, ⟨.ignored, "*/", ⟨5, 1, 5⟩⟩, ⟨.identifier, "b", ⟨7, 1, 7⟩⟩,
    ⟨.ignored, "//", ⟨8, 1, 8⟩⟩, ⟨.line, "\n", ⟨10, 1, 10⟩⟩, ⟨.identifier, "c", ⟨11, 2, 1⟩⟩,
    ⟨.ignored, " ", ⟨12, 2, 2⟩⟩, ⟨.literal (.injected 2), "", ⟨13, 2, 3⟩⟩,
    ⟨.identifier, "d", ⟨13, 2, 3⟩⟩]
  have scanned : tokenize ["a/*é", "*/b//", "\nc ", "d"] [0, 1, 2] = .ok tokens := by
    decide +kernel
  exact ⟨tokens, scanned, (tokenize_boundaries.1 _ _ _ scanned).1, by decide⟩

end RuleMachine
