import Mathlib.Data.List.Induction
import RuleMachine.Proofs.Operands

/-!
# Membership in texts

Texts are tested for parts that match a pattern, and the patterns are kept compiled. However many
tests come one after the other, each is answered as if its pattern were compiled for it alone, and
what is kept is told by the texts of the patterns (`kept`): no more than there is room for, each
with what compiling it gives, or with nothing if it is no pattern (`Membership.tests_eq`).
-/

namespace RuleMachine

namespace Regex

/-- The texts of the patterns that are kept once one more is asked for. A new one is added, but
takes the place of all others where there is no room. -/
def keep (texts : List String) (text : String) : List String :=
  if text ∈ texts then texts else if cacheCapacity ≤ texts.length then [text] else text :: texts

/-- The texts of the patterns that are kept once those in the list have been asked for in order. -/
def kept (asked : List String) : List String := asked.foldl keep []

theorem kept_concat (asked : List String) (text : String) :
    kept (asked ++ [text]) = keep (kept asked) text := by
  simp [kept]

section

variable {texts : List String} {text : String}

theorem mem_of_mem_keep {other : String} (h : other ∈ keep texts text) :
    other = text ∨ other ∈ texts := by
  unfold keep at h
  split at h
  · exact .inr h
  · split at h
    · exact .inl (List.mem_singleton.mp h)
    · exact List.mem_cons.mp h

theorem nodup_keep (h : texts.Nodup) : (keep texts text).Nodup := by
  unfold keep
  split
  · exact h
  next new =>
  split
  · exact List.pairwise_singleton ..
  · exact List.nodup_cons.mpr ⟨new, h⟩

theorem length_keep_le (h : texts.length ≤ cacheCapacity) :
    (keep texts text).length ≤ cacheCapacity := by
  unfold keep
  split
  · exact h
  · split
    · exact (by decide : 1 ≤ cacheCapacity)
    next room => exact Nat.lt_of_not_le room

end

/-- No pattern is kept twice or without having been asked for, and no more than there is room
for. -/
theorem kept_spec (asked : List String) :
    (kept asked).Nodup ∧ kept asked ⊆ asked ∧ (kept asked).length ≤ cacheCapacity := by
  induction asked using List.reverseRecOn with
  | nil => exact ⟨List.nodup_nil, List.Subset.refl _, Nat.zero_le _⟩
  | append_singleton asked text ih =>
    obtain ⟨nodup, subset, le⟩ := ih
    rw [kept_concat]
    refine ⟨nodup_keep nodup, fun other mem => ?_, length_keep_le le⟩
    rcases mem_of_mem_keep mem with rfl | mem
    · exact List.mem_append_right _ List.mem_cons_self
    · exact List.mem_append_left _ (subset mem)

namespace Cache

variable [Engine]

/-- The cache keeps the patterns with these texts, in this order, each with what compiling its text
gives. -/
def Keeps (cache : Cache) (texts : List String) : Prop :=
  cache.entries = texts.map fun text => (text, Engine.compile text)

theorem keeps_empty : empty.Keeps [] := rfl

section

variable {cache : Cache} {texts : List String} {text : String}

theorem Keeps.get?_of_mem (h : cache.Keeps texts) (mem : text ∈ texts) :
    cache.get? text = some (Engine.compile text) := by
  cases found : cache.get? text with
  | some p => rw [get?_eq found]
  | none =>
    rw [get?, List.lookup_eq_none_iff] at found
    have entry : (text, Engine.compile text) ∈ cache.entries := h ▸ List.mem_map_of_mem mem
    exact absurd rfl (bne_iff_ne.mp (found _ entry))

theorem Keeps.get?_of_not_mem (h : cache.Keeps texts) (new : text ∉ texts) :
    cache.get? text = none := by
  rw [get?, List.lookup_eq_none_iff]
  intro entry mem
  rw [h] at mem
  obtain ⟨other, asked, rfl⟩ := List.mem_map.mp mem
  exact bne_iff_ne.mpr fun eq => new (eq ▸ asked)

theorem Keeps.insert (h : cache.Keeps texts) (new : text ∉ texts) :
    (cache.insert text (Engine.compile text) rfl).Keeps (keep texts text) := by
  have length : cache.entries.length = texts.length := by rw [h, List.length_map]
  unfold Cache.insert keep
  rw [if_neg new]
  split
  next full => rw [if_pos (length ▸ full)]; rfl
  next room => rw [if_neg (length ▸ room)]; exact congrArg _ h

theorem Keeps.isMatch (h : cache.Keeps texts) (haystack : String) :
    (cache.isMatch text haystack).2.Keeps (keep texts text) := by
  unfold Cache.isMatch
  by_cases mem : text ∈ texts
  · rw [h.get?_of_mem mem]
    exact (congrArg cache.Keeps (if_pos mem)).mpr h
  · rw [h.get?_of_not_mem mem]
    exact h.insert mem

end

end Cache

end Regex

/-- A test whether a part of a text matches the pattern that another value's text is. The negated
test holds where the test does not. -/
structure Membership where
  needle : Value
  text : String
  negated : Bool

namespace Membership

section Testing

variable [Regex.Engine] {σ : Type}

def pattern (m : Membership) : String := m.needle.display

def operator (m : Membership) : Comparison := if m.negated then .notIn else .isIn

/-- The answer that compiling the pattern for this test alone gives. What is no pattern matches
nothing. -/
def fresh (m : Membership) : Bool :=
  m.negated ^^ match Regex.Engine.compile m.pattern with
    | some p => Regex.Engine.isMatch p m.text
    | none => false

/-- The tests are made one after the other. -/
def tests (ms : List Membership) : Run σ (List Bool) :=
  ms.mapM fun m => World.compare m.operator m.needle (.string m.text)

/-- A test changes nothing but the patterns that are kept. -/
theorem test_eq (m : Membership) (w : World σ) :
    World.compare m.operator m.needle (.string m.text) w =
      (m.fresh, { w with cache := (w.cache.isMatch m.pattern m.text).2 }) := by
  have answer : (w.cache.isMatch m.pattern m.text).1 = match Regex.Engine.compile m.pattern with
      | some p => Regex.Engine.isMatch p m.text
      | none => false := by
    rw [Regex.Cache.isMatch_fst, Regex.Engine.search]
    cases Regex.Engine.compile m.pattern <;> rfl
  unfold fresh operator
  rw [← answer]
  obtain ⟨needle, text, negated⟩ := m
  cases negated <;> simp [World.compare, modifyGet, MonadStateOf.modifyGet, StateT.modifyGet,
    Comparison.evaluate, Value.containsWith, pattern] <;> rfl

theorem tests_keep (ms : List Membership) (w : World σ) {texts : List String}
    (h : w.cache.Keeps texts) :
    ∃ cache : Regex.Cache, tests ms w = (ms.map fresh, { w with cache }) ∧
      cache.Keeps ((ms.map pattern).foldl Regex.keep texts) := by
  induction ms generalizing w texts with
  | nil => exact ⟨w.cache, rfl, h⟩
  | cons m ms ih =>
    obtain ⟨cache, answers, keeps⟩ :=
      ih { w with cache := (w.cache.isMatch m.pattern m.text).2 } (h.isMatch m.text)
    refine ⟨cache, ?_, keeps⟩
    rw [tests, List.mapM_cons]
    simp only [bind, StateT.bind, test_eq]
    rw [tests] at answers
    rw [answers]
    rfl

/-- Tests that start with no pattern kept are answered as if each were made alone, whatever was
tested before. They change nothing but the patterns kept: those are then some that were tested,
none twice, each with what compiling it gives, and they are at most 256. -/
theorem tests_eq (ms : List Membership) (w : World σ) :
    ∃ cache : Regex.Cache,
      tests ms { w with cache := .empty } = (ms.map fresh, { w with cache }) ∧
      cache.entries =
        (Regex.kept (ms.map pattern)).map (fun text => (text, Regex.Engine.compile text)) ∧
      (cache.entries.map (·.1)).Nodup ∧
      (∀ entry ∈ cache.entries, ∃ m ∈ ms, entry = (m.pattern, Regex.Engine.compile m.pattern)) ∧
      cache.entries.length ≤ 256 := by
  obtain ⟨cache, answers, keeps⟩ := tests_keep ms { w with cache := .empty } Regex.Cache.keeps_empty
  obtain ⟨nodup, subset, le⟩ := Regex.kept_spec (ms.map pattern)
  have keeps : cache.Keeps (Regex.kept (ms.map pattern)) := keeps
  have texts : cache.entries.map (·.1) = Regex.kept (ms.map pattern) := by
    rw [keeps, List.map_map]
    exact List.map_id _
  refine ⟨cache, answers, keeps, texts ▸ nodup, fun entry mem => ?_, ?_⟩
  · rw [keeps] at mem
    obtain ⟨text, kept, rfl⟩ := List.mem_map.mp mem
    obtain ⟨m, tested, rfl⟩ := List.mem_map.mp (subset kept)
    exact ⟨m, tested, rfl⟩
  · rw [keeps, List.length_map]
    exact le

end Testing

/-! ## A pattern that is tested again, and a text that is none -/

section Again

attribute [local instance] Regex.Engine.literal

namespace Again

def asks (text haystack : String) (negated : Bool) : Membership := ⟨.string text, haystack, negated⟩

def ms : List Membership :=
  [asks "at" "cat" false, asks "(" "(" false, asks "at" "dog" false, asks "at" "cat" true]

def world : World Unit := { state := .undefined, nextAllocation := 0, memory := () }

end Again

open Again

theorem tests_eq_again :
    ∃ cache : Regex.Cache,
      tests ms { world with cache := .empty } =
        ([true, false, false, false], { world with cache }) ∧
      cache.entries = [("(", none), ("at", some "at")] := by
  obtain ⟨cache, answers, entries, -⟩ := tests_eq ms world
  exact ⟨cache, answers, entries⟩

end Again

end Membership

end RuleMachine
