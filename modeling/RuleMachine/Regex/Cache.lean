import RuleMachine.Regex.Engine

/-!
# Patterns kept compiled

Patterns may come from the data of a program, so the cache that keeps them compiled is bounded: it
is emptied when it is full. Each entry is what compiling its key gives, so the cache never shows in
an answer (`isMatch_fst`).
-/

namespace RuleMachine.Regex

variable [Engine]

/-- The number of patterns kept at once. -/
def cacheCapacity : Nat := 256

structure Cache where
  entries : List (String × Option Engine.Pattern) := []
  valid : ∀ e ∈ entries, e.2 = Engine.compile e.1 := by simp
  bounded : entries.length ≤ cacheCapacity := by simp

namespace Cache

instance : Inhabited Cache := ⟨{}⟩

def empty : Cache := {}

def get? (cache : Cache) (text : String) : Option (Option Engine.Pattern) :=
  cache.entries.lookup text

theorem get?_eq {cache : Cache} {text : String} {p : Option Engine.Pattern}
    (h : cache.get? text = some p) : p = Engine.compile text := by
  obtain ⟨before, after, split, -⟩ := List.lookup_eq_some_iff.mp h
  exact cache.valid (text, p) (split ▸ List.mem_append_right before (.head after))

/-- Adds the pattern of a text; a full cache is emptied first. -/
def insert (cache : Cache) (text : String) (p : Option Engine.Pattern)
    (valid : p = Engine.compile text) : Cache :=
  if h : cacheCapacity ≤ cache.entries.length then
    { entries := [(text, p)], valid := by simpa using valid, bounded := by simp [cacheCapacity] }
  else
    { entries := (text, p) :: cache.entries
      valid := by
        intro e he
        rcases List.mem_cons.1 he with rfl | he
        · exact valid
        · exact cache.valid e he
      bounded := by simp only [List.length_cons]; omega }

/-- Whether the pattern of a text matches a part of another text, with the cache afterwards. -/
def isMatch (cache : Cache) (text haystack : String) : Bool × Cache :=
  match cache.get? text with
  | some p => ((p.map (Engine.isMatch · haystack)).getD false, cache)
  | none =>
    let p := Engine.compile text
    ((p.map (Engine.isMatch · haystack)).getD false, cache.insert text p rfl)

theorem isMatch_fst (cache : Cache) (text haystack : String) :
    (cache.isMatch text haystack).1 = Engine.search text haystack := by
  unfold isMatch
  split
  · next h => rw [get?_eq h]; rfl
  · rfl

end Cache

end RuleMachine.Regex
