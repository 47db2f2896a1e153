import RuleMachine.Proofs.Equality
import RuleMachine.Proofs.Matching

/-!
# Values that share differently

Values that are equal in structure may still be told apart, since lists and records are held in
allocations and some comparisons look at these. A pattern does not, unless it has a list, a record
or a host function for a literal: on two values that are equal in structure and free of no-number it
fails twice or matches twice, and then binds values that are equal in structure (`run_alike`).

What one allocation holds is the same wherever the allocation is met. So the values that are
compared are taken out of one heap.
-/

namespace RuleMachine

/-- What each allocation holds. -/
structure Heap where
  items : Nat → List Value
  fields : Nat → List (String × Value)

namespace Value

mutual

/-- `P` holds of the value and of every value inside of it. -/
def Throughout (P : Value → Prop) : Value → Prop
  | list n items => P (list n items) ∧ ThroughoutItems P items
  | record n fields => P (record n fields) ∧ ThroughoutFields P fields
  | v => P v

def ThroughoutItems (P : Value → Prop) : List Value → Prop
  | [] => True
  | v :: vs => v.Throughout P ∧ ThroughoutItems P vs

def ThroughoutFields (P : Value → Prop) : List (String × Value) → Prop
  | [] => True
  | (_, v) :: fields => v.Throughout P ∧ ThroughoutFields P fields

end

/-- A list or a record is as the heap holds it. -/
def HeldIn (heap : Heap) : Value → Prop
  | list n items => heap.items n = items
  | record n fields => heap.fields n = fields
  | _ => True

/-- No-number is the one value that does not equal itself. -/
def NotNaN : Value → Prop
  | number n => n ≠ Float.nan
  | _ => True

/-- A value without an identity beside its contents. -/
def IsScalar : Value → Prop
  | undefined | null | bool _ | number _ | string _ => True
  | list .. | record .. | callable _ => False

section Throughout

variable {P : Value → Prop}

theorem Throughout.here {v : Value} (h : v.Throughout P) : P v := by
  cases v with
  | list | record => exact h.1
  | undefined | null | bool | number | string | callable => exact h

theorem ThroughoutItems.getElem? {vs : List Value} {v : Value} {i : Nat}
    (h : ThroughoutItems P vs) (found : vs[i]? = some v) : v.Throughout P := by
  induction vs generalizing i with
  | nil => cases found
  | cons w vs ih =>
    cases i with
    | zero =>
      cases found
      exact h.1
    | succ i => exact ih h.2 found

theorem ThroughoutFields.get? {fields : List (String × Value)} {key : String} {v : Value}
    (h : ThroughoutFields P fields) (found : Entries.get? key fields = some v) :
    v.Throughout P := by
  induction fields with
  | nil => cases found
  | cons f fields ih =>
    obtain ⟨k, w⟩ := f
    rw [Entries.get?, List.lookup_cons] at found
    split at found
    · cases found
      exact h.1
    · exact ih h.2 found

variable (outside : P undefined)
include outside

theorem Throughout.field {v : Value} (h : v.Throughout P) (key : String) :
    (v.field key).Throughout P := by
  cases v with
  | record n fields =>
    rw [Value.field]
    cases found : Entries.get? key fields with
    | none => exact outside
    | some v => exact h.2.get? found
  | undefined | null | bool | number | string | list | callable => exact outside

theorem Throughout.item {v : Value} (h : v.Throughout P) (i : Nat) :
    (v.item i).Throughout P := by
  cases v with
  | list n items =>
    rw [Value.item]
    cases found : items[i]? with
    | none => exact outside
    | some v => exact h.2.getElem? found
  | undefined | null | bool | number | string | record | callable => exact outside

end Throughout

/-! ## Parts of values that are equal in structure -/

theorem structuralEq_refl {v : Value} (h : v.NotNaN) : structuralEq v v := by
  cases v with
  | number n =>
    have same : n == n := Float.beq_iff_ne_nan_and_eq.mpr ⟨h, h, .inl rfl⟩
    simpa [structuralEq, Value.same] using same
  | undefined | null | bool | string | list | record | callable => simp [structuralEq, Value.same]

theorem structuralItems_getElem? {vs ws : List Value} (h : structuralItems vs ws) (i : Nat) :
    structuralEq (vs[i]?.getD undefined) (ws[i]?.getD undefined) := by
  induction vs generalizing ws i with
  | nil =>
    cases ws with
    | nil => rfl
    | cons => cases h
  | cons v vs ih =>
    cases ws with
    | nil => cases h
    | cons w ws =>
      obtain ⟨first, rest⟩ := Bool.and_eq_true_iff.mp h
      cases i with
      | zero => exact first
      | succ i => exact ih rest i

theorem structuralFields_get? {vs ws : List (String × Value)} (h : structuralFields vs ws)
    (key : String) :
    structuralEq ((Entries.get? key vs).getD undefined) ((Entries.get? key ws).getD undefined) := by
  induction vs generalizing ws with
  | nil =>
    cases ws with
    | nil => rfl
    | cons => cases h
  | cons f vs ih =>
    cases ws with
    | nil => cases h
    | cons g ws =>
      obtain ⟨k, v⟩ := f
      obtain ⟨l, w⟩ := g
      rw [structuralFields] at h
      obtain ⟨⟨keys, first⟩, rest⟩ : (k = l ∧ structuralEq v w) ∧ structuralFields vs ws := by
        simpa using h
      subst keys
      rw [Entries.get?, Entries.get?, List.lookup_cons, List.lookup_cons]
      split
      · exact first
      · exact ih rest

theorem number_beq_trans {a b c : Float} (h : a == b) (h' : b == c) : a == c := by
  rw [Float.beq_iff_ne_nan_and_eq] at *
  grind

theorem same_string_iff {a : String} {v : Value} : same (string a) v ↔ v = string a := by
  cases v with
  | string b => simpa [same] using eq_comm
  | undefined | null | bool | number | list | record | callable => simp [same]

theorem structuralEq_eq_same {x : Value} (scalar : x.IsScalar) (w : Value) :
    structuralEq x w = same x w := by
  cases x with
  | list | record | callable => exact scalar.elim
  | undefined | null | bool | number | string => simp only [structuralEq]

theorem same_scalar {x v : Value} (scalar : x.IsScalar) (h : same x v) :
    v = x ∨ ∃ a b, x = number a ∧ v = number b ∧ a == b := by
  cases x with
  | number a =>
    cases v with
    | number b => exact .inr ⟨a, b, rfl, rfl, h⟩
    | undefined | null | bool | string | list | record | callable => cases h
  | undefined | null | bool | string => cases v <;> simp_all [same]
  | list | record | callable => exact scalar.elim

/-- What is the same as a scalar stays so up to equality in structure. -/
theorem same_trans {x v w : Value} (scalar : x.IsScalar) (there : same x v)
    (equal : structuralEq v w) : same x w := by
  rcases same_scalar scalar there with rfl | ⟨a, b, rfl, rfl, same⟩
  · rwa [structuralEq_eq_same scalar] at equal
  · have scalar' : (number b).IsScalar := trivial
    rw [structuralEq_eq_same scalar'] at equal
    cases w with
    | number c => exact number_beq_trans same equal
    | undefined | null | bool | string | list | record | callable => cases equal

theorem isTagged_iff_field {v : Value} {name : String} :
    v.IsTagged name ↔ v.field tagField = string name := by
  cases v with
  | record n fields =>
    simp only [IsTagged, field, record.injEq]
    constructor
    · rintro ⟨_, _, ⟨rfl, rfl⟩, found⟩
      rw [found]
      rfl
    · intro tagged
      refine ⟨n, fields, ⟨rfl, rfl⟩, ?_⟩
      cases found : Entries.get? tagField fields with
      | none =>
        rw [found] at tagged
        cases tagged
      | some v =>
        rw [found] at tagged
        exact congrArg some tagged
  | undefined | null | bool | number | string | list | callable => simp [IsTagged, field]

/-- Values of one heap, free of no-number, that are equal in structure. -/
structure Alike (heap : Heap) (v w : Value) : Prop where
  left : v.Throughout (HeldIn heap)
  right : w.Throughout (HeldIn heap)
  numbers : v.Throughout NotNaN
  equal : structuralEq v w

namespace Alike

variable {heap : Heap} {v w : Value}

theorem field (h : Alike heap v w) (key : String) : Alike heap (v.field key) (w.field key) where
  left := h.left.field trivial key
  right := h.right.field trivial key
  numbers := h.numbers.field trivial key
  equal := by
    have numbers := (h.numbers.field trivial key).here
    obtain ⟨left, right, -, equal⟩ := h
    cases v with
    | record n vs =>
      cases w with
      | record m ws =>
        rw [structuralEq] at equal
        rcases Bool.or_eq_true_iff.mp equal with shared | equal
        · -- One allocation holds the same fields on both sides.
          obtain rfl : n = m := by simpa using shared
          obtain rfl : vs = ws := left.here.symm.trans right.here
          exact structuralEq_refl numbers
        · exact structuralFields_get? equal key
      | undefined | null | bool | number | string | list | callable => cases equal
    | undefined | null | bool | number | string | list | callable =>
      cases w with
      | record => cases equal
      | undefined | null | bool | number | string | list | callable => rfl

theorem item (h : Alike heap v w) (i : Nat) : Alike heap (v.item i) (w.item i) where
  left := h.left.item trivial i
  right := h.right.item trivial i
  numbers := h.numbers.item trivial i
  equal := by
    have numbers := (h.numbers.item trivial i).here
    obtain ⟨left, right, -, equal⟩ := h
    cases v with
    | list n vs =>
      cases w with
      | list m ws =>
        rw [structuralEq] at equal
        rcases Bool.or_eq_true_iff.mp equal with shared | equal
        · obtain rfl : n = m := by simpa using shared
          obtain rfl : vs = ws := left.here.symm.trans right.here
          exact structuralEq_refl numbers
        · exact structuralItems_getElem? equal i
      | undefined | null | bool | number | string | record | callable => cases equal
    | undefined | null | bool | number | string | record | callable =>
      cases w with
      | list => cases equal
      | undefined | null | bool | number | string | record | callable => rfl

/-- Values that are alike are alike wherever one looks. -/
theorem follow (h : Alike heap v w) (path : Path) : Alike heap (v.follow path) (w.follow path) := by
  induction path generalizing v w with
  | nil => simpa using h
  | cons part path ih =>
    cases part with
    | field key =>
      rw [follow_field, follow_field]
      exact ih (h.field key)
    | item i =>
      rw [follow_item, follow_item]
      exact ih (h.item i)

/-- A literal without an identity does not tell them apart. -/
theorem same_iff (h : Alike heap v w) {x : Value} (scalar : x.IsScalar) : same x v ↔ same x w := by
  have back : structuralEq w v := structuralEq_comm v w ▸ h.equal
  exact ⟨fun there => same_trans scalar there h.equal, fun there => same_trans scalar there back⟩

/-- Nor does a tag. -/
theorem isTagged_iff (h : Alike heap v w) (name : String) : v.IsTagged name ↔ w.IsTagged name := by
  rw [isTagged_iff_field, isTagged_iff_field, ← same_string_iff, ← same_string_iff]
  exact (h.field tagField).same_iff trivial

end Alike

end Value

namespace Pattern

/-- The literals of the pattern have no identity beside their contents. -/
def HasScalars (p : Pattern) : Prop :=
  ∀ path expected, (path, literal expected) ∈ p.places → expected.IsScalar

section

variable {p : Pattern} {heap : Heap} {v w : Value}

theorem fits_iff (scalars : p.HasScalars) (h : Value.Alike heap v w) : p.Fits v ↔ p.Fits w := by
  have place {path : Path} {q : Pattern} (there : (path, q) ∈ p.places) :
      q.Asks (v.follow path) ↔ q.Asks (w.follow path) := by
    cases q with
    | literal expected => exact (h.follow path).same_iff (scalars path expected there)
    | tagged name fields => exact (h.follow path).isTagged_iff name
    | wildcard | bind | object | array => exact Iff.rfl
  constructor
  · exact fun fits x there => (place there).mp (fits x there)
  · exact fun fits x there => (place there).mpr (fits x there)

/-- What two scopes have in common that come of matching a pattern with equal values. -/
structure Agree (p : Pattern) (t u : Scope) : Prop where
  outside : ∀ name, name ∉ p.names → t.get? name = u.get? name
  bound : ∀ name ∈ p.names, ∃ a b, t.get? name = some a ∧ u.get? name = some b ∧
    Value.structuralEq a b

theorem agree_overlay (h : Value.Alike heap v w) (s : Scope) :
    p.Agree (s.overlay v p.binders) (s.overlay w p.binders) where
  outside _ other := by
    rw [Scope.get?_overlay_of_notMem other, Scope.get?_overlay_of_notMem other]
  bound name there := by
    obtain ⟨before, path, later, split, last⟩ := Entries.exists_last there
    rw [split]
    exact ⟨_, _, Scope.get?_overlay_last last, Scope.get?_overlay_last last, (h.follow path).equal⟩

/-- A pattern whose literals have no identity cannot tell values apart that are equal in structure:
it matches neither of them, or both, and binds what is equal in structure. -/
theorem run_alike (scalars : p.HasScalars) (left : v.Throughout (Value.HeldIn heap))
    (right : w.Throughout (Value.HeldIn heap)) (numbers : v.Throughout Value.NotNaN)
    (equal : Value.structuralEq v w) (s : Scope) :
    (p.run v s = none ∧ p.run w s = none) ∨
      ∃ t u, p.run v s = some t ∧ p.run w s = some u ∧ p.Agree t u := by
  have alike : Value.Alike heap v w := ⟨left, right, numbers, equal⟩
  have same := fits_iff scalars alike
  by_cases fits : p.Fits v
  · right
    exact ⟨_, _, p.run_eq_some fits s, p.run_eq_some (same.mp fits) s, agree_overlay alike s⟩
  · left
    exact ⟨p.run_eq_none fits s, p.run_eq_none (mt same.mpr fits) s⟩

end

/-! ## One list held twice, and two lists -/

namespace Shared

def ones : List Value := [.number 1]

/-- One list is held under both names. -/
def once : Value := .record 0 [("a", .list 1 ones), ("b", .list 1 ones), ("type", .string "A")]

/-- Each name holds a list of its own. -/
def twice : Value := .record 2 [("a", .list 3 ones), ("b", .list 4 ones), ("type", .string "A")]

def heap : Heap where
  items _ := ones
  fields
    | 0 => [("a", .list 1 ones), ("b", .list 1 ones), ("type", .string "A")]
    | _ => [("a", .list 3 ones), ("b", .list 4 ones), ("type", .string "A")]

def pattern : Pattern := .tagged "A" [("a", .array [.literal (.number 1)]), shorthand "b"]

end Shared

open Shared

theorem run_alike_shared :
    pattern.HasScalars ∧ once.Throughout (Value.HeldIn heap) ∧
      twice.Throughout (Value.HeldIn heap) ∧ once.Throughout Value.NotNaN ∧
      Value.structuralEq once twice ∧ ¬Value.shallowEq once twice ∧
      ∃ t u, pattern.run once .empty = some t ∧ pattern.run twice .empty = some u ∧
        pattern.Agree t u := by
  have scalars : pattern.HasScalars := by
    simp [Pattern.HasScalars, pattern, places, placesOfFields, placesOfItems, Places.under,
      shorthand, Value.IsScalar]
  have left : once.Throughout (Value.HeldIn heap) :=
    ⟨rfl, ⟨rfl, trivial, trivial⟩, ⟨rfl, trivial, trivial⟩, trivial, trivial⟩
  have right : twice.Throughout (Value.HeldIn heap) :=
    ⟨rfl, ⟨rfl, trivial, trivial⟩, ⟨rfl, trivial, trivial⟩, trivial, trivial⟩
  have one : (1 : Float) ≠ Float.nan := by decide
  have numbers : once.Throughout Value.NotNaN :=
    ⟨trivial, ⟨trivial, one, trivial⟩, ⟨trivial, one, trivial⟩, trivial, trivial⟩
  have equal : Value.structuralEq once twice := by decide
  rcases run_alike scalars left right numbers equal .empty with ⟨fails, -⟩ | both
  · cases fails
  · exact ⟨scalars, left, right, numbers, equal, by decide, both⟩

end Pattern

end RuleMachine
