import RuleMachine.Proofs.Json

/-!
# From identity to equality in structure

Values that are the same are equal at their first level, and values that are equal there are equal
in structure. Each of the three equalities is symmetric and transitive, and holds of a value and
itself unless the value is no-number (`Heap.hierarchy`). A list or a record with no-number in it
equals itself, since its allocation is looked at first, but no copy of itself.

Shallow equality and equality in structure have the same form: two values are the same, or their
members are related one by one (`shallowEq_iff`, `structuralEq_iff`).
-/

namespace RuleMachine

theorem forall₂_join {α : Type} {R : α → α → Prop} {us vs ws : List α}
    (h : List.Forall₂ R us vs) (h' : List.Forall₂ R vs ws)
    (trans : ∀ u ∈ us, ∀ v ∈ vs, ∀ w ∈ ws, R u v → R v w → R u w) : List.Forall₂ R us ws := by
  induction h generalizing ws with
  | nil => exact h'
  | cons first _ ih =>
    cases h' with
    | cons second rest =>
      refine .cons (trans _ (.head _) _ (.head _) _ (.head _) first second) (ih rest ?_)
      intro u hu v hv w hw
      exact trans u (.tail _ hu) v (.tail _ hv) w (.tail _ hw)

namespace Entries

variable {α : Type}

/-- In an ordered list of entries every one is found. -/
theorem Sorted.get?_of_mem {es : Entries α} (sorted : es.Sorted) {key : String} {value : α}
    (mem : (key, value) ∈ es) : es.get? key = some value := by
  induction es with
  | nil => cases mem
  | cons e rest ih =>
    obtain ⟨first, later⟩ := List.pairwise_cons.mp sorted
    rcases List.mem_cons.mp mem with rfl | mem
    · simp [get?]
    · have other : (key == e.1) = false := beq_false_of_ne (Std.ne_of_lt (first _ mem)).symm
      rw [get?, List.lookup_cons, other]
      exact ih later mem

theorem mem_of_get? {es : Entries α} {key : String} {value : α} (h : es.get? key = some value) :
    (key, value) ∈ es := by
  obtain ⟨before, after, rfl, -⟩ := List.lookup_eq_some_iff.mp h
  exact List.mem_append_right _ List.mem_cons_self

/-- Ordered keys that are all among as many others are these. -/
theorem Sorted.keys_eq {es fs : Entries α} (sorted : es.Sorted) (sorted' : fs.Sorted)
    (length : es.length = fs.length) (sub : es.keys ⊆ fs.keys) : es.keys = fs.keys := by
  have ordered : es.keys.Pairwise (· < ·) := List.pairwise_map.mpr sorted
  have ordered' : fs.keys.Pairwise (· < ·) := List.pairwise_map.mpr sorted'
  have distinct : es.keys.Nodup := ordered.imp Std.ne_of_lt
  have perm : es.keys.Perm fs.keys := by
    refine (distinct.subperm sub).perm_of_length_le ?_
    rw [keys, keys, List.length_map, List.length_map, length]
  refine perm.eq_of_pairwise (fun a b _ _ below above => ?_) ordered ordered'
  exact absurd above (String.lt_asymm below)

end Entries

namespace Value

/-! ## Members -/

/-- The value stands directly in a list or a record. -/
inductive MemberOf (w : Value) : Value → Prop
  | item {n : Nat} {items : List Value} : w ∈ items → MemberOf w (list n items)
  | field {n : Nat} {fields : List (String × Value)} {key : String} :
      (key, w) ∈ fields → MemberOf w (record n fields)

theorem MemberOf.sizeOf_lt {v w : Value} (h : w.MemberOf v) : sizeOf w < sizeOf v := by
  cases h with
  | item mem =>
    have smaller := List.sizeOf_lt_of_mem mem
    rw [list.sizeOf_spec]
    omega
  | @field n fields key mem =>
    have smaller := List.sizeOf_lt_of_mem mem
    rw [Prod.mk.sizeOf_spec] at smaller
    rw [record.sizeOf_spec]
    omega

/-- What holds of a value as soon as it holds of all its members holds of every value. -/
theorem induction_members {P : Value → Prop} (step : ∀ v, (∀ w, w.MemberOf v → P w) → P v)
    (v : Value) : P v :=
  step v fun w inside =>
    have _ : sizeOf w < sizeOf v := inside.sizeOf_lt
    induction_members step w
termination_by sizeOf v

theorem ThroughoutItems.mem {P : Value → Prop} {items : List Value} (h : ThroughoutItems P items)
    {v : Value} (mem : v ∈ items) : v.Throughout P := by
  obtain ⟨i, found⟩ := List.mem_iff_getElem?.mp mem
  exact h.getElem? found

theorem ThroughoutFields.mem {P : Value → Prop} {fields : List (String × Value)}
    (h : ThroughoutFields P fields) {key : String} {v : Value} (mem : (key, v) ∈ fields) :
    v.Throughout P := by
  induction fields with
  | nil => cases mem
  | cons f fields ih =>
    rcases List.mem_cons.mp mem with rfl | later
    · exact h.1
    · exact ih h.2 later

theorem Throughout.member {P : Value → Prop} {v w : Value} (h : v.Throughout P)
    (inside : w.MemberOf v) : w.Throughout P := by
  cases inside with
  | item mem => exact h.2.mem mem
  | field mem => exact h.2.mem mem

/-- Two lists, or two records with the same keys, whose members are related one by one. -/
inductive Members (R : Value → Value → Prop) : Value → Value → Prop
  | list {m n : Nat} {vs ws : List Value} :
      List.Forall₂ R vs ws → Members R (list m vs) (list n ws)
  | record {m n : Nat} {vs ws : List (String × Value)} :
      List.Forall₂ (fun f g => f.1 = g.1 ∧ R f.2 g.2) vs ws → Members R (record m vs) (record n ws)

namespace Members

variable {R S : Value → Value → Prop} {u v w : Value}

theorem list_iff {m n : Nat} {vs ws : List Value} :
    Members R (.list m vs) (.list n ws) ↔ List.Forall₂ R vs ws := by
  constructor
  · rintro ⟨items⟩
    exact items
  · exact .list

theorem record_iff {m n : Nat} {vs ws : List (String × Value)} :
    Members R (.record m vs) (.record n ws) ↔
      List.Forall₂ (fun f g => f.1 = g.1 ∧ R f.2 g.2) vs ws := by
  constructor
  · rintro (_ | ⟨fields⟩)
    exact fields
  · exact .record

theorem imp (h : Members R v w) (weaker : ∀ x y, R x y → S x y) : Members S v w := by
  cases h with
  | list items => exact .list (items.imp weaker)
  | record fields => exact .record (fields.imp fun f g same => ⟨same.1, weaker _ _ same.2⟩)

theorem symm (h : Members R v w) (symm : ∀ x y, R x y → R y x) : Members R w v := by
  cases h with
  | list items => exact .list (items.flip.imp fun x y => symm y x)
  | record fields =>
    exact .record (fields.flip.imp fun f g same => ⟨same.1.symm, symm _ _ same.2⟩)

theorem trans (h : Members R u v) (h' : Members R v w)
    (trans : ∀ x y z, x.MemberOf u → y.MemberOf v → z.MemberOf w → R x y → R y z → R x z) :
    Members R u w := by
  cases h with
  | list items =>
    cases h' with
    | list items' =>
      refine .list (forall₂_join items items' fun x hx y hy z hz => ?_)
      exact trans x y z (.item hx) (.item hy) (.item hz)
  | record fields =>
    cases h' with
    | record fields' =>
      refine .record (forall₂_join fields fields' ?_)
      rintro ⟨k, x⟩ hx ⟨l, y⟩ hy ⟨m, z⟩ hz ⟨rfl, first⟩ ⟨rfl, second⟩
      exact ⟨rfl, trans x y z (.field hx) (.field hy) (.field hz) first second⟩

end Members

/-! ## What each equality looks at -/

theorem same_self_iff {v : Value} : same v v ↔ v.NotNaN := by
  cases v with
  | number n =>
    have self : (n == n) ↔ n ≠ Float.nan := by
      rw [Float.beq_iff_ne_nan_and_eq]
      simp
    exact self
  | undefined | null | bool | string | list | record | callable => simp [same, NotNaN]

theorem same_join {u v w : Value} (h : same u v) (h' : same v w) : same u w := by
  cases u with
  | number a =>
    cases v with
    | number b =>
      cases w with
      | number c => exact number_beq_trans h h'
      | undefined | null | bool | string | list | record | callable => cases h'
    | undefined | null | bool | string | list | record | callable => cases h
  | undefined | null | bool | string | list | record | callable =>
    cases v <;> cases w <;> simp_all [same]

theorem sameItems_iff {vs ws : List Value} :
    sameItems vs ws ↔ List.Forall₂ (fun v w => same v w) vs ws := by
  induction vs generalizing ws with
  | nil => cases ws <;> simp [sameItems]
  | cons v vs ih => cases ws <;> simp [sameItems, ih]

theorem sameFields_iff_found {es fs : Entries Value} : sameFields es fs ↔
    es.length = fs.length ∧ ∀ f ∈ es, ∃ w, Entries.get? f.1 fs = some w ∧ same f.2 w := by
  rw [sameFields, Bool.and_eq_true, beq_iff_eq, List.all_eq_true]
  refine and_congr_right fun _ => forall₂_congr fun (key, v) _ => ?_
  dsimp only
  cases Entries.get? key fs <;> simp

/-- Records in order are compared key by key. -/
theorem sameFields_iff {es fs : Entries Value} (sorted : es.Sorted) (sorted' : fs.Sorted) :
    sameFields es fs ↔ List.Forall₂ (fun f g => f.1 = g.1 ∧ same f.2 g.2) es fs := by
  rw [sameFields_iff_found, List.forall₂_iff_get]
  refine and_congr_right fun length => ?_
  constructor
  · intro found i hi hi'
    have keys : es.keys = fs.keys := by
      refine sorted.keys_eq sorted' length fun key mem => ?_
      obtain ⟨f, inside, rfl⟩ := List.mem_map.mp mem
      obtain ⟨w, there, -⟩ := found f inside
      exact List.mem_map.mpr ⟨_, Entries.mem_of_get? there, rfl⟩
    have key : (es.get ⟨i, hi⟩).1 = (fs.get ⟨i, hi'⟩).1 := by
      have here : es.keys[i]? = fs.keys[i]? := by rw [keys]
      simpa [Entries.keys, hi, hi'] using here
    obtain ⟨w, there, equal⟩ := found _ (List.get_mem es ⟨i, hi⟩)
    rw [key, sorted'.get?_of_mem (List.get_mem fs ⟨i, hi'⟩)] at there
    cases there
    exact ⟨key, equal⟩
  · rintro each f mem
    obtain ⟨⟨i, hi⟩, rfl⟩ := List.get_of_mem mem
    obtain ⟨key, equal⟩ := each i hi (length ▸ hi)
    refine ⟨_, ?_, equal⟩
    rw [key]
    exact sorted'.get?_of_mem (List.get_mem fs _)

theorem structuralItems_iff {vs ws : List Value} :
    structuralItems vs ws ↔ List.Forall₂ (fun v w => structuralEq v w) vs ws := by
  induction vs generalizing ws with
  | nil => cases ws <;> simp [structuralItems]
  | cons v vs ih => cases ws <;> simp [structuralItems, ih]

theorem structuralFields_iff {vs ws : List (String × Value)} :
    structuralFields vs ws ↔ List.Forall₂ (fun f g => f.1 = g.1 ∧ structuralEq f.2 g.2) vs ws := by
  induction vs generalizing ws with
  | nil => cases ws <;> simp [structuralFields]
  | cons f vs ih => cases ws <;> simp [structuralFields, ih]

/-- Values are equal at their first level if they are the same or their members are. -/
theorem shallowEq_iff {v w : Value} (keyed : v.Keyed) (keyed' : w.Keyed) :
    shallowEq v w ↔ same v w ∨ Members (fun x y => same x y) v w := by
  unfold shallowEq
  rw [Bool.or_eq_true]
  refine or_congr_right ?_
  split
  · rw [sameItems_iff, Members.list_iff]
  · rw [sameFields_iff keyed keyed', Members.record_iff]
  · next notLists notRecords =>
    refine iff_of_false Bool.false_ne_true ?_
    rintro (_ | _)
    · exact notLists _ _ _ _ rfl rfl
    · exact notRecords _ _ _ _ rfl rfl

/-- Values are equal in structure if they are the same or their members are equal in structure. -/
theorem structuralEq_iff {v w : Value} :
    structuralEq v w ↔ same v w ∨ Members (fun x y => structuralEq x y) v w := by
  rw [structuralEq.eq_def v w]
  split
  · rw [Bool.or_eq_true, structuralItems_iff, Members.list_iff]
    rfl
  · rw [Bool.or_eq_true, structuralFields_iff, Members.record_iff]
    rfl
  · next notLists notRecords =>
    refine (or_iff_left ?_).symm
    rintro (_ | _)
    · exact notLists _ _ _ _ rfl rfl
    · exact notRecords _ _ _ _ rfl rfl

/-! ## Values of one heap -/

/-- A value as it can be met: all of its lists and records are as the heap holds them, and the
fields of its records are in order. -/
structure KeptIn (heap : Heap) (v : Value) : Prop where
  held : v.Throughout (HeldIn heap)
  keyed : v.Throughout Keyed

namespace KeptIn

variable {heap : Heap} {u v w : Value}

theorem member (h : v.KeptIn heap) (inside : w.MemberOf v) : w.KeptIn heap :=
  ⟨h.held.member inside, h.keyed.member inside⟩

/-- An allocation holds the same wherever it is met, so values that are the same have the same
members. -/
theorem members_left {R : Value → Value → Prop} (h : u.KeptIn heap) (h' : v.KeptIn heap)
    (identical : same u v) (members : Members R v w) : Members R u w := by
  have there := h.held.here
  have there' := h'.held.here
  cases members with
  | @list m n vs ws items =>
    cases u with
    | list l us =>
      obtain rfl : l = m := eq_of_beq identical
      obtain rfl : us = vs := there.symm.trans there'
      exact .list items
    | undefined | null | bool | number | string | record | callable => cases identical
  | @record m n vs ws fields =>
    cases u with
    | record l us =>
      obtain rfl : l = m := eq_of_beq identical
      obtain rfl : us = vs := there.symm.trans there'
      exact .record fields
    | undefined | null | bool | number | string | list | callable => cases identical

end KeptIn

/-- Two values are the same, or related by their members. -/
def Linked (R : Value → Value → Prop) (v w : Value) : Prop := same v w ∨ Members R v w

namespace Linked

variable {heap : Heap} {R : Value → Value → Prop} {u v w : Value}

theorem symm (h : Linked R v w) (symm : ∀ x y, R x y → R y x) : Linked R w v := by
  rcases h with identical | members
  · exact .inl (same_comm v w ▸ identical)
  · exact .inr (members.symm symm)

theorem trans (hu : u.KeptIn heap) (hv : v.KeptIn heap) (hw : w.KeptIn heap) (h : Linked R u v)
    (h' : Linked R v w) (symm : ∀ x y, R x y → R y x)
    (trans : ∀ x y z, x.MemberOf u → y.MemberOf v → z.MemberOf w → R x y → R y z → R x z) :
    Linked R u w := by
  rcases h with identical | members
  · rcases h' with identical' | members'
    · exact .inl (same_join identical identical')
    · exact .inr (hu.members_left hv identical members')
  · rcases h' with identical' | members'
    · have back : same w v := same_comm v w ▸ identical'
      exact .inr ((hw.members_left hv back (members.symm symm)).symm symm)
    · exact .inr (members.trans members' trans)

/-- Only lists and records have members, and they are not no-number. -/
theorem self_iff : Linked R v v ↔ v.NotNaN := by
  constructor
  · rintro (identical | _ | _)
    · exact same_self_iff.mp identical
    · trivial
    · trivial
  · exact fun number => .inl (same_self_iff.mpr number)

end Linked

theorem structuralEq_self_iff {v : Value} : structuralEq v v ↔ v.NotNaN :=
  structuralEq_iff.trans Linked.self_iff

/-! ## Copies -/

/-- The value `w` is a list or a record with the members of `v`, held in another allocation. -/
structure CopyOf (v w : Value) : Prop where
  members : Members Eq v w
  apart : ¬ same v w

namespace Members

variable {R : Value → Value → Prop} {v w : Value}

/-- The members of a copy are related if each is to itself. -/
theorem copy_iff (copied : Members Eq v w) : Members R v w ↔ ∀ x, x.MemberOf v → R x x := by
  cases copied with
  | @list m n vs ws items =>
    obtain rfl : vs = ws := List.forall₂_eq_eq_eq ▸ items
    rw [list_iff, List.forall₂_same]
    constructor
    · rintro all x ⟨mem⟩
      exact all x mem
    · exact fun all x mem => all x (.item mem)
  | @record m n vs ws fields =>
    have pairs : List.Forall₂ Eq vs ws := fields.imp fun f g same => Prod.ext same.1 same.2
    obtain rfl : vs = ws := List.forall₂_eq_eq_eq ▸ pairs
    rw [record_iff, List.forall₂_same]
    constructor
    · rintro all x (_ | mem)
      exact (all _ mem).2
    · exact fun all f mem => ⟨rfl, all f.2 (.field mem)⟩

end Members

namespace CopyOf

variable {v w : Value} (h : v.CopyOf w)
include h

theorem shallowEq_iff (keyed : v.Keyed) (keyed' : w.Keyed) :
    shallowEq v w ↔ ∀ x : Value, x.MemberOf v → x.NotNaN := by
  rw [Value.shallowEq_iff keyed keyed', or_iff_right h.apart, h.members.copy_iff]
  exact forall₂_congr fun x _ => same_self_iff

theorem structuralEq_iff : structuralEq v w ↔ ∀ x : Value, x.MemberOf v → x.NotNaN := by
  rw [Value.structuralEq_iff, or_iff_right h.apart, h.members.copy_iff]
  exact forall₂_congr fun x _ => structuralEq_self_iff

end CopyOf

section Copies

variable {place : Nat → Nat}

mutual

/-- A copy that is nowhere held where the original is equals it if there is no no-number in it. -/
theorem structuralEq_copy (elsewhere : ∀ n, place n ≠ n) : ∀ v : Value,
    structuralEq v (v.rebuild place id) ↔ v.Throughout NotNaN
  | list n items => by
    have apart : (n == place n) = false := beq_false_of_ne (elsewhere n).symm
    rw [rebuild, structuralEq, apart, Bool.false_or, structuralItems_copy elsewhere items]
    exact (and_iff_right trivial).symm
  | record n fields => by
    have apart : (n == place n) = false := beq_false_of_ne (elsewhere n).symm
    rw [rebuild, structuralEq, apart, Bool.false_or, structuralFields_copy elsewhere fields]
    exact (and_iff_right trivial).symm
  | undefined | null | bool _ | number _ | string _ | callable _ => by
    simpa only [rebuild, id, structuralEq, Throughout] using same_self_iff

theorem structuralItems_copy (elsewhere : ∀ n, place n ≠ n) : ∀ items : List Value,
    structuralItems items (rebuildItems place id items) ↔ ThroughoutItems NotNaN items
  | [] => by simp [rebuildItems, structuralItems, ThroughoutItems]
  | v :: vs => by
    rw [rebuildItems, structuralItems, Bool.and_eq_true, structuralEq_copy elsewhere v,
      structuralItems_copy elsewhere vs]
    rfl

theorem structuralFields_copy (elsewhere : ∀ n, place n ≠ n) :
    ∀ fields : List (String × Value),
      structuralFields fields (rebuildFields place id fields) ↔ ThroughoutFields NotNaN fields
  | [] => by simp [rebuildFields, structuralFields, ThroughoutFields]
  | (key, v) :: fields => by
    rw [rebuildFields, structuralFields, beq_self_eq_true, Bool.true_and, Bool.and_eq_true,
      structuralEq_copy elsewhere v, structuralFields_copy elsewhere fields]
    rfl

end

end Copies

/-! ## The hierarchy -/

/-- A relation that is symmetric and transitive on the values of a heap, and that holds of a value
and itself unless it is no-number. -/
structure PartialEquivalence (heap : Heap) (eq : Value → Value → Bool) : Prop where
  symm {v w : Value} : v.KeptIn heap → w.KeptIn heap → eq v w → eq w v
  trans {u v w : Value} : u.KeptIn heap → v.KeptIn heap → w.KeptIn heap →
    eq u v → eq v w → eq u w
  self_iff {v : Value} : v.KeptIn heap → (eq v v ↔ v.NotNaN)

theorem partialEquivalence_same (heap : Heap) : PartialEquivalence heap same where
  symm _ _ h := same_comm _ _ ▸ h
  trans _ _ _ := same_join
  self_iff _ := same_self_iff

theorem partialEquivalence_shallowEq (heap : Heap) : PartialEquivalence heap shallowEq where
  symm hv hw h := by
    rw [shallowEq_iff hv.keyed.here hw.keyed.here] at h
    rw [shallowEq_iff hw.keyed.here hv.keyed.here]
    exact Linked.symm h fun x y => same_comm x y ▸ id
  trans hu hv hw h h' := by
    rw [shallowEq_iff hu.keyed.here hv.keyed.here] at h
    rw [shallowEq_iff hv.keyed.here hw.keyed.here] at h'
    rw [shallowEq_iff hu.keyed.here hw.keyed.here]
    refine Linked.trans hu hv hw h h' (fun x y => same_comm x y ▸ id) ?_
    exact fun x y z _ _ _ => same_join
  self_iff hv := by
    rw [shallowEq_iff hv.keyed.here hv.keyed.here]
    exact Linked.self_iff

theorem structuralEq_join {heap : Heap} (u : Value) : ∀ {v w : Value}, u.KeptIn heap →
    v.KeptIn heap → w.KeptIn heap → structuralEq u v → structuralEq v w → structuralEq u w := by
  induction u using induction_members with
  | step u ih =>
    intro v w hu hv hw h h'
    rw [structuralEq_iff] at h h' ⊢
    refine Linked.trans hu hv hw h h' (fun x y => structuralEq_comm x y ▸ id) ?_
    intro x y z hx hy hz
    exact ih x hx (hu.member hx) (hv.member hy) (hw.member hz)

theorem partialEquivalence_structuralEq (heap : Heap) :
    PartialEquivalence heap structuralEq where
  symm _ _ h := structuralEq_comm _ _ ▸ h
  trans := structuralEq_join _
  self_iff _ := structuralEq_self_iff

theorem shallowEq_of_same {v w : Value} (h : same v w) : shallowEq v w := by
  unfold shallowEq
  rw [h, Bool.true_or]

theorem structuralEq_of_shallowEq {v w : Value} (keyed : v.Keyed) (keyed' : w.Keyed)
    (h : shallowEq v w) : structuralEq v w := by
  rw [shallowEq_iff keyed keyed'] at h
  rw [structuralEq_iff]
  exact h.imp_right fun members => members.imp fun x y same => structuralEq_iff.mpr (.inl same)

end Value

namespace Heap

open Value

/-- What the three equalities are to each other, and each to itself. -/
structure Hierarchy (heap : Heap) : Prop where
  shallow_of_same {v w : Value} : v.KeptIn heap → w.KeptIn heap → same v w → shallowEq v w
  structural_of_shallow {v w : Value} : v.KeptIn heap → w.KeptIn heap → shallowEq v w →
    structuralEq v w
  same : PartialEquivalence heap same
  shallow : PartialEquivalence heap shallowEq
  structural : PartialEquivalence heap structuralEq
  /-- A copy equals what it is a copy of unless no-number is one of the members. -/
  copy {v w : Value} : v.KeptIn heap → w.KeptIn heap → v.CopyOf w →
    (shallowEq v w ↔ ∀ x : Value, x.MemberOf v → x.NotNaN) ∧
    (structuralEq v w ↔ ∀ x : Value, x.MemberOf v → x.NotNaN)
  /-- If its members are copied as well, and theirs, then unless no-number is anywhere in it. -/
  deepCopy {place : Nat → Nat} : (∀ n, place n ≠ n) → ∀ v : Value,
    (structuralEq v (v.rebuild place id) ↔ v.Throughout NotNaN)

/-- Identity is finer than shallow equality, and that is finer than equality in structure; all three
are partial equivalences, and leave out no-number only. -/
theorem hierarchy (heap : Heap) : heap.Hierarchy where
  shallow_of_same _ _ := shallowEq_of_same
  structural_of_shallow hv hw := structuralEq_of_shallowEq hv.keyed.here hw.keyed.here
  same := partialEquivalence_same heap
  shallow := partialEquivalence_shallowEq heap
  structural := partialEquivalence_structuralEq heap
  copy hv hw copied :=
    ⟨copied.shallowEq_iff hv.keyed.here hw.keyed.here, copied.structuralEq_iff⟩
  deepCopy := structuralEq_copy

/-! ### No-number in a list -/

namespace Unequal

def members : List Value := [.number Float.nan]

def original : Value := .list 0 members

def copied : Value := .list 1 members

def heap : Heap where
  items _ := members
  fields _ := []

end Unequal

open Unequal

/-- A list with no-number in it equals itself in every way, and a copy of it in none. -/
theorem hierarchy_unequal :
    original.KeptIn heap ∧ copied.KeptIn heap ∧ original.CopyOf copied ∧
      (Value.same original original ∧ shallowEq original original ∧
        structuralEq original original) ∧
      ¬ shallowEq original copied ∧ ¬ structuralEq original copied := by
  have kept (n : Nat) : (list n members).KeptIn heap :=
    ⟨⟨rfl, trivial, trivial⟩, ⟨trivial, trivial, trivial⟩⟩
  have copy : original.CopyOf copied := ⟨.list (List.forall₂_eq_eq_eq ▸ rfl), by decide⟩
  have inside : ¬ ∀ x : Value, x.MemberOf original → x.NotNaN := by
    intro all
    exact all (.number Float.nan) (.item (.head _)) rfl
  have self := ((hierarchy heap).same.self_iff (kept 0)).mpr trivial
  have shallow := (hierarchy heap).shallow_of_same (kept 0) (kept 0) self
  have structural := (hierarchy heap).structural_of_shallow (kept 0) (kept 0) shallow
  obtain ⟨shallow', structural'⟩ := (hierarchy heap).copy (kept 0) (kept 1) copy
  exact ⟨kept 0, kept 1, copy, ⟨self, shallow, structural⟩, mt shallow'.mp inside,
    mt structural'.mp inside⟩

end Heap

end RuleMachine
