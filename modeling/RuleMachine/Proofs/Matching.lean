import RuleMachine.Pattern

/-!
# What a pattern asks of a value

Every part of a pattern looks at one place in the value, which a path leads to. A tagged part asks
for a tag there, a literal for the same value, and a binder takes what it finds. So matching can be
said without going through the pattern: `run_reads` says that a pattern matches if and only if the
value is at every place as it is asked to be, and that a match lays what the binders take over the
scope, from left to right.
-/

namespace RuleMachine

/-! ## Places in a value -/

/-- One way down into a value. -/
inductive Part where
  | field (key : String)
  | item (i : Nat)
  deriving DecidableEq, Repr

abbrev Path := List Part

namespace Value

/-- What stands at the end of a path. What is missing, and what is inside of no list or record, is
undefined. -/
def follow : Value → Path → Value
  | v, [] => v
  | record _ fields, .field key :: path =>
    match Entries.get? key fields with
    | some v => v.follow path
    | none => undefined
  | list _ items, .item i :: path =>
    match items[i]? with
    | some v => v.follow path
    | none => undefined
  | _, _ :: _ => undefined

@[simp] theorem follow_nil (v : Value) : v.follow [] = v := by
  cases v <;> rfl

theorem undefined_follow (path : Path) : undefined.follow path = undefined := by
  cases path <;> simp [follow]

theorem follow_field (v : Value) (key : String) (path : Path) :
    v.follow (.field key :: path) = (v.field key).follow path := by
  cases v with
  | record n fields =>
    rw [follow, field]
    cases Entries.get? key fields with
    | none => exact (undefined_follow path).symm
    | some v => rfl
  | undefined | null | bool | number | string | list | callable =>
    exact (undefined_follow path).symm

theorem follow_item (v : Value) (i : Nat) (path : Path) :
    v.follow (.item i :: path) = (v.item i).follow path := by
  cases v with
  | list n items =>
    rw [follow, item]
    cases items[i]? with
    | none => exact (undefined_follow path).symm
    | some v => rfl
  | undefined | null | bool | number | string | record | callable =>
    exact (undefined_follow path).symm

/-- The value is a record, and its field for the tag holds the string `name`. -/
def IsTagged (name : String) (v : Value) : Prop :=
  ∃ n fields, v = record n fields ∧ Entries.get? tagField fields = some (string name)

theorem tag?_eq_some_iff {v : Value} {name : String} : v.tag? = some name ↔ v.IsTagged name := by
  cases v with
  | record n fields =>
    simp only [tag?, IsTagged, record.injEq]
    constructor
    · intro tagged
      split at tagged
      · next tag found =>
        cases tagged
        exact ⟨n, fields, ⟨rfl, rfl⟩, found⟩
      · cases tagged
    · rintro ⟨_, _, ⟨rfl, rfl⟩, found⟩
      rw [found]
  | undefined | null | bool | number | string | list | callable => simp [tag?, IsTagged]

end Value

/-! ## The parts of a pattern -/

/-- Parts of a pattern, from left to right, each with the path to the place it looks at. -/
abbrev Places := List (Path × Pattern)

namespace Pattern

/-- What a part of a pattern asks of the value it looks at, its own parts left out. -/
def Asks : Pattern → Value → Prop
  | literal expected, v => Value.same expected v
  | tagged name _, v => v.IsTagged name
  | wildcard, _ | bind _, _ | object _, _ | array _, _ => True

/-- The name that a part of a pattern binds, its own parts left out. -/
def binder? : Pattern → Option String
  | bind name => some name
  | _ => none

end Pattern

namespace Places

/-- The same parts inside of a part of the value. -/
def under (part : Part) (places : Places) : Places :=
  places.map fun (path, p) => (part :: path, p)

/-- The value is everywhere as it is asked to be. -/
def Fit (places : Places) (v : Value) : Prop := ∀ place ∈ places, place.2.Asks (v.follow place.1)

/-- The names that are bound, each with the path to what it is bound to. -/
def binders (places : Places) : List (String × Path) :=
  places.filterMap fun (path, p) => p.binder?.map (·, path)

end Places

namespace Pattern

mutual

/-- The parts of the pattern, with itself in the first place. -/
def places : Pattern → Places
  | tagged name fields => ([], tagged name fields) :: placesOfFields fields
  | object fields => ([], object fields) :: placesOfFields fields
  | array items => ([], array items) :: placesOfItems items 0
  | wildcard => [([], wildcard)]
  | literal expected => [([], literal expected)]
  | bind name => [([], bind name)]

def placesOfFields : List (String × Pattern) → Places
  | [] => []
  | (key, p) :: fields => (places p).under (.field key) ++ placesOfFields fields

def placesOfItems : List Pattern → Nat → Places
  | [], _ => []
  | p :: items, i => (places p).under (.item i) ++ placesOfItems items (i + 1)

end

/-- The names that the pattern binds, each with the path to what it is bound to; a name that is
bound more than once is there as often. -/
def binders (p : Pattern) : List (String × Path) := p.places.binders

def names (p : Pattern) : List String := p.binders.map Prod.fst

/-- The value has at every place of the pattern the tag or the literal that is asked for there. -/
def Fits (p : Pattern) (v : Value) : Prop := p.places.Fit v

end Pattern

/-! ## Laying bindings over a scope -/

/-- A name that is there is there for a last time. -/
theorem Entries.exists_last {α : Type} {pairs : List (String × α)} {name : String}
    (h : name ∈ pairs.map Prod.fst) :
    ∃ before a later, pairs = before ++ (name, a) :: later ∧ name ∉ later.map Prod.fst := by
  induction pairs with
  | nil => cases h
  | cons pair pairs ih =>
    by_cases again : name ∈ pairs.map Prod.fst
    · obtain ⟨before, a, later, rfl, last⟩ := ih again
      exact ⟨pair :: before, a, later, rfl, last⟩
    · obtain rfl | inside := List.mem_cons.mp h
      · exact ⟨[], pair.2, pairs, rfl, again⟩
      · exact absurd inside again

namespace Scope

def get? (s : Scope) (name : String) : Option Value := s.bindings.get? name

theorem get?_bind_self (s : Scope) (name : String) (v : Value) :
    (s.bind name v).get? name = some v := Entries.get?_insert_self ..

theorem get?_bind_of_ne (s : Scope) {name other : String} (h : other ≠ name) (v : Value) :
    (s.bind name v).get? other = s.get? other := Entries.get?_insert_of_ne h ..

/-- The scope with the bindings made one after the other, to what stands at their paths. -/
def overlay (s : Scope) (v : Value) (binders : List (String × Path)) : Scope :=
  binders.foldl (fun s (name, path) => s.bind name (v.follow path)) s

variable {s : Scope} {v : Value} {name : String}

theorem overlay_append (binders more : List (String × Path)) :
    s.overlay v (binders ++ more) = (s.overlay v binders).overlay v more := List.foldl_append

theorem get?_overlay_of_notMem {binders : List (String × Path)}
    (h : name ∉ binders.map Prod.fst) : (s.overlay v binders).get? name = s.get? name := by
  induction binders generalizing s with
  | nil => rfl
  | cons b binders ih =>
    obtain ⟨first, rest⟩ := not_or.mp (mt List.mem_cons.mpr h)
    exact (ih rest).trans (get?_bind_of_ne s first _)

theorem get?_overlay_last {before later : List (String × Path)} {path : Path}
    (h : name ∉ later.map Prod.fst) :
    (s.overlay v (before ++ (name, path) :: later)).get? name = some (v.follow path) := by
  rw [overlay_append]
  exact (get?_overlay_of_notMem h).trans (get?_bind_self _ name _)

end Scope

/-! ## Matching -/

namespace Places

variable {v : Value} {places more : Places}

theorem fit_append : (places ++ more).Fit v ↔ places.Fit v ∧ more.Fit v := List.forall_mem_append

theorem fit_cons {path : Path} {p : Pattern} :
    Fit ((path, p) :: places) v ↔ p.Asks (v.follow path) ∧ places.Fit v := List.forall_mem_cons

theorem fit_under {part : Part} {w : Value}
    (h : ∀ path, v.follow (part :: path) = w.follow path) :
    (places.under part).Fit v ↔ places.Fit w := by
  simp only [Fit, under, List.forall_mem_map, h]

theorem binders_append : (places ++ more).binders = places.binders ++ more.binders :=
  List.filterMap_append

theorem binders_under (part : Part) :
    (places.under part).binders = places.binders.map fun (name, path) => (name, part :: path) := by
  simp only [binders, under, List.filterMap_map, List.map_filterMap]
  congr 1
  funext ⟨path, p⟩
  cases p <;> rfl

theorem overlay_under {part : Part} {w : Value}
    (h : ∀ path, v.follow (part :: path) = w.follow path) (s : Scope) :
    s.overlay v (places.under part).binders = s.overlay w places.binders := by
  simp only [Scope.overlay, binders_under, List.foldl_map, h]

/-- A match reads the places: it succeeds if they fit, whatever the scope, and then binds what is to
be bound there. -/
def Reads (places : Places) (v : Value) (run : Scope → Outcome Scope) : Prop :=
  ∀ s t, run s = some t ↔ places.Fit v ∧ t = s.overlay v places.binders

namespace Reads

variable {run run' : Scope → Outcome Scope}

theorem nothing (v : Value) : Reads [] v some := by
  intro s t
  simp [Fit, binders, Scope.overlay, eq_comm (a := t)]

theorem append (first : Reads places v run) (rest : Reads more v run') :
    Reads (places ++ more) v fun s => (run s).bind run' := by
  intro s t
  rw [fit_append, binders_append, Scope.overlay_append, Option.bind_eq_some_iff]
  constructor
  · rintro ⟨u, matched, later⟩
    obtain ⟨fit, rfl⟩ := (first s u).mp matched
    obtain ⟨fit', rfl⟩ := (rest _ t).mp later
    exact ⟨⟨fit, fit'⟩, rfl⟩
  · rintro ⟨⟨fit, fit'⟩, rfl⟩
    exact ⟨_, (first s _).mpr ⟨fit, rfl⟩, (rest _ _).mpr ⟨fit', rfl⟩⟩

theorem under {part : Part} {w : Value} (down : ∀ path, v.follow (part :: path) = w.follow path)
    (h : Reads places w run) : Reads (places.under part) v run := by
  intro s t
  rw [fit_under down, overlay_under down]
  exact h s t

/-- A part that is as it is asked to be, and binds nothing. -/
theorem part (h : Reads places v run) (p : Pattern) (asks : p.Asks v) (quiet : p.binder? = none) :
    Reads (([], p) :: places) v run := by
  intro s t
  have none : Places.binders (([], p) :: places) = places.binders := by simp [binders, quiet]
  rw [fit_cons, none, h s t, Value.follow_nil]
  simp [asks]

theorem refused (p : Pattern) (asks : ¬p.Asks v) :
    Reads (([], p) :: places) v fun _ => none := by
  intro s t
  rw [fit_cons, Value.follow_nil]
  simp [asks]

theorem congr (h : Reads places v run) (same : run' = run) : Reads places v run' :=
  same ▸ h

end Reads

end Places

namespace Pattern

open Places

mutual

theorem reads : ∀ (p : Pattern) (v : Value), p.places.Reads v (p.run v)
  | wildcard, v =>
    ((Reads.nothing v).part wildcard trivial rfl).congr (funext fun _ => by rw [run])
  | literal expected, v => by
    by_cases same : Value.same expected v
    · refine ((Reads.nothing v).part (literal expected) same rfl).congr (funext fun s => ?_)
      rw [run, Outcome.when, if_pos same]
    · refine (Reads.refused (literal expected) same).congr (funext fun s => ?_)
      rw [run, Outcome.when, if_neg same]
  | bind name, v => by
    intro s t
    simp [run, places, Asks, Fit, Places.binders, binder?, Scope.overlay, eq_comm (a := t)]
  | tagged name fields, v => by
    by_cases asked : v.tag? = some name
    · have tagged := Value.tag?_eq_some_iff.mp asked
      have reads := (readsFields fields v).part (.tagged name fields) tagged rfl
      refine reads.congr (funext fun s => ?_)
      rw [run, if_pos asked]
    · have other : ¬v.IsTagged name := mt Value.tag?_eq_some_iff.mpr asked
      refine (Reads.refused (.tagged name fields) other).congr (funext fun s => ?_)
      rw [run, if_neg asked]
  | object fields, v =>
    ((readsFields fields v).part (object fields) trivial rfl).congr (funext fun _ => by rw [run])
  | array items, v =>
    ((readsItems items v 0).part (array items) trivial rfl).congr (funext fun _ => by rw [run])

theorem readsFields : ∀ (fields : List (String × Pattern)) (v : Value),
    (placesOfFields fields).Reads v (runFields fields v)
  | [], v => (Reads.nothing v).congr (funext fun _ => by rw [runFields])
  | (key, p) :: fields, v => by
    have first := (reads p (v.field key)).under (v.follow_field key)
    refine (first.append (readsFields fields v)).congr (funext fun s => ?_)
    rw [runFields]
    cases p.run (v.field key) s <;> rfl

theorem readsItems : ∀ (items : List Pattern) (v : Value) (i : Nat),
    (placesOfItems items i).Reads v (runItems items v i)
  | [], v, i => (Reads.nothing v).congr (funext fun _ => by rw [runItems])
  | p :: items, v, i => by
    have first := (reads p (v.item i)).under (v.follow_item i)
    refine (first.append (readsItems items v (i + 1))).congr (funext fun s => ?_)
    rw [runItems]
    cases p.run (v.item i) s <;> rfl

end

theorem run_eq_some (p : Pattern) {v : Value} (fits : p.Fits v) (s : Scope) :
    p.run v s = some (s.overlay v p.binders) := (p.reads v s _).mpr ⟨fits, rfl⟩

theorem run_eq_none (p : Pattern) {v : Value} (misfits : ¬p.Fits v) (s : Scope) :
    p.run v s = none :=
  Option.eq_none_iff_forall_ne_some.mpr fun t matched => misfits ((p.reads v s t).mp matched).1

/-- What a match of `p` with `v` makes of the scope `s`. -/
structure Extends (p : Pattern) (v : Value) (s t : Scope) : Prop where
  /-- The bindings are made over the scope, from left to right. -/
  overlaid : t = s.overlay v p.binders
  /-- A name that is bound more than once ends with its last binding. -/
  last {name : String} {path : Path} {before later : List (String × Path)} :
    p.binders = before ++ (name, path) :: later → name ∉ later.map Prod.fst →
    t.get? name = some (v.follow path)
  bound : ∀ name ∈ p.names, t.contains name
  kept : ∀ name, name ∉ p.names → t.get? name = s.get? name

theorem extends_overlay (p : Pattern) (v : Value) (s : Scope) :
    p.Extends v s (s.overlay v p.binders) where
  overlaid := rfl
  last split final := by
    rw [split]
    exact Scope.get?_overlay_last final
  bound name there := by
    obtain ⟨before, path, later, split, final⟩ := Entries.exists_last there
    have found : (s.overlay v p.binders).get? name = some (v.follow path) := by
      rw [split, Scope.get?_overlay_last final]
    exact Option.isSome_of_eq_some found
  kept _ other := Scope.get?_overlay_of_notMem other

/-- A pattern matches if the value fits, and then in every scope alike; else it matches in none. -/
theorem run_reads (p : Pattern) (v : Value) (s : Scope) :
    (p.Fits v ∧ ∃ t, p.run v s = some t ∧ p.Extends v s t) ∨ (¬p.Fits v ∧ p.run v s = none) := by
  by_cases fits : p.Fits v
  · exact .inl ⟨fits, _, p.run_eq_some fits s, p.extends_overlay v s⟩
  · exact .inr ⟨fits, p.run_eq_none fits s⟩

example : ((array [bind "x", bind "x"]).run (.list 0 [.null, .bool true]) .empty).map (·.get "x") =
    some (.bool true) := rfl

end Pattern

end RuleMachine
