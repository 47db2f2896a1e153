import RuleMachine.Proofs.Doubles
import RuleMachine.Proofs.Sharing
import RuleMachine.Value.Json

/-!
# There and back through JSON

A value that goes to JSON and comes back is itself, but for what JSON has no form for, which comes
back as null (`Value.nulled`), and for its allocations, which are new. A value of JSON that is read
and written again is itself, but for its numbers, each of which becomes a nearest double
(`Json.doubled`).
-/

namespace RuleMachine

/-! ## Numbers -/

namespace JsonNumber

open Double

/-- The number that is meant, before it is rounded. -/
def exact : JsonNumber → ℚ
  | unsigned n => (n.toNat : ℤ)
  | negative n _ => n.toInt
  | double x finite => (value? x).get (by rw [value?_isSome]; exact finite)

/-- What a number of JSON becomes is a double as near to it as any. -/
theorem toFloat_nearest (n : JsonNumber) : Nearest n.exact n.toFloat := by
  cases n with
  | unsigned n =>
    have small : (n.toNat : ℤ).natAbs < 2 ^ 64 := n.toNat_lt
    exact nearest_ofInt small
  | negative n below =>
    have small : n.toInt.natAbs < 2 ^ 64 := by
      have low := n.le_toInt
      have high := n.toInt_lt
      omega
    exact nearest_ofInt small
  | double x finite =>
    refine ⟨exact (.double x finite), (Option.some_get _).symm, fun y w _ => ?_⟩
    rw [sub_self, abs_zero]
    exact abs_nonneg _

theorem toFloat_isFinite (n : JsonNumber) : n.toFloat.isFinite :=
  isFinite_of_nearest n.toFloat_nearest

end JsonNumber

/-! ## Values -/

namespace Entries

variable {α : Type}

theorem insert_last {key : String} (value : α) {es : Entries α} (last : ∀ e ∈ es, e.1 < key) :
    es.insert key value = es ++ [(key, value)] := by
  induction es with
  | nil => rfl
  | cons e rest ih =>
    obtain ⟨k, v⟩ := e
    have below : k < key := last _ List.mem_cons_self
    rw [insert, if_neg (String.lt_asymm below), if_neg (Std.ne_of_lt below).symm,
      ih fun e mem => last e (List.mem_cons_of_mem _ mem)]
    rfl

theorem ofPairs_of_sorted {es : Entries α} (sorted : es.Sorted) : ofPairs es = es := by
  induction es using List.reverseRecOn with
  | nil => rfl
  | append_singleton es e ih =>
    obtain ⟨front, -, last⟩ := List.pairwise_append.mp sorted
    have inner : ofPairs es = es := ih front
    rw [ofPairs, List.foldl_append]
    change (ofPairs es).insert e.1 e.2 = _
    rw [inner, insert_last e.2 fun d mem => last d mem e (List.mem_singleton_self e)]

end Entries

namespace Value

mutual

/-- The value with other allocations, and with other values at its leaves. -/
def rebuild (place : Nat → Nat) (leaf : Value → Value) : Value → Value
  | list n items => list (place n) (rebuildItems place leaf items)
  | record n fields => record (place n) (rebuildFields place leaf fields)
  | v => leaf v

def rebuildItems (place : Nat → Nat) (leaf : Value → Value) : List Value → List Value
  | [] => []
  | v :: vs => v.rebuild place leaf :: rebuildItems place leaf vs

def rebuildFields (place : Nat → Nat) (leaf : Value → Value) :
    List (String × Value) → List (String × Value)
  | [] => []
  | (key, v) :: fields => (key, v.rebuild place leaf) :: rebuildFields place leaf fields

end

/-- Undefined, host functions, and numbers that are not finite become null. -/
def lost : Value → Value
  | undefined | callable _ => null
  | number n => if n.isFinite then number n else null
  | v => v

/-- The value with null for everything in it that JSON has no form for. -/
def nulled : Value → Value := rebuild id lost

theorem nulled_number (n : Float) :
    (number n).nulled = if n.isFinite then number n else null := rfl

/-- The value without its allocations, so that only its contents are left. -/
def bare : Value → Value := rebuild (fun _ => 0) id

/-- JSON has a form for the value. -/
def InJson : Value → Prop
  | undefined | callable _ => False
  | number n => n.isFinite
  | _ => True

/-- The fields of a record are in the order of their names. -/
def Keyed : Value → Prop
  | record _ fields => Entries.Sorted fields
  | _ => True

/-! ### What is read -/

section Read

variable (js : List Json) (members : List (String × Json)) (next : Nat)

theorem run_ofJson_array : (ofJson (.array js)).run next =
    (list ((itemsOfJson js).run next).2 ((itemsOfJson js).run next).1,
      ((itemsOfJson js).run next).2 + 1) := rfl

theorem run_ofJson_object : (ofJson (.object members)).run next =
    (record ((fieldsOfJson members).run next).2
        (Entries.ofPairs ((fieldsOfJson members).run next).1),
      ((fieldsOfJson members).run next).2 + 1) := rfl

theorem run_itemsOfJson_cons (j : Json) : (itemsOfJson (j :: js)).run next =
    (((ofJson j).run next).1 :: ((itemsOfJson js).run ((ofJson j).run next).2).1,
      ((itemsOfJson js).run ((ofJson j).run next).2).2) := rfl

theorem run_fieldsOfJson_cons (key : String) (j : Json) :
    (fieldsOfJson ((key, j) :: members)).run next =
      ((key, ((ofJson j).run next).1) :: ((fieldsOfJson members).run ((ofJson j).run next).2).1,
        ((fieldsOfJson members).run ((ofJson j).run next).2).2) := rfl

end Read

/-- Fields are read under their names. -/
theorem keys_fieldsOfJson (members : List (String × Json)) (next : Nat) :
    ((fieldsOfJson members).run next).1.map Prod.fst = members.map Prod.fst := by
  induction members generalizing next with
  | nil => rfl
  | cons member members ih =>
    rw [run_fieldsOfJson_cons, List.map_cons, List.map_cons, ih]

theorem keys_fieldsToJson (fields : List (String × Value)) :
    (fieldsToJson fields).map Prod.fst = fields.map Prod.fst := by
  induction fields with
  | nil => rfl
  | cons field fields ih => rw [fieldsToJson, List.map_cons, List.map_cons, ih]

/-- Fields in order are read in order. -/
theorem ofPairs_fieldsOfJson {members : List (String × Json)} (next : Nat)
    (sorted : Entries.Sorted members) :
    Entries.ofPairs ((fieldsOfJson members).run next).1 = ((fieldsOfJson members).run next).1 := by
  refine Entries.ofPairs_of_sorted ?_
  rw [Entries.Sorted, ← List.pairwise_map (f := Prod.fst) (R := (· < ·)), keys_fieldsOfJson,
    List.pairwise_map]
  exact sorted

theorem sorted_fieldsToJson {fields : List (String × Value)} (sorted : Entries.Sorted fields) :
    Entries.Sorted (fieldsToJson fields) := by
  rw [Entries.Sorted, ← List.pairwise_map (f := Prod.fst) (R := (· < ·)), keys_fieldsToJson,
    List.pairwise_map]
  exact sorted

/-! ### There and back -/

mutual

/-- What comes back has the contents that JSON has a form for. -/
theorem bare_ofJson_toJson : ∀ {v : Value}, v.Throughout Keyed → ∀ next,
    ((ofJson v.toJson).run next).1.bare = v.nulled.bare
  | undefined, _, _ | null, _, _ | bool _, _, _ | string _, _, _ | callable _, _, _ => rfl
  | number n, _, next => by
    rw [toJson, JsonNumber.ofFloat?, nulled_number]
    by_cases finite : n.isFinite
    · rw [dif_pos finite, if_pos finite]
      rfl
    · rw [dif_neg finite, if_neg finite]
      rfl
  | list n items, keyed, next => by
    rw [toJson, run_ofJson_array]
    exact congrArg (list 0) (bare_itemsOfJson_itemsToJson keyed.2 next)
  | record n fields, keyed, next => by
    rw [toJson, run_ofJson_object, ofPairs_fieldsOfJson next (sorted_fieldsToJson keyed.1)]
    exact congrArg (record 0) (bare_fieldsOfJson_fieldsToJson keyed.2 next)

theorem bare_itemsOfJson_itemsToJson : ∀ {items : List Value}, ThroughoutItems Keyed items →
    ∀ next, rebuildItems (fun _ => 0) id ((itemsOfJson (itemsToJson items)).run next).1 =
      rebuildItems (fun _ => 0) id (rebuildItems id lost items)
  | [], _, _ => rfl
  | v :: vs, keyed, next => by
    rw [itemsToJson, run_itemsOfJson_cons]
    exact congrArg₂ List.cons (bare_ofJson_toJson keyed.1 next)
      (bare_itemsOfJson_itemsToJson keyed.2 _)

theorem bare_fieldsOfJson_fieldsToJson : ∀ {fields : List (String × Value)},
    ThroughoutFields Keyed fields →
    ∀ next, rebuildFields (fun _ => 0) id ((fieldsOfJson (fieldsToJson fields)).run next).1 =
      rebuildFields (fun _ => 0) id (rebuildFields id lost fields)
  | [], _, _ => rfl
  | (key, v) :: fields, keyed, next => by
    rw [fieldsToJson, run_fieldsOfJson_cons]
    exact congrArg₂ List.cons (congrArg (Prod.mk key) (bare_ofJson_toJson keyed.1 next))
      (bare_fieldsOfJson_fieldsToJson keyed.2 _)

end

mutual

/-- Nothing is lost of a value that JSON has forms for throughout. -/
theorem nulled_eq_self : ∀ {v : Value}, v.Throughout InJson → v.nulled = v
  | undefined, inJson | callable _, inJson => inJson.elim
  | null, _ | bool _, _ | string _, _ => rfl
  | number _, finite => if_pos finite
  | list n _, inJson => congrArg (list n) (nulledItems_eq_self inJson.2)
  | record n _, inJson => congrArg (record n) (nulledFields_eq_self inJson.2)

theorem nulledItems_eq_self : ∀ {items : List Value}, ThroughoutItems InJson items →
    rebuildItems id lost items = items
  | [], _ => rfl
  | _ :: _, inJson => congrArg₂ List.cons (nulled_eq_self inJson.1) (nulledItems_eq_self inJson.2)

theorem nulledFields_eq_self : ∀ {fields : List (String × Value)},
    ThroughoutFields InJson fields → rebuildFields id lost fields = fields
  | [], _ => rfl
  | (key, _) :: _, inJson =>
    congrArg₂ List.cons (congrArg (Prod.mk key) (nulled_eq_self inJson.1))
      (nulledFields_eq_self inJson.2)

end

mutual

/-- What is left of a value has forms in JSON throughout. -/
theorem throughout_nulled : ∀ v : Value, v.nulled.Throughout InJson
  | undefined | null | bool _ | string _ | callable _ => trivial
  | number n => by
    rw [nulled_number]
    split
    · assumption
    · trivial
  | list _ items => ⟨trivial, throughoutItems_nulled items⟩
  | record _ fields => ⟨trivial, throughoutFields_nulled fields⟩

theorem throughoutItems_nulled : ∀ items : List Value,
    ThroughoutItems InJson (rebuildItems id lost items)
  | [] => trivial
  | v :: vs => ⟨throughout_nulled v, throughoutItems_nulled vs⟩

theorem throughoutFields_nulled : ∀ fields : List (String × Value),
    ThroughoutFields InJson (rebuildFields id lost fields)
  | [] => trivial
  | (_, v) :: fields => ⟨throughout_nulled v, throughoutFields_nulled fields⟩

end

theorem InJson.notNaN {v : Value} (inJson : v.InJson) : v.NotNaN := by
  cases v with
  | number n =>
    rintro rfl
    have infinite : Float.nan.isFinite = false := by decide
    exact absurd inJson (Bool.eq_false_iff.mp infinite)
  | undefined | null | bool | string | list | record | callable => trivial

mutual

/-- Values of the same contents are equal in structure, if there is no no-number in them. -/
theorem structuralEq_of_bare : ∀ (v : Value) {w : Value}, v.bare = w.bare →
    w.Throughout InJson → structuralEq v w
  | list i vs, list j ws, same, inJson => by
    have items := structuralItems_of_bare vs (list.inj same).2 inJson.2
    rw [structuralEq, items, Bool.or_true]
  | record i fields, record j others, same, inJson => by
    have all := structuralFields_of_bare fields (record.inj same).2 inJson.2
    rw [structuralEq, all, Bool.or_true]
  | undefined, undefined, _, inJson | null, null, _, inJson =>
    structuralEq_refl inJson.here.notNaN
  | bool _, bool _, same, inJson | number _, number _, same, inJson
  | string _, string _, same, inJson | callable _, callable _, same, inJson => by
    cases same
    exact structuralEq_refl inJson.here.notNaN

theorem structuralItems_of_bare : ∀ (vs : List Value) {ws : List Value},
    rebuildItems (fun _ => 0) id vs = rebuildItems (fun _ => 0) id ws →
    ThroughoutItems InJson ws → structuralItems vs ws
  | [], [], _, _ => rfl
  | v :: vs, w :: ws, same, inJson => by
    obtain ⟨first, rest⟩ := List.cons.inj same
    rw [structuralItems, structuralEq_of_bare v first inJson.1,
      structuralItems_of_bare vs rest inJson.2, Bool.and_self]

theorem structuralFields_of_bare : ∀ (fields : List (String × Value))
    {others : List (String × Value)},
    rebuildFields (fun _ => 0) id fields = rebuildFields (fun _ => 0) id others →
    ThroughoutFields InJson others → structuralFields fields others
  | [], [], _, _ => rfl
  | (key, v) :: fields, (other, w) :: others, same, inJson => by
    obtain ⟨first, rest⟩ := List.cons.inj same
    obtain ⟨rfl, contents⟩ := Prod.mk.inj first
    rw [structuralFields, structuralEq_of_bare v contents inJson.1,
      structuralFields_of_bare fields rest inJson.2]
    simp

end

end Value

/-! ## Values of JSON -/

namespace Json

mutual

/-- The value of JSON with a nearest double for each number in it. -/
def doubled : Json → Json
  | number n => number (.double n.toFloat n.toFloat_isFinite)
  | array items => array (doubledItems items)
  | object members => object (doubledMembers members)
  | j => j

def doubledItems : List Json → List Json
  | [] => []
  | j :: js => j.doubled :: doubledItems js

def doubledMembers : List (String × Json) → List (String × Json)
  | [] => []
  | (key, j) :: members => (key, j.doubled) :: doubledMembers members

end

mutual

/-- The members of an object are in the order of their names. -/
def Keyed : Json → Prop
  | array items => KeyedItems items
  | object members => Entries.Sorted members ∧ KeyedMembers members
  | _ => True

def KeyedItems : List Json → Prop
  | [] => True
  | j :: js => j.Keyed ∧ KeyedItems js

def KeyedMembers : List (String × Json) → Prop
  | [] => True
  | (_, j) :: members => j.Keyed ∧ KeyedMembers members

end

end Json

namespace Value

mutual

theorem toJson_ofJson : ∀ {j : Json}, j.Keyed → ∀ next, ((ofJson j).run next).1.toJson = j.doubled
  | .null, _, _ | .bool _, _, _ | .string _, _, _ => rfl
  | .number n, _, _ => by
    have written : JsonNumber.ofFloat? n.toFloat = some (.double n.toFloat n.toFloat_isFinite) :=
      dif_pos n.toFloat_isFinite
    exact congrArg (Option.elim · Json.null Json.number) written
  | .array _, keyed, next => congrArg Json.array (itemsToJson_itemsOfJson keyed next)
  | .object members, keyed, next => by
    rw [run_ofJson_object, ofPairs_fieldsOfJson next keyed.1]
    exact congrArg Json.object (fieldsToJson_fieldsOfJson keyed.2 next)

theorem itemsToJson_itemsOfJson : ∀ {js : List Json}, Json.KeyedItems js → ∀ next,
    itemsToJson ((itemsOfJson js).run next).1 = Json.doubledItems js
  | [], _, _ => rfl
  | _ :: _, keyed, next =>
    congrArg₂ List.cons (toJson_ofJson keyed.1 next) (itemsToJson_itemsOfJson keyed.2 _)

theorem fieldsToJson_fieldsOfJson : ∀ {members : List (String × Json)},
    Json.KeyedMembers members → ∀ next,
    fieldsToJson ((fieldsOfJson members).run next).1 = Json.doubledMembers members
  | [], _, _ => rfl
  | (key, _) :: _, keyed, next =>
    congrArg₂ List.cons (congrArg (Prod.mk key) (toJson_ofJson keyed.1 next))
      (fieldsToJson_fieldsOfJson keyed.2 _)

end

/-! ## Both ways -/

/-- What the ways between values and JSON keep, whatever the next free allocation is. -/
structure ThroughJson : Prop where
  /-- What comes back is what was sent with null for all that JSON has no form for: in the same
  places, under the same names and in the same order. -/
  contents {v : Value} (next : Nat) : v.Throughout Keyed →
    ((ofJson v.toJson).run next).1.bare = v.nulled.bare
  /-- So the two are equal in structure. -/
  equal {v : Value} (next : Nat) : v.Throughout Keyed →
    structuralEq ((ofJson v.toJson).run next).1 v.nulled
  /-- A value that JSON has forms for throughout comes back whole. -/
  whole {v : Value} (next : Nat) : v.Throughout Keyed → v.Throughout InJson →
    ((ofJson v.toJson).run next).1.bare = v.bare ∧ structuralEq ((ofJson v.toJson).run next).1 v
  /-- What was read from JSON is written as it was, but for its numbers. -/
  json {j : Json} (next : Nat) : j.Keyed → ((ofJson j).run next).1.toJson = j.doubled
  /-- These become the doubles that are nearest to them. -/
  nearest (n : JsonNumber) : Double.Nearest n.exact n.toFloat

theorem throughJson : ThroughJson where
  contents next keyed := bare_ofJson_toJson keyed next
  equal {v} next keyed :=
    structuralEq_of_bare _ (bare_ofJson_toJson keyed next) (throughout_nulled v)
  whole next keyed inJson := by
    have contents := bare_ofJson_toJson keyed next
    rw [nulled_eq_self inJson] at contents
    exact ⟨contents, structuralEq_of_bare _ contents inJson⟩
  json next keyed := toJson_ofJson keyed next
  nearest n := n.toFloat_nearest

/-- A value with much in it that JSON has no form for. -/
def lossy : Value :=
  record 3 [("a", list 5 [undefined, number Float.inf, bool true]), ("f", callable ⟨0, "f"⟩),
    ("z", string "x")]

/-- A value that JSON has forms for throughout. -/
def lossless : Value := record 3 [("a", list 5 [null, number Float.pi]), ("z", string "x")]

/-- JSON with a number between two doubles. -/
def wide : Json :=
  .object [("a", .array [.null, .number (.unsigned (2 ^ 53 + 1))]), ("z", .string "x")]

theorem throughJson_record :
    (lossy.Throughout Keyed ∧ ((ofJson lossy.toJson).run 8).1.bare = lossy.nulled.bare ∧
      structuralEq ((ofJson lossy.toJson).run 8).1 lossy.nulled) ∧
    (lossless.Throughout Keyed ∧ lossless.Throughout InJson ∧
      ((ofJson lossless.toJson).run 8).1.bare = lossless.bare) ∧
    (wide.Keyed ∧ ((ofJson wide).run 8).1.toJson = wide.doubled) := by
  have lossyKeyed : lossy.Throughout Keyed :=
    ⟨by unfold Keyed Entries.Sorted; decide, ⟨trivial, trivial, trivial, trivial, trivial⟩,
      trivial, trivial, trivial⟩
  have losslessKeyed : lossless.Throughout Keyed :=
    ⟨by unfold Keyed Entries.Sorted; decide, ⟨trivial, trivial, trivial, trivial⟩, trivial, trivial⟩
  have losslessInJson : lossless.Throughout InJson :=
    ⟨trivial, ⟨trivial, trivial, rfl, trivial⟩, trivial, trivial⟩
  have wideKeyed : wide.Keyed :=
    ⟨by unfold Entries.Sorted; decide, ⟨trivial, trivial, trivial⟩, trivial, trivial⟩
  exact ⟨⟨lossyKeyed, throughJson.contents 8 lossyKeyed, throughJson.equal 8 lossyKeyed⟩,
    ⟨losslessKeyed, losslessInJson, (throughJson.whole 8 losslessKeyed losslessInJson).1⟩,
    wideKeyed, throughJson.json 8 wideKeyed⟩

/-- What is lost leaves null in its place. -/
example : ((ofJson (record 3 [("a", list 5 [undefined, number Float.inf, bool true]),
      ("f", callable ⟨0, "f"⟩), ("z", number Float.pi)]).toJson).run 8).1 =
    record 9 [("a", list 8 [null, null, bool true]), ("f", null), ("z", number Float.pi)] := by
  rfl

end Value

end RuleMachine
