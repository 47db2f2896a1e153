import RuleMachine.Value.Basic

/-!
# Three equalities

Identity compares lists, records and host functions by where they are held, everything else by
contents. Shallow equality looks one level into two lists or two records, structural equality to
the bottom. No-number is equal to nothing in any of them.
-/

namespace RuleMachine.Value

/-- Identity. -/
def same : Value → Value → Bool
  | undefined, undefined | null, null => true
  | bool a, bool b => a == b
  | number a, number b => a == b
  | string a, string b => a == b
  | list a _, list b _ => a == b
  | record a _, record b _ => a == b
  | callable f, callable g => f.id == g.id
  | _, _ => false

/-- Members in order that are the same. -/
def sameItems : List Value → List Value → Bool
  | [], [] => true
  | v :: vs, w :: ws => same v w && sameItems vs ws
  | _, _ => false

/-- Equal numbers of fields, each found in the other record with the same value. -/
def sameFields (a b : Entries Value) : Bool :=
  a.length == b.length &&
    a.all fun (key, v) => match Entries.get? key b with
      | some w => same v w
      | none => false

/-- Equality of the first level of contents. -/
def shallowEq (l r : Value) : Bool :=
  same l r || match l, r with
    | list _ a, list _ b => sameItems a b
    | record _ a, record _ b => sameFields a b
    | _, _ => false

mutual

/-- Equality of contents at every level; what is the same is equal. -/
def structuralEq : Value → Value → Bool
  | list i a, list j b => i == j || structuralItems a b
  | record i a, record j b => i == j || structuralFields a b
  | v, w => same v w

/-- Members in order that are equal in structure. -/
def structuralItems : List Value → List Value → Bool
  | [], [] => true
  | v :: vs, w :: ws => structuralEq v w && structuralItems vs ws
  | _, _ => false

/-- Fields in order with equal keys and values that are equal in structure. -/
def structuralFields : List (String × Value) → List (String × Value) → Bool
  | [], [] => true
  | (k, v) :: vs, (l, w) :: ws => k == l && structuralEq v w && structuralFields vs ws
  | _, _ => false

end

end RuleMachine.Value
