/-!
# Entries in key order

Records and scopes are lists of entries, one for each key, in the order of the keys. Main
statements: `get?_insert_self` and `get?_insert_of_ne` say what writing an entry does to reading,
and `Sorted.insert` that it keeps the order.
-/

namespace RuleMachine

/-- Values under names, in the order of the names' code points. -/
abbrev Entries (α : Type) := List (String × α)

namespace Entries

variable {α : Type}

def get? (key : String) (es : Entries α) : Option α := es.lookup key

def contains (key : String) (es : Entries α) : Bool := (es.get? key).isSome

def keys (es : Entries α) : List String := es.map Prod.fst

/-- Writes the entry of a key, in place of the one it has. -/
def insert (key : String) (value : α) : Entries α → Entries α
  | [] => [(key, value)]
  | (k, v) :: rest =>
    if key < k then (key, value) :: (k, v) :: rest
    else if key = k then (key, value) :: rest
    else (k, v) :: insert key value rest

/-- The entries of a list of pairs; the last pair of a key counts. -/
def ofPairs (pairs : List (String × α)) : Entries α :=
  pairs.foldl (fun es (key, value) => es.insert key value) []

/-- Every key is smaller than the keys after it. -/
def Sorted (es : Entries α) : Prop := es.Pairwise fun a b => a.1 < b.1

theorem get?_insert_self (key : String) (value : α) (es : Entries α) :
    (es.insert key value).get? key = some value := by
  induction es with
  | nil => simp [insert, get?]
  | cons e rest ih =>
    obtain ⟨k, v⟩ := e
    simp only [insert]
    split
    · simp [get?]
    · split
      · simp [get?]
      · next _ hne =>
        have : (key == k) = false := by simpa using hne
        simpa [get?, List.lookup_cons, this] using ih

theorem get?_insert_of_ne {key other : String} (h : other ≠ key) (value : α) (es : Entries α) :
    (es.insert key value).get? other = es.get? other := by
  have hne : (other == key) = false := by simpa using h
  induction es with
  | nil => simp [insert, get?, List.lookup_cons, hne]
  | cons e rest ih =>
    obtain ⟨k, v⟩ := e
    simp only [insert]
    split
    · simp [get?, List.lookup_cons, hne]
    · split
      · next _ hk => subst hk; simp [get?, List.lookup_cons, hne]
      · simp only [get?, List.lookup_cons] at ih ⊢
        rw [ih]

theorem mem_insert {key : String} {value : α} {es : Entries α} {e : String × α}
    (h : e ∈ es.insert key value) : e = (key, value) ∨ e ∈ es := by
  induction es with
  | nil => simpa [insert] using h
  | cons d rest ih =>
    obtain ⟨k, v⟩ := d
    simp only [insert] at h
    split at h
    · simpa using h
    · split at h
      · rcases List.mem_cons.1 h with h | h
        · exact .inl h
        · exact .inr (List.mem_cons_of_mem _ h)
      · rcases List.mem_cons.1 h with h | h
        · exact .inr (h ▸ List.mem_cons_self)
        · exact (ih h).imp_right (List.mem_cons_of_mem _)

theorem Sorted.insert {es : Entries α} (h : es.Sorted) (key : String) (value : α) :
    (es.insert key value).Sorted := by
  induction es with
  | nil => simp [Entries.insert, Sorted]
  | cons e rest ih =>
    obtain ⟨k, v⟩ := e
    obtain ⟨hk, hrest⟩ := List.pairwise_cons.1 h
    simp only [Entries.insert]
    split
    · next hlt =>
      refine List.pairwise_cons.2 ⟨fun d hd => ?_, h⟩
      rcases List.mem_cons.1 hd with rfl | hd
      · exact hlt
      · exact String.lt_trans hlt (hk d hd)
    · split
      · next _ heq => subst heq; exact List.pairwise_cons.2 ⟨hk, hrest⟩
      · next hnlt hne =>
        refine List.pairwise_cons.2 ⟨fun d hd => ?_, ih hrest⟩
        rcases mem_insert hd with rfl | hd
        · exact Std.lt_of_le_of_ne (String.not_lt.1 hnlt) (Ne.symm hne)
        · exact hk d hd

theorem sorted_ofPairs (pairs : List (String × α)) : (ofPairs pairs).Sorted := by
  have go : ∀ (ps : List (String × α)) (es : Entries α), es.Sorted →
      (ps.foldl (fun es (key, value) => es.insert key value) es).Sorted := by
    intro ps
    induction ps with
    | nil => exact fun _ h => h
    | cons p ps ih => exact fun es h => ih _ (h.insert p.1 p.2)
  exact go pairs [] List.Pairwise.nil

end Entries

end RuleMachine
