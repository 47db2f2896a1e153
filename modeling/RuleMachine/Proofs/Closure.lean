import RuleMachine.Proofs.Equality
import RuleMachine.Proofs.Lockstep

/-!
# The closure of a state

Which states a closure has is said by pairs of a state, by its index, and of an extension. The
search asks for them in order, states in the outer order and extensions in the inner one, and what
it has found before each pair satisfies one invariant (`Scanned`): the states so far come of earlier
pairs, and earlier pairs have nothing more to give. `Searched` is what follows for the end of the
search, whatever asks for a closure, and `search_exact` says besides how the limit changes it.
-/

namespace RuleMachine.Closure

section Search

variable [Regex.Engine] {σ : Type}

/-! ## Pairs of a state and an extension -/

/-- A pair comes before another one: its state does, or of the same state its extension. -/
def Earlier (p q : Nat × Nat) : Prop := p.1 < q.1 ∨ p.1 = q.1 ∧ p.2 < q.2

/-- The extension of a pair has an answer for the state of the pair, in some world. -/
def AnswersAt (ds : List (Derivation σ)) (states : List Value) (p : Nat × Nat)
    (answer : Outcome Value) : Prop :=
  ∃ v d, states[p.1]? = some v ∧ ds[p.2]? = some d ∧ ∃ w, (d v w).1 = answer

/-- An extension that is a function of the state has one answer, what the function gives. -/
theorem answersAt_pure (fs : List (Value → Outcome Value)) (states : List Value) (p : Nat × Nat)
    (answer : Outcome Value) (w : World σ) :
    AnswersAt (fs.map fun f v => (pure (f v) : Run σ (Outcome Value))) states p answer ↔
      ∃ v f, states[p.1]? = some v ∧ fs[p.2]? = some f ∧ f v = answer := by
  constructor
  · rintro ⟨v, d, state, extension, -, rfl⟩
    rw [List.getElem?_map, Option.map_eq_some_iff] at extension
    obtain ⟨f, there, rfl⟩ := extension
    exact ⟨v, f, state, there, rfl⟩
  · rintro ⟨v, f, state, there, rfl⟩
    refine ⟨v, fun v => pure (f v), state, ?_, w, rfl⟩
    rw [List.getElem?_map, there, Option.map_some]

/-- A state is there, or one that is equal in structure. -/
def Has (states : List Value) (derived : Value) : Prop :=
  derived ∈ states ∨ ∃ v ∈ states, Value.structuralEq derived v

/-- The answer for a pair, if it is a state, is there. -/
def Settled (ds : List (Derivation σ)) (states : List Value) (p : Nat × Nat) : Prop :=
  ∃ answer, AnswersAt ds states p answer ∧ ∀ derived, answer = some derived → Has states derived

/-- The states begin with the current one, and keep to the limit. None is equal in structure to an
earlier one. Each but the first is the answer for a pair, its origin, whose state stands before it;
the origins are in order. -/
structure Grown (limit : Nat) (ds : List (Derivation σ)) (current : Value) (states : List Value)
    (origins : List (Nat × Nat)) : Prop where
  head : states.head? = some current
  bound : states.length ≤ max 1 limit
  distinct : states.Pairwise fun v w => Value.structuralEq w v = false
  length : states.length = origins.length + 1
  ordered : origins.Pairwise Earlier
  origin : ∀ n p v, origins[n]? = some p → states[n + 1]? = some v →
    p.1 ≤ n ∧ AnswersAt ds states p (some v)

/-- What the search has found before it asks for a pair. -/
structure Scanned (limit : Nat) (ds : List (Derivation σ)) (current : Value) (next : Nat × Nat)
    (states : List Value) (origins : List (Nat × Nat)) : Prop
    extends Grown limit ds current states origins where
  before : ∀ p ∈ origins, Earlier p next
  settled : ∀ p, Earlier p next → p.1 < states.length → p.2 < ds.length → Settled ds states p

variable {limit : Nat} {ds : List (Derivation σ)} {current v derived : Value}
  {states : List Value} {origins : List (Nat × Nat)} {p : Nat × Nat} {i j : Nat}

theorem AnswersAt.append {answer : Outcome Value} (h : AnswersAt ds states p answer)
    (more : List Value) : AnswersAt ds (states ++ more) p answer := by
  obtain ⟨v, d, state, rest⟩ := h
  obtain ⟨inside, -⟩ := List.getElem?_eq_some_iff.mp state
  exact ⟨v, d, (List.getElem?_append_left inside).trans state, rest⟩

theorem Settled.append (h : Settled ds states p) (more : List Value) :
    Settled ds (states ++ more) p := by
  obtain ⟨answer, answers, has⟩ := h
  refine ⟨answer, answers.append more, fun derived given => ?_⟩
  rcases has derived given with mem | ⟨v, mem, equal⟩
  · exact .inl (List.mem_append_left _ mem)
  · exact .inr ⟨v, List.mem_append_left _ mem, equal⟩

namespace Scanned

theorem initial (limit : Nat) (ds : List (Derivation σ)) (current : Value) :
    Scanned limit ds current (0, 0) [current] [] where
  head := rfl
  bound := Nat.le_max_left 1 limit
  distinct := List.pairwise_singleton _ _
  length := rfl
  ordered := .nil
  origin := nofun
  before := nofun
  settled p earlier := by
    unfold Earlier at earlier
    omega

/-- A pair is passed whose answer is there. -/
theorem pass (h : Scanned limit ds current (i, j) states origins)
    (settled : Settled ds states (i, j)) :
    Scanned limit ds current (i, j + 1) states origins where
  toGrown := h.toGrown
  before p mem := by
    have := h.before p mem
    unfold Earlier at *
    omega
  settled p earlier state extension := by
    by_cases here : p = (i, j)
    · exact here ▸ settled
    · refine h.settled p ?_ state extension
      rw [Prod.ext_iff] at here
      unfold Earlier at *
      omega

/-- The answer for a pair is added. -/
theorem add (h : Scanned limit ds current (i, j) states origins)
    (answers : AnswersAt ds states (i, j) (some derived)) (room : states.length < limit)
    (new : ∀ v ∈ states, Value.structuralEq derived v = false) :
    Scanned limit ds current (i, j + 1) (states ++ [derived]) (origins ++ [(i, j)]) := by
  have inside : i < states.length := by
    obtain ⟨v, d, state, -⟩ := answers
    exact (List.getElem?_eq_some_iff.mp state).choose
  have length := h.length
  refine ⟨⟨?_, ?_, ?_, ?_, ?_, ?_⟩, ?_, ?_⟩
  · rw [List.head?_append, h.head, Option.some_or]
  · rw [List.length_append, List.length_singleton]
    omega
  · have last := List.pairwise_singleton (fun v w => Value.structuralEq w v = false) derived
    refine List.pairwise_append.mpr ⟨h.distinct, last, fun v mem u here => ?_⟩
    exact List.mem_singleton.mp here ▸ new v mem
  · rw [List.length_append, List.length_append, length]
    rfl
  · have last := List.pairwise_singleton Earlier (i, j)
    refine List.pairwise_append.mpr ⟨h.ordered, last, fun p mem q here => ?_⟩
    exact List.mem_singleton.mp here ▸ h.before p mem
  · intro n p v parent state
    -- The added state is the last one, and its origin the last origin.
    by_cases old : n < origins.length
    · rw [List.getElem?_append_left old] at parent
      rw [List.getElem?_append_left (by omega)] at state
      obtain ⟨le, answers⟩ := h.origin n p v parent state
      exact ⟨le, answers.append _⟩
    · obtain ⟨within, -⟩ := List.getElem?_eq_some_iff.mp parent
      rw [List.length_append, List.length_singleton] at within
      obtain rfl : n = origins.length := by omega
      rw [List.getElem?_concat_length] at parent
      rw [← length, List.getElem?_concat_length] at state
      obtain rfl := Option.some.inj parent
      obtain rfl := Option.some.inj state
      exact ⟨by dsimp only; omega, answers.append _⟩
  · intro p mem
    rw [List.mem_append, List.mem_singleton] at mem
    rcases mem with old | rfl
    · have := h.before p old
      unfold Earlier at *
      omega
    · exact .inr ⟨rfl, Nat.lt_succ_self j⟩
  · intro p earlier _ extension
    by_cases here : p = (i, j)
    · refine ⟨some derived, here ▸ answers.append _, fun d given => .inl ?_⟩
      obtain rfl := Option.some.inj given
      exact List.mem_append_right _ (.head _)
    · have old : Earlier p (i, j) := by
        rw [Prod.ext_iff] at here
        unfold Earlier at *
        omega
      refine (h.settled p old ?_ extension).append _
      unfold Earlier at old
      omega

/-- All pairs of a state are passed. -/
theorem row (h : Scanned limit ds current (i, ds.length) states origins) :
    Scanned limit ds current (i + 1, 0) states origins where
  toGrown := h.toGrown
  before p mem := by
    have := h.before p mem
    unfold Earlier at *
    omega
  settled p earlier state extension := by
    refine h.settled p ?_ state extension
    unfold Earlier at *
    omega

end Scanned

/-! ## What one answer does -/

omit [Regex.Engine] in
/-- An answer adds nothing, or is refused, or is added. -/
theorem accept_cases (limit : Nat) (states : List Value) (answer : Outcome Value) :
    (accept limit states answer = (states, false) ∧
      ∀ derived, answer = some derived → Has states derived) ∨
    (accept limit states answer = (states, true) ∧ limit ≤ states.length) ∨
    ∃ derived, answer = some derived ∧ accept limit states answer = (states ++ [derived], false) ∧
      states.length < limit ∧ ∀ v ∈ states, Value.structuralEq derived v = false := by
  cases answer with
  | none => exact .inl ⟨rfl, nofun⟩
  | some derived =>
    rw [accept]
    by_cases there : states.any fun v => Value.structuralEq v derived
    · rw [if_pos there]
      refine .inl ⟨rfl, fun d given => .inr ?_⟩
      obtain rfl := Option.some.inj given
      obtain ⟨v, mem, equal⟩ := List.any_eq_true.mp there
      exact ⟨v, mem, Value.structuralEq_comm v derived ▸ equal⟩
    rw [if_neg there]
    by_cases full : limit ≤ states.length
    · rw [if_pos full]
      exact .inr (.inl ⟨rfl, full⟩)
    · rw [if_neg full]
      refine .inr (.inr ⟨derived, rfl, rfl, Nat.lt_of_not_le full, fun v mem => ?_⟩)
      rw [Value.structuralEq_comm, Bool.eq_false_iff]
      exact fun equal => there (List.any_eq_true.mpr ⟨v, mem, equal⟩)

theorem extend_cons (limit : Nat) (v : Value) (d : Derivation σ) (ds : List (Derivation σ))
    (states : List Value) (w : World σ) :
    extend limit v (d :: ds) states w =
      if (accept limit states (d v w).1).2 then
        (((accept limit states (d v w).1).1, true), (d v w).2)
      else extend limit v ds (accept limit states (d v w).1).1 (d v w).2 := by
  rw [extend, bind_apply]
  dsimp only
  split <;> rfl

theorem extendFrom_of_some {index : Nat} (state : states[index]? = some v) (limit : Nat)
    (ds : List (Derivation σ)) (fuel : Nat) (w : World σ) :
    extendFrom limit ds (fuel + 1) index states w =
      if (extend limit v ds states w).1.2 then
        (((extend limit v ds states w).1.1, true), (extend limit v ds states w).2)
      else
        extendFrom limit ds fuel (index + 1) (extend limit v ds states w).1.1
          (extend limit v ds states w).2 := by
  rw [extendFrom, state]
  dsimp only
  rw [bind_apply]
  split <;> rfl

theorem extendFrom_of_none {index : Nat} (state : states[index]? = none) (limit : Nat)
    (ds : List (Derivation σ)) (fuel : Nat) (w : World σ) :
    extendFrom limit ds fuel index states w = ((states, false), w) := by
  cases fuel with
  | zero => rfl
  | succ fuel =>
    rw [extendFrom, state]
    rfl

/-! ## What the search keeps to -/

/-- Extending one state passes all its pairs, unless it is stopped by the limit. -/
theorem Scanned.extend {done rest : List (Derivation σ)}
    (h : Scanned limit ds current (i, done.length) states origins) (state : states[i]? = some v)
    (whole : ds = done ++ rest) (w : World σ) : ∃ next origins',
      Scanned limit ds current next (extend limit v rest states w).1.1 origins' ∧
      ((extend limit v rest states w).1.2 = false → next = (i, ds.length)) ∧
      ((extend limit v rest states w).1.2 = true →
        (extend limit v rest states w).1.1.length = max 1 limit) := by
  induction rest generalizing done states origins w with
  | nil =>
    rw [List.append_nil] at whole
    exact ⟨_, origins, h, fun _ => whole ▸ rfl, nofun⟩
  | cons d rest ih =>
    have here : ds[done.length]? = some d := by
      rw [whole, List.getElem?_append_right (Nat.le_refl _), Nat.sub_self]
      rfl
    have whole' : ds = (done ++ [d]) ++ rest := by
      rw [List.append_assoc]
      exact whole
    have length : (done ++ [d]).length = done.length + 1 := List.length_append
    have answers : AnswersAt ds states (i, done.length) (d v w).1 := ⟨v, d, state, here, w, rfl⟩
    rw [extend_cons]
    rcases accept_cases limit states (d v w).1 with
      ⟨passed, has⟩ | ⟨refused, full⟩ | ⟨derived, given, added, room, new⟩
    · rw [passed, if_neg Bool.false_ne_true]
      have passed := h.pass ⟨_, answers, has⟩
      exact ih (length ▸ passed) state whole' _
    · rw [refused, if_pos rfl]
      have bound := h.bound
      have positive := h.length
      refine ⟨_, origins, h, nofun, fun _ => ?_⟩
      dsimp only
      omega
    · rw [added, if_neg Bool.false_ne_true]
      have added := h.add (given ▸ answers) room new
      obtain ⟨inside, -⟩ := List.getElem?_eq_some_iff.mp state
      exact ih (length ▸ added) ((List.getElem?_append_left inside).trans state) whole' _

/-- With fuel enough the search passes all pairs, unless it is stopped by the limit. -/
theorem Scanned.extendFrom {fuel : Nat} (h : Scanned limit ds current (i, 0) states origins)
    (enough : max 1 limit ≤ i + fuel) (w : World σ) : ∃ origins',
      Grown limit ds current (extendFrom limit ds fuel i states w).1.1 origins' ∧
      ((extendFrom limit ds fuel i states w).1.2 = false →
        ∀ p : Nat × Nat, p.1 < (extendFrom limit ds fuel i states w).1.1.length →
          p.2 < ds.length → Settled ds (extendFrom limit ds fuel i states w).1.1 p) ∧
      ((extendFrom limit ds fuel i states w).1.2 = true →
        (extendFrom limit ds fuel i states w).1.1.length = max 1 limit) := by
  induction fuel generalizing i states origins w with
  | zero =>
    have bound := h.bound
    refine ⟨origins, h.toGrown, fun _ p inside extension => ?_, nofun⟩
    exact h.settled p (.inl (by change p.1 < states.length at inside; dsimp only; omega)) inside
      extension
  | succ fuel ih =>
    cases state : states[i]? with
    | none =>
      rw [extendFrom_of_none state]
      have past := List.getElem?_eq_none_iff.mp state
      refine ⟨origins, h.toGrown, fun _ p inside extension => ?_, nofun⟩
      exact h.settled p (.inl (Nat.lt_of_lt_of_le inside past)) inside extension
    | some v =>
      have whole : ds = [] ++ ds := rfl
      obtain ⟨next, origins', scanned, goes, stops⟩ := Scanned.extend h state whole w
      rw [extendFrom_of_some state]
      cases refused : (Closure.extend limit v ds states w).1.2 with
      | true => exact ⟨origins', scanned.toGrown, nofun, fun _ => stops refused⟩
      | false =>
        have row := (goes refused ▸ scanned).row
        exact ih row (by omega) _

/-- More fuel than enough changes nothing. -/
theorem Scanned.extendFrom_enough {fuel : Nat} (h : Scanned limit ds current (i, 0) states origins)
    (enough : max 1 limit ≤ i + fuel) (more : Nat) (w : World σ) :
    Closure.extendFrom limit ds (fuel + more) i states w =
      Closure.extendFrom limit ds fuel i states w := by
  induction fuel generalizing i states origins w with
  | zero =>
    -- There are no more states than the limit allows, so that the index is past them all.
    have past : states[i]? = none := List.getElem?_eq_none (Nat.le_trans h.bound enough)
    rw [extendFrom_of_none past, extendFrom_of_none past]
  | succ fuel ih =>
    cases state : states[i]? with
    | none => rw [extendFrom_of_none state, extendFrom_of_none state]
    | some v =>
      have whole : ds = [] ++ ds := rfl
      obtain ⟨next, origins', scanned, goes, -⟩ := Scanned.extend h state whole w
      rw [Nat.succ_add, extendFrom_of_some state, extendFrom_of_some state]
      cases refused : (Closure.extend limit v ds states w).1.2 with
      | true => rfl
      | false =>
        have row := (goes refused ▸ scanned).row
        exact ih row (by omega) _

/-! ## A greater limit -/

section

variable {more : Nat}

omit [Regex.Engine] in
theorem accept_grows (limit : Nat) (states : List Value) (answer : Outcome Value) :
    states <+: (accept limit states answer).1 := by
  rcases accept_cases limit states answer with
    ⟨passed, -⟩ | ⟨refused, -⟩ | ⟨derived, -, added, -⟩
  · exact passed ▸ List.prefix_refl states
  · exact refused ▸ List.prefix_refl states
  · rw [added]
    exact List.prefix_append _ _

theorem extend_grows (limit : Nat) (v : Value) (ds : List (Derivation σ)) (states : List Value)
    (w : World σ) : states <+: (extend limit v ds states w).1.1 := by
  induction ds generalizing states w with
  | nil => exact List.prefix_refl _
  | cons d ds ih =>
    have first := accept_grows limit states (d v w).1
    rw [extend_cons]
    split
    · exact first
    · exact first.trans (ih _ _)

theorem extendFrom_grows (limit : Nat) (ds : List (Derivation σ)) (fuel index : Nat)
    (states : List Value) (w : World σ) :
    states <+: (extendFrom limit ds fuel index states w).1.1 := by
  induction fuel generalizing index states w with
  | zero => exact List.prefix_refl _
  | succ fuel ih =>
    cases state : states[index]? with
    | none =>
      rw [extendFrom_of_none state]
    | some v =>
      have first := extend_grows limit v ds states w
      rw [extendFrom_of_some state]
      split
      · exact first
      · exact first.trans (ih _ _ _)

omit [Regex.Engine] in
/-- What is not refused is accepted under a greater limit in the same way. -/
theorem accept_limit (le : limit ≤ more) (states : List Value) (answer : Outcome Value) :
    accept limit states answer = (states, true) ∨
      accept more states answer = accept limit states answer := by
  cases answer with
  | none => exact .inr rfl
  | some derived =>
    rw [accept, accept]
    by_cases there : states.any fun v => Value.structuralEq v derived
    · rw [if_pos there, if_pos there]
      exact .inr rfl
    rw [if_neg there, if_neg there]
    by_cases full : limit ≤ states.length
    · rw [if_pos full]
      exact .inl rfl
    · rw [if_neg full, if_neg (by omega)]
      exact .inr rfl

theorem extend_limit (le : limit ≤ more) (v : Value) (ds : List (Derivation σ))
    (states : List Value) (w : World σ) :
    (extend limit v ds states w).1.2 = true ∧
      (extend limit v ds states w).1.1 <+: (extend more v ds states w).1.1 ∨
    extend more v ds states w = extend limit v ds states w := by
  induction ds generalizing states w with
  | nil => exact .inr rfl
  | cons d ds ih =>
    rcases accept_limit le states (d v w).1 with refused | same
    -- From here on the greater limit goes on alone, and can only add.
    · have grows := extend_grows more v (d :: ds) states w
      rw [extend_cons limit, refused, if_pos rfl]
      exact .inl ⟨rfl, grows⟩
    · rw [extend_cons, extend_cons, same]
      split
      · exact .inr rfl
      · exact ih _ _

theorem extendFrom_limit (le : limit ≤ more) (ds : List (Derivation σ)) (fuel index : Nat)
    (states : List Value) (w : World σ) :
    (extendFrom limit ds fuel index states w).1.1 <+:
      (extendFrom more ds fuel index states w).1.1 := by
  induction fuel generalizing index states w with
  | zero => exact List.prefix_refl _
  | succ fuel ih =>
    cases state : states[index]? with
    | none =>
      rw [extendFrom_of_none state, extendFrom_of_none state]
    | some v =>
      rw [extendFrom_of_some state, extendFrom_of_some state]
      rcases extend_limit le v ds states w with ⟨refused, start⟩ | same
      · rw [if_pos refused]
        split
        · exact start
        · exact start.trans (extendFrom_grows more ds fuel _ _ _)
      · rw [same]
        split
        · exact List.prefix_refl _
        · exact ih _ _ _

end

/-- What a search comes to from a state: the states are in order of their origins, each of them new,
and no more than the limit allows, but always the current one. Unless the search is cut short, all
that extensions give for them is there, or something equal in structure; else there are as many
states as the limit allows. -/
structure Searched (limit : Nat) (ds : List (Derivation σ)) (current : Value)
    (found : List Value) (cut : Bool) : Prop where
  grown : ∃ origins, Grown limit ds current found origins
  closed : cut = false → ∀ p : Nat × Nat, p.1 < found.length → p.2 < ds.length →
    Settled ds found p
  full : cut = true → found.length = max 1 limit

theorem search_searched (limit : Nat) (ds : List (Derivation σ)) (current : Value) (w : World σ) :
    Searched limit ds current (search limit ds current w).1.1 (search limit ds current w).1.2 := by
  have start := Scanned.initial limit ds current
  have enough : max 1 limit ≤ 0 + max 1 limit := by omega
  obtain ⟨origins, grown, closed, full⟩ := Scanned.extendFrom start enough w
  exact ⟨⟨origins, grown⟩, closed, full⟩

/-- The search comes to an end by itself: more fuel changes nothing. The states it finds are in
order of their origins, each of them new, and no more than the limit allows, but always the current
one. Unless it is cut short, all that extensions give for them is there, or something equal in
structure; else there are as many states as the limit allows. Under a greater limit, the search
finds the same states first. -/
theorem search_exact (limit : Nat) (ds : List (Derivation σ)) (current : Value) (w : World σ) :
    ∃ found cut origins, (search limit ds current w).1 = (found, cut) ∧
      (∀ fuel ≥ max 1 limit, extendFrom limit ds fuel 0 [current] w = search limit ds current w) ∧
      Grown limit ds current found origins ∧
      (cut = false → ∀ p : Nat × Nat, p.1 < found.length → p.2 < ds.length →
        Settled ds found p) ∧
      (cut = true → found.length = max 1 limit) ∧
      ∀ more ≥ limit, found <+: (Closure.states more ds current w).1 := by
  have start := Scanned.initial limit ds current
  have enough : max 1 limit ≤ 0 + max 1 limit := by omega
  obtain ⟨⟨origins, grown⟩, closed, full⟩ := search_searched limit ds current w
  refine ⟨_, _, origins, rfl, fun fuel le => ?_, grown, closed, full, fun more le => ?_⟩
  · obtain ⟨extra, rfl⟩ := Nat.exists_eq_add_of_le le
    exact start.extendFrom_enough enough extra w
  · have greater : max 1 limit ≤ max 1 more := by omega
    obtain ⟨extra, fuel⟩ := Nat.exists_eq_add_of_le greater
    have first := extendFrom_limit le ds (max 1 more) 0 [current] w
    rw [fuel, start.extendFrom_enough enough extra w, ← fuel] at first
    exact first

end Search

section Cycle

attribute [local instance] Regex.Engine.literal

/-- Extensions that go round, and on from there. -/
theorem search_exact_cycle :
    let ds : List (Derivation Unit) := [("A", "B"), ("B", "A"), ("B", "C")].map
      fun (source, dest) v => pure (if v.string? = some source then some (.string dest) else none)
    let w : World Unit := { state := .undefined, nextAllocation := 0, memory := () }
    (search 2 ds (.string "A") w).1 = ([.string "A", .string "B"], true) ∧
    (search 3 ds (.string "A") w).1 = ([.string "A", .string "B", .string "C"], false) ∧
    [.string "A", .string "B"] <+: (Closure.states 3 ds (.string "A") w).1 := by
  intro ds w
  have cut : (search 2 ds (.string "A") w).1 = ([.string "A", .string "B"], true) := rfl
  obtain ⟨found, _, origins, same, -, -, -, -, first⟩ := search_exact 2 ds (.string "A") w
  obtain ⟨rfl, -⟩ := Prod.mk.inj (same.symm.trans cut)
  exact ⟨cut, rfl, first 3 (by decide)⟩

end Cycle

end RuleMachine.Closure
