import RuleMachine.Proofs.Closure
import RuleMachine.Proofs.Dispatch

/-!
# Which rule fires

A dispatch tries the pairs of a rule and a state of the closure, rules in the outer order and
states in the inner one. `closure_closes` says which states these are: those that a search under the
extensions of the machine finds, as far as its limit allows. `dispatch_resolves` says all that can
come of the dispatch: it is refused, or the first pair that reacts is the only one to fire, and
nothing after it is tried, or every pair fails. Where no dispatch begins while pairs are tried, the
store still is in the state it was in when it comes to fire.
-/

namespace RuleMachine

open Course

/-- The pairs that are tried before the rule at `i` is tried on the state at `j`: earlier rules on
every state, and the same rule on earlier states. -/
def earlier (rules : List Rule) (states : List Value) (i j : Nat) : List (Rule × Value) :=
  (rules.take i).product states ++ (rules[i]?.toList).product (states.take j)

theorem earlier_zero (r : Rule) (rules : List Rule) (states : List Value) (j : Nat) :
    earlier (r :: rules) states 0 j = (states.take j).map (r, ·) := by
  simp [earlier, List.product]

theorem earlier_succ (r : Rule) (rules : List Rule) (states : List Value) (i j : Nat) :
    earlier (r :: rules) states (i + 1) j = states.map (r, ·) ++ earlier rules states i j := by
  simp [earlier, List.product]

section Trying

variable [Regex.Engine] {σ : Type}

/-- The pairs are tried one after the other, and each fails: the step does not match, or it does
and the effect does not react. -/
inductive Fails (env : Surroundings σ) (event : Value) :
    List (Rule × Value) → World σ → World σ → Prop
  | nil (w : World σ) : Fails env event [] w w
  | step {r : Rule} {v : Value} {pairs : List (Rule × Value)} {w u u' : World σ} :
      r.on.run env.call v event .empty w = (none, u) →
      Fails env event pairs u u' → Fails env event ((r, v) :: pairs) w u'
  | effect {r : Rule} {v : Value} {s : Scope} {pairs : List (Rule × Value)}
      {w w' u u' : World σ} :
      r.on.run env.call v event .empty w = (some s, w') → r.effect.react env s w' = (none, u) →
      Fails env event pairs u u' → Fails env event ((r, v) :: pairs) w u'

variable {env : Surroundings σ} {event : Value}

theorem Fails.cons {r : Rule} {v : Value} {pairs : List (Rule × Value)} {w u u' : World σ}
    (failed : r.react env event v w = (none, u)) (rest : Fails env event pairs u u') :
    Fails env event ((r, v) :: pairs) w u' := by
  rw [Rule.react, bind_apply] at failed
  cases matched : r.on.run env.call v event .empty w with
  | mk found w' =>
    rw [matched] at failed
    cases found with
    | none =>
      cases failed
      exact .step matched rest
    | some s => exact .effect matched failed rest

theorem Rule.react_some {r : Rule} {v : Value} {w u : World σ} {reaction : Reaction σ}
    (reacted : r.react env event v w = (some reaction, u)) :
    ∃ s w', r.on.run env.call v event .empty w = (some s, w') ∧
      r.effect.react env s w' = (some reaction, u) := by
  rw [Rule.react, bind_apply] at reacted
  cases matched : r.on.run env.call v event .empty w with
  | mk found w' =>
    rw [matched] at reacted
    cases found with
    | none => cases reacted
    | some s => exact ⟨s, w', rfl, reacted⟩

theorem Fails.append {pairs pairs' : List (Rule × Value)} {w u u' : World σ}
    (first : Fails env event pairs w u) (second : Fails env event pairs' u u') :
    Fails env event (pairs ++ pairs') w u' := by
  induction first with
  | nil => exact second
  | step failed _ ih => exact .step failed (ih second)
  | effect matched failed _ ih => exact .effect matched failed (ih second)

theorem reactFirst_none {r : Rule} {states : List Value} {w u : World σ}
    (h : r.reactFirst env event states w = (none, u)) :
    Fails env event (states.map (r, ·)) w u := by
  induction states generalizing w with
  | nil => cases h; exact .nil _
  | cons v vs ih =>
    rw [Rule.reactFirst, bind_apply] at h
    cases tried : r.react env event v w with
    | mk found u' =>
      rw [tried] at h
      cases found with
      | none => exact .cons tried (ih h)
      | some reaction => cases h

theorem reactFirst_some {r : Rule} {states : List Value} {w u : World σ} {reaction : Reaction σ}
    (h : r.reactFirst env event states w = (some reaction, u)) :
    ∃ j v u', states[j]? = some v ∧ Fails env event ((states.take j).map (r, ·)) w u' ∧
      r.react env event v u' = (some reaction, u) := by
  induction states generalizing w with
  | nil => cases h
  | cons v vs ih =>
    rw [Rule.reactFirst, bind_apply] at h
    cases tried : r.react env event v w with
    | mk found u' =>
      rw [tried] at h
      cases found with
      | none =>
        obtain ⟨j, v', before, at', failed, reacted⟩ := ih h
        exact ⟨j + 1, v', before, at', .cons tried failed, reacted⟩
      | some reaction' =>
        cases h
        exact ⟨0, v, w, rfl, .nil w, tried⟩

theorem selectRule_none {states : List Value} {index : Nat} {rules : List Rule} {w u : World σ}
    (h : selectRule env event states index rules w = (none, u)) :
    Fails env event (rules.product states) w u := by
  induction rules generalizing index w with
  | nil => cases h; exact .nil _
  | cons r rs ih =>
    rw [selectRule, bind_apply] at h
    cases tried : r.reactFirst env event states w with
    | mk found u' =>
      rw [tried] at h
      cases found with
      | none => exact (reactFirst_none tried).append (ih h)
      | some reaction => cases h

theorem selectRule_some {states : List Value} {index rule : Nat} {rules : List Rule}
    {w u : World σ} {reaction : Reaction σ}
    (h : selectRule env event states index rules w = (some (rule, reaction), u)) :
    ∃ i j r v u', rule = index + i ∧ rules[i]? = some r ∧ states[j]? = some v ∧
      Fails env event (earlier rules states i j) w u' ∧
      r.react env event v u' = (some reaction, u) := by
  induction rules generalizing index w with
  | nil => cases h
  | cons r rs ih =>
    rw [selectRule, bind_apply] at h
    cases tried : r.reactFirst env event states w with
    | mk found u' =>
      rw [tried] at h
      cases found with
      | none =>
        obtain ⟨i, j, r', v, before, number, rule, state, failed, reacted⟩ := ih h
        refine ⟨i + 1, j, r', v, before, by omega, rule, state, ?_, reacted⟩
        rw [earlier_succ]
        exact (reactFirst_none tried).append failed
      | some reaction' =>
        cases h
        obtain ⟨j, v, before, state, failed, reacted⟩ := reactFirst_some tried
        refine ⟨0, j, r, v, before, rfl, rfl, state, ?_, reacted⟩
        rw [earlier_zero]
        exact failed

end Trying

namespace Store

section Resolving

variable [Regex.Engine] {σ : Type}

/-- What the extensions of the machine give in the course of a dispatch, in order. -/
def derivations (st : Store σ) : List (Closure.Derivation σ) :=
  st.machine.extensions.map (·.derive (st.surroundings st.dispatch).call)

/-- In the world `w` the closure of a state is computed in the course of a dispatch: it has the
states, and then the world is `u`. They are what a search finds under the extensions of the machine
and within its limit. -/
structure Closes (st : Store σ) (state : Value) (w : World σ) (states : List Value)
    (u : World σ) : Prop where
  closure : st.closure st.dispatch state w = (states, u)
  search : ∃ cut,
    Closure.search st.machine.limits.extendedStates st.derivations state w = ((states, cut), u) ∧
    Closure.Searched st.machine.limits.extendedStates st.derivations state states cut

/-- Every closure that a dispatch computes is that of a search. -/
theorem closure_closes (st : Store σ) (state : Value) (w : World σ) :
    st.Closes state w (st.closure st.dispatch state w).1 (st.closure st.dispatch state w).2 where
  closure := rfl
  search := ⟨_, rfl, Closure.search_searched _ st.derivations state w⟩

/-- What can come of a dispatch of `event` in the world `w`. -/
inductive Resolves (st : Store σ) (event : Value) (w : World σ) :
    DispatchResult → World σ → Prop
  | refused :
      st.machine.limits.dispatchDepth ≤ w.active →
      Resolves st event w (.error (.depthExceeded st.machine.limits.dispatchDepth))
        (w.after (.refused event))
  /-- The rule `r` at `i` reacts to the state `v` at `j` of the closure; all earlier pairs have
  failed, and no later one is tried. The thunk starts in the world `start`. -/
  | matched {states : List Value} {i j : Nat} {r : Rule} {v : Value} {s : Scope}
      {reaction : Reaction σ} {u u₁ u₂ u₃ start : World σ} {scan : List Happening} :
      w.active < st.machine.limits.dispatchDepth →
      st.Closes w.state (w.after (.entered event)) states u →
      st.machine.rules[i]? = some r → states[j]? = some v →
      Fails (st.surroundings st.dispatch) event (earlier st.machine.rules states i j) u u₁ →
      r.on.run (st.surroundings st.dispatch).call v event .empty u₁ = (some s, u₂) →
      r.effect.react (st.surroundings st.dispatch) s u₂ = (some reaction, u₃) →
      start = u₃.after (.fired i w.state u₃.state reaction.next) →
      (w.after (.entered event)).Between u₃ scan →
      ((∀ other, .entered other ∉ scan) → start.state = reaction.next.getD w.state) →
      Resolves st event w (.ok (.matched i reaction.next.isSome))
        (st.conclude st.dispatch (.matched i reaction.next.isSome) (reaction.thunk start).2).2
  /-- Every pair fails. -/
  | unmatched {states : List Value} {u u₁ : World σ} {scan : List Happening} :
      w.active < st.machine.limits.dispatchDepth →
      st.Closes w.state (w.after (.entered event)) states u →
      Fails (st.surroundings st.dispatch) event (st.machine.rules.product states) u u₁ →
      (w.after (.entered event)).Between u₁ scan →
      ((∀ other, .entered other ∉ scan) → u₁.state = w.state) →
      Resolves st event w (.ok .unmatched) (st.conclude st.dispatch .unmatched u₁).2

variable (st : Store σ)

/-- While rules are tried nothing fires but in dispatches that begin meanwhile. -/
theorem select_calm (event state : Value) (w : World σ) :
    ∃ scan, w.Between (st.select st.dispatch event state w).2 scan ∧
      ((∀ other, .entered other ∉ scan) →
        (st.select st.dispatch event state w).2.state = w.state) := by
  have ha := st.surroundings_records.await
  obtain ⟨-, -, scan, between, happens⟩ :=
    Store.select_inStep st.dispatch_records st ha event state w (Nat.zero_le _)
  refine ⟨scan, between, ?_⟩
  intro calm
  rw [between.standing, Standing.state_replay, happens.transitions_eq_nil calm]
  rfl

/-- Of the pairs of a rule and a state of the closure the first that reacts fires, and no other. -/
theorem dispatch_resolves (event : Value) (w : World σ) :
    st.Resolves event w (st.dispatch event w).1 (st.dispatch event w).2 := by
  rcases Nat.lt_or_ge w.active st.machine.limits.dispatchDepth with room | full
  · have closes := st.closure_closes w.state (w.after (.entered event))
    cases closed : st.closure st.dispatch w.state (w.after (.entered event)) with
    | mk states u =>
      rw [closed] at closes
      have selected : st.select st.dispatch event w.state (w.after (.entered event)) =
          selectRule (st.surroundings st.dispatch) event states 0 st.machine.rules u := by
        rw [select, bind_apply, closed]
      obtain ⟨scan, between, calm⟩ := st.select_calm event w.state (w.after (.entered event))
      rw [st.dispatch_eq, st.dispatchOnce_of_room room, bind_apply]
      rw [selected] at between calm
      cases tried : selectRule (st.surroundings st.dispatch) event states 0 st.machine.rules u with
      | mk found u' =>
        rw [tried] at between calm selected
        cases found with
        | none =>
          rw [st.fire_of_none selected]
          exact .unmatched room closes (selectRule_none tried) between calm
        | some winner =>
          obtain ⟨rule, reaction⟩ := winner
          obtain ⟨i, j, r, v, before, number, atRule, atState, failed, reacted⟩ :=
            selectRule_some tried
          obtain rfl : rule = i := number.trans (Nat.zero_add i)
          rw [st.fire_of_some selected]
          obtain ⟨s, u'', matched, chosen⟩ := r.react_some reacted
          refine .matched room closes atRule atState failed matched chosen rfl between ?_
          intro none
          have kept : u'.state = w.state := calm none
          change reaction.next.getD u'.state = _
          rw [kept]
  · rw [st.dispatch_of_full full]
    exact .refused full

end Resolving

/-! ## A rule for a state that an extension gives -/

section Detour

attribute [local instance] Regex.Engine.literal

namespace Detour

/-- The one rule leads from B to C. -/
def rule : Rule := ⟨.state (.literal (.string "B")), .next (.const (.string "C")) []⟩

/-- What is A is also B. -/
def store : Store Unit where
  machine :=
    { start := .const (.string "A")
      rules := [rule]
      extensions := [⟨.const (.string "B"), .literal (.string "A")⟩]
      states := []
      actions := []
      limits := {} }
  host :=
    { behaviour := fun _ => .immediate fun _ => .done .null
      callback := fun _ => .done () }

def world : World Unit := { state := .string "A", nextAllocation := 0, memory := () }

/-- The world in which the rules are tried. -/
def entered : World Unit := world.after (.entered .null)

end Detour

/-- The rule fails in the state itself and reacts in the second state of the closure. -/
theorem dispatch_resolves_detour :
    (Detour.store.dispatch .null Detour.world).1 = .ok (.matched 0 true) ∧
    Detour.store.Closes (.string "A") Detour.entered [.string "A", .string "B"] Detour.entered ∧
    Fails (Detour.store.surroundings Detour.store.dispatch) .null [(Detour.rule, .string "A")]
      Detour.entered Detour.entered ∧
    ∃ start : World Unit, start.state = .string "C" ∧
      (Detour.store.dispatch .null Detour.world).2 =
        (Detour.store.conclude Detour.store.dispatch (.matched 0 true) start).2 := by
  have answer : (Detour.store.dispatch .null Detour.world).1 = .ok (.matched 0 true) := rfl
  have closed : Detour.store.closure Detour.store.dispatch (.string "A") Detour.entered =
      ([.string "A", .string "B"], Detour.entered) := rfl
  have resolves := Detour.store.dispatch_resolves .null Detour.world
  refine ⟨answer, ?_⟩
  generalize (Detour.store.dispatch .null Detour.world).2 = after at resolves ⊢
  generalize (Detour.store.dispatch .null Detour.world).1 = given at resolves answer
  cases resolves with
  | refused => cases answer
  | unmatched => cases answer
  | @matched states i j r v s reaction u u₁ u₂ u₃ start scan room closes atRule atState failed
      matched chosen begun between calm =>
    obtain ⟨rfl, rfl⟩ := Prod.mk.inj (closes.closure.symm.trans closed)
    obtain ⟨rfl, moved⟩ := Dispatched.matched.inj (Except.ok.inj answer)
    obtain rfl : Detour.rule = r := Option.some.inj atRule
    obtain _ | _ | j := j
    -- The state itself does not match.
    · obtain rfl : Value.string "A" = v := Option.some.inj atState
      have unmatched : Fails (Detour.store.surroundings Detour.store.dispatch) .null []
          Detour.entered u₁ := failed
      cases unmatched
      cases matched
    · obtain rfl : Value.string "B" = v := Option.some.inj atState
      have first : Fails (Detour.store.surroundings Detour.store.dispatch) .null
          [(Detour.rule, .string "A")] Detour.entered u₁ := failed
      have still : u₁ = Detour.entered := by
        rcases first with _ | ⟨tried, rest⟩ | ⟨tried, -, rest⟩
        · cases tried
          cases rest
          rfl
        · cases tried
      subst still
      cases matched
      cases chosen
      have quiet : scan = [] := List.self_eq_append_right.mp between.history
      refine ⟨closes, first, _, calm ?_, rfl⟩
      simp [quiet]
    · cases atState

end Detour

end Store

end RuleMachine
