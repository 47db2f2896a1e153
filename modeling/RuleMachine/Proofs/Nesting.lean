import RuleMachine.Proofs.Dispatch
import RuleMachine.Proofs.Moments

/-!
# How deep dispatches nest

Actions, callbacks and host functions may all dispatch while a dispatch is in progress, to this
store or to another one. The dispatches in progress on a thread count together, and each store
compares them with a limit of its own. However they are mixed, no more of a store's own dispatches
are ever in progress than its limit allows, and as long as no other store dispatches, no more at
all. The one that would be too many is refused and leaves nothing behind but its refusal; those it
is nested in end as if nothing had been.
-/

namespace RuleMachine.Store

section Nesting

variable [Regex.Engine] {σ : Type} {st : Store σ}

/-- What it means that dispatches nest no deeper than `limit`. -/
structure NestsWithin (st : Store σ) (limit : Nat) : Prop where
  /-- A dispatch that is nested in another is the same dispatch, made in another world. -/
  nested (event : Value) : st.dispatch event = st.dispatchOnce st.dispatch event
  /-- However far a run has come, the dispatches in progress keep to the limit. -/
  bounded {w u : World σ} : st.Reachable w → st.Leads w u →
    ∃ h, w.Between u h ∧ w.toStanding.DepthWithin limit h
  /-- A dispatch is refused if the thread has as many in progress as the limit allows. -/
  refused_iff (event : Value) (w : World σ) :
    (st.dispatch event w).1 = .error (.depthExceeded limit) ↔ limit ≤ w.active
  /-- A dispatch fails in one way only, and then nothing has changed but the journal. -/
  unchanged {event : Value} {w : World σ} {error : DispatchError} :
    (st.dispatch event w).1 = .error error →
    error = .depthExceeded limit ∧
      (st.dispatch event w).2 = { w with journal := w.journal.push (.refused event) }
  restored (event : Value) (w : World σ) : (st.dispatch event w).2.active = w.active
  outermost {w u : World σ} : st.Reachable w → st.Leads w u → u.active = 0
  /-- A dispatch that is let in succeeds, whatever those nested in it do and answer. -/
  answered (dispatch : Value → Run σ DispatchResult) (event : Value) {w : World σ} :
    w.active < limit → ∃ outcome, (st.dispatchOnce dispatch event w).1 = .ok outcome

theorem refused_iff_full (event : Value) (w : World σ) :
    (st.dispatch event w).1 = .error (.depthExceeded st.machine.limits.dispatchDepth) ↔
      st.machine.limits.dispatchDepth ≤ w.active := by
  constructor
  · exact st.full_of_error
  · intro full
    rw [st.dispatch_of_full full]

theorem dispatch_active (event : Value) (w : World σ) :
    (st.dispatch event w).2.active = w.active := by
  obtain ⟨-, -, h, between, happens⟩ := st.dispatch_records event w (Nat.zero_le _)
  rw [between.standing, happens.active_eq]

/-- Dispatches nest no deeper than the limit of the machine. -/
theorem nestsWithin_limit (st : Store σ) : st.NestsWithin st.machine.limits.dispatchDepth where
  nested := st.dispatch_eq
  bounded hw run := by
    obtain ⟨h, between, happens⟩ := run.records
    exact ⟨h, between, happens.depthWithin hw.active_eq_zero⟩
  refused_iff := refused_iff_full
  unchanged {event w error} failed := by
    have full := st.full_of_error failed
    rw [st.dispatch_of_full full] at failed ⊢
    exact ⟨(Except.error.inj failed).symm, rfl⟩
  restored := dispatch_active
  outermost hw run := (hw.leads run).active_eq_zero
  answered dispatch event _ room := st.dispatchOnce_ok dispatch event room

end Nesting

section Runs

attribute [local instance] Regex.Engine.literal

/-! ## A rule that dispatches without end -/

namespace Runaway

/-- The one rule dispatches null on every event. -/
def store : Store Unit where
  machine :=
    { start := .const .null
      rules := [⟨.event .wildcard, .only [.dispatch (.const .null)]⟩]
      extensions := []
      states := []
      actions := []
      limits := { dispatchDepth := 2 } }
  host :=
    { behaviour := fun _ => .immediate fun _ => .done .null
      callback := fun _ => .done () }

def after : World Unit := (store.run (.dispatch .null fun _ => .done ()) (store.boot () 0)).2

end Runaway

theorem nestsWithin_limit_runaway :
    Runaway.store.Reachable (Runaway.store.boot () 0) ∧
      Runaway.store.Leads (Runaway.store.boot () 0) Runaway.after ∧
      Runaway.store.NestsWithin 2 ∧
      Runaway.after.history =
        [.entered .null, .fired 0 .null .null none, .entered .null, .fired 0 .null .null none,
          .refused .null, .returned (.matched 0 false), .returned (.matched 0 false)] :=
  ⟨⟨(), 0, .refl _⟩, .run _ (.refl _), nestsWithin_limit Runaway.store, rfl⟩

/-! ## Dispatches by way of another store -/

namespace Crossing

/-- Dispatches to a store with a greater limit, which dispatches back. -/
def cross : Script Unit Unit :=
  .elsewhere 3 (.dispatch .null fun _ => .finished .unmatched) fun _ => .done ()

def store : Store Unit where
  machine :=
    { start := .const .null, rules := [], extensions := [], states := [], actions := []
      limits := { dispatchDepth := 1 } }
  host :=
    { behaviour := fun _ => .immediate fun _ => .done .null
      callback := fun _ => cross }

/-- The world after a dispatch whose callback goes by way of the other store, and after going that
way from outside of any dispatch. -/
def after : World Unit :=
  (store.run (.subscribe 0 fun _ => .dispatch .null fun _ => cross) (store.boot () 0)).2

theorem leads : store.Leads (store.boot () 0) after := .run _ (.refl _)

theorem history_eq : after.history =
    [.subscribed ⟨0, 0⟩, .entered .null, .notified ⟨0, 0⟩, .enteredElsewhere 3, .refused .null,
      .returnedElsewhere, .returned .unmatched, .enteredElsewhere 3, .refused .null,
      .returnedElsewhere] := rfl

end Crossing

/-- Where other stores dispatch as well, more dispatches may be in progress than the limit of a
store allows; and it may refuse one although there are more than that, or fewer of its own. -/
theorem not_bounded_by_limit :
    (¬∀ u, Crossing.store.Leads (Crossing.store.boot () 0) u →
      ∀ before later, u.history = before ++ later → (inProgress [] before).length ≤ 1) ∧
    (¬∀ u, Crossing.store.Leads (Crossing.store.boot () 0) u →
      ∀ before event later, u.history = before ++ .refused event :: later →
        (inProgress [] before).length = 1) ∧
    ¬∀ u, Crossing.store.Leads (Crossing.store.boot () 0) u →
      ∀ before event later, u.history = before ++ .refused event :: later →
        (inProgress [] before).count .own = 1 := by
  refine ⟨fun bounded => ?_, fun exactly => ?_, fun exactly => ?_⟩
  · have most := bounded _ Crossing.leads [_, _, _, _] (_ :: _) Crossing.history_eq
    exact absurd most (by decide)
  · have number := exactly _ Crossing.leads [_, _, _, _] _ _ Crossing.history_eq
    exact absurd number (by decide)
  · have number := exactly _ Crossing.leads [_, _, _, _, _, _, _, _] _ _ Crossing.history_eq
    exact absurd number (by decide)

end Runs

end RuleMachine.Store
