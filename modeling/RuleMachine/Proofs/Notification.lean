import RuleMachine.Proofs.Dispatch
import RuleMachine.Proofs.Subscribers

/-!
# When subscribers are notified

A dispatch that is let in makes one pass over the subscribers, after its rules and all that their
actions cause. The subscribers are those of the moment in which the pass begins; what callbacks
register or remove counts from the next pass on. So a subscriber that stays is notified as often
as dispatches succeed.
-/

namespace RuleMachine.Store

section Notifying

variable [Regex.Engine] {σ : Type} {st : Store σ}

/-- What it means that each dispatch notifies once. -/
structure NotifiesOnce (st : Store σ) : Prop where
  /-- A dispatch that is nested in another is the same dispatch, made in another world. -/
  nested (event : Value) : st.dispatch event = st.dispatchOnce st.dispatch event
  /-- A dispatch that succeeds first tries its rules and takes the actions of the one that fires;
  dispatches that these make have notified when they are done. Then it runs the callbacks of the
  subscribers there are by now, each once and in order, and ends. -/
  passes {event : Value} {w : World σ} {outcome : Dispatched} :
    (st.dispatch event w).1 = .ok outcome →
    w.Completes st.machine.limits.dispatchDepth event outcome (st.dispatch event w).2
  /-- A dispatch that fails notifies nobody. -/
  failed {event : Value} {w : World σ} {error : DispatchError} :
    (st.dispatch event w).1 = .error error → w.Between (st.dispatch event w).2 [.refused event]
  /-- In a run a dispatch is a bracket, and at every moment the subscribers stand in the order in
  which they were registered. One that is there before the run and is not removed is notified as
  often as dispatches succeed. -/
  counted {w u : World σ} : st.Reachable w → st.Leads w u → ∃ h, w.Between u h ∧
    Happens st.machine.limits.dispatchDepth w.toStanding h ∧
    (∀ before later, h = before ++ later → (w.toStanding.replay before).Ordered) ∧
    ∀ x ∈ w.subscribers, .unsubscribed x.id ∉ h → notifications x h = endings h

theorem Reachable.ordered {w : World σ} (hw : st.Reachable w) : w.Ordered := by
  obtain ⟨memory, n, run⟩ := hw
  obtain ⟨h, between, happens⟩ := run.records
  obtain ⟨h', start, happens'⟩ := st.boot_records memory n
  have empty : blank.Ordered := ⟨.nil, fun _ hx => nomatch hx⟩
  have begun := empty.replay happens'
  rw [between.standing]
  apply Standing.Ordered.replay _ happens
  rw [start]
  exact ⟨begun.increasing, begun.below⟩

/-- Each dispatch that succeeds notifies the subscribers once, and one that fails nobody. -/
theorem notifiesOnce (st : Store σ) : st.NotifiesOnce where
  nested := st.dispatch_eq
  passes {event w outcome} succeeded := by
    rcases Nat.lt_or_ge w.active st.machine.limits.dispatchDepth with room | full
    · obtain ⟨outcome', answer, completes⟩ := st.dispatch_of_room_records event room
      obtain rfl : outcome' = outcome := Except.ok.inj (answer.symm.trans succeeded)
      exact completes
    · rw [st.dispatch_of_full full] at succeeded
      cases succeeded
  failed {event w error} failed := by
    rw [st.dispatch_of_full (st.full_of_error failed)]
    exact .after w _
  counted {w u} hw run := by
    obtain ⟨h, between, happens⟩ := run.records
    refine ⟨h, between, happens, ?_, ?_⟩
    · rintro before later rfl
      have start : (w.toStanding.replay []).Ordered := hw.ordered
      exact start.along (along_append.mp (happens.along rfl)).1
    · intro x hx kept
      exact happens.notifications_eq hw.ordered hx kept

end Notifying

/-! ## A subscriber that replaces itself -/

section Relay

attribute [local instance] Regex.Engine.literal

namespace Relay

/-- The first callback registers the second and removes itself; no rule matches. -/
def store : Store Unit where
  machine :=
    { start := .const .null, rules := [], extensions := [], states := [], actions := []
      limits := {} }
  host :=
    { behaviour := fun _ => .immediate fun _ => .done .null
      callback
        | 0 => .subscribe 1 fun _ => .unsubscribe 0 (.done ())
        | _ => .done () }

def before : World Unit :=
  (store.run (.subscribe 0 fun _ => .subscribe 1 fun _ => .done ()) (store.boot () 0)).2

def after : World Unit :=
  (store.run (.dispatch .null fun _ => .dispatch .null fun _ => .done ()) before).2

end Relay

theorem notifiesOnce_relay :
    Relay.store.NotifiesOnce ∧ Relay.store.Reachable Relay.before ∧
      Relay.store.Leads Relay.before Relay.after ∧
      Relay.before.Between Relay.after
        [.entered .null, .notified ⟨0, 0⟩, .subscribed ⟨2, 1⟩, .unsubscribed 0, .notified ⟨1, 1⟩,
          .returned .unmatched,
          .entered .null, .notified ⟨1, 1⟩, .notified ⟨2, 1⟩, .returned .unmatched] :=
  ⟨notifiesOnce Relay.store, ⟨(), 0, .run _ (.refl _)⟩, .run _ (.refl _), ⟨rfl, rfl⟩⟩

end Relay

end RuleMachine.Store
