import RuleMachine.Proofs.Dispatch
import RuleMachine.Proofs.Moments

/-!
# What a transition replaces

A dispatch reads the state when it begins and writes the next one when a rule fires. In between it
tries its rules; they may call host code, which may dispatch in turn. The state is not looked at
again before it is written, so a transition of such a dispatch is lost. No other is lost to it: its
actions and the callbacks run when the state has been written.
-/

namespace RuleMachine.Store

section Transitions

variable [Regex.Engine] {σ : Type} {st : Store σ}

/-- A transition replaces the state its rule was matched against, which is the state in which its
dispatch began, unless dispatches that began while the rules were tried have moved the store; then
it replaces the state that the last of them moved to. -/
theorem transition_replaces {w u : World σ} (run : st.Leads w u) :
    ∃ h, w.Between u h ∧ ∀ before later rule matched replaced next,
      h = before ++ .fired rule matched replaced (some next) :: later →
      ∃ earlier event scan,
        before = earlier ++ .entered event :: scan ∧
        Happens st.machine.limits.dispatchDepth
          ((w.toStanding.replay earlier).after (.entered event)) scan ∧
        matched = (w.toStanding.replay earlier).state ∧
        replaced = (w.toStanding.replay before).state ∧
        replaced = (transitions scan).getLast?.getD matched ∧
        ((∀ other, .entered other ∉ scan) → replaced = matched) := by
  obtain ⟨h, between, happens⟩ := run.records
  refine ⟨h, between, ?_⟩
  rintro before later rule matched replaced next rfl
  obtain ⟨⟨earlier, event, scan, rfl, begun, tried⟩, now⟩ := happens.allowed
  have moved : replaced = (transitions scan).getLast?.getD matched := by
    rw [now, Standing.replay_append, Standing.replay_cons, Standing.state_replay, begun]
    rfl
  refine ⟨earlier, event, scan, rfl, tried, begun, now, moved, ?_⟩
  intro calm
  rw [moved, tried.transitions_eq_nil calm]
  rfl

end Transitions

/-! ## A host that dispatches while rules are tried -/

section Intrusion

attribute [local instance] Regex.Engine.literal

namespace Intrusion

/-- The function asked by the guard of the first rule. -/
def guard : HostFn := ⟨0, "guard"⟩

/-- The first rule is for the state null and the event true, the second for the event false; each
moves to what its event is. -/
def machine : Machine where
  start := .const .null
  rules :=
    [⟨.sequence [.state (.literal .null), .event (.literal (.bool true)), .cond (.call guard)],
        .next (.const (.bool true)) []⟩,
      ⟨.event (.literal (.bool false)), .next (.const (.bool false)) []⟩]
  extensions := []
  states := []
  actions := []
  limits := {}

/-- The guard holds, but not before it has dispatched false. -/
def store : Store Unit where
  machine := machine
  host :=
    { behaviour := fun _ => .immediate fun _ => .dispatch (.bool false) fun _ => .done (.bool true)
      callback := fun _ => .done () }

/-- The world in which true has been dispatched. -/
def after : World Unit :=
  (store.run (.dispatch (.bool true) fun _ => .done ()) (store.boot () 0)).2

theorem leads : store.Leads (store.boot () 0) after := .run _ (.refl _)

/-- The guard has moved the store to false, which the first rule overwrites as if it were null. -/
theorem history_eq : after.history =
    [.entered (.bool true), .called guard .empty, .entered (.bool false),
      .fired 1 .null .null (some (.bool false)), .returned (.matched 1 true),
      .fired 0 .null (.bool false) (some (.bool true)), .returned (.matched 0 true)] := rfl

end Intrusion

theorem transition_replaces_intrusion :
    ∃ h, (Intrusion.store.boot () 0).Between Intrusion.after h ∧
      ∃ before later, h = before ++ .fired 0 .null (.bool false) (some (.bool true)) :: later ∧
        ∃ earlier event scan, before = earlier ++ .entered event :: scan ∧
          Value.bool false = (transitions scan).getLast?.getD .null := by
  obtain ⟨h, between, replaces⟩ := transition_replaces Intrusion.leads
  have happened : h = Intrusion.after.history := between.history.symm
  rw [Intrusion.history_eq] at happened
  obtain ⟨earlier, event, scan, split, -, -, -, moved, -⟩ :=
    replaces [_, _, _, _, _] [_] 0 .null (.bool false) (.bool true) happened
  exact ⟨h, between, _, _, happened, earlier, event, scan, split, moved⟩

/-- Not every transition replaces the state its rule was matched against. -/
theorem transition_not_always_fresh :
    ¬∀ u, Intrusion.store.Leads (Intrusion.store.boot () 0) u →
      ∀ rule matched replaced next,
        .fired rule matched replaced (some next) ∈ u.history → replaced = matched := by
  intro fresh
  have fired : .fired 0 .null (.bool false) (some (.bool true)) ∈ Intrusion.after.history := by
    rw [Intrusion.history_eq]
    simp
  have same := fresh _ Intrusion.leads _ _ _ _ fired
  cases same

end Intrusion

end RuleMachine.Store
