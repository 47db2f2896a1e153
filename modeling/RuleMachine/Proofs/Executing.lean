import RuleMachine.Proofs.Nesting

/-!
# Exec effects

An exec effect calls its function and dispatches the events that it gives, each pulled when the
dispatch before it has ended, up to the first pull that has none. Every dispatch ends with as many
in progress as it began with, so either all of them are let in (`Store.Delivers`) or the first one
is refused, and then no more is pulled (`Store.Refuses`). Which of the two it is hangs on how many
dispatches are in progress when the effect is taken (`Store.execsWhole`).
-/

namespace RuleMachine

open Course

/-! ## What happens at full depth -/

namespace Happening

/-- No part of a dispatch of the store that is let in. -/
def isOutside : Happening → Bool
  | called .. | subscribed _ | unsubscribed _ | refused _ | enteredElsewhere _
  | returnedElsewhere => true
  | entered _ | fired .. | notified _ | returned _ => false

/-- A subscription begins or ends. -/
def isSubscription : Happening → Bool
  | subscribed _ | unsubscribed _ => true
  | _ => false

end Happening

variable {limit : Nat} {s : Standing} {h : List Happening}

mutual

theorem Occurs.outside : ∀ {s : Standing} {h : List Happening}, Occurs limit s h →
    limit ≤ s.active → ∀ x ∈ h, x.isOutside
  | _, _, .free hx, _ => by cases hx <;> exact List.forall_mem_singleton.mpr rfl
  | _, _, .refused _ _, _ => List.forall_mem_singleton.mpr rfl
  | _, _, .elsewhere _ happens, full => by
    rw [List.cons_append, List.forall_mem_cons, List.forall_mem_append]
    exact ⟨rfl, happens.outside (Nat.le_succ_of_le full), List.forall_mem_singleton.mpr rfl⟩
  | _, _, .dispatched _ room _ _, full => absurd full (Nat.not_le.mpr room)

/-- With as many dispatches in progress as the limit allows, none is let in. -/
theorem Happens.outside : ∀ {s : Standing} {h : List Happening}, Happens limit s h →
    limit ≤ s.active → ∀ x ∈ h, x.isOutside
  | _, _, .nothing, _ => List.forall_mem_nil _
  | _, _, .next occurs rest, full => by
    rw [List.forall_mem_append]
    exact ⟨occurs.outside full, rest.outside (occurs.active_eq ▸ full)⟩

end

namespace Standing

/-- Only a rule that fires moves the store. -/
theorem state_outside (outside : ∀ x ∈ h, x.isOutside) : (s.replay h).state = s.state := by
  have none : transitions h = [] := by
    refine List.filterMap_eq_nil_iff.mpr fun x mem => ?_
    have here := outside x mem
    cases x <;> first | rfl | cases here
  rw [state_replay, none]
  rfl

theorem subscribers_replay (none : ∀ x ∈ h, x.isSubscription = false) :
    (s.replay h).subscribers = s.subscribers := by
  induction h generalizing s with
  | nil => rfl
  | cons x h ih =>
    obtain ⟨here, later⟩ := List.forall_mem_cons.mp none
    rw [replay_cons, ih later]
    cases x <;> first | rfl | cases here

end Standing

section Executing

variable [Regex.Engine] {σ : Type}

namespace Store

/-! ## What exec effects do -/

/-- The events that a function gives when it is called, each to be pulled, and the world in which
they are to be had. The items of a list are events as they are when the function returns. -/
inductive Gives (st : Store σ) (f : HostFn) (s : Scope) (w : World σ) :
    List (Run σ (Option Value)) → World σ → Prop
  | list {g : Scope → Script σ Value} {n : Nat} {items : List Value} {u : World σ} :
      st.host.behaviour f = .immediate g →
      st.run (g s) (w.after (.called f s)) = (.list n items, u) →
      Gives st f s w (items.map fun v => pure (some v)) u
  | value {g : Scope → Script σ Value} {v : Value} {u : World σ} :
      st.host.behaviour f = .immediate g →
      st.run (g s) (w.after (.called f s)) = (v, u) → (∀ n items, v ≠ .list n items) →
      Gives st f s w [pure (some v)] u
  | events {g : Scope → Script σ (List (Script σ (Option Value)))}
      {scripts : List (Script σ (Option Value))} {u : World σ} :
      st.host.behaviour f = .events g →
      st.run (g s) (w.after (.called f s)) = (scripts, u) →
      Gives st f s w (scripts.map st.run) u
  | deferred {g : Scope → Script σ (Future σ)} :
      st.host.behaviour f = .deferred g → Gives st f s w [] w

/-- The first pull gives an event. -/
def Begins (pulls : List (Run σ (Option Value))) (w : World σ) : Prop :=
  ∃ pull rest event, pulls = pull :: rest ∧ (pull w).1 = some event

/-- Each of the events is dispatched, in order: it is pulled in the world in which the dispatch
before it has ended, and its own dispatch begins and ends before the next is pulled. The first pull
that gives none is the last. -/
inductive Delivers (st : Store σ) :
    List (Run σ (Option Value)) → World σ → List (Value × Dispatched) → World σ → Prop
  | done (w : World σ) : Delivers st [] w [] w
  | ended {pull : Run σ (Option Value)} {w v : World σ} (rest : List (Run σ (Option Value))) :
      pull w = (none, v) → Delivers st (pull :: rest) w [] v
  | next {pull : Run σ (Option Value)} {pulls : List (Run σ (Option Value))} {w v u x : World σ}
      {event : Value} {outcome : Dispatched} {delivered : List (Value × Dispatched)} :
      pull w = (some event, v) → st.dispatch event v = (.ok outcome, u) →
      v.Completes st.machine.limits.dispatchDepth event outcome u →
      Delivers st pulls u delivered x →
      Delivers st (pull :: pulls) w ((event, outcome) :: delivered) x

/-- One event is pulled and refused, and that is all. -/
inductive Refuses (st : Store σ) : List (Run σ (Option Value)) → World σ → World σ → Prop
  | first {pull : Run σ (Option Value)} {w v : World σ} {event : Value}
      (rest : List (Run σ (Option Value))) :
      pull w = (some event, v) →
      st.dispatch event v =
        (.error (.depthExceeded st.machine.limits.dispatchDepth), v.after (.refused event)) →
      Refuses st (pull :: rest) w (v.after (.refused event))

/-- All that can come of an exec effect that is taken in `w` and has events to give in `v`. -/
structure Executes (st : Store σ) (w : World σ) (pulls : List (Run σ (Option Value)))
    (v u : World σ) : Prop where
  nothing : pulls = [] → u = v
  /-- Without an event nothing is dispatched. -/
  none : ¬Begins pulls v → st.Delivers pulls v [] u
  delivers_iff : Begins pulls v → ((∃ delivered, st.Delivers pulls v delivered u) ↔
    w.active < st.machine.limits.dispatchDepth)
  refuses_iff : Begins pulls v → (st.Refuses pulls v u ↔
    w.active = st.machine.limits.dispatchDepth)
  /-- At full depth nothing has happened but what the function itself does and the refusal: the
  state has not changed, and the subscribers only where the function's own code subscribes. -/
  unmoved : w.active = st.machine.limits.dispatchDepth → ∃ h, w.Between u h ∧
    (∀ x ∈ h, x.isOutside) ∧ u.state = w.state ∧
    ((∀ x ∈ h, x.isSubscription = false) → u.subscribers = w.subscribers)

/-- What it means that exec effects are lazy and ordered, and either dispatch all events or none. -/
structure ExecsWhole (st : Store σ) : Prop where
  /-- A dispatch that is nested in another is the same dispatch, made in another world. -/
  nested (event : Value) : st.dispatch event = st.dispatchOnce st.dispatch event
  executes (f : HostFn) (s : Scope) {w : World σ} :
    w.active ≤ st.machine.limits.dispatchDepth → ∃ pulls v, st.Gives f s w pulls v ∧
      st.Executes w pulls v ((Action.exec f).run (st.surroundings st.dispatch) s w).2

variable {st : Store σ} {f : HostFn} {scope : Scope} {w v u : World σ}
  {pull : Run σ (Option Value)} {pulls : List (Run σ (Option Value))}

theorem gives_eventsWith (given : st.eventsWith st.dispatch f scope w = (pulls, v)) :
    st.Gives f scope w pulls v := by
  unfold eventsWith at given
  cases behaviour : st.host.behaviour f with
  | immediate g =>
    rw [behaviour] at given
    cases ran : st.run (g scope) (w.after (.called f scope)) with
    | mk value u =>
      simp only at given
      rw [bind_apply, bind_apply] at given
      have answer : st.runWith st.dispatch (g scope) (World.happen (.called f scope) w).2 =
        (value, u) := ran
      rw [answer] at given
      cases value with
      | list n items =>
        cases given
        exact .list behaviour ran
      | _ =>
        cases given
        exact .value behaviour ran fun n items same => Value.noConfusion same
  | deferred g =>
    rw [behaviour] at given
    cases given
    exact .deferred behaviour
  | events g =>
    rw [behaviour] at given
    cases given
    exact .events behaviour rfl

/-- Host code that is run to have an event is written down like any other. -/
abbrev Recorded (st : Store σ) (pull : Run σ (Option Value)) : Prop :=
  (recorded σ st.machine.limits.dispatchDepth 0).Same pull pull

theorem Recorded.between (h : st.Recorded pull) (w : World σ) :
    ∃ h, w.Between (pull w).2 h ∧ Happens st.machine.limits.dispatchDepth w.toStanding h :=
  (h w (Nat.zero_le _)).2.2

theorem Recorded.active (h : st.Recorded pull) (w : World σ) : (pull w).2.active = w.active := by
  obtain ⟨h, between, happens⟩ := h.between w
  rw [between.standing, happens.active_eq]

/-- An exec effect calls its function, and then dispatches what that gives. -/
theorem exec_run (st : Store σ) (f : HostFn) (scope : Scope) (w : World σ) :
    ∃ pulls v, st.Gives f scope w pulls v ∧ (∀ pull ∈ pulls, st.Recorded pull) ∧
      (∃ h, w.Between v h ∧ Happens st.machine.limits.dispatchDepth w.toStanding h) ∧
      (Action.exec f).run (st.surroundings st.dispatch) scope w =
        dispatchEach (st.surroundings st.dispatch) pulls v := by
  obtain ⟨recorded, -, called⟩ :=
    Store.eventsWith_inStep st.dispatch_records st f scope w (Nat.zero_le _)
  cases given : st.eventsWith st.dispatch f scope w with
  | mk pulls v =>
    rw [given] at recorded called
    refine ⟨pulls, v, gives_eventsWith given, ?_, called, ?_⟩
    · exact fun pull mem => List.forall₂_same.mp recorded pull mem
    · change (st.eventsWith st.dispatch f scope >>= _) w = _
      rw [bind_apply, given]

section Pulling

variable {event : Value} {env : Surroundings σ}

theorem dispatchEach_of_none (pulled : pull w = (none, v)) :
    dispatchEach env (pull :: pulls) w = ((), v) := by
  rw [dispatchEach, bind_apply, pulled]
  rfl

theorem dispatchEach_of_ok {outcome : Dispatched} (pulled : pull w = (some event, v))
    (dispatched : env.dispatch event v = (.ok outcome, u)) :
    dispatchEach env (pull :: pulls) w = dispatchEach env pulls u := by
  rw [dispatchEach, bind_apply, pulled]
  simp only
  rw [bind_apply, dispatched]

theorem dispatchEach_of_error {error : DispatchError} (pulled : pull w = (some event, v))
    (dispatched : env.dispatch event v = (.error error, u)) :
    dispatchEach env (pull :: pulls) w = ((), u) := by
  rw [dispatchEach, bind_apply, pulled]
  simp only
  rw [bind_apply, dispatched]
  rfl

end Pulling

/-- With room for one more dispatch there is room for each in turn. -/
theorem delivers_of_room (recorded : ∀ pull ∈ pulls, st.Recorded pull)
    (room : w.active < st.machine.limits.dispatchDepth) :
    ∃ delivered, st.Delivers pulls w delivered
      (dispatchEach (st.surroundings st.dispatch) pulls w).2 := by
  induction pulls generalizing w with
  | nil => exact ⟨[], .done w⟩
  | cons pull pulls ih =>
    obtain ⟨here, later⟩ := List.forall_mem_cons.mp recorded
    have kept := here.active w
    cases pulled : pull w with
    | mk found v =>
      rw [pulled] at kept
      cases found with
      | none =>
        rw [dispatchEach_of_none pulled]
        exact ⟨[], .ended pulls pulled⟩
      | some event =>
        have inside : v.active < st.machine.limits.dispatchDepth := kept ▸ room
        obtain ⟨outcome, answer, completes⟩ := st.dispatch_of_room_records event inside
        have still : (st.dispatch event v).2.active < st.machine.limits.dispatchDepth := by
          rwa [dispatch_active]
        obtain ⟨delivered, rest⟩ := ih later still
        have dispatched : st.dispatch event v = (.ok outcome, (st.dispatch event v).2) :=
          Prod.ext answer rfl
        refine ⟨(event, outcome) :: delivered, .next pulled dispatched completes ?_⟩
        rwa [dispatchEach_of_ok pulled dispatched]

theorem refuses_of_full (begins : Begins pulls w) (recorded : ∀ pull ∈ pulls, st.Recorded pull)
    (full : st.machine.limits.dispatchDepth ≤ w.active) :
    st.Refuses pulls w (dispatchEach (st.surroundings st.dispatch) pulls w).2 := by
  obtain ⟨pull, rest, event, rfl, first⟩ := begins
  have pulled : pull w = (some event, (pull w).2) := Prod.ext first rfl
  have inside : st.machine.limits.dispatchDepth ≤ (pull w).2.active := by
    rwa [(recorded pull (.head _)).active]
  have refused : st.dispatch event (pull w).2 = _ := st.dispatch_of_full inside
  rw [dispatchEach_of_error pulled refused]
  exact .first rest pulled refused

theorem delivers_of_none (none : ¬Begins pulls w) :
    st.Delivers pulls w [] (dispatchEach (st.surroundings st.dispatch) pulls w).2 := by
  cases pulls with
  | nil => exact .done w
  | cons pull rest =>
    have nothing : (pull w).1 = Option.none := by
      rw [Option.eq_none_iff_forall_ne_some]
      exact fun event first => none ⟨pull, rest, event, rfl, first⟩
    have pulled : pull w = (Option.none, (pull w).2) := Prod.ext nothing rfl
    rw [dispatchEach_of_none pulled]
    exact .ended rest pulled

theorem Delivers.room {delivered : List (Value × Dispatched)} (h : st.Delivers pulls w delivered u)
    (begins : Begins pulls w) (recorded : ∀ pull ∈ pulls, st.Recorded pull) :
    w.active < st.machine.limits.dispatchDepth := by
  obtain ⟨pull, rest, event, rfl, first⟩ := begins
  cases h with
  | ended _ pulled =>
    rw [pulled] at first
    cases first
  | @next _ _ _ v _ _ event _ _ pulled dispatched =>
    have active : v.active = w.active := by
      have kept := (recorded pull (.head _)).active w
      rwa [pulled] at kept
    refine Nat.lt_of_not_le fun full => ?_
    rw [← active] at full
    rw [st.dispatch_of_full full] at dispatched
    cases dispatched

theorem Refuses.full (h : st.Refuses pulls w u) (recorded : ∀ pull ∈ pulls, st.Recorded pull) :
    st.machine.limits.dispatchDepth ≤ w.active := by
  obtain @⟨pull, _, v, event, rest, pulled, refused⟩ := h
  have kept := (recorded pull (.head _)).active w
  rw [pulled] at kept
  exact kept ▸ st.full_of_error (congrArg Prod.fst refused)

theorem action_records (st : Store σ) (a : Action) (scope : Scope) (w : World σ) :
    ∃ h, w.Between (a.run (st.surroundings st.dispatch) scope w).2 h ∧
      Happens st.machine.limits.dispatchDepth w.toStanding h :=
  (Action.run_same st.surroundings_records a scope w (Nat.zero_le _)).2.2

/-- An action that is taken at full depth moves nothing by a dispatch. -/
theorem action_of_full (a : Action) (scope : Scope)
    (full : w.active = st.machine.limits.dispatchDepth) :
    ∃ h, w.Between (a.run (st.surroundings st.dispatch) scope w).2 h ∧
      (∀ x ∈ h, x.isOutside) ∧
      (a.run (st.surroundings st.dispatch) scope w).2.state = w.state ∧
      ((∀ x ∈ h, x.isSubscription = false) →
        (a.run (st.surroundings st.dispatch) scope w).2.subscribers = w.subscribers) := by
  obtain ⟨h, between, happens⟩ := st.action_records a scope w
  have outside := happens.outside (Nat.le_of_eq full.symm)
  rw [between.standing]
  exact ⟨h, between, outside, Standing.state_outside outside, Standing.subscribers_replay⟩

/-- Exec effects are lazy and ordered, and either all their events are dispatched or none. -/
theorem execsWhole (st : Store σ) : st.ExecsWhole where
  nested := st.dispatch_eq
  executes f scope w bound := by
    obtain ⟨pulls, v, gives, recorded, ⟨called, between, happens⟩, run⟩ := st.exec_run f scope w
    have active : v.active = w.active := by
      rw [between.standing, happens.active_eq]
    have whole : w.active < st.machine.limits.dispatchDepth →
        ∃ delivered, st.Delivers pulls v delivered
          (dispatchEach (st.surroundings st.dispatch) pulls v).2 :=
      fun room => delivers_of_room recorded (active ▸ room)
    refine ⟨pulls, v, gives, ?_⟩
    rw [run]
    refine ⟨?_, delivers_of_none, fun begins => ⟨?_, whole⟩, fun begins => ⟨?_, ?_⟩,
      run ▸ action_of_full (.exec f) scope⟩
    · rintro rfl
      rfl
    · rintro ⟨delivered, delivers⟩
      exact active ▸ delivers.room begins recorded
    · exact fun refuses => Nat.le_antisymm bound (active ▸ refuses.full recorded)
    · intro full
      exact refuses_of_full begins recorded (active ▸ Nat.le_of_eq full.symm)

end Store

end Executing

/-! ## A function that subscribes -/

section Feeding

attribute [local instance] Regex.Engine.literal

namespace Store

namespace Feeding

def feed : HostFn := ⟨0, "feed"⟩

/-- The one rule executes `feed` on every event. The function subscribes and gives two events. -/
def store (limit : Nat) : Store Unit where
  machine :=
    { start := .const .null
      rules := [⟨.event .wildcard, .only [.exec feed]⟩]
      extensions := []
      states := []
      actions := []
      limits := { dispatchDepth := limit } }
  host :=
    { behaviour := fun _ => .events fun _ => .subscribe 0 fun _ =>
        .done [.done (some (.bool true)), .done (some (.bool false))]
      callback := fun _ => .done () }

/-- The world in which the effect of a first dispatch is taken. -/
def begun (limit : Nat) : World Unit :=
  (((store limit).boot () 0).after (.entered .null)).after (.fired 0 .null .null none)

/-- The world in which it has been taken. -/
def executed (limit : Nat) : World Unit :=
  ((Action.exec feed).run ((store limit).surroundings (store limit).dispatch) .empty
    (begun limit)).2

theorem begins {limit : Nat} {pulls : List (Run Unit (Option Value))} {v : World Unit}
    (gives : (store limit).Gives feed .empty (begun limit) pulls v) : Begins pulls v := by
  cases gives with
  | list behaviour | value behaviour | deferred behaviour => cases behaviour
  | events behaviour ran =>
    cases behaviour
    cases ran
    exact ⟨_, _, .bool true, rfl, rfl⟩

end Feeding

open Feeding

/-- With room for one more dispatch both events are dispatched, and without it none is. -/
theorem execsWhole_feed :
    (∃ pulls v delivered, (store 2).Gives feed .empty (begun 2) pulls v ∧
      (store 2).Delivers pulls v delivered (executed 2)) ∧
    ∃ pulls v, (store 1).Gives feed .empty (begun 1) pulls v ∧
      (store 1).Refuses pulls v (executed 1) := by
  constructor
  · obtain ⟨pulls, v, gives, executes⟩ := (execsWhole (store 2)).executes feed .empty
      (w := begun 2) (by decide)
    obtain ⟨delivered, delivers⟩ := (executes.delivers_iff (begins gives)).mpr (by decide)
    exact ⟨pulls, v, delivered, gives, delivers⟩
  · obtain ⟨pulls, v, gives, executes⟩ := (execsWhole (store 1)).executes feed .empty
      (w := begun 1) (by decide)
    exact ⟨pulls, v, gives, (executes.refuses_iff (begins gives)).mpr rfl⟩

/-- At full depth the function still subscribes when it is called, in a whole dispatch too. -/
theorem exec_subscribes_full :
    (begun 1).active = (store 1).machine.limits.dispatchDepth ∧
    (executed 1).subscribers ≠ (begun 1).subscribers ∧
    ((store 1).dispatch .null ((store 1).boot () 0)).2.history =
      [.entered .null, .fired 0 .null .null none, .called feed .empty, .subscribed ⟨0, 0⟩,
        .refused (.bool true), .notified ⟨0, 0⟩, .returned (.matched 0 false)] :=
  ⟨rfl, nofun, rfl⟩

end Store

end Feeding

end RuleMachine
