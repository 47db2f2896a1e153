import Mathlib.Data.List.Nodup
import RuleMachine.Proofs.Moments

/-!
# Subscribers

Subscribers stand in the order in which they were registered, so none stands there twice. From the
grammar of happenings follows how often a subscriber is notified that is never removed: as often as
dispatches end.
-/

namespace RuleMachine

variable {limit : Nat}

/-- Subscribers stand in the order of their numbers, and the next number is above them all. -/
structure Standing.Ordered (s : Standing) : Prop where
  increasing : s.subscribers.Pairwise (·.id < ·.id)
  below : ∀ x ∈ s.subscribers, x.id < s.nextSubscriber

namespace Standing

theorem Ordered.after {s : Standing} {before : List Happening} {x : Happening}
    (hs : (s.replay before).Ordered) (allowed : x.Allowed limit s before) :
    ((s.replay before).after x).Ordered := by
  cases x with
  | subscribed y =>
    have number : y.id = (s.replay before).nextSubscriber := allowed
    constructor
    · refine List.pairwise_append.mpr ⟨hs.increasing, List.pairwise_singleton _ _, ?_⟩
      intro z hz y' hy'
      have := hs.below z hz
      rw [List.mem_singleton.mp hy', number]
      exact this
    · intro z hz
      simp only [Standing.after, List.mem_append, List.mem_singleton] at hz ⊢
      rcases hz with hz | rfl
      · exact Nat.lt_succ_of_lt (hs.below z hz)
      · omega
  | unsubscribed n =>
    exact ⟨hs.increasing.filter _, fun z hz => hs.below z (List.mem_filter.mp hz).1⟩
  | called | refused | entered | fired | notified | returned | enteredElsewhere
  | returnedElsewhere => exact ⟨hs.increasing, hs.below⟩

theorem Ordered.along {s : Standing} {before h : List Happening}
    (hs : (s.replay before).Ordered) (all : Along (Happening.Allowed limit s) before h) :
    (s.replay (before ++ h)).Ordered := by
  induction h generalizing before with
  | nil => rwa [List.append_nil]
  | cons x h ih =>
    rw [← List.singleton_append, ← List.append_assoc]
    apply ih _ all.2
    rw [replay_append]
    exact hs.after all.1

theorem Ordered.replay {s : Standing} {h : List Happening} (hs : s.Ordered)
    (happens : Happens limit s h) : (s.replay h).Ordered := by
  have start : (s.replay []).Ordered := hs
  exact start.along (happens.along rfl)

/-- A subscriber that is not removed stays. -/
theorem mem_replay {s : Standing} {h : List Happening} {x : Subscriber} (hx : x ∈ s.subscribers)
    (kept : .unsubscribed x.id ∉ h) : x ∈ (s.replay h).subscribers := by
  induction h generalizing s with
  | nil => exact hx
  | cons y h ih =>
    obtain ⟨first, rest⟩ := not_or.mp (mt List.mem_cons.mpr kept)
    apply ih _ rest
    cases y with
    | subscribed z => exact List.mem_append_left _ hx
    | unsubscribed n =>
      have other : x.id ≠ n := fun same => first (same ▸ rfl)
      exact List.mem_filter.mpr ⟨hx, by simpa using other⟩
    | called | refused | entered | fired | notified | returned | enteredElsewhere
    | returnedElsewhere => exact hx

theorem Ordered.count_eq_one {s : Standing} (hs : s.Ordered) {x : Subscriber}
    (hx : x ∈ s.subscribers) : s.subscribers.count x = 1 := by
  have distinct : s.subscribers.Nodup := by
    refine hs.increasing.imp ?_
    intro y z lt same
    exact Nat.lt_irrefl z.id (same ▸ lt)
  exact List.count_eq_one_of_mem distinct hx

end Standing

/-- The callback of the subscriber is about to run. -/
def Happening.notifies (x : Subscriber) : Happening → Bool
  | notified y => y = x
  | _ => false

/-- How often a subscriber is notified. -/
def notifications (x : Subscriber) (h : List Happening) : Nat := h.countP (·.notifies x)

theorem notifications_append (x : Subscriber) (h h' : List Happening) :
    notifications x (h ++ h') = notifications x h + notifications x h' := List.countP_append

section Counting

variable {x : Subscriber}

mutual

theorem Occurs.notifications_eq : ∀ {s : Standing} {h : List Happening}, Occurs limit s h →
    s.Ordered → x ∈ s.subscribers → .unsubscribed x.id ∉ h → notifications x h = endings h
  | _, _, .free hx, _, _, _ => by cases hx <;> rfl
  | _, _, .refused _ _, _, _, _ => rfl
  | _, _, .elsewhere (h := h) _ happens, hs, hx, kept => by
    have keptInside : .unsubscribed x.id ∉ h := fun mem =>
      kept (List.mem_append_left _ (List.mem_cons_of_mem _ mem))
    have inside := happens.notifications_eq ⟨hs.increasing, hs.below⟩ hx keptInside
    rw [List.cons_append, ← List.singleton_append, notifications_append, endings_append,
      notifications_append, endings_append, inside]
    rfl
  | _, _, @Occurs.dispatched _ s body outcome pass event room fires notifies, hs, hx, kept => by
    simp only [List.cons_append, List.append_assoc, List.mem_cons, List.mem_append, not_or] at kept
    obtain ⟨-, keptBody, keptPass, -⟩ := kept
    have inside := fires.notifications_eq ⟨hs.increasing, hs.below⟩ hx keptBody
    have begun : (s.replay [.entered event]).Ordered := ⟨hs.increasing, hs.below⟩
    have lawful : Along (Happening.Allowed limit s) ([] ++ [.entered event]) body :=
      fires.along rfl
    have ordered : ((s.after (.entered event)).replay body).Ordered := begun.along lawful
    have member : x ∈ ((s.after (.entered event)).replay body).subscribers :=
      Standing.mem_replay hx keptBody
    have passed := notifies.notifications_eq ordered member keptPass
    have once := ordered.count_eq_one member
    have entered : notifications x [.entered event] = 0 ∧ endings [.entered event] = 0 :=
      ⟨rfl, rfl⟩
    have returned : notifications x [.returned outcome] = 0 ∧ endings [.returned outcome] = 1 :=
      ⟨rfl, rfl⟩
    rw [← List.singleton_append, List.append_assoc]
    simp only [notifications_append, endings_append]
    omega

theorem Happens.notifications_eq : ∀ {s : Standing} {h : List Happening}, Happens limit s h →
    s.Ordered → x ∈ s.subscribers → .unsubscribed x.id ∉ h → notifications x h = endings h
  | _, _, .nothing, _, _, _ => rfl
  | _, _, .next first rest, hs, hx, kept => by
    obtain ⟨keptFirst, keptRest⟩ := not_or.mp (mt List.mem_append.mpr kept)
    have ordered := hs.replay first.happens
    have member := Standing.mem_replay hx keptFirst
    rw [notifications_append, endings_append, first.notifications_eq hs hx keptFirst,
      rest.notifications_eq ordered member keptRest]

theorem Fires.notifications_eq : ∀ {s : Standing} {h : List Happening} {outcome : Dispatched},
    Fires limit s h outcome →
    s.Ordered → x ∈ s.subscribers → .unsubscribed x.id ∉ h → notifications x h = endings h
  | _, _, _, .unmatched scan, hs, hx, kept => scan.notifications_eq hs hx kept
  | _, _, _, @Fires.matched _ s scan actions rule next tried taken, hs, hx, kept => by
    simp only [List.mem_append, List.mem_cons, not_or] at kept
    obtain ⟨keptScan, -, keptActions⟩ := kept
    have ordered := hs.replay tried
    have member := Standing.mem_replay hx keptScan
    have fired := taken.notifications_eq ⟨ordered.increasing, ordered.below⟩ member keptActions
    rw [notifications_append, endings_append, tried.notifications_eq hs hx keptScan]
    exact congrArg (endings scan + ·) fired

theorem Notifies.notifications_eq : ∀ {due : List Subscriber} {s : Standing} {h : List Happening},
    Notifies limit due s h → s.Ordered → x ∈ s.subscribers → .unsubscribed x.id ∉ h →
    notifications x h = due.count x + endings h
  | _, _, _, .done, _, _, _ => rfl
  | _, _, _, @Notifies.notify _ s h pass due y called rest, hs, hx, kept => by
    simp only [List.cons_append, List.mem_cons, List.mem_append, not_or] at kept
    obtain ⟨-, keptCall, keptRest⟩ := kept
    have ordered := hs.replay called
    have member := Standing.mem_replay hx keptCall
    have first := called.notifications_eq hs hx keptCall
    have others := rest.notifications_eq ordered member keptRest
    have head : notifications x [.notified y] = [y].count x ∧ endings [.notified y] = 0 := by
      simp [notifications, endings, Happening.notifies, Happening.isReturned,
        List.count_singleton]
    rw [← List.singleton_append, List.append_assoc, ← List.singleton_append (l := due),
      List.count_append]
    simp only [notifications_append, endings_append]
    omega

end

end Counting

end RuleMachine
