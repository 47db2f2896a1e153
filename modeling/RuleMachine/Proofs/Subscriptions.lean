import RuleMachine.Proofs.Notification

/-!
# Subscriptions

Subscriptions are numbered from zero in the order in which they are made, so no number is used twice
(`registrations_ids`). The subscribers of a store are always some of those registered, in that order
(`Standing.subscribers_sublist`): a subscriber is there as long as its own subscription has not been
ended (`Standing.mem_subscribers_iff`). So a subscription that is ended takes its own subscriber out
and no other, whenever that is and however often (`Numbered.subscribers_unsubscribed`).
-/

namespace RuleMachine

/-- The subscriber that is registered. -/
def Happening.registered? : Happening → Option Subscriber
  | subscribed x => some x
  | _ => none

/-- All subscribers registered, in order. -/
def registrations (h : List Happening) : List Subscriber := h.filterMap (·.registered?)

theorem registrations_append (h h' : List Happening) :
    registrations (h ++ h') = registrations h ++ registrations h' := List.filterMap_append

theorem mem_registrations {x : Subscriber} {h : List Happening} :
    x ∈ registrations h ↔ .subscribed x ∈ h := by
  rw [registrations, List.mem_filterMap]
  constructor
  · rintro ⟨y, mem, made⟩
    cases y <;> cases made
    exact mem
  · exact fun mem => ⟨_, mem, rfl⟩

/-- The registrations are numbered from zero. -/
def Numbered (h : List Happening) : Prop :=
  (registrations h).map (·.id) = List.range (registrations h).length

namespace Numbered

variable {before later h : List Happening} {x y : Subscriber}

theorem of_prefix (numbered : Numbered h) (front : before <+: h) : Numbered before := by
  obtain ⟨later, rfl⟩ := front
  rw [Numbered, registrations_append, List.map_append, List.length_append,
    List.range_add] at numbered
  exact (List.append_inj numbered (by simp)).1

theorem id_eq (numbered : Numbered (before ++ .subscribed x :: later)) :
    x.id = (registrations before).length := by
  have split : registrations (before ++ .subscribed x :: later) =
      registrations before ++ x :: registrations later := registrations_append _ _
  have here := congrArg (·[(registrations before).length]?) numbered
  rw [split] at here
  simpa using here

theorem increasing (numbered : Numbered h) : (registrations h).Pairwise (·.id < ·.id) := by
  rw [← List.pairwise_map, numbered]
  exact List.pairwise_lt_range

theorem lt (numbered : Numbered h) (mem : x ∈ registrations h) :
    x.id < (registrations h).length := by
  have inside : x.id ∈ List.range (registrations h).length := numbered ▸ List.mem_map_of_mem mem
  exact List.mem_range.mp inside

/-- A number belongs to one subscriber only. -/
theorem eq_of_id (numbered : Numbered h) (hx : x ∈ registrations h) (hy : y ∈ registrations h)
    (same : x.id = y.id) : x = y := by
  have distinct : ((registrations h).map (·.id)).Nodup := numbered ▸ List.nodup_range
  exact List.inj_on_of_nodup_map distinct hx hy same

end Numbered

/-- The subscriber has been registered, and its subscription has not been ended since. -/
def Lasting (x : Subscriber) (h : List Happening) : Prop :=
  ∃ before later, h = before ++ .subscribed x :: later ∧ .unsubscribed x.id ∉ later

theorem lasting_cons {x : Subscriber} {y : Happening} {h : List Happening} :
    Lasting x (y :: h) ↔ y = .subscribed x ∧ .unsubscribed x.id ∉ h ∨ Lasting x h := by
  constructor
  · rintro ⟨before, later, split, kept⟩
    rcases List.cons_eq_append_iff.mp split with ⟨rfl, here⟩ | ⟨before, rfl, rfl⟩
    · cases here
      exact .inl ⟨rfl, kept⟩
    · exact .inr ⟨before, later, rfl, kept⟩
  · rintro (⟨rfl, kept⟩ | ⟨before, later, rfl, kept⟩)
    · exact ⟨[], h, rfl, kept⟩
    · exact ⟨y :: before, later, rfl, kept⟩

namespace Standing

theorem nextSubscriber_replay (s : Standing) (h : List Happening) :
    (s.replay h).nextSubscriber = s.nextSubscriber + (registrations h).length := by
  induction h generalizing s with
  | nil => rfl
  | cons y h ih =>
    rw [replay_cons, ih]
    cases y with
    | subscribed x =>
      simp only [after, registrations, List.filterMap_cons, Happening.registered?, List.length_cons]
      omega
    | unsubscribed | called | refused | entered | fired | notified | returned
    | enteredElsewhere | returnedElsewhere => rfl

/-- Whoever is there has been registered, in the same order. -/
theorem subscribers_sublist (s : Standing) (h : List Happening) :
    (s.replay h).subscribers.Sublist (s.subscribers ++ registrations h) := by
  induction h generalizing s with
  | nil => simp [registrations]
  | cons y h ih =>
    cases y with
    | subscribed x =>
      have rest := ih (s.after (.subscribed x))
      rwa [after, List.append_assoc] at rest
    | unsubscribed n =>
      exact (ih (s.after (.unsubscribed n))).trans (List.filter_sublist.append_right _)
    | called | refused | entered | fired | notified | returned | enteredElsewhere
    | returnedElsewhere => exact ih _

/-- A subscriber is there if it was there before or has been registered, and its subscription has
not been ended since. -/
theorem mem_subscribers_replay (s : Standing) (h : List Happening) (x : Subscriber) :
    x ∈ (s.replay h).subscribers ↔ x ∈ s.subscribers ∧ .unsubscribed x.id ∉ h ∨ Lasting x h := by
  induction h generalizing s with
  | nil => simp [Lasting]
  | cons y h ih =>
    rw [replay_cons, ih, lasting_cons]
    cases y with
    | subscribed z =>
      simp only [after, List.mem_append, List.mem_cons, reduceCtorEq, false_or,
        Happening.subscribed.injEq]
      grind
    | unsubscribed n =>
      simp only [after, List.mem_filter, decide_eq_true_eq, List.mem_cons, reduceCtorEq, false_and,
        false_or, Happening.unsubscribed.injEq, not_or, and_assoc]
    | called | refused | entered | fired | notified | returned | enteredElsewhere
    | returnedElsewhere => simp [after]

theorem mem_subscribers_iff {s : Standing} (none : s.subscribers = []) (h : List Happening)
    (x : Subscriber) : x ∈ (s.replay h).subscribers ↔ Lasting x h := by
  simp [mem_subscribers_replay, none]

theorem subscribers_replay_congr {s s' : Standing} (same : s.subscribers = s'.subscribers)
    (h : List Happening) : (s.replay h).subscribers = (s'.replay h).subscribers := by
  induction h generalizing s s' with
  | nil => exact same
  | cons y h ih =>
    apply ih
    cases y with
    | subscribed | unsubscribed => simp only [after, same]
    | called | refused | entered | fired | notified | returned | enteredElsewhere
    | returnedElsewhere => exact same

/-- Where no subscriber has the number, nothing changes. -/
theorem after_unsubscribed_eq {s : Standing} {n : Nat} (none : ∀ x ∈ s.subscribers, x.id ≠ n) :
    s.after (.unsubscribed n) = s := by
  have kept : s.subscribers.filter (·.id ≠ n) = s.subscribers :=
    List.filter_eq_self.mpr fun x mem => decide_eq_true (none x mem)
  rw [after, kept]

end Standing

/-! ## Accounts of worlds -/

/-- The numbers of registrations go on where they stood. -/
theorem registrations_ids {limit : Nat} {s : Standing} {before h : List Happening}
    (all : Along (Happening.Allowed limit s) before h) :
    (registrations h).map (·.id) =
      List.range' (s.replay before).nextSubscriber (registrations h).length := by
  induction h generalizing before with
  | nil => rfl
  | cons y h ih =>
    obtain ⟨here, rest⟩ := all
    have later := ih rest
    rw [Standing.replay_append] at later
    cases y with
    | subscribed x =>
      have number : x.id = (s.replay before).nextSubscriber := here
      have both : registrations (.subscribed x :: h) = x :: registrations h := rfl
      rw [both, List.map_cons, List.length_cons, List.range'_succ, number, later]
      rfl
    | unsubscribed | called | refused | entered | fired | notified | returned
    | enteredElsewhere | returnedElsewhere => exact later

namespace World

variable [Regex.Engine] {σ : Type} {w u : World σ}

/-- The subscribers of the world are those that its journal tells of, in which registrations are
numbered from zero. -/
structure Accounted (w : World σ) : Prop where
  subscribers : w.subscribers = (Store.blank.replay w.history).subscribers
  next : w.nextSubscriber = (registrations w.history).length
  numbered : Numbered w.history

theorem Accounted.happens {limit : Nat} {h : List Happening} (accounted : w.Accounted)
    (between : w.Between u h) (happens : Happens limit w.toStanding h) : u.Accounted where
  subscribers := by
    rw [between.standing, between.history, Standing.replay_append]
    exact Standing.subscribers_replay_congr accounted.subscribers h
  next := by
    rw [between.standing, Standing.nextSubscriber_replay, accounted.next, between.history,
      registrations_append, List.length_append]
  numbered := by
    have all : Along (Happening.Allowed limit w.toStanding) [] h := happens.along rfl
    have ids := registrations_ids all
    rw [Standing.replay_nil, accounted.next] at ids
    rw [Numbered, between.history, registrations_append, List.map_append, ids, accounted.numbered,
      List.length_append, List.range_add, List.range'_eq_map_range]

end World

/-! ## What subscriptions come to -/

namespace Numbered

variable {h : List Happening} {x : Subscriber}

theorem mem_of_subscriber (mem : x ∈ (Store.blank.replay h).subscribers) : x ∈ registrations h :=
  (Standing.subscribers_sublist Store.blank h).subset mem

theorem ordered (numbered : Numbered h) : (Store.blank.replay h).Ordered where
  increasing := numbered.increasing.sublist (Standing.subscribers_sublist Store.blank h)
  below x mem := by
    rw [Standing.nextSubscriber_replay]
    exact Nat.lt_of_lt_of_eq (numbered.lt (mem_of_subscriber mem)) (Nat.zero_add _).symm

/-- Ending a subscription takes out the subscriber that it registered, and nobody else. -/
theorem subscribers_unsubscribed (numbered : Numbered h) (made : .subscribed x ∈ h) :
    (Store.blank.replay h).subscribers.filter (·.id ≠ x.id) =
      (Store.blank.replay h).subscribers.erase x := by
  have distinct : (Store.blank.replay h).subscribers.Nodup := by
    refine numbered.ordered.increasing.imp ?_
    intro y z lt same
    exact Nat.lt_irrefl z.id (same ▸ lt)
  rw [distinct.erase_eq_filter]
  refine List.filter_congr fun y mem => ?_
  by_cases same : y = x
  · simp [same]
  · have other : y.id ≠ x.id := fun id =>
      same (numbered.eq_of_id (mem_of_subscriber mem) (mem_registrations.mpr made) id)
    simp [same, other]

/-- Nobody is registered twice. -/
theorem notMem {before later : List Happening}
    (numbered : Numbered (before ++ .subscribed x :: later)) :
    .subscribed x ∉ before ∧ .subscribed x ∉ later := by
  have split : registrations (before ++ .subscribed x :: later) =
      registrations before ++ x :: registrations later := registrations_append _ _
  have increasing := numbered.increasing
  rw [split] at increasing
  obtain ⟨-, after, across⟩ := List.pairwise_append.mp increasing
  rw [← mem_registrations, ← mem_registrations]
  constructor
  · intro mem
    exact Nat.lt_irrefl _ (across x mem x (.head _))
  · intro mem
    exact Nat.lt_irrefl _ ((List.pairwise_cons.mp after).1 x mem)

/-- Once its subscription has been ended, a subscriber does not come back. -/
theorem gone {before later : List Happening}
    (numbered : Numbered (before ++ .subscribed x :: later))
    (ended : .unsubscribed x.id ∈ later) :
    x ∉ (Store.blank.replay (before ++ .subscribed x :: later)).subscribers := by
  rw [Standing.mem_subscribers_iff rfl]
  rintro ⟨before', later', split, kept⟩
  obtain ⟨notBefore, notLater⟩ := numbered.notMem
  obtain ⟨-, -, rfl⟩ := (List.append_cons_inj_of_notMem notBefore notLater).mp split
  exact kept ended

end Numbered

namespace Store

section Reaching

variable [Regex.Engine] {σ : Type} {st : Store σ} {w u : World σ}

theorem boot_accounted (memory : σ) (n : Nat) : (st.boot memory n).Accounted := by
  obtain ⟨-, -, h, between, happens⟩ := @start_same _ σ st
    (Course.recorded σ st.machine.limits.dispatchDepth 0)
    { toStanding := blank, nextAllocation := n, memory } (Nat.zero_le _)
  have empty : World.Accounted { toStanding := blank, nextAllocation := n, memory } :=
    ⟨rfl, rfl, rfl⟩
  obtain ⟨subscribers, next, numbered⟩ := empty.happens between happens
  exact ⟨subscribers, next, numbered⟩

theorem Reachable.accounted (hw : st.Reachable w) : w.Accounted := by
  obtain ⟨memory, n, run⟩ := hw
  obtain ⟨h, between, happens⟩ := run.records
  exact (boot_accounted memory n).happens between happens

/-- What it means that a store keeps its subscribers in order, and that a subscription ends itself
only. -/
structure KeepsSubscribers (st : Store σ) : Prop where
  /-- A dispatch that is nested in another is the same dispatch, made in another world. -/
  nested (event : Value) : st.dispatch event = st.dispatchOnce st.dispatch event
  /-- The journal accounts for the subscribers in every world that is reached. -/
  reached {w : World σ} : st.Reachable w → w.Accounted
  /-- Within a dispatch the journal goes on accounting for them, whatever host code does. -/
  kept {w : World σ} {α : Type} (script : Script σ α) :
    w.Accounted → (st.runWith st.dispatch script w).2.Accounted
  /-- At every moment the numbers increase and the next one is above them all. It counts the
  registrations so far. -/
  ordered {w : World σ} {before : List Happening} : w.Accounted → before <+: w.history →
    (blank.replay before).Ordered ∧
      (blank.replay before).nextSubscriber = (registrations before).length
  /-- A registration takes the next number, which nobody has had, and adds one subscriber. -/
  subscribed {w : World σ} {before : List Happening} {x : Subscriber} : w.Accounted →
    before ++ [.subscribed x] <+: w.history →
    x.id = (blank.replay before).nextSubscriber ∧ (∀ y ∈ registrations before, y.id < x.id) ∧
      (blank.replay (before ++ [.subscribed x])).subscribers =
        (blank.replay before).subscribers ++ [x]
  /-- A subscriber is there as long as its own subscription has not been ended. -/
  present (h : List Happening) (x : Subscriber) :
    x ∈ (blank.replay h).subscribers ↔ Lasting x h
  /-- The end of a subscription takes out its own subscriber, if it is still there, and nobody
  else. -/
  unsubscribed {w : World σ} {before : List Happening} {x : Subscriber} : w.Accounted →
    .subscribed x ∈ before → before ++ [.unsubscribed x.id] <+: w.history →
    (blank.replay (before ++ [.unsubscribed x.id])).subscribers =
      (blank.replay before).subscribers.erase x
  /-- Ending it again changes nothing. -/
  again {w : World σ} {before between : List Happening} {x : Subscriber} : w.Accounted →
    before ++ .subscribed x :: between ++ [.unsubscribed x.id] <+: w.history →
    .unsubscribed x.id ∈ between →
    blank.replay (before ++ .subscribed x :: between ++ [.unsubscribed x.id]) =
      blank.replay (before ++ .subscribed x :: between)
  /-- A dispatch notifies the subscribers of the moment in which its pass begins, also those whose
  subscriptions end during the pass. -/
  passes {event : Value} {w : World σ} {outcome : Dispatched} :
    (st.dispatch event w).1 = .ok outcome →
    w.Completes st.machine.limits.dispatchDepth event outcome (st.dispatch event w).2
  /-- Host code that subscribes gets the number, and nothing else in the world changes. -/
  subscribe (callback : Nat) (w : World σ) : World.subscribe callback w =
    (w.nextSubscriber,
      { w with
        subscribers := w.subscribers ++ [⟨w.nextSubscriber, callback⟩]
        nextSubscriber := w.nextSubscriber + 1
        journal := w.journal.push (.subscribed ⟨w.nextSubscriber, callback⟩) })
  /-- Whoever holds a subscription and ends it takes out its subscriber, and nothing else in the
  world changes. -/
  ends {w : World σ} {x : Subscriber} (s : Subscription) : w.Accounted →
    .subscribed x ∈ w.history → s.id = x.id →
    s.unsubscribe (some w) = some
      { w with
        subscribers := w.subscribers.erase x
        journal := w.journal.push (.unsubscribed x.id) }
  /-- After the store is gone there is nothing to end. -/
  gone (s : Subscription) : s.unsubscribe (none : Option (World σ)) = none

theorem keepsSubscribers (st : Store σ) : st.KeepsSubscribers where
  nested := st.dispatch_eq
  reached hw := hw.accounted
  kept {w α} script accounted := by
    obtain ⟨-, -, h, between, happens⟩ := st.run_records script w (Nat.zero_le _)
    exact accounted.happens between happens
  ordered accounted front :=
    ⟨(accounted.numbered.of_prefix front).ordered,
      (Standing.nextSubscriber_replay _ _).trans (Nat.zero_add _)⟩
  subscribed {w before x} accounted front := by
    have numbered := accounted.numbered.of_prefix front
    have id := numbered.id_eq
    refine ⟨?_, fun y mem => ?_, ?_⟩
    · rw [id, Standing.nextSubscriber_replay]
      exact (Nat.zero_add _).symm
    · rw [id]
      exact (numbered.of_prefix (List.prefix_append _ _)).lt mem
    · rw [Standing.replay_append]
      rfl
  present := Standing.mem_subscribers_iff rfl
  unsubscribed {w before x} accounted made front := by
    have numbered := accounted.numbered.of_prefix ((List.prefix_append _ _).trans front)
    rw [Standing.replay_append, ← numbered.subscribers_unsubscribed made]
    rfl
  again {w before between x} accounted front ended := by
    have numbered := accounted.numbered.of_prefix ((List.prefix_append _ _).trans front)
    rw [Standing.replay_append]
    refine Standing.after_unsubscribed_eq fun y mem same => numbered.gone ended ?_
    have registered : x ∈ registrations (before ++ .subscribed x :: between) :=
      mem_registrations.mpr (List.mem_append_right before (.head between))
    exact numbered.eq_of_id (Numbered.mem_of_subscriber mem) registered same ▸ mem
  passes := st.completes_of_ok
  subscribe _ _ := rfl
  ends {w x} s accounted made same := by
    have taken := accounted.numbered.subscribers_unsubscribed made
    rw [← accounted.subscribers, ← same] at taken
    change some (w.after (.unsubscribed s.id)) = _
    rw [World.after, Standing.after, taken, same]
  gone _ := rfl

end Reaching

section Relay

attribute [local instance] Regex.Engine.literal

/-- The world after a subscription is ended, another one is made, and the first is ended again. -/
def Relay.renewed : World Unit :=
  (store.run (.subscribe 1 fun n => .unsubscribe n (.subscribe 1 fun _ =>
    .unsubscribe n (.done ()))) (store.boot () 0)).2

/-- A subscription that was ended before does not end a later one. -/
theorem keepsSubscribers_relay :
    Relay.renewed.Accounted ∧
      blank.replay [.subscribed ⟨0, 1⟩, .unsubscribed 0, .subscribed ⟨1, 1⟩, .unsubscribed 0] =
        blank.replay [.subscribed ⟨0, 1⟩, .unsubscribed 0, .subscribed ⟨1, 1⟩] ∧
      Relay.renewed.subscribers = [⟨1, 1⟩] ∧
      (Subscription.mk 1).unsubscribe (some Relay.renewed) = some
        { Relay.renewed with
          subscribers := []
          journal := Relay.renewed.journal.push (.unsubscribed 1) } := by
  have keeps := keepsSubscribers Relay.store
  have accounted : Relay.renewed.Accounted := keeps.kept _ (keeps.reached ⟨(), 0, .refl _⟩)
  have again : blank.replay ([] ++ .subscribed ⟨0, 1⟩ :: [.unsubscribed 0, .subscribed ⟨1, 1⟩] ++
        [.unsubscribed 0]) =
      blank.replay ([] ++ .subscribed ⟨0, 1⟩ :: [.unsubscribed 0, .subscribed ⟨1, 1⟩]) :=
    keeps.again accounted List.prefix_rfl (.head _)
  have made : .subscribed ⟨1, 1⟩ ∈ Relay.renewed.history := .tail _ (.tail _ (.head _))
  exact ⟨accounted, again, rfl, keeps.ends ⟨1⟩ accounted made rfl⟩

end Relay

end Store

end RuleMachine
