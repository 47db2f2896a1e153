import RuleMachine.World

/-!
# What a journal can say

The journal of a run is a list of happenings, in which a dispatch is a bracket: it begins with
`entered`, ends with `returned`, and everything that it causes stands between the two. `Happens`
is the grammar of such lists:

* first the rules are tried, which may call host code and hence cause anything (`Fires`);
* at most one of them fires, moves the store and takes its actions;
* then the subscribers registered by then are notified, each once and in order (`Notifies`);
* a dispatch is refused if as many are in progress as the limit allows, and begins otherwise;
* host code may also let other stores of the thread dispatch, and what these do in turn stands in a
  bracket as well.

The journal determines where the store stands at any moment (`Standing.replay`).
-/

namespace RuleMachine

/-- What host code, or a call of it, can bring about by itself. -/
inductive Happening.Free (s : Standing) : Happening → Prop
  | called (f : HostFn) (scope : Scope) : Free s (.called f scope)
  | subscribed (callback : Nat) : Free s (.subscribed ⟨s.nextSubscriber, callback⟩)
  | unsubscribed (subscription : Nat) : Free s (.unsubscribed subscription)

namespace Standing

/-- Where a store stands once a number of things have happened to it. -/
def replay (s : Standing) (h : List Happening) : Standing := h.foldl after s

@[simp] theorem replay_nil (s : Standing) : s.replay [] = s := rfl

@[simp] theorem replay_cons (s : Standing) (x : Happening) (h : List Happening) :
    s.replay (x :: h) = (s.after x).replay h := rfl

@[simp] theorem replay_append (s : Standing) (h h' : List Happening) :
    s.replay (h ++ h') = (s.replay h).replay h' := List.foldl_append

end Standing

mutual

/-- One thing that may happen to a store: `h` is all of it. -/
inductive Occurs (limit : Nat) : Standing → List Happening → Prop
  | free {s x} : x.Free s → Occurs limit s [x]
  | refused {s} (event) : limit ≤ s.active → Occurs limit s [.refused event]
  /-- A dispatch of another store, which is let in by a limit of its own. -/
  | elsewhere {s h other} :
      s.active < other → Happens limit (s.after (.enteredElsewhere other)) h →
      Occurs limit s (.enteredElsewhere other :: h ++ [.returnedElsewhere])
  | dispatched {s body outcome pass} (event) :
      s.active < limit →
      Fires limit (s.after (.entered event)) body outcome →
      Notifies limit ((s.after (.entered event)).replay body).subscribers
        ((s.after (.entered event)).replay body) pass →
      Occurs limit s (.entered event :: body ++ pass ++ [.returned outcome])

/-- Things that may happen to a store one after the other. -/
inductive Happens (limit : Nat) : Standing → List Happening → Prop
  | nothing {s} : Happens limit s []
  | next {s h h'} : Occurs limit s h → Happens limit (s.replay h) h' → Happens limit s (h ++ h')

/-- The part of a dispatch in which rules are tried and one may fire, from where the dispatch
begins. -/
inductive Fires (limit : Nat) : Standing → List Happening → Dispatched → Prop
  | unmatched {s scan} : Happens limit s scan → Fires limit s scan .unmatched
  | matched {s scan actions} (rule next) :
      Happens limit s scan →
      Happens limit ((s.replay scan).after (.fired rule s.state (s.replay scan).state next))
        actions →
      Fires limit s (scan ++ .fired rule s.state (s.replay scan).state next :: actions)
        (.matched rule next.isSome)

/-- The part of a dispatch in which the subscribers `due` are notified. -/
inductive Notifies (limit : Nat) : List Subscriber → Standing → List Happening → Prop
  | done {s} : Notifies limit [] s []
  | notify {s h pass due} (x) :
      Happens limit s h → Notifies limit due (s.replay h) pass →
      Notifies limit (x :: due) s (.notified x :: h ++ pass)

end

variable {limit : Nat}

theorem Occurs.happens {s : Standing} {h : List Happening} (ho : Occurs limit s h) :
    Happens limit s h := by
  simpa using Happens.next ho .nothing

theorem Happens.append : ∀ {s : Standing} {h h' : List Happening}, Happens limit s h →
    Happens limit (s.replay h) h' → Happens limit s (h ++ h')
  | _, _, _, .nothing, hh => hh
  | _, _, _, .next first rest, hh => by
    rw [List.append_assoc]
    rw [Standing.replay_append] at hh
    exact .next first (rest.append hh)

/-! ## Brackets are closed -/

/-- Whose a dispatch is: the store's own, or that of another store. -/
inductive Owner where
  | own
  | other
  deriving DecidableEq, Repr

/-- Whose the dispatches in progress are once something has happened, the innermost first. -/
def Happening.owners (owners : List Owner) : Happening → List Owner
  | .entered _ => .own :: owners
  | .enteredElsewhere _ => .other :: owners
  | .returned _ | .returnedElsewhere => owners.tail
  | .called .. | .subscribed _ | .unsubscribed _ | .refused _ | .fired .. | .notified _ => owners

/-- Whose the dispatches in progress are once a number of things have happened; `outer` are those in
progress before. -/
def inProgress (outer : List Owner) (h : List Happening) : List Owner :=
  h.foldl Happening.owners outer

@[simp] theorem inProgress_nil (outer : List Owner) : inProgress outer [] = outer := rfl

@[simp] theorem inProgress_cons (outer : List Owner) (x : Happening) (h : List Happening) :
    inProgress outer (x :: h) = inProgress (x.owners outer) h := rfl

@[simp] theorem inProgress_append (outer : List Owner) (h h' : List Happening) :
    inProgress outer (h ++ h') = inProgress (inProgress outer h) h' := List.foldl_append

mutual

theorem Occurs.closed : ∀ {s : Standing} {h : List Happening}, Occurs limit s h →
    ∀ outer, inProgress outer h = outer
  | _, _, .free hx, _ => by cases hx <;> rfl
  | _, _, .refused _ _, _ => rfl
  | _, _, .elsewhere _ happens, outer => by
    simp only [List.cons_append, inProgress_cons, inProgress_append]
    rw [happens.closed]
    rfl
  | _, _, .dispatched event _ fires notifies, outer => by
    simp only [List.cons_append, inProgress_cons, inProgress_append]
    rw [fires.closed, notifies.closed]
    rfl

theorem Happens.closed : ∀ {s : Standing} {h : List Happening}, Happens limit s h →
    ∀ outer, inProgress outer h = outer
  | _, _, .nothing, _ => rfl
  | _, _, .next first rest, outer => by
    rw [inProgress_append, first.closed, rest.closed]

theorem Fires.closed : ∀ {s : Standing} {h : List Happening} {outcome : Dispatched},
    Fires limit s h outcome → ∀ outer, inProgress outer h = outer
  | _, _, _, .unmatched scan, outer => scan.closed outer
  | _, _, _, .matched rule next scan actions, outer => by
    rw [inProgress_append, scan.closed, inProgress_cons]
    exact actions.closed outer

theorem Notifies.closed : ∀ {due : List Subscriber} {s : Standing} {h : List Happening},
    Notifies limit due s h → ∀ outer, inProgress outer h = outer
  | _, _, _, .done, _ => rfl
  | _, _, _, .notify x called rest, outer => by
    rw [List.cons_append, inProgress_cons, inProgress_append]
    exact (congrArg (inProgress · _) (called.closed outer)).trans (rest.closed outer)

end

namespace Standing

theorem active_replay {s : Standing} {outer : List Owner} (start : s.active = outer.length)
    (h : List Happening) : (s.replay h).active = (inProgress outer h).length := by
  induction h generalizing s outer with
  | nil => exact start
  | cons x h ih =>
    apply ih
    cases x with
    | entered | enteredElsewhere => exact congrArg (· + 1) start
    | returned | returnedElsewhere =>
      rw [Happening.owners, List.length_tail, ← start]
      rfl
    | called | subscribed | unsubscribed | refused | fired | notified => exact start

/-- Where all brackets are closed, as many dispatches are in progress at the end as at the
beginning. -/
theorem active_of_closed {h : List Happening} (closed : ∀ outer, inProgress outer h = outer)
    (s : Standing) : (s.replay h).active = s.active := by
  have start : s.active = (List.replicate s.active Owner.other).length := by simp
  rw [active_replay start, closed, ← start]

end Standing

section

variable {s : Standing} {h : List Happening}

theorem Occurs.active_eq (occurs : Occurs limit s h) : (s.replay h).active = s.active :=
  s.active_of_closed occurs.closed

theorem Happens.active_eq (happens : Happens limit s h) : (s.replay h).active = s.active :=
  s.active_of_closed happens.closed

theorem Fires.active_eq {outcome : Dispatched} (fires : Fires limit s h outcome) :
    (s.replay h).active = s.active :=
  s.active_of_closed fires.closed

end

/-! ## Transitions -/

/-- The state that a happening moves the store to. -/
def Happening.target? : Happening → Option Value
  | fired _ _ _ next => next
  | _ => none

/-- The states that the store is moved to, in order. -/
def transitions (h : List Happening) : List Value := h.filterMap (·.target?)

/-- The store is in the state that it was last moved to. -/
theorem Standing.state_replay (s : Standing) (h : List Happening) :
    (s.replay h).state = (transitions h).getLast?.getD s.state := by
  induction h generalizing s with
  | nil => rfl
  | cons x h ih =>
    rw [Standing.replay_cons, ih]
    rcases x with _ | _ | _ | _ | _ | ⟨rule, matched, replaced, _ | next⟩ | _ | _ | _ | _
    case fired.some =>
      have moved : transitions (.fired rule matched replaced (some next) :: h) =
          next :: transitions h := rfl
      rw [moved, List.getLast?_cons, Option.getD_some]
      rfl
    all_goals rfl

theorem transitions_append (h h' : List Happening) :
    transitions (h ++ h') = transitions h ++ transitions h' := List.filterMap_append

mutual

theorem Occurs.transitions_eq_nil : ∀ {s : Standing} {h : List Happening}, Occurs limit s h →
    (∀ event, .entered event ∉ h) → transitions h = []
  | _, _, .free hx, _ => by cases hx <;> rfl
  | _, _, .refused _ _, _ => rfl
  | _, _, .elsewhere (h := h) _ happens, calm => by
    have inside : transitions h = [] := happens.transitions_eq_nil fun event mem =>
      calm event (List.mem_append_left _ (List.mem_cons_of_mem _ mem))
    rw [transitions_append, ← List.singleton_append, transitions_append, inside]
    rfl
  | _, _, .dispatched event _ _ _, calm =>
    absurd (List.mem_append_left _ (List.mem_append_left _ List.mem_cons_self)) (calm event)

/-- Where no dispatch of the store begins, there are no transitions. -/
theorem Happens.transitions_eq_nil : ∀ {s : Standing} {h : List Happening}, Happens limit s h →
    (∀ event, .entered event ∉ h) → transitions h = []
  | _, _, .nothing, _ => rfl
  | _, _, .next occurs rest, calm => by
    rw [transitions_append, occurs.transitions_eq_nil, rest.transitions_eq_nil]
    · rfl
    · exact fun event mem => calm event (List.mem_append_right _ mem)
    · exact fun event mem => calm event (List.mem_append_left _ mem)

end

end RuleMachine
