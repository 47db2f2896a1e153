import RuleMachine.Proofs.Journal

/-!
# What holds at every moment

A list of happenings that the grammar allows is looked at moment by moment: what a happening of
each kind says about everything before it. From this follows how many dispatches are in progress.
-/

namespace RuleMachine

variable {limit : Nat}

/-- `P` holds of every happening of the list and of all that came before it, of which `before` came
before the list. -/
def Along (P : List Happening → Happening → Prop) (before : List Happening) :
    List Happening → Prop
  | [] => True
  | x :: h => P before x ∧ Along P (before ++ [x]) h

theorem along_append {P : List Happening → Happening → Prop} {before h h' : List Happening} :
    Along P before (h ++ h') ↔ Along P before h ∧ Along P (before ++ h) h' := by
  induction h generalizing before with
  | nil => simp [Along]
  | cons x h ih => simp [Along, ih, and_assoc]

/-- At the end of `before` a dispatch is trying its rules; the state was `matched` when it
began. -/
def Trying (limit : Nat) (s : Standing) (before : List Happening) (matched : Value) : Prop :=
  ∃ earlier event scan, before = earlier ++ .entered event :: scan ∧
    matched = (s.replay earlier).state ∧
    Happens limit ((s.replay earlier).after (.entered event)) scan

/-- A dispatch begins below the limit of its store and is refused at it, and the one that ends is
the innermost; a subscription takes the next number; a rule that fires was matched by a dispatch
that is trying its rules, and replaces the state of that moment. -/
def Happening.Allowed (limit : Nat) (s : Standing) (before : List Happening) : Happening → Prop
  | .subscribed x => x.id = (s.replay before).nextSubscriber
  | .refused _ => limit ≤ (s.replay before).active
  | .entered _ => (s.replay before).active < limit
  | .enteredElsewhere other => (s.replay before).active < other
  | .fired _ matched replaced _ =>
    Trying limit s before matched ∧ replaced = (s.replay before).state
  | .returned _ => ∃ outer, inProgress [] before = .own :: outer
  | .returnedElsewhere => ∃ outer, inProgress [] before = .other :: outer
  | .called .. | .unsubscribed _ | .notified _ => True

section Moments

variable {origin : Standing}

mutual

theorem Occurs.along : ∀ {s : Standing} {before h : List Happening}, Occurs limit s h →
    origin.replay before = s → Along (Happening.Allowed limit origin) before h
  | _, _, _, .free hx, start => by
    subst start
    cases hx <;> simp [Along, Happening.Allowed]
  | _, _, _, .refused _ full, start => by
    subst start
    exact ⟨full, trivial⟩
  | s, before, _, @Occurs.elsewhere _ _ h other room happens, start => by
    have room' : (origin.replay before).active < other := start ▸ room
    have begun : origin.replay (before ++ [.enteredElsewhere other]) =
        s.after (.enteredElsewhere other) := by
      rw [Standing.replay_append, start]
      rfl
    have ending : inProgress [] (before ++ [.enteredElsewhere other] ++ h) =
        .other :: inProgress [] before := by
      rw [inProgress_append, happens.closed, inProgress_append]
      rfl
    rw [List.cons_append]
    exact ⟨room', along_append.mpr ⟨happens.along begun, ⟨_, ending⟩, trivial⟩⟩
  | s, before, _, @Occurs.dispatched _ _ body _ pass event room fires notifies, start => by
    have room' : (origin.replay before).active < limit := start ▸ room
    have begun := fires.along (congrArg (·.after (.entered event)) start.symm)
    have done : origin.replay (before ++ [.entered event] ++ body) =
        (s.after (.entered event)).replay body := by
      simp only [Standing.replay_append, Standing.replay_cons, Standing.replay_nil, start]
    have passed := notifies.along done
    have ending : inProgress [] (before ++ [.entered event] ++ body ++ pass) =
        .own :: inProgress [] before := by
      rw [inProgress_append, notifies.closed, inProgress_append, fires.closed, inProgress_append]
      rfl
    rw [List.cons_append, List.cons_append, List.append_assoc]
    exact ⟨room', along_append.mpr ⟨begun, along_append.mpr ⟨passed, ⟨_, ending⟩, trivial⟩⟩⟩

theorem Happens.along : ∀ {s : Standing} {before h : List Happening}, Happens limit s h →
    origin.replay before = s → Along (Happening.Allowed limit origin) before h
  | _, _, _, .nothing, _ => trivial
  | s, before, _, .next (h := h) first rest, start => by
    have later : origin.replay (before ++ h) = s.replay h := by rw [Standing.replay_append, start]
    exact along_append.mpr ⟨first.along start, rest.along later⟩

theorem Fires.along : ∀ {s : Standing} {earlier h : List Happening} {event : Value}
    {outcome : Dispatched}, Fires limit s h outcome →
    s = (origin.replay earlier).after (.entered event) →
    Along (Happening.Allowed limit origin) (earlier ++ [.entered event]) h
  | _, _, _, _, _, .unmatched scan, start => scan.along (by simp [start])
  | s, earlier, _, event, _, @Fires.matched _ _ scan actions rule next tried taken, start => by
    have begun : origin.replay (earlier ++ [.entered event]) = s := by simp [start]
    have now : origin.replay (earlier ++ [.entered event] ++ scan) = s.replay scan := by
      rw [Standing.replay_append, begun]
    have trying : Trying limit origin (earlier ++ [.entered event] ++ scan) s.state :=
      ⟨earlier, event, scan, by simp, by rw [start]; rfl, start ▸ tried⟩
    have fired : origin.replay (earlier ++ [.entered event] ++ scan ++
        [.fired rule s.state (s.replay scan).state next]) =
        (s.replay scan).after (.fired rule s.state (s.replay scan).state next) := by
      rw [Standing.replay_append, now]
      rfl
    have moved := taken.along fired
    exact along_append.mpr ⟨tried.along begun, ⟨trying, congrArg Standing.state now.symm⟩, moved⟩

theorem Notifies.along : ∀ {due : List Subscriber} {s : Standing} {before h : List Happening},
    Notifies limit due s h → origin.replay before = s →
    Along (Happening.Allowed limit origin) before h
  | _, _, _, _, .done, _ => trivial
  | _, s, before, _, @Notifies.notify _ _ h _ _ x called rest, start => by
    have due : origin.replay (before ++ [.notified x]) = s := by
      rw [Standing.replay_append, start]
      rfl
    have done : origin.replay (before ++ [.notified x] ++ h) = s.replay h := by
      rw [Standing.replay_append, due]
    exact ⟨trivial, along_append.mpr ⟨called.along due, rest.along done⟩⟩

end

end Moments

/-- The same, moment by moment. -/
theorem Happens.allowed {s : Standing} {before later : List Happening} {x : Happening}
    (h : Happens limit s (before ++ x :: later)) : x.Allowed limit s before := by
  have all : Along (Happening.Allowed limit s) [] (before ++ x :: later) := h.along rfl
  exact (along_append.mp all).2.1

/-! ## How many dispatches are in progress -/

def Happening.isReturned : Happening → Bool
  | returned _ => true
  | _ => false

/-- How many dispatches end. -/
def endings (h : List Happening) : Nat := h.countP (·.isReturned)

theorem endings_append (h h' : List Happening) : endings (h ++ h') = endings h + endings h' :=
  List.countP_append

/-- Fewer dispatches than the limit are in progress outside of each that is the store's own. -/
def OwnBelow (limit : Nat) (owners : List Owner) : Prop :=
  ∀ inner outer, owners = inner ++ .own :: outer → outer.length < limit

namespace OwnBelow

variable {owners : List Owner}

theorem tail (below : OwnBelow limit owners) : OwnBelow limit owners.tail := by
  intro inner outer split
  cases owners with
  | nil => exact absurd split (by simp)
  | cons o owners =>
    apply below (o :: inner) outer
    rw [List.cons_append, ← split, List.tail_cons]

theorem other (below : OwnBelow limit owners) : OwnBelow limit (.other :: owners) := by
  rintro (_ | ⟨o, inner⟩) outer split
  · cases split
  · exact below inner outer (List.cons.inj split).2

theorem own (below : OwnBelow limit owners) (room : owners.length < limit) :
    OwnBelow limit (.own :: owners) := by
  rintro (_ | ⟨o, inner⟩) outer split
  · exact (List.cons.inj split).2 ▸ room
  · exact below inner outer (List.cons.inj split).2

/-- So there are no more than the limit of the store's own. -/
theorem count_le (below : OwnBelow limit owners) : owners.count .own ≤ limit := by
  induction owners with
  | nil => exact Nat.zero_le _
  | cons o owners ih =>
    cases o with
    | own =>
      have room : owners.length < limit := below [] owners rfl
      have le : owners.count .own ≤ owners.length := List.count_le_length
      rw [List.count_cons_self]
      omega
    | other =>
      rw [List.count_cons_of_ne (by decide)]
      exact ih below.tail

/-- If all are the store's own, there are no more than the limit at all. -/
theorem length_le (below : OwnBelow limit owners) (alone : .other ∉ owners) :
    owners.length ≤ limit := by
  cases owners with
  | nil => exact Nat.zero_le _
  | cons o owners =>
    cases o with
    | own => exact below [] owners rfl
    | other => exact absurd List.mem_cons_self alone

end OwnBelow

/-- At every moment of `h`, which begins outside of any dispatch, as many dispatches are in progress
on the thread as have begun and not ended. A dispatch of the store begins only below its limit and
is refused only from it on, whatever the stores of the dispatches in progress. So no more of the
store's own are in progress than the limit, and no more at all if no other store's are. -/
structure Standing.DepthWithin (limit : Nat) (s : Standing) (h : List Happening) : Prop where
  counted {before later : List Happening} : h = before ++ later →
    (s.replay before).active = (inProgress [] before).length
  bounded {before later : List Happening} : h = before ++ later →
    (inProgress [] before).count .own ≤ limit
  alone {before later : List Happening} : h = before ++ later →
    .other ∉ inProgress [] before → (inProgress [] before).length ≤ limit
  begun {before later : List Happening} {event : Value} : h = before ++ .entered event :: later →
    (inProgress [] before).length < limit
  refused {before later : List Happening} {event : Value} : h = before ++ .refused event :: later →
    limit ≤ (inProgress [] before).length
  refusedAlone {before later : List Happening} {event : Value} :
    h = before ++ .refused event :: later → .other ∉ inProgress [] before →
    (inProgress [] before).length = limit
  /-- The dispatch that ends is the innermost of those in progress. -/
  ended {before later : List Happening} {outcome : Dispatched} :
    h = before ++ .returned outcome :: later → ∃ outer, inProgress [] before = .own :: outer ∧
      inProgress [] (before ++ [.returned outcome]) = outer
  closed : inProgress [] h = []

section Run

variable {s : Standing} {before h : List Happening}

/-- What one happening does to the dispatches in progress. -/
theorem Happening.Allowed.ownBelow {x : Happening} (allowed : x.Allowed limit s before)
    (start : s.active = 0) (below : OwnBelow limit (inProgress [] before)) :
    OwnBelow limit (inProgress [] (before ++ [x])) := by
  rw [inProgress_append]
  cases x with
  | entered event =>
    have room : (s.replay before).active < limit := allowed
    rw [Standing.active_replay (show s.active = [].length from start)] at room
    exact below.own room
  | enteredElsewhere other => exact below.other
  | returned | returnedElsewhere => exact below.tail
  | called | subscribed | unsubscribed | refused | fired | notified => exact below

/-- However far the run has come, the store's own dispatches keep below the limit. -/
theorem Along.ownBelow (all : Along (Happening.Allowed limit s) before h) (start : s.active = 0)
    (below : OwnBelow limit (inProgress [] before)) :
    OwnBelow limit (inProgress [] (before ++ h)) := by
  induction h generalizing before with
  | nil => rwa [List.append_nil]
  | cons x h ih =>
    rw [← List.singleton_append, ← List.append_assoc]
    apply ih all.2
    exact all.1.ownBelow start below

end Run

theorem Happens.depthWithin {s : Standing} {h : List Happening} (happens : Happens limit s h)
    (start : s.active = 0) : s.DepthWithin limit h := by
  have counted (before : List Happening) :
      (s.replay before).active = (inProgress [] before).length := by
    apply Standing.active_replay
    exact start
  have below {before later : List Happening} (split : h = before ++ later) :
      OwnBelow limit (inProgress [] before) := by
    subst split
    have all : Along (Happening.Allowed limit s) [] before :=
      (along_append.mp (happens.along rfl)).1
    exact all.ownBelow start (by simp [OwnBelow])
  have full {before later : List Happening} {event : Value}
      (split : h = before ++ .refused event :: later) : limit ≤ (inProgress [] before).length := by
    subst split
    have full : limit ≤ (s.replay before).active := happens.allowed
    exact counted before ▸ full
  refine ⟨fun _ => counted _, fun split => (below split).count_le,
    fun split => (below split).length_le, ?_, full, fun split alone => ?_, ?_, happens.closed []⟩
  · rintro before later event rfl
    have room : (s.replay before).active < limit := happens.allowed
    exact counted before ▸ room
  · exact Nat.le_antisymm ((below split).length_le alone) (full split)
  · rintro before later outcome rfl
    obtain ⟨outer, innermost⟩ : ∃ outer, inProgress [] before = .own :: outer := happens.allowed
    refine ⟨outer, innermost, ?_⟩
    rw [inProgress_append, innermost]
    rfl

end RuleMachine
