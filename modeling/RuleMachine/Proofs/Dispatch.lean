import RuleMachine.Proofs.Lockstep

/-!
# Dispatches as they are seen from inside a run

`Store.dispatchWithin` recurses on the room that is left for nesting. Here that recursion is
removed, and what a dispatch does is tied to what the journal says:

* `dispatch_eq`: a dispatch nested in another is the same dispatch, made in another world, so the
  room never shows;
* `dispatch_records`: whatever a dispatch does, it and everything it causes is in the journal, in
  the form that `Happens` describes;
* `Store.Leads` are the runs of a store from outside of any dispatch, and `Leads.records` says the
  same of them.
-/

namespace RuleMachine

open Course

variable [Regex.Engine] {σ α : Type}

namespace Store

variable (st : Store σ)

/-! ## The room does not show -/

theorem dispatchOnce_of_full {dispatch : Value → Run σ DispatchResult} {event : Value} {w : World σ}
    (full : st.machine.limits.dispatchDepth ≤ w.active) :
    st.dispatchOnce dispatch event w = st.refuse event w := by
  rw [dispatchOnce, bind_apply]
  exact congrFun (if_pos full) w

theorem dispatchOnce_of_room {dispatch : Value → Run σ DispatchResult} {event : Value} {w : World σ}
    (room : w.active < st.machine.limits.dispatchDepth) :
    st.dispatchOnce dispatch event w =
      (st.fire dispatch event >>= st.conclude dispatch) (w.after (.entered event)) := by
  rw [dispatchOnce, bind_apply]
  exact congrFun (if_neg (Nat.not_le.mpr room)) w

theorem conclude_apply (dispatch : Value → Run σ DispatchResult) (outcome : Dispatched)
    (w : World σ) :
    st.conclude dispatch outcome w =
      (.ok outcome, (st.notify dispatch w.subscribers w).2.after (.returned outcome)) := rfl

end Store

/-- The worlds with at least `depth` dispatches in progress; changes leave their number alone. -/
def Course.nested (σ : Type) (depth : Nat) : Course σ where
  domain w := depth ≤ w.active
  moves w u := u.active = w.active
  stays hw moved := moved ▸ hw
  trans first second := second.trans first
  quiet standing _ _ := congrArg Standing.active standing
  free hx := by cases hx <;> rfl
  entersElsewhere hw _ := Nat.le_succ_of_le hw
  elsewhere _ moved := congrArg (· - 1) moved

theorem Course.nested_loose (σ : Type) (depth : Nat) : (nested σ depth).Loose :=
  fun _ _ standing _ => congrArg Standing.active standing

namespace Store

variable {depth : Nat} {dispatch dispatch' : Value → Run σ DispatchResult}
variable (st : Store σ)

/-- A dispatch depends only on what dispatches do with one more in progress, and ends what it
begins. -/
theorem dispatchOnce_same
    (hd : ∀ event, (nested σ (depth + 1)).Same (dispatch event) (dispatch' event))
    (event : Value) :
    (nested σ depth).Same (st.dispatchOnce dispatch event) (st.dispatchOnce dispatch' event) := by
  intro w hw
  rcases Nat.lt_or_ge w.active st.machine.limits.dispatchDepth with room | full
  · have inside : depth + 1 ≤ (w.after (.entered event)).active := Nat.succ_le_succ hw
    have ha := Store.awaitWith_same hd st (nested_loose σ (depth + 1))
    obtain ⟨outcomes, fired, begun⟩ :=
      Store.fire_same hd st ha (fun _ _ _ _ _ => rfl) event _ inside
    have still := (nested σ (depth + 1)).stays inside begun
    obtain ⟨-, notified, passed⟩ := Store.notify_same hd st (fun _ _ => rfl) _ _ still
    rw [dispatchOnce_of_room st room, dispatchOnce_of_room st room, bind_apply, bind_apply,
      ← outcomes, ← fired, conclude_apply, conclude_apply, ← notified]
    refine ⟨rfl, rfl, ?_⟩
    change (st.notify dispatch _ _).2.active - 1 = w.active
    rw [passed, begun]
    rfl
  · rw [dispatchOnce_of_full st full, dispatchOnce_of_full st full]
    exact ⟨rfl, rfl, rfl⟩

theorem dispatchWithin_of_full {levels : Nat} {event : Value} {w : World σ}
    (full : st.machine.limits.dispatchDepth ≤ w.active) :
    st.dispatchWithin levels event w = st.refuse event w := by
  cases levels with
  | zero => rfl
  | succ levels => exact dispatchOnce_of_full st full

theorem dispatchWithin_same_of_full {levels levels' : Nat}
    (full : st.machine.limits.dispatchDepth ≤ depth) (event : Value) :
    (nested σ depth).Same (st.dispatchWithin levels event) (st.dispatchWithin levels' event) := by
  intro w hw
  have full' := Nat.le_trans full hw
  rw [dispatchWithin_of_full st full', dispatchWithin_of_full st full']
  exact ⟨rfl, rfl, rfl⟩

theorem dispatchWithin_same {levels levels' : Nat}
    (enough : st.machine.limits.dispatchDepth ≤ levels + depth)
    (enough' : st.machine.limits.dispatchDepth ≤ levels' + depth) (event : Value) :
    (nested σ depth).Same (st.dispatchWithin levels event) (st.dispatchWithin levels' event) := by
  induction levels generalizing levels' depth event with
  | zero => exact st.dispatchWithin_same_of_full (by omega) event
  | succ levels ih =>
    cases levels' with
    | zero => exact st.dispatchWithin_same_of_full (by omega) event
    | succ levels' =>
      have inside (event : Value) : (nested σ (depth + 1)).Same (st.dispatchWithin levels event)
          (st.dispatchWithin levels' event) := ih (by omega) (by omega) event
      exact st.dispatchOnce_same inside event

/-- Dispatches that nest in a dispatch are dispatches like any other. -/
theorem dispatch_eq (event : Value) : st.dispatch event = st.dispatchOnce st.dispatch event := by
  have enough : st.machine.limits.dispatchDepth ≤ st.machine.limits.dispatchDepth + 0 :=
    Nat.le_refl _
  have enough' : st.machine.limits.dispatchDepth ≤ st.machine.limits.dispatchDepth + 1 + 0 :=
    Nat.le_succ _
  funext w
  have same := st.dispatchWithin_same enough enough' event w (Nat.zero_le _)
  exact Prod.ext same.1 same.2.1

end Store

/-! ## What a dispatch writes down -/

namespace World

/-- What has happened so far, in order. -/
def history (w : World σ) : List Happening := w.journal.toList

/-- Between the one world and the other, `h` has happened. -/
structure Between (w u : World σ) (h : List Happening) : Prop where
  history : u.history = w.history ++ h
  standing : u.toStanding = w.toStanding.replay h

theorem Between.refl (w : World σ) : w.Between w [] := ⟨(List.append_nil _).symm, rfl⟩

theorem Between.after (w : World σ) (x : Happening) : w.Between (w.after x) [x] :=
  ⟨Array.toList_push, rfl⟩

theorem Between.trans {u v w : World σ} {h h' : List Happening} (first : u.Between v h)
    (second : v.Between w h') : u.Between w (h ++ h') where
  history := by rw [second.history, first.history, List.append_assoc]
  standing := by rw [second.standing, first.standing, Standing.replay_append]

/-- Between the one world and the other a dispatch has been let in and has ended: first its rules
were tried and the actions of the one that fired were taken, with all that they cause, then the
subscribers there were by then were notified. -/
def Completes (limit : Nat) (event : Value) (outcome : Dispatched) (w u : World σ) : Prop :=
  ∃ body pass,
    w.Between u (.entered event :: body ++ pass ++ [.returned outcome]) ∧
    Fires limit (w.toStanding.after (.entered event)) body outcome ∧
    Notifies limit ((w.toStanding.after (.entered event)).replay body).subscribers
      ((w.toStanding.after (.entered event)).replay body) pass

end World

/-- The worlds with at least `depth` dispatches in progress; whatever changes has happened as
`Happens` says. -/
def Course.recorded (σ : Type) (limit depth : Nat) : Course σ where
  domain w := depth ≤ w.active
  moves w u := ∃ h, w.Between u h ∧ Happens limit w.toStanding h
  stays hw := by
    rintro ⟨h, between, happens⟩
    rw [between.standing, happens.active_eq]
    exact hw
  trans := by
    rintro u v w ⟨h, between, happens⟩ ⟨h', between', happens'⟩
    exact ⟨h ++ h', between.trans between', happens.append (between.standing ▸ happens')⟩
  quiet {w u} standing journal _ :=
    ⟨[], ⟨by simp [World.history, journal], standing⟩, .nothing⟩
  free {w x} hx := ⟨[x], .after w x, (Occurs.free hx).happens⟩
  entersElsewhere hw _ := Nat.le_succ_of_le hw
  elsewhere {w u limit} room := by
    rintro ⟨h, between, happens⟩
    have all := (World.Between.after w (.enteredElsewhere limit)).trans
      (between.trans (.after u .returnedElsewhere))
    exact ⟨_, all, (Occurs.elsewhere room happens).happens⟩

theorem Course.recorded_loose (σ : Type) (limit depth : Nat) : (recorded σ limit depth).Loose :=
  fun _ _ standing journal => ⟨[], ⟨by simp [World.history, journal], standing⟩, .nothing⟩

namespace Store

variable {depth : Nat} {dispatch : Value → Run σ DispatchResult} {event : Value} {w : World σ}
variable (st : Store σ)

theorem fire_of_none {u : World σ} (h : st.select dispatch event w.state w = (none, u)) :
    st.fire dispatch event w = (.unmatched, u) := by
  rw [fire, bind_apply]
  change (st.select dispatch event w.state >>= _) w = _
  rw [bind_apply, h]
  rfl

theorem fire_of_some {rule : Nat} {reaction : Reaction σ} {u : World σ}
    (h : st.select dispatch event w.state w = (some (rule, reaction), u)) :
    st.fire dispatch event w = (.matched rule reaction.next.isSome,
      (reaction.thunk (u.after (.fired rule w.state u.state reaction.next))).2) := by
  rw [fire, bind_apply]
  change (st.select dispatch event w.state >>= _) w = _
  rw [bind_apply, h]
  rfl

section Recording

variable {limit : Nat}
variable (hd : ∀ event, (recorded σ limit depth).Same (dispatch event) (dispatch event))
include hd

theorem fire_records (event : Value) (hw : depth ≤ w.active) :
    ∃ body, w.Between (st.fire dispatch event w).2 body ∧
      Fires limit w.toStanding body (st.fire dispatch event w).1 := by
  have ha := Store.awaitWith_same hd st (recorded_loose σ limit depth)
  obtain ⟨related, -, scan, between, tried⟩ := Store.select_inStep hd st ha event w.state w hw
  cases selected : st.select dispatch event w.state w with
  | mk found u =>
    rw [selected] at related between
    cases found with
    | none =>
      rw [st.fire_of_none selected]
      exact ⟨scan, between, .unmatched tried⟩
    | some winner =>
      obtain ⟨rule, reaction⟩ := winner
      obtain ⟨⟨-, -, thunk⟩⟩ := related
      have state : u.state = (w.toStanding.replay scan).state := by rw [between.standing]
      have inside : depth ≤ (u.after (.fired rule w.state u.state reaction.next)).active := by
        change depth ≤ u.active
        rw [between.standing, tried.active_eq]
        exact hw
      obtain ⟨-, -, actions, acted, taken⟩ := thunk _ inside
      rw [st.fire_of_some selected]
      refine ⟨_, between.trans ((World.Between.after _ _).trans acted), ?_⟩
      rw [state]
      refine .matched rule reaction.next tried ?_
      rw [← state, ← between.standing]
      exact taken

theorem notify_records (due : List Subscriber) (hw : depth ≤ w.active) :
    ∃ pass, w.Between (st.notify dispatch due w).2 pass ∧ Notifies limit due w.toStanding pass := by
  induction due generalizing w with
  | nil => exact ⟨[], .refl w, .done⟩
  | cons x due ih =>
    obtain ⟨-, -, h, between, called⟩ :=
      Store.runWith_same hd st (st.host.callback x.callback) (w.after (.notified x)) hw
    have still : depth ≤ (st.runWith dispatch (st.host.callback x.callback)
        (w.after (.notified x))).2.active := by
      rw [between.standing, called.active_eq]
      exact hw
    obtain ⟨pass, passed, notified⟩ := ih still
    rw [between.standing] at notified
    have all := (World.Between.after w (.notified x)).trans (between.trans passed)
    exact ⟨.notified x :: h ++ pass, all, .notify x called notified⟩

end Recording

variable {limit : Nat}

/-- A dispatch that is let in, from its beginning to its end. -/
theorem dispatchOnce_of_room_records
    (hd : ∀ event, (recorded σ st.machine.limits.dispatchDepth (depth + 1)).Same
      (dispatch event) (dispatch event))
    (event : Value) (hw : depth ≤ w.active) (room : w.active < st.machine.limits.dispatchDepth) :
    ∃ outcome, (st.dispatchOnce dispatch event w).1 = .ok outcome ∧
      w.Completes st.machine.limits.dispatchDepth event outcome
        (st.dispatchOnce dispatch event w).2 := by
  have inside : depth + 1 ≤ (w.after (.entered event)).active := Nat.succ_le_succ hw
  obtain ⟨body, between, fires⟩ := st.fire_records hd event inside
  have still : depth + 1 ≤ (st.fire dispatch event (w.after (.entered event))).2.active := by
    rw [between.standing, fires.active_eq]
    exact inside
  obtain ⟨pass, passed, notifies⟩ := st.notify_records hd
    (st.fire dispatch event (w.after (.entered event))).2.subscribers still
  rw [dispatchOnce_of_room st room, bind_apply, conclude_apply]
  refine ⟨_, rfl, body, pass, ?_, fires, ?_⟩
  · rw [List.append_assoc, List.cons_append, ← List.singleton_append]
    exact (World.Between.after w _).trans (between.trans (passed.trans (.after _ _)))
  · rw [between.standing] at notifies
    exact notifies

theorem dispatchOnce_records
    (hd : ∀ event, (recorded σ st.machine.limits.dispatchDepth (depth + 1)).Same
      (dispatch event) (dispatch event))
    (event : Value) :
    (recorded σ st.machine.limits.dispatchDepth depth).Same (st.dispatchOnce dispatch event)
      (st.dispatchOnce dispatch event) := by
  intro w hw
  refine ⟨rfl, rfl, ?_⟩
  rcases Nat.lt_or_ge w.active st.machine.limits.dispatchDepth with room | full
  · obtain ⟨outcome, -, body, pass, between, fires, notifies⟩ :=
      st.dispatchOnce_of_room_records hd event hw room
    exact ⟨_, between, (Occurs.dispatched event room fires notifies).happens⟩
  · rw [dispatchOnce_of_full st full]
    exact ⟨_, .after w _, (Occurs.refused event full).happens⟩

theorem dispatchWithin_records {levels : Nat}
    (enough : st.machine.limits.dispatchDepth ≤ levels + depth) (event : Value) :
    (recorded σ st.machine.limits.dispatchDepth depth).Same (st.dispatchWithin levels event)
      (st.dispatchWithin levels event) := by
  induction levels generalizing depth event with
  | zero =>
    intro w hw
    have full : st.machine.limits.dispatchDepth ≤ w.active := by
      change depth ≤ w.active at hw
      omega
    exact ⟨rfl, rfl, _, .after w _, (Occurs.refused event full).happens⟩
  | succ levels ih => exact st.dispatchOnce_records (fun event => ih (by omega) event) event

/-- Whatever a dispatch causes is written down as `Happens` says. -/
theorem dispatch_records (event : Value) :
    (recorded σ st.machine.limits.dispatchDepth depth).Same (st.dispatch event)
      (st.dispatch event) :=
  st.dispatchWithin_records (Nat.le_add_right _ depth) event

theorem dispatch_of_room_records (event : Value)
    (room : w.active < st.machine.limits.dispatchDepth) :
    ∃ outcome, (st.dispatch event w).1 = .ok outcome ∧
      w.Completes st.machine.limits.dispatchDepth event outcome (st.dispatch event w).2 := by
  rw [dispatch_eq]
  exact st.dispatchOnce_of_room_records st.dispatch_records event (Nat.zero_le _) room

theorem dispatch_of_full (full : st.machine.limits.dispatchDepth ≤ w.active) :
    st.dispatch event w =
      (.error (.depthExceeded st.machine.limits.dispatchDepth), w.after (.refused event)) :=
  dispatchWithin_of_full st full

theorem dispatchOnce_ok (dispatch : Value → Run σ DispatchResult) (event : Value)
    (room : w.active < st.machine.limits.dispatchDepth) :
    ∃ outcome, (st.dispatchOnce dispatch event w).1 = .ok outcome := by
  rw [dispatchOnce_of_room st room, bind_apply, conclude_apply]
  exact ⟨_, rfl⟩

theorem dispatch_ok (event : Value)
    (room : w.active < st.machine.limits.dispatchDepth) :
    ∃ outcome, (st.dispatch event w).1 = .ok outcome := by
  rw [dispatch_eq]
  exact st.dispatchOnce_ok st.dispatch event room

/-- A dispatch that succeeds has been let in and has ended. -/
theorem completes_of_ok {outcome : Dispatched} (succeeded : (st.dispatch event w).1 = .ok outcome) :
    w.Completes st.machine.limits.dispatchDepth event outcome (st.dispatch event w).2 := by
  rcases Nat.lt_or_ge w.active st.machine.limits.dispatchDepth with room | full
  · obtain ⟨outcome', answer, completes⟩ := st.dispatch_of_room_records event room
    obtain rfl : outcome' = outcome := Except.ok.inj (answer.symm.trans succeeded)
    exact completes
  · rw [st.dispatch_of_full full] at succeeded
    cases succeeded

theorem full_of_error {error : DispatchError}
    (h : (st.dispatch event w).1 = .error error) : st.machine.limits.dispatchDepth ≤ w.active := by
  rcases Nat.lt_or_ge w.active st.machine.limits.dispatchDepth with room | full
  · obtain ⟨outcome, ok⟩ := st.dispatch_ok event room
    rw [ok] at h
    cases h
  · exact full

/-- What effects are given is written down, whatever they do with it. -/
theorem surroundings_records :
    (st.surroundings st.dispatch).InStep (recorded σ st.machine.limits.dispatchDepth 0)
      (st.surroundings st.dispatch) := by
  apply Store.surroundings_inStep st.dispatch_records
  exact Store.awaitWith_same st.dispatch_records st (recorded_loose σ _ 0)

/-! ## Runs -/

theorem run_records (script : Script σ α) :
    (recorded σ st.machine.limits.dispatchDepth 0).Same (st.run script) (st.run script) :=
  Store.runWith_same st.dispatch_records st script

theorem serve_records (poll : Script σ (Option Value)) :
    (recorded σ st.machine.limits.dispatchDepth 0).Same (st.serve poll) (st.serve poll) := by
  apply (st.run_records poll).bind
  rintro (_ | event)
  · have loose := recorded_loose σ st.machine.limits.dispatchDepth 0
    exact loose.update (f := fun w => w.queue ⟨0, poll⟩) (fun _ => rfl) fun _ => rfl
  · exact (st.dispatch_records event).bind fun _ => .pure rfl

theorem turn_records : (recorded σ st.machine.limits.dispatchDepth 0).Same st.turn st.turn := by
  have loose := recorded_loose σ st.machine.limits.dispatchDepth 0
  apply Same.get.bind
  intro w
  rcases w.tasks with _ | ⟨⟨_ | delay, poll⟩, rest⟩
  · exact .pure rfl
  · apply (loose.update (f := fun w => { w with tasks := rest }) (fun _ => rfl) fun _ => rfl).bind
    exact fun _ => st.serve_records poll
  · exact loose.update (f := fun w => { w with tasks := rest ++ [⟨delay, poll⟩] }) (fun _ => rfl)
      fun _ => rfl

/-- The world `u` is reached from `w` by host code that is run from outside of any dispatch and by
turns of tasks. -/
inductive Leads (st : Store σ) : World σ → World σ → Prop
  | refl (w : World σ) : Leads st w w
  | run {w u : World σ} {α : Type} (script : Script σ α) :
      Leads st w u → Leads st w (st.run script u).2
  | turn {w u : World σ} : Leads st w u → Leads st w (st.turn u).2

/-- The world is reached from one in which the store begins. -/
def Reachable (w : World σ) : Prop := ∃ memory n, st.Leads (st.boot memory n) w

variable {st}

theorem Leads.records {u : World σ} (run : st.Leads w u) :
    ∃ h, w.Between u h ∧ Happens st.machine.limits.dispatchDepth w.toStanding h := by
  have start : (recorded σ st.machine.limits.dispatchDepth 0).domain w := Nat.zero_le _
  induction run with
  | refl => exact ⟨[], .refl w, .nothing⟩
  | run script _ ih =>
    exact (recorded σ _ 0).trans ih (st.run_records script _ (Nat.zero_le _)).2.2
  | turn _ ih => exact (recorded σ _ 0).trans ih (st.turn_records _ (Nat.zero_le _)).2.2

/-! ## Where runs begin -/

/-- Where a store stands before its start expression is evaluated. -/
def blank : Standing := { state := .undefined }

/-- The start expression is evaluated like any other. -/
theorem start_same (c : Course σ) :
    let calls := st.callWith (Code.run st.machine (fun _ => pure (.error (.depthExceeded 0)))
      (pure []))
    c.Same (st.machine.start.eval calls .empty) (st.machine.start.eval calls .empty) := by
  have refused (event : Value) :
      c.Same (pure (.error (.depthExceeded 0)) : Run σ DispatchResult)
        (pure (.error (.depthExceeded 0))) := .pure rfl
  have none : c.Same (pure [] : Run σ (List Value)) (pure []) := .pure rfl
  have calls := Store.callWith_same st fun script => Code.run_same refused st.machine none script
  exact Expr.eval_same calls st.machine.start .empty

theorem boot_records (memory : σ) (n : Nat) :
    ∃ h, (st.boot memory n).toStanding = { blank.replay h with state := (st.boot memory n).state } ∧
      Happens st.machine.limits.dispatchDepth blank h := by
  obtain ⟨-, -, h, between, happens⟩ := start_same (recorded σ _ 0)
    { toStanding := blank, nextAllocation := n, memory } (Nat.zero_le _)
  refine ⟨h, ?_, happens⟩
  rw [← between.standing]
  rfl

theorem Reachable.leads {w u : World σ} (hw : st.Reachable w) (run : st.Leads w u) :
    st.Reachable u := by
  obtain ⟨memory, n, start⟩ := hw
  refine ⟨memory, n, ?_⟩
  induction run with
  | refl => exact start
  | run script _ ih => exact .run script ih
  | turn _ ih => exact .turn ih

/-- Outside of any dispatch none is in progress. -/
theorem Reachable.active_eq_zero (hw : st.Reachable w) : w.active = 0 := by
  obtain ⟨memory, n, run⟩ := hw
  obtain ⟨h, between, happens⟩ := run.records
  obtain ⟨h', start, happens'⟩ := st.boot_records memory n
  rw [between.standing, happens.active_eq, start]
  exact happens'.active_eq

end Store

end RuleMachine
