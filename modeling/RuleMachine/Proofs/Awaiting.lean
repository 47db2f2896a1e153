import RuleMachine.Proofs.Dispatch

/-!
# Await effects and the tasks they leave

An await effect asks its function in its place, among the actions of the rule that fired, and
leaves a task; the value is dispatched when the task has its turn, from outside of any dispatch. No
task is lost and none is served twice, in whatever order tasks wait on and leave further ones:

* `Store.Takes` says all that can come of one await effect;
* `Store.run_leaves`: host code, however deep its dispatches nest, takes a number of await effects
  and leaves their tasks at the end of the queue;
* `Store.Turn` says all that can come of a turn, and `Store.Serves.accounts` balances the tasks of a
  run: those there were and those that await effects left have been served or still wait.
-/

namespace RuleMachine

open Course

section Awaiting

variable [Regex.Engine] {σ α : Type}

/-! ## The scope of an await effect -/

/-- Lets await effects ask on `s`, whatever the scope they are taken on. -/
def Surroundings.awaitingOn (env : Surroundings σ) (s : Scope) : Surroundings σ :=
  { env with await := fun f _ => env.await f s }

section Scopes

variable (env : Surroundings σ) (s : Scope)

@[simp] theorem Surroundings.awaitingOn_call : (env.awaitingOn s).call = env.call := rfl

@[simp] theorem Surroundings.awaitingOn_dispatch :
    (env.awaitingOn s).dispatch = env.dispatch := rfl

@[simp] theorem Surroundings.awaitingOn_events : (env.awaitingOn s).events = env.events := rfl

theorem dispatchEach_awaitingOn (pulls : List (Run σ (Option Value))) :
    dispatchEach (env.awaitingOn s) pulls = dispatchEach env pulls := by
  induction pulls with
  | nil => rfl
  | cons pull pulls ih => simp only [dispatchEach, Surroundings.awaitingOn_dispatch, ih]

mutual

theorem Effect.react_awaitingOn : ∀ e : Effect, e.react (env.awaitingOn s) s = e.react env s
  | .next e actions => by
    simp only [Effect.react, Surroundings.awaitingOn_call, Action.runAll_awaitingOn actions]
  | .only actions => by simp only [Effect.react, Action.runAll_awaitingOn actions]
  | .guarded e c => by
    simp only [Effect.react, Surroundings.awaitingOn_call, Effect.react_awaitingOn e]
  | .alternatives es => by simp only [Effect.react, Effect.reactFirst_awaitingOn es]

theorem Effect.reactFirst_awaitingOn : ∀ es : List Effect,
    Effect.reactFirst (env.awaitingOn s) es s = Effect.reactFirst env es s
  | [] => rfl
  | e :: es => by
    simp only [Effect.reactFirst, Effect.react_awaitingOn e, Effect.reactFirst_awaitingOn es]

theorem Action.run_awaitingOn : ∀ a : Action, a.run (env.awaitingOn s) s = a.run env s
  | .dispatch _ => rfl
  | .await _ => rfl
  | .exec f => by
    simp only [Action.run, Surroundings.awaitingOn_events, dispatchEach_awaitingOn]
  | .nested e => by simp only [Action.run, Effect.react_awaitingOn e]

theorem Action.runAll_awaitingOn : ∀ actions : List Action,
    Action.runAll (env.awaitingOn s) actions s = Action.runAll env actions s
  | [] => rfl
  | a :: rest => by
    simp only [Action.runAll, Action.run_awaitingOn a, Action.runAll_awaitingOn rest]

end

end Scopes

/-! ## What an await effect leaves -/

/-- An await effect that is taken in a run. -/
structure Errand (σ : Type) where
  function : HostFn
  scope : Scope
  /-- The world in which the effect is taken. -/
  before : World σ
  /-- The world in which the next action is taken. -/
  after : World σ
  /-- The task that is left. -/
  task? : Option (Future σ)

/-- What the world notes of an await effect. -/
def Errand.note (e : Errand σ) : HostFn × Scope := (e.function, e.scope)

/-- The one world is no later in a run than the other: what it has written down stands. -/
def World.Precedes (w u : World σ) : Prop :=
  w.history <+: u.history ∧ w.awaited.toList <+: u.awaited.toList

theorem World.Precedes.refl (w : World σ) : w.Precedes w := ⟨List.prefix_rfl, List.prefix_rfl⟩

theorem World.Precedes.trans {u v w : World σ} (first : u.Precedes v) (second : v.Precedes w) :
    u.Precedes w :=
  ⟨first.1.trans second.1, first.2.trans second.2⟩

theorem World.await_toList (w : World σ) (f : HostFn) (s : Scope) :
    (w.await f s).awaited.toList = w.awaited.toList ++ [(f, s)] := Array.toList_push

theorem World.precedes_await (w : World σ) (f : HostFn) (s : Scope) : w.Precedes (w.await f s) :=
  ⟨List.prefix_rfl, [(f, s)], (w.await_toList f s).symm⟩

namespace Store

/-- All that can come of an await effect. With an executor one task is left: an immediate or
deferred function is called for it, once and before anything else happens, and a function that
gives events is not. -/
inductive Takes (st : Store σ) : Errand σ → Prop
  | dropped {f : HostFn} {s : Scope} {w : World σ} :
      st.hasExecutor = false → Takes st ⟨f, s, w, w.await f s, none⟩
  | immediate {f : HostFn} {s : Scope} {w u : World σ} {g : Scope → Script σ Value} {v : Value} :
      st.hasExecutor = true → st.host.behaviour f = .immediate g →
      st.run (g s) ((w.await f s).after (.called f s)) = (v, u) →
      Takes st ⟨f, s, w, u.queue ⟨0, .done (some v)⟩, some ⟨0, .done (some v)⟩⟩
  | deferred {f : HostFn} {s : Scope} {w u : World σ} {g : Scope → Script σ (Future σ)}
      {future : Future σ} :
      st.hasExecutor = true → st.host.behaviour f = .deferred g →
      st.run (g s) ((w.await f s).after (.called f s)) = (future, u) →
      Takes st ⟨f, s, w, u.queue future, some future⟩
  | events {f : HostFn} {s : Scope} {w : World σ}
      {g : Scope → Script σ (List (Script σ (Option Value)))} :
      st.hasExecutor = true → st.host.behaviour f = .events g →
      Takes st ⟨f, s, w, (w.await f s).queue ⟨0, .done (some .undefined)⟩,
        some ⟨0, .done (some .undefined)⟩⟩

/-- Between the two worlds the await effects of the errands have been taken, and no others. Errands
stand in the order in which they leave their tasks; effects taken by what a function does when it
is called are done before its own effect is. -/
structure Runs (st : Store σ) (w u : World σ) (errands : List (Errand σ)) : Prop where
  later : w.Precedes u
  taken : ∀ e ∈ errands, st.Takes e ∧ w.Precedes e.before ∧ e.after.Precedes u
  noted : u.awaited.toList.Perm (w.awaited.toList ++ errands.map Errand.note)

/-- The errands have been run, and all their tasks wait. -/
structure Leaves (st : Store σ) (w u : World σ) (errands : List (Errand σ)) : Prop extends
    st.Runs w u errands where
  queued : u.tasks = w.tasks ++ errands.filterMap Errand.task?

variable {st : Store σ}

theorem Takes.isSome_task? {e : Errand σ} (taken : st.Takes e) :
    e.task?.isSome = st.hasExecutor := by
  cases taken with
  | dropped none => rw [none]; rfl
  | immediate some => rw [some]; rfl
  | deferred some => rw [some]; rfl
  | events some => rw [some]; rfl

theorem Runs.trans {u v w : World σ} {errands errands' : List (Errand σ)}
    (first : st.Runs u v errands) (second : st.Runs v w errands') :
    st.Runs u w (errands ++ errands') where
  later := first.later.trans second.later
  taken e he := by
    rcases List.mem_append.mp he with he | he
    · obtain ⟨taken, begun, done⟩ := first.taken e he
      exact ⟨taken, begun, done.trans second.later⟩
    · obtain ⟨taken, begun, done⟩ := second.taken e he
      exact ⟨taken, first.later.trans begun, done⟩
  noted := by
    rw [List.map_append, ← List.append_assoc]
    exact second.noted.trans (first.noted.append_right _)

theorem Leaves.trans {u v w : World σ} {errands errands' : List (Errand σ)}
    (first : st.Leaves u v errands) (second : st.Leaves v w errands') :
    st.Leaves u w (errands ++ errands') where
  toRuns := first.toRuns.trans second.toRuns
  queued := by rw [second.queued, first.queued, List.filterMap_append, List.append_assoc]

/-- Where no await effect is taken, no errand is run. -/
theorem Leaves.none {w u : World σ} (later : w.history <+: u.history)
    (errands : u.toErrands = w.toErrands) : st.Leaves w u [] where
  later := ⟨later, congrArg Errands.awaited errands ▸ List.prefix_rfl⟩
  taken _ he := nomatch he
  noted := by
    rw [congrArg Errands.awaited errands, List.map_nil, List.append_nil]
  queued := by rw [congrArg Errands.tasks errands, List.filterMap_nil, List.append_nil]

theorem Leaves.refl (w : World σ) : st.Leaves w w [] := .none List.prefix_rfl rfl

theorem Leaves.after (w : World σ) (x : Happening) : st.Leaves w (w.after x) [] :=
  .none ⟨[x], Array.toList_push.symm⟩ rfl

/-- An await effect is taken once what its function does is done. -/
theorem Leaves.take {e : Errand σ} {u : World σ} {errands : List (Errand σ)} (taken : st.Takes e)
    (asked : st.Leaves (e.before.await e.function e.scope) u errands)
    (later : u.Precedes e.after) (awaited : e.after.awaited = u.awaited)
    (tasks : e.after.tasks = u.tasks ++ e.task?.toList) :
    st.Leaves e.before e.after (errands ++ [e]) where
  later := (e.before.precedes_await _ _).trans (asked.later.trans later)
  taken e' he := by
    rcases List.mem_append.mp he with he | he
    · obtain ⟨taken', begun, done⟩ := asked.taken e' he
      exact ⟨taken', (e.before.precedes_await _ _).trans begun, done.trans later⟩
    · obtain rfl := List.mem_singleton.mp he
      exact ⟨taken, .refl _, .refl _⟩
  noted := by
    rw [awaited, List.map_append, List.map_singleton]
    apply asked.noted.trans
    rw [World.await_toList, List.append_assoc]
    exact List.perm_append_comm.append_left _
  queued := by
    have before : (e.before.await e.function e.scope).tasks = e.before.tasks := rfl
    have own : [e].filterMap Errand.task? = e.task?.toList := by
      cases h : e.task? <;> simp [h]
    rw [tasks, asked.queued, before, List.filterMap_append, List.append_assoc, own]

end Store

/-- The worlds with at least `depth` dispatches in progress; changes leave their number alone, and
whatever is left for later is left by await effects. -/
def Course.awaiting (st : Store σ) (depth : Nat) : Course σ where
  domain := (nested σ depth).domain
  moves w u := u.active = w.active ∧ ∃ errands, st.Leaves w u errands
  stays hw moved := (nested σ depth).stays hw moved.1
  trans := by
    rintro u v w ⟨active, errands, first⟩ ⟨active', errands', second⟩
    exact ⟨active'.trans active, _, first.trans second⟩
  quiet {w u} standing journal errands := by
    have active : u.active = w.active := congrArg Standing.active standing
    have later : u.history = w.history := congrArg Array.toList journal
    exact ⟨active, [], .none (later ▸ List.prefix_rfl) errands⟩
  free {w x} hx := ⟨by cases hx <;> rfl, [], .after w x⟩
  entersElsewhere := (nested σ depth).entersElsewhere
  elsewhere {w u limit} _ := by
    rintro ⟨active, errands, leaves⟩
    have all := (Store.Leaves.after w (.enteredElsewhere limit)).trans
      (leaves.trans (.after u .returnedElsewhere))
    exact ⟨congrArg (· - 1) active, _, all⟩

namespace Store

variable {st : Store σ} {depth : Nat}

theorem awaitWith_of_executor {dispatch : Value → Run σ DispatchResult} {f : HostFn} {s : Scope}
    {w u : World σ} {future : Future σ} (executor : st.hasExecutor = true)
    (asked : st.askWith dispatch f s (w.await f s) = (future, u)) :
    st.awaitWith dispatch f s w = ((), u.queue future) := by
  rw [awaitWith, if_pos executor, bind_apply]
  change (st.askWith dispatch f s >>= fun future => modify fun w => w.queue future)
    (w.await f s) = _
  rw [bind_apply, asked]
  rfl

theorem awaitWith_of_no_executor {dispatch : Value → Run σ DispatchResult} {f : HostFn} {s : Scope}
    {w : World σ} (none : ¬ st.hasExecutor = true) :
    st.awaitWith dispatch f s w = ((), w.await f s) := by
  rw [awaitWith, if_neg none]
  rfl

theorem Takes.of_ask {f : HostFn} {s : Scope} {w u : World σ} {future : Future σ}
    (executor : st.hasExecutor = true)
    (asked : st.askWith st.dispatch f s (w.await f s) = (future, u)) :
    st.Takes ⟨f, s, w, u.queue future, some future⟩ := by
  unfold askWith at asked
  cases behaviour : st.host.behaviour f with
  | immediate g =>
    rw [behaviour] at asked
    cases asked
    exact .immediate executor behaviour rfl
  | deferred g =>
    rw [behaviour] at asked
    exact .deferred executor behaviour asked
  | events g =>
    rw [behaviour] at asked
    cases asked
    exact .events executor behaviour

/-- In the place of an await effect nothing comes of it but what `Takes` says. -/
theorem await_takes (hd : ∀ event, (awaiting st depth).Same (st.dispatch event) (st.dispatch event))
    (f : HostFn) (s : Scope) {w : World σ} (hw : depth ≤ w.active) :
    ∃ errands task?, st.Takes ⟨f, s, w, (st.awaitWith st.dispatch f s w).2, task?⟩ ∧
      (st.awaitWith st.dispatch f s w).2.active = w.active ∧
      st.Leaves w (st.awaitWith st.dispatch f s w).2
        (errands ++ [⟨f, s, w, (st.awaitWith st.dispatch f s w).2, task?⟩]) := by
  by_cases executor : st.hasExecutor = true
  · obtain ⟨-, -, active, errands, leaves⟩ := Store.askWith_same hd st f s (w.await f s) hw
    cases asked : st.askWith st.dispatch f s (w.await f s) with
    | mk future u =>
      rw [asked] at active leaves
      rw [awaitWith_of_executor executor asked]
      have taken := Takes.of_ask executor asked
      exact ⟨errands, _, taken, active, .take taken leaves (.refl u) rfl rfl⟩
  · rw [awaitWith_of_no_executor executor]
    have taken : st.Takes ⟨f, s, w, w.await f s, none⟩ := .dropped (eq_false_of_ne_true executor)
    exact ⟨[], _, taken, rfl, .take taken (.refl _) (.refl _) rfl (List.append_nil _).symm⟩

theorem await_same (hd : ∀ event, (awaiting st depth).Same (st.dispatch event) (st.dispatch event))
    (f : HostFn) (s : Scope) :
    (awaiting st depth).Same (st.awaitWith st.dispatch f s) (st.awaitWith st.dispatch f s) := by
  intro w hw
  obtain ⟨errands, task?, -, active, leaves⟩ := await_takes hd f s hw
  exact ⟨rfl, rfl, active, _, leaves⟩

variable (st)

-- The induction is on the room that is left below `depth`: what nests in a dispatch has less of it.
theorem dispatch_awaiting_of_levels {levels : Nat}
    (enough : st.machine.limits.dispatchDepth ≤ levels + depth) (event : Value) :
    (awaiting st depth).Same (st.dispatch event) (st.dispatch event) := by
  induction levels generalizing depth event with
  | zero =>
    intro w hw
    have full : st.machine.limits.dispatchDepth ≤ w.active := by
      change depth ≤ w.active at hw
      omega
    rw [st.dispatch_of_full full]
    exact ⟨rfl, rfl, rfl, [], .after w _⟩
  | succ levels ih =>
    intro w hw
    refine ⟨rfl, rfl, ?_⟩
    rcases Nat.lt_or_ge w.active st.machine.limits.dispatchDepth with room | full
    · have hd (event : Value) : (awaiting st (depth + 1)).Same (st.dispatch event)
          (st.dispatch event) := ih (by omega) event
      have inside : depth + 1 ≤ (w.after (.entered event)).active := Nat.succ_le_succ hw
      obtain ⟨-, -, begun⟩ := Store.fire_same hd st (await_same hd)
        (fun _ _ _ _ w => ⟨rfl, [], .after w _⟩) event _ inside
      have still := (awaiting st (depth + 1)).stays inside begun
      obtain ⟨-, -, passed⟩ := Store.notify_same hd st (fun _ w => ⟨rfl, [], .after w _⟩)
        (st.fire st.dispatch event (w.after (.entered event))).2.subscribers _ still
      obtain ⟨active, errands, leaves⟩ := (awaiting st (depth + 1)).trans begun passed
      rw [st.dispatch_eq, st.dispatchOnce_of_room room, bind_apply, conclude_apply]
      refine ⟨?_, _, (Leaves.after w _).trans (leaves.trans (.after _ (.returned _)))⟩
      change (st.notify st.dispatch _ _).2.active - 1 = w.active
      rw [active]
      rfl
    · rw [st.dispatch_of_full full]
      exact ⟨rfl, [], .after w _⟩

/-- A dispatch leaves nothing for later but by await effects. -/
theorem dispatch_awaiting (event : Value) :
    (awaiting st depth).Same (st.dispatch event) (st.dispatch event) :=
  st.dispatch_awaiting_of_levels (Nat.le_add_right _ depth) event

theorem run_awaiting (script : Script σ α) :
    (awaiting st 0).Same (st.run script) (st.run script) :=
  Store.runWith_same st.dispatch_awaiting st script

theorem run_leaves (script : Script σ α) (w : World σ) :
    ∃ errands, st.Leaves w (st.run script w).2 errands :=
  (st.run_awaiting script w (Nat.zero_le _)).2.2.2

theorem dispatch_leaves (event : Value) (w : World σ) :
    ∃ errands, st.Leaves w (st.dispatch event w).2 errands :=
  (st.dispatch_awaiting event w (Nat.zero_le _)).2.2.2

end Store

/-! ## What comes of turns -/

/-- A turn in which the value of a task is dispatched. -/
structure Service (σ : Type) where
  poll : Script σ (Option Value)
  /-- The world in which the task has left the queue. -/
  before : World σ
  event : Value
  /-- The world in which the value is there. -/
  ready : World σ
  result : DispatchResult
  after : World σ

namespace Store

/-- The value that the task gives is what is dispatched. -/
structure Dispatches (st : Store σ) (x : Service σ) : Prop where
  value : st.run x.poll x.before = (some x.event, x.ready)
  dispatched : st.dispatch x.event x.ready = (x.result, x.after)

/-- All that can come of a turn. -/
inductive Turn (st : Store σ) : World σ → Option (Service σ) → World σ → Prop
  | idle {w : World σ} : w.tasks = [] → Turn st w none w
  | waits {w : World σ} {delay : Nat} {poll : Script σ (Option Value)} {rest : List (Future σ)} :
      w.tasks = ⟨delay + 1, poll⟩ :: rest →
      Turn st w none { w with tasks := rest ++ [⟨delay, poll⟩] }
  | pends {w u : World σ} {poll : Script σ (Option Value)} {rest : List (Future σ)} :
      w.tasks = ⟨0, poll⟩ :: rest → st.run poll { w with tasks := rest } = (none, u) →
      Turn st w none (u.queue ⟨0, poll⟩)
  | serves {w : World σ} {rest : List (Future σ)} {x : Service σ} :
      w.tasks = ⟨0, x.poll⟩ :: rest → x.before = { w with tasks := rest } → st.Dispatches x →
      Turn st w (some x) x.after

/-- One turn after the other, with the services there are in them. -/
inductive Turns (st : Store σ) : World σ → List (Service σ) → World σ → Prop
  | refl (w : World σ) : Turns st w [] w
  | step {u v w : World σ} {x? : Option (Service σ)} {served : List (Service σ)} :
      st.Turn u x? v → Turns st v served w → Turns st u (x?.toList ++ served) w

/-- A run from outside of any dispatch, with the services there are in its turns. -/
inductive Serves (st : Store σ) : World σ → List (Service σ) → World σ → Prop
  | refl (w : World σ) : Serves st w [] w
  | run {w u : World σ} {served : List (Service σ)} {α : Type} (script : Script σ α) :
      Serves st w served u → Serves st w served (st.run script u).2
  | turn {u v w : World σ} {served : List (Service σ)} {x? : Option (Service σ)} :
      Serves st u served v → st.Turn v x? w → Serves st u (served ++ x?.toList) w

/-- The books of a run balance: the tasks there were and those that the errands left are those
served and those that wait. -/
structure Accounts (st : Store σ) (w u : World σ) (errands : List (Errand σ))
    (served : List (Service σ)) : Prop extends st.Runs w u errands where
  settled : ((w.tasks ++ errands.filterMap Errand.task?).map Future.poll).Perm
    (served.map Service.poll ++ u.tasks.map Future.poll)

section Turning

variable {st : Store σ} {w u : World σ}

theorem serve_of_none {poll : Script σ (Option Value)} (polled : st.run poll w = (none, u)) :
    (st.serve poll w).2 = u.queue ⟨0, poll⟩ := by
  rw [serve, bind_apply, polled]
  rfl

theorem Dispatches.serve {x : Service σ} (served : st.Dispatches x) :
    (st.serve x.poll x.before).2 = x.after := by
  rw [Store.serve, bind_apply, served.value]
  change ((st.dispatch x.event >>= fun _ => pure ()) x.ready).2 = _
  rw [bind_apply, served.dispatched]
  rfl

theorem Turn.eq {x? : Option (Service σ)} (h : st.Turn w x? u) : (st.turn w).2 = u := by
  have got : (get : Run σ (World σ)) w = (w, w) := rfl
  rw [turn, bind_apply, got]
  cases h with
  | idle tasks => rw [tasks]; rfl
  | waits tasks => rw [tasks]; rfl
  | pends tasks polled =>
    rw [tasks]
    exact serve_of_none polled
  | serves tasks before served =>
    rw [tasks, ← served.serve, before]
    rfl

/-- In a turn nothing comes of the tasks but what `Turn` says. -/
theorem turn_spec (st : Store σ) (w : World σ) : ∃ x?, st.Turn w x? (st.turn w).2 := by
  suffices h : ∃ x? u, st.Turn w x? u by
    obtain ⟨x?, u, h⟩ := h
    exact ⟨x?, h.eq ▸ h⟩
  match tasks : w.tasks with
  | [] => exact ⟨none, w, .idle tasks⟩
  | ⟨delay + 1, poll⟩ :: rest => exact ⟨none, _, .waits tasks⟩
  | ⟨0, poll⟩ :: rest =>
    match polled : st.run poll { w with tasks := rest } with
    | (none, u) => exact ⟨none, _, .pends tasks polled⟩
    | (some event, u) =>
      match dispatched : st.dispatch event u with
      | (result, u') =>
        let x : Service σ := ⟨poll, { w with tasks := rest }, event, u, result, u'⟩
        exact ⟨some x, u', .serves tasks rfl ⟨polled, dispatched⟩⟩

theorem Turns.drain (st : Store σ) (turns : Nat) (w : World σ) :
    ∃ served, st.Turns w served (st.drain turns w).2 := by
  induction turns generalizing w with
  | zero => exact ⟨[], .refl w⟩
  | succ turns ih =>
    have got : (get : Run σ (World σ)) w = (w, w) := rfl
    rw [Store.drain, bind_apply, got]
    by_cases ended : w.tasks.isEmpty = true
    · rw [if_pos ended]
      exact ⟨[], .refl w⟩
    · rw [if_neg ended, bind_apply]
      obtain ⟨x?, turn⟩ := st.turn_spec w
      obtain ⟨served, rest⟩ := ih (st.turn w).2
      exact ⟨_, .step turn rest⟩

theorem Serves.append {v : World σ} {served more : List (Service σ)} (h : st.Serves w served u)
    (rest : st.Turns u more v) : st.Serves w (served ++ more) v := by
  induction rest generalizing served with
  | refl => rwa [List.append_nil]
  | step turn _ ih =>
    rw [← List.append_assoc]
    exact ih (h.turn turn)

theorem Serves.leads {served : List (Service σ)} (h : st.Serves w served u) : st.Leads w u := by
  induction h with
  | refl => exact .refl w
  | run script _ ih => exact ih.run script
  | turn _ turn ih => exact turn.eq ▸ ih.turn

theorem Leads.serves (run : st.Leads w u) : ∃ served, st.Serves w served u := by
  induction run with
  | refl => exact ⟨[], .refl w⟩
  | run script _ ih =>
    obtain ⟨served, h⟩ := ih
    exact ⟨served, h.run script⟩
  | @turn u _ ih =>
    obtain ⟨served, h⟩ := ih
    obtain ⟨x?, turn⟩ := st.turn_spec u
    exact ⟨_, h.turn turn⟩

end Turning

/-! ## The books of a run -/

section Accounting

variable {st : Store σ} {u v w : World σ} {errands errands' : List (Errand σ)}
variable {served served' : List (Service σ)}

theorem Leaves.accounts (h : st.Leaves w u errands) : st.Accounts w u errands [] where
  toRuns := h.toRuns
  settled := by rw [h.queued, List.map_nil, List.nil_append]

theorem Accounts.refl (w : World σ) : st.Accounts w w [] [] := (Leaves.refl w).accounts

theorem Accounts.trans (first : st.Accounts u v errands served)
    (second : st.Accounts v w errands' served') :
    st.Accounts u w (errands ++ errands') (served ++ served') where
  toRuns := first.toRuns.trans second.toRuns
  settled := by
    rw [List.filterMap_append, List.map_append, List.map_append, List.map_append,
      ← List.append_assoc, ← List.map_append, List.append_assoc]
    apply (first.settled.append_right _).trans
    rw [List.append_assoc, ← List.map_append]
    exact second.settled.append_left _

/-- The first task has been taken out of the queue, and waits on at its end. -/
theorem Leaves.requeue {delay delay' : Nat} {poll : Script σ (Option Value)}
    {rest : List (Future σ)} (tasks : w.tasks = ⟨delay, poll⟩ :: rest)
    (h : st.Leaves { w with tasks := rest } u errands) :
    st.Accounts w (u.queue ⟨delay', poll⟩) errands [] where
  later := h.later
  taken := h.taken
  noted := h.noted
  settled := by
    have queued : (u.queue ⟨delay', poll⟩).tasks = u.tasks ++ [⟨delay', poll⟩] := rfl
    rw [tasks, queued, h.queued]
    exact (List.perm_append_singleton ⟨delay', poll⟩ _).symm.map Future.poll

/-- The first task has been taken out of the queue, and is served. -/
theorem Leaves.serve {x : Service σ} {rest : List (Future σ)}
    (tasks : w.tasks = ⟨0, x.poll⟩ :: rest) (h : st.Leaves { w with tasks := rest } u errands) :
    st.Accounts w u errands [x] where
  later := h.later
  taken := h.taken
  noted := h.noted
  settled := by
    rw [tasks, h.queued]
    exact .refl _

/-- In a turn what is left for later is left by await effects, and the task served is no longer
left. -/
theorem Turn.accounts {x? : Option (Service σ)} (h : st.Turn w x? u) :
    ∃ errands, st.Accounts w u errands x?.toList := by
  cases h with
  | idle => exact ⟨[], .refl _⟩
  | @waits delay poll rest tasks =>
    exact ⟨[], (Leaves.refl { w with tasks := rest }).requeue tasks⟩
  | @pends u poll rest tasks polled =>
    obtain ⟨errands, leaves⟩ := st.run_leaves poll { w with tasks := rest }
    rw [polled] at leaves
    exact ⟨errands, leaves.requeue tasks⟩
  | @serves rest x tasks before served =>
    obtain ⟨errands, asking⟩ := st.run_leaves x.poll x.before
    obtain ⟨errands', dispatching⟩ := st.dispatch_leaves x.event x.ready
    rw [served.value] at asking
    rw [served.dispatched] at dispatching
    rw [before] at asking
    exact ⟨_, (asking.trans dispatching).serve tasks⟩

/-- The books of every run balance. -/
theorem Serves.accounts (h : st.Serves w served u) : ∃ errands, st.Accounts w u errands served := by
  induction h with
  | refl => exact ⟨[], .refl w⟩
  | @run u _ _ script _ ih =>
    obtain ⟨errands, books⟩ := ih
    obtain ⟨errands', more⟩ := st.run_leaves script u
    have all := books.trans more.accounts
    rw [List.append_nil] at all
    exact ⟨_, all⟩
  | turn _ turn ih =>
    obtain ⟨errands, books⟩ := ih
    obtain ⟨errands', more⟩ := turn.accounts
    exact ⟨_, books.trans more⟩

theorem Turns.accounts (h : st.Turns w served u) : ∃ errands, st.Accounts w u errands served := by
  have run : st.Serves w ([] ++ served) u := (Serves.refl w).append h
  exact run.accounts

theorem Runs.awaited_size (h : st.Runs w u errands) :
    u.awaited.size = w.awaited.size + errands.length := by
  simpa using h.noted.length_eq

/-- With an executor each await effect leaves one task, and a task is served once. -/
theorem Accounts.count (h : st.Accounts w u errands served) (executor : st.hasExecutor = true) :
    served.length + u.tasks.length = w.tasks.length + errands.length := by
  have one : (errands.filterMap Errand.task?).length = errands.length := by
    rw [List.length_filterMap_eq_countP, List.countP_eq_length]
    exact fun e he => (h.taken e he).1.isSome_task?.trans executor
  have all := h.settled.length_eq
  simp only [List.length_map, List.length_append, one] at all
  exact all.symm

/-- Without an executor there is nothing to be served but what there was. -/
theorem Accounts.of_no_executor (h : st.Accounts w u errands served)
    (none : st.hasExecutor = false) (start : w.tasks = []) : served = [] ∧ u.tasks = [] := by
  have nothing : errands.filterMap Errand.task? = [] := by
    rw [List.filterMap_eq_nil_iff]
    intro e he
    rw [← Option.isNone_iff_eq_none, ← Option.not_isSome, (h.taken e he).1.isSome_task?, none]
    rfl
  have all := h.settled.symm
  rw [start, nothing] at all
  simpa using all.eq_nil

end Accounting

/-- What a service dispatches is the value of its task, from outside of any dispatch. -/
theorem Turn.admitted {st : Store σ} {w u : World σ} {x : Service σ} (h : st.Turn w (some x) u)
    (outside : w.active = 0) : st.Dispatches x ∧ x.ready.active = 0 := by
  cases h with
  | serves tasks before served =>
    obtain ⟨-, -, active, -⟩ := st.run_awaiting x.poll x.before (Nat.zero_le _)
    rw [served.value, before] at active
    exact ⟨served, active.trans outside⟩

theorem Serves.admitted {st : Store σ} {w u : World σ} {served : List (Service σ)}
    (h : st.Serves w served u) (hw : st.Reachable w) :
    ∀ x ∈ served, st.Dispatches x ∧ x.ready.active = 0 := by
  induction h with
  | refl => exact fun _ hx => nomatch hx
  | run _ _ ih => exact ih
  | turn h turn ih =>
    intro x hx
    rcases List.mem_append.mp hx with hx | hx
    · exact ih x hx
    · obtain rfl := Option.mem_toList.mp hx
      exact turn.admitted (hw.leads h.leads).active_eq_zero

end Store

/-! ## Before the store begins -/

/-- All worlds; nothing that is left for later changes. -/
def Course.errandless (σ : Type) : Course σ where
  domain _ := True
  moves w u := u.toErrands = w.toErrands
  stays _ _ := trivial
  trans first second := second.trans first
  quiet _ _ errands := errands
  free _ := rfl
  entersElsewhere _ _ := trivial
  elsewhere _ moved := moved

namespace Store

/-- The start expression leaves nothing for later. -/
theorem boot_errands (st : Store σ) (memory : σ) (n : Nat) : (st.boot memory n).toErrands = {} :=
  (st.start_same (errandless σ) { toStanding := blank, nextAllocation := n, memory } trivial).2.2

/-! ## Exactly once, and never inline -/

/-- A value that is known when its task is left is the one that is dispatched. -/
theorem Dispatches.of_known {st : Store σ} {x : Service σ} {v : Value} (served : st.Dispatches x)
    (known : x.poll = .done (some v)) : x.event = v ∧ x.ready = x.before := by
  have value := served.value
  rw [known] at value
  obtain ⟨event, ready⟩ := Prod.mk.inj value
  exact ⟨(Option.some.inj event).symm, ready.symm⟩

/-- What it means that what an await effect asks for is dispatched exactly once, and not in the
effect's place. -/
structure AwaitsOnce (st : Store σ) : Prop where
  /-- A dispatch that is nested in another is the same dispatch, made in another world. -/
  nested (event : Value) : st.dispatch event = st.dispatchOnce st.dispatch event
  /-- All await effects of a rule, also those of nested effects, ask on the scope of the match. -/
  onMatch (env : Surroundings σ) (event state : Value) (r : Rule) :
    r.react env event state = do
      match ← r.on.run env.call state event .empty with
      | none => pure none
      | some s => r.effect.react (env.awaitingOn s) s
  /-- The function is asked in the effect's place. -/
  taken (f : HostFn) (s : Scope) (w : World σ) :
    ∃ task?, st.Takes ⟨f, s, w, ((st.surroundings st.dispatch).await f s w).2, task?⟩
  left {e : Errand σ} : st.Takes e → st.hasExecutor = true → ∃ future, e.task? = some future
  dropped {e : Errand σ} : st.Takes e → st.hasExecutor = false →
    e.task? = none ∧ e.after = e.before.await e.function e.scope
  /-- However deep the dispatches of host code nest, it serves no task; those that its await effects
  leave wait behind those there were. -/
  held {α : Type} (script : Script σ α) (w : World σ) :
    ∃ errands, st.Leaves w (st.run script w).2 errands
  turned (w : World σ) : ∃ x?, st.Turn w x? (st.turn w).2
  /-- At the end of a drain the tasks served are those there were at its beginning and those that
  await effects have left meanwhile, each once. -/
  drained (turns : Nat) {w : World σ} : (st.drain turns w).2.tasks = [] →
    ∃ errands served, st.Turns w served (st.drain turns w).2 ∧
      st.Runs w (st.drain turns w).2 errands ∧
      ((w.tasks ++ errands.filterMap Errand.task?).map Future.poll).Perm (served.map Service.poll)
  /-- Along every run, whatever drains there are in it, the books balance. -/
  accounted {w u : World σ} : st.Leads w u →
    ∃ errands served, st.Serves w served u ∧ st.Accounts w u errands served
  /-- From the beginning on, as many tasks have been served or wait as await effects were taken. -/
  counted {memory : σ} {n : Nat} {u : World σ} {served : List (Service σ)} :
    st.Serves (st.boot memory n) served u → st.hasExecutor = true →
    served.length + u.tasks.length = u.awaited.size
  /-- Once a drain ends, as many tasks have been served as await effects were taken. -/
  completed {memory : σ} {n : Nat} {u : World σ} {served : List (Service σ)} (turns : Nat) :
    st.Serves (st.boot memory n) served u → st.hasExecutor = true →
    (st.drain turns u).2.tasks = [] → ∃ more, st.Turns u more (st.drain turns u).2 ∧
      (served ++ more).length = (st.drain turns u).2.awaited.size
  idle {memory : σ} {n : Nat} {u : World σ} {served : List (Service σ)} :
    st.Serves (st.boot memory n) served u → st.hasExecutor = false → served = [] ∧ u.tasks = []
  /-- What a service dispatches is the value of its task. No dispatch is in progress then, so it is
  let in if any dispatch is. -/
  admitted {w u : World σ} {served : List (Service σ)} {x : Service σ} : st.Reachable w →
    st.Serves w served u → x ∈ served → st.Dispatches x ∧ x.ready.active = 0 ∧
    (1 ≤ st.machine.limits.dispatchDepth → ∃ outcome, x.result = .ok outcome ∧
      x.ready.Completes st.machine.limits.dispatchDepth x.event outcome x.after)
  /-- Immediate functions give their value and those that give events undefined when the effect is
  taken, and that is what is dispatched. -/
  known {x : Service σ} {v : Value} : st.Dispatches x → x.poll = .done (some v) →
    x.event = v ∧ x.ready = x.before

theorem Serves.count {st : Store σ} {memory : σ} {n : Nat} {u : World σ} {served : List (Service σ)}
    (h : st.Serves (st.boot memory n) served u) (executor : st.hasExecutor = true) :
    served.length + u.tasks.length = u.awaited.size := by
  obtain ⟨errands, books⟩ := h.accounts
  rw [books.count executor, books.awaited_size, st.boot_errands]
  rfl

/-- What an await effect asks for is dispatched exactly once, and not in the effect's place. -/
theorem awaitsOnce (st : Store σ) : st.AwaitsOnce where
  nested := st.dispatch_eq
  onMatch env event state r := by
    rw [Rule.react]
    congr 1
    funext found
    cases found with
    | none => rfl
    | some s => exact (Effect.react_awaitingOn env s r.effect).symm
  taken f s w := by
    obtain ⟨-, task?, taken, -⟩ := await_takes st.dispatch_awaiting f s (Nat.zero_le w.active)
    exact ⟨task?, taken⟩
  left taken executor := Option.isSome_iff_exists.mp (taken.isSome_task?.trans executor)
  dropped {e} taken none := by
    cases taken with
    | dropped => exact ⟨rfl, rfl⟩
    | immediate executor | deferred executor | events executor =>
      rw [none] at executor
      cases executor
  held script w := st.run_leaves script w
  turned := st.turn_spec
  drained turns {w} ended := by
    obtain ⟨served, run⟩ := Turns.drain st turns w
    obtain ⟨errands, books⟩ := run.accounts
    have settled := books.settled
    rw [ended, List.map_nil, List.append_nil] at settled
    exact ⟨errands, served, run, books.toRuns, settled⟩
  accounted run := by
    obtain ⟨served, h⟩ := run.serves
    obtain ⟨errands, books⟩ := h.accounts
    exact ⟨errands, served, h, books⟩
  counted h executor := h.count executor
  completed {memory n u served} turns h executor ended := by
    obtain ⟨more, rest⟩ := Turns.drain st turns u
    have all := (h.append rest).count executor
    rw [ended] at all
    exact ⟨more, rest, all⟩
  idle {memory n u served} h none := by
    obtain ⟨errands, books⟩ := h.accounts
    exact books.of_no_executor none (congrArg Errands.tasks (st.boot_errands memory n))
  admitted {w u served x} hw h hx := by
    obtain ⟨served, outside⟩ := h.admitted hw x hx
    refine ⟨served, outside, ?_⟩
    intro some
    obtain ⟨outcome, ok, completes⟩ :=
      st.dispatch_of_room_records x.event (w := x.ready) (outside ▸ some)
    rw [served.dispatched] at ok completes
    exact ⟨outcome, ok, completes⟩
  known served known := served.of_known known

end Store

end Awaiting

/-! ## Tasks that leave tasks -/

section Fetching

attribute [local instance] Regex.Engine.literal

namespace Store

namespace Fetching

def slow : HostFn := ⟨0, "slow"⟩

def fast : HostFn := ⟨1, "fast"⟩

def stream : HostFn := ⟨2, "stream"⟩

/-- The value of the slow function is not there when it is first asked for. The value of the fast
one makes a rule await the slow one again. -/
def store : Store Nat where
  machine :=
    { start := .const .null
      rules :=
        [⟨.event (.literal (.bool true)), .only [.await slow, .await fast, .await stream]⟩,
          ⟨.event (.literal .null), .only [.await slow]⟩]
      extensions := [], states := [], actions := [], limits := {} }
  host :=
    { behaviour
        | ⟨0, _⟩ => .deferred fun _ => .done ⟨0, .read fun n =>
            .write (n + 1) (.done (if n = 0 then none else some (.bool false)))⟩
        | ⟨1, _⟩ => .immediate fun _ => .done .null
        | _ => .events fun _ => .done []
      callback := fun _ => .done () }

def before : World Nat := (store.run (.dispatch (.bool true) fun _ => .done ()) (store.boot 0 0)).2

def after : World Nat := (store.drain 10 before).2

end Fetching

open Fetching

theorem awaitsOnce_fetching :
    store.AwaitsOnce ∧ store.Reachable before ∧ before.tasks.length = 3 ∧ after.tasks = [] ∧
      after.awaited.toList = [(slow, .empty), (fast, .empty), (stream, .empty), (slow, .empty)] ∧
      after.history =
        [.entered (.bool true), .fired 0 .null .null none, .called slow .empty,
          .called fast .empty, .returned (.matched 0 false),
          .entered .null, .fired 1 .null .null none, .called slow .empty,
          .returned (.matched 1 false),
          .entered .undefined, .returned .unmatched,
          .entered (.bool false), .returned .unmatched,
          .entered (.bool false), .returned .unmatched] :=
  ⟨awaitsOnce store, ⟨0, 0, .run _ (.refl _)⟩, rfl, rfl, rfl, rfl⟩

end Store

end Fetching

end RuleMachine
