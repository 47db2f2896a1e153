import RuleMachine.Proofs.Executing
import RuleMachine.Proofs.Operands
import RuleMachine.Proofs.Selection

/-!
# Taking actions

An effect is chosen first, and its actions are taken later. `Store.Chooses` says what is evaluated
in choosing: guards, and the next state of the alternative that is chosen. `Store.Performs` says
what one action does, all the way down through alternatives in brackets, and `Store.PerformsAll`
what a row of actions does: each of them begins in the world in which the one before it has ended,
on the scope of the match, and ends when all that it has caused is over (`Store.Performs.spans`).
-/

namespace RuleMachine

/-! ## Calls and what they bring about -/

/-- Host functions are called one after the other, and all that a call brings about is over before
the next. -/
inductive Unfolds (limit : Nat) : List Happening → Standing → List Happening → Prop
  | nothing {s : Standing} : Unfolds limit [] s []
  | next {s : Standing} {x : Happening} {xs h h' : List Happening} :
      x.Free s → Happens limit (s.after x) h → Unfolds limit xs ((s.after x).replay h) h' →
      Unfolds limit (x :: xs) s (x :: (h ++ h'))

theorem Unfolds.happens {limit : Nat} {s : Standing} {xs h : List Happening}
    (unfolds : Unfolds limit xs s h) : Happens limit s h := by
  induction unfolds with
  | nothing => exact .nothing
  | next free first _ ih => exact .next (.free free) (first.append ih)

theorem Unfolds.append {limit : Nat} {s : Standing} {xs ys h h' : List Happening}
    (first : Unfolds limit xs s h) (second : Unfolds limit ys (s.replay h) h') :
    Unfolds limit (xs ++ ys) s (h ++ h') := by
  induction first with
  | nothing => exact second
  | @next s x xs h₁ h₂ free called _ ih =>
    rw [Standing.replay_cons, Standing.replay_append] at second
    rw [List.cons_append, List.cons_append, List.append_assoc]
    exact .next free called (ih second)

section Acting

variable [Regex.Engine] {σ α β : Type}

namespace Store

/-- How many dispatches may be in progress. -/
abbrev depth (st : Store σ) : Nat := st.machine.limits.dispatchDepth

/-- What effects are given. -/
abbrev env (st : Store σ) : Surroundings σ := st.surroundings st.dispatch

/-- Between the two worlds `h` has happened, and every dispatch that begins in it ends in it. -/
structure Spans (st : Store σ) (w : World σ) (h : List Happening) (u : World σ) : Prop where
  between : w.Between u h
  happens : Happens st.depth w.toStanding h

theorem Spans.refl (st : Store σ) (w : World σ) : st.Spans w [] w := ⟨.refl w, .nothing⟩

theorem Spans.trans {st : Store σ} {u v w : World σ} {h h' : List Happening}
    (first : st.Spans w h v) (second : st.Spans v h' u) : st.Spans w (h ++ h') u where
  between := first.between.trans second.between
  happens := first.happens.append (first.between.standing ▸ second.happens)

/-- Between the two worlds `h` has happened: the calls, with all that they bring about. -/
structure Makes (st : Store σ) (calls : List Happening) (w : World σ) (h : List Happening)
    (u : World σ) : Prop where
  between : w.Between u h
  unfolds : Unfolds st.depth calls w.toStanding h

variable {st : Store σ} {calls calls' h h' : List Happening} {u v w : World σ}

theorem Makes.spans (made : st.Makes calls w h u) : st.Spans w h u :=
  ⟨made.between, made.unfolds.happens⟩

theorem Makes.append (first : st.Makes calls w h v) (second : st.Makes calls' v h' u) :
    st.Makes (calls ++ calls') w (h ++ h') u where
  between := first.between.trans second.between
  unfolds := first.unfolds.append (first.between.standing ▸ second.unfolds)

/-- The calls are all that happens, but for what they bring about. -/
def Calling (st : Store σ) (calls : List Happening) (p : Run σ α) : Prop :=
  ∀ w, ∃ h, st.Makes calls w h (p w).2

theorem calling_of_quiet {p : Run σ α} (standing : ∀ w, (p w).2.toStanding = w.toStanding)
    (journal : ∀ w, (p w).2.journal = w.journal) : st.Calling [] p := by
  intro w
  have history : (p w).2.history = w.history := congrArg Array.toList (journal w)
  exact ⟨[], ⟨history.trans (List.append_nil _).symm, standing w⟩, .nothing⟩

theorem addsUp_calling (st : Store σ) : AddsUp (σ := σ) fun _ => st.Calling where
  pure _ := calling_of_quiet (fun _ => rfl) fun _ => rfl
  allocate := calling_of_quiet (fun _ => rfl) fun _ => rfl
  compare _ _ _ := calling_of_quiet (fun _ => rfl) fun _ => rfl
  bind first rest := by
    intro w
    obtain ⟨h, here⟩ := first w
    obtain ⟨h', there⟩ := rest _ _
    exact ⟨h ++ h', here.append there⟩

/-- Host code that is run right after a call. -/
theorem calling_script (st : Store σ) (f : HostFn) (s : Scope) (script : Script σ α) :
    st.Calling [.called f s] (do
      World.happen (.called f s)
      st.runWith st.dispatch script) := by
  intro w
  obtain ⟨-, -, h, between, happens⟩ :=
    Store.runWith_same st.dispatch_records st script (w.after (.called f s)) (Nat.zero_le _)
  refine ⟨.called f s :: (h ++ []), ?_, .next (.called f s) happens .nothing⟩
  rw [List.append_nil]
  exact (World.Between.after w _).trans between

/-- The same with more to be done after it. -/
theorem calling_script_quietly (st : Store σ) (f : HostFn) (s : Scope) (script : Script σ α)
    {k : α → Run σ β} (quiet : ∀ a, st.Calling [] (k a)) : st.Calling [.called f s] (do
      World.happen (.called f s)
      let a ← st.runWith st.dispatch script
      k a) := by
  have both := (addsUp_calling st).quietly (st.calling_script f s script) quiet
  rw [bind_assoc] at both
  exact both

theorem calling_call (st : Store σ) (f : HostFn) (s : Scope) :
    st.Calling (st.calls [f] s) (st.env.call f s) := by
  change st.Calling _ (st.callWith (st.runWith st.dispatch) f s)
  unfold Store.callWith
  cases behaves : st.host.behaviour f with
  | immediate g =>
    have called : st.calls [f] s = [.called f s] := by simp [Store.calls, behaves]
    rw [called]
    exact st.calling_script f s (g s)
  | deferred g | events g =>
    have uncalled : st.calls [f] s = [] := by simp [Store.calls, behaves]
    rw [uncalled]
    exact (addsUp_calling st).pure _

theorem calling_eval (st : Store σ) (e : Expr) (s : Scope) :
    st.Calling (st.calls e.functions s) (e.eval st.env.call s) :=
  Expr.eval_addsUp (addsUp_calling st) st.calling_call e s

theorem calling_test (st : Store σ) (c : Cond) (s : Scope) :
    st.Calling (st.calls c.functions s) (c.test st.env.call s) :=
  Cond.test_addsUp (addsUp_calling st) st.calling_call c s

/-! ## Choosing -/

/-- What comes of choosing an effect: the state to move to and the actions, or nothing. `fs` are the
functions that occur in what is evaluated for it, in order: guards as far as they are tried, and the
next state. The actions are handed on as they are. -/
inductive Chooses (st : Store σ) (s : Scope) :
    Effect → World σ → List HostFn → Option (Option Value × List Action) → World σ → Prop
  | next {e : Expr} {actions : List Action} {w u : World σ} {v : Value} :
      e.eval st.env.call s w = (v, u) →
      Chooses st s (.next e actions) w e.functions (some (nextState v, actions)) u
  | only {actions : List Action} {w : World σ} :
      Chooses st s (.only actions) w [] (some (none, actions)) w
  | holds {e : Effect} {c : Cond} {w v u : World σ} {fs : List HostFn}
      {chosen : Option (Option Value × List Action)} :
      c.test st.env.call s w = (true, v) → Chooses st s e v fs chosen u →
      Chooses st s (.guarded e c) w (c.functions ++ fs) chosen u
  | fails {e : Effect} {c : Cond} {w u : World σ} :
      c.test st.env.call s w = (false, u) → Chooses st s (.guarded e c) w c.functions none u
  | exhausted {w : World σ} : Chooses st s (.alternatives []) w [] none w
  | first {e : Effect} {es : List Effect} {w u : World σ} {fs : List HostFn}
      {chosen : Option Value × List Action} :
      Chooses st s e w fs (some chosen) u →
      Chooses st s (.alternatives (e :: es)) w fs (some chosen) u
  | later {e : Effect} {es : List Effect} {w v u : World σ} {fs gs : List HostFn}
      {chosen : Option (Option Value × List Action)} :
      Chooses st s e w fs none v → Chooses st s (.alternatives es) v gs chosen u →
      Chooses st s (.alternatives (e :: es)) w (fs ++ gs) chosen u

/-- The reaction that a choice is: its actions are still to be taken. -/
def reaction (st : Store σ) (s : Scope) (chosen : Option Value × List Action) : Reaction σ :=
  ⟨chosen.1, Action.runAll st.env chosen.2 s⟩

theorem Chooses.react {s : Scope} {e : Effect} {fs : List HostFn}
    {chosen : Option (Option Value × List Action)} (chooses : st.Chooses s e w fs chosen u) :
    e.react st.env s w = (chosen.map (st.reaction s), u) := by
  induction chooses with
  | next evaluated =>
    rw [Effect.react, bind_apply, evaluated]
    rfl
  | only => rfl
  | holds tested _ ih =>
    rw [Effect.react, bind_apply, tested]
    exact ih
  | fails tested =>
    rw [Effect.react, bind_apply, tested]
    rfl
  | exhausted => rfl
  | first _ ih =>
    rw [Effect.react, Effect.reactFirst, bind_apply, ih]
    rfl
  | later _ _ ih ih' =>
    rw [Effect.react, Effect.reactFirst, bind_apply, ih]
    rw [Effect.react] at ih'
    exact ih'

/-- The functions that choosing calls are those of the guards and of the next state. -/
theorem Chooses.makes {s : Scope} {e : Effect} {fs : List HostFn}
    {chosen : Option (Option Value × List Action)} (chooses : st.Chooses s e w fs chosen u) :
    ∃ h, st.Makes (st.calls fs s) w h u := by
  induction chooses with
  | @next e _ w _ _ evaluated =>
    have made := st.calling_eval e s w
    rw [evaluated] at made
    exact made
  | only | exhausted => exact ⟨[], .refl _, .nothing⟩
  | @holds _ c w _ _ _ _ tested _ ih =>
    obtain ⟨h, made⟩ := st.calling_test c s w
    obtain ⟨h', made'⟩ := ih
    rw [tested] at made
    rw [st.calls_append]
    exact ⟨h ++ h', made.append made'⟩
  | @fails _ c w _ tested =>
    have made := st.calling_test c s w
    rw [tested] at made
    exact made
  | first _ ih => exact ih
  | later _ _ ih ih' =>
    obtain ⟨h, made⟩ := ih
    obtain ⟨h', made'⟩ := ih'
    rw [st.calls_append]
    exact ⟨h ++ h', made.append made'⟩

/-! ## Taking -/

/-- A dispatch from its beginning to its end, with the notifications of the subscribers, or its
refusal. -/
inductive Sends (st : Store σ) (event : Value) (w : World σ) : List Happening → World σ → Prop
  | refused : st.depth ≤ w.active → Sends st event w [.refused event] (w.after (.refused event))
  | completes {u : World σ} {body pass : List Happening} {outcome : Dispatched} :
      w.active < st.depth →
      w.Between u (.entered event :: body ++ pass ++ [.returned outcome]) →
      Fires st.depth (w.toStanding.after (.entered event)) body outcome →
      Notifies st.depth ((w.toStanding.after (.entered event)).replay body).subscribers
        ((w.toStanding.after (.entered event)).replay body) pass →
      Sends st event w (.entered event :: body ++ pass ++ [.returned outcome]) u

/-- The call that is made for a value that is there later. -/
def asks (st : Store σ) (f : HostFn) (s : Scope) : List Happening :=
  match st.host.behaviour f with
  | .events _ => []
  | .immediate _ | .deferred _ => [.called f s]

/-- The call that is made for events. -/
def feeds (st : Store σ) (f : HostFn) (s : Scope) : List Happening :=
  match st.host.behaviour f with
  | .deferred _ => []
  | .immediate _ | .events _ => [.called f s]

theorem calling_ask (st : Store σ) (f : HostFn) (s : Scope) :
    st.Calling (st.asks f s) (st.askWith st.dispatch f s) := by
  unfold Store.askWith asks
  cases st.host.behaviour f with
  | immediate g => exact st.calling_script_quietly f s (g s) fun _ => (addsUp_calling st).pure _
  | deferred g => exact st.calling_script f s (g s)
  | events g => exact (addsUp_calling st).pure _

theorem calling_await (st : Store σ) (f : HostFn) (s : Scope) :
    st.Calling (if st.hasExecutor then st.asks f s else []) (st.awaitWith st.dispatch f s) := by
  have noted : st.Calling [] (modify fun w : World σ => w.await f s) :=
    calling_of_quiet (fun _ => rfl) fun _ => rfl
  have queued (future : Future σ) : st.Calling [] (modify fun w : World σ => w.queue future) :=
    calling_of_quiet (fun _ => rfl) fun _ => rfl
  refine (addsUp_calling st).bind noted fun _ => ?_
  cases st.hasExecutor with
  | false => exact (addsUp_calling st).pure ()
  | true => exact (addsUp_calling st).quietly (st.calling_ask f s) queued

theorem calling_events (st : Store σ) (f : HostFn) (s : Scope) :
    st.Calling (st.feeds f s) (st.eventsWith st.dispatch f s) := by
  unfold Store.eventsWith feeds
  cases st.host.behaviour f with
  | immediate g =>
    apply st.calling_script_quietly f s (g s)
    intro v
    cases v <;> exact (addsUp_calling st).pure _
  | deferred g => exact (addsUp_calling st).pure _
  | events g => exact st.calling_script_quietly f s (g s) fun _ => (addsUp_calling st).pure _

theorem sends_dispatch (st : Store σ) (event : Value) (w : World σ) :
    ∃ h, st.Sends event w h (st.dispatch event w).2 := by
  rcases Nat.lt_or_ge w.active st.depth with room | full
  · obtain ⟨outcome, -, body, pass, between, fires, notifies⟩ :=
      st.dispatch_of_room_records event room
    exact ⟨_, .completes room between fires notifies⟩
  · rw [st.dispatch_of_full full]
    exact ⟨_, .refused full⟩

theorem Sends.spans {event : Value} (sends : st.Sends event w h u) : st.Spans w h u := by
  cases sends with
  | refused full => exact ⟨.after w _, (Occurs.refused event full).happens⟩
  | completes room between fires notifies =>
    exact ⟨between, (Occurs.dispatched event room fires notifies).happens⟩

theorem spans_events (st : Store σ) (f : HostFn) (s : Scope) (w : World σ) :
    ∃ h, st.Spans (st.eventsWith st.dispatch f s w).2 h
      (dispatchEach st.env (st.eventsWith st.dispatch f s w).1
        (st.eventsWith st.dispatch f s w).2).2 := by
  obtain ⟨recorded, -, -⟩ :=
    Store.eventsWith_inStep st.dispatch_records st f s w (Nat.zero_le _)
  obtain ⟨-, -, h, between, happens⟩ :=
    dispatchEach_same st.surroundings_records recorded _ (Nat.zero_le _)
  exact ⟨h, between, happens⟩

mutual

/-- What an action does that is taken on a scope: `h` is all that happens from the one world to the
other. -/
inductive Performs (st : Store σ) (s : Scope) :
    Action → World σ → List Happening → World σ → Prop
  /-- The event is evaluated, and then it is dispatched. -/
  | dispatch {e : Expr} {w v u : World σ} {event : Value} {answer : DispatchResult}
      {h h' : List Happening} :
      e.eval st.env.call s w = (event, v) → st.Makes (st.calls e.functions s) w h v →
      st.dispatch event v = (answer, u) → st.Sends event v h' u →
      Performs st s (.dispatch e) w (h ++ h') u
  /-- The function is asked; what it gives is dispatched another time. -/
  | await {f : HostFn} {w u : World σ} {h : List Happening} :
      st.awaitWith st.dispatch f s w = ((), u) →
      st.Makes (if st.hasExecutor then st.asks f s else []) w h u →
      Performs st s (.await f) w h u
  /-- The function is called, and then the events are dispatched that it gives. -/
  | exec {f : HostFn} {w v u : World σ} {pulls : List (Run σ (Option Value))}
      {h h' : List Happening} :
      st.eventsWith st.dispatch f s w = (pulls, v) → st.Makes (st.feeds f s) w h v →
      dispatchEach st.env pulls v = ((), u) → st.Spans v h' u →
      Performs st s (.exec f) w (h ++ h') u
  /-- An alternative is chosen, and its actions are taken. Its next state is passed over. -/
  | nested {e : Effect} {w v u : World σ} {fs : List HostFn} {next : Option Value}
      {actions : List Action} {h : List Happening} {hs : List (List Happening)} :
      st.Chooses s e w fs (some (next, actions)) v → st.Makes (st.calls fs s) w h v →
      PerformsAll st s actions v hs u →
      Performs st s (.nested e) w (h ++ hs.flatten) u
  /-- No alternative is chosen, and nothing is done. -/
  | idle {e : Effect} {w u : World σ} {fs : List HostFn} {h : List Happening} :
      st.Chooses s e w fs none u → st.Makes (st.calls fs s) w h u → Performs st s (.nested e) w h u

/-- Actions are taken one after the other, all of them on the same scope: each begins in the world
in which the one before it has ended. `hs` is what happens in each. -/
inductive PerformsAll (st : Store σ) (s : Scope) :
    List Action → World σ → List (List Happening) → World σ → Prop
  | done (w : World σ) : PerformsAll st s [] w [] w
  | next {a : Action} {rest : List Action} {w v u : World σ} {h : List Happening}
      {hs : List (List Happening)} :
      Performs st s a w h v → PerformsAll st s rest v hs u →
      PerformsAll st s (a :: rest) w (h :: hs) u

end

section

variable {s : Scope}

mutual

/-- When an action is finished, so is all that it has caused. -/
theorem Performs.spans : ∀ {a : Action} {w u : World σ} {h : List Happening},
    st.Performs s a w h u → st.Spans w h u
  | _, _, _, _, .dispatch _ made _ sends => made.spans.trans sends.spans
  | _, _, _, _, .await _ made => made.spans
  | _, _, _, _, .exec _ made _ dispatched => made.spans.trans dispatched
  | _, _, _, _, .nested _ made all => made.spans.trans all.spans
  | _, _, _, _, .idle _ made => made.spans

theorem PerformsAll.spans : ∀ {actions : List Action} {w u : World σ} {hs : List (List Happening)},
    st.PerformsAll s actions w hs u → st.Spans w hs.flatten u
  | _, _, _, _, .done w => .refl st w
  | _, _, _, _, .next first rest => first.spans.trans rest.spans

end

mutual

/-- It does nothing else. -/
theorem Performs.run : ∀ {a : Action} {w u : World σ} {h : List Happening},
    st.Performs s a w h u → a.run st.env s w = ((), u)
  | _, _, _, _, .dispatch evaluated _ dispatched _ => by
    rw [Action.run, bind_apply, evaluated, bind_apply]
    exact congrArg (fun x => ((), x.2)) dispatched
  | _, _, _, _, .await awaited _ => awaited
  | _, _, _, _, .exec given _ dispatched _ => by
    have events : st.env.events _ s _ = _ := given
    rw [Action.run, bind_apply, events]
    exact dispatched
  | _, _, _, _, .nested chooses _ all => by
    rw [Action.run, bind_apply, chooses.react]
    exact all.runAll
  | _, _, _, _, .idle chooses _ => by
    rw [Action.run, bind_apply, chooses.react]
    rfl

theorem PerformsAll.runAll : ∀ {actions : List Action} {w u : World σ} {hs : List (List Happening)},
    st.PerformsAll s actions w hs u → Action.runAll st.env actions s w = ((), u)
  | _, _, _, _, .done w => rfl
  | _, _, _, _, .next first rest => by
    rw [Action.runAll, bind_apply, first.run]
    exact rest.runAll

end

/-- An effect is chosen or passed over in every world, and if it is chosen, its actions can be taken
in every world. -/
def Settles (st : Store σ) (s : Scope) (e : Effect) : Prop :=
  ∀ w, ∃ fs chosen u, st.Chooses s e w fs chosen u ∧
    ∀ next actions, chosen = some (next, actions) → ∀ v, ∃ hs x, st.PerformsAll s actions v hs x

variable (st s)

mutual

theorem settles : ∀ e : Effect, st.Settles s e
  | .next e actions => by
    intro w
    refine ⟨_, _, _, .next rfl, ?_⟩
    rintro _ _ ⟨⟩
    exact performsAll actions
  | .only actions => by
    intro w
    refine ⟨_, _, _, .only, ?_⟩
    rintro _ _ ⟨⟩
    exact performsAll actions
  | .guarded e c => by
    intro w
    cases tested : c.test st.env.call s w with
    | mk holds v =>
      cases holds with
      | false => exact ⟨_, none, v, .fails tested, nofun⟩
      | true =>
        obtain ⟨fs, chosen, u, chooses, acts⟩ := settles e v
        exact ⟨_, chosen, u, .holds tested chooses, acts⟩
  | .alternatives es => settlesFirst es

theorem settlesFirst : ∀ es : List Effect, st.Settles s (.alternatives es)
  | [] => fun w => ⟨[], none, w, .exhausted, nofun⟩
  | e :: es => by
    intro w
    obtain ⟨fs, chosen, v, chooses, acts⟩ := settles e w
    cases chosen with
    | none =>
      obtain ⟨gs, chosen, u, others, acts⟩ := settlesFirst es v
      exact ⟨_, chosen, u, .later chooses others, acts⟩
    | some chosen => exact ⟨fs, some chosen, v, .first chooses, acts⟩

theorem performs : ∀ (a : Action) (w : World σ), ∃ h u, st.Performs s a w h u
  | .dispatch e, w => by
    obtain ⟨h, made⟩ := st.calling_eval e s w
    obtain ⟨h', sends⟩ := st.sends_dispatch (e.eval st.env.call s w).1 (e.eval st.env.call s w).2
    exact ⟨h ++ h', _, .dispatch rfl made rfl sends⟩
  | .await f, w => by
    obtain ⟨h, made⟩ := st.calling_await f s w
    exact ⟨h, _, .await rfl made⟩
  | .exec f, w => by
    obtain ⟨h, made⟩ := st.calling_events f s w
    obtain ⟨h', dispatched⟩ := st.spans_events f s w
    exact ⟨h ++ h', _, .exec rfl made rfl dispatched⟩
  | .nested e, w => by
    obtain ⟨fs, chosen, v, chooses, acts⟩ := settles e w
    obtain ⟨h, made⟩ := chooses.makes
    cases chosen with
    | none => exact ⟨h, v, .idle chooses made⟩
    | some chosen =>
      obtain ⟨next, actions⟩ := chosen
      obtain ⟨hs, u, all⟩ := acts next actions rfl v
      exact ⟨h ++ hs.flatten, u, .nested chooses made all⟩

theorem performsAll : ∀ (actions : List Action) (w : World σ),
    ∃ hs u, st.PerformsAll s actions w hs u
  | [], w => ⟨[], w, .done w⟩
  | a :: rest, w => by
    obtain ⟨h, v, first⟩ := performs a w
    obtain ⟨hs, u, all⟩ := performsAll rest v
    exact ⟨h :: hs, u, .next first all⟩

end

end

/-- The state moves only in dispatches that begin meanwhile. -/
theorem Spans.trying (spans : st.Spans w h u) {before later : List Happening} {rule : Nat}
    {matched replaced : Value} {next : Option Value}
    (fired : h = before ++ .fired rule matched replaced next :: later) :
    Trying st.depth w.toStanding before matched := by
  have happens := spans.happens
  rw [fired] at happens
  exact happens.allowed.1

theorem Spans.state_eq (spans : st.Spans w h u) :
    u.state = (transitions h).getLast?.getD w.state := by
  rw [spans.between.standing, Standing.state_replay]

/-! ## Rules that fire -/

/-- What comes before the actions of the rule that fires when `event` is dispatched in `w`, and what
comes after them. The rule `r` matches on the scope `s`, and its effect is chosen. The store moves
to the state that this gives, and is in the world `start` then. The actions are taken from there,
on the same scope. At last the subscribers are notified. -/
inductive Acts (st : Store σ) (event : Value) (w : World σ) (rule : Nat) (moved : Bool) :
    World σ → Prop
  | taken {states : List Value} {j : Nat} {r : Rule} {v : Value} {s : Scope} {next : Option Value}
      {actions : List Action} {fs : List HostFn} {hs : List (List Happening)}
      {w₀ w₁ w₂ w₃ start finish : World σ} :
      st.closure st.dispatch w.state (w.after (.entered event)) = (states, w₀) →
      st.machine.rules[rule]? = some r → states[j]? = some v →
      Fails st.env event (earlier st.machine.rules states rule j) w₀ w₁ →
      r.on.run st.env.call v event .empty w₁ = (some s, w₂) →
      st.Chooses s r.effect w₂ fs (some (next, actions)) w₃ → moved = next.isSome →
      start = w₃.after (.fired rule w.state w₃.state next) → start.state = next.getD w₃.state →
      st.PerformsAll s actions start hs finish →
      Acts st event w rule moved (st.conclude st.dispatch (.matched rule moved) finish).2

/-- What it means that the actions of a rule are taken in order, on the scope of the match, and not
before the state is committed. -/
structure TakesInOrder (st : Store σ) : Prop where
  /-- A dispatch that is nested in another is the same dispatch, made in another world. -/
  nested (event : Value) : st.dispatch event = st.dispatchOnce st.dispatch event
  /-- When an effect is chosen, guards are evaluated and a next state, and no action is. -/
  chooses (e : Effect) (s : Scope) (w : World σ) : ∃ fs chosen h u,
    st.Chooses s e w fs chosen u ∧ st.Makes (st.calls fs s) w h u ∧
      e.react st.env s w = (chosen.map (st.reaction s), u)
  /-- The actions are taken when they are run, from whatever world that is. -/
  takes (actions : List Action) (s : Scope) (w : World σ) : ∃ hs u,
    st.PerformsAll s actions w hs u ∧ Action.runAll st.env actions s w = ((), u)
  /-- When an action is finished, so is every dispatch that it has caused. -/
  finished {s : Scope} {a : Action} {w u : World σ} {h : List Happening} :
    st.Performs s a w h u → st.Spans w h u
  /-- An action moves the state by dispatches alone: each rule that fires has been matched in a
  dispatch that began meanwhile. -/
  moves {s : Scope} {a : Action} {w u : World σ} {h : List Happening} : st.Performs s a w h u →
    u.state = (transitions h).getLast?.getD w.state ∧
      ∀ before later rule matched replaced next,
        h = before ++ .fired rule matched replaced next :: later →
        Trying st.depth w.toStanding before matched
  fires {event : Value} {w u : World σ} {rule : Nat} {moved : Bool} :
    st.dispatch event w = (.ok (.matched rule moved), u) → st.Acts event w rule moved u

theorem Settles.react {s : Scope} {e : Effect} (settles : st.Settles s e) {r : Reaction σ}
    (reacted : e.react st.env s w = (some r, u)) : ∃ fs next actions,
      st.Chooses s e w fs (some (next, actions)) u ∧ r = st.reaction s (next, actions) ∧
      ∀ v, ∃ hs x, st.PerformsAll s actions v hs x := by
  obtain ⟨fs, chosen, v, chooses, acts⟩ := settles w
  have same := chooses.react.symm.trans reacted
  cases chosen with
  | none => cases same
  | some chosen =>
    obtain ⟨next, actions⟩ := chosen
    cases same
    exact ⟨fs, next, actions, chooses, rfl, acts next actions rfl⟩

/-- A dispatch in which a rule fires. -/
theorem select_of_matched {event : Value} {rule : Nat} {moved : Bool}
    (fired : st.dispatch event w = (.ok (.matched rule moved), u)) : ∃ reaction v,
      st.select st.dispatch event w.state (w.after (.entered event)) =
        (some (rule, reaction), v) ∧
      moved = reaction.next.isSome ∧
      u = (st.conclude st.dispatch (.matched rule moved)
        (reaction.thunk (v.after (.fired rule w.state v.state reaction.next))).2).2 := by
  have room : w.active < st.depth := by
    by_contra full
    rw [st.dispatch_of_full (Nat.le_of_not_lt full)] at fired
    cases fired
  rw [st.dispatch_eq, st.dispatchOnce_of_room room, bind_apply] at fired
  cases selected : st.select st.dispatch event w.state (w.after (.entered event)) with
  | mk found v =>
    cases found with
    | none =>
      rw [st.fire_of_none selected] at fired
      cases fired
    | some winner =>
      obtain ⟨number, reaction⟩ := winner
      rw [st.fire_of_some selected, conclude_apply] at fired
      cases fired
      exact ⟨reaction, v, rfl, rfl, rfl⟩

theorem acts_of_matched {event : Value} {rule : Nat} {moved : Bool}
    (fired : st.dispatch event w = (.ok (.matched rule moved), u)) :
    st.Acts event w rule moved u := by
  obtain ⟨reaction, w₃, selected, moves, rfl⟩ := select_of_matched fired
  cases closed : st.closure st.dispatch w.state (w.after (.entered event)) with
  | mk states w₀ =>
    rw [select, bind_apply, closed] at selected
    obtain ⟨i, j, r, v, w₁, number, atRule, atState, failed, reacted⟩ := selectRule_some selected
    obtain rfl : rule = i := number.trans (Nat.zero_add i)
    obtain ⟨s, w₂, matched, chosen⟩ := r.react_some reacted
    obtain ⟨fs, next, actions, chooses, rfl, acts⟩ := (st.settles s r.effect).react chosen
    obtain ⟨hs, finish, all⟩ := acts (w₃.after (.fired rule w.state w₃.state next))
    have run : (Action.runAll st.env actions s
        (w₃.after (.fired rule w.state w₃.state next))).2 = finish := congrArg Prod.snd all.runAll
    change st.Acts event w rule moved (st.conclude st.dispatch (.matched rule moved)
      (Action.runAll st.env actions s (w₃.after (.fired rule w.state w₃.state next))).2).2
    rw [run]
    exact .taken closed atRule atState failed matched chooses moves rfl rfl all

/-- The actions of a rule that fires are taken in order and on the scope of the match. -/
theorem takesInOrder (st : Store σ) : st.TakesInOrder where
  nested := st.dispatch_eq
  chooses e s w := by
    obtain ⟨fs, chosen, u, chooses, -⟩ := st.settles s e w
    obtain ⟨h, made⟩ := chooses.makes
    exact ⟨fs, chosen, h, u, chooses, made, chooses.react⟩
  takes actions s w := by
    obtain ⟨hs, u, all⟩ := st.performsAll s actions w
    exact ⟨hs, u, all, all.runAll⟩
  finished := Performs.spans
  moves taken := ⟨taken.spans.state_eq, fun _ _ _ _ _ _ => taken.spans.trying⟩
  fires := acts_of_matched

end Store

end Acting

/-! ## A choice that comes second -/

section Choosing

attribute [local instance] Regex.Engine.literal

namespace Store

namespace Choosing

def flag : HostFn := ⟨0, "flag"⟩

/-- The rule moves from null to `true`. Its first action is a choice, which moves nothing, and whose
first alternative is guarded by `flag`. The function says no. -/
def store : Store Unit where
  machine :=
    { start := .const .null
      rules := [⟨.sequence [.state (.literal .null), .event (.bind "event")],
        .next (.const (.bool true)) [
          .nested (.alternatives [
            .guarded (.next (.const (.string "fast")) [.dispatch (.const (.string "fast"))])
              (.call flag),
            .next (.const (.string "slow")) [.dispatch (.const (.string "slow"))]]),
          .dispatch (.get "event")]⟩]
      extensions := []
      states := []
      actions := []
      limits := {} }
  host :=
    { behaviour := fun _ => .immediate fun _ => .done (.bool false)
      callback := fun _ => .done () }

def world : World Unit := store.boot () 0

def go : Value := .string "go"

def scope : Scope := Scope.empty.bind "event" go

end Choosing

open Choosing

theorem takesInOrder_choice :
    store.Acts go world 0 true (store.dispatch go world).2 ∧
    (store.dispatch go world).2.state = .bool true ∧
    (store.dispatch go world).2.history =
      [.entered go, .fired 0 .null .null (some (.bool true)), .called flag scope,
        .entered (.string "slow"), .returned .unmatched, .entered go, .returned .unmatched,
        .returned (.matched 0 true)] := by
  have matched : store.dispatch go world =
      (.ok (.matched 0 true), (store.dispatch go world).2) := rfl
  exact ⟨(takesInOrder store).fires matched, rfl, rfl⟩

end Store

end Choosing

end RuleMachine
