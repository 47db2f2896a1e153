import Mathlib.Data.List.Forall2
import RuleMachine.Proofs.Journal
import RuleMachine.Store

/-!
# Computations in lockstep

Evaluation is put together from a few primitive steps and from the host calls and dispatches it is
given. Two evaluations that are given host calls and dispatches which answer alike also answer
alike, and whatever relation between worlds the primitive steps keep to, a whole evaluation keeps
to. Both facts are shown at once, for every evaluator:

* `Course` is a set of worlds with a relation along which they may change;
* `Course.Lockstep`: from the worlds of a course two computations end in the same world, with
  related answers, and move along the course;
* `Surroundings.InStep` is this for what effects are given; `Effect.react_inStep` and
  `Store.select_inStep` carry it from there to the choice of a rule and to its actions.
-/

namespace RuleMachine

variable [Regex.Engine] {σ α β : Type}

theorem bind_apply (p : Run σ α) (k : α → Run σ β) (w : World σ) :
    (p >>= k) w = k (p w).1 (p w).2 := rfl

/-- Worlds, and how they may change. A change that leaves the store, its journal and what is left
for later alone is always allowed. So is a dispatch of another store, if what it causes is. -/
structure Course (σ : Type) where
  domain : World σ → Prop
  moves : World σ → World σ → Prop
  stays {w u : World σ} : domain w → moves w u → domain u
  trans {u v w : World σ} : moves u v → moves v w → moves u w
  quiet {w u : World σ} : u.toStanding = w.toStanding → u.journal = w.journal →
    u.toErrands = w.toErrands → moves w u
  free {w : World σ} {x : Happening} : x.Free w.toStanding → moves w (w.after x)
  entersElsewhere {w : World σ} {limit : Nat} : domain w → w.active < limit →
    domain (w.after (.enteredElsewhere limit))
  elsewhere {w u : World σ} {limit : Nat} : w.active < limit →
    moves (w.after (.enteredElsewhere limit)) u → moves w (u.after .returnedElsewhere)

namespace World

variable {limit : Nat} {w : World σ}

theorem elsewhere_of_full (full : limit ≤ w.active) (inside : Run σ Dispatched) :
    elsewhere limit inside w = (.error (.depthExceeded limit), w) := by
  rw [elsewhere, bind_apply]
  exact congrFun (if_pos full) w

theorem elsewhere_of_room (room : w.active < limit) (inside : Run σ Dispatched) :
    elsewhere limit inside w = (.ok (inside (w.after (.enteredElsewhere limit))).1,
      (inside (w.after (.enteredElsewhere limit))).2.after .returnedElsewhere) := by
  rw [elsewhere, bind_apply]
  exact congrFun (if_neg (Nat.not_le.mpr room)) w

end World

namespace Course

variable (c : Course σ)

/-- From the worlds of the course both computations end in the same world, with answers that `V`
relates, and move along the course. -/
def Lockstep (V : α → α → Prop) (p q : Run σ α) : Prop :=
  ∀ w, c.domain w → V (p w).1 (q w).1 ∧ (p w).2 = (q w).2 ∧ c.moves w (p w).2

/-- The two computations do not differ on the course, and move along it. -/
abbrev Same (p q : Run σ α) : Prop := c.Lockstep Eq p q

/-- Host functions are called alike. -/
abbrev SameCalls (call call' : HostFn → Scope → Run σ Value) : Prop :=
  ∀ f s, c.Same (call f s) (call' f s)

variable {c} {V : α → α → Prop} {W : β → β → Prop}

theorem Lockstep.pure {a b : α} (h : V a b) : c.Lockstep V (Pure.pure a) (Pure.pure b) :=
  fun _ _ => ⟨h, rfl, c.quiet rfl rfl rfl⟩

theorem Lockstep.bind {p q : Run σ α} {k l : α → Run σ β} (h : c.Lockstep V p q)
    (hk : ∀ a b, V a b → c.Lockstep W (k a) (l b)) : c.Lockstep W (p >>= k) (q >>= l) := by
  intro w hw
  obtain ⟨answers, worlds, moved⟩ := h w hw
  obtain ⟨answers', worlds', moved'⟩ := hk _ _ answers _ (c.stays hw moved)
  rw [bind_apply, bind_apply, ← worlds]
  exact ⟨answers', worlds', c.trans moved moved'⟩

theorem Same.bind {p q : Run σ α} {k l : α → Run σ β} (h : c.Same p q)
    (hk : ∀ a, c.Lockstep W (k a) (l a)) : c.Lockstep W (p >>= k) (q >>= l) :=
  Lockstep.bind h fun a _ same => same ▸ hk a

theorem Same.get : c.Same (get : Run σ (World σ)) get :=
  fun _ _ => ⟨rfl, rfl, c.quiet rfl rfl rfl⟩

theorem Same.write (memory : σ) :
    c.Same (modify fun w : World σ => { w with memory }) (modify fun w => { w with memory }) :=
  fun _ _ => ⟨rfl, rfl, c.quiet rfl rfl rfl⟩

theorem Same.called (f : HostFn) (s : Scope) :
    c.Same (World.happen (.called f s)) (World.happen (.called f s)) :=
  fun _ _ => ⟨rfl, rfl, c.free (.called f s)⟩

theorem Same.subscribe (callback : Nat) :
    c.Same (World.subscribe callback) (World.subscribe callback) :=
  fun _ _ => ⟨rfl, rfl, c.free (.subscribed callback)⟩

theorem Same.unsubscribe (subscription : Nat) :
    c.Same (World.unsubscribe subscription) (World.unsubscribe subscription) :=
  fun _ _ => ⟨rfl, rfl, c.free (.unsubscribed subscription)⟩

theorem Same.allocate : c.Same World.allocate World.allocate :=
  fun _ _ => ⟨rfl, rfl, c.quiet rfl rfl rfl⟩

theorem Same.compare (op : Comparison) (l r : Value) :
    c.Same (World.compare op l r) (World.compare op l r) :=
  fun _ _ => ⟨rfl, rfl, c.quiet rfl rfl rfl⟩

theorem Same.elsewhere {p q : Run σ Dispatched} (h : c.Same p q) (limit : Nat) :
    c.Same (World.elsewhere limit p) (World.elsewhere limit q) := by
  intro w hw
  rcases Nat.lt_or_ge w.active limit with room | full
  · obtain ⟨outcome, worlds, moved⟩ := h _ (c.entersElsewhere hw room)
    rw [World.elsewhere_of_room room, World.elsewhere_of_room room, ← outcome, ← worlds]
    exact ⟨rfl, rfl, c.elsewhere room moved⟩
  · rw [World.elsewhere_of_full full, World.elsewhere_of_full full]
    exact ⟨rfl, rfl, c.quiet rfl rfl rfl⟩

/-- The happening may take place anywhere on the course. -/
def Allows (c : Course σ) (x : Happening) : Prop := ∀ w, c.moves w (w.after x)

theorem Allows.same {x : Happening} (allowed : c.Allows x) :
    c.Same (World.happen x) (World.happen x) :=
  fun w _ => ⟨rfl, rfl, allowed w⟩

/-- What is left for later may change as it likes. -/
def Loose (c : Course σ) : Prop :=
  ∀ ⦃w u : World σ⦄, u.toStanding = w.toStanding → u.journal = w.journal → c.moves w u

/-- A change of the world that leaves the store and its journal alone. -/
theorem Loose.update (loose : c.Loose) {f : World σ → World σ}
    (standing : ∀ w, (f w).toStanding = w.toStanding) (journal : ∀ w, (f w).journal = w.journal) :
    c.Same (modify f) (modify f) :=
  fun w _ => ⟨rfl, rfl, loose (standing w) (journal w)⟩

end Course

/-! ## Evaluation -/

open Course

section Evaluation

variable {c : Course σ} {call call' : HostFn → Scope → Run σ Value}

mutual

theorem Expr.eval_same (hc : c.SameCalls call call') : ∀ (e : Expr) (s : Scope),
    c.Same (e.eval call s) (e.eval call' s)
  | .const _, _ => .pure rfl
  | .get _, _ => .pure rfl
  | .list items, s => by
    apply (Expr.evalItems_same hc items s).bind
    exact fun _ => Same.allocate.bind fun _ => .pure rfl
  | .record fields, s => by
    apply (Expr.evalFields_same hc fields s).bind
    exact fun _ => Same.allocate.bind fun _ => .pure rfl
  | .tagged _ fields, s => by
    apply (Expr.evalFields_same hc fields s).bind
    exact fun _ => Same.allocate.bind fun _ => .pure rfl
  | .binary _ l r, s => by
    apply (Expr.eval_same hc l s).bind
    exact fun _ => (Expr.eval_same hc r s).bind fun _ => .pure rfl
  | .call f, s => hc f s

theorem Expr.evalItems_same (hc : c.SameCalls call call') : ∀ (es : List Expr) (s : Scope),
    c.Same (Expr.evalItems call es s) (Expr.evalItems call' es s)
  | [], _ => .pure rfl
  | e :: es, s => by
    apply (Expr.eval_same hc e s).bind
    exact fun _ => (Expr.evalItems_same hc es s).bind fun _ => .pure rfl

theorem Expr.evalFields_same (hc : c.SameCalls call call') :
    ∀ (fields : List (String × Expr)) (s : Scope),
      c.Same (Expr.evalFields call fields s) (Expr.evalFields call' fields s)
  | [], _ => .pure rfl
  | (_, e) :: fields, s => by
    apply (Expr.eval_same hc e s).bind
    exact fun _ => (Expr.evalFields_same hc fields s).bind fun _ => .pure rfl

end

mutual

theorem Cond.test_same (hc : c.SameCalls call call') : ∀ (t : Cond) (s : Scope),
    c.Same (t.test call s) (t.test call' s)
  | .compare l op r, s => by
    apply (Expr.eval_same hc l s).bind
    exact fun a => (Expr.eval_same hc r s).bind fun b => Same.compare op a b
  | .truthy e, s => (Expr.eval_same hc e s).bind fun _ => .pure rfl
  | .call f, s => (hc f s).bind fun _ => .pure rfl
  | .all ts, s => Cond.testAll_same hc ts s
  | .any ts, s => Cond.testAny_same hc ts s

theorem Cond.testAll_same (hc : c.SameCalls call call') : ∀ (ts : List Cond) (s : Scope),
    c.Same (Cond.testAll call ts s) (Cond.testAll call' ts s)
  | [], _ => .pure rfl
  | t :: ts, s => by
    apply (Cond.test_same hc t s).bind
    exact fun _ => (Cond.testAll_same hc ts s).bind fun _ => .pure rfl

theorem Cond.testAny_same (hc : c.SameCalls call call') : ∀ (ts : List Cond) (s : Scope),
    c.Same (Cond.testAny call ts s) (Cond.testAny call' ts s)
  | [], _ => .pure rfl
  | t :: ts, s => by
    apply (Cond.test_same hc t s).bind
    exact fun _ => (Cond.testAny_same hc ts s).bind fun _ => .pure rfl

end

mutual

theorem Step.run_same (hc : c.SameCalls call call') (state event : Value) :
    ∀ (t : Step) (s : Scope),
      c.Same (Step.run call state event t s) (Step.run call' state event t s)
  | .state _, _ => .pure rfl
  | .event _, _ => .pure rfl
  | .cond t, s => (Cond.test_same hc t s).bind fun _ => .pure rfl
  | .sequence ts, s => Step.runAll_same hc state event ts s
  | .alternatives ts, s => Step.runFirst_same hc state event ts s

theorem Step.runAll_same (hc : c.SameCalls call call') (state event : Value) :
    ∀ (ts : List Step) (s : Scope),
      c.Same (Step.runAll call state event ts s) (Step.runAll call' state event ts s)
  | [], _ => .pure rfl
  | t :: ts, s => by
    apply (Step.run_same hc state event t s).bind
    rintro (_ | s)
    · exact .pure rfl
    · exact Step.runAll_same hc state event ts s

theorem Step.runFirst_same (hc : c.SameCalls call call') (state event : Value) :
    ∀ (ts : List Step) (s : Scope),
      c.Same (Step.runFirst call state event ts s) (Step.runFirst call' state event ts s)
  | [], _ => .pure rfl
  | t :: ts, s => by
    apply (Step.run_same hc state event t s).bind
    rintro (_ | _)
    · exact Step.runFirst_same hc state event ts s
    · exact .pure rfl

end

theorem Extension.derive_same (hc : c.SameCalls call call') (x : Extension) (v : Value) :
    c.Same (x.derive call v) (x.derive call' v) := by
  unfold Extension.derive
  cases x.source.run v .empty with
  | none => exact .pure rfl
  | some s => exact (Expr.eval_same hc x.dest s).bind fun _ => .pure rfl

end Evaluation

/-! ## The closure of a state -/

section Closures

variable {c : Course σ} {ds ds' : List (Closure.Derivation σ)}

theorem Closure.extend_same (limit : Nat) (v : Value) (states : List Value)
    (hds : List.Forall₂ (fun d d' => ∀ v, c.Same (d v) (d' v)) ds ds') :
    c.Same (Closure.extend limit v ds states) (Closure.extend limit v ds' states) := by
  induction hds generalizing states with
  | nil => exact .pure rfl
  | cons first _ ih =>
    apply (first v).bind
    intro derived
    dsimp only
    split
    · exact .pure rfl
    · exact ih _

theorem Closure.extendFrom_same (limit fuel index : Nat) (states : List Value)
    (hds : List.Forall₂ (fun d d' => ∀ v, c.Same (d v) (d' v)) ds ds') :
    c.Same (Closure.extendFrom limit ds fuel index states)
      (Closure.extendFrom limit ds' fuel index states) := by
  induction fuel generalizing index states with
  | zero => exact .pure rfl
  | succ fuel ih =>
    unfold Closure.extendFrom
    cases states[index]? with
    | none => exact .pure rfl
    | some v =>
      apply (Closure.extend_same limit v states hds).bind
      rintro ⟨states, _ | _⟩
      · exact ih (index + 1) states
      · exact .pure rfl

/-- The closures under extensions that make the same calls. -/
theorem Closure.states_same {call call' : HostFn → Scope → Run σ Value}
    (hc : c.SameCalls call call') (limit : Nat) (xs : List Extension) (v : Value) :
    c.Same (Closure.states limit (xs.map (·.derive call)) v)
      (Closure.states limit (xs.map (·.derive call')) v) := by
  have hds : List.Forall₂ (fun d d' : Closure.Derivation σ => ∀ v, c.Same (d v) (d' v))
      (xs.map (·.derive call)) (xs.map (·.derive call')) := by
    rw [List.forall₂_map_left_iff, List.forall₂_map_right_iff, List.forall₂_same]
    exact fun x _ => Extension.derive_same hc x
  exact (Closure.extendFrom_same limit _ 0 [v] hds).bind fun _ => .pure rfl

end Closures

/-! ## Effects -/

/-- Both reactions move to the same state, and their actions run in lockstep. -/
def Reaction.InStep (c : Course σ) (r r' : Reaction σ) : Prop :=
  r.next = r'.next ∧ c.Same r.thunk r'.thunk

/-- What two runs of an effect are given answers alike. -/
structure Surroundings.InStep (c : Course σ) (env env' : Surroundings σ) : Prop where
  call : c.SameCalls env.call env'.call
  dispatch : ∀ event, c.Same (env.dispatch event) (env'.dispatch event)
  events : ∀ f s, c.Lockstep (List.Forall₂ c.Same) (env.events f s) (env'.events f s)
  await : ∀ f s, c.Same (env.await f s) (env'.await f s)

section Effects

variable {c : Course σ} {env env' : Surroundings σ}

theorem dispatchEach_same (he : env.InStep c env') {pulls pulls' : List (Run σ (Option Value))}
    (h : List.Forall₂ c.Same pulls pulls') :
    c.Same (dispatchEach env pulls) (dispatchEach env' pulls') := by
  induction h with
  | nil => exact .pure rfl
  | cons pull _ ih =>
    apply Same.bind pull
    rintro (_ | event)
    · exact .pure rfl
    · apply (he.dispatch event).bind
      rintro (_ | _)
      · exact .pure rfl
      · exact ih

mutual

theorem Effect.react_inStep (he : env.InStep c env') : ∀ (e : Effect) (s : Scope),
    c.Lockstep (Option.Rel (Reaction.InStep c)) (e.react env s) (e.react env' s)
  | .next e actions, s => by
    apply (Expr.eval_same he.call e s).bind
    exact fun _ => .pure (.some ⟨rfl, Action.runAll_same he actions s⟩)
  | .only actions, s => .pure (.some ⟨rfl, Action.runAll_same he actions s⟩)
  | .guarded e t, s => by
    apply (Cond.test_same he.call t s).bind
    rintro (_ | _)
    · exact .pure .none
    · exact Effect.react_inStep he e s
  | .alternatives es, s => Effect.reactFirst_inStep he es s

theorem Effect.reactFirst_inStep (he : env.InStep c env') : ∀ (es : List Effect) (s : Scope),
    c.Lockstep (Option.Rel (Reaction.InStep c)) (Effect.reactFirst env es s)
      (Effect.reactFirst env' es s)
  | [], _ => .pure .none
  | e :: es, s => by
    apply (Effect.react_inStep he e s).bind
    rintro _ _ (h | _)
    · exact .pure (.some h)
    · exact Effect.reactFirst_inStep he es s

theorem Action.run_same (he : env.InStep c env') : ∀ (a : Action) (s : Scope),
    c.Same (a.run env s) (a.run env' s)
  | .dispatch e, s => by
    apply (Expr.eval_same he.call e s).bind
    exact fun event => (he.dispatch event).bind fun _ => .pure rfl
  | .await f, s => he.await f s
  | .exec f, s => (he.events f s).bind fun _ _ h => dispatchEach_same he h
  | .nested e, s => by
    apply (Effect.react_inStep he e s).bind
    rintro _ _ (h | _)
    · exact h.2
    · exact .pure rfl

theorem Action.runAll_same (he : env.InStep c env') : ∀ (actions : List Action) (s : Scope),
    c.Same (Action.runAll env actions s) (Action.runAll env' actions s)
  | [], _ => .pure rfl
  | a :: rest, s => (Action.run_same he a s).bind fun _ => Action.runAll_same he rest s

end

theorem Rule.react_inStep (he : env.InStep c env') (event state : Value) (r : Rule) :
    c.Lockstep (Option.Rel (Reaction.InStep c)) (r.react env event state)
      (r.react env' event state) := by
  apply (Step.run_same he.call state event r.on .empty).bind
  rintro (_ | s)
  · exact .pure .none
  · exact Effect.react_inStep he r.effect s

theorem Rule.reactFirst_inStep (he : env.InStep c env') (event : Value) (r : Rule)
    (states : List Value) :
    c.Lockstep (Option.Rel (Reaction.InStep c)) (r.reactFirst env event states)
      (r.reactFirst env' event states) := by
  induction states with
  | nil => exact .pure .none
  | cons v vs ih =>
    apply (Rule.react_inStep he event v r).bind
    rintro _ _ (h | _)
    · exact .pure (.some h)
    · exact ih

theorem selectRule_inStep (he : env.InStep c env') (event : Value) (states : List Value)
    (index : Nat) (rules : List Rule) :
    c.Lockstep (Option.Rel fun x y => x.1 = y.1 ∧ x.2.InStep c y.2)
      (selectRule env event states index rules) (selectRule env' event states index rules) := by
  induction rules generalizing index with
  | nil => exact .pure .none
  | cons r rs ih =>
    apply (Rule.reactFirst_inStep he event r states).bind
    rintro _ _ (h | _)
    · exact .pure (.some ⟨rfl, h⟩)
    · exact ih (index + 1)

end Effects

/-! ## Host code and dispatches -/

section Dispatches

variable {c : Course σ} {dispatch dispatch' : Value → Run σ DispatchResult}
variable (hd : ∀ event, c.Same (dispatch event) (dispatch' event))
include hd

theorem Code.run_same (m : Machine) {extended extended' : Run σ (List Value)}
    (hx : c.Same extended extended') {x : Site} (code : Code σ α x) :
    c.Same (code.run m dispatch extended) (code.run m dispatch' extended') := by
  induction code with
  | done a => exact .pure rfl
  | finished outcome => exact .pure rfl
  | read k ih => exact Same.get.bind fun w => ih w.memory
  | write memory k ih => exact (Same.write memory).bind fun _ => ih
  | allocate k ih => exact Same.allocate.bind ih
  | machine k ih => exact ih m
  | state k ih => exact Same.get.bind fun w => ih w.state
  | extended k ih => exact hx.bind ih
  | dispatch event k ih => exact (hd event).bind ih
  | subscribe callback k ih => exact (Same.subscribe callback).bind ih
  | unsubscribe subscription k ih => exact (Same.unsubscribe subscription).bind fun _ => ih
  | subscribers k ih => exact Same.get.bind fun w => ih w.subscribers.length
  | elsewhere limit inside k inner ih => exact (inner.elsewhere limit).bind ih

variable (st : Store σ)

omit hd in
theorem Store.callWith_same {run run' : Script σ Value → Run σ Value}
    (hr : ∀ script, c.Same (run script) (run' script)) (f : HostFn) (s : Scope) :
    c.Same (st.callWith run f s) (st.callWith run' f s) := by
  unfold Store.callWith
  cases st.host.behaviour f with
  | immediate g => exact (Same.called f s).bind fun _ => hr (g s)
  | deferred g => exact .pure rfl
  | events g => exact .pure rfl

theorem Store.extendedWithin_same (depth : Nat) :
    c.Same (st.extendedWithin dispatch depth) (st.extendedWithin dispatch' depth) := by
  induction depth with
  | zero => exact Same.get.bind fun _ => .pure rfl
  | succ depth ih =>
    apply Same.get.bind
    intro w
    apply Closure.states_same
    exact Store.callWith_same st fun script => Code.run_same hd st.machine ih script

theorem Store.runWith_same (script : Script σ α) :
    c.Same (st.runWith dispatch script) (st.runWith dispatch' script) :=
  Code.run_same hd st.machine (Store.extendedWithin_same hd st _) script

theorem Store.eventsWith_inStep (f : HostFn) (s : Scope) :
    c.Lockstep (List.Forall₂ c.Same) (st.eventsWith dispatch f s)
      (st.eventsWith dispatch' f s) := by
  have pures (vs : List Value) :
      List.Forall₂ c.Same (vs.map fun v => (pure (some v) : Run σ (Option Value)))
        (vs.map fun v => pure (some v)) := by
    induction vs with
    | nil => exact .nil
    | cons v vs ih => exact .cons (.pure rfl) ih
  have runs (pulls : List (Script σ (Option Value))) :
      List.Forall₂ c.Same (pulls.map (st.runWith dispatch)) (pulls.map (st.runWith dispatch')) := by
    induction pulls with
    | nil => exact .nil
    | cons pull pulls ih => exact .cons (Store.runWith_same hd st pull) ih
  unfold Store.eventsWith
  cases st.host.behaviour f with
  | immediate g =>
    apply (Same.called f s).bind
    intro _
    apply (Store.runWith_same hd st (g s)).bind
    rintro (_ | _ | _ | _ | _ | ⟨n, items⟩ | _ | _)
    case list => exact .pure (pures items)
    all_goals exact .pure (pures [_])
  | deferred g => exact .pure .nil
  | events g =>
    apply (Same.called f s).bind
    exact fun _ => (Store.runWith_same hd st (g s)).bind fun pulls => .pure (runs pulls)

theorem Store.askWith_same (f : HostFn) (s : Scope) :
    c.Same (st.askWith dispatch f s) (st.askWith dispatch' f s) := by
  unfold Store.askWith
  cases st.host.behaviour f with
  | immediate g =>
    apply (Same.called f s).bind
    exact fun _ => (Store.runWith_same hd st (g s)).bind fun v => .pure rfl
  | deferred g => exact (Same.called f s).bind fun _ => Store.runWith_same hd st (g s)
  | events g => exact .pure rfl

theorem Store.awaitWith_same (loose : c.Loose) (f : HostFn) (s : Scope) :
    c.Same (st.awaitWith dispatch f s) (st.awaitWith dispatch' f s) := by
  apply (loose.update (f := fun w => w.await f s) (fun _ => rfl) fun _ => rfl).bind
  intro _
  split
  · apply (Store.askWith_same hd st f s).bind
    exact fun _ => loose.update (fun _ => rfl) fun _ => rfl
  · exact .pure rfl

variable (ha : ∀ f s, c.Same (st.awaitWith dispatch f s) (st.awaitWith dispatch' f s))
include ha

theorem Store.surroundings_inStep :
    (st.surroundings dispatch).InStep c (st.surroundings dispatch') where
  call := Store.callWith_same st (Store.runWith_same hd st)
  dispatch := hd
  events := Store.eventsWith_inStep hd st
  await := ha

theorem Store.closure_same (state : Value) :
    c.Same (st.closure dispatch state) (st.closure dispatch' state) :=
  Closure.states_same (Store.surroundings_inStep hd st ha).call _ _ state

theorem Store.select_inStep (event state : Value) :
    c.Lockstep (Option.Rel fun x y => x.1 = y.1 ∧ x.2.InStep c y.2)
      (st.select dispatch event state) (st.select dispatch' event state) := by
  apply (Store.closure_same hd st ha state).bind
  exact fun states => selectRule_inStep (Store.surroundings_inStep hd st ha) event states 0 _

theorem Store.fire_same (fired : ∀ rule matched replaced next,
    c.Allows (.fired rule matched replaced next)) (event : Value) :
    c.Same (st.fire dispatch event) (st.fire dispatch' event) := by
  apply Same.get.bind
  intro w
  apply (Store.select_inStep hd st ha event w.state).bind
  rintro _ _ (@⟨⟨rule, reaction⟩, ⟨_, reaction'⟩, rfl, next, thunk⟩ | _)
  · dsimp only at next ⊢
    rw [← next]
    apply Same.get.bind
    intro u
    exact (fired _ _ _ _).same.bind fun _ => Same.bind thunk fun _ => .pure rfl
  · exact .pure rfl

omit ha in
theorem Store.notify_same (notified : ∀ x, c.Allows (.notified x)) (due : List Subscriber) :
    c.Same (st.notify dispatch due) (st.notify dispatch' due) := by
  induction due with
  | nil => exact .pure rfl
  | cons x due ih =>
    exact (notified x).same.bind fun _ => (Store.runWith_same hd st _).bind fun _ => ih

end Dispatches

end RuleMachine
