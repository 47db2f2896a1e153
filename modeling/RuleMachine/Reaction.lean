import RuleMachine.Evaluation

/-!
# Reactions

An effect is first chosen and then carried out. Choosing evaluates the guards and the next state;
the actions are left for later and evaluated one by one, each after the one before it is finished.
-/

namespace RuleMachine

variable [Regex.Engine]

/-- What effects may do to the world outside the scope they are evaluated in. -/
structure Surroundings (σ : Type) where
  call : HostFn → Scope → Run σ Value
  dispatch : Value → Run σ DispatchResult
  /-- The events that a function gives, each to be pulled when its turn comes, if there is one by
  then. -/
  events : HostFn → Scope → Run σ (List (Run σ (Option Value)))
  await : HostFn → Scope → Run σ Unit

/-- What an effect comes to: the state to move to, if any, and the actions as one computation. -/
structure Reaction (σ : Type) where
  next : Option Value
  thunk : Run σ Unit

variable {σ : Type} (env : Surroundings σ)

/-- Dispatches events in order, each pulled when the one before it is done. A pull without an event
ends the sequence, and so does a refused dispatch. -/
def dispatchEach : List (Run σ (Option Value)) → Run σ Unit
  | [] => pure ()
  | pull :: rest => do
    match ← pull with
    | none => pure ()
    | some event =>
      match ← env.dispatch event with
      | .ok _ => dispatchEach rest
      | .error _ => pure ()

/-- A null next state is no transition. -/
def nextState : Value → Option Value
  | .null => none
  | v => some v

mutual

/-- Chooses the reaction of an effect, or none if its guards do not hold. -/
def Effect.react : Effect → Scope → Run σ (Outcome (Reaction σ))
  | .next e actions, s => do
    let v ← e.eval env.call s
    pure (some ⟨nextState v, Action.runAll actions s⟩)
  | .only actions, s => pure (some ⟨none, Action.runAll actions s⟩)
  | .guarded e c, s => do
    if ← c.test env.call s then Effect.react e s else pure none
  | .alternatives es, s => Effect.reactFirst es s

/-- The reaction of the first effect that has one. -/
def Effect.reactFirst : List Effect → Scope → Run σ (Outcome (Reaction σ))
  | [], _ => pure none
  | e :: es, s => do
    match ← Effect.react e s with
    | some r => pure (some r)
    | none => Effect.reactFirst es s

def Action.run : Action → Scope → Run σ Unit
  | .dispatch e, s => do
    let event ← e.eval env.call s
    let _ ← env.dispatch event
  | .await f, s => env.await f s
  | .exec f, s => do
    let events ← env.events f s
    dispatchEach env events
  | .nested e, s => do
    match ← Effect.react e s with
    | some r => r.thunk
    | none => pure ()

def Action.runAll : List Action → Scope → Run σ Unit
  | [], _ => pure ()
  | a :: rest, s => do
    Action.run a s
    Action.runAll rest s

end

/-- Of alternatives the first that reacts counts. -/
theorem Effect.reactFirst_eq_firstSuccess (es : List Effect) (s : Scope) :
    Effect.reactFirst env es s = Outcome.firstSuccess (fun e => Effect.react env e s) es := by
  induction es with
  | nil => rfl
  | cons e es ih =>
    simp only [Effect.reactFirst, Outcome.firstSuccess]
    congr 1
    funext o
    cases o with
    | none => exact ih
    | some _ => rfl

end RuleMachine
