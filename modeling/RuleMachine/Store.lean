import RuleMachine.Reaction

/-!
# The store

A store runs a machine. A dispatch computes the closure of the current state under the extensions,
tries the rules in order, each on every state of the closure, lets at most one fire, and then
notifies the subscribers. Effects, callbacks and host functions may dispatch in turn; how many
dispatches are in progress at once is bounded, which also bounds the recursion of
`Store.dispatchWithin`.
-/

namespace RuleMachine

variable [Regex.Engine] {σ : Type}

/-! ## The closure of a state -/

namespace Closure

/-- What is asked of an extension: the state it gives for another one, if it applies to it. -/
abbrev Derivation (σ : Type) := Value → Run σ (Outcome Value)

/-- Adds what an extension gave, unless an equal state is there already. The second component says
that it was refused, since the limit was met. -/
def accept (limit : Nat) (states : List Value) : Outcome Value → List Value × Bool
  | none => (states, false)
  | some derived =>
    if states.any fun w => Value.structuralEq w derived then (states, false)
    else if limit ≤ states.length then (states, true)
    else (states ++ [derived], false)

/-- Adds the states that extensions give for one state. The second component says that one was
refused; no more extensions are asked then. -/
def extend (limit : Nat) (v : Value) :
    List (Derivation σ) → List Value → Run σ (List Value × Bool)
  | [], states => pure (states, false)
  | derive :: rest, states => do
    let (states, refused) := accept limit states (← derive v)
    if refused then pure (states, true) else extend limit v rest states

/-- Extends the states from the one at `index` on, `fuel` of them at most. The second component
says that a state was refused; no more are extended then. -/
def extendFrom (limit : Nat) (extensions : List (Derivation σ)) :
    Nat → Nat → List Value → Run σ (List Value × Bool)
  | 0, _, states => pure (states, false)
  | fuel + 1, index, states =>
    match states[index]? with
    | none => pure (states, false)
    | some v => do
      let (states, refused) ← extend limit v extensions states
      if refused then pure (states, true) else extendFrom limit extensions fuel (index + 1) states

/-- The state and every state it extends to, breadth first, and whether the limit cut them short.
There are never more states than steps, so the steps suffice. -/
def search (limit : Nat) (extensions : List (Derivation σ)) (current : Value) :
    Run σ (List Value × Bool) :=
  extendFrom limit extensions (max 1 limit) 0 [current]

/-- The state and every state it extends to, as far as the limit allows. -/
def states (limit : Nat) (extensions : List (Derivation σ)) (current : Value) :
    Run σ (List Value) :=
  Prod.fst <$> search limit extensions current

end Closure

/-! ## Host code -/

/-- Runs code of the host; `dispatch` and `extended` are what its requests to the store do. -/
def Code.run {α : Type} (m : Machine) (dispatch : Value → Run σ DispatchResult)
    (extended : Run σ (List Value)) : {x : Site} → Code σ α x → Run σ (x.Answer α)
  | _, .done a => pure a
  | _, .finished outcome => pure outcome
  | _, .read k => do Code.run m dispatch extended (k (← get).memory)
  | _, .write memory k => do
    modify fun w => { w with memory }
    Code.run m dispatch extended k
  | _, .allocate k => do Code.run m dispatch extended (k (← World.allocate))
  | _, .machine k => Code.run m dispatch extended (k m)
  | _, .state k => do Code.run m dispatch extended (k (← get).state)
  | _, .extended k => do Code.run m dispatch extended (k (← extended))
  | _, .dispatch event k => do Code.run m dispatch extended (k (← dispatch event))
  | _, .subscribe callback k => do Code.run m dispatch extended (k (← World.subscribe callback))
  | _, .unsubscribe subscription k => do
    World.unsubscribe subscription
    Code.run m dispatch extended k
  | _, .subscribers k => do Code.run m dispatch extended (k (← get).subscribers.length)
  | _, .elsewhere limit inside k => do
    let answer ← World.elsewhere limit (Code.run m dispatch extended inside)
    Code.run m dispatch extended (k answer)

/-- A store: a machine, its host, and whether there is an executor for awaited values. -/
structure Store (σ : Type) where
  machine : Machine
  host : Host σ
  hasExecutor : Bool := true
  /-- How often a query for the extended states may be made from within its own evaluation. One
  that is made once more finds the current state alone. -/
  queryDepth : Nat := 1000

namespace Store

variable (st : Store σ)

/-- Calls a host function for its value; only an immediate function has one. -/
def callWith (run : Script σ Value → Run σ Value) (f : HostFn) (s : Scope) : Run σ Value :=
  match st.host.behaviour f with
  | .immediate g => do
    World.happen (.called f s)
    run (g s)
  | .deferred _ | .events _ => pure .undefined

/-- The closure of the current state. Extensions may call host functions that ask for it again. -/
def extendedWithin (dispatch : Value → Run σ DispatchResult) : Nat → Run σ (List Value)
  | 0 => do return [(← get).state]
  | n + 1 => do
    let call := st.callWith (Code.run st.machine dispatch (extendedWithin dispatch n))
    Closure.states st.machine.limits.extendedStates (st.machine.extensions.map (·.derive call))
      (← get).state

/-- Runs host code, given what a dispatch does. -/
def runWith {α : Type} (dispatch : Value → Run σ DispatchResult) (script : Script σ α) :
    Run σ α :=
  script.run st.machine dispatch (st.extendedWithin dispatch st.queryDepth)

/-- The events that a host function gives. The items of a list given at once are events each, any
other value is one. -/
def eventsWith (dispatch : Value → Run σ DispatchResult) (f : HostFn) (s : Scope) :
    Run σ (List (Run σ (Option Value))) :=
  match st.host.behaviour f with
  | .immediate g => do
    World.happen (.called f s)
    match ← st.runWith dispatch (g s) with
    | .list _ items => pure (items.map fun v => pure (some v))
    | v => pure [pure (some v)]
  | .events g => do
    World.happen (.called f s)
    let pulls ← st.runWith dispatch (g s)
    pure (pulls.map (st.runWith dispatch))
  | .deferred _ => pure []

/-- Asks a host function for a value that is there later. Events are not asked for. -/
def askWith (dispatch : Value → Run σ DispatchResult) (f : HostFn) (s : Scope) :
    Run σ (Future σ) :=
  match st.host.behaviour f with
  | .immediate g => do
    World.happen (.called f s)
    let v ← st.runWith dispatch (g s)
    pure ⟨0, .done (some v)⟩
  | .deferred g => do
    World.happen (.called f s)
    st.runWith dispatch (g s)
  | .events _ => pure ⟨0, .done (some .undefined)⟩

/-- Takes an await effect: asks the function, and queues the value to be dispatched. Without an
executor the function is not even called. -/
def awaitWith (dispatch : Value → Run σ DispatchResult) (f : HostFn) (s : Scope) : Run σ Unit := do
  modify fun w => w.await f s
  if st.hasExecutor then
    let future ← st.askWith dispatch f s
    modify fun w => w.queue future

def surroundings (dispatch : Value → Run σ DispatchResult) : Surroundings σ where
  call := st.callWith (st.runWith dispatch)
  dispatch := dispatch
  events := st.eventsWith dispatch
  await := st.awaitWith dispatch

end Store

/-! ## Dispatch -/

/-- Tries a rule on one state: the reaction of its effect, if its step and its effect succeed. -/
def Rule.react (env : Surroundings σ) (event state : Value) (r : Rule) :
    Run σ (Outcome (Reaction σ)) := do
  match ← r.on.run env.call state event .empty with
  | none => pure none
  | some s => r.effect.react env s

/-- Tries a rule on states in order, up to the first on which it reacts. -/
def Rule.reactFirst (env : Surroundings σ) (event : Value) (r : Rule) :
    List Value → Run σ (Outcome (Reaction σ))
  | [] => pure none
  | v :: vs => do
    match ← r.react env event v with
    | some reaction => pure (some reaction)
    | none => r.reactFirst env event vs

/-- Tries rules in order, up to the first that reacts, and gives its index; `index` is that of the
first of them. -/
def selectRule (env : Surroundings σ) (event : Value) (states : List Value) (index : Nat) :
    List Rule → Run σ (Outcome (Nat × Reaction σ))
  | [] => pure none
  | r :: rs => do
    match ← r.reactFirst env event states with
    | some reaction => pure (some (index, reaction))
    | none => selectRule env event states (index + 1) rs

namespace Store

variable (st : Store σ)

/-- The closure of a state. -/
def closure (dispatch : Value → Run σ DispatchResult) (state : Value) : Run σ (List Value) :=
  Closure.states st.machine.limits.extendedStates
    (st.machine.extensions.map (·.derive (st.surroundings dispatch).call)) state

/-- The first rule that reacts in a state of the closure, with its reaction. -/
def select (dispatch : Value → Run σ DispatchResult) (event state : Value) :
    Run σ (Outcome (Nat × Reaction σ)) := do
  let states ← st.closure dispatch state
  selectRule (st.surroundings dispatch) event states 0 st.machine.rules

/-- Lets the selected rule fire: moves to its next state, if there is one, and takes its
actions. -/
def fire (dispatch : Value → Run σ DispatchResult) (event : Value) : Run σ Dispatched := do
  let matched := (← get).state
  match ← st.select dispatch event matched with
  | none => pure .unmatched
  | some (rule, reaction) =>
    World.happen (.fired rule matched (← get).state reaction.next)
    reaction.thunk
    pure (.matched rule reaction.next.isSome)

/-- Runs the callbacks of subscribers, in order. -/
def notify (dispatch : Value → Run σ DispatchResult) : List Subscriber → Run σ Unit
  | [] => pure ()
  | s :: rest => do
    World.happen (.notified s)
    st.runWith dispatch (st.host.callback s.callback)
    notify dispatch rest

/-- Refuses an event. -/
def refuse (event : Value) : Run σ DispatchResult := do
  World.happen (.refused event)
  pure (.error (.depthExceeded st.machine.limits.dispatchDepth))

/-- Ends a dispatch whose rules are done: notifies the subscribers registered by now. -/
def conclude (dispatch : Value → Run σ DispatchResult) (outcome : Dispatched) :
    Run σ DispatchResult := do
  st.notify dispatch (← get).subscribers
  World.happen (.returned outcome)
  pure (.ok outcome)

/-- A dispatch, given what those nested in it do. -/
def dispatchOnce (dispatch : Value → Run σ DispatchResult) (event : Value) :
    Run σ DispatchResult := do
  if st.machine.limits.dispatchDepth ≤ (← get).active then st.refuse event
  else
    World.happen (.entered event)
    let outcome ← st.fire dispatch event
    st.conclude dispatch outcome

/-- Dispatches an event with room for `levels` dispatches nested in each other, this one
included. -/
def dispatchWithin : Nat → Value → Run σ DispatchResult
  | 0, event => st.refuse event
  | levels + 1, event => st.dispatchOnce (dispatchWithin levels) event

/-- Dispatches an event. No more dispatches nest than the limit allows, so there is room. -/
def dispatch (event : Value) : Run σ DispatchResult :=
  st.dispatchWithin st.machine.limits.dispatchDepth event

/-- Runs host code from outside of any dispatch. -/
def run {α : Type} (script : Script σ α) : Run σ α := st.runWith st.dispatch script

/-! ## Awaited values -/

/-- Asks a task that is out of the queue: its value is dispatched if it is there, otherwise the task
goes back. -/
def serve (poll : Script σ (Option Value)) : Run σ Unit := do
  match ← st.run poll with
  | some event =>
    let _ ← st.dispatch event
  | none => modify fun w => w.queue ⟨0, poll⟩

/-- Gives the first task a turn: its value is dispatched, or it waits on at the end of the queue. -/
def turn : Run σ Unit := do
  match (← get).tasks with
  | [] => pure ()
  | ⟨delay + 1, poll⟩ :: rest => modify fun w => { w with tasks := rest ++ [⟨delay, poll⟩] }
  | ⟨0, poll⟩ :: rest =>
    modify fun w => { w with tasks := rest }
    st.serve poll

/-- Gives turns until no task is left, at most `turns` of them. -/
def drain : Nat → Run σ Unit
  | 0 => pure ()
  | turns + 1 => do
    if (← get).tasks.isEmpty then pure ()
    else
      st.turn
      drain turns

/-- Evaluates the start expression. There is no store yet, so host code is refused what it asks of
one. -/
def start : Run σ Unit := do
  let refuse := fun _ => pure (.error (.depthExceeded 0))
  let v ← st.machine.start.eval (st.callWith (Code.run st.machine refuse (pure []))) .empty
  modify fun w => { w with state := v }

/-- The world in which the store begins. -/
def boot (memory : σ) (nextAllocation : Nat) : World σ :=
  (st.start.run { state := .undefined, nextAllocation, memory }).2

/-- Makes a store of declarations, in the state that the start expression gives. -/
def build (host : Host σ) (hasExecutor : Bool) (limits : Limits) (ds : List Declaration) :
    Run σ (Except MachineError (Store σ)) :=
  match Machine.compile limits ds with
  | .error e => pure (.error e)
  | .ok machine => do
    let st : Store σ := { machine, host, hasExecutor }
    st.start
    pure (.ok st)

end Store

end RuleMachine
