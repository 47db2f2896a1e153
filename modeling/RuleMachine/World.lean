import RuleMachine.Machine

/-!
# Host code and the world it acts on

A running machine is one part of a world; the host is the other. Host code is a script: it may
keep a memory of its own, use the store at any point, and use other stores on the same thread. What
a script does is data, so what a run may do can be said for every host.
-/

namespace RuleMachine

/-- What a dispatch did: the rule that fired, by its index, and whether it moved the state. -/
inductive Dispatched where
  | matched (rule : Nat) (transitioned : Bool)
  | unmatched
  deriving DecidableEq, Repr

/-- A dispatch is refused when as many are in progress as the limit allows. -/
inductive DispatchError where
  | depthExceeded (limit : Nat)
  deriving DecidableEq, Repr

namespace DispatchError

def code : DispatchError → String
  | depthExceeded _ => "DISPATCH_DEPTH_EXCEEDED"

def message : DispatchError → String
  | depthExceeded limit => s!"dispatch nested deeper than {limit} levels"

end DispatchError

abbrev DispatchResult := Except DispatchError Dispatched

/-- Whose business code of the host does: its own, or that of a dispatch of another store. -/
inductive Site where
  | home
  | elsewhere

/-- What code ends with. -/
abbrev Site.Answer (α : Type) : Site → Type
  | home => α
  | elsewhere => Dispatched

/-- Code of the host; `σ` is the memory of the host. At home it ends with an answer in `α`. -/
inductive Code (σ α : Type) : Site → Type where
  | done (answer : α) : Code σ α .home
  /-- The dispatch of the other store ends. -/
  | finished (outcome : Dispatched) : Code σ α .elsewhere
  | read {x : Site} (next : σ → Code σ α x) : Code σ α x
  | write {x : Site} (memory : σ) (next : Code σ α x) : Code σ α x
  /-- Takes a new allocation number. -/
  | allocate {x : Site} (next : Nat → Code σ α x) : Code σ α x
  | machine {x : Site} (next : Machine → Code σ α x) : Code σ α x
  | state {x : Site} (next : Value → Code σ α x) : Code σ α x
  /-- The current state and every state it extends to. -/
  | extended {x : Site} (next : List Value → Code σ α x) : Code σ α x
  | dispatch {x : Site} (event : Value) (next : DispatchResult → Code σ α x) : Code σ α x
  /-- Registers a callback of the host and gives the number of the subscription. -/
  | subscribe {x : Site} (callback : Nat) (next : Nat → Code σ α x) : Code σ α x
  | unsubscribe {x : Site} (subscription : Nat) (next : Code σ α x) : Code σ α x
  | subscribers {x : Site} (next : Nat → Code σ α x) : Code σ α x
  /-- Dispatches to another store of the same thread, which has a limit of its own; `inside` is all
  that this makes the host do. -/
  | elsewhere {x : Site} (limit : Nat) (inside : Code σ α .elsewhere)
      (next : DispatchResult → Code σ α x) : Code σ α x

/-- Host code that ends with an answer in `α`. -/
abbrev Script (σ α : Type) := Code σ α .home

namespace Code

variable {σ α β : Type}

def bind : {x : Site} → Code σ α x → (α → Script σ β) → Code σ β x
  | _, done a, f => f a
  | _, finished outcome, _ => finished outcome
  | _, read k, f => read fun x => (k x).bind f
  | _, write x k, f => write x (k.bind f)
  | _, allocate k, f => allocate fun n => (k n).bind f
  | _, machine k, f => machine fun m => (k m).bind f
  | _, state k, f => state fun v => (k v).bind f
  | _, extended k, f => extended fun vs => (k vs).bind f
  | _, dispatch e k, f => dispatch e fun r => (k r).bind f
  | _, subscribe c k, f => subscribe c fun n => (k n).bind f
  | _, unsubscribe n k, f => unsubscribe n (k.bind f)
  | _, subscribers k, f => subscribers fun n => (k n).bind f
  | _, elsewhere limit c k, f => elsewhere limit (c.bind f) fun r => (k r).bind f

instance : Monad (Script σ) where
  pure := done
  bind := bind

end Code

/-- A value that is there later. For a number of turns nothing happens; then each turn runs the
script, until it gives the value. -/
structure Future (σ : Type) where
  delay : Nat
  poll : Script σ (Option Value)

/-- What calling a host function does. -/
inductive Behaviour (σ : Type) where
  | immediate (f : Scope → Script σ Value)
  | deferred (f : Scope → Script σ (Future σ))
  /-- The events are handed out one by one, each by a script of its own. The first that has none to
  give is the last that is asked. -/
  | events (f : Scope → Script σ (List (Script σ (Option Value))))

structure Host (σ : Type) where
  behaviour : HostFn → Behaviour σ
  callback : Nat → Script σ Unit

/-- A subscription with the callback it registers. -/
structure Subscriber where
  id : Nat
  callback : Nat
  deriving DecidableEq, Repr

/-- What a host holds of a subscription. It names the subscriber and does not keep the store. -/
structure Subscription where
  id : Nat
  deriving DecidableEq, Repr

/-- What can happen to a store, or in it, or on its thread. -/
inductive Happening where
  /-- The machine calls a host function. -/
  | called (f : HostFn) (scope : Scope)
  | subscribed (subscriber : Subscriber)
  | unsubscribed (subscription : Nat)
  /-- A dispatch is refused. -/
  | refused (event : Value)
  /-- A dispatch begins. -/
  | entered (event : Value)
  /-- A rule fires that was matched when the state was `matched`; by now it is `replaced`. -/
  | fired (rule : Nat) (matched replaced : Value) (next : Option Value)
  /-- A callback is about to run. -/
  | notified (subscriber : Subscriber)
  /-- A dispatch ends. -/
  | returned (outcome : Dispatched)
  /-- A dispatch of another store begins, which has this limit. -/
  | enteredElsewhere (limit : Nat)
  /-- A dispatch of another store ends. -/
  | returnedElsewhere

/-- Where a store stands, and its thread. -/
structure Standing where
  state : Value
  subscribers : List Subscriber := []
  /-- The number of the next subscription. -/
  nextSubscriber : Nat := 0
  /-- How many dispatches are in progress on the thread. They count together, whatever their
  stores. -/
  active : Nat := 0

/-- Where a store stands once something has happened to it. -/
def Standing.after (s : Standing) : Happening → Standing
  | .subscribed x =>
    { s with subscribers := s.subscribers ++ [x], nextSubscriber := s.nextSubscriber + 1 }
  | .unsubscribed n => { s with subscribers := s.subscribers.filter (·.id ≠ n) }
  | .entered _ | .enteredElsewhere _ => { s with active := s.active + 1 }
  | .fired _ _ _ next => { s with state := next.getD s.state }
  | .returned _ | .returnedElsewhere => { s with active := s.active - 1 }
  | .called .. | .refused _ | .notified _ => s

/-- What is left for later. -/
structure Errands (σ : Type) where
  /-- The await effects taken so far, each by its function and its scope. Nothing reads them. -/
  awaited : Array (HostFn × Scope) := #[]
  /-- Values awaited, in the order in which they are asked for. -/
  tasks : List (Future σ) := []

variable [Regex.Engine]

/-- A store together with its host's memory. -/
structure World (σ : Type) extends Standing, Errands σ where
  /-- What has happened so far. -/
  journal : Array Happening := #[]
  /-- The number of the next allocation. -/
  nextAllocation : Nat
  cache : Regex.Cache := .empty
  memory : σ

/-- A computation in a world. -/
abbrev Run (σ : Type) := StateM (World σ)

namespace World

variable {σ : Type}

/-- Takes a new allocation number. -/
def allocate : Run σ Nat :=
  modifyGet fun w => (w.nextAllocation, { w with nextAllocation := w.nextAllocation + 1 })

/-- Answers a comparison. -/
def compare (op : Comparison) (l r : Value) : Run σ Bool :=
  modifyGet fun w =>
    let (answer, cache) := op.evaluate w.cache l r
    (answer, { w with cache })

/-- The world once something has happened. While a store runs, nothing else changes where it
stands. -/
def after (w : World σ) (x : Happening) : World σ :=
  { w with toStanding := w.toStanding.after x, journal := w.journal.push x }

/-- The world once an await effect is taken. -/
def await (w : World σ) (f : HostFn) (s : Scope) : World σ :=
  { w with awaited := w.awaited.push (f, s) }

/-- The world once a task is left at the end of the queue. -/
def queue (w : World σ) (future : Future σ) : World σ :=
  { w with tasks := w.tasks ++ [future] }

/-- Lets something happen. -/
def happen (x : Happening) : Run σ Unit := modify fun w => w.after x

def subscribe (callback : Nat) : Run σ Nat := do
  let id := (← get).nextSubscriber
  happen (.subscribed ⟨id, callback⟩)
  pure id

def unsubscribe (subscription : Nat) : Run σ Unit := happen (.unsubscribed subscription)

/-- Dispatches to another store of the thread, unless as many dispatches are in progress as its
limit allows. -/
def elsewhere (limit : Nat) (inside : Run σ Dispatched) : Run σ DispatchResult := do
  if limit ≤ (← get).active then pure (.error (.depthExceeded limit))
  else
    happen (.enteredElsewhere limit)
    let outcome ← inside
    happen .returnedElsewhere
    pure (.ok outcome)

end World

/-- Ends a subscription, in the world of its store or after the store is gone. -/
def Subscription.unsubscribe {σ : Type} (s : Subscription) :
    Option (World σ) → Option (World σ) :=
  Option.map fun w => ((World.unsubscribe s.id).run w).2

end RuleMachine
