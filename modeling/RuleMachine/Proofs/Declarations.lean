import RuleMachine.Proofs.Operands

/-!
# The order of declarations

Only the order of declarations of one kind matters. `Alike` programs declare the same in each kind,
whatever stands between and however patterns are spread over declarations; all that is ever seen of
the stores that are made of them is the same (`Store.build_of_alike`).
-/

namespace RuleMachine

namespace Declaration

def start? : Declaration → Option Expr
  | start e => some e
  | _ => none

def rule? : Declaration → Option Rule
  | rule r => some r
  | _ => none

def extension? : Declaration → Option Extension
  | extension e => some e
  | _ => none

def statePatterns : Declaration → List Pattern
  | states ps => ps
  | _ => []

def actionPatterns : Declaration → List Pattern
  | actions ps => ps
  | _ => []

/-- The start expressions that are declared, in order. -/
def starts (ds : List Declaration) : List Expr := ds.filterMap start?

/-- The programs declare the same in each kind, in the same order. -/
structure Alike (ds ds' : List Declaration) : Prop where
  starts : starts ds = Declaration.starts ds'
  rules : ds.filterMap rule? = ds'.filterMap rule?
  extensions : ds.filterMap extension? = ds'.filterMap extension?
  states : ds.flatMap statePatterns = ds'.flatMap statePatterns
  actions : ds.flatMap actionPatterns = ds'.flatMap actionPatterns

end Declaration

open Declaration

/-! ## What declarations add up to -/

namespace Parts

/-- Adding declarations to those that are there puts each behind those of its kind. -/
theorem foldl_add (p : Parts) (ds : List Declaration) :
    ds.foldl add p =
      { starts := p.starts ++ Declaration.starts ds
        rules := p.rules ++ ds.filterMap rule?
        extensions := p.extensions ++ ds.filterMap extension?
        states := p.states ++ ds.flatMap statePatterns
        actions := p.actions ++ ds.flatMap actionPatterns } := by
  induction ds generalizing p with
  | nil => simp [Declaration.starts]
  | cons d ds ih =>
    rw [List.foldl_cons, ih]
    cases d <;> simp [add, Declaration.starts, List.filterMap_cons, start?, rule?, extension?,
      statePatterns, actionPatterns]

theorem ofDeclarations_eq (ds : List Declaration) :
    ofDeclarations ds =
      { starts := Declaration.starts ds
        rules := ds.filterMap rule?
        extensions := ds.filterMap extension?
        states := ds.flatMap statePatterns
        actions := ds.flatMap actionPatterns } := by
  rw [ofDeclarations, foldl_add]
  rfl

end Parts

theorem Declaration.Alike.ofDeclarations_eq {ds ds' : List Declaration}
    (alike : Declaration.Alike ds ds') :
    Parts.ofDeclarations ds = Parts.ofDeclarations ds' := by
  rw [Parts.ofDeclarations_eq, Parts.ofDeclarations_eq, alike.starts, alike.rules, alike.extensions,
    alike.states, alike.actions]

/-! ## What is called at the start -/

section Starting

variable [Regex.Engine] {σ α β : Type}

/-- A host function is called. -/
def Happening.isCall : Happening → Bool
  | called .. => true
  | _ => false

/-- In the computation exactly these calls are made, whatever else happens. -/
def Recalls (calls : List Happening) (p : Run σ α) : Prop :=
  ∀ w, ∃ h, (p w).2.history = w.history ++ h ∧ h.filter (·.isCall) = calls

namespace Recalls

theorem quiet {p : Run σ α} (h : ∀ w, (p w).2.journal = w.journal) : Recalls [] p := by
  intro w
  refine ⟨[], ?_, rfl⟩
  rw [List.append_nil, World.history, World.history, h]

theorem bind {calls calls' : List Happening} {p : Run σ α} {k : α → Run σ β}
    (first : Recalls calls p) (rest : ∀ a, Recalls calls' (k a)) :
    Recalls (calls ++ calls') (p >>= k) := by
  intro w
  obtain ⟨h, here, made⟩ := first w
  obtain ⟨h', there, made'⟩ := rest (p w).1 (p w).2
  refine ⟨h ++ h', ?_, ?_⟩
  · rw [← List.append_assoc, ← here]
    exact there
  · rw [List.filter_append, made, made']

theorem happen (x : Happening) : Recalls (σ := σ) ([x].filter (·.isCall)) (World.happen x) := by
  intro w
  exact ⟨[x], by simp [World.happen, World.history, World.after, modify, modifyGet,
    MonadStateOf.modifyGet, StateT.modifyGet, pure], rfl⟩

theorem elsewhere {limit : Nat} {inside : Run σ Dispatched} (inner : Recalls [] inside) :
    Recalls [] (World.elsewhere limit inside) := by
  refine bind (.quiet fun _ => rfl : Recalls [] get) fun w => ?_
  split
  · exact .quiet fun _ => rfl
  · apply (happen (.enteredElsewhere limit)).bind
    exact fun _ => inner.bind fun _ => (happen .returnedElsewhere).bind fun _ => .quiet fun _ => rfl

end Recalls

theorem addsUp_recalls : AddsUp (σ := σ) fun _ => Recalls where
  pure _ := .quiet fun _ => rfl
  bind := .bind
  allocate := .quiet fun _ => rfl
  compare _ _ _ := .quiet fun _ => rfl

/-- Before there is a store, host code calls no functions of the host. -/
theorem Code.run_recalls (m : Machine) {x : Site} (code : Code σ α x) :
    Recalls [] (code.run m (fun _ => pure (.error (.depthExceeded 0))) (pure [])) := by
  induction code with
  | done a => exact .quiet fun _ => rfl
  | finished outcome => exact .quiet fun _ => rfl
  | read k ih => exact .bind (.quiet fun _ => rfl : Recalls [] get) fun w => ih w.memory
  | write memory k ih =>
    exact .bind (.quiet fun _ => rfl : Recalls [] (modify fun w => { w with memory })) fun _ => ih
  | allocate k ih => exact addsUp_recalls.allocate.bind ih
  | machine k ih => exact ih m
  | state k ih => exact .bind (.quiet fun _ => rfl : Recalls [] get) fun w => ih w.state
  | extended k ih => exact ih []
  | dispatch event k ih => exact ih _
  | subscribe callback k ih =>
    have subscribed : Recalls (σ := σ) [] (World.subscribe callback) :=
      .bind (.quiet fun _ => rfl : Recalls [] get) fun w =>
        (Recalls.happen _).bind fun _ => addsUp_recalls.pure _
    exact subscribed.bind ih
  | unsubscribe n k ih => exact (Recalls.happen (.unsubscribed n)).bind fun _ => ih
  | subscribers k ih =>
    exact .bind (.quiet fun _ => rfl : Recalls [] get) fun w => ih w.subscribers.length
  | elsewhere limit inside k inner ih => exact inner.elsewhere.bind ih

namespace Store

/-- What host functions do before there is a store. -/
def early (st : Store σ) : HostFn → Scope → Run σ Value :=
  st.callWith (Code.run st.machine (fun _ => pure (.error (.depthExceeded 0))) (pure []))

theorem early_recalls (st : Store σ) (f : HostFn) (s : Scope) :
    Recalls (st.calls [f] s) (st.early f s) := by
  unfold early callWith
  cases behaves : st.host.behaviour f with
  | immediate g =>
    have called : st.calls [f] s = [.called f s] := by simp [calls, behaves]
    rw [called]
    exact (Recalls.happen (.called f s)).bind fun _ => (g s).run_recalls st.machine
  | deferred g | events g =>
    have uncalled : st.calls [f] s = [] := by simp [calls, behaves]
    rw [uncalled]
    exact addsUp_recalls.pure _

/-- Evaluating an expression at the start calls the functions that occur in it and no others. -/
theorem eval_early_recalls (st : Store σ) (e : Expr) (s : Scope) :
    Recalls (st.calls e.functions s) (e.eval st.early s) :=
  Expr.eval_addsUp addsUp_recalls st.early_recalls e s

/-- The machine of declarations, one of which gives the start state. -/
def machineOf (limits : Limits) (ds : List Declaration) (start : Expr) : Machine where
  start := start
  rules := ds.filterMap rule?
  extensions := ds.filterMap extension?
  states := ds.flatMap statePatterns
  actions := ds.flatMap actionPatterns
  limits := limits

section

variable (host : Host σ) (hasExecutor : Bool) (limits : Limits) (ds : List Declaration)

theorem build_none (none : starts ds = []) (w : World σ) :
    build host hasExecutor limits ds w = (.error .missingStart, w) := by
  unfold build Machine.compile
  rw [Parts.ofDeclarations_eq, none]
  rfl

theorem build_several (several : 2 ≤ (starts ds).length) (w : World σ) :
    build host hasExecutor limits ds w = (.error (.multipleStart (starts ds).length), w) := by
  unfold build Machine.compile
  rw [Parts.ofDeclarations_eq]
  match declared : starts ds with
  | [] | [_] => simp [declared] at several
  | _ :: _ :: _ => rfl

/-- The start expression is evaluated before there is a store. -/
theorem build_one {start : Expr} (one : starts ds = [start]) (w : World σ) :
    let st : Store σ := { machine := machineOf limits ds start, host, hasExecutor }
    let (v, u) := start.eval st.early .empty w
    build host hasExecutor limits ds w = (.ok st, { u with state := v }) := by
  unfold build Machine.compile
  rw [Parts.ofDeclarations_eq, one]
  rfl

end

end Store

/-! ## Sessions -/

/-- What can be done with a store from outside of any dispatch: to run host code, and to give the
first task a turn. -/
inductive Operation (σ α : Type) where
  | run (script : Script σ α)
  | turn

/-- Operates on a store. Host code gives an answer. -/
def Operation.perform (st : Store σ) : Operation σ α → Run σ (Option α)
  | run script => some <$> st.run script
  | turn => do
    st.turn
    pure none

/-- Makes a store of declarations and operates on it. The answers are in order. -/
def Store.session (host : Host σ) (hasExecutor : Bool) (limits : Limits) (ds : List Declaration)
    (ops : List (Operation σ α)) : Run σ (Except MachineError (List (Option α))) := do
  match ← Store.build host hasExecutor limits ds with
  | .error e => pure (.error e)
  | .ok st => Except.ok <$> ops.mapM (·.perform st)

namespace Store

/-- Programs that declare the same in each kind make the same store, and no session tells one from
the other. No store is made of a program without a start state or with several; its start
expressions are not evaluated then, and nothing happens. Otherwise the one start expression is
evaluated once, in the empty scope. -/
theorem build_of_alike {ds ds' : List Declaration} (alike : Declaration.Alike ds ds')
    (host : Host σ) (hasExecutor : Bool) (limits : Limits) :
    let build := build host hasExecutor limits
    (∀ w, build ds w = build ds' w) ∧
    (∀ (α : Type) (ops : List (Operation σ α)) w,
      session host hasExecutor limits ds ops w = session host hasExecutor limits ds' ops w) ∧
    (∀ w, (build ds w).1 = .error .missingStart ↔ starts ds = []) ∧
    (∀ w n, (build ds w).1 = .error (.multipleStart n) ↔ n = (starts ds).length ∧ 2 ≤ n) ∧
    (∀ w e, (build ds w).1 = .error e → (build ds w).2 = w) ∧
    ∀ w st, (build ds w).1 = .ok st → ∃ start,
      starts ds = [start] ∧
      st = { machine := machineOf limits ds start, host, hasExecutor } ∧
      (build ds w).2 = { (start.eval st.early .empty w).2 with
        state := (start.eval st.early .empty w).1 } ∧
      ∃ h, (build ds w).2.history = w.history ++ h ∧
        h.filter (·.isCall) = st.calls start.functions .empty := by
  intro build
  have same : build ds = build ds' := by
    unfold build Store.build Machine.compile
    rw [alike.ofDeclarations_eq]
  refine ⟨congrFun same, fun α ops w => ?_, ?_⟩
  · have same : Store.build host hasExecutor limits ds = Store.build host hasExecutor limits ds' :=
      same
    rw [session, session, same]
  match declared : starts ds with
  | [] =>
    have built (w : World σ) : build ds w = _ := build_none host hasExecutor limits ds declared w
    simp [built]
  | first :: second :: more =>
    have several : 2 ≤ (first :: second :: more).length := by simp
    have built (w : World σ) : build ds w = _ :=
      build_several host hasExecutor limits ds (declared ▸ several) w
    simp only [built, declared]
    refine ⟨by simp, fun _ n => ⟨?_, ?_⟩, by simp, by simp⟩
    · intro e
      cases e
      exact ⟨rfl, several⟩
    · rintro ⟨rfl, -⟩
      rfl
  | [start] =>
    have built (w : World σ) : build ds w = _ := build_one host hasExecutor limits ds declared w
    simp only [built]
    refine ⟨by simp, fun _ n => ⟨nofun, ?_⟩, by simp, fun w st made => ?_⟩
    · rintro ⟨rfl, several⟩
      simp at several
    · cases made
      exact ⟨start, rfl, rfl, rfl, eval_early_recalls _ start .empty w⟩

end Store

end Starting

/-! ## A program with its declarations moved -/

section Moved

attribute [local instance] Regex.Engine.literal

namespace Store

namespace Moved

/-- The function that gives the start state. It tells whether it was called before. -/
def first : HostFn := ⟨0, "first"⟩

def teller : Host Bool where
  behaviour _ := .immediate fun _ => .read fun called => .write true (.done (.bool called))
  callback _ := .done ()

def swap : Rule where
  on := .state (.literal (.bool true))
  effect := .next (.const (.bool false)) []

def back : Rule where
  on := .state .wildcard
  effect := .next (.call first) []

def extension : Extension where
  dest := .const (.bool true)
  source := .literal (.bool false)

def scattered : List Declaration :=
  [.states [.literal (.bool true)], .rule swap, .actions [], .start (.call first),
    .states [.literal (.bool false)], .extension extension, .rule back]

def gathered : List Declaration :=
  [.start (.call first), .extension extension, .rule swap, .rule back,
    .states [.literal (.bool true), .literal (.bool false)]]

/-- An event is dispatched. -/
def ops : List (Operation Bool DispatchResult) := [.run (.dispatch .null .done), .turn]

def world : World Bool := { state := .undefined, nextAllocation := 0, memory := false }

end Moved

open Moved

theorem build_of_alike_moved :
    Declaration.Alike scattered gathered ∧
      session teller true {} scattered ops world = session teller true {} gathered ops world ∧
      (build teller true {} scattered world).2.state = .bool false ∧
      (build teller true {} scattered world).2.history = [.called first .empty] := by
  have alike : Declaration.Alike scattered gathered := ⟨rfl, rfl, rfl, rfl, rfl⟩
  obtain ⟨-, sessions, -⟩ := build_of_alike alike teller true {}
  exact ⟨alike, sessions _ ops world, rfl, rfl⟩

end Store

end Moved

end RuleMachine
