import RuleMachine.Proofs.Dispatch

/-!
# Operands

Evaluation skips no operand, evaluates none twice and takes them from left to right. What shows of
this are the host functions it calls: they are those that occur in the expression or condition, in
the order in which they occur, whatever they answer (`evaluates_in_order`). A condition is the
combination of the values of its operands, which are evaluated as if they stood in a list
(`Cond.test_agrees`).
-/

namespace RuleMachine

/-! ## What occurs in an expression -/

mutual

/-- The host functions that occur in an expression, from left to right, each as often as it
occurs. -/
def Expr.functions : Expr → List HostFn
  | .const _ | .get _ => []
  | .list items => Expr.functionsOfItems items
  | .record fields | .tagged _ fields => Expr.functionsOfFields fields
  | .binary _ l r => l.functions ++ r.functions
  | .call f => [f]

def Expr.functionsOfItems : List Expr → List HostFn
  | [] => []
  | e :: es => e.functions ++ Expr.functionsOfItems es

def Expr.functionsOfFields : List (String × Expr) → List HostFn
  | [] => []
  | (_, e) :: fields => e.functions ++ Expr.functionsOfFields fields

end

theorem Expr.functionsOfItems_append (es more : List Expr) :
    Expr.functionsOfItems (es ++ more) =
      Expr.functionsOfItems es ++ Expr.functionsOfItems more := by
  induction es with
  | nil => rfl
  | cons e es ih => simp [functionsOfItems, ih]

theorem Expr.functions_chain (head : Expr) (tail : List (Operator × Expr)) :
    (Expr.chain head tail).functions = head.functions ++ tail.flatMap (·.2.functions) := by
  induction tail generalizing head with
  | nil => simp [Expr.chain]
  | cons x tail ih =>
    rw [List.flatMap_cons, ← List.append_assoc]
    exact ih (.binary x.1 head x.2)

mutual

/-- The operands of a condition, from left to right. A function that is called for a condition is
one. -/
def Cond.operands : Cond → List Expr
  | .compare l _ r => [l, r]
  | .truthy e => [e]
  | .call f => [.call f]
  | .all cs | .any cs => Cond.operandsOf cs

def Cond.operandsOf : List Cond → List Expr
  | [] => []
  | c :: cs => c.operands ++ Cond.operandsOf cs

end

/-- The host functions that occur in a condition, like those of an expression. -/
def Cond.functions (c : Cond) : List HostFn := Expr.functionsOfItems c.operands

section Operands

variable [Regex.Engine] {σ α β γ δ : Type}

mutual

/-- Whether a condition holds if its operands have the values `vs`. -/
def Cond.holds : Cond → List Value → Bool
  | .compare _ op _, [a, b] => op.holds a b
  | .truthy _, [v] => v.isTruthy
  | .call _, [v] => v.isTruthy
  | .all cs, vs => Cond.allHold cs vs
  | .any cs, vs => Cond.anyHolds cs vs
  | _, _ => false

def Cond.allHold : List Cond → List Value → Bool
  | [], _ => true
  | c :: cs, vs =>
    c.holds (vs.take c.operands.length) && Cond.allHold cs (vs.drop c.operands.length)

def Cond.anyHolds : List Cond → List Value → Bool
  | [], _ => false
  | c :: cs, vs =>
    c.holds (vs.take c.operands.length) || Cond.anyHolds cs (vs.drop c.operands.length)

end

/-! ## Computations that agree -/

namespace World

/-- The world without the patterns that are kept compiled. -/
def uncached (w : World σ) : World σ := { w with cache := .empty }

theorem Between.of_uncached {w u u' : World σ} {h : List Happening}
    (same : u.uncached = u'.uncached) (between : w.Between u' h) : w.Between u h := by
  have standing : u.uncached.toStanding = u'.uncached.toStanding := congrArg World.toStanding same
  have history : u.uncached.history = u'.uncached.history := congrArg World.history same
  exact ⟨history.trans between.history, standing.trans between.standing⟩

end World

/-- From worlds that differ in compiled patterns only, the computations come to answers that `V`
relates, and again to such worlds. -/
def Agree (V : α → β → Prop) (p : Run σ α) (q : Run σ β) : Prop :=
  ∀ w w' : World σ, w.uncached = w'.uncached →
    V (p w).1 (q w').1 ∧ (p w).2.uncached = (q w').2.uncached

namespace Agree

variable {V : α → β → Prop} {W : γ → δ → Prop}

theorem pure {a : α} {b : β} (h : V a b) : Agree (σ := σ) V (Pure.pure a) (Pure.pure b) :=
  fun _ _ same => ⟨h, same⟩

theorem bind {p : Run σ α} {q : Run σ β} {k : α → Run σ γ} {l : β → Run σ δ} (h : Agree V p q)
    (hk : ∀ a b, V a b → Agree W (k a) (l b)) : Agree W (p >>= k) (q >>= l) := by
  intro w w' same
  obtain ⟨answers, worlds⟩ := h w w' same
  exact hk _ _ answers _ _ worlds

/-- What is kept compiled does not show in the answer to a comparison. -/
theorem compare {X : Bool → β → Prop} {op : Comparison} {l r : Value} {b : β}
    (h : X (op.holds l r) b) : Agree (σ := σ) X (World.compare op l r) (Pure.pure b) := by
  intro w w' same
  have answer : (World.compare op l r w).1 = op.holds l r := op.evaluate_fst w.cache l r
  rw [answer]
  exact ⟨h, same⟩

end Agree

/-- Exactly `h` happens in the computation, and compiled patterns do not show in it. -/
structure Logs (h : List Happening) (p : Run σ α) : Prop where
  between (w : World σ) : w.Between (p w).2 h
  agrees : Agree Eq p p

namespace Logs

variable {h h' : List Happening}

theorem pure (a : α) : Logs (σ := σ) [] (Pure.pure a) := ⟨.refl, .pure rfl⟩

theorem bind {p : Run σ α} {k : α → Run σ β} (first : Logs h p) (rest : ∀ a, Logs h' (k a)) :
    Logs (h ++ h') (p >>= k) where
  between w := (first.between w).trans ((rest _).between _)
  agrees := first.agrees.bind fun a _ same => same ▸ (rest a).agrees

theorem quietly {p : Run σ α} {k : α → Run σ β} (first : Logs h p) (rest : ∀ a, Logs [] (k a)) :
    Logs h (p >>= k) := by
  simpa using first.bind rest

/-- Looking at the world, compiled patterns apart. -/
theorem look {f : World σ → β} {k : β → Run σ α} (blind : ∀ w, f w = f w.uncached)
    (rest : ∀ b, Logs h (k b)) : Logs h (get >>= fun w => k (f w)) where
  between w := (rest (f w)).between w
  agrees w w' same := by
    have seen : f w = f w' := by rw [blind w, same, ← blind w']
    have next := (rest (f w)).agrees w w' same
    rw [bind_apply, bind_apply]
    change _ = (k (f w') w').1 ∧ _ = (k (f w') w').2.uncached
    rw [← seen]
    exact next

/-- A change of the world that leaves the store, its journal and compiled patterns alone. -/
theorem update {f : World σ → World σ} (standing : ∀ w, (f w).toStanding = w.toStanding)
    (journal : ∀ w, (f w).journal = w.journal) (blind : ∀ w, (f w).uncached = f w.uncached) :
    Logs [] (modify f) where
  between w := by
    have history : (f w).history = w.history := congrArg Array.toList (journal w)
    exact ⟨history.trans (List.append_nil _).symm, standing w⟩
  agrees w w' same := by
    have worlds : (f w).uncached = (f w').uncached := by rw [blind, same, blind]
    exact ⟨rfl, worlds⟩

theorem allocate : Logs (σ := σ) [] World.allocate where
  between w := ⟨(List.append_nil _).symm, rfl⟩
  agrees w w' same := by
    have number : w.uncached.nextAllocation = w'.uncached.nextAllocation :=
      congrArg World.nextAllocation same
    have worlds :=
      congrArg (fun u : World σ => { u with nextAllocation := u.nextAllocation + 1 }) same
    exact ⟨number, worlds⟩

theorem compare (op : Comparison) (l r : Value) : Logs (σ := σ) [] (World.compare op l r) where
  between w := ⟨(List.append_nil _).symm, rfl⟩
  agrees w w' same := by
    have answer (w : World σ) : (World.compare op l r w).1 = op.holds l r :=
      op.evaluate_fst w.cache l r
    exact ⟨(answer w).trans (answer w').symm, same⟩

theorem happen (x : Happening) : Logs (σ := σ) [x] (World.happen x) where
  between w := .after w x
  agrees _ _ same := ⟨rfl, congrArg (World.after · x) same⟩

end Logs

/-! ## Host functions that only answer -/

/-- Code that may use the memory of the host, take allocations and look at the store, but does not
make it or another one do anything. -/
def Code.Answers : {x : Site} → Code σ α x → Prop
  | _, done _ | _, finished _ => True
  | _, read k => ∀ memory, (k memory).Answers
  | _, write _ k => k.Answers
  | _, allocate k | _, subscribers k => ∀ n, (k n).Answers
  | _, machine k => ∀ m, (k m).Answers
  | _, state k => ∀ v, (k v).Answers
  | _, extended _ | _, dispatch .. | _, subscribe .. | _, unsubscribe .. | _, elsewhere .. => False

/-- The functions that give their value at once do nothing else. -/
def Host.Answers (host : Host σ) : Prop :=
  ∀ f g, host.behaviour f = .immediate g → ∀ s, (g s).Answers

theorem Code.run_logs {m : Machine} {dispatch : Value → Run σ DispatchResult}
    {extended : Run σ (List Value)} {x : Site} (code : Code σ α x) (answers : code.Answers) :
    Logs [] (code.run m dispatch extended) := by
  induction code with
  | done a => exact .pure a
  | finished outcome => exact .pure outcome
  | read k ih =>
    exact .look (f := World.memory) (fun _ => rfl) fun memory => ih memory (answers memory)
  | write memory k ih =>
    have written : Logs (σ := σ) [] (modify fun w => { w with memory }) :=
      .update (fun _ => rfl) (fun _ => rfl) fun _ => rfl
    exact written.bind fun _ => ih answers
  | allocate k ih => exact Logs.allocate.bind fun n => ih n (answers n)
  | machine k ih => exact ih m (answers m)
  | state k ih => exact .look (f := fun w => w.state) (fun _ => rfl) fun v => ih v (answers v)
  | subscribers k ih =>
    exact .look (f := fun w => w.subscribers.length) (fun _ => rfl) fun n => ih n (answers n)
  | extended | dispatch | subscribe | unsubscribe | elsewhere => exact answers.elim

namespace Store

variable (st : Store σ)

/-- The functions that are called where functions of the host occur: those that give their value at
once. -/
def calls (fs : List HostFn) (s : Scope) : List Happening :=
  (fs.filter fun f => st.host.behaviour f matches .immediate _).map (.called · s)

omit [Regex.Engine] in
theorem calls_append (fs gs : List HostFn) (s : Scope) :
    st.calls (fs ++ gs) s = st.calls fs s ++ st.calls gs s := by
  simp [calls]

theorem callWith_logs {dispatch : Value → Run σ DispatchResult}
    {extended : Run σ (List Value)} (answers : st.host.Answers) (f : HostFn) (s : Scope) :
    Logs (st.calls [f] s) (st.callWith (Code.run st.machine dispatch extended) f s) := by
  unfold Store.callWith
  cases behaves : st.host.behaviour f with
  | immediate g =>
    have called : st.calls [f] s = [.called f s] := by simp [calls, behaves]
    rw [called]
    exact (Logs.happen _).quietly fun _ => (g s).run_logs (answers f g behaves s)
  | deferred g | events g =>
    have uncalled : st.calls [f] s = [] := by simp [calls, behaves]
    rw [uncalled]
    exact .pure _

end Store

/-! ## Evaluation -/

/-- What is said of computations together with what is called in them: calls add up from step to
step, and neither a new allocation nor a comparison is one. -/
structure AddsUp (P : (α : Type) → List Happening → Run σ α → Prop) : Prop where
  pure {α : Type} (a : α) : P α [] (Pure.pure a)
  bind {α β : Type} {h h' : List Happening} {p : Run σ α} {k : α → Run σ β} :
    P α h p → (∀ a, P β h' (k a)) → P β (h ++ h') (p >>= k)
  allocate : P Nat [] World.allocate
  compare (op : Comparison) (l r : Value) : P Bool [] (World.compare op l r)

theorem addsUp_logs : AddsUp (σ := σ) fun _ => Logs := ⟨.pure, .bind, .allocate, .compare⟩

/-- What `call` does with a function of the host is to call it once, if it is called at all. -/
abbrev Store.CallsOnce (st : Store σ) (P : (α : Type) → List Happening → Run σ α → Prop)
    (call : HostFn → Scope → Run σ Value) : Prop :=
  ∀ f s, P Value (st.calls [f] s) (call f s)

section Calling

variable {P : (α : Type) → List Happening → Run σ α → Prop}

theorem AddsUp.quietly (adds : AddsUp P) {h : List Happening} {p : Run σ α} {k : α → Run σ β}
    (first : P α h p) (rest : ∀ a, P β [] (k a)) : P β h (p >>= k) := by
  simpa using adds.bind first rest

variable {st : Store σ} {call : HostFn → Scope → Run σ Value}

mutual

/-- The functions that occur in an expression are called. -/
theorem Expr.eval_addsUp (adds : AddsUp P) (hc : st.CallsOnce P call) :
    ∀ (e : Expr) (s : Scope), P Value (st.calls e.functions s) (e.eval call s)
  | .const v, s => adds.pure v
  | .get name, s => adds.pure (s.get name)
  | .list items, s => by
    apply adds.quietly (Expr.evalItems_addsUp adds hc items s)
    exact fun _ => adds.quietly adds.allocate fun _ => adds.pure _
  | .record fields, s => by
    apply adds.quietly (Expr.evalFields_addsUp adds hc fields s)
    exact fun _ => adds.quietly adds.allocate fun _ => adds.pure _
  | .tagged name fields, s => by
    apply adds.quietly (Expr.evalFields_addsUp adds hc fields s)
    exact fun _ => adds.quietly adds.allocate fun _ => adds.pure _
  | .binary op l r, s => by
    rw [Expr.functions, st.calls_append]
    apply adds.bind (Expr.eval_addsUp adds hc l s)
    exact fun _ => adds.quietly (Expr.eval_addsUp adds hc r s) fun _ => adds.pure _
  | .call f, s => hc f s

theorem Expr.evalItems_addsUp (adds : AddsUp P) (hc : st.CallsOnce P call) :
    ∀ (es : List Expr) (s : Scope),
      P (List Value) (st.calls (Expr.functionsOfItems es) s) (Expr.evalItems call es s)
  | [], _ => adds.pure []
  | e :: es, s => by
    rw [Expr.functionsOfItems, st.calls_append]
    apply adds.bind (Expr.eval_addsUp adds hc e s)
    exact fun _ => adds.quietly (Expr.evalItems_addsUp adds hc es s) fun _ => adds.pure _

theorem Expr.evalFields_addsUp (adds : AddsUp P) (hc : st.CallsOnce P call) :
    ∀ (fields : List (String × Expr)) (s : Scope),
      P (List (String × Value)) (st.calls (Expr.functionsOfFields fields) s)
        (Expr.evalFields call fields s)
  | [], _ => adds.pure []
  | (_, e) :: fields, s => by
    rw [Expr.functionsOfFields, st.calls_append]
    apply adds.bind (Expr.eval_addsUp adds hc e s)
    exact fun _ => adds.quietly (Expr.evalFields_addsUp adds hc fields s) fun _ => adds.pure _

end

mutual

/-- So are those that occur in a condition. -/
theorem Cond.test_addsUp (adds : AddsUp P) (hc : st.CallsOnce P call) :
    ∀ (c : Cond) (s : Scope), P Bool (st.calls c.functions s) (c.test call s)
  | .compare l op r, s => by
    have both : (Cond.compare l op r).functions = l.functions ++ r.functions := by
      simp [Cond.functions, Cond.operands, Expr.functionsOfItems]
    rw [both, st.calls_append]
    apply adds.bind (Expr.eval_addsUp adds hc l s)
    exact fun a => adds.quietly (Expr.eval_addsUp adds hc r s) fun b => adds.compare op a b
  | .truthy e, s => by
    have one : (Cond.truthy e).functions = e.functions := List.append_nil _
    rw [one]
    exact adds.quietly (Expr.eval_addsUp adds hc e s) fun _ => adds.pure _
  | .call f, s => adds.quietly (hc f s) fun _ => adds.pure _
  | .all cs, s => Cond.testAll_addsUp adds hc cs s
  | .any cs, s => Cond.testAny_addsUp adds hc cs s

theorem Cond.testAll_addsUp (adds : AddsUp P) (hc : st.CallsOnce P call) :
    ∀ (cs : List Cond) (s : Scope),
      P Bool (st.calls (Expr.functionsOfItems (Cond.operandsOf cs)) s) (Cond.testAll call cs s)
  | [], _ => adds.pure true
  | c :: cs, s => by
    rw [Cond.operandsOf, Expr.functionsOfItems_append, st.calls_append]
    apply adds.bind (Cond.test_addsUp adds hc c s)
    exact fun _ => adds.quietly (Cond.testAll_addsUp adds hc cs s) fun _ => adds.pure _

theorem Cond.testAny_addsUp (adds : AddsUp P) (hc : st.CallsOnce P call) :
    ∀ (cs : List Cond) (s : Scope),
      P Bool (st.calls (Expr.functionsOfItems (Cond.operandsOf cs)) s) (Cond.testAny call cs s)
  | [], _ => adds.pure false
  | c :: cs, s => by
    rw [Cond.operandsOf, Expr.functionsOfItems_append, st.calls_append]
    apply adds.bind (Cond.test_addsUp adds hc c s)
    exact fun _ => adds.quietly (Cond.testAny_addsUp adds hc cs s) fun _ => adds.pure _

end

end Calling

section Evaluation

variable {st : Store σ} {call : HostFn → Scope → Run σ Value}

theorem Expr.eval_logs (hc : st.CallsOnce (fun _ => Logs) call) (e : Expr)
    (s : Scope) : Logs (st.calls e.functions s) (e.eval call s) :=
  Expr.eval_addsUp addsUp_logs hc e s

theorem Expr.evalItems_logs (hc : st.CallsOnce (fun _ => Logs) call) (es : List Expr)
    (s : Scope) : Logs (st.calls (Expr.functionsOfItems es) s) (Expr.evalItems call es s) :=
  Expr.evalItems_addsUp addsUp_logs hc es s

theorem Expr.evalItems_append (es more : List Expr) (s : Scope) :
    Expr.evalItems call (es ++ more) s = (do
      let vs ← Expr.evalItems call es s
      let ws ← Expr.evalItems call more s
      pure (vs ++ ws)) := by
  induction es with
  | nil => rfl
  | cons e es ih =>
    rw [List.cons_append, Expr.evalItems, ih]
    rfl

/-- A Boolean is what a condition comes to if its operands have the values `vs`. -/
def Cond.ComesTo (c : Cond) (b : Bool) (vs : List Value) : Prop :=
  vs.length = c.operands.length ∧ b = c.holds vs

/-- A condition in front of others: its operands are the first ones. -/
theorem Cond.ComesTo.row {c : Cond} {op : Bool → Bool → Bool} {rest : List Value → Bool} {n : Nat}
    {p p' : Run σ Bool} {q q' : Run σ (List Value)} (first : Agree c.ComesTo p q)
    (others : Agree (fun b vs => vs.length = n ∧ b = rest vs) p' q') :
    Agree (fun b vs => vs.length = c.operands.length + n ∧
        b = op (c.holds (vs.take c.operands.length)) (rest (vs.drop c.operands.length)))
      (do return op (← p) (← p')) (do return (← q) ++ (← q')) := by
  apply first.bind
  rintro b vs ⟨length, rfl⟩
  apply others.bind
  rintro b ws ⟨length', rfl⟩
  refine .pure ⟨by rw [List.length_append, length, length'], ?_⟩
  rw [List.take_left' length, List.drop_left' length]

mutual

/-- A condition is the combination of its operands, evaluated as if they stood in a list. -/
theorem Cond.test_agrees (hc : st.CallsOnce (fun _ => Logs) call) :
    ∀ (c : Cond) (s : Scope), Agree c.ComesTo (c.test call s) (Expr.evalItems call c.operands s)
  | .compare l op r, s => by
    have both : Expr.evalItems call [l, r] s = (do
        let a ← l.eval call s
        let b ← r.eval call s
        pure [a, b]) := rfl
    rw [Cond.operands, both]
    apply (Expr.eval_logs hc l s).agrees.bind
    rintro a _ rfl
    apply (Expr.eval_logs hc r s).agrees.bind
    rintro b _ rfl
    exact .compare ⟨rfl, rfl⟩
  | .truthy e, s => by
    apply (Expr.eval_logs hc e s).agrees.bind
    rintro v _ rfl
    exact .pure ⟨rfl, rfl⟩
  | .call f, s => by
    apply (hc f s).agrees.bind
    rintro v _ rfl
    exact .pure ⟨rfl, rfl⟩
  | .all cs, s => Cond.testAll_agrees hc cs s
  | .any cs, s => Cond.testAny_agrees hc cs s

theorem Cond.testAll_agrees (hc : st.CallsOnce (fun _ => Logs) call) :
    ∀ (cs : List Cond) (s : Scope),
      Agree (fun b vs => vs.length = (Cond.operandsOf cs).length ∧ b = Cond.allHold cs vs)
        (Cond.testAll call cs s) (Expr.evalItems call (Cond.operandsOf cs) s)
  | [], s => .pure ⟨rfl, rfl⟩
  | c :: cs, s => by
    rw [Cond.operandsOf, Expr.evalItems_append, List.length_append]
    exact Cond.ComesTo.row (Cond.test_agrees hc c s) (Cond.testAll_agrees hc cs s)

theorem Cond.testAny_agrees (hc : st.CallsOnce (fun _ => Logs) call) :
    ∀ (cs : List Cond) (s : Scope),
      Agree (fun b vs => vs.length = (Cond.operandsOf cs).length ∧ b = Cond.anyHolds cs vs)
        (Cond.testAny call cs s) (Expr.evalItems call (Cond.operandsOf cs) s)
  | [], s => .pure ⟨rfl, rfl⟩
  | c :: cs, s => by
    rw [Cond.operandsOf, Expr.evalItems_append, List.length_append]
    exact Cond.ComesTo.row (Cond.test_agrees hc c s) (Cond.testAny_agrees hc cs s)

end

end Evaluation

namespace Store

/-- Where host functions only answer, evaluation calls those that occur, in the order in which they
occur, each as often as it occurs and in the scope it is evaluated in, and nothing else happens. A
condition is the combination of its operands: these have the values that they have in a list, and
but for compiled patterns it leaves the world as the list does. -/
theorem evaluates_in_order (st : Store σ) (answers : st.host.Answers)
    (dispatch : Value → Run σ DispatchResult) (extended : Run σ (List Value)) (s : Scope)
    (w : World σ) :
    let call := st.callWith (Code.run st.machine dispatch extended)
    (∀ e : Expr, w.Between (e.eval call s w).2 (st.calls e.functions s)) ∧
    (∀ head tail, w.Between ((Expr.chain head tail).eval call s w).2
      (st.calls (head.functions ++ tail.flatMap (·.2.functions)) s)) ∧
    ∀ c : Cond, w.Between (c.test call s w).2 (st.calls c.functions s) ∧
      (c.test call s w).1 = c.holds (Expr.evalItems call c.operands s w).1 ∧
      (c.test call s w).2.uncached = (Expr.evalItems call c.operands s w).2.uncached := by
  intro call
  have hc : st.CallsOnce (fun _ => Logs) call := st.callWith_logs answers
  refine ⟨fun e => (Expr.eval_logs hc e s).between w, fun head tail => ?_, fun c => ?_⟩
  · rw [← Expr.functions_chain]
    exact (Expr.eval_logs hc _ s).between w
  · obtain ⟨⟨-, answer⟩, worlds⟩ := Cond.test_agrees hc c s w w rfl
    have between := (Expr.evalItems_logs hc c.operands s).between w
    exact ⟨between.of_uncached worlds, answer, worlds⟩

end Store

end Operands

/-! ## A poll of functions that take turns -/

section Poll

attribute [local instance] Regex.Engine.literal

namespace Store

namespace Poll

/-- The function with number 3 gives events, the others say in turn no and yes. -/
def store : Store Nat where
  machine :=
    { start := .const .null, rules := [], extensions := [], states := [], actions := []
      limits := {} }
  host :=
    { behaviour
        | ⟨3, _⟩ => .events fun _ => .done []
        | _ => .immediate fun _ => .read fun n => .write (n + 1) (.done (.bool (n % 2 = 1)))
      callback := fun _ => .done () }

def f (n : Nat) : HostFn := ⟨n, "f"⟩

/-- The first function says no, and yet all are asked. -/
def cond : Cond :=
  .all [.call (f 0), .any [.truthy (.call (f 1)), .compare (.call (f 3)) .is (.call (f 2))]]

def world : World Nat := store.boot 0 0

end Poll

open Poll

theorem evaluates_in_order_poll :
    store.host.Answers ∧
      world.Between (cond.test (store.callWith (store.runWith store.dispatch)) .empty world).2
        [.called (f 0) .empty, .called (f 1) .empty, .called (f 2) .empty] ∧
      (cond.test (store.callWith (store.runWith store.dispatch)) .empty world).1 =
        cond.holds [.bool false, .bool true, .undefined, .bool false] := by
  have answers : store.host.Answers := by
    intro f g behaves s
    simp only [store] at behaves
    split at behaves
    · cases behaves
    · cases behaves
      exact fun _ => trivial
  obtain ⟨-, -, polled⟩ := evaluates_in_order store answers store.dispatch
    (store.extendedWithin store.dispatch store.queryDepth) .empty world
  exact ⟨answers, (polled cond).1, (polled cond).2.1⟩

end Store

end Poll

end RuleMachine
