import RuleMachine.World

/-!
# Evaluation

Expressions, conditions and steps are evaluated from left to right, and no operand is skipped.
Host functions are called through `call`. A list or record that an expression builds is a new
allocation.
-/

namespace RuleMachine

variable [Regex.Engine] {σ : Type} (call : HostFn → Scope → Run σ Value)

mutual

def Expr.eval : Expr → Scope → Run σ Value
  | .const v, _ => pure v
  | .get name, s => pure (s.get name)
  | .list items, s => do
    let vs ← Expr.evalItems items s
    let n ← World.allocate
    pure (.list n vs)
  | .record fields, s => do
    let vs ← Expr.evalFields fields s
    let n ← World.allocate
    pure (.record n (Entries.ofPairs vs))
  | .tagged name fields, s => do
    let vs ← Expr.evalFields fields s
    let n ← World.allocate
    pure (.record n (Value.taggedFields name vs))
  | .binary op l r, s => do
    let a ← Expr.eval l s
    let b ← Expr.eval r s
    pure (op.apply a b)
  | .call f, s => call f s

def Expr.evalItems : List Expr → Scope → Run σ (List Value)
  | [], _ => pure []
  | e :: es, s => do
    let v ← Expr.eval e s
    let vs ← Expr.evalItems es s
    pure (v :: vs)

def Expr.evalFields : List (String × Expr) → Scope → Run σ (List (String × Value))
  | [], _ => pure []
  | (key, e) :: fields, s => do
    let v ← Expr.eval e s
    let vs ← Expr.evalFields fields s
    pure ((key, v) :: vs)

end

mutual

def Cond.test : Cond → Scope → Run σ Bool
  | .compare l op r, s => do
    let a ← l.eval call s
    let b ← r.eval call s
    World.compare op a b
  | .truthy e, s => do
    let v ← e.eval call s
    pure v.isTruthy
  | .call f, s => do
    let v ← call f s
    pure v.isTruthy
  | .all cs, s => Cond.testAll cs s
  | .any cs, s => Cond.testAny cs s

/-- Whether all conditions hold; every one is tested. -/
def Cond.testAll : List Cond → Scope → Run σ Bool
  | [], _ => pure true
  | c :: cs, s => do
    let first ← Cond.test c s
    let rest ← Cond.testAll cs s
    pure (first && rest)

/-- Whether one of the conditions holds; every one is tested. -/
def Cond.testAny : List Cond → Scope → Run σ Bool
  | [], _ => pure false
  | c :: cs, s => do
    let first ← Cond.test c s
    let rest ← Cond.testAny cs s
    pure (first || rest)

end

mutual

/-- Matches a state and an event, starting from a scope. -/
def Step.run (state event : Value) : Step → Scope → Run σ (Outcome Scope)
  | .state p, s => pure (p.run state s)
  | .event p, s => pure (p.run event s)
  | .cond c, s => do
    let holds ← c.test call s
    pure (Outcome.when holds s)
  | .sequence ss, s => Step.runAll state event ss s
  | .alternatives ss, s => Step.runFirst state event ss s

/-- Runs steps in order, each in the scope that the one before it leaves. -/
def Step.runAll (state event : Value) : List Step → Scope → Run σ (Outcome Scope)
  | [], s => pure (some s)
  | t :: ts, s => do
    match ← Step.run state event t s with
    | some s => Step.runAll state event ts s
    | none => pure none

/-- The first step that succeeds, each tried in the same scope. -/
def Step.runFirst (state event : Value) : List Step → Scope → Run σ (Outcome Scope)
  | [], _ => pure none
  | t :: ts, s => do
    match ← Step.run state event t s with
    | some s => pure (some s)
    | none => Step.runFirst state event ts s

end

/-- A sequence threads the scope. -/
theorem Step.runAll_eq_thread (state event : Value) (ss : List Step) (s : Scope) (i : Nat) :
    Step.runAll call state event ss s =
      Outcome.thread (fun s t _ => Step.run call state event t s) s i ss := by
  induction ss generalizing s i with
  | nil => rfl
  | cons t ts ih =>
    simp only [Step.runAll, Outcome.thread]
    congr 1
    funext o
    cases o with
    | none => rfl
    | some s => exact ih s (i + 1)

/-- Of alternatives the first success counts. -/
theorem Step.runFirst_eq_firstSuccess (state event : Value) (ss : List Step) (s : Scope) :
    Step.runFirst call state event ss s =
      Outcome.firstSuccess (fun t => Step.run call state event t s) ss := by
  induction ss with
  | nil => rfl
  | cons t ts ih =>
    simp only [Step.runFirst, Outcome.firstSuccess]
    congr 1
    funext o
    cases o with
    | none => exact ih
    | some _ => rfl

/-- The state that an extension gives for a state, if it applies. -/
def Extension.derive (x : Extension) (v : Value) : Run σ (Option Value) :=
  match x.source.run v .empty with
  | some s => some <$> x.dest.eval call s
  | none => pure none

end RuleMachine
