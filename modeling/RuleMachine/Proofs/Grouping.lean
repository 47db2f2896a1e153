import RuleMachine.Proofs.Lockstep

/-!
# Grouping

A list of alternatives in place of one of the alternatives does the same as its members there, and
so do a sequence within a sequence and a connective within the same connective. The equations are
of computations, whatever the functions of the host do: so what comes out is the same, and the same
functions are called, in the same order and on the same scopes.
-/

namespace RuleMachine

/-! ## First successes -/

namespace Outcome

variable {α β : Type} {m : Type → Type} [Monad m] [LawfulMonad m] (f : α → m (Outcome β))

/-- What comes last is tried where nothing before it succeeds. -/
theorem firstSuccess_append (xs ys : List α) :
    firstSuccess f (xs ++ ys) = (do
      match ← firstSuccess f xs with
      | some value => pure (some value)
      | none => firstSuccess f ys) := by
  induction xs with
  | nil => simp [firstSuccess]
  | cons x xs ih =>
    simp only [List.cons_append, firstSuccess, bind_assoc]
    congr 1
    funext o
    cases o with
    | none => exact ih
    | some value => simp

/-- An item that is a first success itself. -/
theorem firstSuccess_splice {x : α} {ys : List α} (same : f x = firstSuccess f ys)
    (xs zs : List α) :
    firstSuccess f (xs ++ [x] ++ zs) = firstSuccess f (xs ++ ys ++ zs) := by
  have alone : firstSuccess f [x] = firstSuccess f ys := by
    rw [firstSuccess, ← same]
    refine Eq.trans ?_ (bind_pure (f x))
    congr 1
    funext o
    cases o <;> rfl
  rw [firstSuccess_append, firstSuccess_append, alone, ← firstSuccess_append,
    ← firstSuccess_append]

end Outcome

/-! ## Steps -/

namespace Step

variable [Regex.Engine] {σ : Type} (call : HostFn → Scope → Run σ Value) (state event : Value)

theorem run_alternatives (xs ys zs : List Step) (s : Scope) :
    run call state event (.alternatives (xs ++ [.alternatives ys] ++ zs)) s =
      run call state event (.alternatives (xs ++ ys ++ zs)) s := by
  rw [run, run, runFirst_eq_firstSuccess, runFirst_eq_firstSuccess]
  apply Outcome.firstSuccess_splice
  rw [run, runFirst_eq_firstSuccess]

/-- What comes last goes on in the scope that is left, unless something before it fails. -/
theorem runAll_append (ss ts : List Step) (s : Scope) :
    runAll call state event (ss ++ ts) s = (do
      match ← runAll call state event ss s with
      | some s => runAll call state event ts s
      | none => pure none) := by
  induction ss generalizing s with
  | nil => simp [runAll]
  | cons t ss ih =>
    simp only [List.cons_append, runAll, bind_assoc]
    congr 1
    funext o
    cases o with
    | none => simp
    | some s => exact ih s

theorem run_sequence (xs ys zs : List Step) (s : Scope) :
    run call state event (.sequence (xs ++ [.sequence ys] ++ zs)) s =
      run call state event (.sequence (xs ++ ys ++ zs)) s := by
  have alone (s : Scope) :
      runAll call state event [.sequence ys] s = runAll call state event ys s := by
    rw [runAll, run]
    refine Eq.trans ?_ (bind_pure _)
    congr 1
    funext o
    cases o <;> simp [runAll]
  rw [run, run, List.append_assoc, List.append_assoc, runAll_append, runAll_append]
  congr 1
  funext o
  cases o with
  | none => rfl
  | some s =>
    dsimp only
    rw [runAll_append, runAll_append, alone]

end Step

/-! ## Effects -/

namespace Effect

variable [Regex.Engine] {σ : Type} (env : Surroundings σ)

theorem react_alternatives (xs ys zs : List Effect) (s : Scope) :
    react env (.alternatives (xs ++ [.alternatives ys] ++ zs)) s =
      react env (.alternatives (xs ++ ys ++ zs)) s := by
  rw [react, react, reactFirst_eq_firstSuccess, reactFirst_eq_firstSuccess]
  apply Outcome.firstSuccess_splice
  rw [react, reactFirst_eq_firstSuccess]

/-- Nothing after the alternative that reacts is evaluated. -/
theorem react_winner {xs : List Effect} {s : Scope} {w u : World σ} {r : Reaction σ}
    (reacted : react env (.alternatives xs) s w = (some r, u)) (more : List Effect) :
    react env (.alternatives (xs ++ more)) s w = (some r, u) := by
  rw [react, reactFirst_eq_firstSuccess] at reacted ⊢
  rw [Outcome.firstSuccess_append, bind_apply, reacted]
  rfl

end Effect

/-! ## Conditions -/

namespace Cond

variable [Regex.Engine] {σ : Type} (call : HostFn → Scope → Run σ Value) (s : Scope)

/-- Every condition is tested, before the results are put together. -/
theorem testAll_eq_mapM (cs : List Cond) :
    testAll call cs s = (fun bs => bs.all id) <$> cs.mapM (test call · s) := by
  induction cs with
  | nil => simp [testAll]
  | cons c cs ih => simp [testAll, ih]

theorem testAny_eq_mapM (cs : List Cond) :
    testAny call cs s = (fun bs => bs.any id) <$> cs.mapM (test call · s) := by
  induction cs with
  | nil => simp [testAny]
  | cons c cs ih => simp [testAny, ih]

theorem test_all (xs ys zs : List Cond) :
    test call (.all (xs ++ [.all ys] ++ zs)) s = test call (.all (xs ++ ys ++ zs)) s := by
  rw [test, test, testAll_eq_mapM, testAll_eq_mapM]
  simp [test, testAll_eq_mapM, List.mapM_append]

theorem test_any (xs ys zs : List Cond) :
    test call (.any (xs ++ [.any ys] ++ zs)) s = test call (.any (xs ++ ys ++ zs)) s := by
  rw [test, test, testAny_eq_mapM, testAny_eq_mapM]
  simp [test, testAny_eq_mapM, List.mapM_append]

end Cond

end RuleMachine
