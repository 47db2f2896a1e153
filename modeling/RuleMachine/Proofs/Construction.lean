import Mathlib.Data.List.Induction
import RuleMachine.Proofs.Lockstep
import RuleMachine.Proofs.Sharing

/-!
# Tagged expressions and tagged patterns

A tagged expression builds what a tagged pattern of the same name takes apart. The pattern finds
under each name the value of the last field of that name, and undefined where there is none
(`LastValue`); only under the name of the tag it finds the tag (`HasUnder`). So the pattern matches
if and only if its fields match these values, one after the other (`tagged_dual`).
-/

namespace RuleMachine

variable {σ : Type}

namespace Entries

variable {α : Type}

/-- Of pairs with one key the last counts. -/
theorem get?_ofPairs (pairs : List (String × α)) (key : String) :
    (ofPairs pairs).get? key = pairs.reverse.lookup key := by
  induction pairs using List.reverseRecOn with
  | nil => rfl
  | append_singleton pairs pair ih =>
    rw [ofPairs, List.foldl_append, List.reverse_append]
    change ((ofPairs pairs).insert pair.1 pair.2).get? key =
      List.lookup key (pair :: pairs.reverse)
    by_cases same : key = pair.1
    · subst same
      rw [get?_insert_self, List.lookup_cons, beq_self_eq_true]
    · rw [get?_insert_of_ne same, ih, List.lookup_cons, beq_false_of_ne same]

end Entries

/-! ## Fields of expressions -/

section Fields

variable [Regex.Engine] (call : HostFn → Scope → Run σ Value) (fields : List (String × Expr)) (s : Scope)

theorem Expr.evalFields_append (more : List (String × Expr)) :
    Expr.evalFields call (fields ++ more) s = (do
      let vs ← Expr.evalFields call fields s
      let ws ← Expr.evalFields call more s
      pure (vs ++ ws)) := by
  induction fields with
  | nil => rfl
  | cons f fields ih =>
    obtain ⟨key, e⟩ := f
    rw [List.cons_append, Expr.evalFields, ih]
    rfl

theorem Expr.keys_evalFields (w : World σ) :
    (Expr.evalFields call fields s w).1.map Prod.fst = fields.map Prod.fst := by
  induction fields generalizing w with
  | nil => rfl
  | cons f fields ih =>
    obtain ⟨key, e⟩ := f
    exact congrArg (key :: ·) (ih _)

/-- The value of the last field with a key, where each field is evaluated after those before it; it
is undefined if there is no such field. -/
inductive LastValue (w : World σ) : String → Value → Prop
  | field {before after : List (String × Expr)} {key : String} {e : Expr} :
      fields = before ++ (key, e) :: after → key ∉ after.map Prod.fst →
      LastValue w key (e.eval call s (Expr.evalFields call before s w).2).1
  | missing {key : String} : key ∉ fields.map Prod.fst → LastValue w key .undefined

/-- What a tagged value has under a name: the tag, or the value of a field. -/
def HasUnder (name : String) (w : World σ) (key : String) (v : Value) : Prop :=
  if key = Value.tagField then v = .string name else LastValue call fields s w key v

variable {call fields s} {w : World σ} {key : String} {v : Value}

theorem lookup_evalFields_missing (missing : key ∉ fields.map Prod.fst) :
    (Expr.evalFields call fields s w).1.reverse.lookup key = none := by
  rw [← Expr.keys_evalFields call fields s w] at missing
  rw [List.lookup_eq_none_iff]
  intro p mem
  rw [bne_iff_ne]
  rintro rfl
  exact missing (List.mem_map_of_mem (List.mem_reverse.mp mem))

theorem lookup_evalFields_last {before after : List (String × Expr)} {e : Expr}
    (last : key ∉ after.map Prod.fst) :
    (Expr.evalFields call (before ++ (key, e) :: after) s w).1.reverse.lookup key =
      some (e.eval call s (Expr.evalFields call before s w).2).1 := by
  let w' := (Expr.evalFields call before s w).2
  let u := (e.eval call s w').2
  have values : (Expr.evalFields call (before ++ (key, e) :: after) s w).1 =
      (Expr.evalFields call before s w).1 ++
        (key, (e.eval call s w').1) :: (Expr.evalFields call after s u).1 := by
    rw [Expr.evalFields_append]
    rfl
  rw [values, List.reverse_append, List.reverse_cons, List.append_assoc, List.lookup_append,
    lookup_evalFields_missing last, Option.none_or, List.singleton_append, List.lookup_cons,
    beq_self_eq_true]

/-- A field of the values that an expression's fields come to is the last value. -/
theorem lastValue_iff : LastValue call fields s w key v ↔
    ((Expr.evalFields call fields s w).1.reverse.lookup key).getD .undefined = v := by
  constructor
  · rintro (⟨rfl, last⟩ | missing)
    · rw [lookup_evalFields_last last, Option.getD_some]
    · rw [lookup_evalFields_missing missing, Option.getD_none]
  · rintro rfl
    by_cases there : key ∈ fields.map Prod.fst
    · obtain ⟨before, e, after, split, last⟩ := Entries.exists_last there
      have found : LastValue call fields s w key _ := .field split last
      rwa [split, lookup_evalFields_last last, Option.getD_some, ← split]
    · rw [lookup_evalFields_missing there, Option.getD_none]
      exact .missing there

/-- What a tagged expression comes to has a tag and fields as they are shown. -/
theorem hasUnder_iff (s : Scope) {name : String} (untagged : Value.tagField ∉ fields.map Prod.fst) :
    HasUnder call fields s name w key v ↔
      ((Expr.tagged name fields).eval call s w).1.field key = v := by
  let vs := (Expr.evalFields call fields s w).1
  have found : Entries.get? key (Value.taggedFields name vs) =
      (vs.reverse.lookup key).or (List.lookup key [(Value.tagField, .string name)]) := by
    rw [Value.taggedFields, Entries.get?_ofPairs, List.reverse_cons, List.lookup_append]
  change _ ↔ (Entries.get? key (Value.taggedFields name vs)).getD .undefined = v
  rw [found, HasUnder]
  by_cases tag : key = Value.tagField
  · subst tag
    rw [if_pos rfl, lookup_evalFields_missing untagged, Option.none_or, List.lookup_cons,
      beq_self_eq_true]
    exact eq_comm
  · rw [if_neg tag, lastValue_iff, List.lookup_cons, beq_false_of_ne tag, List.lookup_nil,
      Option.or_none]

end Fields

/-! ## Matching what was built -/

/-- Fields match one after the other what is shown under their names, each in the scope that the
one before it leaves. -/
inductive MatchEach (shows : String → Value → Prop) :
    List (String × Pattern) → Scope → Scope → Prop
  | nil (s : Scope) : MatchEach shows [] s s
  | cons {key : String} {p : Pattern} {v : Value} {fields : List (String × Pattern)}
      {s t u : Scope} :
      shows key v → p.run v s = some t → MatchEach shows fields t u →
      MatchEach shows ((key, p) :: fields) s u

namespace Pattern

theorem runFields_eq_some_iff {fields : List (String × Pattern)} {v : Value} {s u : Scope} :
    runFields fields v s = some u ↔ MatchEach (fun key x => v.field key = x) fields s u := by
  induction fields generalizing s with
  | nil =>
    constructor
    · rintro ⟨⟩
      exact .nil u
    · rintro ⟨⟩
      rfl
  | cons f fields ih =>
    obtain ⟨key, p⟩ := f
    rw [runFields]
    constructor
    · intro matched
      cases first : p.run (v.field key) s with
      | none =>
        rw [first] at matched
        cases matched
      | some t =>
        rw [first] at matched
        exact .cons rfl first (ih.mp matched)
    · rintro (_ | ⟨rfl, first, rest⟩)
      rw [first]
      exact ih.mpr rest

/-- Names alone match every value, and are bound to what it has under them. -/
theorem runFields_shorthand (keys : List String) (v : Value) (s : Scope) :
    ∃ t, runFields (keys.map shorthand) v s = some t ∧
      (∀ key ∈ keys, t.get? key = some (v.field key)) ∧
      ∀ key, key ∉ keys → t.get? key = s.get? key := by
  induction keys generalizing s with
  | nil => exact ⟨s, rfl, by simp, fun _ _ => rfl⟩
  | cons k keys ih =>
    obtain ⟨t, matched, bound, kept⟩ := ih (s.bind k (v.field k))
    refine ⟨t, matched, ?_, ?_⟩
    · intro key mem
      by_cases again : key ∈ keys
      · exact bound key again
      · obtain rfl := (List.mem_cons.mp mem).resolve_right again
        rw [kept key again, Scope.get?_bind_self]
    · intro key other
      obtain ⟨first, later⟩ := not_or.mp (mt List.mem_cons.mpr other)
      rw [kept key later, Scope.get?_bind_of_ne s first]

theorem run_tagged {name : String} {v : Value} (tagged : v.tag? = some name)
    (fields : List (String × Pattern)) (s : Scope) :
    (Pattern.tagged name fields).run v s = runFields fields v s := by
  rw [run, if_pos tagged]

theorem run_tagged_other {name : String} {v : Value} (other : v.tag? ≠ some name)
    (fields : List (String × Pattern)) (s : Scope) :
    (Pattern.tagged name fields).run v s = none := by
  rw [run, if_neg other]

/-- What a tagged expression builds, a tagged pattern of the same name takes apart: it matches if
its fields match, one after the other, the last values of their names. Names alone always match, and
are bound to these values. A pattern of another name never matches. -/
theorem tagged_dual [Regex.Engine] (call : HostFn → Scope → Run σ Value) (name : String)
    {fields : List (String × Expr)} (untagged : Value.tagField ∉ fields.map Prod.fst) (s : Scope)
    (w : World σ) :
    let v := ((Expr.tagged name fields).eval call s w).1
    (∀ ps S T, (tagged name ps).run v S = some T ↔
      MatchEach (HasUnder call fields s name w) ps S T) ∧
    (∀ (keys : List String) S, ∃ T, (tagged name (keys.map shorthand)).run v S = some T ∧
      (∀ key ∈ keys, ∃ x, HasUnder call fields s name w key x ∧ T.get? key = some x) ∧
      ∀ key, key ∉ keys → T.get? key = S.get? key) ∧
    ∀ other, other ≠ name → ∀ ps S, (tagged other ps).run v S = none := by
  intro v
  have shown (key : String) (x : Value) : HasUnder call fields s name w key x ↔ v.field key = x :=
    hasUnder_iff s untagged
  have tag : v.tag? = some name := by
    rw [Value.tag?_eq_some_iff, Value.isTagged_iff_field, ← shown, HasUnder, if_pos rfl]
  refine ⟨fun ps S T => ?_, fun keys S => ?_, fun other differs ps S => ?_⟩
  · have same : HasUnder call fields s name w = fun key x => v.field key = x := by
      funext key x
      exact propext (shown key x)
    rw [run_tagged tag, runFields_eq_some_iff, same]
  · obtain ⟨T, matched, bound, kept⟩ := runFields_shorthand keys v S
    refine ⟨T, (run_tagged tag _ S).trans matched, fun key mem => ?_, kept⟩
    exact ⟨v.field key, (shown key _).mpr rfl, bound key mem⟩
  · refine run_tagged_other ?_ ps S
    rw [tag]
    exact fun same => differs (Option.some.inj same).symm

/-! ## A field that is given twice, and the tag as a field -/

section Twice

attribute [local instance] Regex.Engine.literal

namespace Twice

def call (_ : HostFn) (_ : Scope) : Run Unit Value := pure .undefined

def world : World Unit := { state := .undefined, nextAllocation := 0, memory := () }

def fields : List (String × Expr) :=
  [("n", .const (.bool true)), ("m", .const .null), ("n", .const (.bool false))]

end Twice

/-- The later field of two with one name is the one that is found. -/
theorem tagged_dual_twice :
    Value.tagField ∉ Twice.fields.map Prod.fst ∧
      (tagged "A" [("n", literal (.bool false)), ("m", bind "x")]).run
        ((Expr.tagged "A" Twice.fields).eval Twice.call .empty Twice.world).1 .empty =
          some (Scope.empty.bind "x" .null) := by
  have untagged : Value.tagField ∉ Twice.fields.map Prod.fst := by decide
  refine ⟨untagged, ((tagged_dual Twice.call "A" untagged .empty Twice.world).1 _ _ _).mpr ?_⟩
  have split : Twice.fields = Twice.fields.take 2 ++ ("n", .const (.bool false)) :: [] := rfl
  have split' : Twice.fields =
      Twice.fields.take 1 ++ ("m", .const .null) :: [("n", .const (.bool false))] := rfl
  have n : HasUnder Twice.call Twice.fields .empty "A" Twice.world "n" (.bool false) :=
    .field split List.not_mem_nil
  have m : HasUnder Twice.call Twice.fields .empty "A" Twice.world "m" .null :=
    .field split' (by decide)
  exact .cons n rfl (.cons m rfl (.nil _))

/-- Under the name of the tag a pattern finds the tag, although no field has that name. -/
theorem tagged_not_missing : ¬ ∀ (name : String) (fields : List (String × Expr))
    (ps : List (String × Pattern)) (S T : Scope), Value.tagField ∉ fields.map Prod.fst →
      ((tagged name ps).run ((Expr.tagged name fields).eval Twice.call .empty Twice.world).1 S =
          some T ↔
        MatchEach (LastValue Twice.call fields .empty Twice.world) ps S T) := by
  intro dual
  have missing : MatchEach (LastValue Twice.call [] .empty Twice.world)
      [(Value.tagField, literal .undefined)] .empty .empty :=
    .cons (.missing List.not_mem_nil) rfl (.nil _)
  have matched := (dual "A" [] _ _ _ List.not_mem_nil).mpr missing
  cases matched

end Twice

end Pattern

end RuleMachine
