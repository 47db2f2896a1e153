import RuleMachine.Proofs.Source.Assembling

/-!
# Matching brackets

Assembling succeeds for well nested tokens and for no others, and of all others the error names the
first bad closer, or the innermost opener that is never closed (`assemble_resolves`). Which openers
are open after a part of the tokens is said without the assembler (`Pending`); the assembler has
just these open after each token (`Assembly.push_pending`).
-/

namespace RuleMachine

variable {α : Type}

/-- The role that a pair of an opener and a closer gives a text. -/
def Delimiter.inPair? (text : String) (pair : String × String) : Option Delimiter :=
  if text = pair.2 then some (.closes pair.1)
  else if text = pair.1 then some (.opens pair.2)
  else none

/-- The role of a text is the one that the last pair with it gives. -/
theorem Delimiters.lookup_ofPairs (pairs : List (String × String)) (text : String) :
    (Delimiters.ofPairs pairs).lookup text = pairs.reverse.findSome? (Delimiter.inPair? text) := by
  unfold Delimiters.ofPairs
  rw [← List.foldr_reverse]
  induction pairs.reverse with
  | nil => rfl
  | cons pair pairs ih =>
    rw [List.foldr_cons, List.findSome?_cons, List.lookup_cons, List.lookup_cons, ih]
    unfold Delimiter.inPair?
    by_cases closes : text = pair.2
    · rw [if_pos closes, beq_iff_eq.mpr closes]
    rw [if_neg closes, beq_false_of_ne closes]
    by_cases opens : text = pair.1
    · rw [if_pos opens, beq_iff_eq.mpr opens]
    · rw [if_neg opens, beq_false_of_ne opens]

/-- Every closer pairs with the innermost opener that is open before it, which its entry names, and
no opener is left open. Tokens without a role may stand anywhere. -/
inductive WellNested (ds : Delimiters) : List (Token α) → Prop
  | nil : WellNested ds []
  | plain {t : Token α} {ts : List (Token α)} : ds.role? t = none → WellNested ds ts →
      WellNested ds (t :: ts)
  | pair {opener closer : Token α} {close : String} {inside rest : List (Token α)} :
      ds.role? opener = some (.opens close) → WellNested ds inside →
      ds.role? closer = some (.closes opener.text) → WellNested ds rest →
      WellNested ds (opener :: inside ++ closer :: rest)

/-- Every closer pairs with an opener, as in well nested tokens, and some openers are left open,
here listed from the innermost outwards. -/
inductive Pending (ds : Delimiters) : List (Token α) → List (Token α) → Prop
  | none {ts : List (Token α)} : WellNested ds ts → Pending ds ts []
  | opened {before ts outer : List (Token α)} {opener : Token α} {close : String} :
      Pending ds before outer → ds.role? opener = some (.opens close) → WellNested ds ts →
      Pending ds (before ++ opener :: ts) (opener :: outer)

/-- The error that tokens which are not well nested give. -/
inductive Blames (ds : Delimiters) : List (Token α) → SyntaxError → Prop
  /-- A closer stands where nothing is open. -/
  | unmatched {before after : List (Token α)} {t : Token α} {named : String} :
      Pending ds before [] → ds.role? t = some (.closes named) →
      Blames ds (before ++ t :: after) (.unmatchedClose t.text t.position)
  /-- A closer names another opener than the innermost open one, which is due to be closed. -/
  | mismatched {before after outer : List (Token α)} {t opener : Token α} {named close : String} :
      Pending ds before (opener :: outer) → ds.role? t = some (.closes named) →
      named ≠ opener.text → ds.role? opener = some (.opens close) →
      Blames ds (before ++ t :: after) (.mismatchedClose close t.text t.position)
  /-- No closer is bad, but not all openers are closed. -/
  | unclosed {ts outer : List (Token α)} {opener : Token α} : Pending ds ts (opener :: outer) →
      Blames ds ts (.unclosed opener.text opener.position)

section

variable {ds : Delimiters} {t opener : Token α} {ts us outer before : List (Token α)}
  {close named : String} {role : Delimiter}

theorem WellNested.append (h : WellNested ds ts) (h' : WellNested ds us) :
    WellNested ds (ts ++ us) := by
  induction h with
  | nil => exact h'
  | plain role _ ih => exact .plain role ih
  | pair opens inside closes _ _ ih =>
    rw [List.append_assoc]
    exact .pair opens inside closes ih

theorem Pending.append (h : Pending ds before outer) (h' : WellNested ds us) :
    Pending ds (before ++ us) outer := by
  cases h with
  | none nested => exact .none (nested.append h')
  | opened pending opens nested =>
    rw [List.append_assoc]
    exact .opened pending opens (nested.append h')

theorem Pending.plain (h : Pending ds before outer) (role : ds.role? t = .none) :
    Pending ds (before ++ [t]) outer :=
  h.append (.plain role .nil)

theorem Pending.opens (h : Pending ds before outer) (opens : ds.role? t = some (.opens close)) :
    Pending ds (before ++ [t]) (t :: outer) :=
  .opened h opens .nil

theorem Pending.closes (h : Pending ds before (opener :: outer))
    (closes : ds.role? t = some (.closes opener.text)) : Pending ds (before ++ [t]) outer := by
  cases h with
  | @opened before ts _ _ _ pending opens nested =>
    rw [List.append_assoc]
    exact pending.append (.pair opens nested closes .nil)

theorem Pending.role_opener (h : Pending ds before (opener :: outer)) :
    ∃ close, ds.role? opener = some (.opens close) := by
  cases h with
  | opened _ opens _ => exact ⟨_, opens⟩

theorem Delimiters.lookup_of_role (h : ds.role? t = some role) : ds.lookup t.text = some role := by
  unfold Delimiters.role? at h
  split at h
  · exact h
  · cases h

theorem Delimiters.isSymbol_of_role (h : ds.role? t = some role) : t.isSymbol := by
  unfold Delimiters.role? at h
  split at h
  · assumption
  · cases h

end

/-! ## The assembler -/

namespace Assembly

variable {ds : Delimiters} {a b : Assembly α} {t : Token α} {ts before outer : List (Token α)}
  {role : Delimiter}

/-- The openers of the open groups, from the innermost outwards. -/
def openers (a : Assembly α) : List (Token α) := a.opened.map OpenGroup.opener

/-- A token with a role is neither passed over nor a line break. -/
theorem push_of_role (h : ds.role? t = some role) :
    a.push ds t = place ds { a with afterLine := false, stop := t.stop } t := by
  have symbol := Delimiters.isSymbol_of_role h
  have kept : t.isIgnored = false ∧ t.isLine = false := by
    unfold Token.isSymbol at symbol
    unfold Token.isIgnored Token.isLine
    split at symbol <;> simp_all
  simp [push, kept]

/-- A token without a role opens and closes nothing. -/
theorem push_of_none (h : ds.role? t = none) :
    ∃ b, a.push ds t = .ok b ∧ b.opened = a.opened := by
  unfold push
  dsimp only
  split
  · exact ⟨_, rfl, rfl⟩
  split
  · exact ⟨_, rfl, rfl⟩
  · rw [place, h]
    exact ⟨_, rfl, rfl⟩

theorem push_of_opens {close : String} (h : ds.role? t = some (.opens close)) :
    ∃ b, a.push ds t = .ok b ∧ b.opened = ⟨t, a.nodes⟩ :: a.opened := by
  rw [push_of_role h, place, h]
  exact ⟨_, rfl, rfl⟩

theorem push_of_closes {g : OpenGroup α} {outer : List (OpenGroup α)}
    (opened : a.opened = g :: outer) (h : ds.role? t = some (.closes g.opener.text)) :
    ∃ b, a.push ds t = .ok b ∧ b.opened = outer := by
  rw [push_of_role h, place, h]
  simp [opened]

theorem push_of_unmatched {named : String} (opened : a.opened = [])
    (h : ds.role? t = some (.closes named)) :
    a.push ds t = .error (.unmatchedClose t.text t.position) := by
  rw [push_of_role h, place, h]
  simp [opened]

theorem push_of_mismatched {named close : String} {g : OpenGroup α} {outer : List (OpenGroup α)}
    (opened : a.opened = g :: outer) (h : ds.role? t = some (.closes named))
    (other : named ≠ g.opener.text) (opens : ds.role? g.opener = some (.opens close)) :
    a.push ds t = .error (.mismatchedClose close t.text t.position) := by
  rw [push_of_role h, place, h]
  simp [opened, other.symm, Delimiters.lookup_of_role opens]

/-- Either all is well, or the error is blamed. -/
def Judged {β : Type} (good : β → Prop) (bad : SyntaxError → Prop) : Except SyntaxError β → Prop
  | .ok b => good b
  | .error e => bad e

/-- The openers that are open after a part of the tokens are those of the open groups. -/
theorem push_pending (h : Pending ds before a.openers) (t : Token α) :
    Judged (fun b => Pending ds (before ++ [t]) b.openers)
      (fun e => ∀ after, Blames ds (before ++ t :: after) e) (a.push ds t) := by
  cases role : ds.role? t with
  | none =>
    obtain ⟨b, pushed, opened⟩ := push_of_none (a := a) role
    rw [pushed]
    change Pending ds _ (b.opened.map _)
    exact opened ▸ h.plain role
  | some r =>
    cases r with
    | opens close =>
      obtain ⟨b, pushed, opened⟩ := push_of_opens (a := a) role
      rw [pushed]
      change Pending ds _ (b.opened.map _)
      exact opened ▸ h.opens role
    | closes named =>
      cases opened : a.opened with
      | nil =>
        rw [openers, opened] at h
        rw [push_of_unmatched opened role]
        exact fun after => .unmatched h role
      | cons g outer =>
        rw [openers, opened] at h
        obtain ⟨close, opens⟩ := h.role_opener
        by_cases other : named = g.opener.text
        · subst other
          obtain ⟨b, pushed, rest⟩ := push_of_closes opened role
          rw [pushed]
          change Pending ds _ (b.opened.map _)
          exact rest ▸ h.closes role
        · rw [push_of_mismatched opened role other opens]
          exact fun after => .mismatched h role other opens

theorem pushAll_pending (h : Pending ds before a.openers) (ts : List (Token α)) :
    Judged (fun b => Pending ds (before ++ ts) b.openers) (Blames ds (before ++ ts))
      (ts.foldlM (Assembly.push ds) a) := by
  induction ts generalizing a before with
  | nil =>
    rw [List.append_nil]
    exact h
  | cons t ts ih =>
    have pushed := push_pending h t
    rw [List.foldlM_cons]
    generalize a.push ds t = r at pushed
    cases r with
    | error e => exact pushed ts
    | ok b =>
      have rest := ih pushed
      rw [List.append_assoc] at rest
      exact rest

/-- Well nested tokens are taken in, and leave open what was open. -/
theorem pushAll_of_wellNested (h : WellNested ds ts) (a : Assembly α) :
    ∃ b, ts.foldlM (Assembly.push ds) a = .ok b ∧ b.opened = a.opened := by
  induction h generalizing a with
  | nil => exact ⟨a, rfl, rfl⟩
  | plain role _ ih =>
    obtain ⟨b, pushed, same⟩ := push_of_none (a := a) role
    obtain ⟨c, pushed', same'⟩ := ih b
    rw [List.foldlM_cons, pushed]
    exact ⟨c, pushed', same'.trans same⟩
  | pair opens _ closes _ ih ih' =>
    obtain ⟨b, opened, same⟩ := push_of_opens (a := a) opens
    obtain ⟨c, within, same'⟩ := ih b
    obtain ⟨d, closed, same''⟩ := push_of_closes (same'.trans same) closes
    obtain ⟨e, beyond, last⟩ := ih' d
    refine ⟨e, ?_, last.trans same''⟩
    rw [List.cons_append, List.foldlM_cons, opened]
    change List.foldlM _ b _ = _
    rw [List.foldlM_append, within]
    change List.foldlM _ c _ = _
    rw [List.foldlM_cons, closed]
    exact beyond

/-- What leaves openers open without a bad closer is taken in. -/
theorem pushAll_of_pending (h : Pending ds ts outer) :
    ∃ b, ts.foldlM (Assembly.push ds) {} = .ok b ∧ b.openers = outer := by
  induction h with
  | none nested =>
    obtain ⟨b, pushed, opened⟩ := pushAll_of_wellNested nested {}
    exact ⟨b, pushed, congrArg _ opened⟩
  | opened _ opens nested ih =>
    obtain ⟨b, pushed, same⟩ := ih
    obtain ⟨c, opened, same'⟩ := push_of_opens (a := b) opens
    obtain ⟨d, within, same''⟩ := pushAll_of_wellNested nested c
    refine ⟨d, ?_, ?_⟩
    · rw [List.foldlM_append, pushed]
      change List.foldlM _ b _ = _
      rw [List.foldlM_cons, opened]
      exact within
    · rw [openers, same'', same', List.map_cons]
      exact congrArg _ same

end Assembly

/-- What is blamed is the error of assembling. -/
theorem Blames.assemble_eq {ds : Delimiters} {ts : List (Token α)} {e : SyntaxError}
    (h : Blames ds ts e) : assemble ds ts = .error e := by
  rw [RuleMachine.assemble_eq]
  cases h with
  | unmatched pending closes =>
    obtain ⟨b, pushed, opened⟩ := Assembly.pushAll_of_pending pending
    rw [List.foldlM_append, pushed]
    change (List.foldlM _ b _) >>= _ = _
    rw [List.foldlM_cons, Assembly.push_of_unmatched (List.map_eq_nil_iff.mp opened) closes]
    rfl
  | mismatched pending closes other opens =>
    obtain ⟨b, pushed, opened⟩ := Assembly.pushAll_of_pending pending
    obtain ⟨g, outer, stack, rfl, -⟩ := List.map_eq_cons_iff.mp opened
    rw [List.foldlM_append, pushed]
    change (List.foldlM _ b _) >>= _ = _
    rw [List.foldlM_cons, Assembly.push_of_mismatched stack closes other opens]
    rfl
  | unclosed pending =>
    obtain ⟨b, pushed, opened⟩ := Assembly.pushAll_of_pending pending
    obtain ⟨g, outer, stack, rfl, -⟩ := List.map_eq_cons_iff.mp opened
    rw [pushed]
    change b.finish = _
    simp only [Assembly.finish, stack]

/-- Assembling well nested tokens gives a tree. -/
theorem WellNested.assemble_ok {ds : Delimiters} {ts : List (Token α)} (h : WellNested ds ts) :
    ∃ tree, assemble ds ts = .ok tree := by
  obtain ⟨b, pushed, opened⟩ := Assembly.pushAll_of_wellNested h {}
  rw [assemble_eq, pushed]
  change ∃ tree, b.finish = _
  simp only [Assembly.finish, opened]
  exact ⟨_, rfl⟩

/-- Assembling gives a tree of well nested tokens only, and an error that is blamed. -/
theorem assemble_judged (ds : Delimiters) (ts : List (Token α)) :
    Assembly.Judged (fun _ => WellNested ds ts) (Blames ds ts) (assemble ds ts) := by
  have none : Pending ds [] (Assembly.openers (α := α) {}) := .none .nil
  have pushed := Assembly.pushAll_pending none ts
  rw [assemble_eq]
  rw [List.nil_append] at pushed
  generalize ts.foldlM (Assembly.push ds) {} = r at pushed
  cases r with
  | error e => exact pushed
  | ok b =>
    change Assembly.Judged _ _ b.finish
    change Pending ds ts b.openers at pushed
    unfold Assembly.finish
    cases opened : b.opened with
    | nil =>
      rw [Assembly.openers, opened] at pushed
      cases pushed with
      | none nested => exact nested
    | cons g outer =>
      rw [Assembly.openers, opened] at pushed
      exact .unclosed pushed

/-- Whatever pairs of brackets there are, also with texts in common, tokens have a tree if and only
if they are well nested, and else the error that is blamed, and no other: of the first closer that
is bad, since before it no closer is, or of the innermost opener left open. The roles are those
that the last pair with a text gives it. -/
theorem assemble_resolves (pairs : List (String × String)) (ts : List (Token α)) :
    ((∃ tree, assemble (.ofPairs pairs) ts = .ok tree) ↔ WellNested (.ofPairs pairs) ts) ∧
    (∀ e, assemble (.ofPairs pairs) ts = .error e ↔ Blames (.ofPairs pairs) ts e) ∧
    ∀ text, (Delimiters.ofPairs pairs).lookup text =
      pairs.reverse.findSome? (Delimiter.inPair? text) := by
  have judged := assemble_judged (.ofPairs pairs) ts
  refine ⟨⟨?_, WellNested.assemble_ok⟩, fun e => ⟨?_, Blames.assemble_eq⟩,
    Delimiters.lookup_ofPairs pairs⟩
  · rintro ⟨tree, made⟩
    rw [made] at judged
    exact judged
  · intro failed
    rw [failed] at judged
    exact judged

end RuleMachine
