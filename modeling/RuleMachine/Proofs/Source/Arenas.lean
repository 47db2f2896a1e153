import Mathlib.Data.List.Perm.Basic
import RuleMachine.Proofs.Source.Brackets
import RuleMachine.Proofs.Source.Places

/-!
# Arenas hold their tokens

Nothing is lost or added when tokens are assembled: the tree has the tokens that are kept, in their
order, and every group but the outermost one is an item of one other group, just once. What taking
a token in can do is said once (`Draft.Step`); from it follows what every draft satisfies
(`Draft.Sound`), and with the tree of the assembly what the finished arena does
(`Arena.ofTokens_exact`).
-/

namespace RuleMachine

variable {α : Type}

/-! ## The tokens that are kept -/

namespace Assembly

/-- The tokens that are kept, after a line break or not. -/
def kept : Bool → List (Token α) → List (Token α)
  | _, [] => []
  | afterLine, t :: ts =>
    if t.isIgnored then kept afterLine ts
    else if t.isLine && afterLine then kept afterLine ts
    else t :: kept t.isLine ts

theorem destutter_kept (u : Token α) (ts : List (Token α)) :
    (ts.filter (!·.isIgnored)).destutter' Token.Apart u = u :: kept u.isLine ts := by
  induction ts generalizing u with
  | nil => rfl
  | cons t ts ih =>
    rw [kept]
    by_cases ignored : t.isIgnored
    · rw [if_pos ignored, List.filter_cons_of_neg (by simp [ignored]), ih]
    rw [if_neg ignored, List.filter_cons_of_pos (by simp [ignored]), List.destutter'_cons]
    by_cases apart : u.Apart t
    · rw [if_pos apart, if_neg (by simpa [Token.Apart, and_comm] using apart), ih]
    · rw [if_neg apart, if_pos (by simpa [Token.Apart, and_comm] using apart), ih]

theorem kept_eq (ts : List (Token α)) : kept false ts = canonical ts := by
  unfold canonical
  induction ts with
  | nil => rfl
  | cons t ts ih =>
    rw [kept]
    by_cases ignored : t.isIgnored
    · rw [if_pos ignored, List.filter_cons_of_neg (by simp [ignored]), ih]
    · rw [if_neg ignored, List.filter_cons_of_pos (by simp [ignored]), List.destutter_cons',
        destutter_kept, Bool.and_false, if_neg Bool.false_ne_true]

end Assembly

theorem Node.tokensIn_append (ns ms : List (Node α)) :
    tokensIn (ns ++ ms) = tokensIn ns ++ tokensIn ms := by
  induction ns with
  | nil => rfl
  | cons n ns ih => rw [List.cons_append, tokensIn, tokensIn, ih, List.append_assoc]

namespace Assembly

/-- The tokens before the nodes of the innermost open group. -/
def openTokens : List (OpenGroup α) → List (Token α)
  | [] => []
  | g :: outer => openTokens outer ++ Node.tokensIn g.before.reverse ++ [g.opener]

/-- The tokens taken in, in order. -/
def tokens (a : Assembly α) : List (Token α) :=
  openTokens a.opened ++ Node.tokensIn a.nodes.reverse

variable {ds : Delimiters} {a b : Assembly α} {t : Token α} {ts : List (Token α)}

theorem place_tokens (placed : a.place ds t = .ok b) :
    b.tokens = a.tokens ++ [t] ∧ b.afterLine = a.afterLine ∧ b.stop = a.stop := by
  unfold place at placed
  split at placed
  · cases placed
    simp [tokens, Node.tokensIn_append, Node.tokensIn, Node.tokens]
  · cases placed
    simp [tokens, openTokens, Node.tokensIn]
  · split at placed
    · cases placed
    · next opened =>
      split at placed
      · cases placed
        simp [tokens, opened, openTokens, Node.tokensIn_append, Node.tokensIn, Node.tokens]
      · cases placed

theorem pushAll_tokens (pushed : ts.foldlM (Assembly.push ds) a = .ok b) :
    b.tokens = a.tokens ++ kept a.afterLine ts ∧ b.stop = ts.getLast?.elim a.stop Token.stop := by
  induction ts generalizing a with
  | nil =>
    cases pushed
    exact ⟨(List.append_nil _).symm, rfl⟩
  | cons t ts ih =>
    obtain ⟨c, first, rest⟩ := exists_of_foldlM_cons pushed
    obtain ⟨all, stop⟩ := ih rest
    have last : (t :: ts).getLast?.elim a.stop Token.stop =
        ts.getLast?.elim t.stop Token.stop := by
      rw [List.getLast?_cons]
      cases ts.getLast? <;> rfl
    unfold push at first
    dsimp only at first
    rw [last, kept]
    by_cases ignored : t.isIgnored
    · rw [if_pos ignored] at first ⊢
      cases first
      exact ⟨all, stop⟩
    rw [if_neg ignored] at first ⊢
    by_cases again : t.isLine && a.afterLine
    · rw [if_pos again] at first ⊢
      cases first
      exact ⟨all, stop⟩
    · rw [if_neg again] at first ⊢
      obtain ⟨added, line, here⟩ := place_tokens first
      rw [all, stop, added, line, here, List.append_assoc]
      exact ⟨rfl, rfl⟩

end Assembly

/-! ## What a token does to the numbered groups -/

namespace Draft

/-- What taking a token in can do. -/
inductive Step (ds : Delimiters) (d : Draft α) (t : Token α) : Draft α → Prop
  | passed : t.isIgnored ∨ t.isLine ∧ d.afterLine → Step ds d t { d with stop := t.stop }
  | plain : ds.role? t = none → (t.isLine → d.afterLine = false) → Step ds d t
      { groups := d.groups.modify (innermost d.opened) (.add (.token t)), opened := d.opened
        afterLine := t.isLine, stop := t.stop }
  | opens {close : String} : ds.role? t = some (.opens close) → Step ds d t
      { groups := d.groups.push { opener := some t }, opened := d.groups.size :: d.opened
        afterLine := false, stop := t.stop }
  | closes {n : Nat} {outer : List Nat} : d.opened = n :: outer →
      ds.role? t = some (.closes (d.group n).openerText) → Step ds d t
        { groups := (d.groups.modify n (.close t)).modify (innermost outer) (.add (.group n))
          opened := outer, afterLine := false, stop := t.stop }

variable {ds : Delimiters} {d d' : Draft α} {t : Token α}

theorem step_of_push (pushed : d.push ds t = .ok d') : Step ds d t d' := by
  unfold push at pushed
  dsimp only at pushed
  by_cases ignored : t.isIgnored
  · rw [if_pos ignored] at pushed
    cases pushed
    exact .passed (.inl ignored)
  rw [if_neg ignored] at pushed
  by_cases again : t.isLine && d.afterLine
  · rw [if_pos again] at pushed
    cases pushed
    exact .passed (.inr (by simpa using again))
  rw [if_neg again, place] at pushed
  cases role : ds.role? t with
  | none =>
    rw [role] at pushed
    cases pushed
    exact .plain role (by simpa using again)
  | some r =>
    have inLine : t.isLine = false := by
      cases line : t.isLine with
      | false => rfl
      | true =>
        have symbol := Delimiters.isSymbol_of_role role
        rw [t.not_isSymbol_of_isLine line] at symbol
        exact Bool.noConfusion symbol
    rw [role, inLine] at pushed
    cases r with
    | opens close =>
      cases pushed
      exact .opens role
    | closes opener =>
      cases opened : d.opened with
      | nil =>
        rw [opened] at pushed
        cases pushed
      | cons n outer =>
        rw [opened] at pushed
        dsimp only at pushed
        split at pushed
        · next named =>
          cases pushed
          exact .closes opened (role.trans (congrArg _ (congrArg _ named.symm)))
        · cases pushed

end Draft

/-! ## What is so of every draft -/

namespace Item

/-- The number of a group that is an item. -/
def number? : Item α → Option Nat
  | .token _ => none
  | .group n => some n

def isLine : Item α → Bool
  | .token t => t.isLine
  | .group _ => false

/-- Not two line breaks. -/
def Apart (x y : Item α) : Prop := ¬ (x.isLine ∧ y.isLine)

end Item

/-- The numbers of the groups that a group holds. -/
def Group.numbers (g : Group α) : List Nat := g.items.toList.filterMap Item.number?

/-- The numbers of all groups that some group holds, as often as it does. -/
def heldNumbers (groups : Array (Group α)) : List Nat := groups.toList.flatMap Group.numbers

/-- The groups but the outermost one have openers, and those that are not open have closers which
name them. Every number but zero is once that of an open group, or of one that is closed but not
yet held by another (these are `loose`), or of one that a group with a smaller number holds. No
group holds two line breaks in a row, and unless the last token kept was a line break none stands
where the next token goes. -/
structure Draft.Sound (ds : Delimiters) (loose : List Nat) (d : Draft α) : Prop where
  nonempty : 0 < d.groups.size
  marked : ∀ (n : Nat) (g : Group α), 0 < n → d.groups[n]? = some g →
    ∃ opener, g.opener = some opener ∧ (n ∉ d.opened →
      ∃ closer, g.closer = some closer ∧ ds.role? closer = some (.closes opener.text))
  numbered : (d.opened ++ (heldNumbers d.groups ++ loose)).Perm
    (List.range' 1 (d.groups.size - 1))
  stacked : d.opened.Pairwise (· > ·)
  greater : ∀ (p : Nat) (g : Group α), d.groups[p]? = some g → ∀ n ∈ g.numbers, p < n
  apart : ∀ (n : Nat) (g : Group α), d.groups[n]? = some g → g.items.toList.IsChain Item.Apart
  last : d.afterLine = false → ∀ g, d.groups[Draft.innermost d.opened]? = some g →
    ∀ x ∈ g.items.toList.getLast?, x.isLine = false

section

variable {groups : Array (Group α)} {f : Group α → Group α} {i n : Nat} {g g' : Group α}

theorem getElem?_of_modify (stored : (groups.modify i f)[n]? = some g') :
    ∃ g, groups[n]? = some g ∧ g' = if i = n then f g else g := by
  rw [Array.getElem?_modify] at stored
  split at stored
  · next same =>
    obtain ⟨g, before, rfl⟩ := Option.map_eq_some_iff.mp stored
    exact ⟨g, before, (if_pos same).symm⟩
  · next other => exact ⟨g', stored, (if_neg other).symm⟩

theorem heldNumbers_modify {more : List Nat} (inside : i < groups.size)
    (adds : ∀ g, (f g).numbers = g.numbers ++ more) :
    (heldNumbers (groups.modify i f)).Perm (heldNumbers groups ++ more) := by
  obtain ⟨front, g, back, whole, -, modified⟩ :=
    List.exists_of_modify f (l := groups.toList) (i := i) (by simpa using inside)
  rw [heldNumbers, heldNumbers, Array.toList_modify, modified, whole]
  simp only [List.flatMap_append, List.flatMap_cons, adds, List.append_assoc]
  refine .append_left _ (.append_left _ ?_)
  exact List.perm_append_comm

theorem Group.numbers_add (item : Item α) (g : Group α) :
    (g.add item).numbers = g.numbers ++ item.number?.toList := by
  rw [numbers, numbers, add, Array.toList_push, List.filterMap_append]
  cases item <;> rfl

theorem Group.numbers_close (t : Token α) (g : Group α) : (g.close t).numbers = g.numbers ++ [] :=
  (List.append_nil _).symm

end

namespace Draft.Sound

variable {ds : Delimiters} {loose : List Nat} {d d' : Draft α} {t : Token α} {n : Nat}

/-- The numbers of open groups are those of groups that are there. -/
theorem opened_lt (h : d.Sound ds loose) (mem : n ∈ d.opened) : 0 < n ∧ n < d.groups.size := by
  have inside := h.numbered.subset (List.mem_append_left _ mem)
  rw [List.mem_range'_1] at inside
  have := h.nonempty
  omega

theorem innermost_lt (h : d.Sound ds loose) : innermost d.opened < d.groups.size := by
  cases opened : d.opened with
  | nil => exact h.nonempty
  | cons n outer =>
    have mem : n ∈ d.opened := opened ▸ .head _
    exact (h.opened_lt mem).2

theorem initial (ds : Delimiters) : ({} : Draft α).Sound ds [] := by
  have only {n : Nat} {g : Group α} (stored : (#[{}] : Array (Group α))[n]? = some g) :
      n = 0 ∧ g = {} := by
    cases n with
    | zero => exact ⟨rfl, (Option.some.inj stored).symm⟩
    | succ n => cases stored
  refine ⟨Nat.one_pos, ?_, .nil, .nil, ?_, ?_, ?_⟩
  · intro n g positive stored
    obtain ⟨rfl, -⟩ := only stored
    cases positive
  · intro p g stored
    obtain ⟨-, rfl⟩ := only stored
    nofun
  · intro n g stored
    obtain ⟨-, rfl⟩ := only stored
    exact .nil
  · intro _ g stored
    obtain ⟨-, rfl⟩ := only stored
    nofun

/-- An item is added to the innermost open group. A group that is added was loose. -/
theorem add {item : Item α} (h : d.Sound ds item.number?.toList)
    (greater : ∀ n ∈ item.number?, innermost d.opened < n)
    (new : item.isLine → d.afterLine = false) (stop : Position) : Sound ds []
      ⟨d.groups.modify (innermost d.opened) (.add item), d.opened, item.isLine, stop⟩ where
  nonempty := by
    rw [Array.size_modify]
    exact h.nonempty
  marked n g' positive stored := by
    obtain ⟨g, before, rfl⟩ := getElem?_of_modify stored
    obtain ⟨opener, here, closed⟩ := h.marked n g positive before
    refine ⟨opener, ?_, fun mem => ?_⟩
    · split <;> exact here
    · obtain ⟨closer, there, named⟩ := closed mem
      refine ⟨closer, ?_, named⟩
      split <;> exact there
  numbered := by
    have held := heldNumbers_modify h.innermost_lt (Group.numbers_add item)
    rw [Array.size_modify, List.append_nil]
    exact (held.append_left _).trans h.numbered
  stacked := h.stacked
  greater p g' stored n mem := by
    obtain ⟨g, before, rfl⟩ := getElem?_of_modify stored
    split at mem
    · next here =>
      rw [Group.numbers_add, List.mem_append, Option.mem_toList] at mem
      rcases mem with old | added
      · exact h.greater p g before n old
      · exact here ▸ greater n added
    · exact h.greater p g before n mem
  apart n g' stored := by
    obtain ⟨g, before, rfl⟩ := getElem?_of_modify stored
    split
    · next here =>
      rw [Group.add, Array.toList_push, List.isChain_append]
      refine ⟨h.apart n g before, .singleton _, fun x last y mem => ?_⟩
      obtain rfl := Option.some.inj mem
      rintro ⟨line, line'⟩
      have inLine := h.last (new line') g (here ▸ before) x last
      exact Bool.false_ne_true (inLine.symm.trans line)
    · exact h.apart n g before
  last inLine g' stored x mem := by
    obtain ⟨g, -, rfl⟩ := getElem?_of_modify stored
    rw [if_pos rfl, Group.add, Array.toList_push, List.getLast?_concat] at mem
    obtain rfl := Option.some.inj mem
    exact inLine

/-- A group is opened: it holds nothing yet. -/
theorem opens (h : d.Sound ds []) (t : Token α) (line : Bool) (stop : Position) : Sound ds []
    ⟨d.groups.push { opener := some t }, d.groups.size :: d.opened, line, stop⟩ where
  nonempty := by
    rw [Array.size_push]
    exact Nat.succ_pos _
  marked n g positive stored := by
    rw [Array.getElem?_push] at stored
    split at stored
    · next new =>
      obtain rfl := Option.some.inj stored
      exact ⟨t, rfl, fun closed => absurd (new ▸ .head _) closed⟩
    · obtain ⟨opener, here, closed⟩ := h.marked n g positive stored
      exact ⟨opener, here, fun mem => closed fun old => mem (.tail _ old)⟩
  numbered := by
    have held : heldNumbers (d.groups.push { opener := some t }) = heldNumbers d.groups := by
      simp [heldNumbers, Group.numbers]
    -- The new group takes the number after all others.
    have size := Nat.sub_add_cancel h.nonempty
    have numbers : List.range' 1 d.groups.size =
        List.range' 1 (d.groups.size - 1) ++ [d.groups.size] := by
      rw [← size, List.range'_concat, Nat.one_mul, Nat.add_comm 1, size]
    rw [held, Array.size_push, Nat.add_sub_cancel, numbers]
    exact (h.numbered.cons _).trans (List.perm_append_singleton _ _).symm
  stacked := List.pairwise_cons.mpr ⟨fun n mem => (h.opened_lt mem).2, h.stacked⟩
  greater p g stored n mem := by
    rw [Array.getElem?_push] at stored
    split at stored
    · obtain rfl := Option.some.inj stored
      cases mem
    · exact h.greater p g stored n mem
  apart n g stored := by
    rw [Array.getElem?_push] at stored
    split at stored
    · obtain rfl := Option.some.inj stored
      exact .nil
    · exact h.apart n g stored
  last _ g stored x mem := by
    have new : (d.groups.push { opener := some t })[d.groups.size]? = some g := stored
    rw [Array.getElem?_push, if_pos rfl] at new
    obtain rfl := Option.some.inj new
    cases mem

/-- The innermost open group is closed: its number is loose now. -/
theorem closes (h : d.Sound ds []) {outer : List Nat} (opened : d.opened = n :: outer)
    (role : ds.role? t = some (.closes (d.group n).openerText)) (stop : Position) :
    Sound ds [n] ⟨d.groups.modify n (.close t), outer, true, stop⟩ := by
  have mem : n ∈ d.opened := opened ▸ .head _
  have stacked := List.pairwise_cons.mp (opened ▸ h.stacked)
  refine ⟨?_, ?_, ?_, stacked.2, ?_, ?_, nofun⟩
  · rw [Array.size_modify]
    exact h.nonempty
  · intro m g' positive stored
    obtain ⟨g, before, rfl⟩ := getElem?_of_modify stored
    obtain ⟨opener, here, closed⟩ := h.marked m g positive before
    split
    · next same =>
      subst same
      rw [Draft.group, before, Option.getD_some, Group.openerText, here] at role
      exact ⟨opener, here, fun _ => ⟨t, rfl, role⟩⟩
    · next other =>
      refine ⟨opener, here, fun still => closed fun old => ?_⟩
      rcases List.mem_cons.mp (opened ▸ old) with same | old
      · exact other same.symm
      · exact still old
  · have held := heldNumbers_modify (h.opened_lt mem).2 (Group.numbers_close t)
    have numbered := h.numbered
    rw [List.append_nil, opened] at numbered
    rw [List.append_nil] at held
    rw [Array.size_modify]
    -- The number leaves the open groups and is loose now; what groups hold is as it was.
    calc outer ++ (heldNumbers (d.groups.modify n (.close t)) ++ [n])
      _ = outer ++ heldNumbers (d.groups.modify n (.close t)) ++ [n] :=
        (List.append_assoc _ _ _).symm
      List.Perm _ (n :: (outer ++ heldNumbers d.groups)) :=
        ((held.append_left outer).append_right [n]).trans (List.perm_append_singleton _ _)
      List.Perm _ (List.range' 1 (d.groups.size - 1)) := numbered
  · intro p g' stored m mem
    obtain ⟨g, before, rfl⟩ := getElem?_of_modify stored
    refine h.greater p g before m ?_
    split at mem <;> exact mem
  · intro m g' stored
    obtain ⟨g, before, rfl⟩ := getElem?_of_modify stored
    split <;> exact h.apart m g before

/-- The group around the innermost one has a smaller number. -/
theorem outer_lt (h : d.Sound ds loose) {outer : List Nat} (opened : d.opened = n :: outer) :
    innermost outer < n := by
  have stacked := opened ▸ h.stacked
  cases outer with
  | nil =>
    have mem : n ∈ d.opened := opened ▸ .head _
    exact (h.opened_lt mem).1
  | cons m outer => exact (List.pairwise_cons.mp stacked).1 m (.head _)

theorem step (h : d.Sound ds []) (taken : Step ds d t d') : d'.Sound ds [] := by
  cases taken with
  | passed =>
    obtain ⟨nonempty, marked, numbered, stacked, greater, apart, last⟩ := h
    exact ⟨nonempty, marked, numbered, stacked, greater, apart, last⟩
  | plain _ new =>
    have nothing : d.Sound ds (Item.token t).number?.toList := h
    exact nothing.add nofun new t.stop
  | opens => exact h.opens t false t.stop
  | @closes n outer opened role =>
    have closed : Sound ds (Item.group (α := α) n).number?.toList
        ⟨d.groups.modify n (.close t), outer, true, t.stop⟩ := h.closes opened role t.stop
    refine closed.add (fun m mem => ?_) (fun line => Bool.noConfusion line) t.stop
    obtain rfl := Option.some.inj mem
    exact h.outer_lt opened

theorem pushAll {ts : List (Token α)} (h : d.Sound ds [])
    (pushed : ts.foldlM (Draft.push ds) d = .ok d') : d'.Sound ds [] := by
  induction ts generalizing d with
  | nil =>
    cases pushed
    exact h
  | cons t ts ih =>
    obtain ⟨d₁, first, rest⟩ := exists_of_foldlM_cons pushed
    exact ih (h.step (step_of_push first)) rest

end Draft.Sound

/-! ## The finished arena -/

namespace Arena

/-- The arena has all that is kept of some tokens, and nothing else. The outermost group has no
opener and no closer, and its items stand for the nodes of the tree. Depth first, these have the
tokens that are kept. Every other group has an opener and a closer, which names it; its number is
once that of an item, in a group with a smaller number. No group holds two line breaks in a row.
The place reached is that past the last token, kept or not. -/
structure Exact (ds : Delimiters) (ts : List (Token α)) (a : Arena α) : Prop where
  outermost : ∃ items, a.groups[0]? = some ⟨none, none, items⟩ ∧
    Shows a.groups 0 items.toList a.tree.nodes
  tokens : Node.tokensIn a.tree.nodes = canonical ts
  marked : ∀ (n : Nat) (g : Group α), 0 < n → a.groups[n]? = some g →
    ∃ opener closer, g.opener = some opener ∧ g.closer = some closer ∧
      ds.role? closer = some (.closes opener.text)
  held : (heldNumbers a.groups).Perm (List.range' 1 (a.groups.size - 1))
  greater : ∀ (p : Nat) (g : Group α), a.groups[p]? = some g → ∀ n ∈ g.numbers, p < n
  apart : ∀ (n : Nat) (g : Group α), a.groups[n]? = some g → g.items.toList.IsChain Item.Apart
  stop : a.stop = ts.getLast?.elim .start Token.stop

variable {ds : Delimiters} {ts : List (Token α)} {a : Arena α}

/-- An arena has the groups of a draft in which no group is open, and the tree of the assembly that
the draft agrees with. -/
theorem drafted (made : ofTokens ds ts = .ok a) :
    ∃ (d : Draft α) (b : Assembly α), ts.foldlM (Draft.push ds) {} = .ok d ∧
      ts.foldlM (Assembly.push ds) {} = .ok b ∧ d.Agrees b ∧ d.opened = [] ∧ b.opened = [] ∧
      a = ⟨d.groups, d.stop⟩ ∧ a.tree.nodes = b.nodes.reverse := by
  have agree : Both Draft.Agrees (ts.foldlM (Draft.push ds) {})
      (ts.foldlM (Assembly.push ds) {}) := Draft.Agrees.initial.pushAll ts
  unfold ofTokens at made
  generalize ts.foldlM (Draft.push ds) {} = r, ts.foldlM (Assembly.push ds) {} = r'
    at made agree
  cases agree with
  | error e => cases made
  | @ok d b agree =>
    have finished := agree.finish
    change d.finish = .ok a at made
    rw [made] at finished
    generalize read : b.finish = tree at finished
    cases finished with
    | ok same =>
      unfold Draft.finish at made
      unfold Assembly.finish at read
      split at made
      · next opened =>
        cases made
        split at read
        · next opened' =>
          cases read
          exact ⟨d, b, rfl, rfl, agree, opened, opened', rfl, congrArg Tree.nodes same⟩
        · cases read
      · cases made

/-- Whatever the brackets are, assembling loses no token that is kept and adds none. -/
theorem ofTokens_exact (made : ofTokens ds ts = .ok a) : a.Exact ds ts := by
  obtain ⟨d, b, pushed, pushed', agree, opened, opened', rfl, read⟩ := drafted made
  have sound := (Draft.Sound.initial ds).pushAll pushed
  obtain ⟨all, stop⟩ := Assembly.pushAll_tokens pushed'
  refine ⟨?_, ?_, ?_, ?_, sound.greater, sound.apart, agree.stop.trans stop⟩
  · have stacked := agree.stacked
    rw [opened, opened'] at stacked
    cases stacked with
    | outermost stored shown => exact ⟨_, stored, read ▸ shown⟩
  · rw [Assembly.tokens, opened'] at all
    rw [read, ← Assembly.kept_eq]
    exact all
  · intro n g positive stored
    obtain ⟨opener, here, closed⟩ := sound.marked n g positive stored
    obtain ⟨closer, there, named⟩ := closed (opened ▸ List.not_mem_nil)
    exact ⟨opener, closer, here, there, named⟩
  · have numbered := sound.numbered
    rw [opened, List.append_nil] at numbered
    exact numbered

/-- A group within another one, with a comment between two line breaks. -/
theorem ofTokens_exact_nested : ∃ (ts : List (Token Nat)) (a : Arena Nat),
    tokenize ["(x[\n//\ny])\n "] [] = .ok ts ∧
    ofTokens (.ofPairs [("(", ")"), ("[", "]")]) ts = .ok a ∧
    a.Exact (.ofPairs [("(", ")"), ("[", "]")]) ts ∧ a.groups.size = 3 ∧ a.stop = ⟨12, 4, 2⟩ := by
  let x : Token Nat := ⟨.identifier, "x", ⟨1, 1, 2⟩⟩
  let y : Token Nat := ⟨.identifier, "y", ⟨7, 3, 1⟩⟩
  let opener : Token Nat := ⟨.punctuation, "(", ⟨0, 1, 1⟩⟩
  let opener' : Token Nat := ⟨.punctuation, "[", ⟨2, 1, 3⟩⟩
  let closer' : Token Nat := ⟨.punctuation, "]", ⟨8, 3, 2⟩⟩
  let closer : Token Nat := ⟨.punctuation, ")", ⟨9, 3, 3⟩⟩
  let line : Token Nat := ⟨.line, "\n", ⟨3, 1, 4⟩⟩
  let again : Token Nat := ⟨.line, "\n", ⟨6, 2, 3⟩⟩
  let last : Token Nat := ⟨.line, "\n ", ⟨10, 3, 4⟩⟩
  let comment : Token Nat := ⟨.ignored, "//", ⟨4, 2, 1⟩⟩
  let ts := [opener, x, opener', line, comment, again, y, closer', closer, last]
  let a : Arena Nat := ⟨#[⟨none, none, #[.group 1, .token last]⟩,
    ⟨some opener, some closer, #[.token x, .group 2]⟩,
    ⟨some opener', some closer', #[.token line, .token y]⟩], ⟨12, 4, 2⟩⟩
  have made : ofTokens (.ofPairs [("(", ")"), ("[", "]")]) ts = .ok a := by decide +kernel
  exact ⟨ts, a, by decide +kernel, made, ofTokens_exact made, rfl, rfl⟩

end Arena

end RuleMachine
