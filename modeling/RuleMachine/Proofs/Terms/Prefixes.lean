import RuleMachine.Proofs.Terms.Steady

/-!
# Nodes apart from those behind them

What is read of nodes with more behind them is read of the nodes alone, too, if it ends within them
(`Phrase.CutsAt`). What begins with them may go on into the nodes behind, and then it may come to
something else without them; but it does not come back. So an effect that ends where a rule may
begin is the same effect when it stands alone (`Fresh.orEffect`).
-/

namespace RuleMachine

open Plain

/-! ## Cursors within the nodes -/

namespace Cursor

variable {c d e : Cursor} {more : List (Node Value)} {stop : Position}

/-- The cursor has left the nodes that have more behind them, or stands inside a symbol there. -/
def Beyond (more : List (Node Value)) (stop : Position) (e : Cursor) : Prop :=
  ∀ d : Cursor, d.Valid → e ≠ d.extend more stop

theorem not_beyond_extend (valid : d.Valid) : ¬ Beyond more stop (d.extend more stop) :=
  fun beyond => beyond d valid rfl

/-- A cursor that has not left them stands in them, wherever these are said to end. -/
theorem exists_extend (within : ¬ e.Beyond more stop) (place : Position) :
    ∃ d : Cursor, d.Valid ∧ d.stop = place ∧ e = d.extend more stop := by
  simp only [Beyond, not_forall, not_not] at within
  obtain ⟨d, valid, rfl⟩ := within
  exact ⟨{ d with stop := place }, valid, rfl, rfl⟩

theorem extend_inj (same : c.extend more stop = d.extend more stop) (ends : c.stop = d.stop) :
    c = d := by
  obtain ⟨nodes, split, place⟩ := c
  obtain ⟨nodes', split', place'⟩ := d
  simp only [extend, Cursor.mk.injEq, List.append_cancel_right_eq, and_true] at same
  obtain ⟨rfl, rfl⟩ := same
  cases ends
  rfl

/-- No cursor comes back. -/
theorem Reaches.beyond (h : c.Reaches e) (valid : c.Valid) (beyond : c.Beyond more stop) :
    e.Beyond more stop := by
  rintro d valid' rfl
  rcases h with same | ⟨ends, ⟨nodes, less⟩ | ⟨n, passed, nodes⟩⟩
  · exact beyond d valid' same.symm
  · refine beyond { d with split := c.split } ?_ ?_
    · obtain ⟨t, rest, front, symbol, bound⟩ :=
        valid'.resolve_left (Nat.ne_of_gt (Nat.lt_of_le_of_lt (Nat.zero_le _) less))
      exact .inr ⟨t, rest, front, symbol, Nat.lt_trans less bound⟩
    · obtain ⟨nodes', split, place⟩ := c
      cases nodes
      cases ends
      rfl
  · refine beyond { nodes := n :: passed ++ d.nodes, split := c.split, stop } ?_ ?_
    · refine valid.imp id ?_
      rintro ⟨t, rest, front, symbol, bound⟩
      obtain ⟨rfl, -⟩ := List.cons.inj (nodes.symm.trans front)
      exact ⟨t, _, rfl, symbol, bound⟩
    · obtain ⟨nodes', split, place⟩ := c
      cases ends
      simpa [extend] using nodes

/-- Whatever is taken from the start of the nodes behind is beyond. -/
theorem Before.beyond {ns : List (Node Value)} (h : Before { nodes := ns, stop } e) :
    e.Beyond ns stop := by
  rintro d valid rfl
  obtain ⟨-, ⟨nodes, less⟩ | ⟨n, passed, nodes⟩⟩ := h
  · have none : d.nodes = [] := List.append_left_eq_self.mp nodes
    obtain ⟨t, rest, front, -⟩ := valid.resolve_left (Nat.ne_of_gt less)
    rw [none] at front
    cases front
  · have length := congrArg List.length nodes
    simp only [extend, List.length_append, List.length_cons] at length
    omega

end Cursor

/-! ## Reading the nodes alone -/

section

variable {α : Type} {r : Reply Unit α} {more : List (Node Value)} {stop : Position}

theorem Reply.extend_eq_ok {a : α} {e : Cursor} :
    r.extend more stop = .ok a e () ↔ ∃ d, r = .ok a d () ∧ d.extend more stop = e := by
  cases r with
  | ok => simp [extend]
  | mismatch | fatal | exhausted => simp [extend]

theorem Reply.extend_eq_mismatch : r.extend more stop = .mismatch () ↔ r = .mismatch () := by
  cases r <;> simp [extend]

end

namespace Phrase

variable {α β : Type} {c d : Cursor} {more : List (Node Value)}

/-- What is read at the cursor with more nodes behind and ends before these is read without them,
and where nothing fits with them nothing does without. -/
structure CutsAt (more : List (Node Value)) (p : Phrase Production α) (c : Cursor) : Prop where
  ok {stop : Position} {a : α} {d : Cursor} : d.Valid → d.stop = c.stop →
    p.parse Production.read (c.extend more stop) () = .ok a (d.extend more stop) () →
    p.parse Production.read c () = .ok a d ()
  mismatch {stop : Position} : p.parse Production.read (c.extend more stop) () = .mismatch () →
    p.parse Production.read c () = .mismatch ()

/-- What goes on into the nodes behind does not fit without them. -/
structure FirmAt (more : List (Node Value)) (p : Phrase Production α) (c : Cursor) : Prop where
  refuses {stop : Position} {a : α} {e : Cursor} : e.Beyond more stop →
    p.parse Production.read (c.extend more stop) () = .ok a e () →
    p.parse Production.read c () = .mismatch ()

/-- It is so wherever the phrase is read. -/
def Cuts (more : List (Node Value)) (p : Phrase Production α) : Prop :=
  ∀ c : Cursor, c.Valid → CutsAt more p c

def Firm (more : List (Node Value)) (p : Phrase Production α) : Prop :=
  ∀ c : Cursor, c.Valid → FirmAt more p c

/-- Whatever comes, the phrase fits. -/
def Total (p : Phrase Production α) : Prop :=
  ∀ c : Cursor, c.Valid → p.parse Production.read c () ≠ .mismatch ()

theorem CutsAt.of_steady {p : Phrase Production α} (valid : c.Valid) (h : p.SteadyAt more c) :
    CutsAt more p c where
  ok {stop a d} _ ends ok := by
    obtain ⟨e, read, place⟩ := Reply.extend_eq_ok.mp ((h stop).symm.trans ok)
    have stays := (p.parse_goes Production.read_goes valid read).2.1.stop_eq
    rw [read, Cursor.extend_inj place (stays.trans ends.symm)]
  mismatch {stop} mismatch := Reply.extend_eq_mismatch.mp ((h stop).symm.trans mismatch)

theorem FirmAt.of_steady {p : Phrase Production α} (valid : c.Valid) (h : p.SteadyAt more c) :
    FirmAt more p c where
  refuses {stop a e} beyond ok := by
    obtain ⟨d, read, rfl⟩ := Reply.extend_eq_ok.mp ((h stop).symm.trans ok)
    exact absurd beyond
      (Cursor.not_beyond_extend (p.parse_goes Production.read_goes valid read).1)

theorem steadyAt_pure (a : α) : (Phrase.pure a : Phrase Production α).SteadyAt more c :=
  Parse.SteadyAt.pure a

/-! ### A single node -/

/-- A phrase that takes something after line breaks, and that begins where it ends. -/
structure Brief (p : Phrase Production α) : Prop where
  passes : p.Passes
  consumes : p.consumes
  nothing (stop : Position) : p.parse Production.read { nodes := [], stop } () = .mismatch ()
  inside {c : Cursor} : c.Valid → ¬ c.AtEnd → ∀ more, p.SteadyAt more c

namespace Brief

variable {p : Phrase Production α} (h : Brief p)
include h

/-- At the end of the nodes such a phrase takes from the nodes behind, if anything. -/
theorem atEnd (more : List (Node Value)) (valid : c.Valid) (atEnd : c.AtEnd) :
    p.parse Production.read c () = .mismatch () ∧
      ∀ stop, p.parse Production.read (c.extend more stop) () =
        p.parse Production.read { nodes := more, stop } () := by
  obtain ⟨nodes, split, place⟩ := c
  obtain rfl : split = 0 := atEnd.split_eq_zero valid
  have lines : ∀ n ∈ nodes, n.isLine := List.dropWhile_eq_nil_iff.mp atEnd
  have ended := h.passes.lines lines [] place
  rw [List.append_nil] at ended
  exact ⟨ended.trans (h.nothing place), h.passes.lines lines more⟩

theorem cuts : Cuts more p := by
  intro c valid
  by_cases atEnd : c.AtEnd
  · obtain ⟨none, behind⟩ := h.atEnd more valid atEnd
    refine ⟨fun {stop a d} valid' _ ok => ?_, fun _ => none⟩
    rw [behind] at ok
    have before := (p.parse_goes Production.read_goes (.inl rfl) ok).2.2 h.consumes
    exact absurd before.beyond (Cursor.not_beyond_extend valid')
  · exact .of_steady valid (h.inside valid atEnd more)

theorem firm : Firm more p := by
  intro c valid
  by_cases atEnd : c.AtEnd
  · obtain ⟨none, -⟩ := h.atEnd more valid atEnd
    exact ⟨fun _ _ => none⟩
  · exact .of_steady valid (h.inside valid atEnd more)

end Brief

theorem Brief.of_single {p : Phrase Production α} (single : Single p) (consumes : p.consumes) :
    Brief p :=
  ⟨single.passes, consumes, single.nothing, fun valid inside _ => single.steadyAt valid inside⟩

theorem Brief.symbol {text : String} (some : text.toList ≠ []) : Brief (Phrase.symbol text) where
  passes := .terminal _
  consumes := by simpa [Phrase.symbol, consumes, Terminal.consumes] using some
  nothing _ := Parse.terminal_nil _
  inside valid inside _ := Parse.SteadyAt.terminal valid inside _

theorem Brief.word (text : String) : Brief (Phrase.word text) :=
  .of_single (.terminal rfl) rfl

theorem Brief.fail (what : Option String) : Brief (.fail what : Phrase Production α) :=
  .of_single (.fail what) rfl

theorem Brief.map {p : Phrase Production α} (g : α → β) (h : Brief p) : Brief (g <$> p) where
  passes := .map g h.passes
  consumes := h.consumes
  nothing stop := by
    simp only [map_eq, parse_seq, parse_pure, Parse.andThen, h.nothing stop]
  inside valid inside more := Phrase.SteadyAt.map g (h.inside valid inside more)

theorem Brief.orElse {p q : Phrase Production α} (hp : Brief p) (hq : Brief q) :
    Brief (.orElse p q) where
  passes := .orElse hp.passes hq.passes
  consumes := by simp [Phrase.orElse, Phrase.consumes, hp.consumes, hq.consumes]
  nothing stop := by
    simp only [Phrase.orElse, parse_choose, Parse.either, hp.nothing stop, hq.nothing stop]
  inside valid inside more :=
    Phrase.SteadyAt.orElse (hp.inside valid inside more) (hq.inside valid inside more)

/-! ### Phrases of several parts -/

section

variable {p : Phrase Production (α → β)} {q : Phrase Production α}

/-- What ends before the nodes behind has all its parts before them. -/
theorem seq_ok {stop : Position} (valid : c.Valid)
    (hp : ∀ g e, e.Valid → e.stop = c.stop →
      p.parse Production.read (c.extend more stop) () = .ok g (e.extend more stop) () →
      p.parse Production.read c () = .ok g e ())
    (hq : ∀ g e, e.Valid → p.parse Production.read c () = .ok g e () → CutsAt more q e)
    {b : β} {d : Cursor} (valid' : d.Valid) (ends : d.stop = c.stop)
    (ok : (Phrase.seq p q).parse Production.read (c.extend more stop) () =
      .ok b (d.extend more stop) ()) :
    (Phrase.seq p q).parse Production.read c () = .ok b d () := by
  obtain ⟨g, e, a, first, arg, same⟩ := seq_ok_iff.mp ok
  have validE := (p.parse_goes Production.read_goes valid.extend first).1
  have reaches := (q.parse_goes Production.read_goes validE arg).2.1
  have within : ¬ e.Beyond more stop := fun beyond =>
    Cursor.not_beyond_extend valid' (reaches.beyond validE beyond)
  obtain ⟨m, validM, endsM, rfl⟩ := Cursor.exists_extend within c.stop
  have first := hp g m validM endsM first
  exact seq_ok_iff.mpr
    ⟨g, m, a, first, (hq g m validM first).ok valid' (ends.trans endsM.symm) arg, same⟩

theorem CutsAt.seq (valid : c.Valid) (hp : CutsAt more p c)
    (hq : ∀ g d, d.Valid → p.parse Production.read c () = .ok g d () → CutsAt more q d)
    (sure : FirmAt more p c ∨ q.Total) : CutsAt more (.seq p q) c where
  ok valid' ends ok := seq_ok valid (fun _ _ => hp.ok) hq valid' ends ok
  mismatch {stop} mismatch := by
    refine seq_mismatch_iff.mpr ?_
    rcases seq_mismatch_iff.mp mismatch with none | ⟨g, e, first, second⟩
    · exact .inl (hp.mismatch none)
    have validE := (p.parse_goes Production.read_goes valid.extend first).1
    by_cases beyond : e.Beyond more stop
    · rcases sure with firm | total
      · exact .inl (firm.refuses beyond first)
      · exact absurd second (total e validE)
    · obtain ⟨m, validM, endsM, rfl⟩ := Cursor.exists_extend beyond c.stop
      have first := hp.ok validM endsM first
      exact .inr ⟨g, m, first, (hq g m validM first).mismatch second⟩

theorem FirmAt.seq (hp : CutsAt more p c) (firm : FirmAt more p c)
    (hq : ∀ g d, d.Valid → p.parse Production.read c () = .ok g d () → FirmAt more q d) :
    FirmAt more (.seq p q) c where
  refuses {stop b d} beyond ok := by
    refine seq_mismatch_iff.mpr ?_
    obtain ⟨g, e, a, first, arg, -⟩ := seq_ok_iff.mp ok
    by_cases beyond' : e.Beyond more stop
    · exact .inl (firm.refuses beyond' first)
    · obtain ⟨m, validM, endsM, rfl⟩ := Cursor.exists_extend beyond' c.stop
      have first := hp.ok validM endsM first
      exact .inr ⟨g, m, first, (hq g m validM first).refuses beyond arg⟩

end

section

variable {p : Phrase Production α}

theorem CutsAt.map (g : α → β) (valid : c.Valid) (hp : CutsAt more p c) : CutsAt more (g <$> p) c :=
  .seq valid (.of_steady valid (steadyAt_pure g)) (by rintro _ _ - ⟨⟩; exact hp)
    (.inl (.of_steady valid (steadyAt_pure g)))

theorem FirmAt.map (g : α → β) (valid : c.Valid) (hp : FirmAt more p c) : FirmAt more (g <$> p) c :=
  .seq (.of_steady valid (steadyAt_pure g)) (.of_steady valid (steadyAt_pure g))
    (by rintro _ _ - ⟨⟩; exact hp)

theorem CutsAt.orElse {q : Phrase Production α} (hp : CutsAt more p c) (hq : CutsAt more q c) :
    CutsAt more (.orElse p q) c where
  ok valid' ends ok := orElse_ok_iff.mpr <| (orElse_ok_iff.mp ok).imp (hp.ok valid' ends)
    fun ⟨first, other⟩ => ⟨hp.mismatch first, hq.ok valid' ends other⟩
  mismatch mismatch := orElse_mismatch_iff.mpr <|
    (orElse_mismatch_iff.mp mismatch).imp hp.mismatch hq.mismatch

theorem total_optional : (Phrase.optional p).Total := by
  intro c _ mismatch
  simp only [Phrase.optional, parse_choose, Parse.either] at mismatch
  split at mismatch <;> cases mismatch

theorem CutsAt.optional (valid : c.Valid) (hp : CutsAt more p c) :
    CutsAt more (.optional p) c where
  ok {stop o d} valid' ends ok := by
    refine optional_ok_iff.mpr ?_
    rcases optional_ok_iff.mp ok with ⟨a, first, same⟩ | ⟨none, same, place⟩
    · exact .inl ⟨a, hp.ok valid' ends first, same⟩
    · exact .inr ⟨hp.mismatch none, same, Cursor.extend_inj place ends.symm⟩
  mismatch mismatch := absurd mismatch (total_optional _ valid.extend)

/-- Items after each other fit whatever comes, if those after the first do. -/
theorem items_fit {rest : Parse Unit (List α)}
    (total : ∀ a d, p.parse Production.read c () = .ok a d () → rest d () ≠ .mismatch ()) :
    Parse.either (p.parse Production.read)
      (fun a => Parse.andThen rest fun as c f => .ok (a :: as) c f)
      (fun c f => .ok [] c f) c () ≠ .mismatch () := by
  rw [Parse.either]
  cases first : p.parse Production.read c () with
  | ok a d =>
    dsimp only [Parse.andThen]
    cases others : rest d () with
    | mismatch => exact absurd others (total a d first)
    | ok | fatal | exhausted => simp
  | mismatch | fatal | exhausted => simp

theorem total_many (consumes : p.consumes) : (Phrase.many p).Total := by
  intro c valid
  induction left : c.steps using Nat.strong_induction_on generalizing c with
  | h steps ih =>
    rw [parse_many consumes valid]
    refine items_fit fun a d first => ?_
    obtain ⟨valid', -, before⟩ := p.parse_goes Production.read_goes valid first
    exact ih d.steps (left ▸ (before consumes).steps_lt valid valid') d valid' rfl

theorem total_lineList (consumes : p.consumes) : (Phrase.lineList p).Total := by
  intro c valid
  induction left : c.steps using Nat.strong_induction_on generalizing c with
  | h steps ih =>
    rw [parse_lineList consumes valid]
    split
    · simp
    refine items_fit fun a d first => ?_
    obtain ⟨valid', -, before⟩ := p.parse_goes Production.read_goes valid first
    exact ih d.steps (left ▸ (before consumes).steps_lt valid valid') d valid' rfl

/-- One item and the others after it, or nothing. -/
def loop (p : Phrase Production α) (rest : Phrase Production (List α)) :
    Phrase Production (List α) :=
  .orElse (List.cons <$> p <*> rest) (.pure [])

theorem parse_loop {rest : Phrase Production (List α)} (total : rest.Total) (valid : c.Valid) :
    Parse.either (p.parse Production.read)
      (fun a => Parse.andThen (rest.parse Production.read) fun as c f => .ok (a :: as) c f)
      (fun c f => .ok [] c f) c () = (loop p rest).parse Production.read c () := by
  simp only [loop, Phrase.orElse, map_eq, seq_eq, parse_choose, parse_seq, parse_pure, Parse.either,
    Parse.andThen]
  cases first : p.parse Production.read c () with
  | ok a d =>
    dsimp only
    cases others : rest.parse Production.read d () with
    | mismatch =>
      have valid' := (p.parse_goes Production.read_goes valid first).1
      exact absurd others (total d valid')
    | ok | fatal | exhausted => rfl
  | mismatch | fatal | exhausted => rfl

theorem CutsAt.loop {rest : Phrase Production (List α)} (total : rest.Total) (valid : c.Valid)
    (hp : CutsAt more p c)
    (later : ∀ a d, p.parse Production.read c () = .ok a d () → CutsAt more rest d) :
    CutsAt more (loop p rest) c := by
  refine .orElse (.seq valid (.map _ valid hp) (fun g d _ first => ?_) (.inr total))
    (.of_steady valid (steadyAt_pure []))
  obtain ⟨_, _, _, ⟨⟩, second⟩ := Parse.andThen_ok first
  obtain ⟨a, _, _, item, ⟨⟩⟩ := Parse.andThen_ok second
  exact later a d item

theorem Cuts.many (consumes : p.consumes) (hp : Cuts more p) : Cuts more (.many p) := by
  intro c valid
  have total := total_many consumes
  induction left : c.steps using Nat.strong_induction_on generalizing c with
  | h steps ih =>
    have here : CutsAt more (Phrase.loop p (.many p)) c := by
      refine .loop total valid (hp c valid) fun a d first => ?_
      obtain ⟨valid', -, before⟩ := p.parse_goes Production.read_goes valid first
      exact ih d.steps (left ▸ (before consumes).steps_lt valid valid') d valid' rfl
    refine ⟨fun {stop as d} valid' ends ok => ?_, fun none =>
      absurd none (total _ valid.extend)⟩
    rw [parse_many consumes valid.extend, parse_loop total valid.extend] at ok
    rw [parse_many consumes valid, parse_loop total valid]
    exact here.ok valid' ends ok

/-- Of the nodes behind no items are read on a line that ends before them. -/
theorem lineList_behind (consumes : p.consumes) {stop place : Position} {as : List α}
    (valid : d.Valid) (ends : d.stop = place)
    (ok : (Phrase.lineList p).parse Production.read { nodes := more, stop } () =
      .ok as (d.extend more stop) ()) : as = [] ∧ d = { nodes := [], stop := place } := by
  let e : Cursor := { nodes := [], stop := place }
  have alone (same : e.extend more stop = d.extend more stop) : d = e :=
    (Cursor.extend_inj same ends.symm).symm
  rw [parse_lineList consumes (.inl rfl)] at ok
  split at ok
  · obtain ⟨rfl, same, -⟩ := Reply.ok.inj ok
    exact ⟨rfl, alone same⟩
  rcases Parse.either_ok ok with taken | ⟨_, -, other⟩
  · obtain ⟨a, e, _, first, second⟩ := Parse.andThen_ok taken
    obtain ⟨as', e', _, rest, ⟨⟩⟩ := Parse.andThen_ok second
    obtain ⟨validE, -, before⟩ := p.parse_goes Production.read_goes (.inl rfl) first
    have reaches := ((Phrase.lineList p).parse_goes Production.read_goes validE rest).2.1
    exact absurd (reaches.beyond validE (before consumes).beyond)
      (Cursor.not_beyond_extend valid)
  · obtain ⟨rfl, same, -⟩ := Reply.ok.inj other
    exact ⟨rfl, alone same⟩

theorem Cuts.lineList (consumes : p.consumes) (hp : Cuts more p) : Cuts more (.lineList p) := by
  intro c valid
  have total := total_lineList consumes
  induction left : c.steps using Nat.strong_induction_on generalizing c with
  | h steps ih =>
    have here : CutsAt more (Phrase.loop p (.lineList p)) c := by
      refine .loop total valid (hp c valid) fun a d first => ?_
      obtain ⟨valid', -, before⟩ := p.parse_goes Production.read_goes valid first
      exact ih d.steps (left ▸ (before consumes).steps_lt valid valid') d valid' rfl
    refine ⟨fun {stop as d} valid' ends ok => ?_, fun none =>
      absurd none (total _ valid.extend)⟩
    by_cases atEnd : c.nodes = []
    · obtain ⟨nodes, split, place⟩ := c
      obtain rfl : nodes = [] := atEnd
      obtain rfl : split = 0 := valid.resolve_right (by rintro ⟨_, _, ⟨⟩, -⟩)
      obtain ⟨rfl, rfl⟩ := lineList_behind consumes valid' ends ok
      rw [parse_lineList consumes valid]
      rfl
    · rw [parse_lineList consumes valid.extend, Cursor.extend_atLineOrEnd atEnd] at ok
      rw [parse_lineList consumes valid]
      split at ok
      next ended =>
        obtain ⟨rfl, place, -⟩ := Reply.ok.inj ok
        obtain rfl := Cursor.extend_inj place ends.symm
        rw [if_pos ended]
      next inLine =>
        rw [if_neg inLine, parse_loop total valid]
        rw [parse_loop total valid.extend] at ok
        exact here.ok valid' ends ok

theorem CutsAt.production {n : Production α} (valid : c.Valid) (h : CutsAt more n.phrase c) :
    CutsAt more (.production n) c where
  ok valid' ends ok := by
    rw [parse_production, n.read_eq valid.extend] at ok
    rw [parse_production, n.read_eq valid]
    exact h.ok valid' ends ok
  mismatch mismatch := by
    rw [parse_production, n.read_eq valid.extend] at mismatch
    rw [parse_production, n.read_eq valid]
    exact h.mismatch mismatch

/-- The choice is the same before the nodes behind as without them. -/
theorem CutsAt.choose {q : Phrase Production (α → β)} {r : Phrase Production β} (valid : c.Valid)
    (steady : p.SteadyAt more c) (hq : Cuts more q) (hr : CutsAt more r c) :
    CutsAt more (.choose p q r) c where
  ok {stop b d} valid' ends ok := by
    rw [parse_choose, Parse.either, steady stop] at ok
    rw [parse_choose, Parse.either]
    cases first : p.parse Production.read c () with
    | ok a e =>
      rw [first] at ok
      obtain ⟨validE, reaches, -⟩ := p.parse_goes Production.read_goes valid first
      obtain ⟨g, e', _, second, ⟨⟩⟩ := Parse.andThen_ok (p := q.parse Production.read) ok
      have second := (hq e validE).ok valid' (ends.trans reaches.stop_eq.symm) second
      simp only [Parse.andThen, second]
    | mismatch =>
      rw [first] at ok
      exact hr.ok valid' ends ok
    | fatal | exhausted => rw [first] at ok; cases ok
  mismatch {stop} mismatch := by
    rw [parse_choose, Parse.either, steady stop] at mismatch
    rw [parse_choose, Parse.either]
    cases first : p.parse Production.read c () with
    | ok a e =>
      rw [first] at mismatch
      have validE := (p.parse_goes Production.read_goes valid first).1
      have second : q.parse Production.read (e.extend more stop) () = .mismatch () := by
        dsimp only [Reply.extend, Parse.andThen] at mismatch
        split at mismatch <;> first | assumption | cases mismatch
      simp only [Parse.andThen, (hq e validE).mismatch second]
    | mismatch =>
      rw [first] at mismatch
      exact hr.mismatch mismatch
    | fatal | exhausted => rw [first] at mismatch; cases mismatch

end

namespace Cuts

variable {p : Phrase Production α}

theorem seq {p : Phrase Production (α → β)} {q : Phrase Production α} (hp : Cuts more p)
    (hq : Cuts more q) (sure : Firm more p ∨ q.Total) : Cuts more (.seq p q) := fun c valid =>
  CutsAt.seq valid (hp c valid) (fun _ d valid' _ => hq d valid') (sure.imp_left (· c valid))

theorem map (g : α → β) (hp : Cuts more p) : Cuts more (g <$> p) := fun c valid =>
  CutsAt.map g valid (hp c valid)

theorem orElse {q : Phrase Production α} (hp : Cuts more p) (hq : Cuts more q) :
    Cuts more (.orElse p q) := fun c valid => CutsAt.orElse (hp c valid) (hq c valid)

theorem optional (hp : Cuts more p) : Cuts more (.optional p) := fun c valid =>
  CutsAt.optional valid (hp c valid)

theorem production {n : Production α} (h : Cuts more n.phrase) : Cuts more (.production n) :=
  fun c valid => CutsAt.production valid (h c valid)

theorem choose {q : Phrase Production (α → β)} {r : Phrase Production β} (steady : Steady more p)
    (hq : Cuts more q) (hr : Cuts more r) : Cuts more (.choose p q r) := fun c valid =>
  CutsAt.choose valid (steady c valid) hq (hr c valid)

end Cuts

theorem Firm.map {p : Phrase Production α} (g : α → β) (hp : Firm more p) : Firm more (g <$> p) :=
  fun c valid => FirmAt.map g valid (hp c valid)

theorem Firm.seq {p : Phrase Production (α → β)} {q : Phrase Production α} (cuts : Cuts more p)
    (hp : Firm more p) (hq : Firm more q) : Firm more (.seq p q) := fun c valid =>
  FirmAt.seq (cuts c valid) (hp c valid) fun _ d valid' _ => hq d valid'

end Phrase

/-! ## Expressions -/

section

open Phrase

variable {α : Type} {more : List (Node Value)}

theorem brief_operand : Brief (.production .operand) := .of_single Single.operand rfl

theorem brief_operator {α : Type} {text : String} (some : text.toList ≠ []) (op : α) :
    Brief (Production.operator text op) :=
  .map _ (.symbol some)

theorem brief_sums : Brief sums :=
  .orElse (brief_operator (by decide) _) (.orElse (brief_operator (by decide) _) (.fail _))

theorem brief_products : Brief products :=
  .orElse (brief_operator (by decide) _) (.orElse (brief_operator (by decide) _)
    (.orElse (brief_operator (by decide) _) (.fail _)))

/-- A power is followed by its exponent, whose own exponent is further on. -/
theorem cuts_power : Cuts more (.production .power) := by
  intro c valid
  induction left : c.steps using Nat.strong_induction_on generalizing c with
  | h steps ih =>
    refine .production valid (.seq valid (.map _ valid (brief_operand.cuts c valid))
      (fun g d valid' first => .optional valid' ?_) (.inr total_optional))
    have sign : Brief (Phrase.symbol "**") := .symbol (by decide)
    refine .seq valid' (.map _ valid' (sign.cuts d valid')) (fun g' e valid'' second => ?_)
      (.inl (.map _ valid' (sign.firm d valid')))
    have reaches := (Phrase.parse_goes Production.read_goes _ valid first).2.1
    have before := (Phrase.parse_goes Production.read_goes _ valid' second).2.2 rfl
    have less := (reaches.before before).steps_lt valid valid''
    exact ih e.steps (left ▸ less) e valid'' rfl

theorem Chains.cuts {n part : Production Expr} {ops : Phrase Production Operator} {level : Nat}
    (chains : Chains n part ops level) (operators : Brief ops)
    (parts : Cuts more (.production part)) : Cuts more (.production n) := by
  have link : Cuts more (link ops part) :=
    .seq (.map _ operators.cuts) parts (.inl (.map _ operators.firm))
  have consumes : (RuleMachine.link ops part).consumes := by simp [RuleMachine.link]
  refine .production ?_
  rw [chains.phrase]
  exact .seq (.map _ parts) (.many consumes link) (.inr (total_many consumes))

theorem cuts_expr : Cuts more (.production .expr) :=
  chains_expr.cuts brief_sums (chains_product.cuts brief_products cuts_power)

theorem cuts_exprField : Cuts more (.production .exprField) := by
  have key : Brief (.production .fieldKey) := .of_single Single.fieldKey rfl
  have colon : Brief (Phrase.symbol ":") := .symbol (by decide)
  have firm : Firm more (Phrase.production .fieldKey <* Phrase.symbol ":") :=
    .seq (.map _ key.cuts) (.map _ key.firm) colon.firm
  have front : Cuts more (Phrase.production .fieldKey <* Phrase.symbol ":") :=
    .seq (.map _ key.cuts) colon.cuts (.inl (.map _ key.firm))
  have name : Brief (.terminal .ident) := .of_single (.terminal rfl) rfl
  exact .production
    (.orElse (.seq (.map _ front) cuts_expr (.inl (.map _ firm))) (.map _ name.cuts))

theorem cuts_tagExpr : Cuts more (.production .tagExpr) := by
  have sign : Brief (Phrase.symbol "#") := .symbol (by decide)
  have name : Brief (.terminal .name) := .of_single (.terminal rfl) rfl
  have front : Cuts more (Phrase.symbol "#" *> .terminal .name) :=
    .seq (.map _ sign.cuts) name.cuts (.inl (.map _ sign.firm))
  exact .production (.orElse
    (.seq (.map _ front) (.lineList rfl cuts_exprField) (.inr (total_lineList rfl))) cuts_expr)

end

/-! ## Where a rule may begin -/

/-- A comparison of two expressions. -/
def compared : Phrase Production Cond :=
  .seq (.seq (.compare <$> .production .expr) (.production .comparison)) (.production .expr)

/-- An expression that is to be true. -/
def truthy : Phrase Production Cond := .truthy <$> .production .expr

theorem exprCond_eq : exprCond = .orElse compared truthy := rfl

/-- The nodes begin with no symbol but the sign of a tag, and with no word that an effect begins or
goes on with. -/
structure Fresh (more : List (Node Value)) : Prop where
  symbol {text : String} (other : text.toList.head? ∉ [none, some '#']) (stop : Position) :
    Parse.terminal (.symbol text) { nodes := more, stop } () = .mismatch ()
  word {text : String} (mem : text ∈ ["if", "in", "not", "is", "dispatch", "await", "exec"])
      (stop : Position) :
    Parse.terminal (.word text) { nodes := more, stop } () = .mismatch ()

namespace Fresh

open Phrase

variable {more : List (Node Value)} (fresh : Fresh more)
include fresh

theorem steady_comparison : (Phrase.production Production.comparison).Steady more := by
  have heads : ∀ op ∈ Comparison.symbols, op.symbol.toList.head? ∉ [none, some '#'] := by decide
  have words : ∀ text ∈ ["in", "not", "is"],
      text ∈ ["if", "in", "not", "is", "dispatch", "await", "exec"] := by decide
  exact Comparison.steady (fun op mem => fresh.symbol (heads op mem)) fun text mem =>
    fresh.word (words text mem)

/-- A comparison whose left side does not go on into the nodes behind. -/
theorem compared_mismatch {c d : Cursor} {x : Expr} {stop : Position} (valid : c.Valid)
    (first : (Phrase.production Production.expr).parse Production.read (c.extend more stop) () =
      .ok x (d.extend more stop) ())
    (alone : (Phrase.production Production.expr).parse Production.read c () = .ok x d ())
    (none : compared.parse Production.read (c.extend more stop) () = .mismatch ()) :
    compared.parse Production.read c () = .mismatch () := by
  have valid' := (Phrase.parse_goes Production.read_goes _ valid alone).1
  have steady := fresh.steady_comparison d valid'
  have left : (Cond.compare <$> Phrase.production .expr).parse Production.read c () =
      .ok (.compare x) d () := map_ok_iff.mpr ⟨x, alone, rfl⟩
  refine seq_mismatch_iff.mpr ?_
  rcases seq_mismatch_iff.mp none with before | ⟨g, e, before, right⟩
  · refine .inl (seq_mismatch_iff.mpr ?_)
    rcases seq_mismatch_iff.mp before with none | ⟨g, e, taken, none⟩
    · rw [map_mismatch_iff, first] at none
      cases none
    · obtain ⟨x', item, rfl⟩ := map_ok_iff.mp taken
      obtain ⟨rfl, rfl, -⟩ := Reply.ok.inj (first.symm.trans item)
      exact .inr ⟨_, d, left, (CutsAt.of_steady valid' steady).mismatch none⟩
  · obtain ⟨f, m, op, taken, compares, same⟩ := seq_ok_iff.mp before
    obtain ⟨x', item, rfl⟩ := map_ok_iff.mp taken
    obtain ⟨rfl, rfl, -⟩ := Reply.ok.inj (first.symm.trans item)
    obtain ⟨e, alike, rfl⟩ := Reply.extend_eq_ok.mp ((steady stop).symm.trans compares)
    have validE := (Phrase.parse_goes Production.read_goes _ valid' alike).1
    exact .inr ⟨g, e, seq_ok_iff.mpr ⟨_, d, op, left, alike, same⟩,
      (cuts_expr e validE).mismatch right⟩

/-- An expression that goes on into the nodes behind does so whether it is compared or not. -/
theorem cuts_exprCond : Cuts more exprCond := by
  intro c valid
  have expr : CutsAt more (.production .expr) c := cuts_expr c valid
  have left : CutsAt more (Cond.compare <$> .production .expr) c := .map _ valid expr
  rw [exprCond_eq]
  refine ⟨fun {stop a d} valid' ends ok => ?_, fun {stop} mismatch => ?_⟩
  · rcases orElse_ok_iff.mp ok with whole | ⟨none, other⟩
    · exact orElse_ok_iff.mpr (.inl (seq_ok valid (fun _ _ => seq_ok valid (fun _ _ => left.ok)
        fun _ e validE _ => .of_steady validE (fresh.steady_comparison e validE))
        (fun _ e validE _ => cuts_expr e validE) valid' ends whole))
    · obtain ⟨x, first, rfl⟩ := map_ok_iff.mp other
      have alone := expr.ok valid' ends first
      exact orElse_ok_iff.mpr (.inr ⟨fresh.compared_mismatch valid first alone none,
        map_ok_iff.mpr ⟨x, alone, rfl⟩⟩)
  · obtain ⟨-, none⟩ := orElse_mismatch_iff.mp mismatch
    have none := expr.mismatch (map_mismatch_iff.mp none)
    refine orElse_mismatch_iff.mpr ⟨?_, map_mismatch_iff.mpr none⟩
    exact seq_mismatch_iff.mpr (.inl (seq_mismatch_iff.mpr (.inl (map_mismatch_iff.mpr none))))

theorem cuts_cond : Cuts more (.production .cond) := by
  have group : Brief (.group .round (.production .orCond)) := .of_single (.group _ _) rfl
  have call : Brief (.terminal .callable) := .of_single (.terminal rfl) rfl
  exact .production (.orElse group.cuts (.orElse (.map _ call.cuts) fresh.cuts_exprCond))

theorem cuts_guard : Cuts more (.optional (.word "if" *> .production .cond)) :=
  have word : Brief (Phrase.word "if") := .word "if"
  .optional (.seq (.map _ word.cuts) fresh.cuts_cond (.inl (.map _ word.firm)))

theorem cuts_action : Cuts more (.production .action) := by
  have group : Brief (.group .round (.production .orEffect)) := .of_single (.group _ _) rfl
  have call : Brief (.terminal .callable) := .of_single (.terminal rfl) rfl
  have word (text : String) (mem : text ∈ ["dispatch", "await", "exec"]) :
      (Phrase.word text).Steady more := by
    have listed : ∀ text ∈ ["dispatch", "await", "exec"],
        text ∈ ["if", "in", "not", "is", "dispatch", "await", "exec"] := by decide
    exact .terminal (fresh.word (listed text mem))
  exact .production (.orElse (.map _ group.cuts)
    (.choose (word "dispatch" (by decide)) (.map _ cuts_tagExpr)
      (.choose (word "await" (by decide)) (.map _ call.cuts)
        (.choose (word "exec" (by decide)) (.map _ call.cuts) (Brief.fail _).cuts))))

theorem cuts_joinedActions : Cuts more (.many (.production .joinedAction)) := by
  have sign : Brief (Phrase.symbol "&") := .symbol (by decide)
  exact .many rfl (.production (.seq (.map _ sign.cuts) fresh.cuts_action
    (.inl (.map _ sign.firm))))

theorem cuts_condEffect : Cuts more (.production .condEffect) := by
  have total : (Phrase.many (.production Production.joinedAction)).Total := total_many rfl
  have andEffect : Cuts more (.production .andEffect) := .production (.orElse
    (.seq (.map _ cuts_tagExpr) fresh.cuts_joinedActions (.inr total))
    (.seq (.map _ fresh.cuts_action) fresh.cuts_joinedActions (.inr total)))
  exact .production (.seq (.map _ andEffect) fresh.cuts_guard (.inr total_optional))

theorem cuts_orEffect : Cuts more (.production .orEffect) := by
  have bar : Brief (Phrase.symbol "|") := .symbol (by decide)
  have others : Cuts more (.many (Phrase.symbol "|" *> .production .condEffect)) :=
    .many rfl (.seq (.map _ bar.cuts) fresh.cuts_condEffect (.inl (.map _ bar.firm)))
  have total : (Phrase.many (Phrase.symbol "|" *> .production Production.condEffect)).Total :=
    total_many rfl
  exact .production (.map _ (.seq (.map _ fresh.cuts_condEffect) others (.inr total)))

/-- An effect that ends where a rule may begin is the same without the rule. -/
theorem orEffect {c d : Cursor} {stop : Position} {e : Effect} (valid : c.Valid) (valid' : d.Valid)
    (ends : d.stop = c.stop) (read : Production.orEffect.read (c.extend more stop) () =
      .ok e (d.extend more stop) ()) : Production.orEffect.read c () = .ok e d () := by
  have cuts := fresh.cuts_orEffect c valid
  rw [← Phrase.parse_production Production.read] at read ⊢
  exact cuts.ok valid' ends read

end Fresh

end RuleMachine
