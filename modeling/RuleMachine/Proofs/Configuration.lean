import Mathlib.Data.Nat.Digits.Defs
import RuleMachine.Config

/-!
# Limits from the environment

A limit is the number that its variable denotes, otherwise what the file sets, otherwise the default
(`Chosen`); what denotes no number counts for nothing. Whether an environment gives limits is told
by its file first and by the limits that are chosen then (`Environment.limits_spec`).
-/

namespace RuleMachine

/-! ## Numerals -/

namespace Text

/-- The number that the digits denote, the most significant one first. -/
def worth (digits : List Nat) : Nat := Nat.ofDigits 10 digits.reverse

theorem digit?_eq_some {c : Char} {d : Nat} :
    digit? 10 c = some d ↔ d < 10 ∧ c = d.digitChar := by
  constructor
  · intro h
    obtain ⟨value, lt⟩ := Option.filter_eq_some_iff.mp h
    have lt : d < 10 := of_decide_eq_true lt
    refine ⟨lt, Char.toNat_inj.mp ?_⟩
    rw [Nat.toNat_digitChar_of_lt_ten lt]
    split at value
    next decimal =>
      have bounds : 48 ≤ c.toNat ∧ c.toNat ≤ 57 := decimal
      have eq : c.toNat - 48 = d := Option.some.inj value
      omega
    · split at value
      · have eq := Option.some.inj value
        omega
      · split at value
        · have eq := Option.some.inj value
          omega
        · cases value
  · rintro ⟨lt, rfl⟩
    revert d
    decide

theorem worth_cons (d : Nat) (digits : List Nat) :
    worth (d :: digits) = d * 10 ^ digits.length + worth digits := by
  rw [worth, Nat.ofDigits_reverse_cons, worth]
  ring

theorem foldlM_digits {acc n : Nat} {cs : List Char} :
    cs.foldlM (fun n c => (digit? 10 c).map (10 * n + ·)) acc = some n ↔
      ∃ digits : List Nat, (∀ d ∈ digits, d < 10) ∧ cs = digits.map Nat.digitChar ∧
        n = acc * 10 ^ digits.length + worth digits := by
  induction cs generalizing acc with
  | nil =>
    simp only [List.foldlM_nil, List.nil_eq, List.map_eq_nil_iff]
    constructor
    · intro h
      cases h
      exact ⟨[], by simp, rfl, by simp [worth]⟩
    · rintro ⟨digits, -, rfl, rfl⟩
      simp [worth]
  | cons c cs ih =>
    have value (d : Nat) (digits : List Nat) :
        (10 * acc + d) * 10 ^ digits.length + worth digits =
          acc * 10 ^ (d :: digits).length + worth (d :: digits) := by
      rw [worth_cons, List.length_cons]
      ring
    rw [List.foldlM_cons]
    constructor
    · intro h
      obtain ⟨_, step, rest⟩ := Option.bind_eq_some_iff.mp h
      obtain ⟨d, digit, rfl⟩ := Option.map_eq_some_iff.mp step
      obtain ⟨lt, rfl⟩ := digit?_eq_some.mp digit
      obtain ⟨digits, decimal, rfl, rfl⟩ := ih.mp rest
      exact ⟨d :: digits, List.forall_mem_cons.mpr ⟨lt, decimal⟩, rfl, value d digits⟩
    · rintro ⟨digits, decimal, spelled, rfl⟩
      cases digits with
      | nil => cases spelled
      | cons d digits =>
        obtain ⟨rfl, rfl⟩ := List.cons.inj spelled
        obtain ⟨lt, decimal⟩ := List.forall_mem_cons.mp decimal
        rw [digit?_eq_some.mpr ⟨lt, rfl⟩]
        exact ih.mpr ⟨digits, decimal, rfl, (value d digits).symm⟩

/-- One or more digits denote what they are worth. -/
theorem natural?_eq_some {n : Nat} {cs : List Char} :
    natural? 10 cs = some n ↔
      ∃ digits : List Nat, digits ≠ [] ∧ (∀ d ∈ digits, d < 10) ∧ cs = digits.map Nat.digitChar ∧
        n = worth digits := by
  cases cs with
  | nil =>
    refine ⟨nofun, ?_⟩
    rintro ⟨digits, some, -, none, -⟩
    exact absurd (List.map_eq_nil_iff.mp none.symm) some
  | cons c cs =>
    rw [natural?, foldlM_digits]
    · simp only [Nat.zero_mul, Nat.zero_add]
      constructor
      · rintro ⟨digits, decimal, spelled, rfl⟩
        exact ⟨digits, fun none => by simp [none] at spelled, decimal, spelled, rfl⟩
      · rintro ⟨digits, -, spelled⟩
        exact ⟨digits, spelled⟩
    · exact nofun

end Text

/-- The text consists of decimal digits, at least one and perhaps after a plus sign, and `n` is the
number below `2 ^ 64` that they denote. -/
def Denotes (text : String) (n : Nat) : Prop :=
  ∃ digits : List Nat, digits ≠ [] ∧ (∀ d ∈ digits, d < 10) ∧
    (text.toList = digits.map Nat.digitChar ∨ text.toList = '+' :: digits.map Nat.digitChar) ∧
    n = Text.worth digits ∧ n < 2 ^ 64

theorem readNumeral?_eq_some {text : String} {n : Nat} :
    readNumeral? text = some n ↔ Denotes text n := by
  -- A digit is no plus sign, so a text is read in one way only.
  have digit {d : Nat} : d < 10 → d.digitChar ≠ '+' := by revert d; decide
  unfold readNumeral?
  rw [Option.filter_eq_some_iff, decide_eq_true_iff, Text.natural?_eq_some]
  constructor
  · rintro ⟨⟨digits, some, decimal, spelled, rfl⟩, lt⟩
    refine ⟨digits, some, decimal, ?_, rfl, lt⟩
    split at spelled
    next plus => exact .inr (spelled ▸ plus)
    · exact .inl spelled
  · rintro ⟨digits, some, decimal, spelled, rfl, lt⟩
    refine ⟨⟨digits, some, decimal, ?_, rfl⟩, lt⟩
    split
    next rest plus =>
      rcases spelled with spelled | spelled
      · obtain ⟨d, digits, rfl⟩ := List.exists_cons_of_ne_nil some
        have first : d.digitChar = '+' := (List.cons.inj (spelled.symm.trans plus)).1
        exact absurd first (digit (decimal d List.mem_cons_self))
      · exact (List.cons.inj (plus.symm.trans spelled)).2
    next unsigned => exact spelled.resolve_right (unsigned _)

/-! ## Choosing a limit -/

theorem Variable.text?_eq_some {v : Variable} {text : String} :
    v.text? = some text ↔ v = .text text := by
  cases v <;> simp [Variable.text?]

/-- The limit is `n`: the number that the text of its variable denotes, otherwise what a file sets,
otherwise the default. -/
inductive Chosen (v : Variable) (file? : Option Nat) (default : Nat) : Nat → Prop
  | byVariable {text : String} {n : Nat} (is : v = .text text) (denotes : Denotes text n) :
    Chosen v file? default n
  | byFile {n : Nat} (none : ∀ text n, v = .text text → ¬ Denotes text n) (is : file? = some n) :
    Chosen v file? default n
  | byDefault (none : ∀ text n, v = .text text → ¬ Denotes text n) (unset : file? = .none) :
    Chosen v file? default default

/-- A variable counts for nothing if it denotes no number. -/
theorem undenoted_iff {v : Variable} :
    (∀ text n, v = .text text → ¬ Denotes text n) ↔ v.text?.bind readNumeral? = none := by
  simp only [Option.eq_none_iff_forall_ne_some, ne_eq, Option.bind_eq_some_iff,
    readNumeral?_eq_some, Variable.text?_eq_some, not_exists, not_and]
  exact forall_comm

/-- What is chosen, as it is computed. -/
theorem chosen_iff {v : Variable} {file? : Option Nat} {default n : Nat} :
    Chosen v file? default n ↔
      n = (v.text?.bind readNumeral?).getD (file?.getD default) := by
  constructor
  · rintro (⟨rfl, denotes⟩ | ⟨none, is⟩ | ⟨none, unset⟩)
    · rw [Variable.text?, Option.bind_some, readNumeral?_eq_some.mpr denotes, Option.getD_some]
    · rw [undenoted_iff.mp none, is]; rfl
    · rw [undenoted_iff.mp none, unset]; rfl
  · rintro rfl
    cases reads : v.text?.bind readNumeral? with
    | some n =>
      obtain ⟨text, is, denotes⟩ := Option.bind_eq_some_iff.mp reads
      exact .byVariable (Variable.text?_eq_some.mp is) (readNumeral?_eq_some.mp denotes)
    | none =>
      cases file? with
      | some n => exact .byFile (undenoted_iff.mpr reads) rfl
      | none => exact .byDefault (undenoted_iff.mpr reads) rfl

namespace Environment

variable (read : String → Option Settings)

/-- The file that the environment names sets these limits: its text is there, and they are the
settings that are read in it. Where no file is named, none is set. -/
def FileSets (env : Environment) (s : Settings) : Prop :=
  match env.path with
  | .text path => ∃ content, env.contents path = some content ∧ read content = some s
  | .unset | .garbled => s = {}

/-- The limits that are chosen where the file sets some. -/
def Chooses (env : Environment) (s : Settings) (l : Limits) : Prop :=
  Chosen env.dispatchDepth s.dispatchDepth 128 l.dispatchDepth ∧
  Chosen env.extendedStates s.extendedStates 64 l.extendedStates

/-- The environment names a file whose text is not to be had. -/
def FileMissing (env : Environment) : Prop :=
  ∃ path, env.path = .text path ∧ env.contents path = none

/-- The environment names a file in whose text no settings are read. -/
def FileMalformed (env : Environment) : Prop :=
  ∃ path content, env.path = .text path ∧ env.contents path = some content ∧ read content = none

variable {read} {env : Environment}

theorem chooses_iff {s : Settings} {l : Limits} :
    env.Chooses s l ↔ l = (({} : Limits).override s).override env.settings := by
  rw [Chooses, chosen_iff, chosen_iff]
  obtain ⟨depth, states⟩ := l
  rw [Limits.mk.injEq]
  rfl

/-- Either there is no text of the file, or its text is no settings, or it sets some limits. -/
theorem file_cases (read : String → Option Settings) (env : Environment) :
    env.FileMissing ∨ env.FileMalformed read ∨ ∃ s, env.FileSets read s := by
  unfold FileMissing FileMalformed FileSets
  rcases env.path with _ | _ | path
  · exact .inr (.inr ⟨{}, rfl⟩)
  · exact .inr (.inr ⟨{}, rfl⟩)
  cases there : env.contents path with
  | none => exact .inl ⟨path, rfl, there⟩
  | some content =>
    cases reads : read content with
    | none => exact .inr (.inl ⟨path, content, rfl, there, reads⟩)
    | some s => exact .inr (.inr ⟨s, content, there, reads⟩)

theorem limits_of_missing (h : env.FileMissing) : env.limits read = .error .unreadable := by
  obtain ⟨path, named, missing⟩ := h
  rw [limits, named]
  simp only [Variable.text?, missing]
  rfl

theorem limits_of_malformed (h : env.FileMalformed read) :
    env.limits read = .error .malformed := by
  obtain ⟨path, content, named, there, malformed⟩ := h
  rw [limits, named]
  simp only [Variable.text?, there, Limits.ofFile, malformed]
  rfl

/-- Once the file has been read, only limits of zero can be refused. -/
theorem limits_of_sets {s : Settings} {l : Limits} (h : env.FileSets read s)
    (chosen : env.Chooses s l) : env.limits read = l.validate.map fun _ => l := by
  rw [chooses_iff.mp chosen]
  obtain ⟨_ | _ | path, depth, states, contents⟩ := env
  · cases h
    rfl
  · cases h
    rfl
  · obtain ⟨content, there, reads⟩ := h
    have there : contents path = some content := there
    simp only [limits, Variable.text?, there, Limits.ofFile, reads]
    rfl

theorem limits_eq_iff {result : Except ConfigError Limits} :
    env.limits read = result ↔
      env.FileMissing ∧ result = .error .unreadable ∨
      env.FileMalformed read ∧ result = .error .malformed ∨
      ∃ s l, env.FileSets read s ∧ env.Chooses s l ∧ result = l.validate.map fun _ => l := by
  constructor
  · rintro rfl
    rcases env.file_cases read with missing | malformed | ⟨s, sets⟩
    · exact .inl ⟨missing, limits_of_missing missing⟩
    · exact .inr (.inl ⟨malformed, limits_of_malformed malformed⟩)
    · have chosen := chooses_iff.mpr (rfl : _ = (({} : Limits).override s).override env.settings)
      exact .inr (.inr ⟨s, _, sets, chosen, limits_of_sets sets chosen⟩)
  · rintro (⟨missing, rfl⟩ | ⟨malformed, rfl⟩ | ⟨s, l, sets, chosen, rfl⟩)
    · exact limits_of_missing missing
    · exact limits_of_malformed malformed
    · exact limits_of_sets sets chosen

theorem ok_eq_validate {l l' : Limits} :
    Except.ok l' = l.validate.map (fun _ => l) ↔
      l' = l ∧ 1 ≤ l.dispatchDepth ∧ 1 ≤ l.extendedStates := by
  unfold Limits.validate
  split
  · simp [Except.map, *]
  · split
    · simp [Except.map, *]
    · simp [Except.map, Nat.one_le_iff_ne_zero, *]

theorem error_eq_validate {l : Limits} {e : ConfigError} :
    Except.error e = l.validate.map (fun _ => l) ↔
      l.dispatchDepth = 0 ∧ e = .zeroDispatchDepth ∨
      1 ≤ l.dispatchDepth ∧ l.extendedStates = 0 ∧ e = .zeroExtendedStates := by
  unfold Limits.validate
  split
  · simp [Except.map, *]
  · split
    · simp [Except.map, Nat.one_le_iff_ne_zero, *]
    · simp [Except.map, *]

/-- The environment gives limits just where the text of its file, if it names one, is there and is
read as settings, and none of the limits then chosen is zero. What is wrong with the file goes
before what is wrong with the limits. A variable that denotes no number is as good as none, also if
it is no text, and one that denotes a number other than zero makes up for a zero in the file. -/
theorem limits_spec (read : String → Option Settings) (env : Environment) :
    (∀ l, env.limits read = .ok l ↔
      ∃ s, env.FileSets read s ∧ env.Chooses s l ∧ 1 ≤ l.dispatchDepth ∧ 1 ≤ l.extendedStates) ∧
    (env.limits read = .error .unreadable ↔ env.FileMissing) ∧
    (env.limits read = .error .malformed ↔ env.FileMalformed read) ∧
    (env.limits read = .error .zeroDispatchDepth ↔
      ∃ s l, env.FileSets read s ∧ env.Chooses s l ∧ l.dispatchDepth = 0) ∧
    (env.limits read = .error .zeroExtendedStates ↔
      ∃ s l, env.FileSets read s ∧ env.Chooses s l ∧ 1 ≤ l.dispatchDepth ∧
        l.extendedStates = 0) ∧
    (∀ l, env.withoutFile = l ↔ env.Chooses {} l) ∧
    (∀ v : Variable, (∀ text n, v = .text text → ¬ Denotes text n) →
      { env with dispatchDepth := v }.limits read =
        { env with dispatchDepth := .unset }.limits read ∧
      { env with extendedStates := v }.limits read =
        { env with extendedStates := .unset }.limits read) ∧
    (∀ text n, Denotes text n → 1 ≤ n →
      { env with dispatchDepth := .text text }.limits read ≠ .error .zeroDispatchDepth ∧
      { env with extendedStates := .text text }.limits read ≠ .error .zeroExtendedStates) := by
  refine ⟨fun l => ?_, ?_, ?_, ?_, ?_, fun l => ?_, fun v undenoted => ?_,
    fun text n denotes positive => ?_⟩
  · simp only [limits_eq_iff, ok_eq_validate, reduceCtorEq, and_false, false_or]
    constructor
    · rintro ⟨s, l, sets, chosen, rfl, positive⟩
      exact ⟨s, sets, chosen, positive⟩
    · rintro ⟨s, sets, chosen, positive⟩
      exact ⟨s, l, sets, chosen, rfl, positive⟩
  · simp [limits_eq_iff, error_eq_validate]
  · simp [limits_eq_iff, error_eq_validate]
  · simp [limits_eq_iff, error_eq_validate]
  · simp [limits_eq_iff, error_eq_validate]
  · exact eq_comm.trans (chooses_iff : env.Chooses {} l ↔ _).symm
  · have ignored : v.text?.bind readNumeral? = none := undenoted_iff.mp undenoted
    have unset : Variable.unset.text?.bind readNumeral? = none := rfl
    constructor <;> simp only [limits, settings, ignored, unset]
  · have counts : readNumeral? text = some n := readNumeral?_eq_some.mpr denotes
    constructor <;>
      simp [limits_eq_iff, error_eq_validate, Chooses, chosen_iff, Variable.text?, counts] <;> omega

/-! ## A zero in the file, and a variable that is no numeral -/

namespace Rescued

def text : String := "max_dispatch_depth: 0\nmax_extended_states: 3\n"

/-- The settings of this one text. -/
def reader (content : String) : Option Settings :=
  if content = text then some { dispatchDepth := some 0, extendedStates := some 3 } else none

def environment : Environment where
  path := .text "limits.yaml"
  dispatchDepth := .text "+7"
  extendedStates := .text "many"
  contents path := if path = "limits.yaml" then some text else none

end Rescued

theorem limits_spec_rescued :
    Rescued.environment.limits Rescued.reader = .ok { dispatchDepth := 7, extendedStates := 3 } ∧
    { Rescued.environment with extendedStates := .garbled }.limits Rescued.reader =
      { Rescued.environment with extendedStates := .unset }.limits Rescued.reader ∧
    { Rescued.environment with dispatchDepth := .text "+7" }.limits Rescued.reader ≠
      .error .zeroDispatchDepth := by
  obtain ⟨given, -, -, -, -, -, undenoted, rescues⟩ :=
    limits_spec Rescued.reader Rescued.environment
  have seven : Denotes "+7" 7 := ⟨[7], by decide, by decide, .inr rfl, rfl, by decide⟩
  have many : ∀ text n, Rescued.environment.extendedStates = .text text → ¬ Denotes text n :=
    undenoted_iff.mpr rfl
  have sets : Rescued.environment.FileSets Rescued.reader
      { dispatchDepth := some 0, extendedStates := some 3 } := ⟨Rescued.text, rfl, rfl⟩
  have chooses : Rescued.environment.Chooses { dispatchDepth := some 0, extendedStates := some 3 }
      { dispatchDepth := 7, extendedStates := 3 } := ⟨.byVariable rfl seven, .byFile many rfl⟩
  refine ⟨(given _).mpr ⟨_, sets, chooses, by decide, by decide⟩, ?_, ?_⟩
  · exact (undenoted .garbled fun _ _ none => nomatch none).2
  · exact (rescues "+7" 7 seven (by decide)).1

end Environment

end RuleMachine
