import LexicalFrontEnd.Command.Options
import Mathlib.Data.List.Basic
import Mathlib.Data.List.Induction
import Mathlib.Data.Nat.Digits.Defs

/-!
Which arguments the listing command takes.

An argument is good for what it is, except that only the first one that is no option is
a path.  If all arguments are good and one is a path, the options are that path and
what the last of each flag gives; otherwise the first argument that is not good decides
the error (`parse_grammar`).  The arguments are taken from left to right (`Given.take`),
so all of this is proved by adding one argument at the end.
-/

namespace LexicalFrontEnd
namespace Output
namespace ColorMode

def name : ColorMode → String
  | auto => "auto"
  | always => "always"
  | never => "never"

theorem ofName?_eq_some_iff {text : String} {mode : ColorMode} :
    ofName? text = some mode ↔ text = mode.name := by
  constructor
  · intro h
    rw [ofName?] at h
    repeat' split at h
    all_goals cases h
    all_goals assumption
  · rintro rfl
    cases mode <;> rfl

end ColorMode
end Output

namespace Command
namespace Options

open Output (ColorMode)

/-! ## Good arguments -/

def capacityFlag : String := "--buffer-size="

def colorFlag : String := "--color="

def HasFlag (flag argument : String) : Prop := ∃ text, argument = flag ++ text

/-- The argument is none of the flags, nor anything else that starts with a hyphen. -/
def IsPath (argument : String) : Prop :=
  ¬HasFlag capacityFlag argument ∧ ¬HasFlag colorFlag argument ∧
    argument.toList.head? ≠ some '-'

/-- The text has decimal digits only, with or without a plus sign before them, and they are
those of `n`, which fits a word of 64 bits and is not zero. -/
def IsCapacity (text : String) (n : Nat) : Prop :=
  ∃ digits : List Char, digits ≠ [] ∧ (text.toList = digits ∨ text.toList = '+' :: digits) ∧
    (∀ c ∈ digits, '0' ≤ c ∧ c ≤ '9') ∧
    n = Nat.ofDigits 10 (digits.reverse.map fun c => c.toNat - '0'.toNat) ∧
    1 ≤ n ∧ n < UInt64.size

inductive Good (before : List String) : String → Prop
  | capacity {text : String} {n : Nat} : IsCapacity text n → Good before (capacityFlag ++ text)
  | color (mode : ColorMode) : Good before (colorFlag ++ mode.name)
  | path {argument : String} :
    IsPath argument → (∀ earlier ∈ before, ¬IsPath earlier) → Good before argument

def AllGood (arguments : List String) : Prop :=
  ∀ before argument after, arguments = before ++ argument :: after → Good before argument

/-- The value that the last argument with the flag gives, or the usual one if there is no
such argument. -/
def LastGiven {α : Type} (flag : String) (Gives : String → α → Prop) (usual : α)
    (arguments : List String) (value : α) : Prop :=
  (∃ before text after, arguments = before ++ (flag ++ text) :: after ∧ Gives text value ∧
    ∀ argument ∈ after, ¬HasFlag flag argument) ∨
  ((∀ argument ∈ arguments, ¬HasFlag flag argument) ∧ value = usual)

structure Grant (arguments : List String) (options : Options) : Prop where
  good : AllGood arguments
  path : options.path ∈ arguments ∧ IsPath options.path
  capacity :
    LastGiven capacityFlag IsCapacity Source.Buffer.defaultCapacity arguments options.capacity
  color : LastGiven colorFlag (fun text mode => text = mode.name) .auto arguments options.color

inductive Blame : String → Error → Prop
  | capacity (text : String) : Blame (capacityFlag ++ text) (.badCapacity text)
  | color (name : String) : Blame (colorFlag ++ name) (.unknownColor name)
  | option {argument : String} : ¬HasFlag capacityFlag argument → ¬HasFlag colorFlag argument →
    Blame argument (.unknownOption argument)

/-- The first argument that is not good gives the error, or the arguments lack a path. -/
inductive Refuse (arguments : List String) : Error → Prop
  | offender {before : List String} {argument : String} {after : List String} {e : Error} :
    arguments = before ++ argument :: after → AllGood before → ¬Good before argument →
    Blame argument e → Refuse arguments e
  | pathless : AllGood arguments → (∀ argument ∈ arguments, ¬IsPath argument) →
    Refuse arguments (.missingArgument "file path")

/-! ## One argument -/

theorem not_hasFlag_color_of_capacity {argument : String} (h : HasFlag capacityFlag argument) :
    ¬HasFlag colorFlag argument := by
  obtain ⟨text, rfl⟩ := h
  rintro ⟨name, h⟩
  have hthird := congrArg (fun s : String => s.toList[2]?) h
  simp only [String.toList_append] at hthird
  exact absurd hthird (by simp [capacityFlag, colorFlag])

theorem digitsValue_eq (digits : List Char) :
    digitsValue digits =
      Nat.ofDigits 10 (digits.reverse.map fun c => c.toNat - '0'.toNat) := by
  rw [Nat.ofDigits_eq_foldr, List.foldr_map, List.foldr_reverse, digitsValue]
  congr 1
  funext n c
  exact Nat.add_comm _ _

theorem capacity?_digits (text : List Char) :
    ∃ digits, (text = digits ∧ text.head? ≠ some '+' ∨ text = '+' :: digits) ∧
      capacity? text =
        if digits.all Lexeme.Number.isDecimal ∧ 0 < digitsValue digits ∧
          digitsValue digits < UInt64.size then some (digitsValue digits) else none := by
  unfold capacity?
  split
  · rename_i rest
    exact ⟨rest, Or.inr rfl, rfl⟩
  · rename_i hplus
    refine ⟨text, Or.inl ⟨rfl, fun h => ?_⟩, rfl⟩
    obtain ⟨rest, rfl⟩ := List.head?_eq_some_iff.mp h
    exact hplus rest rfl

theorem all_isDecimal_iff {digits : List Char} :
    digits.all Lexeme.Number.isDecimal = true ↔ ∀ c ∈ digits, '0' ≤ c ∧ c ≤ '9' := by
  simp only [List.all_eq_true, Lexeme.Number.isDecimal, Bool.and_eq_true, decide_eq_true_eq]

theorem capacity?_eq_some_iff {text : String} {n : Nat} :
    capacity? text.toList = some n ↔ IsCapacity text n := by
  obtain ⟨digits, htext, hcapacity⟩ := capacity?_digits text.toList
  rw [hcapacity, Option.ite_none_right_eq_some, Option.some.injEq]
  constructor
  · rintro ⟨⟨hdecimal, hpos, hlt⟩, rfl⟩
    refine ⟨digits, ?_, htext.imp_left And.left, all_isDecimal_iff.mp hdecimal,
      digitsValue_eq digits, hpos, hlt⟩
    rintro rfl
    exact absurd hpos (by decide)
  · rintro ⟨digits', -, htext', hdecimal, hvalue, hpos, hlt⟩
    obtain rfl : digits = digits' := by
      rcases htext with ⟨htext, hplus⟩ | htext <;> rcases htext' with htext' | htext'
      · exact htext.symm.trans htext'
      · rw [htext'] at hplus
        exact absurd rfl hplus
      · -- A plus sign is no digit.
        rw [← htext', htext] at hdecimal
        exact absurd (hdecimal '+' List.mem_cons_self) (by decide)
      · exact (List.cons.inj (htext.symm.trans htext')).2
    rw [← digitsValue_eq] at hvalue
    exact ⟨⟨all_isDecimal_iff.mpr hdecimal, hvalue ▸ hpos, hvalue ▸ hlt⟩, hvalue.symm⟩

theorem isPrefixOf?_eq_some_iff {flag argument : String} {rest : List Char} :
    flag.toList.isPrefixOf? argument.toList = some rest ↔
      argument = flag ++ String.ofList rest := by
  rw [List.isPrefixOf?_eq_some_iff_append_eq, ← String.toList_inj, String.toList_append,
    String.toList_ofList, eq_comm]

theorem isPrefixOf?_eq_none_iff {flag argument : String} :
    flag.toList.isPrefixOf? argument.toList = none ↔ ¬HasFlag flag argument := by
  constructor
  · rintro h ⟨text, rfl⟩
    rw [isPrefixOf?_eq_some_iff.mpr (by rw [String.ofList_toList])] at h
    cases h
  · intro h
    rw [Option.eq_none_iff_forall_ne_some]
    intro rest hrest
    exact h ⟨_, isPrefixOf?_eq_some_iff.mp hrest⟩

/-- An argument is read as what it is. -/
theorem ofString_cases (argument : String) :
    (∃ text, argument = capacityFlag ++ text ∧
      Argument.ofString argument = .capacity text.toList) ∨
    (∃ name, argument = colorFlag ++ name ∧ Argument.ofString argument = .color name) ∨
    (¬HasFlag capacityFlag argument ∧ ¬HasFlag colorFlag argument ∧
      Argument.ofString argument = .other argument) := by
  rw [Argument.ofString]
  cases hcapacity : "--buffer-size=".toList.isPrefixOf? argument.toList with
  | some rest =>
    refine Or.inl ⟨String.ofList rest, isPrefixOf?_eq_some_iff.mp hcapacity, ?_⟩
    exact congrArg Argument.capacity String.toList_ofList.symm
  | none =>
    cases hcolor : "--color=".toList.isPrefixOf? argument.toList with
    | some rest => exact Or.inr (Or.inl ⟨_, isPrefixOf?_eq_some_iff.mp hcolor, rfl⟩)
    | none =>
      exact Or.inr (Or.inr ⟨isPrefixOf?_eq_none_iff.mp hcapacity,
        isPrefixOf?_eq_none_iff.mp hcolor, rfl⟩)

/-! ## Arguments from left to right -/

structure Given where
  path? : Option String
  color : ColorMode
  capacity : Nat

namespace Given

def start : Given := ⟨none, .auto, Source.Buffer.defaultCapacity⟩

def step (g : Given) (argument : String) : Except Error Given :=
  match Argument.ofString argument with
  | .capacity text =>
    match capacity? text with
    | some capacity => .ok { g with capacity }
    | none => .error (.badCapacity (String.ofList text))
  | .color name =>
    match ColorMode.ofName? name with
    | some color => .ok { g with color }
    | none => .error (.unknownColor name)
  | .other text =>
    if text.toList.head? = some '-' ∨ g.path?.isSome then .error (.unknownOption text)
    else .ok { g with path? := some text }

def take (g : Given) (arguments : List String) : Except Error Given := arguments.foldlM step g

def finish (g : Given) : Except Error Options :=
  match g.path? with
  | some path => .ok ⟨path, g.color, g.capacity⟩
  | none => .error (.missingArgument "file path")

theorem parseFrom_eq (g : Given) (arguments : List String) :
    parseFrom g.path? g.color g.capacity arguments = g.take arguments >>= finish := by
  induction arguments generalizing g with
  | nil => rfl
  | cons argument rest ih =>
    rw [parseFrom, take, List.foldlM_cons, step]
    cases Argument.ofString argument with
    | capacity text =>
      dsimp only
      cases capacity? text with
      | some capacity => exact ih { g with capacity }
      | none => rfl
    | color name =>
      dsimp only
      cases ColorMode.ofName? name with
      | some color => exact ih { g with color }
      | none => rfl
    | other text =>
      by_cases h : text.toList.head? = some '-' ∨ g.path?.isSome
      · simp only [if_pos h]
        rfl
      · simp only [if_neg h]
        exact ih { g with path? := some text }

theorem take_concat (g : Given) (arguments : List String) (argument : String) :
    g.take (arguments ++ [argument]) = g.take arguments >>= (step · argument) := by
  rw [take, List.foldlM_append]
  simp only [List.foldlM_cons, List.foldlM_nil, bind_pure]
  rfl

/-- All that one more argument can come to. -/
theorem step_cases (g : Given) (argument : String) :
    (∃ text n, argument = capacityFlag ++ text ∧ IsCapacity text n ∧
      g.step argument = .ok { g with capacity := n }) ∨
    (∃ mode, argument = colorFlag ++ ColorMode.name mode ∧
      g.step argument = .ok { g with color := mode }) ∨
    (IsPath argument ∧ g.path? = none ∧
      g.step argument = .ok { g with path? := some argument }) ∨
    (∃ e, g.step argument = .error e ∧ Blame argument e ∧
      (∀ text n, argument = capacityFlag ++ text → ¬IsCapacity text n) ∧
      (∀ mode, argument ≠ colorFlag ++ ColorMode.name mode) ∧
      (IsPath argument → g.path? ≠ none)) := by
  rcases ofString_cases argument with ⟨text, rfl, hread⟩ | ⟨name, rfl, hread⟩ |
    ⟨hcapacity, hcolor, hread⟩
  · have hflag : HasFlag capacityFlag (capacityFlag ++ text) := ⟨text, rfl⟩
    rw [step, hread]
    dsimp only
    cases hvalue : capacity? text.toList with
    | some n => exact Or.inl ⟨text, n, rfl, capacity?_eq_some_iff.mp hvalue, rfl⟩
    | none =>
      refine Or.inr (Or.inr (Or.inr ⟨_, rfl, ?_, ?_, ?_, ?_⟩))
      · rw [String.ofList_toList]
        exact .capacity text
      · intro text' n htext hn
        obtain rfl := String.append_right_inj _ |>.mp htext
        rw [capacity?_eq_some_iff.mpr hn] at hvalue
        cases hvalue
      · exact fun mode h => not_hasFlag_color_of_capacity hflag ⟨_, h⟩
      · exact fun hpath => absurd hflag hpath.1
  · have hflag : HasFlag colorFlag (colorFlag ++ name) := ⟨name, rfl⟩
    rw [step, hread]
    dsimp only
    cases hvalue : ColorMode.ofName? name with
    | some mode =>
      obtain rfl := ColorMode.ofName?_eq_some_iff.mp hvalue
      exact Or.inr (Or.inl ⟨mode, rfl, rfl⟩)
    | none =>
      refine Or.inr (Or.inr (Or.inr ⟨_, rfl, .color name, ?_, ?_, ?_⟩))
      · exact fun text n h _ => not_hasFlag_color_of_capacity ⟨text, h⟩ hflag
      · intro mode h
        rw [ColorMode.ofName?_eq_some_iff.mpr (String.append_right_inj _ |>.mp h)] at hvalue
        cases hvalue
      · exact fun hpath => absurd hflag hpath.2.1
  · rw [step, hread]
    dsimp only
    by_cases hrefused : argument.toList.head? = some '-' ∨ g.path?.isSome
    · rw [if_pos hrefused]
      refine Or.inr (Or.inr (Or.inr ⟨_, rfl, .option hcapacity hcolor, ?_, ?_, ?_⟩))
      · exact fun text n h => absurd ⟨text, h⟩ hcapacity
      · exact fun mode h => hcolor ⟨_, h⟩
      · intro hpath hnone
        rw [hnone] at hrefused
        exact hpath.2.2 (hrefused.resolve_right Bool.false_ne_true)
    · rw [if_neg hrefused]
      rw [not_or, Option.isSome_iff_ne_none, not_not] at hrefused
      exact Or.inr (Or.inr (Or.inl ⟨⟨hcapacity, hcolor, hrefused.1⟩, hrefused.2, rfl⟩))

end Given

/-! ## One more argument -/

section Concat

variable {α : Type} {flag : String} {Gives : String → α → Prop} {usual value value' : α}
  {arguments : List String} {argument : String}

theorem concat_eq_split_iff {before after : List String} {x : String} :
    arguments ++ [argument] = before ++ x :: after ↔
      (after = [] ∧ arguments = before ∧ argument = x) ∨
      ∃ rest, after = rest ++ [argument] ∧ arguments = before ++ x :: rest := by
  rcases List.eq_nil_or_concat' after with rfl | ⟨rest, last, rfl⟩
  · rw [List.append_singleton_inj]
    constructor
    · exact fun h => Or.inl ⟨rfl, h⟩
    · rintro (⟨-, h⟩ | ⟨rest, hrest, -⟩)
      · exact h
      · exact absurd hrest.symm (List.concat_ne_nil _ _)
  · rw [← List.cons_append, ← List.append_assoc, List.append_singleton_inj]
    constructor
    · rintro ⟨rfl, rfl⟩
      exact Or.inr ⟨rest, rfl, rfl⟩
    · rintro (⟨hnil, -⟩ | ⟨rest', hrest, rfl⟩)
      · exact absurd hnil (List.concat_ne_nil _ _)
      · obtain ⟨rfl, rfl⟩ := List.append_singleton_inj.mp hrest
        exact ⟨rfl, rfl⟩

theorem allGood_concat :
    AllGood (arguments ++ [argument]) ↔ AllGood arguments ∧ Good arguments argument := by
  constructor
  · intro h
    refine ⟨fun before x after hsplit => ?_, h _ _ [] rfl⟩
    exact h before x (after ++ [argument]) (concat_eq_split_iff.mpr (Or.inr ⟨after, rfl, hsplit⟩))
  · rintro ⟨hgood, hlast⟩ before x after hsplit
    rcases concat_eq_split_iff.mp hsplit with ⟨-, rfl, rfl⟩ | ⟨rest, -, hrest⟩
    · exact hlast
    · exact hgood before x rest hrest

theorem lastGiven_nil : LastGiven flag Gives usual [] value ↔ value = usual := by
  constructor
  · rintro (⟨before, text, after, hsplit, -⟩ | ⟨-, h⟩)
    · exact absurd hsplit.symm (List.append_ne_nil_of_right_ne_nil _ (List.cons_ne_nil _ _))
    · exact h
  · exact fun h => Or.inr ⟨fun x hx => absurd hx List.not_mem_nil, h⟩

theorem lastGiven_concat :
    LastGiven flag Gives usual (arguments ++ [argument]) value ↔
      (∃ text, argument = flag ++ text ∧ Gives text value) ∨
      (¬HasFlag flag argument ∧ LastGiven flag Gives usual arguments value) := by
  constructor
  · rintro (⟨before, text, after, hsplit, hgives, hafter⟩ | ⟨hnone, h⟩)
    · rcases concat_eq_split_iff.mp hsplit with ⟨-, -, h⟩ | ⟨rest, rfl, hrest⟩
      · exact Or.inl ⟨text, h, hgives⟩
      · rw [List.forall_mem_append, List.forall_mem_singleton] at hafter
        exact Or.inr ⟨hafter.2, Or.inl ⟨before, text, rest, hrest, hgives, hafter.1⟩⟩
    · rw [List.forall_mem_append, List.forall_mem_singleton] at hnone
      exact Or.inr ⟨hnone.2, Or.inr ⟨hnone.1, h⟩⟩
  · rintro (⟨text, rfl, hgives⟩ | ⟨hflag, ⟨before, text, after, rfl, hgives, hafter⟩ | ⟨hnone, h⟩⟩)
    · exact Or.inl ⟨arguments, text, [], rfl, hgives, fun x hx => absurd hx List.not_mem_nil⟩
    · refine Or.inl ⟨before, text, after ++ [argument], ?_, hgives, ?_⟩
      · rw [List.append_assoc, List.cons_append]
      · rw [List.forall_mem_append, List.forall_mem_singleton]
        exact ⟨hafter, hflag⟩
    · refine Or.inr ⟨?_, h⟩
      rw [List.forall_mem_append, List.forall_mem_singleton]
      exact ⟨hnone, hflag⟩

theorem LastGiven.unique (hgives : ∀ text v v', Gives text v → Gives text v' → v = v')
    (h : LastGiven flag Gives usual arguments value)
    (h' : LastGiven flag Gives usual arguments value') : value = value' := by
  induction arguments using List.reverseRecOn with
  | nil => exact (lastGiven_nil.mp h).trans (lastGiven_nil.mp h').symm
  | append_singleton arguments argument ih =>
    rcases lastGiven_concat.mp h with ⟨text, rfl, hv⟩ | ⟨hflag, h⟩ <;>
      rcases lastGiven_concat.mp h' with ⟨text', htext, hv'⟩ | ⟨hflag', h'⟩
    · obtain rfl := (String.append_right_inj _).mp htext
      exact hgives _ _ _ hv hv'
    · exact absurd ⟨text, rfl⟩ hflag'
    · exact absurd ⟨text', htext⟩ hflag
    · exact ih h h'

end Concat

/-! ## All arguments -/

structure Holds (arguments : List String) (g : Given) : Prop where
  good : AllGood arguments
  path : ∀ argument, g.path? = some argument ↔ argument ∈ arguments ∧ IsPath argument
  capacity : LastGiven capacityFlag IsCapacity Source.Buffer.defaultCapacity arguments g.capacity
  color : LastGiven colorFlag (fun text mode => text = mode.name) .auto arguments g.color

theorem holds_start : Holds [] .start where
  good before argument after h :=
    absurd h.symm (List.append_ne_nil_of_right_ne_nil _ (List.cons_ne_nil _ _))
  path argument := by simp [Given.start]
  capacity := lastGiven_nil.mpr rfl
  color := lastGiven_nil.mpr rfl

section

variable {arguments : List String} {argument : String} {g : Given}

theorem Holds.path?_eq_none_iff (h : Holds arguments g) :
    g.path? = none ↔ ∀ argument ∈ arguments, ¬IsPath argument := by
  rw [Option.eq_none_iff_forall_ne_some]
  exact forall_congr' fun argument => (not_congr (h.path argument)).trans not_and

theorem mem_concat_and_isPath_iff (h : ¬IsPath argument) {x : String} :
    x ∈ arguments ++ [argument] ∧ IsPath x ↔ x ∈ arguments ∧ IsPath x := by
  rw [List.mem_append, List.mem_singleton]
  constructor
  · rintro ⟨hmem | rfl, hx⟩
    · exact ⟨hmem, hx⟩
    · exact absurd hx h
  · exact fun hx => ⟨Or.inl hx.1, hx.2⟩

/-- One more argument is taken if it is good behind the ones before, and otherwise refused
with its error. -/
theorem Holds.step (h : Holds arguments g) (argument : String) :
    (∃ next, g.step argument = .ok next ∧ Holds (arguments ++ [argument]) next) ∨
    (∃ e, g.step argument = .error e ∧ Blame argument e ∧ ¬Good arguments argument) := by
  rcases g.step_cases argument with ⟨text, n, rfl, hn, hstep⟩ | ⟨mode, rfl, hstep⟩ |
    ⟨hpath, hnone, hstep⟩ | ⟨e, hstep, hblame, hcapacity, hcolor, hpath⟩
  · have hflag : HasFlag capacityFlag (capacityFlag ++ text) := ⟨text, rfl⟩
    refine Or.inl ⟨_, hstep, allGood_concat.mpr ⟨h.good, .capacity hn⟩, fun x => ?_, ?_, ?_⟩
    · rw [mem_concat_and_isPath_iff fun hpath => hpath.1 hflag]
      exact h.path x
    · exact lastGiven_concat.mpr (Or.inl ⟨text, rfl, hn⟩)
    · exact lastGiven_concat.mpr (Or.inr ⟨not_hasFlag_color_of_capacity hflag, h.color⟩)
  · have hflag : HasFlag colorFlag (colorFlag ++ mode.name) := ⟨_, rfl⟩
    refine Or.inl ⟨_, hstep, allGood_concat.mpr ⟨h.good, .color mode⟩, fun x => ?_, ?_, ?_⟩
    · rw [mem_concat_and_isPath_iff fun hpath => hpath.2.1 hflag]
      exact h.path x
    · refine lastGiven_concat.mpr (Or.inr ⟨fun hother => ?_, h.capacity⟩)
      exact not_hasFlag_color_of_capacity hother hflag
    · exact lastGiven_concat.mpr (Or.inl ⟨_, rfl, rfl⟩)
  · have hearlier := h.path?_eq_none_iff.mp hnone
    refine Or.inl ⟨_, hstep, allGood_concat.mpr ⟨h.good, .path hpath hearlier⟩, fun x => ?_, ?_, ?_⟩
    · rw [Option.some.injEq, List.mem_append, List.mem_singleton]
      constructor
      · rintro rfl
        exact ⟨Or.inr rfl, hpath⟩
      · rintro ⟨hmem | rfl, hx⟩
        · exact absurd hx (hearlier x hmem)
        · rfl
    · exact lastGiven_concat.mpr (Or.inr ⟨hpath.1, h.capacity⟩)
    · exact lastGiven_concat.mpr (Or.inr ⟨hpath.2.1, h.color⟩)
  · refine Or.inr ⟨e, hstep, hblame, fun hgood => ?_⟩
    cases hgood with
    | capacity hn => exact hcapacity _ _ rfl hn
    | color mode => exact hcolor mode rfl
    | path hx hearlier => exact hpath hx (h.path?_eq_none_iff.mpr hearlier)

end

/-- All arguments are taken, or the first that is not good is refused. -/
theorem take_cases (arguments : List String) :
    (∃ g, Given.start.take arguments = .ok g ∧ Holds arguments g) ∨
    (∃ e before argument after, Given.start.take arguments = .error e ∧
      arguments = before ++ argument :: after ∧ AllGood before ∧ ¬Good before argument ∧
      Blame argument e) := by
  induction arguments using List.reverseRecOn with
  | nil => exact Or.inl ⟨.start, rfl, holds_start⟩
  | append_singleton arguments argument ih =>
    rw [Given.take_concat]
    rcases ih with ⟨g, htake, hholds⟩ | ⟨e, before, x, after, htake, rfl, hgood, hbad, hblame⟩
    · rw [htake]
      rcases hholds.step argument with ⟨next, hstep, hnext⟩ | ⟨e, hstep, hblame, hbad⟩
      · exact Or.inl ⟨next, hstep, hnext⟩
      · exact Or.inr ⟨e, arguments, argument, [], hstep, rfl, hholds.good, hbad, hblame⟩
    · rw [htake]
      refine Or.inr ⟨e, before, x, after ++ [argument], rfl, ?_, hgood, hbad, hblame⟩
      rw [List.append_assoc, List.cons_append]

theorem parse_eq (arguments : List String) :
    parse arguments = Given.start.take arguments >>= Given.finish :=
  Given.start.parseFrom_eq arguments

theorem parse_cases (arguments : List String) :
    (∃ options, parse arguments = .ok options ∧ Grant arguments options) ∨
    (∃ e, parse arguments = .error e ∧ Refuse arguments e) := by
  rw [parse_eq]
  rcases take_cases arguments with ⟨g, htake, hholds⟩ |
    ⟨e, before, argument, after, htake, hsplit, hgood, hbad, hblame⟩
  · rw [htake]
    show (∃ options, g.finish = _ ∧ _) ∨ (∃ e, g.finish = _ ∧ _)
    rw [Given.finish]
    cases hpath : g.path? with
    | some path =>
      exact Or.inl ⟨_, rfl, hholds.good, (hholds.path path).mp hpath, hholds.capacity, hholds.color⟩
    | none =>
      exact Or.inr ⟨_, rfl, .pathless hholds.good (hholds.path?_eq_none_iff.mp hpath)⟩
  · rw [htake]
    exact Or.inr ⟨e, rfl, .offender hsplit hgood hbad hblame⟩

/-! ## One answer -/

theorem isCapacity_unique (text : String) (n n' : Nat) (h : IsCapacity text n)
    (h' : IsCapacity text n') : n = n' := by
  rw [← capacity?_eq_some_iff] at h h'
  exact Option.some.inj (h.symm.trans h')

theorem name_unique (text : String) (mode mode' : ColorMode) (h : text = mode.name)
    (h' : text = mode'.name) : mode = mode' := by
  rw [← ColorMode.ofName?_eq_some_iff] at h h'
  exact Option.some.inj (h.symm.trans h')

theorem Blame.unique {argument : String} {e e' : Error} (h : Blame argument e)
    (h' : Blame argument e') : e = e' := by
  generalize hsame : argument = argument' at h'
  cases h with
  | capacity text =>
    have hflag : HasFlag capacityFlag (capacityFlag ++ text) := ⟨text, rfl⟩
    cases h' with
    | capacity text' => rw [(String.append_right_inj _).mp hsame]
    | color name => exact absurd ⟨name, hsame⟩ (not_hasFlag_color_of_capacity hflag)
    | option hcapacity _ => exact absurd (hsame ▸ hflag) hcapacity
  | color name =>
    have hflag : HasFlag colorFlag (colorFlag ++ name) := ⟨name, rfl⟩
    cases h' with
    | capacity text => exact absurd hflag (not_hasFlag_color_of_capacity ⟨text, hsame⟩)
    | color name' => rw [(String.append_right_inj _).mp hsame]
    | option _ hcolor => exact absurd (hsame ▸ hflag) hcolor
  | option hcapacity hcolor =>
    cases h' with
    | capacity text => exact absurd ⟨text, hsame⟩ hcapacity
    | color name => exact absurd ⟨name, hsame⟩ hcolor
    | option _ _ => rw [hsame]

section

variable {arguments : List String} {options : Options} {e : Error}

theorem AllGood.exists_holds (h : AllGood arguments) :
    ∃ g, Given.start.take arguments = .ok g ∧ Holds arguments g := by
  rcases take_cases arguments with hholds | ⟨e, before, argument, after, -, hsplit, -, hbad, -⟩
  · exact hholds
  · exact absurd (h before argument after hsplit) hbad

theorem parse_of_grant (h : Grant arguments options) : parse arguments = .ok options := by
  obtain ⟨g, htake, hholds⟩ := h.good.exists_holds
  have hpath : g.path? = some options.path := (hholds.path _).mpr h.path
  have hcapacity : g.capacity = options.capacity :=
    hholds.capacity.unique isCapacity_unique h.capacity
  have hcolor : g.color = options.color := hholds.color.unique name_unique h.color
  rw [parse_eq, htake]
  show g.finish = _
  rw [Given.finish, hpath, hcapacity, hcolor]

theorem take_of_offender {before : List String} {argument : String} (after : List String)
    (hgood : AllGood before) (hbad : ¬Good before argument) (hblame : Blame argument e) :
    Given.start.take (before ++ argument :: after) = .error e := by
  obtain ⟨g, htake, hholds⟩ := hgood.exists_holds
  have hstep : g.step argument = .error e := by
    rcases hholds.step argument with ⟨next, -, hnext⟩ | ⟨e', hstep, hblame', -⟩
    · exact absurd (allGood_concat.mp hnext.good).2 hbad
    · rwa [hblame.unique hblame']
  rw [Given.take] at htake ⊢
  rw [List.foldlM_append, htake]
  show List.foldlM _ g _ = _
  rw [List.foldlM_cons, hstep]
  rfl

theorem parse_of_refuse (h : Refuse arguments e) : parse arguments = .error e := by
  rw [parse_eq]
  cases h with
  | offender hsplit hgood hbad hblame =>
    rw [hsplit, take_of_offender _ hgood hbad hblame]
    rfl
  | pathless hgood hnone =>
    obtain ⟨g, htake, hholds⟩ := hgood.exists_holds
    rw [htake]
    show g.finish = _
    rw [Given.finish, hholds.path?_eq_none_iff.mpr hnone]

end

/-! ## The place of the path -/

/-- An argument that is no path is taken alike before and behind one. -/
theorem Given.step_withPath {argument : String} (h : ¬IsPath argument) (path : String)
    (g : Given) (hnone : g.path? = none) :
    (∃ next, g.step argument = .ok next ∧ next.path? = none ∧
      Given.step { g with path? := some path } argument =
        .ok { next with path? := some path }) ∨
    (∃ e, g.step argument = .error e ∧
      Given.step { g with path? := some path } argument = .error e) := by
  rcases ofString_cases argument with ⟨text, -, hread⟩ | ⟨name, -, hread⟩ |
    ⟨hcapacity, hcolor, hread⟩
  · rw [step, step, hread]
    dsimp only
    cases capacity? text.toList with
    | some n => exact Or.inl ⟨_, rfl, hnone, rfl⟩
    | none => exact Or.inr ⟨_, rfl, rfl⟩
  · rw [step, step, hread]
    dsimp only
    cases ColorMode.ofName? name with
    | some mode => exact Or.inl ⟨_, rfl, hnone, rfl⟩
    | none => exact Or.inr ⟨_, rfl, rfl⟩
  · have hhyphen : argument.toList.head? = some '-' :=
      not_not.mp fun hhead => h ⟨hcapacity, hcolor, hhead⟩
    rw [step, step, hread]
    dsimp only
    rw [if_pos (Or.inl hhyphen), if_pos (Or.inl hhyphen)]
    exact Or.inr ⟨_, rfl, rfl⟩

theorem Given.take_path {path : String} (hpath : IsPath path) {front : List String}
    (hfront : ∀ argument ∈ front, ¬IsPath argument) (back : List String) (g : Given)
    (hnone : g.path? = none) :
    g.take (front ++ path :: back) =
      Given.take { g with path? := some path } (front ++ back) := by
  induction front generalizing g with
  | nil =>
    rcases g.step_cases path with ⟨text, -, rfl, -⟩ | ⟨mode, rfl, -⟩ | ⟨-, -, hstep⟩ |
      ⟨_, -, -, -, -, hbad⟩
    · exact absurd ⟨_, rfl⟩ hpath.1
    · exact absurd ⟨_, rfl⟩ hpath.2.1
    · rw [List.nil_append, take, List.foldlM_cons, hstep]
      rfl
    · exact absurd hnone (hbad hpath)
  | cons argument front ih =>
    rw [List.forall_mem_cons] at hfront
    rw [List.cons_append, List.cons_append, take, take, List.foldlM_cons, List.foldlM_cons]
    rcases g.step_withPath hfront.1 path hnone with ⟨next, hstep, hnext, hstep'⟩ | ⟨e, hstep, hstep'⟩
    · rw [hstep, hstep']
      exact ih hfront.2 next hnext
    · rw [hstep, hstep']
      rfl

/-- The options can be read off the arguments just where all of these are good and one is
a path.  Otherwise the first that is not good gives the error, and if there is none, the
missing path does.  The path may stand anywhere among the flags. -/
theorem parse_grammar (arguments : List String) :
    ((∃ options, parse arguments = .ok options) ↔
      AllGood arguments ∧ ∃ argument ∈ arguments, IsPath argument) ∧
    (∀ options, parse arguments = .ok options ↔ Grant arguments options) ∧
    (∀ e, parse arguments = .error e ↔ Refuse arguments e) ∧
    ∀ front path back front' back', arguments = front ++ path :: back → IsPath path →
      (∀ argument ∈ front ++ front', ¬IsPath argument) → front ++ back = front' ++ back' →
      parse (front' ++ path :: back') = parse arguments := by
  have hgrant (options : Options) : parse arguments = .ok options ↔ Grant arguments options := by
    refine ⟨fun h => ?_, parse_of_grant⟩
    rcases parse_cases arguments with ⟨options', hparse, hgrant⟩ | ⟨e, hparse, -⟩
    · rwa [Except.ok.inj (h.symm.trans hparse)]
    · rw [h] at hparse
      cases hparse
  have hrefuse (e : Error) : parse arguments = .error e ↔ Refuse arguments e := by
    refine ⟨fun h => ?_, parse_of_refuse⟩
    rcases parse_cases arguments with ⟨options, hparse, -⟩ | ⟨e', hparse, hrefuse⟩
    · rw [h] at hparse
      cases hparse
    · rwa [Except.error.inj (h.symm.trans hparse)]
  refine ⟨⟨fun ⟨options, h⟩ => ?_, fun ⟨hgood, path, hmem, hpath⟩ => ?_⟩, hgrant, hrefuse, ?_⟩
  · have h := (hgrant options).mp h
    exact ⟨h.good, options.path, h.path⟩
  · rcases parse_cases arguments with ⟨options, hparse, -⟩ | ⟨e, -, ⟨hsplit, -, hbad, -⟩ | ⟨-, hnone⟩⟩
    · exact ⟨options, hparse⟩
    · exact absurd (hgood _ _ _ hsplit) hbad
    · exact absurd hpath (hnone path hmem)
  · rintro front path back front' back' rfl hpath hpathless hmoved
    rw [List.forall_mem_append] at hpathless
    rw [parse_eq, parse_eq, Given.take_path hpath hpathless.1 back _ rfl,
      Given.take_path hpath hpathless.2 back' _ rfl, hmoved]

/-- Of two faults the first counts, and a missing path only behind all others. -/
example :
    parse ["--buffer-size=+0", "a", "--color=blue"] = .error (.badCapacity "+0") ∧
      parse ["--color=blue", "--buffer-size=0"] = .error (.unknownColor "blue") ∧
      parse ["--color=never", "a", "--buffer-size=+0007", "--color=auto"] = .ok ⟨"a", .auto, 7⟩ := by
  decide +kernel

end Options
end Command
end LexicalFrontEnd
