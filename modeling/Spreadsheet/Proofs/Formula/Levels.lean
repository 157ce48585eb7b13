import Mathlib.Data.List.Chain
import Spreadsheet.Proofs.Formula.Groups
import Spreadsheet.Proofs.Formula.Scanning

/-!
# Levels of the operator stack

Groups divide the operator stack into levels. An operator is pushed only onto what binds less
tightly, so within a level each operator binds tighter than the one below it, and as there are
two precedences a level holds at most two. Applying an entry takes it off the top and disturbs
nothing below, whether the application succeeds or not. `operators_levelled` says so of every
state that a scan passes through, those in the middle of a token included.
-/

namespace Spreadsheet

namespace Pending

/-- Each operator of a stack, listed top first, binds tighter than the entry right below it. -/
def Ascends (pending : List Pending) : Prop :=
  pending.IsChain fun upper lower => upper ≠ .group → lower.precedence < upper.precedence

/-- A stretch of an operator stack without a group. -/
structure IsLevel (level pending : List Pending) : Prop where
  stretch : level <:+: pending
  ungrouped : .group ∉ level

variable {pending level : List Pending}

/-- An operator may be pushed onto what it does not have applied. -/
theorem Ascends.push {operator : Operator} (ascends : Ascends pending)
    (unforced : ∀ entry ∈ pending.head?, precedes operator entry = false) :
    Ascends (.operator operator :: pending) := by
  refine List.isChain_cons.mpr ⟨fun entry top _ => ?_, ascends⟩
  exact Nat.not_le.mp (of_decide_eq_false (unforced entry top))

/-- A group may be opened on every stack. -/
theorem Ascends.group (ascends : Ascends pending) : Ascends (.group :: pending) :=
  List.isChain_cons.mpr ⟨fun _ _ isOperator => absurd rfl isOperator, ascends⟩

/-- Taking an entry off the top disturbs nothing below. -/
theorem Ascends.tail (ascends : Ascends pending) : Ascends pending.tail :=
  List.IsChain.tail ascends

/-- Within a level the operators bind tighter from the bottom to the top. -/
theorem Ascends.pairwise (ascends : Ascends pending) (isLevel : IsLevel level pending) :
    level.Pairwise fun upper lower => lower.precedence < upper.precedence := by
  let Tighter (upper lower : Pending) : Prop := lower.precedence < upper.precedence
  have : Trans Tighter Tighter Tighter := ⟨fun above below => Nat.lt_trans below above⟩
  have chain := List.IsChain.infix ascends isLevel.stretch
  refine List.isChain_iff_pairwise.mp (chain.imp_of_mem_imp fun upper lower member _ looser => ?_)
  exact looser fun isGroup => isLevel.ungrouped (isGroup ▸ member)

/-- Operators have one of two precedences. -/
theorem precedence_bounds {entry : Pending} (isOperator : entry ≠ .group) :
    1 ≤ entry.precedence ∧ entry.precedence ≤ 2 := by
  cases entry with
  | group => exact absurd rfl isOperator
  | operator operator => cases operator <;> decide

/-- A level holds at most two operators. -/
theorem Ascends.length_le_two (ascends : Ascends pending) (isLevel : IsLevel level pending) :
    level.length ≤ 2 := by
  have pairwise := ascends.pairwise isLevel
  have bounds : ∀ entry ∈ level, 1 ≤ entry.precedence ∧ entry.precedence ≤ 2 := fun entry member =>
    precedence_bounds fun isGroup => isLevel.ungrouped (isGroup ▸ member)
  match level with
  | [] | [_] | [_, _] => simp
  | top :: middle :: bottom :: _ =>
    have topBound := (bounds top (by simp)).2
    have bottomBound := (bounds bottom (by simp)).1
    simp only [List.pairwise_cons, List.mem_cons] at pairwise
    have topTighter := pairwise.1 middle (.inl rfl)
    have middleTighter := pairwise.2.1 bottom (.inl rfl)
    omega

end Pending

/-- No token has a group applied. -/
theorem Token.forces_group (token : Token) : token.forces .group = false := by
  cases token with
  | operator operator => exact Pending.precedes_group operator
  | _ => rfl

namespace Formula.Scanning

open Machine

variable {store : Store} {now next : Scanning} {applied : Option Pending}

/-- The order of the operator stack and its number of groups in the middle of a scan. -/
structure Levelled (now : Scanning) : Prop where
  ascends : Pending.Ascends now.machine.pending
  groups : now.machine.groups = depth now.scanned

/-- Nothing is pending before the first token. -/
theorem levelled_start (repair : Option CellError) (tokens : List Token) :
    (start repair tokens).Levelled where
  ascends := .nil
  groups := rfl

/-- What a token puts onto the operator stack binds tighter than what it leaves there. -/
theorem ascends_place {machine after : Machine} {token : Token}
    (ascends : Pending.Ascends machine.pending)
    (unforced : ∀ entry ∈ machine.pending.head?, token.forces entry = false)
    (placed : place store machine token = .ok after) : Pending.Ascends after.pending := by
  cases token with
  | number value =>
    cases placed
    exact ascends
  | reference label =>
    obtain ⟨value, -, rfl⟩ := step_reference_eq_ok.mp placed
    exact ascends
  | operator operator =>
    cases placed
    exact ascends.push unforced
  | openGroup =>
    cases placed
    exact ascends.group
  | closeGroup =>
    cases placed
    rw [withPending_pending, List.drop_one]
    exact ascends.tail
  | unknown text => cases placed

/-- Every move keeps the order of the stack and the number of its groups right. -/
theorem Move.levelled (move : Move store now applied next) (levelled : now.Levelled) :
    next.Levelled := by
  cases move with
  | @application scanned coming token machine entry below stacked forced =>
    have isOperator : entry ≠ .group := by
      rintro rfl
      rw [Token.forces_group] at forced
      cases forced
    have left : ((machine.withPending below).apply entry).pending = below := by
      rw [apply_pending, withPending_pending]
    obtain ⟨ascends, groups⟩ := levelled
    dsimp only at ascends groups
    rw [stacked] at ascends
    rw [Machine.groups, stacked, List.count_cons_of_ne isOperator] at groups
    constructor
    · rw [left]
      exact ascends.tail
    · rwa [Machine.groups, left]
  | placement unforced placed =>
    constructor
    · exact ascends_place levelled.ascends unforced placed
    · rw [← step_of_unforced unforced] at placed
      rw [groups_step placed, levelled.groups, depth, depth, List.foldl_concat]

/-- Every state that moves lead to has its stack in order and its groups counted. -/
theorem Reaches.levelled (reached : Reaches store now next) (levelled : now.Levelled) :
    next.Levelled :=
  reached.preserves Move.levelled levelled

/-- An entry is applied from the top of the stack, and it is an operator. -/
theorem Move.applies_operator {entry : Pending} (move : Move store now (some entry) next) :
    ∃ operator below, entry = .operator operator ∧ now.machine.pending = entry :: below := by
  cases move with
  | @application scanned coming token machine entry below stacked forced =>
    cases entry with
    | operator operator => exact ⟨operator, below, rfl, stacked⟩
    | group =>
      rw [Token.forces_group] at forced
      cases forced

/-- The moves pass through every machine that a scan of the first tokens returns, and after
each of them the scan of what is to come gives what the whole scan gives. In every state on the
way the operators of each level bind tighter from the bottom to the top, so there are at most
two; one group is on the stack for each that is open after the tokens dealt with; and what is
applied next is an operator, if anything is. -/
theorem operators_levelled (store : Store) (repair : Option CellError) (tokens : List Token) :
    (∀ before coming after, before ++ coming = tokens →
      scan store (.start repair) before = .ok after →
        Reaches store (start repair tokens) ⟨before, coming, after⟩) ∧
    ∀ now, Reaches store (start repair tokens) now →
      now.scanned ++ now.coming = tokens ∧
      scan store now.machine now.coming = scan store (.start repair) tokens ∧
      (∀ level, Pending.IsLevel level now.machine.pending →
        (level.Pairwise fun upper lower => lower.precedence < upper.precedence) ∧
          level.length ≤ 2) ∧
      now.machine.groups = depth now.scanned ∧
      (∀ entry next, Move store now (some entry) next →
        ∃ operator below, entry = .operator operator ∧ now.machine.pending = entry :: below) := by
  constructor
  · rintro before coming after rfl went
    exact reaches_of_scan [] coming went
  · intro now reached
    have levelled := reached.levelled (levelled_start repair tokens)
    refine ⟨reached.tokens_eq, reached.scan_eq, ?_, levelled.groups, ?_⟩
    · intro level isLevel
      exact ⟨levelled.ascends.pairwise isLevel, levelled.ascends.length_le_two isLevel⟩
    · intro entry next move
      exact move.applies_operator

/-- A closing parenthesis without a group, operators without operands, and a group in the
middle of being closed: the product in it has been applied to a single value and has failed, the
difference comes next. -/
theorem operators_levelled_failed_product :
    let store : Store := fun _ => none
    let before : List Token := [.closeGroup, .number 1.0, .operator .add, .operator .multiply,
      .openGroup, .operator .subtract, .operator .multiply]
    let between : Machine := ⟨[1.0], [.operator .multiply, .operator .subtract, .group,
      .operator .multiply, .operator .add], none⟩
    let now : Scanning := ⟨before, [.closeGroup], ⟨[], [.operator .subtract, .group,
      .operator .multiply, .operator .add], some .invalidOperator⟩⟩
    let outer : List Pending := [.operator .multiply, .operator .add]
    let next : Scanning := ⟨before, [.closeGroup], ⟨[], .group :: outer, some .invalidOperator⟩⟩
    scan store (.start none) before = .ok between ∧
    Reaches store (start none (before ++ [.closeGroup])) now ∧
    scan store now.machine now.coming = scan store (.start none) (before ++ [.closeGroup]) ∧
    Pending.IsLevel outer now.machine.pending ∧
    (outer.Pairwise fun upper lower => lower.precedence < upper.precedence) ∧
    outer.length ≤ 2 ∧
    now.machine.groups = depth before ∧
    Move store now (some (.operator .subtract)) next ∧
    ∃ operator below, Pending.operator .subtract = .operator operator ∧
      now.machine.pending = .operator .subtract :: below := by
  intro store before between now outer next
  obtain ⟨passes, holds⟩ := operators_levelled store none (before ++ [.closeGroup])
  have went : scan store (.start none) before = .ok between := rfl
  have failed : Move store ⟨before, [.closeGroup], between⟩ (some (.operator .multiply)) now :=
    .application rfl rfl
  have reached : Reaches store (start none (before ++ [.closeGroup])) now :=
    (passes before [.closeGroup] between rfl went).tail ⟨_, failed⟩
  have isLevel : Pending.IsLevel outer now.machine.pending :=
    ⟨⟨[.operator .subtract, .group], [], rfl⟩, by decide⟩
  have move : Move store now (some (.operator .subtract)) next := .application rfl rfl
  obtain ⟨-, onward, levels, groups, applies⟩ := holds now reached
  obtain ⟨pairwise, short⟩ := levels outer isLevel
  exact ⟨went, reached, onward, isLevel, pairwise, short, groups, move, applies _ _ move⟩

end Formula.Scanning

end Spreadsheet
