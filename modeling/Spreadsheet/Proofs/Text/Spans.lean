import Mathlib.Data.List.TakeWhile
import Spreadsheet.Text.Blank

/-!
# Runs of characters and their ends

A run of characters of one kind is taken off a text whole if what follows it does not
go on with that kind. Trimming is the same at both ends of a text, with white space:
`IsTrimmed` says what is left, and `trim_eq_iff` that `trim` leaves it.
-/

namespace Spreadsheet.Text

/-- What follows is empty or begins with a character of another kind. -/
def StopsAt (kind : Char → Bool) (rest : List Char) : Prop :=
  ∀ character ∈ rest.head?, kind character = false

variable {kind : Char → Bool} {run rest : List Char}

/-- Nothing goes on at the end of a text. -/
theorem StopsAt.nil : StopsAt kind [] := by
  intro character member
  cases member

/-- What begins with a character of another kind does not go on. -/
theorem StopsAt.cons {head : Char} (other : kind head = false) : StopsAt kind (head :: rest) := by
  rintro character ⟨⟩
  exact other

/-- What follows does not go on with a kind that has fewer characters either. -/
theorem StopsAt.mono {wider : Char → Bool} (stops : StopsAt wider rest)
    (included : ∀ character, kind character = true → wider character = true) :
    StopsAt kind rest := by
  intro character member
  refine Bool.eq_false_iff.mpr fun isKind => ?_
  have isWider := included character isKind
  rw [stops character member] at isWider
  cases isWider

/-- A run is taken whole, and nothing of what follows. -/
theorem takeWhile_append (areKind : ∀ character ∈ run, kind character = true)
    (stops : StopsAt kind rest) : (run ++ rest).takeWhile kind = run := by
  rw [List.takeWhile_append_of_pos areKind]
  cases rest with
  | nil => exact List.append_nil run
  | cons head tail => simp [stops head rfl]

/-- A run is dropped whole, and nothing of what follows. -/
theorem dropWhile_append (areKind : ∀ character ∈ run, kind character = true)
    (stops : StopsAt kind rest) : (run ++ rest).dropWhile kind = rest := by
  rw [List.dropWhile_append_of_pos areKind]
  cases rest with
  | nil => rfl
  | cons head tail => simp [stops head rfl]

/-- White space around a text that neither begins nor ends with any is what trimming takes away. -/
theorem trim_append {before after : List Char}
    (blankBefore : ∀ character ∈ before, isBlank character = true)
    (blankAfter : ∀ character ∈ after, isBlank character = true)
    (begins : StopsAt isBlank run) (ends : StopsAt isBlank run.reverse) :
    trim (before ++ (run ++ after)) = run := by
  have blankReversed : ∀ character ∈ after.reverse, isBlank character = true :=
    fun character member => blankAfter character (List.mem_reverse.mp member)
  unfold trim
  cases run with
  | nil =>
    have allBlank : (before ++ ([] ++ after)).dropWhile isBlank = [] := by
      rw [List.dropWhile_eq_nil_iff]
      intro character member
      rcases List.mem_append.mp member with inBefore | inAfter
      · exact blankBefore character inBefore
      · exact blankAfter character inAfter
    rw [allBlank]
    rfl
  | cons head tail =>
    have stops : StopsAt isBlank (head :: tail ++ after) := StopsAt.cons (begins head rfl)
    rw [dropWhile_append blankBefore stops, List.reverse_append,
      dropWhile_append blankReversed ends, List.reverse_reverse]

/-- A text lies between white space and neither begins nor ends with any. -/
structure IsTrimmed (text trimmed : List Char) : Prop where
  around : ∃ before after, text = before ++ (trimmed ++ after) ∧
    (∀ character ∈ before, isBlank character = true) ∧
    ∀ character ∈ after, isBlank character = true
  begins : ∀ first ∈ trimmed.head?, isBlank first = false
  ends : ∀ last ∈ trimmed.getLast?, isBlank last = false

/-- What is left of a run after a kind of characters at its start does not begin with that kind. -/
theorem stopsAt_dropWhile (kind : Char → Bool) (run : List Char) :
    StopsAt kind (run.dropWhile kind) := by
  intro character first
  have notKind := List.head?_dropWhile_not kind run
  rw [Option.mem_def.mp first] at notKind
  exact notKind

/-- Trimming takes the white space at the start of a text away, and then only from its end. -/
theorem trim_prefix_dropWhile (text : List Char) : trim text <+: text.dropWhile isBlank := by
  rw [trim, ← List.reverse_suffix, List.reverse_reverse]
  exact List.dropWhile_suffix isBlank

/-- Every text lies between white space that trimming takes away. -/
theorem isTrimmed_trim (text : List Char) : IsTrimmed text (trim text) where
  around := by
    let kept := text.dropWhile isBlank
    refine ⟨text.takeWhile isBlank, (kept.reverse.takeWhile isBlank).reverse, ?_,
      fun _ member => List.mem_takeWhile_imp member,
      fun _ member => List.mem_takeWhile_imp (List.mem_reverse.mp member)⟩
    have keptParts : trim text ++ (kept.reverse.takeWhile isBlank).reverse = kept := by
      rw [trim, ← List.reverse_append, List.takeWhile_append_dropWhile, List.reverse_reverse]
    rw [keptParts, List.takeWhile_append_dropWhile]
  begins := by
    intro first isFirst
    obtain ⟨rest, whole⟩ := trim_prefix_dropWhile text
    refine stopsAt_dropWhile isBlank text first ?_
    rw [← whole, List.head?_append, Option.mem_def.mp isFirst]
    rfl
  ends := by
    intro last isLast
    rw [trim, List.getLast?_reverse] at isLast
    exact stopsAt_dropWhile isBlank _ last isLast

/-- What is left between white space is what trimming leaves. -/
theorem trim_eq_iff {text trimmed : List Char} : trim text = trimmed ↔ IsTrimmed text trimmed := by
  constructor
  · rintro rfl
    exact isTrimmed_trim text
  · rintro ⟨⟨before, after, rfl, blankBefore, blankAfter⟩, begins, ends⟩
    refine trim_append blankBefore blankAfter begins ?_
    rwa [StopsAt, List.head?_reverse]

/-- Trimming a text that does not begin with white space only takes its end away. -/
theorem isPrefix_trim {text : List Char} (begins : StopsAt isBlank text) : trim text <+: text := by
  have kept : text.dropWhile isBlank = text := dropWhile_append (List.forall_mem_nil _) begins
  have isPrefix := trim_prefix_dropWhile text
  rwa [kept] at isPrefix

end Spreadsheet.Text
