import Spreadsheet.Proofs.Json.Lexing

/-!
# Written values are read back

The machine takes the lexemes of a value wherever a value may stand and has then completed that
value; the open containers around it are as they were. The contents of a list or an object are
read one by one onto what the container holds so far.
-/

namespace Spreadsheet.Json

open Lexeme

namespace Reader

variable {outer : List OpenContainer} {last : Json}

/-- Reading goes on from where one lexeme leads. -/
theorem foldlM_cons {reader next : Reader} {lexeme : Lexeme} (later : List Lexeme)
    (stepped : step reader lexeme = some next) :
    (lexeme :: later).foldlM step reader = later.foldlM step next := by
  rw [List.foldlM_cons, stepped]
  rfl

/-- Wherever a value may stand, a value is completed by its lexemes. -/
def Completes (value : Json) : Prop :=
  ∀ containers expected last later, expected = .value ∨ expected = .valueOrEnd →
    (lexemes value ++ later).foldlM step ⟨containers, expected, last⟩ =
      later.foldlM step (complete containers value)

/-- What may begin a value is taken as its beginning, also where a container may end. -/
theorem step_readValue {containers : List OpenContainer} {expected : Expected} {lexeme : Lexeme}
    {next : Reader} (begins : readValue containers lexeme = some next)
    (expectsValue : expected = .value ∨ expected = .valueOrEnd) :
    step ⟨containers, expected, last⟩ lexeme = some next := by
  rcases expectsValue with rfl | rfl <;> simp [step, begins]

/-- A value of one lexeme is read at once. -/
theorem completes_atom {value : Json} (isAtom : lexemes value = [.atom value]) :
    Completes value := by
  intro containers expected last later expectsValue
  rw [isAtom]
  exact foldlM_cons later (step_readValue rfl expectsValue)

/-- The items after the first are read onto those that the list holds. -/
theorem foldlM_itemLexemes {items : List Json} (completes : ∀ item ∈ items, Completes item)
    (done : List Json) (later : List Lexeme) :
    (itemLexemes items ++ .closeList :: later).foldlM step
        ⟨.list done :: outer, .commaOrEnd, last⟩ =
      later.foldlM step (complete outer (.list (done.reverse ++ items))) := by
  induction items generalizing done last with
  | nil =>
    rw [List.append_nil]
    exact foldlM_cons later rfl
  | cons item items inductionHypothesis =>
    obtain ⟨completesItem, completesItems⟩ := List.forall_mem_cons.mp completes
    rw [itemLexemes, List.cons_append, List.append_assoc, foldlM_cons _ rfl,
      completesItem _ _ _ _ (.inl rfl)]
    refine (inductionHypothesis completesItems (item :: done)).trans ?_
    rw [List.reverse_cons, List.append_assoc, List.singleton_append]

/-- The members after the first are read onto those that the object holds. -/
theorem foldlM_memberLexemes {members : List (String × Json)}
    (completes : ∀ member ∈ members, Completes member.2) (done : List (String × Json))
    (before : String) (later : List Lexeme) :
    (memberLexemes members ++ .closeObject :: later).foldlM step
        ⟨.object done before true :: outer, .commaOrEnd, last⟩ =
      later.foldlM step (complete outer (.object (done.reverse ++ members))) := by
  induction members generalizing done before last with
  | nil =>
    rw [List.append_nil]
    exact foldlM_cons later rfl
  | cons member members inductionHypothesis =>
    obtain ⟨name, value⟩ := member
    obtain ⟨completesValue, completesMembers⟩ := List.forall_mem_cons.mp completes
    rw [memberLexemes, List.cons_append, List.cons_append, List.cons_append, List.append_assoc,
      foldlM_cons _ rfl, foldlM_cons _ rfl, foldlM_cons _ rfl,
      completesValue _ _ _ _ (.inl rfl)]
    refine (inductionHypothesis completesMembers ((name, value) :: done) name).trans ?_
    rw [List.reverse_cons, List.append_assoc, List.singleton_append]

/-- The lexemes of a value complete it. -/
theorem completes_of_isWritable {value : Json} (writable : IsWritable value) :
    Completes value := by
  induction writable with
  | null => exact completes_atom rfl
  | bool truth => exact completes_atom rfl
  | number finite => exact completes_atom rfl
  | text value => exact completes_atom rfl
  | @list items held completes =>
    intro containers expected last later expectsValue
    cases items with
    | nil =>
      rw [lexemes, List.cons_append, foldlM_cons _ (step_readValue rfl expectsValue)]
      exact foldlM_cons later rfl
    | cons item items =>
      obtain ⟨completesItem, completesItems⟩ := List.forall_mem_cons.mp completes
      rw [lexemes, List.cons_append, List.append_assoc, List.append_assoc,
        foldlM_cons _ (step_readValue rfl expectsValue), completesItem _ _ _ _ (.inr rfl)]
      exact foldlM_itemLexemes completesItems [item] later
  | @object members held completes =>
    intro containers expected last later expectsValue
    cases members with
    | nil =>
      rw [lexemes, List.cons_append, foldlM_cons _ (step_readValue rfl expectsValue)]
      exact foldlM_cons later rfl
    | cons member members =>
      obtain ⟨name, value⟩ := member
      obtain ⟨completesValue, completesMembers⟩ := List.forall_mem_cons.mp completes
      rw [lexemes, List.cons_append, List.cons_append, List.cons_append, List.append_assoc,
        List.append_assoc, foldlM_cons _ (step_readValue rfl expectsValue), foldlM_cons _ rfl,
        foldlM_cons _ rfl, completesValue _ _ _ _ (.inl rfl)]
      exact foldlM_memberLexemes completesMembers [(name, value)] name later

end Reader

/-- Reading a written value gives that value, also with white space behind it. -/
theorem read?_write {style : Style} (plain : style.IsPlain) {value : Json}
    (writable : IsWritable value) {spaces : List Char}
    (areSpaces : ∀ character ∈ spaces, isSpace character = true) :
    read? (String.ofList (write style 0 value ++ spaces)) = some value := by
  have completes := Reader.completes_of_isWritable writable [] .value .null [] (.inl rfl)
  rw [List.append_nil] at completes
  rw [read?, String.toList_ofList, lex_write plain writable areSpaces]
  simp only [Option.bind_eq_bind, Option.bind_some, Reader.start, completes]
  rfl

/-- The compact style has no white space at all. -/
theorem Style.isPlain_compact : Style.compact.IsPlain where
  lineBreak := fun _ => List.forall_mem_nil _
  colon := ⟨[], rfl, List.forall_mem_nil _⟩

/-- The compact text of a value is read back as the value. -/
theorem read?_compact {value : Json} (writable : IsWritable value) :
    read? value.compact = some value := by
  have read := read?_write Style.isPlain_compact writable (List.forall_mem_nil _)
  rwa [List.append_nil] at read

/-- The indented style has line feeds and spaces. -/
theorem Style.isPlain_indented : Style.indented.IsPlain where
  lineBreak := by
    intro depth character held
    rcases List.mem_cons.mp held with rfl | isIndent
    · rfl
    · rw [List.eq_of_mem_replicate isIndent]
      rfl
  colon := ⟨[' '], rfl, List.forall_mem_singleton.mpr rfl⟩

/-- The indented text of a value is read back as the value, with or without an end of line. -/
theorem read?_indented {value : Json} (writable : IsWritable value) {ending : String}
    (areSpaces : ∀ character ∈ ending.toList, isSpace character = true) :
    read? (value.indented ++ ending) = some value := by
  have read := read?_write Style.isPlain_indented writable areSpaces
  rwa [String.ofList_append, String.ofList_toList] at read

end Spreadsheet.Json
