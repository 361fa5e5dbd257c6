import GenModel.Proofs.Source.Moves
import Mathlib.Data.List.Forall2

/-!
# The grammar of sources

A source is a sequence of blocks, of which the last may be cut off. A block is a line that
declares, an opening line, lines with an entry each and a closing line; it denotes the declaration
to which its entries are added one after the other. `parse_eq_ok_iff` says that the reader accepts
exactly these sources and returns exactly what their complete blocks denote.

In the direction from the reader to the grammar, the invariant of a run is `Pending`: the lines
that were read since the last block was closed are the beginning of a block, and the state holds
what that beginning denotes.
-/

namespace GenModel

namespace Source

/-- A letter of ASCII or an underscore: the pattern `[A-Za-z_]`. -/
def IsLetter (c : Char) : Prop :=
  'A' ≤ c ∧ c ≤ 'Z' ∨ 'a' ≤ c ∧ c ≤ 'z' ∨ c = '_'

/-- A letter or a digit of ASCII or an underscore: the pattern `[A-Za-z0-9_]`. -/
def IsLetterOrDigit (c : Char) : Prop :=
  IsLetter c ∨ '0' ≤ c ∧ c ≤ '9'

/-- The names of declarations: the pattern `[A-Za-z_][A-Za-z0-9_]*`. -/
def Identifier (name : String) : Prop :=
  ∃ first rest, name.toList = first :: rest ∧ IsLetter first ∧ ∀ c ∈ rest, IsLetterOrDigit c

theorem isIdentifierStart_iff {c : Char} : isIdentifierStart c = true ↔ IsLetter c := by
  have alpha : c.isAlpha =
      (decide ('A' ≤ c ∧ c ≤ 'Z') || decide ('a' ≤ c) && decide (c ≤ 'z')) := rfl
  simp only [isIdentifierStart, IsLetter, alpha, Bool.or_eq_true, Bool.and_eq_true,
    decide_eq_true_eq, beq_iff_eq]
  exact or_assoc

theorem isIdentifierRest_iff {c : Char} : isIdentifierRest c = true ↔ IsLetterOrDigit c := by
  have digit : c.isDigit = (decide ('0' ≤ c) && decide (c ≤ '9')) := rfl
  have start : isIdentifierRest c = (isIdentifierStart c || c.isDigit) := by
    simp only [isIdentifierRest, isIdentifierStart, Char.isAlphanum]
    exact Bool.or_right_comm _ _ _
  rw [start, Bool.or_eq_true, isIdentifierStart_iff, IsLetterOrDigit]
  simp only [digit, Bool.and_eq_true, decide_eq_true_eq]

theorem isIdentifier_iff {name : String} : isIdentifier name = true ↔ Identifier name := by
  cases characters : name.toList with
  | nil => simp [isIdentifier, Identifier, characters]
  | cons first rest =>
      simp [isIdentifier, Identifier, characters, isIdentifierStart_iff, isIdentifierRest_iff]

instance (name : String) : Decidable (Identifier name) :=
  decidable_of_iff _ isIdentifier_iff

theorem Identifier.isLetterOrDigit {name : String} (identifier : Identifier name) :
    ∀ c ∈ name.toList, IsLetterOrDigit c := by
  rcases identifier with ⟨first, rest, characters, isLetter, areLettersOrDigits⟩
  rw [characters, List.forall_mem_cons]
  exact ⟨Or.inl isLetter, areLettersOrDigits⟩

theorem IsLetterOrDigit.ne_of_not_rest {c other : Char} (isLetterOrDigit : IsLetterOrDigit c)
    (notRest : isIdentifierRest other = false) : c ≠ other := by
  rintro rfl
  rw [isIdentifierRest_iff.mpr isLetterOrDigit] at notRest
  simp at notRest

/-- The line of an entry. -/
def entryLine (entry : String × String) : List String :=
  [entry.1, entry.2]

/-- The declaration with all entries, unless one of them is refused. -/
def addAll (declaration : Declaration) (entries : List (String × String)) :
    Except EntryError Declaration :=
  entries.foldlM (fun extended entry => extended.add entry.1 entry.2) declaration

theorem addAll_concat {declaration extended last : Declaration}
    {entries : List (String × String)} {name value : String}
    (added : addAll declaration entries = .ok extended)
    (accepted : extended.add name value = .ok last) :
    addAll declaration (entries ++ [(name, value)]) = .ok last := by
  have reached : entries.foldlM (fun extended entry => extended.add entry.1 entry.2) declaration =
      .ok extended := added
  simp [addAll, List.foldlM_append, reached, accepted, bind, Except.bind, pure, Except.pure]

/-- A declaration as it is written. -/
structure Block where
  kind : Kind
  name : String
  entries : List (String × String)
  identifier : Identifier name

namespace Block

/-- The lines of a block before its closing line. -/
def openLines (block : Block) : List (List String) :=
  [block.kind.keyword, block.name] :: openingLine :: block.entries.map entryLine

/-- The lines of a block. -/
def lines (block : Block) : List (List String) :=
  block.openLines ++ [closingLine]

/-- The block stands for the declaration to which all of its entries are added. -/
def Denotes (block : Block) (declaration : Declaration) : Prop :=
  addAll (.empty block.kind block.name) block.entries = .ok declaration

/-- The block with one more entry. -/
def addEntry (block : Block) (name value : String) : Block :=
  { block with entries := block.entries ++ [(name, value)] }

theorem openLines_addEntry (block : Block) (name value : String) :
    (block.addEntry name value).openLines = block.openLines ++ [[name, value]] := by
  simp [openLines, addEntry, entryLine]

end Block

/-- A block that is cut off somewhere after its first line and before its closing line, or
nothing at all. -/
def Remainder (lines : List (List String)) : Prop :=
  lines = [] ∨
    ∃ (block : Block) (declaration : Declaration), block.Denotes declaration ∧ lines ≠ [] ∧
      lines <+: block.openLines

/-- The lines are blocks that denote the model, and a remainder. -/
def Grammatical (lines : List (List String)) (model : List Declaration) : Prop :=
  ∃ blocks remainder, lines = blocks.flatMap Block.lines ++ remainder ∧
    List.Forall₂ Block.Denotes blocks model ∧ Remainder remainder

/-- What the lines since the last closed block are, in each state of the reader. -/
inductive Pending : State → List (List String) → Prop where
  | outside : Pending .outside []
  | declared (block : Block) (fresh : block.entries = []) :
      Pending (.declared (.empty block.kind block.name)) [[block.kind.keyword, block.name]]
  | inside (block : Block) {declaration : Declaration} (denotes : block.Denotes declaration) :
      Pending (.inside declaration) block.openLines

theorem Pending.remainder {state : State} {lines : List (List String)}
    (pending : Pending state lines) : Remainder lines := by
  cases pending with
  | outside => exact Or.inl rfl
  | declared block fresh =>
      refine Or.inr ⟨block, .empty block.kind block.name, ?_, by simp, ?_⟩
      · simp [Block.Denotes, addAll, fresh, pure, Except.pure]
      · simp [Block.openLines]
  | inside block denotes =>
      exact Or.inr ⟨block, _, denotes, by simp [Block.openLines], List.prefix_rfl⟩

/-- Every run of the reader reads complete blocks and, since the last of them, what its last state
holds. -/
theorem blocks_of_steps {state last : State} {front lines : List (List String)}
    {model : List Declaration} (pending : Pending state front)
    (steps : Steps state lines model last) :
    ∃ blocks rest, front ++ lines = blocks.flatMap Block.lines ++ rest ∧
      List.Forall₂ Block.Denotes blocks model ∧ Pending last rest := by
  induction steps generalizing front with
  | refl =>
      exact ⟨[], front, by simp, .nil, pending⟩
  | cons move steps ih =>
      cases move with
      | @declare kind name identifier =>
          cases pending
          exact ih (.declared ⟨kind, name, [], isIdentifier_iff.mp identifier⟩ rfl)
      | enter =>
          cases pending with
          | declared block fresh =>
              have denotes : block.Denotes (.empty block.kind block.name) := by
                simp [Block.Denotes, addAll, fresh, pure, Except.pure]
              have read := ih (.inside block denotes)
              simpa [Block.openLines, fresh] using read
      | @entry declaration extended name value accepted =>
          cases pending with
          | inside block denotes =>
              have read := ih (.inside (block.addEntry name value)
                (addAll_concat denotes accepted))
              simpa [Block.openLines_addEntry] using read
      | close =>
          cases pending with
          | inside block denotes =>
              rcases ih .outside with ⟨blocks, rest, linesEq, denoted, lastPending⟩
              refine ⟨block :: blocks, rest, ?_, .cons denotes denoted, lastPending⟩
              rw [List.nil_append] at linesEq
              simp [Block.lines, linesEq]

theorem grammatical_of_steps {state last : State} {front lines : List (List String)}
    {model : List Declaration} (pending : Pending state front)
    (steps : Steps state lines model last) : Grammatical (front ++ lines) model := by
  rcases blocks_of_steps pending steps with ⟨blocks, rest, linesEq, denoted, lastPending⟩
  exact ⟨blocks, rest, linesEq, denoted, lastPending.remainder⟩

theorem steps_entries {declaration last : Declaration} {entries : List (String × String)}
    (added : addAll declaration entries = .ok last) :
    Steps (.inside declaration) (entries.map entryLine) [] (.inside last) := by
  induction entries generalizing declaration with
  | nil =>
      simp only [addAll, List.foldlM_nil, pure, Except.pure, Except.ok.injEq] at added
      subst last
      exact .refl
  | cons entry rest ih =>
      cases accepted : declaration.add entry.1 entry.2 with
      | error cause => simp [addAll, accepted, bind, Except.bind] at added
      | ok extended =>
          simp only [addAll, List.foldlM_cons, accepted, bind, Except.bind] at added
          exact .cons (.entry accepted) (ih added)

namespace Block

variable {block : Block} {declaration : Declaration}

theorem steps_openLines (denotes : block.Denotes declaration) :
    Steps .outside block.openLines [] (.inside declaration) :=
  .cons (.declare (isIdentifier_iff.mpr block.identifier)) (.cons .enter (steps_entries denotes))

theorem steps_lines (denotes : block.Denotes declaration) :
    Steps .outside block.lines [declaration] .outside :=
  (steps_openLines denotes).append (.single .close)

end Block

theorem steps_remainder {lines : List (List String)} (remainder : Remainder lines) :
    ∃ last, Steps .outside lines [] last := by
  rcases remainder with rfl | ⟨block, declaration, denotes, -, rest, whole⟩
  · exact ⟨.outside, .refl⟩
  · have steps := block.steps_openLines denotes
    rw [← whole] at steps
    rcases steps.split with ⟨middle, before, after, first, -, nothing⟩
    rw [List.nil_eq_append_iff] at nothing
    rw [nothing.1] at first
    exact ⟨middle, first⟩

theorem steps_blocks {blocks : List Block} {model : List Declaration}
    (denoted : List.Forall₂ Block.Denotes blocks model) :
    Steps .outside (blocks.flatMap Block.lines) model .outside := by
  induction denoted with
  | nil => exact .refl
  | cons denotes _ ih =>
      rw [List.flatMap_cons]
      exact (Block.steps_lines denotes).append ih

/-- The reader accepts exactly the grammatical sources and returns what their blocks denote. -/
theorem parse_eq_ok_iff (text : String) (model : List Declaration) :
    parse text = .ok model ↔ Grammatical (tokenLines (Text.lines text)) model := by
  rw [parse_eq_ok_iff_steps]
  constructor
  · rintro ⟨last, steps⟩
    exact grammatical_of_steps .outside steps
  · rintro ⟨blocks, remainder, linesEq, denoted, unfinished⟩
    rcases steps_remainder unfinished with ⟨last, unfinishedSteps⟩
    have steps := (steps_blocks denoted).append unfinishedSteps
    rw [List.append_nil] at steps
    rw [linesEq]
    exact ⟨last, steps⟩

end Source

end GenModel
