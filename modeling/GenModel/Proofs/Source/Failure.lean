import GenModel.Proofs.Source.Grammar
import GenModel.Proofs.Text.FirstLines

/-!
# Where reading fails

Reading fails at the first line that does not fit: the lines before it are a run of the reader,
and in the state to which that run leads the tokens of the line are refused. `parse_eq_error_iff`
says that this is the only way to fail, and what the error says about the line.

Two consequences are stated here. An error is located exactly, and it depends only on the text up
to the end of its line (`parse_located`). And as runs see lines only through their tokens, texts
with the same tokens are read in the same way, up to the number and the content of the line where
both fail (`parse_of_sameTokens`).
-/

namespace GenModel

namespace Source

/-- The reader stops at the line: the lines before it are read, and its tokens are refused. -/
structure StopsAt (state : State) (lines before : List String) (line : String) (fault : Fault) :
    Prop where
  splits : ∃ after, lines = before ++ line :: after
  notBlank : Text.tokens line ≠ []
  refuses : ∃ closed last, Steps state (tokenLines before) closed last ∧
    step last (Text.tokens line) = .error fault

theorem toExcept_after_eq_error_iff {reading : Reading} {closed : Option Declaration}
    {error : Error} :
    (reading.after closed).toExcept = .error error ↔ reading.toExcept = .error error := by
  rcases reading with ⟨found, ending⟩
  cases closed <;> cases ending <;> simp [Reading.after, Reading.toExcept]

theorem exists_stopsAt_of_readLines {state : State} {number : Nat} {lines : List String}
    {error : Error} (failed : (readLines state number lines).toExcept = .error error) :
    ∃ before line fault, StopsAt state lines before line fault ∧
      error = fault.toError (number + before.length) line := by
  induction lines generalizing state number with
  | nil => cases state <;> simp [readLines, Reading.toExcept, State.ending] at failed
  | cons first rest ih =>
      by_cases blank : Text.tokens first = []
      · rw [readLines_cons_of_blank blank] at failed
        rcases ih failed with ⟨before, line, fault, ⟨⟨after, splits⟩, notBlank, refuses⟩, rfl⟩
        refine ⟨first :: before, line, fault, ⟨⟨after, by rw [splits, List.cons_append]⟩,
          notBlank, ?_⟩, ?_⟩
        · rwa [tokenLines_cons_of_blank blank]
        · rw [List.length_cons, Nat.add_right_comm, Nat.add_assoc]
      · cases stepEq : step state (Text.tokens first) with
        | error fault =>
            rw [readLines_cons_of_error blank stepEq] at failed
            refine ⟨[], first, fault, ⟨⟨rest, rfl⟩, blank, [], state, .refl, stepEq⟩, ?_⟩
            simpa [Reading.toExcept, eq_comm] using failed
        | ok result =>
            rcases result with ⟨closed, next⟩
            rw [readLines_cons_of_ok blank stepEq, toExcept_after_eq_error_iff] at failed
            rcases ih failed with ⟨before, line, fault,
              ⟨⟨after, splits⟩, notBlank, others, last, steps, refused⟩, rfl⟩
            refine ⟨first :: before, line, fault, ⟨⟨after, by rw [splits, List.cons_append]⟩,
              notBlank, closed.toList ++ others, last, ?_, refused⟩, ?_⟩
            · rw [tokenLines_cons blank]
              exact .cons (step_eq_ok_iff.mp stepEq) steps
            · rw [List.length_cons, Nat.add_right_comm, Nat.add_assoc]

theorem StopsAt.readLines {state : State} {lines before : List String} {line : String}
    {fault : Fault} (stops : StopsAt state lines before line fault) (number : Nat) :
    (readLines state number lines).toExcept =
      .error (fault.toError (number + before.length) line) := by
  rcases stops with ⟨⟨after, rfl⟩, notBlank, closed, last, steps, refused⟩
  induction before generalizing state number closed with
  | nil =>
      cases steps
      rw [List.nil_append, readLines_cons_of_error notBlank refused]
      rfl
  | cons first rest ih =>
      rw [List.cons_append, List.length_cons, ← Nat.add_assoc, Nat.add_right_comm]
      by_cases blank : Text.tokens first = []
      · rw [tokenLines_cons_of_blank blank] at steps
        rw [readLines_cons_of_blank blank]
        exact ih (number + 1) closed steps
      · rw [tokenLines_cons blank] at steps
        cases steps with
        | cons move steps =>
            rw [readLines_cons_of_ok blank (step_eq_ok_iff.mpr move), toExcept_after_eq_error_iff]
            exact ih (number + 1) _ steps

/-- Reading a text fails exactly if the reader stops at one of its lines. -/
theorem parse_eq_error_iff {text : String} {error : Error} :
    parse text = .error error ↔
      ∃ before line fault, StopsAt .outside (Text.lines text) before line fault ∧
        error = fault.toError (before.length + 1) line := by
  constructor
  · intro failed
    rcases exists_stopsAt_of_readLines failed with ⟨before, line, fault, stops, errorEq⟩
    exact ⟨before, line, fault, stops, by rw [errorEq, Nat.add_comm]⟩
  · rintro ⟨before, line, fault, stops, rfl⟩
    rw [parse, read, stops.readLines, Nat.add_comm]

/-- An entry is refused only inside a declaration, and only by the declaration. -/
theorem step_eq_refused_iff {state : State} {lineTokens : List String} {cause : EntryError} :
    step state lineTokens = .error (.refused cause) ↔
      ∃ declaration name value, state = .inside declaration ∧ lineTokens = [name, value] ∧
        declaration.add name value = .error cause := by
  constructor
  · intro stopped
    cases state with
    | outside => cases found : declaration? lineTokens <;> simp [step, found] at stopped
    | declared declaration =>
        by_cases opening : lineTokens = openingLine <;> simp [step, opening] at stopped
    | inside declaration =>
        by_cases closing : lineTokens = closingLine
        · simp [step, closing] at stopped
        · by_cases opening : lineTokens = openingLine
          · simp [step, opening, openingLine, closingLine] at stopped
          · rcases lineTokens with _ | ⟨name, _ | ⟨value, _ | ⟨more, others⟩⟩⟩
            · simp [step, closing, opening] at stopped
            · simp [step, closing, opening] at stopped
            · cases added : declaration.add name value with
              | ok extended => simp [step, closing, opening, added] at stopped
              | error found =>
                  simp only [step, closing, opening, added, if_false, Except.error.injEq,
                    Fault.refused.injEq] at stopped
                  subst found
                  exact ⟨declaration, name, value, rfl, rfl, added⟩
            · simp [step, closing, opening] at stopped
  · rintro ⟨declaration, name, value, rfl, rfl, refused⟩
    simp [step, openingLine, closingLine, refused]

/-- The lines are complete blocks and the lines of one that is still open; the declaration is what
the open block denotes so far. -/
def IsOpen (lines : List (List String)) (declaration : Declaration) : Prop :=
  ∃ (blocks : List Block) (model : List Declaration) (block : Block),
    lines = blocks.flatMap Block.lines ++ block.openLines ∧
    List.Forall₂ Block.Denotes blocks model ∧ block.Denotes declaration

theorem isOpen_iff_steps {lines : List (List String)} {declaration : Declaration} :
    IsOpen lines declaration ↔ ∃ closed, Steps .outside lines closed (.inside declaration) := by
  constructor
  · rintro ⟨blocks, model, block, rfl, denoted, denotes⟩
    exact ⟨_, (steps_blocks denoted).append (block.steps_openLines denotes)⟩
  · rintro ⟨closed, steps⟩
    rcases blocks_of_steps .outside steps with ⟨blocks, rest, linesEq, denoted, pending⟩
    cases pending with
    | inside block denotes => exact ⟨blocks, closed, block, linesEq, denoted, denotes⟩

/-- What an error of the given line says about the text. -/
structure Located (text : String) (error : Error) (number : Nat) (line : String) : Prop where
  positive : 1 ≤ number
  bounded : number ≤ (Text.lines text).length
  isLine : (Text.lines text)[number - 1]? = some line
  notBlank : Text.tokens line ≠ []
  form : (∃ expectation, error = .malformed number line expectation) ∨
    ∃ cause, error = .refused number line cause
  begins : ∃ rest, text = Text.firstLines (number - 1) text ++ rest
  before : ∃ model, parse (Text.firstLines (number - 1) text) = .ok model
  refusal : ∀ cause, error = .refused number line cause ↔
    ∃ declaration name value,
      IsOpen (tokenLines ((Text.lines text).take (number - 1))) declaration ∧
        Text.tokens line = [name, value] ∧ declaration.add name value = .error cause
  stable : ∀ front rest, text = front ++ "\n" ++ rest →
    (Text.lines (front ++ "\n")).length = number →
    ∀ other, parse (front ++ "\n" ++ other) = .error error

theorem located_of_stopsAt {text line : String} {before : List String} {fault : Fault}
    (stops : StopsAt .outside (Text.lines text) before line fault) :
    Located text (fault.toError (before.length + 1) line) (before.length + 1) line := by
  have failed := parse_eq_error_iff.mpr ⟨before, line, fault, stops, rfl⟩
  rcases stops with ⟨⟨after, splits⟩, notBlank, closed, last, steps, refused⟩
  have takeBefore : (Text.lines text).take before.length = before := by
    rw [splits, List.take_left]
  refine ⟨?_, ?_, ?_, notBlank, ?_, Text.exists_eq_firstLines_append _ text, ?_, ?_, ?_⟩
  · omega
  · simp [splits]
  · simp [splits]
  · cases fault with
    | unexpected expectation => exact Or.inl ⟨expectation, rfl⟩
    | refused cause => exact Or.inr ⟨cause, rfl⟩
  · refine ⟨closed, parse_eq_ok_iff_steps.mpr ⟨last, ?_⟩⟩
    rwa [Nat.add_sub_cancel, Text.lines_firstLines, takeBefore]
  · intro cause
    rw [Nat.add_sub_cancel, takeBefore]
    constructor
    · intro errorEq
      have faultEq : fault = .refused cause := by
        cases fault with
        | unexpected expectation => simp [Fault.toError] at errorEq
        | refused found => simpa [Fault.toError] using errorEq
      subst fault
      rcases step_eq_refused_iff.mp refused with
        ⟨declaration, name, value, rfl, tokensEq, notAdded⟩
      exact ⟨declaration, name, value, isOpen_iff_steps.mpr ⟨closed, steps⟩, tokensEq, notAdded⟩
    · rintro ⟨declaration, name, value, isOpen, tokensEq, notAdded⟩
      rcases isOpen_iff_steps.mp isOpen with ⟨found, openSteps⟩
      have refusedEntry : step (.inside declaration) (Text.tokens line) =
          .error (.refused cause) :=
        step_eq_refused_iff.mpr ⟨declaration, name, value, rfl, tokensEq, notAdded⟩
      have sameFailed := parse_eq_error_iff.mpr ⟨before, line, .refused cause,
        ⟨⟨after, splits⟩, notBlank, found, _, openSteps, refusedEntry⟩, rfl⟩
      rw [failed] at sameFailed
      exact Except.error.inj sameFailed
  · rintro front rest rfl lengthEq other
    -- The lines that the replaced text ends are the lines up to the one where reading stops.
    rw [Text.lines_append_feed] at splits
    have ended : Text.lines (front ++ "\n") = before ++ [line] := by
      have taken := congrArg (List.take (before.length + 1)) splits
      rw [List.take_length_add_append, ← lengthEq, List.take_left] at taken
      exact taken
    refine parse_eq_error_iff.mpr ⟨before, line, fault, ⟨⟨Text.lines other, ?_⟩, notBlank, closed,
      last, steps, refused⟩, rfl⟩
    rw [Text.lines_append_feed, ended, List.append_assoc, List.singleton_append]

/-- An error names the line at which reading stops, and nothing after that line can change it; a
text without an error has none in any of its first lines. -/
theorem parse_located (text : String) :
    (∀ error, parse text = .error error → ∃ number line, Located text error number line) ∧
      ∀ model, parse text = .ok model → ∀ count, ∃ front,
        parse (Text.firstLines count text) = .ok front ∧ front <+: model := by
  constructor
  · intro error failed
    rcases parse_eq_error_iff.mp failed with ⟨before, line, fault, stops, rfl⟩
    exact ⟨before.length + 1, line, located_of_stopsAt stops⟩
  · intro model parsed count
    rcases parse_eq_ok_iff_steps.mp parsed with ⟨last, steps⟩
    rw [← List.take_append_drop count (Text.lines text), tokenLines_append] at steps
    rcases steps.split with ⟨middle, front, rest, first, -, rfl⟩
    refine ⟨front, parse_eq_ok_iff_steps.mpr ⟨middle, ?_⟩, List.prefix_append front rest⟩
    rwa [Text.lines_firstLines]

/-- A text whose eighth line gives a name that is taken, after a declaration that is closed. -/
def takenName : String :=
  "class C\r\n\x7b \r\n\x7d\r\n\r\nenum E\r\n\x7b\r\na 1\r\n\tA 2 \r\n\x7b"

theorem parse_located_takenName :
    (parse takenName = .error (.refused 8 "\tA 2 " (.duplicateName "E" "a")) ∧
      ∃ number line, Located takenName (.refused 8 "\tA 2 " (.duplicateName "E" "a")) number line) ∧
    parse (Text.firstLines 7 takenName) = .ok [.ofClass ⟨"C", []⟩] ∧
      ∃ front, parse (Text.firstLines 2 (Text.firstLines 7 takenName)) = .ok front ∧
        front <+: [.ofClass ⟨"C", []⟩] := by
  have failed : parse takenName = .error (.refused 8 "\tA 2 " (.duplicateName "E" "a")) := by
    decide +kernel
  have parsed : parse (Text.firstLines 7 takenName) = .ok [.ofClass ⟨"C", []⟩] := by
    decide +kernel
  exact ⟨⟨failed, (parse_located takenName).1 _ failed⟩, parsed, (parse_located _).2 _ parsed 2⟩

/-- The position of a line among the lines that are not blank, both counted from one. -/
def rank (text : String) (number : Nat) : Nat :=
  (tokenLines ((Text.lines text).take number)).length

theorem rank_of_splits {text line : String} {before after : List String}
    (splits : Text.lines text = before ++ line :: after) (notBlank : Text.tokens line ≠ []) :
    rank text (before.length + 1) = (tokenLines before).length + 1 := by
  have taken : (Text.lines text).take (before.length + 1) = before ++ [line] := by
    rw [splits, List.take_length_add_append]
    rfl
  rw [rank, taken, tokenLines_append, tokenLines_cons notBlank, List.length_append]
  rfl

theorem exists_splits_of_tokenLines {lines : List String} {front back : List (List String)}
    {lineTokens : List String} (tokensEq : tokenLines lines = front ++ lineTokens :: back) :
    ∃ before line after, lines = before ++ line :: after ∧ tokenLines before = front ∧
      Text.tokens line = lineTokens := by
  induction lines generalizing front with
  | nil => simp [tokenLines] at tokensEq
  | cons first rest ih =>
      by_cases blank : Text.tokens first = []
      · rw [tokenLines_cons_of_blank blank] at tokensEq
        rcases ih tokensEq with ⟨before, line, after, rfl, rfl, lineEq⟩
        exact ⟨first :: before, line, after, rfl, tokenLines_cons_of_blank blank, lineEq⟩
      · rw [tokenLines_cons blank] at tokensEq
        cases front with
        | nil =>
            rw [List.nil_append, List.cons.injEq] at tokensEq
            exact ⟨[], first, rest, rfl, rfl, tokensEq.1⟩
        | cons firstTokens others =>
            rw [List.cons_append, List.cons.injEq] at tokensEq
            rcases ih tokensEq.2 with ⟨before, line, after, rfl, rfl, lineEq⟩
            exact ⟨first :: before, line, after, rfl, by rw [tokenLines_cons blank, tokensEq.1],
              lineEq⟩

/-- Only the tokens of the lines that are not blank matter: two texts that agree in them give the
same model, or fail with the same fault at the same of these lines. -/
theorem parse_of_sameTokens {first second : String}
    (sameTokens : tokenLines (Text.lines first) = tokenLines (Text.lines second)) :
    (∃ model, parse first = .ok model ∧ parse second = .ok model) ∨
      ∃ fault firstNumber firstLine secondNumber secondLine,
        parse first = .error (Fault.toError fault firstNumber firstLine) ∧
        parse second = .error (Fault.toError fault secondNumber secondLine) ∧
        rank first firstNumber = rank second secondNumber := by
  cases result : parse first with
  | ok model =>
      rcases parse_eq_ok_iff_steps.mp result with ⟨last, steps⟩
      rw [sameTokens] at steps
      exact Or.inl ⟨model, rfl, parse_eq_ok_iff_steps.mpr ⟨last, steps⟩⟩
  | error error =>
      rcases parse_eq_error_iff.mp result with
        ⟨before, line, fault, ⟨⟨after, splits⟩, notBlank, closed, last, steps, refused⟩, rfl⟩
      have cut : tokenLines (Text.lines second) =
          tokenLines before ++ Text.tokens line :: tokenLines after := by
        rw [← sameTokens, splits, tokenLines_append, tokenLines_cons notBlank]
      rcases exists_splits_of_tokenLines cut with
        ⟨secondBefore, secondLine, secondAfter, secondSplits, beforeEq, lineEq⟩
      have secondNotBlank : Text.tokens secondLine ≠ [] := by
        rwa [lineEq]
      rw [← beforeEq] at steps
      rw [← lineEq] at refused
      refine Or.inr ⟨fault, before.length + 1, line, secondBefore.length + 1, secondLine, rfl,
        ?_, ?_⟩
      · exact parse_eq_error_iff.mpr ⟨secondBefore, secondLine, fault,
          ⟨⟨secondAfter, secondSplits⟩, secondNotBlank, closed, last, steps, refused⟩, rfl⟩
      · rw [rank_of_splits splits notBlank, rank_of_splits secondSplits secondNotBlank, beforeEq]

/-- The same tokens as in `takenName`, laid out in another way. -/
def takenNameRelaid : String :=
  "\n\u2003\n class  C\n\x7b\r\n\x7d\nenum\tE\n\x7b\n\r \r\na\u00A01\nA 2\n\n\n \x7b"

theorem parse_of_sameTokens_takenName :
    tokenLines (Text.lines takenName) = tokenLines (Text.lines takenNameRelaid) ∧
      ((∃ model, parse takenName = .ok model ∧ parse takenNameRelaid = .ok model) ∨
        ∃ fault firstNumber firstLine secondNumber secondLine,
          parse takenName = .error (Fault.toError fault firstNumber firstLine) ∧
          parse takenNameRelaid = .error (Fault.toError fault secondNumber secondLine) ∧
          rank takenName firstNumber = rank takenNameRelaid secondNumber) := by
  have sameTokens : tokenLines (Text.lines takenName) =
      tokenLines (Text.lines takenNameRelaid) := by
    decide +kernel
  exact ⟨sameTokens, parse_of_sameTokens sameTokens⟩

end Source

end GenModel
