import GenModel.Source

/-!
# Moves of the reader

Reading a source goes from state to state. What one line can do is stated once, as the relation
`Moves`: a line declares, opens, adds an entry or closes, and every other line is an error. The
runs of the reader over several lines are the relation `Steps`.

Both relations see a line only through its tokens, and lines without tokens not at all. A text is
read without an error exactly if there is a run over its tokens from the outside, and then the
declarations that are closed in that run are the model (`parse_eq_ok_iff_steps`).
-/

namespace GenModel

namespace Source

/-- The tokens of the lines that are not blank. -/
def tokenLines (lines : List String) : List (List String) :=
  (lines.map Text.tokens).filter fun lineTokens => lineTokens ≠ []

section TokenLines

variable {line : String} {rest : List String}

theorem tokenLines_append (front back : List String) :
    tokenLines (front ++ back) = tokenLines front ++ tokenLines back := by
  simp [tokenLines]

theorem tokenLines_cons_of_blank (blank : Text.tokens line = []) :
    tokenLines (line :: rest) = tokenLines rest := by
  simp [tokenLines, blank]

theorem tokenLines_cons (notBlank : Text.tokens line ≠ []) :
    tokenLines (line :: rest) = Text.tokens line :: tokenLines rest := by
  simp [tokenLines, notBlank]

end TokenLines

/-- What a line of tokens can do in a state: the declaration that it closes and the next state. -/
inductive Moves : State → List String → Option Declaration → State → Prop where
  | declare {kind : Kind} {name : String} (identifier : isIdentifier name = true) :
      Moves .outside [kind.keyword, name] none (.declared (.empty kind name))
  | enter {declaration : Declaration} :
      Moves (.declared declaration) openingLine none (.inside declaration)
  | entry {declaration extended : Declaration} {name value : String}
      (accepted : declaration.add name value = .ok extended) :
      Moves (.inside declaration) [name, value] none (.inside extended)
  | close {declaration : Declaration} :
      Moves (.inside declaration) closingLine (some declaration) .outside

theorem ofKeyword?_eq_some_iff {word : String} {kind : Kind} :
    Kind.ofKeyword? word = some kind ↔ word = kind.keyword := by
  cases kind with
  | classKind => simp [Kind.ofKeyword?, Kind.keyword]
  | enumKind =>
      simp only [Kind.ofKeyword?, Kind.keyword]
      constructor
      · intro found
        by_cases isClass : word = "class"
        · simp [isClass] at found
        · by_cases isEnum : word = "enum"
          · exact isEnum
          · simp [isClass, isEnum] at found
      · intro isEnum
        simp [isEnum]

theorem declaration?_eq_some_iff {lineTokens : List String} {declaration : Declaration} :
    declaration? lineTokens = some declaration ↔
      ∃ kind name, isIdentifier name = true ∧ lineTokens = [kind.keyword, name] ∧
        declaration = .empty kind name := by
  constructor
  · intro found
    match lineTokens with
    | [word, name] =>
        by_cases identifier : isIdentifier name = true
        · simp only [declaration?, identifier, if_true, Option.map_eq_some_iff] at found
          rcases found with ⟨kind, isKeyword, rfl⟩
          refine ⟨kind, name, identifier, ?_, rfl⟩
          rw [ofKeyword?_eq_some_iff.mp isKeyword]
        · simp [declaration?, identifier] at found
    | [] => simp [declaration?] at found
    | [_] => simp [declaration?] at found
    | _ :: _ :: _ :: _ => simp [declaration?] at found
  · rintro ⟨kind, name, identifier, rfl, rfl⟩
    simp only [declaration?, identifier, if_true]
    rw [ofKeyword?_eq_some_iff.mpr rfl, Option.map_some]

/-- The step function takes exactly the moves. -/
theorem step_eq_ok_iff {state next : State} {lineTokens : List String}
    {closed : Option Declaration} :
    step state lineTokens = .ok (closed, next) ↔ Moves state lineTokens closed next := by
  constructor
  · intro taken
    cases state with
    | outside =>
        cases found : declaration? lineTokens with
        | none => simp [step, found] at taken
        | some declaration =>
            rcases declaration?_eq_some_iff.mp found with ⟨kind, name, identifier, rfl, rfl⟩
            simp only [step, found, Except.ok.injEq, Prod.mk.injEq] at taken
            rcases taken with ⟨rfl, rfl⟩
            exact .declare identifier
    | declared declaration =>
        by_cases opening : lineTokens = openingLine
        · subst lineTokens
          simp only [step, if_true, Except.ok.injEq, Prod.mk.injEq] at taken
          rcases taken with ⟨rfl, rfl⟩
          exact .enter
        · simp [step, opening] at taken
    | inside declaration =>
        by_cases closing : lineTokens = closingLine
        · subst lineTokens
          simp only [step, if_true, Except.ok.injEq, Prod.mk.injEq] at taken
          rcases taken with ⟨rfl, rfl⟩
          exact .close
        · by_cases opening : lineTokens = openingLine
          · subst lineTokens
            simp [step, openingLine, closingLine] at taken
          · match lineTokens with
            | [name, value] =>
                cases added : declaration.add name value with
                | error cause => simp [step, closing, opening, added] at taken
                | ok extended =>
                    simp only [step, closing, opening, added, if_false, Except.ok.injEq,
                      Prod.mk.injEq] at taken
                    rcases taken with ⟨rfl, rfl⟩
                    exact .entry added
            | [] => simp [step, closing, opening] at taken
            | [_] => simp [step, closing, opening] at taken
            | _ :: _ :: _ :: _ => simp [step, closing, opening] at taken
  · intro moves
    cases moves with
    | @declare kind name identifier =>
        simp only [step, declaration?_eq_some_iff.mpr ⟨kind, name, identifier, rfl, rfl⟩]
    | enter => simp [step]
    | entry accepted => simp [step, openingLine, closingLine, accepted]
    | close => simp [step]

/-- A run of the reader: the lines that it reads and the declarations that are closed by them. -/
inductive Steps : State → List (List String) → List Declaration → State → Prop where
  | refl {state : State} : Steps state [] [] state
  | cons {state next last : State} {lineTokens : List String} {rest : List (List String)}
      {closed : Option Declaration} {others : List Declaration}
      (move : Moves state lineTokens closed next) (steps : Steps next rest others last) :
      Steps state (lineTokens :: rest) (closed.toList ++ others) last

namespace Steps

theorem single {state next : State} {lineTokens : List String} {closed : Option Declaration}
    (move : Moves state lineTokens closed next) :
    Steps state [lineTokens] closed.toList next := by
  simpa using cons move refl

theorem append {state middle last : State} {front back : List (List String)}
    {closed others : List Declaration} (first : Steps state front closed middle)
    (second : Steps middle back others last) :
    Steps state (front ++ back) (closed ++ others) last := by
  induction first with
  | refl => exact second
  | cons move steps ih =>
      rw [List.cons_append, List.append_assoc]
      exact cons move (ih second)

/-- A run over two stretches of lines is a run over the first and one over the second. -/
theorem split {state last : State} {front back : List (List String)}
    {closed : List Declaration} (steps : Steps state (front ++ back) closed last) :
    ∃ middle before after, Steps state front before middle ∧ Steps middle back after last ∧
      closed = before ++ after := by
  induction front generalizing state closed with
  | nil => exact ⟨state, [], closed, refl, steps, rfl⟩
  | cons lineTokens rest ih =>
      cases steps with
      | cons move steps =>
          rcases ih steps with ⟨middle, before, after, first, second, rfl⟩
          exact ⟨middle, _, after, cons move first, second, (List.append_assoc ..).symm⟩

end Steps

theorem toExcept_after {reading : Reading} {closed : Option Declaration}
    {model : List Declaration} :
    (reading.after closed).toExcept = .ok model ↔
      ∃ others, reading.toExcept = .ok others ∧ model = closed.toList ++ others := by
  rcases reading with ⟨found, ending⟩
  cases closed <;> cases ending <;>
    simp [Reading.after, Reading.toExcept, eq_comm]

section ReadLines

variable {state next : State} {number : Nat} {line : String} {rest : List String}

theorem readLines_cons_of_blank (blank : Text.tokens line = []) :
    readLines state number (line :: rest) = readLines state (number + 1) rest := by
  rw [readLines, blank]

theorem readLines_cons_of_error {fault : Fault} (notBlank : Text.tokens line ≠ [])
    (refused : step state (Text.tokens line) = .error fault) :
    readLines state number (line :: rest) = ⟨[], .failed (fault.toError number line)⟩ := by
  cases tokensEq : Text.tokens line with
  | nil => exact absurd tokensEq notBlank
  | cons token others =>
      rw [tokensEq] at refused
      simp only [readLines, tokensEq, refused]

theorem readLines_cons_of_ok {closed : Option Declaration} (notBlank : Text.tokens line ≠ [])
    (taken : step state (Text.tokens line) = .ok (closed, next)) :
    readLines state number (line :: rest) = (readLines next (number + 1) rest).after closed := by
  cases tokensEq : Text.tokens line with
  | nil => exact absurd tokensEq notBlank
  | cons token others =>
      rw [tokensEq] at taken
      simp only [readLines, tokensEq, taken]

end ReadLines

/-- Lines are read without an error exactly if there is a run over their tokens. -/
theorem readLines_toExcept_eq_ok_iff {state : State} {number : Nat} {lines : List String}
    {model : List Declaration} :
    (readLines state number lines).toExcept = .ok model ↔
      ∃ last, Steps state (tokenLines lines) model last := by
  induction lines generalizing state number model with
  | nil =>
      constructor
      · intro read
        have noneClosed : [] = model := by
          cases state <;> simpa [readLines, Reading.toExcept, State.ending] using read
        subst model
        exact ⟨state, .refl⟩
      · rintro ⟨last, steps⟩
        cases steps
        cases state <;> rfl
  | cons line rest ih =>
      by_cases blank : Text.tokens line = []
      · rw [tokenLines_cons_of_blank blank, readLines_cons_of_blank blank]
        exact ih
      · rw [tokenLines_cons blank]
        cases stepEq : step state (Text.tokens line) with
        | error fault =>
            rw [readLines_cons_of_error blank stepEq]
            constructor
            · intro read
              simp [Reading.toExcept] at read
            · rintro ⟨last, steps⟩
              cases steps with
              | cons move steps =>
                  rw [step_eq_ok_iff.mpr move] at stepEq
                  simp at stepEq
        | ok result =>
            rcases result with ⟨closed, next⟩
            rw [readLines_cons_of_ok blank stepEq, toExcept_after]
            constructor
            · rintro ⟨model, read, rfl⟩
              rcases ih.mp read with ⟨last, steps⟩
              exact ⟨last, .cons (step_eq_ok_iff.mp stepEq) steps⟩
            · rintro ⟨last, steps⟩
              cases steps with
              | cons move steps =>
                  rw [step_eq_ok_iff.mpr move] at stepEq
                  simp only [Except.ok.injEq, Prod.mk.injEq] at stepEq
                  rcases stepEq with ⟨rfl, rfl⟩
                  exact ⟨_, ih.mpr ⟨last, steps⟩, rfl⟩

/-- A text is read without an error exactly if there is a run over its tokens. -/
theorem parse_eq_ok_iff_steps {text : String} {model : List Declaration} :
    parse text = .ok model ↔
      ∃ last, Steps .outside (tokenLines (Text.lines text)) model last :=
  readLines_toExcept_eq_ok_iff

end Source

end GenModel
