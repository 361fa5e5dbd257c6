import GenModel.Proofs.Source.Failure

/-!
# Sources one after the other

A text of complete declarations can be put in front of any other text. The reader is outside of all
declarations when it comes to the second text, so it reads that text as if nothing stood before it:
it finds the same declarations, or fails in the same way at a line whose number counts the lines of
the first text as well.

The first text has to be ended, since otherwise the seam would lie within a line.
-/

namespace GenModel

/-- The failure of a text that the given number of lines is put in front of. -/
def Error.afterLines (count : Nat) : Error → Error
  | malformed line content expectation => malformed (line + count) content expectation
  | refused line content cause => refused (line + count) content cause
  | error => error

/-- The text is empty, or its last line is ended. -/
def Text.IsEnded (text : String) : Prop :=
  text = "" ∨ ∃ front, text = front ++ "\n"

theorem Text.IsEnded.lines_append {front : String} (isEnded : IsEnded front) (back : String) :
    lines (front ++ back) = lines front ++ lines back := by
  rcases isEnded with rfl | ⟨body, rfl⟩
  · rw [String.empty_append]
    rfl
  · exact lines_append_feed body back

namespace Source

theorem Fault.afterLines_toError (fault : Fault) (number count : Nat) (line : String) :
    (fault.toError number line).afterLines count = fault.toError (number + count) line := by
  cases fault <;> rfl

/-- The lines are those of complete declarations, none of which is left open. -/
def AreComplete (lines : List (List String)) : Prop :=
  ∃ blocks : List Block, lines = blocks.flatMap Block.lines

section Runs

variable {declaration : Declaration} {last : State} {model : List Declaration}

theorem Steps.eq_outside_of_body {entries : List (String × String)}
    (steps : Steps (.inside declaration) (entries.map entryLine ++ [closingLine]) model last) :
    last = .outside := by
  induction entries generalizing declaration model with
  | nil =>
      cases steps with
      | cons move steps =>
          cases move
          cases steps
          rfl
  | cons entry rest ih =>
      rcases entry with ⟨name, value⟩
      cases steps with
      | cons move steps =>
          cases move
          exact ih steps

theorem Moves.exists_eq_declared {lineTokens : List String} {closed : Option Declaration}
    {next : State} (move : Moves .outside lineTokens closed next) :
    ∃ declaration, next = .declared declaration := by
  cases move with
  | declare identifier => exact ⟨_, rfl⟩

theorem Steps.eq_outside_of_block {block : Block}
    (steps : Steps .outside block.lines model last) : last = .outside := by
  cases steps with
  | cons declares steps =>
      rcases declares.exists_eq_declared with ⟨declaration, rfl⟩
      cases steps with
      | cons enters steps =>
          cases enters
          exact steps.eq_outside_of_body

/-- The reader forgets everything at the end of complete declarations. -/
theorem Steps.eq_outside_of_areComplete {lines : List (List String)} (complete : AreComplete lines)
    (steps : Steps .outside lines model last) : last = .outside := by
  rcases complete with ⟨blocks, rfl⟩
  induction blocks generalizing model with
  | nil =>
      cases steps
      rfl
  | cons block rest ih =>
      rw [List.flatMap_cons] at steps
      rcases steps.split with ⟨middle, closed, others, first, second, -⟩
      have outside := first.eq_outside_of_block
      subst middle
      exact ih second

end Runs

section Seam

variable {front : String} {model : List Declaration}

theorem steps_of_complete (complete : AreComplete (tokenLines (Text.lines front)))
    (parsed : parse front = .ok model) :
    Steps .outside (tokenLines (Text.lines front)) model .outside := by
  rcases parse_eq_ok_iff_steps.mp parsed with ⟨last, steps⟩
  have outside := steps.eq_outside_of_areComplete complete
  subst last
  exact steps

theorem StopsAt.prepend {lines before : List String} {line : String} {fault : Fault}
    {earlier : List String} (steps : Steps .outside (tokenLines earlier) model .outside)
    (stops : StopsAt .outside lines before line fault) :
    StopsAt .outside (earlier ++ lines) (earlier ++ before) line fault := by
  rcases stops with ⟨⟨after, rfl⟩, notBlank, closed, last, others, refused⟩
  refine ⟨⟨after, (List.append_assoc ..).symm⟩, notBlank, model ++ closed, last, ?_, refused⟩
  rw [tokenLines_append]
  exact steps.append others

/-- Complete declarations can be put in front of any text: what is found in it follows what is found
in them, and a failure in it stays the same but for the number of its line. -/
theorem parse_append (isEnded : Text.IsEnded front)
    (complete : AreComplete (tokenLines (Text.lines front))) (parsed : parse front = .ok model)
    (back : String) :
    (∀ others, parse back = .ok others → parse (front ++ back) = .ok (model ++ others)) ∧
      ∀ error, parse back = .error error →
        parse (front ++ back) = .error (error.afterLines (Text.lines front).length) := by
  have steps := steps_of_complete complete parsed
  constructor
  · intro others backParsed
    rcases parse_eq_ok_iff_steps.mp backParsed with ⟨last, backSteps⟩
    refine parse_eq_ok_iff_steps.mpr ⟨last, ?_⟩
    rw [isEnded.lines_append, tokenLines_append]
    exact steps.append backSteps
  · intro error failed
    rcases parse_eq_error_iff.mp failed with ⟨before, line, fault, stops, rfl⟩
    refine parse_eq_error_iff.mpr ⟨Text.lines front ++ before, line, fault, ?_, ?_⟩
    · rw [isEnded.lines_append]
      exact stops.prepend steps
    · have numberEq : before.length + 1 + (Text.lines front).length =
          (Text.lines front ++ before).length + 1 := by
        rw [List.length_append]
        omega
      rw [Fault.afterLines_toError, numberEq]

/-- Two declarations with blank lines and carriage returns between them, the last line ended. -/
def completeText : String :=
  "class C\r\n\x7b\r\n a\tint \r\n\r\n\x7d\nenum E\n\x7b\n\x7d\n " ++ "\n"

theorem parse_append_completeText :
    Text.IsEnded completeText ∧ AreComplete (tokenLines (Text.lines completeText)) ∧
      parse (completeText ++ "enum C\n\x7b") =
        .ok [.ofClass ⟨"C", [⟨"a", "int"⟩]⟩, .ofEnum ⟨"E", []⟩] ∧
      parse (completeText ++ takenName) =
        .error (.refused 17 "\tA 2 " (.duplicateName "E" "a")) := by
  have isEnded : Text.IsEnded completeText := Or.inr ⟨_, rfl⟩
  have complete : AreComplete (tokenLines (Text.lines completeText)) := by
    refine ⟨[⟨.classKind, "C", [("a", "int")], by decide⟩, ⟨.enumKind, "E", [], by decide⟩], ?_⟩
    decide +kernel
  have parsed : parse completeText =
      .ok [.ofClass ⟨"C", [⟨"a", "int"⟩]⟩, .ofEnum ⟨"E", []⟩] := by
    decide +kernel
  refine ⟨isEnded, complete, ?_, ?_⟩
  · exact (parse_append isEnded complete parsed _).1 [] (by decide +kernel)
  · exact (parse_append isEnded complete parsed _).2
      (.refused 8 "\tA 2 " (.duplicateName "E" "a")) (by decide +kernel)

end Seam

end Source

end GenModel
