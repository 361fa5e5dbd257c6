import GenModel.Proofs.Text.Tokens

/-!
# The first lines of a text

The beginning of a text that holds a given number of its lines, with the ends of these lines. Its
lines are the first lines of the text (`lines_firstLines`), so what is said about a text and its
lines can be said about the text before a line.
-/

namespace GenModel

namespace Text

/-- The characters up to and including the given number of line feeds. -/
def takeLines : Nat → List Char → List Char
  | 0, _ => []
  | _ + 1, [] => []
  | count + 1, c :: rest => c :: takeLines (if c = '\n' then count else count + 1) rest

/-- The first lines of a text and their ends, or the whole text if it has fewer lines. -/
def firstLines (count : Nat) (text : String) : String :=
  String.ofList (takeLines count text.toList)

theorem takeLines_prefix (count : Nat) (text : List Char) : takeLines count text <+: text := by
  fun_induction takeLines count text with
  | case1 => exact List.nil_prefix
  | case2 => exact List.nil_prefix
  | case3 count c rest ih => exact List.cons_prefix_cons.mpr ⟨rfl, ih⟩

theorem exists_eq_firstLines_append (count : Nat) (text : String) :
    ∃ rest, text = firstLines count text ++ rest := by
  rcases takeLines_prefix count text.toList with ⟨rest, characters⟩
  refine ⟨String.ofList rest, ?_⟩
  rw [← String.toList_inj, ← characters]
  simp [firstLines]

theorem takeLines_of_not_mem {count : Nat} {text : List Char} (noFeed : '\n' ∉ text) :
    takeLines (count + 1) text = text := by
  induction text with
  | nil => rfl
  | cons c rest ih =>
      rw [List.mem_cons, not_or] at noFeed
      rw [takeLines, if_neg (Ne.symm noFeed.1), ih noFeed.2]

theorem takeLines_append_feed {count : Nat} {line rest : List Char} (noFeed : '\n' ∉ line) :
    takeLines (count + 1) (line ++ '\n' :: rest) = line ++ '\n' :: takeLines count rest := by
  induction line with
  | nil => simp [takeLines]
  | cons c line ih =>
      rw [List.mem_cons, not_or] at noFeed
      rw [List.cons_append, takeLines, if_neg (Ne.symm noFeed.1), ih noFeed.2, List.cons_append]

theorem firstLines_of_not_mem {count : Nat} {text : String} (noFeed : '\n' ∉ text.toList) :
    firstLines (count + 1) text = text := by
  rw [firstLines, takeLines_of_not_mem noFeed, String.ofList_toList]

theorem firstLines_append_feed {count : Nat} {line rest : String} (noFeed : '\n' ∉ line.toList) :
    firstLines (count + 1) (line ++ "\n" ++ rest) = line ++ "\n" ++ firstLines count rest := by
  have characters : (line ++ "\n" ++ rest).toList = line.toList ++ '\n' :: rest.toList := by
    simp
  rw [firstLines, characters, takeLines_append_feed noFeed, ← String.toList_inj]
  simp [firstLines]

theorem exists_eq_append_feed {text : String} (mem : '\n' ∈ text.toList) :
    ∃ line rest : String, '\n' ∉ line.toList ∧ text = line ++ "\n" ++ rest := by
  rcases List.eq_append_cons_of_mem mem with ⟨line, rest, characters, noFeed⟩
  refine ⟨String.ofList line, String.ofList rest, by simpa using noFeed, ?_⟩
  rw [← String.toList_inj, characters]
  simp

theorem length_lines_le_one {text : String} (noFeed : '\n' ∉ text.toList) :
    (lines text).length ≤ 1 := by
  rw [lines, pieces_of_noFeed noFeed, List.length_map, linesOfPieces]
  by_cases empty : text.toList.isEmpty = true <;> simp [empty]

/-- The lines of the first lines are the first of the lines. -/
theorem lines_firstLines (count : Nat) (text : String) :
    lines (firstLines count text) = (lines text).take count := by
  induction count generalizing text with
  | zero => simp [firstLines, takeLines, lines, pieces, linesOfPieces]
  | succ count ih =>
      by_cases mem : '\n' ∈ text.toList
      · rcases exists_eq_append_feed mem with ⟨line, rest, noFeed, rfl⟩
        rw [firstLines_append_feed noFeed, lines_append_feed, lines_append_feed,
          lines_feed noFeed, ih, List.singleton_append, List.singleton_append,
          List.take_succ_cons]
      · have short : (lines text).length ≤ count + 1 := by
          have atMostOne := length_lines_le_one mem
          omega
        rw [firstLines_of_not_mem mem, List.take_of_length_le short]

end Text

end GenModel
