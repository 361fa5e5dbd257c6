import GenModel.Proofs.Text.Decimal

/-!
# Reading back what stands between marks

A character that the parts of a text do not hold shows where the parts end. Two texts that are
written with the same mark, or the same word with a mark in it, therefore agree only if their
parts agree. Lines are the case where the mark is the line feed, and decimal integers are read
back by `readInteger`.
-/

namespace GenModel

namespace Text

theorem append_mark_inj {Symbol : Type} {mark : Symbol} {front back rest tail : List Symbol}
    (frontFree : mark ∉ front) (backFree : mark ∉ back)
    (same : front ++ mark :: rest = back ++ mark :: tail) : front = back ∧ rest = tail := by
  induction front generalizing back with
  | nil =>
      cases back with
      | nil => exact ⟨rfl, (List.cons.inj same).2⟩
      | cons first others =>
          rw [List.nil_append, List.cons_append, List.cons.injEq] at same
          exact absurd (same.1 ▸ List.mem_cons_self) backFree
  | cons first others ih =>
      cases back with
      | nil =>
          rw [List.nil_append, List.cons_append, List.cons.injEq] at same
          exact absurd (same.1 ▸ List.mem_cons_self) frontFree
      | cons second more =>
          rw [List.cons_append, List.cons_append, List.cons.injEq] at same
          rcases same with ⟨rfl, same⟩
          rcases ih (List.not_mem_of_not_mem_cons frontFree)
            (List.not_mem_of_not_mem_cons backFree) same with ⟨rfl, restEq⟩
          exact ⟨rfl, restEq⟩

section Words

variable {mark : Char} {word front back rest tail : String}

/-- A word with a mark in it shows where the text before it ends. -/
theorem append_word_inj (mem : mark ∈ word.toList) (frontFree : mark ∉ front.toList)
    (backFree : mark ∉ back.toList) (same : front ++ (word ++ rest) = back ++ (word ++ tail)) :
    front = back ∧ rest = tail := by
  rcases List.eq_append_cons_of_mem mem with ⟨before, after, wordEq, beforeFree⟩
  have sameChars : (front.toList ++ before) ++ mark :: (after ++ rest.toList) =
      (back.toList ++ before) ++ mark :: (after ++ tail.toList) := by
    have chars := congrArg String.toList same
    simpa only [String.toList_append, wordEq, List.append_assoc, List.cons_append] using chars
  rcases append_mark_inj (by simp [frontFree, beforeFree]) (by simp [backFree, beforeFree])
    sameChars with ⟨frontEq, restEq⟩
  exact ⟨String.toList_inj.mp (List.append_cancel_right frontEq),
    String.toList_inj.mp (List.append_cancel_left restEq)⟩

/-- A word with a space in it shows where an unbroken text before it ends. -/
theorem IsUnbroken.append_inj (frontUnbroken : IsUnbroken front) (backUnbroken : IsUnbroken back)
    (spaced : ' ' ∈ word.toList) (same : front ++ (word ++ rest) = back ++ (word ++ tail)) :
    front = back ∧ rest = tail :=
  append_word_inj spaced frontUnbroken.space_not_mem backUnbroken.space_not_mem same

/-- A word with a mark in it shows where the text after it begins. -/
theorem append_word_inj_of_rest (mem : mark ∈ word.toList) (restFree : mark ∉ rest.toList)
    (tailFree : mark ∉ tail.toList) (same : front ++ (word ++ rest) = back ++ (word ++ tail)) :
    front = back ∧ rest = tail := by
  have memReverse : mark ∈ (String.ofList word.toList.reverse).toList := by
    simpa using mem
  have sameReverse : String.ofList rest.toList.reverse ++
        (String.ofList word.toList.reverse ++ String.ofList front.toList.reverse) =
      String.ofList tail.toList.reverse ++
        (String.ofList word.toList.reverse ++ String.ofList back.toList.reverse) := by
    have chars := congrArg (fun text => text.toList.reverse) same
    rw [← String.toList_inj]
    simpa using chars
  rcases append_word_inj memReverse (by simpa using restFree) (by simpa using tailFree) sameReverse
    with ⟨restEq, frontEq⟩
  simp only [String.ofList_inj, List.reverse_inj, String.toList_inj] at restEq frontEq
  exact ⟨frontEq, restEq⟩

end Words

theorem IsLine.feed_not_mem {line : String} (isLine : IsLine line) : '\n' ∉ line.toList := by
  intro mem
  exact (isLine '\n' mem).1 rfl

theorem joinLines_cons {line : String} {others : List String} (nonempty : others ≠ []) :
    joinLines (line :: others) = line ++ "\n" ++ joinLines others := by
  rw [joinLines, String.intercalate_cons_of_ne_nil nonempty, joinLines]

@[simp]
theorem joinLines_singleton (line : String) : joinLines [line] = line :=
  String.intercalate_singleton

theorem joinLines_append (front : List String) {back : List String} (nonempty : back ≠ []) :
    joinLines (front ++ back) = unlines front ++ joinLines back := by
  induction front with
  | nil => rw [List.nil_append, unlines, String.empty_append]
  | cons line others ih =>
      rw [List.cons_append, joinLines_cons (List.append_ne_nil_of_right_ne_nil others nonempty), ih,
        unlines, String.append_assoc, String.append_assoc, String.append_assoc]

theorem unlines_eq_joinLines {written : List String} (nonempty : written ≠ []) :
    unlines written = joinLines written ++ "\n" := by
  induction written with
  | nil => exact absurd rfl nonempty
  | cons line others ih =>
      by_cases last : others = []
      · rw [last, joinLines_singleton, unlines, unlines, String.append_empty]
      · rw [unlines, ih last, joinLines_cons last, ← String.append_assoc]

theorem joinLines_append_singleton {written : List String} (nonempty : written ≠ [])
    (last : String) : joinLines (written ++ [last]) = joinLines written ++ "\n" ++ last := by
  rw [joinLines_append written (List.cons_ne_nil last []), unlines_eq_joinLines nonempty,
    joinLines_singleton]

/-- The pieces between the line feeds of joined lines are the lines. -/
theorem pieces_joinLines {written : List String} (nonempty : written ≠ [])
    (areLines : ∀ line ∈ written, IsLine line) :
    pieces (· == '\n') (joinLines written).toList = written.map String.toList := by
  induction written with
  | nil => exact absurd rfl nonempty
  | cons line others ih =>
      rw [List.forall_mem_cons] at areLines
      have noFeed := pieces_of_noFeed areLines.1.feed_not_mem
      by_cases last : others = []
      · subst others
        rw [joinLines, String.intercalate_singleton, noFeed]
        rfl
      · have characters : (joinLines (line :: others)).toList =
            line.toList ++ '\n' :: (joinLines others).toList := by
          simp [joinLines_cons last]
        rw [characters, pieces_append_mark (by decide), noFeed, ih last areLines.2]
        rfl

/-- Joined lines are read as they are, unless the last one is empty. -/
theorem lines_joinLines {written : List String} (areLines : ∀ line ∈ written, IsLine line)
    (ended : ∃ last ∈ written.getLast?, last ≠ "") : lines (joinLines written) = written := by
  rcases ended with ⟨last, isLast, nonempty⟩
  rcases List.getLast?_eq_some_iff.mp isLast with ⟨front, rfl⟩
  have kept : (front.map String.toList).map dropReturn = front.map String.toList := by
    rw [List.map_map]
    apply List.map_congr_left
    intro line mem
    apply dropReturn_of_not_mem
    intro returnMem
    exact (areLines line (List.mem_append_left _ mem) '\r' returnMem).2 rfl
  have lastLine : linesOfPieces [last.toList] = [last.toList] := by
    simp [linesOfPieces, nonempty]
  rw [lines, pieces_joinLines (by simp) areLines, List.map_append,
    linesOfPieces_append (by simp), kept, List.map_singleton, lastLine]
  simp

/-- Lines are determined by the text that they make up. -/
theorem joinLines_inj {first second : List String} (firstNonempty : first ≠ [])
    (secondNonempty : second ≠ []) (firstLines : ∀ line ∈ first, IsLine line)
    (secondLines : ∀ line ∈ second, IsLine line) (same : joinLines first = joinLines second) :
    first = second := by
  have sameChars : first.map String.toList = second.map String.toList := by
    rw [← pieces_joinLines firstNonempty firstLines, same,
      pieces_joinLines secondNonempty secondLines]
  exact (List.map_inj_right fun _ _ => String.toList_inj.mp).mp sameChars

theorem unlines_append (front back : List String) :
    unlines (front ++ back) = unlines front ++ unlines back := by
  induction front with
  | nil => simp [unlines]
  | cons line others ih => simp [unlines, ih, String.append_assoc]

/-- Lines that are not empty and an empty line after them show where they end. -/
theorem unlines_append_inj {first second : List String} {rest tail : String}
    (firstLines : ∀ line ∈ first, line ≠ "" ∧ IsLine line)
    (secondLines : ∀ line ∈ second, line ≠ "" ∧ IsLine line)
    (same : unlines (first ++ [""]) ++ rest = unlines (second ++ [""]) ++ tail) :
    first = second ∧ rest = tail := by
  have cut {line other more others : String} (isLine : IsLine line) (isOther : IsLine other)
      (eq : line ++ ("\n" ++ more) = other ++ ("\n" ++ others)) : line = other ∧ more = others :=
    append_word_inj (by decide : '\n' ∈ "\n".toList) isLine.feed_not_mem isOther.feed_not_mem eq
  induction first generalizing second with
  | nil =>
      cases second with
      | nil => exact ⟨rfl, by simpa [unlines] using same⟩
      | cons line others =>
          rw [List.forall_mem_cons] at secondLines
          simp only [List.nil_append, List.cons_append, unlines, String.append_assoc] at same
          exact absurd (cut (by decide) secondLines.1.2 same).1.symm secondLines.1.1
  | cons line others ih =>
      rw [List.forall_mem_cons] at firstLines
      cases second with
      | nil =>
          simp only [List.nil_append, List.cons_append, unlines, String.append_assoc] at same
          exact absurd (cut firstLines.1.2 (by decide) same).1 firstLines.1.1
      | cons secondLine more =>
          rw [List.forall_mem_cons] at secondLines
          simp only [List.cons_append, unlines, String.append_assoc] at same
          rcases cut firstLines.1.2 secondLines.1.2 same with ⟨rfl, sameRest⟩
          rcases ih firstLines.2 secondLines.2 sameRest with ⟨rfl, restEq⟩
          exact ⟨rfl, restEq⟩

/-- The lines with a comma after each but the last. -/
def listed (written : List String) : List String :=
  written.dropLast.map (fun line => line ++ ",") ++ written.getLast?.toList

theorem listed_cons {line : String} {others : List String} (nonempty : others ≠ []) :
    listed (line :: others) = (line ++ ",") :: listed others := by
  cases others with
  | nil => exact absurd rfl nonempty
  | cons next more => simp [listed]

theorem commaSeparated_eq_listed (written : List String) :
    commaSeparated written = listed written := by
  fun_induction commaSeparated written with
  | case1 => rfl
  | case2 => rfl
  | case3 line others nonempty ih => rw [ih, listed_cons nonempty]

theorem length_listed (written : List String) : (listed written).length = written.length := by
  rw [← commaSeparated_eq_listed]
  fun_induction commaSeparated written with
  | case1 => rfl
  | case2 => rfl
  | case3 line others _ ih => simp [ih]

theorem listed_eq_nil_iff {written : List String} : listed written = [] ↔ written = [] := by
  rw [← List.length_eq_zero_iff, length_listed, List.length_eq_zero_iff]

theorem listed_inj {first second : List String} (same : listed first = listed second) :
    first = second := by
  have lengthEq := congrArg List.length same
  rw [length_listed, length_listed] at lengthEq
  -- Lists of one length reach the last line, the only one without a comma, at the same time.
  induction first generalizing second with
  | nil => exact (List.eq_nil_of_length_eq_zero lengthEq.symm).symm
  | cons line others ih =>
      cases second with
      | nil => simp at lengthEq
      | cons secondLine more =>
          rw [List.length_cons, List.length_cons, Nat.add_right_cancel_iff] at lengthEq
          by_cases last : others = []
          · subst others
            rw [List.length_nil] at lengthEq
            rw [List.eq_nil_of_length_eq_zero lengthEq.symm] at same ⊢
            exact same
          · have secondLast : more ≠ [] := by
              rintro rfl
              exact last (List.eq_nil_of_length_eq_zero lengthEq)
            rw [listed_cons last, listed_cons secondLast, List.cons.injEq,
              String.append_left_inj] at same
            rw [same.1, ih same.2 lengthEq]

theorem isLine_of_mem_listed {written : List String} (areLines : ∀ line ∈ written, IsLine line) :
    ∀ line ∈ listed written, IsLine line := by
  rw [← commaSeparated_eq_listed]
  fun_induction commaSeparated written with
  | case1 => simp
  | case2 => exact areLines
  | case3 line others _ ih =>
      rw [List.forall_mem_cons] at areLines
      rw [List.forall_mem_cons, isLine_append_iff]
      exact ⟨⟨areLines.1, by decide⟩, ih areLines.2⟩

theorem map_listed (front : String) (written : List String) :
    (listed written).map (fun line => front ++ line) =
      listed (written.map fun line => front ++ line) := by
  simp [listed, Function.comp_def, String.append_assoc, List.getLast?_map, Option.toList_map]

theorem joinLines_listed (written : List String) :
    joinLines (listed written) = ",\n".intercalate written := by
  induction written with
  | nil => rfl
  | cons line others ih =>
      by_cases last : others = []
      · rw [last, String.intercalate_singleton]
        exact joinLines_singleton line
      · have comma : line ++ "," ++ "\n" = line ++ ",\n" :=
          String.append_assoc
        rw [listed_cons last, joinLines_cons (mt listed_eq_nil_iff.mp last), ih, comma,
          String.intercalate_cons_of_ne_nil last]

/-- The text of entries that stand in lines of their own, with commas between them. -/
def listing (entries : List String) : String :=
  if entries = [] then "" else ",\n".intercalate entries ++ "\n"

theorem unlines_listed (entries : List String) : unlines (listed entries) = listing entries := by
  rw [listing]
  split
  · next isEmpty =>
      rw [isEmpty]
      rfl
  · next nonempty =>
      rw [unlines_eq_joinLines (mt listed_eq_nil_iff.mp nonempty), joinLines_listed]

/-- Entries are listed between the lines before and after them. -/
theorem joinLines_listed_append (front entries : List String) {back : List String}
    (nonempty : back ≠ []) :
    joinLines (front ++ listed entries ++ back) =
      unlines front ++ listing entries ++ joinLines back := by
  rw [joinLines_append _ nonempty, unlines_append, unlines_listed]

theorem isLine_intercalate {separator : String} {parts : List String}
    (isSeparator : IsLine separator) (areLines : ∀ part ∈ parts, IsLine part) :
    IsLine (separator.intercalate parts) := by
  induction parts with
  | nil => exact (by decide : IsLine "")
  | cons part others ih =>
      rw [List.forall_mem_cons] at areLines
      by_cases last : others = []
      · rw [last, String.intercalate_singleton]
        exact areLines.1
      · rw [String.intercalate_cons_of_ne_nil last, isLine_append_iff, isLine_append_iff]
        exact ⟨⟨areLines.1, isSeparator⟩, ih areLines.2⟩

theorem parenthesis_not_mem_decimal (number : Int) : '(' ∉ (decimal number).toList := by
  intro mem
  rcases minus_or_isDigit_of_mem_decimal mem with minus | isDigit
  · exact absurd minus (by decide)
  · exact absurd isDigit (by decide)

/-- Decimal integers of sixty-four bits are determined by their text. -/
theorem decimal_inj {first second : Int64} (same : decimal first.toInt = decimal second.toInt) :
    first = second := by
  have read := congrArg readInteger same
  rw [readInteger_decimal, readInteger_decimal] at read
  exact Except.ok.inj read

end Text

/-- What the image of each entry determines is determined by the images in order. -/
theorem map_eq_map_of_forall {Entry Image Part : Type} {write : Entry → Image}
    {part : Entry → Part} {first second : List Entry}
    (determines : ∀ entry ∈ first, ∀ other ∈ second, write entry = write other →
      part entry = part other)
    (same : first.map write = second.map write) : first.map part = second.map part := by
  induction first generalizing second with
  | nil =>
      rw [List.map_nil, eq_comm, List.map_eq_nil_iff] at same
      rw [same]
  | cons entry others ih =>
      cases second with
      | nil => simp at same
      | cons other more =>
          rw [List.map_cons, List.map_cons, List.cons.injEq] at same
          rw [List.map_cons, List.map_cons, determines entry (by simp) other (by simp) same.1,
            ih (fun a aMem b bMem => determines a (by simp [aMem]) b (by simp [bMem])) same.2]

end GenModel
