import GenModel.Text.Blank
import GenModel.Text.Lines

/-!
# Tokens and lines

What is found by cutting a text at its marks holds no mark, and a text without marks is found as
it is. From that follow the two facts about written text that a reader relies on: a line made of
two tokens is cut into these tokens, and the lines that were written are the lines that are read.
-/

namespace GenModel

namespace Text

/-- A text that can be a token: it is not empty and holds no blank character. -/
def IsToken (text : String) : Prop :=
  text ≠ "" ∧ ∀ c ∈ text.toList, isBlank c = false

instance (text : String) : Decidable (IsToken text) :=
  decidable_of_iff (text ≠ "" ∧ (text.toList.all fun c => !isBlank c) = true) (by simp [IsToken])

section Pieces

variable {isMark : Char → Bool}

theorem pieces_of_forall_not_mark {text : List Char} (clean : ∀ c ∈ text, isMark c = false) :
    pieces isMark text = [text] := by
  induction text with
  | nil => rfl
  | cons c rest ih =>
      rw [List.forall_mem_cons] at clean
      simp [pieces, clean.1, ih clean.2, consFirst]

/-- The pieces between marks hold characters of the text, but no marks. -/
theorem of_mem_pieces {text piece : List Char} {c : Char} (mem : piece ∈ pieces isMark text)
    (charMem : c ∈ piece) : c ∈ text ∧ isMark c = false := by
  induction text generalizing piece with
  | nil =>
      simp only [pieces, List.mem_singleton] at mem
      subst piece
      simp at charMem
  | cons first rest ih =>
      by_cases mark : isMark first = true
      · simp only [pieces, mark, if_true, List.mem_cons] at mem
        rcases mem with rfl | mem
        · simp at charMem
        · rcases ih mem charMem with ⟨inRest, notMark⟩
          exact ⟨List.mem_cons_of_mem first inRest, notMark⟩
      · cases found : pieces isMark rest with
        | nil => exact absurd found (pieces_ne_nil isMark rest)
        | cons front others =>
            rw [pieces, if_neg mark, found, consFirst, List.mem_cons] at mem
            rcases mem with rfl | mem
            · rcases List.mem_cons.mp charMem with rfl | charMem
              · exact ⟨List.mem_cons_self, by simpa using mark⟩
              · rcases ih (by simp [found]) charMem with ⟨inRest, notMark⟩
                exact ⟨List.mem_cons_of_mem first inRest, notMark⟩
            · rcases ih (by simp [found, mem]) charMem with ⟨inRest, notMark⟩
              exact ⟨List.mem_cons_of_mem first inRest, notMark⟩

theorem mem_tokensBy_iff {text token : String} :
    token ∈ tokensBy isMark text ↔ token ≠ "" ∧ token.toList ∈ pieces isMark text.toList := by
  simp only [tokensBy, List.mem_map, List.mem_filter, Bool.not_eq_true', List.isEmpty_eq_false_iff]
  constructor
  · rintro ⟨piece, ⟨mem, nonempty⟩, rfl⟩
    simpa using ⟨nonempty, mem⟩
  · rintro ⟨nonempty, mem⟩
    exact ⟨token.toList, ⟨mem, by simpa using nonempty⟩, by simp⟩

theorem tokensBy_of_forall_not_mark {text : String} (nonempty : text ≠ "")
    (clean : ∀ c ∈ text.toList, isMark c = false) : tokensBy isMark text = [text] := by
  simp [tokensBy, pieces_of_forall_not_mark clean, nonempty]

/-- A mark separates the tokens before it from the tokens after it. -/
theorem tokensBy_append_mark {mark : Char} (isMark_mark : isMark mark = true)
    (before after : String) :
    tokensBy isMark (before ++ String.singleton mark ++ after) =
      tokensBy isMark before ++ tokensBy isMark after := by
  simp [tokensBy, pieces_append_mark isMark_mark]

end Pieces

theorem isToken_of_mem_tokens {text token : String} (mem : token ∈ tokens text) :
    IsToken token := by
  rcases mem_tokensBy_iff.mp mem with ⟨nonempty, mem⟩
  exact ⟨nonempty, fun c charMem => (of_mem_pieces mem charMem).2⟩

theorem tokens_of_isToken {token : String} (isToken : IsToken token) : tokens token = [token] :=
  tokensBy_of_forall_not_mark isToken.1 isToken.2

/-- A line of two tokens is cut into these tokens. -/
theorem tokens_pair {first second : String} (isFirst : IsToken first) (isSecond : IsToken second) :
    tokens (first ++ " " ++ second) = [first, second] := by
  have blank : isBlank ' ' = true := by decide
  have space : String.singleton ' ' = " " := by decide
  have cut := tokensBy_append_mark blank first second
  rw [space] at cut
  rw [tokens, cut, ← tokens, ← tokens, tokens_of_isToken isFirst, tokens_of_isToken isSecond]
  rfl

/-- A character of ASCII that can be seen. -/
def IsGraphic (c : Char) : Prop :=
  '!' ≤ c ∧ c ≤ '~'

instance (c : Char) : Decidable (IsGraphic c) :=
  inferInstanceAs (Decidable ('!' ≤ c ∧ c ≤ '~'))

theorem isBlank_of_isGraphic {c : Char} (isGraphic : IsGraphic c) : isBlank c = false := by
  have above : 0x21 ≤ c.toNat := isGraphic.1
  have below : c.toNat ≤ 0x7E := isGraphic.2
  have before : c.toNat.ble 0x0D = false ∧ c.toNat.ble 0x20 = false := by
    constructor <;> rw [Bool.eq_false_iff, ne_eq, Nat.ble_eq] <;> omega
  have within : c.toNat.ble 0x85 = true ∧ Nat.ble 0x85 c.toNat = false := by
    rw [Bool.eq_false_iff, ne_eq, Nat.ble_eq, Nat.ble_eq]
    omega
  simp [isBlank, inSpans, blankSpans, before, within, Span.contains]

/-- A text that stays one line when it is written: it holds no line feed and no carriage return. -/
def IsLine (text : String) : Prop :=
  ∀ c ∈ text.toList, c ≠ '\n' ∧ c ≠ '\r'

instance (text : String) : Decidable (IsLine text) :=
  decidable_of_iff ((text.toList.all fun c => c != '\n' && c != '\r') = true) (by simp [IsLine])

theorem isLine_append_iff {front back : String} :
    IsLine (front ++ back) ↔ IsLine front ∧ IsLine back := by
  simp only [IsLine, String.toList_append, List.forall_mem_append]

theorem dropReturn_of_not_mem {line : List Char} (clean : '\r' ∉ line) :
    dropReturn line = line := by
  have open_ : line.getLast? ≠ some '\r' := by
    intro last
    exact clean (List.mem_of_getLast? last)
  simp [dropReturn, open_]

theorem linesOfPieces_cons {piece : List Char} {others : List (List Char)}
    (nonempty : others ≠ []) :
    linesOfPieces (piece :: others) = dropReturn piece :: linesOfPieces others := by
  cases others with
  | nil => exact absurd rfl nonempty
  | cons _ _ => rfl

theorem linesOfPieces_append {ended others : List (List Char)} (nonempty : others ≠ []) :
    linesOfPieces (ended ++ others) = ended.map dropReturn ++ linesOfPieces others := by
  induction ended with
  | nil => rfl
  | cons piece rest ih =>
      rw [List.cons_append, linesOfPieces_cons (List.append_ne_nil_of_right_ne_nil rest nonempty),
        ih, List.map_cons, List.cons_append]

/-- A line feed separates the lines that it ends from the lines after it. -/
theorem lines_append_feed (front rest : String) :
    lines (front ++ "\n" ++ rest) = lines (front ++ "\n") ++ lines rest := by
  have cut (after : String) : pieces (· == '\n') (front ++ "\n" ++ after).toList =
      pieces (· == '\n') front.toList ++ pieces (· == '\n') after.toList := by
    have characters : (front ++ "\n" ++ after).toList = front.toList ++ '\n' :: after.toList := by
      simp
    rw [characters, pieces_append_mark (by decide)]
  have ended := cut ""
  rw [String.append_empty] at ended
  rw [lines, cut, linesOfPieces_append (pieces_ne_nil _ _), lines, ended,
    linesOfPieces_append (pieces_ne_nil _ _), List.map_append, List.map_append, lines]
  simp [pieces, linesOfPieces]

theorem pieces_of_noFeed {line : List Char} (noFeed : '\n' ∉ line) :
    pieces (· == '\n') line = [line] := by
  apply pieces_of_forall_not_mark
  intro c mem
  rw [beq_eq_false_iff_ne]
  rintro rfl
  exact noFeed mem

/-- A text without line feeds that is ended by one is one line. -/
theorem lines_feed {line : String} (noFeed : '\n' ∉ line.toList) :
    lines (line ++ "\n") = [String.ofList (dropReturn line.toList)] := by
  have characters : (line ++ "\n").toList = line.toList ++ '\n' :: [] := by
    simp
  rw [lines, characters, pieces_append_mark (by decide), pieces_of_noFeed noFeed,
    linesOfPieces_append (pieces_ne_nil _ _)]
  simp [pieces, linesOfPieces]

theorem lines_cons {line rest : String} (isLine : IsLine line) :
    lines (line ++ "\n" ++ rest) = line :: lines rest := by
  have noFeed : '\n' ∉ line.toList := by
    intro mem
    exact (isLine '\n' mem).1 rfl
  have noReturn : '\r' ∉ line.toList := by
    intro mem
    exact (isLine '\r' mem).2 rfl
  rw [lines_append_feed, lines_feed noFeed, dropReturn_of_not_mem noReturn, String.ofList_toList,
    List.singleton_append]

/-- The lines that were written are the lines that are read, before those of the text after them. -/
theorem lines_unlines_append {written : List String} (areLines : ∀ line ∈ written, IsLine line)
    (rest : String) : lines (unlines written ++ rest) = written ++ lines rest := by
  induction written with
  | nil => simp [unlines]
  | cons line others ih =>
      rw [List.forall_mem_cons] at areLines
      rw [unlines, String.append_assoc, lines_cons areLines.1, ih areLines.2, List.cons_append]

theorem lines_unlines {written : List String} (areLines : ∀ line ∈ written, IsLine line) :
    lines (unlines written) = written := by
  have read := lines_unlines_append areLines ""
  have noLines : lines "" = [] :=
    rfl
  rwa [String.append_empty, noLines, List.append_nil] at read

/-- A text that holds no blank character. -/
def IsUnbroken (text : String) : Prop :=
  ∀ c ∈ text.toList, isBlank c = false

instance (text : String) : Decidable (IsUnbroken text) :=
  decidable_of_iff ((text.toList.all fun c => !isBlank c) = true) (by simp [IsUnbroken])

theorem IsToken.isUnbroken {text : String} (isToken : IsToken text) : IsUnbroken text :=
  isToken.2

theorem isUnbroken_append_iff {front back : String} :
    IsUnbroken (front ++ back) ↔ IsUnbroken front ∧ IsUnbroken back := by
  simp only [IsUnbroken, String.toList_append, List.forall_mem_append]

theorem IsUnbroken.isLine {text : String} (isUnbroken : IsUnbroken text) : IsLine text := by
  intro c mem
  have notBlank := isUnbroken c mem
  constructor
  · rintro rfl
    exact absurd notBlank (by decide)
  · rintro rfl
    exact absurd notBlank (by decide)

theorem IsUnbroken.space_not_mem {text : String} (isUnbroken : IsUnbroken text) :
    ' ' ∉ text.toList := by
  intro mem
  exact absurd (isUnbroken ' ' mem) (by decide)

theorem isLine_of_isToken {token : String} (isToken : IsToken token) : IsLine token :=
  isToken.isUnbroken.isLine

theorem isLine_pair {first second : String} (isFirst : IsToken first) (isSecond : IsToken second) :
    IsLine (first ++ " " ++ second) := by
  simp only [isLine_append_iff]
  exact ⟨⟨isLine_of_isToken isFirst, by decide⟩, isLine_of_isToken isSecond⟩

end Text

end GenModel
