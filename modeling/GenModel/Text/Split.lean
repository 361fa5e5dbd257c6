/-!
# Cutting a text into pieces

Lines, the tokens of a line, the parameters of a map type, the parts of a path and the words of
a name are all found by cutting a text at its marks. A text is cut as a list of characters;
`tokensBy` is the form that most readers use, where runs of marks count as one and marks at the
ends count for nothing.
-/

namespace GenModel

namespace Text

/-- Puts a character in front of the first piece. -/
def consFirst (c : Char) : List (List Char) → List (List Char)
  | [] => [[c]]
  | piece :: others => (c :: piece) :: others

/-- The pieces between the marks. There is always one piece more than there are marks. -/
def pieces (isMark : Char → Bool) : List Char → List (List Char)
  | [] => [[]]
  | c :: rest =>
    if isMark c then [] :: pieces isMark rest else consFirst c (pieces isMark rest)

theorem consFirst_append {c : Char} {front back : List (List Char)} (nonempty : front ≠ []) :
    consFirst c (front ++ back) = consFirst c front ++ back := by
  cases front with
  | nil => exact absurd rfl nonempty
  | cons piece others => rfl

theorem pieces_ne_nil (isMark : Char → Bool) (text : List Char) : pieces isMark text ≠ [] := by
  cases text with
  | nil => simp [pieces]
  | cons c rest =>
    by_cases mark : isMark c = true
    · simp [pieces, mark]
    · cases found : pieces isMark rest <;> simp [pieces, mark, consFirst, found]

/-- A mark separates the pieces before it from the pieces after it. -/
theorem pieces_append_mark {isMark : Char → Bool} {mark : Char} (isMark_mark : isMark mark = true)
    (before after : List Char) :
    pieces isMark (before ++ mark :: after) = pieces isMark before ++ pieces isMark after := by
  induction before with
  | nil => simp [pieces, isMark_mark]
  | cons c rest ih =>
    by_cases first : isMark c = true
    · simp [pieces, first, ih]
    · simp [pieces, first, ih, consFirst_append (pieces_ne_nil isMark rest)]

/-- The pieces between the marks that are not empty. -/
def tokensBy (isMark : Char → Bool) (text : String) : List String :=
  ((pieces isMark text.toList).filter fun piece => !piece.isEmpty).map String.ofList

/-- Whether `part` stands somewhere in the text. -/
def occursIn (part : List Char) : List Char → Bool
  | [] => part.isEmpty
  | c :: rest => part.isPrefixOf (c :: rest) || occursIn part rest

end Text

end GenModel
