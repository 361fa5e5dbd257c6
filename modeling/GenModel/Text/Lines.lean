import GenModel.Text.Split

/-!
# Lines

A line ends with a line feed, or with a carriage return and a line feed. The last line need not
be ended; a carriage return that no line feed follows belongs to its line. Written text comes in
two forms: `unlines` ends every line, `joinLines` leaves the last one open.
-/

namespace GenModel

namespace Text

/-- The line without the carriage return at its end, if there is one. -/
def dropReturn (line : List Char) : List Char :=
  if line.getLast? = some '\r' then line.dropLast else line

/-- The lines that the pieces between line feeds make up. -/
def linesOfPieces : List (List Char) → List (List Char)
  | [] => []
  | [last] => if last.isEmpty then [] else [last]
  | piece :: others => dropReturn piece :: linesOfPieces others

/-- The lines of a text, without their ends. -/
def lines (text : String) : List String :=
  (linesOfPieces (pieces (· == '\n') text.toList)).map String.ofList

/-- The text of the lines, every line ended. -/
def unlines : List String → String
  | [] => ""
  | line :: others => line ++ "\n" ++ unlines others

/-- The text of the lines, the last line left open. -/
def joinLines (linesOfText : List String) : String :=
  "\n".intercalate linesOfText

/-- The lines with a comma after every one but the last. -/
def commaSeparated : List String → List String
  | [] => []
  | [last] => [last]
  | line :: others => (line ++ ",") :: commaSeparated others

end Text

end GenModel
