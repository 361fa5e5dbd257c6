import GenModel.Text.Alphanumeric
import GenModel.Text.CaseMap
import GenModel.Text.LetterCase
import GenModel.Text.Split

/-!
# The words of a name

A name such as `someHTTPValue_2` is cut into words first at everything that is neither a letter
nor a number and then by case: a word ends where a capital letter follows a small one, and
before the last of several capital letters that a small letter follows. Numbers and letters
without case keep the case that was read before them.

The words are put together again as `SOME_HTTP_VALUE_2` or as `SomeHttpValue2`.
-/

namespace GenModel

namespace Text

/-- The case of the word that is being read: nothing read yet, or the case read last. -/
inductive WordCase where
  | unknown
  | lowercase
  | uppercase
  deriving DecidableEq, Repr

namespace WordCase

/-- The case after one more character. -/
def next (wordCase : WordCase) (c : Char) : WordCase :=
  if isLowercase c then lowercase else if isUppercase c then uppercase else wordCase

end WordCase

/-- The words of a text of letters and numbers, the first word going on from what was read in the
given case. -/
def cutWords (wordCase : WordCase) : List Char → List (List Char)
  | [] => []
  | [last] => [[last]]
  | c :: following :: rest =>
    if wordCase.next c = .lowercase ∧ isUppercase following then
      [c] :: cutWords .unknown (following :: rest)
    else if wordCase = .uppercase ∧ isUppercase c ∧ isLowercase following then
      [] :: consFirst c (cutWords .unknown (following :: rest))
    else
      consFirst c (cutWords (wordCase.next c) (following :: rest))

theorem flatten_consFirst (c : Char) (parts : List (List Char)) :
    (consFirst c parts).flatten = c :: parts.flatten := by
  cases parts with
  | nil => rfl
  | cons piece others => rfl

/-- Cutting into words keeps every character in its place. -/
theorem flatten_cutWords (wordCase : WordCase) (text : List Char) :
    (cutWords wordCase text).flatten = text := by
  fun_induction cutWords wordCase text with
  | case1 => rfl
  | case2 => rfl
  | case3 wordCase c following rest _ ih => simp [ih]
  | case4 wordCase c following rest _ _ ih => simp [flatten_consFirst, ih]
  | case5 wordCase c following rest _ _ ih => simp [flatten_consFirst, ih]

/-- The words of a name. -/
def nameWords (name : String) : List (List Char) :=
  (pieces (fun c => !isAlphanumeric c) name.toList).flatMap (cutWords .unknown)

/-- The name in capital letters, its words joined by underscores. -/
def shoutySnake (name : String) : String :=
  String.ofList (List.intercalate ['_'] ((nameWords name).map fun word => word.flatMap upper))

/-- The text in small letters. A sigma at the end takes its final form. -/
def lowerWord : List Char → List Char
  | [] => []
  | ['Σ'] => ['ς']
  | c :: rest => lower c ++ lowerWord rest

/-- The word with a capital letter at its beginning and small letters after it. -/
def capitalWord : List Char → List Char
  | [] => []
  | first :: rest => upper first ++ lowerWord rest

/-- The name as one word in which every word of it begins with a capital letter. -/
def upperCamel (name : String) : String :=
  String.ofList ((nameWords name).flatMap capitalWord)

end Text

end GenModel
