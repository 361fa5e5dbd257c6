import GenModel.Proofs.Text.UpperCase

/-!
# What the words of a name keep

Cutting a name into words drops the characters that are neither letters nor numbers and keeps all
others in their order (`flatten_nameWords`), and no word is empty. So the first word begins with the
first letter or number of the name, and however the words are put together again, the result begins
with the capital form of that character.
-/

namespace GenModel

namespace Text

theorem flatten_pieces (isMark : Char → Bool) (text : List Char) :
    (pieces isMark text).flatten = text.filter fun c => !isMark c := by
  induction text with
  | nil => rfl
  | cons c rest ih =>
      by_cases mark : isMark c = true
      · simp [pieces, mark, ih]
      · simp [pieces, mark, flatten_consFirst, ih]

/-- The words of a name hold its letters and numbers, in order, and nothing else. -/
theorem flatten_nameWords (name : String) :
    (nameWords name).flatten = name.toList.filter isAlphanumeric := by
  have uncut : List.flatten ∘ cutWords .unknown = id :=
    funext fun piece => flatten_cutWords .unknown piece
  rw [nameWords, List.flatMap_def, List.flatten_flatten, List.map_map, uncut, List.map_id,
    flatten_pieces]
  simp only [Bool.not_not]

theorem nil_notMem_consFirst {c : Char} {parts : List (List Char)} (nonempty : [] ∉ parts.tail) :
    [] ∉ consFirst c parts := by
  cases parts with
  | nil => simp [consFirst]
  | cons piece others => simpa [consFirst] using nonempty

/-- Only the first word can be empty, and it is not if it begins anew: what was read in capital
letters before the text can be a word of its own. -/
theorem nil_notMem_cutWords (wordCase : WordCase) (text : List Char) :
    [] ∉ (cutWords wordCase text).tail ∧
      (wordCase ≠ .uppercase → [] ∉ cutWords wordCase text) := by
  fun_induction cutWords wordCase text with
  | case1 => simp
  | case2 => simp
  | case3 wordCase c following rest _ ih =>
      have nonempty := ih.2 (by decide)
      exact ⟨nonempty, fun _ => by simpa using nonempty⟩
  | case4 wordCase c following rest _ raised ih =>
      exact ⟨nil_notMem_consFirst ih.1, fun other => absurd raised.1 other⟩
  | case5 wordCase c following rest _ _ ih =>
      have nonempty := nil_notMem_consFirst (c := c) ih.1
      exact ⟨fun mem => nonempty (List.mem_of_mem_tail mem), fun _ => nonempty⟩

theorem nil_notMem_nameWords (name : String) : [] ∉ nameWords name := by
  intro mem
  rcases List.mem_flatMap.mp mem with ⟨piece, -, wordMem⟩
  exact (nil_notMem_cutWords .unknown piece).2 (by decide) wordMem

/-- A name has words exactly if it has letters or numbers, and the first of these begins the
words. -/
theorem nameWords_cases (name : String) :
    (nameWords name = [] ∧ name.toList.find? isAlphanumeric = none) ∨
    ∃ first rest others, nameWords name = (first :: rest) :: others ∧
      name.toList.find? isAlphanumeric = some first := by
  have kept := flatten_nameWords name
  rw [← List.head?_filter, ← kept]
  cases words : nameWords name with
  | nil => exact Or.inl ⟨rfl, rfl⟩
  | cons word others =>
      cases word with
      | nil =>
          have nonempty := nil_notMem_nameWords name
          simp [words] at nonempty
      | cons first rest => exact Or.inr ⟨first, rest, others, rfl, rfl⟩

theorem upper_ne_nil (c : Char) : upper c ≠ [] := by
  rcases upper_cases c with kept | ⟨first, rest, raised, -⟩
  · rw [kept]
    exact List.cons_ne_nil c []
  · rw [raised]
    exact List.cons_ne_nil first rest

/-- The capital form of the first letter or number of a name. -/
def firstCapital? (name : String) : Option Char :=
  (name.toList.find? isAlphanumeric).bind fun c => (upper c).head?

theorem head?_append_upper (c : Char) (rest : List Char) :
    (upper c ++ rest).head? = (upper c).head? :=
  List.head?_append_of_ne_nil _ (upper_ne_nil c)

theorem head?_upperCamel (name : String) : (upperCamel name).toList.head? = firstCapital? name := by
  rw [upperCamel, String.toList_ofList, firstCapital?]
  rcases nameWords_cases name with ⟨words, found⟩ | ⟨first, rest, others, words, found⟩
  · rw [words, found]
    rfl
  · rw [words, found, List.flatMap_cons, capitalWord, List.append_assoc, head?_append_upper]
    rfl

theorem head?_shoutySnake (name : String) :
    (shoutySnake name).toList.head? = firstCapital? name := by
  rw [shoutySnake, String.toList_ofList, firstCapital?]
  rcases nameWords_cases name with ⟨words, found⟩ | ⟨first, rest, others, words, found⟩
  · rw [words, found]
    rfl
  · rw [words, found, List.map_cons, List.flatMap_cons]
    by_cases last : others = []
    · rw [last, List.map_nil, List.intercalate_singleton, head?_append_upper]
      rfl
    · rw [List.intercalate_cons_of_ne_nil (by simpa using last), List.append_assoc,
        List.append_assoc, head?_append_upper]
      rfl

end Text

end GenModel
