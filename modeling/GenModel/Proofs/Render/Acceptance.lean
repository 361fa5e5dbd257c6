import GenModel.Proofs.Render.Constants
import GenModel.Proofs.Text.Words

/-!
# Constants that one language accepts and another does not

Kotlin joins the words of a name by underscores, C# joins them by nothing. So `a1` and `a_1` are two
constants in Kotlin and one in C#. The other way round nothing is lost, as long as the names are
ASCII: no word holds an underscore, so a constant of Kotlin shows the words that it was made of in
capital letters, and the constant of C# depends on no more than that (`upperCamel_eq`). A name has
no constant in one of the languages exactly if it has none in the other.

Therefore an enum of ASCII names that C# accepts is accepted by Kotlin (`exists_enumPage_kotlin`).
-/

namespace GenModel

namespace Text

/-- A text of ASCII characters. -/
def IsAscii (text : String) : Prop :=
  ∀ c ∈ text.toList, c.toNat < 128

instance (text : String) : Decidable (IsAscii text) :=
  decidable_of_iff ((text.toList.all fun c => decide (c.toNat < 128)) = true) (by simp [IsAscii])

theorem asciiCodes_raised :
    ∀ code < 128,
      (upper (Char.ofNat code)).length = 1 ∧
      (upper (Char.ofNat code)).flatMap upper = upper (Char.ofNat code) ∧
      (upper (Char.ofNat code)).flatMap lower = lower (Char.ofNat code) ∧
      (upper (Char.ofNat code)).contains 'Σ' = false ∧
      (isAlphanumeric (Char.ofNat code) = true →
        (upper (Char.ofNat code)).contains '_' = false) := by
  decide +kernel

/-- What becomes of an ASCII character as a capital letter: it is one character, its cases are those
of the character itself, and a letter or number does not become an underscore. -/
structure IsRaised (c : Char) : Prop where
  single : ∃ capital, upper c = [capital]
  again : (upper c).flatMap upper = upper c
  lowered : (upper c).flatMap lower = lower c
  notSigma : 'Σ' ∉ upper c
  notUnderscore : isAlphanumeric c = true → '_' ∉ upper c

theorem isRaised_of_ascii {c : Char} (ascii : c.toNat < 128) : IsRaised c := by
  have table := asciiCodes_raised c.toNat ascii
  rw [Char.ofNat_toNat] at table
  simp only [List.contains_eq_mem, decide_eq_false_iff_not] at table
  rcases table with ⟨single, again, lowered, notSigma, notUnderscore⟩
  exact ⟨List.length_eq_one_iff.mp single, again, lowered, notSigma, notUnderscore⟩

section Words

variable {word : List Char}

theorem lowerWord_eq_flatMap (notSigma : 'Σ' ∉ word) : lowerWord word = word.flatMap lower := by
  fun_induction lowerWord word with
  | case1 => rfl
  | case2 => simp at notSigma
  | case3 c others _ ih =>
      rw [List.flatMap_cons, ih (List.not_mem_of_not_mem_cons notSigma)]

theorem lowerWord_flatMap_upper (areRaised : ∀ c ∈ word, IsRaised c) (notSigma : 'Σ' ∉ word) :
    lowerWord (word.flatMap upper) = lowerWord word := by
  have raisedNotSigma : 'Σ' ∉ word.flatMap upper := by
    intro mem
    rcases List.mem_flatMap.mp mem with ⟨c, charMem, sigmaMem⟩
    exact (areRaised c charMem).notSigma sigmaMem
  rw [lowerWord_eq_flatMap raisedNotSigma, lowerWord_eq_flatMap notSigma, List.flatMap_assoc]
  apply List.flatMap_congr
  intro c mem
  exact (areRaised c mem).lowered

/-- A word with a capital at its beginning is the same if it was in capital letters before. -/
theorem capitalWord_flatMap_upper (ascii : ∀ c ∈ word, c.toNat < 128) :
    capitalWord (word.flatMap upper) = capitalWord word := by
  have areRaised : ∀ c ∈ word, IsRaised c := by
    intro c mem
    exact isRaised_of_ascii (ascii c mem)
  cases word with
  | nil => rfl
  | cons first rest =>
      rw [List.forall_mem_cons] at ascii areRaised
      have notSigma : 'Σ' ∉ rest := by
        intro mem
        exact absurd (ascii.2 'Σ' mem) (by decide)
      rcases areRaised.1.single with ⟨capital, single⟩
      have again := areRaised.1.again
      rw [single, List.flatMap_singleton] at again
      rw [List.flatMap_cons, single, List.singleton_append, capitalWord, capitalWord, again, single,
        lowerWord_flatMap_upper areRaised.2 notSigma]

end Words

/-- The words of a name in capital letters. -/
def raisedWords (name : String) : List (List Char) :=
  (nameWords name).map fun word => word.flatMap upper

section Names

variable {name first second : String}

/-- A name has no constant in either spelling, or it has one in both. -/
theorem shoutySnake_eq_empty_iff (name : String) :
    shoutySnake name = "" ↔ upperCamel name = "" := by
  have sameHead : (shoutySnake name).toList.head? = (upperCamel name).toList.head? := by
    rw [head?_shoutySnake, head?_upperCamel]
  rw [← String.toList_eq_nil_iff, ← List.head?_eq_none_iff, sameHead, List.head?_eq_none_iff,
    String.toList_eq_nil_iff]

theorem of_mem_nameWords {word : List Char} {c : Char} (wordMem : word ∈ nameWords name)
    (mem : c ∈ word) : c ∈ name.toList ∧ isAlphanumeric c = true := by
  have kept : c ∈ (nameWords name).flatten := List.mem_flatten.mpr ⟨word, wordMem, mem⟩
  rw [flatten_nameWords] at kept
  exact List.mem_filter.mp kept

theorem underscore_notMem_raisedWords (ascii : IsAscii name) :
    ∀ word ∈ raisedWords name, '_' ∉ word := by
  intro word wordMem underscoreMem
  rcases List.mem_map.mp wordMem with ⟨original, originalMem, rfl⟩
  rcases List.mem_flatMap.mp underscoreMem with ⟨c, mem, raisedMem⟩
  rcases of_mem_nameWords originalMem mem with ⟨inName, alphanumeric⟩
  exact (isRaised_of_ascii (ascii c inName)).notUnderscore alphanumeric raisedMem

/-- The words of an ASCII name in capital letters are what stands between the underscores. -/
theorem splitOn_shoutySnake (ascii : IsAscii name) (usable : shoutySnake name ≠ "") :
    (shoutySnake name).toList.splitOn '_' = raisedWords name := by
  have nonempty : raisedWords name ≠ [] := by
    intro none
    apply usable
    rw [shoutySnake, ← raisedWords, none]
    rfl
  rw [shoutySnake, String.toList_ofList]
  exact List.splitOn_intercalate '_' (underscore_notMem_raisedWords ascii) nonempty

theorem upperCamel_eq (ascii : IsAscii name) :
    upperCamel name = String.ofList ((raisedWords name).flatMap capitalWord) := by
  rw [upperCamel, raisedWords, List.flatMap_map]
  congr 1
  apply List.flatMap_congr
  intro word wordMem
  symm
  apply capitalWord_flatMap_upper
  intro c mem
  exact ascii c (of_mem_nameWords wordMem mem).1

/-- Names that are one in capital letters are one in camel case. -/
theorem upperCamel_eq_of_shoutySnake_eq (firstAscii : IsAscii first) (secondAscii : IsAscii second)
    (same : shoutySnake first = shoutySnake second) : upperCamel first = upperCamel second := by
  by_cases usable : shoutySnake first = ""
  · have secondUnusable : shoutySnake second = "" := by
      rw [← same]
      exact usable
    rw [(shoutySnake_eq_empty_iff first).mp usable,
      (shoutySnake_eq_empty_iff second).mp secondUnusable]
  · have sameWords : raisedWords first = raisedWords second := by
      rw [← splitOn_shoutySnake firstAscii usable, same,
        splitOn_shoutySnake secondAscii (same ▸ usable)]
    rw [upperCamel_eq firstAscii, upperCamel_eq secondAscii, sameWords]

end Names

end Text

namespace Enum

/-- A value that offends in capital letters offends in camel case. -/
theorem isUnclear_upperCamel {owner : Enum}
    (ascii : ∀ entry ∈ owner.values, Text.IsAscii entry.name)
    (unclear : owner.IsUnclear Text.shoutySnake) : owner.IsUnclear Text.upperCamel := by
  rcases unclear with ⟨before, entry, after, split, offends⟩
  refine ⟨before, entry, after, split, ?_⟩
  rw [split] at ascii
  rcases offends with empty | ⟨other, mem, same⟩
  · exact Or.inl ((Text.shoutySnake_eq_empty_iff entry.name).mp empty)
  · refine Or.inr ⟨other, mem, ?_⟩
    apply Text.upperCamel_eq_of_shoutySnake_eq
    · exact ascii other (List.mem_append_left _ mem)
    · exact ascii entry (List.mem_append_right before List.mem_cons_self)
    · exact same

end Enum

namespace Language

section Pages

variable {language : Language} {spell : String → String} {settings : Settings} {owner : Enum}

theorem exists_enumPage_iff (spelled : language.ownSpelling? = some spell) :
    (∃ page, language.enumPage settings owner = .ok page) ↔ ¬owner.IsUnclear spell := by
  rcases exists_enumPage_eq_map spelled settings owner with ⟨build, pageEq⟩
  rw [pageEq]
  rcases owner.constants_cases language spell with ⟨clear, names, found⟩ |
    ⟨entry, unclear, -, failed⟩
  · rw [found]
    exact ⟨fun _ => clear, fun _ => ⟨build names, rfl⟩⟩
  · rw [failed]
    constructor
    · rintro ⟨page, built⟩
      simp [Except.map] at built
    · intro clear
      exact absurd unclear clear

end Pages

/-- Kotlin has a page for every enum of ASCII names that C# has a page for: ASCII names that are one
constant in Kotlin are one constant in C#, and a name has no constant in both or in neither. -/
theorem exists_enumPage_kotlin {owner : Enum}
    (ascii : ∀ entry ∈ owner.values, Text.IsAscii entry.name) :
    (∀ settings, (∃ page, csharp.enumPage settings owner = .ok page) →
      ∃ page, kotlin.enumPage settings owner = .ok page) ∧
    (∀ first second, Text.IsAscii first → Text.IsAscii second →
      Text.shoutySnake first = Text.shoutySnake second →
        Text.upperCamel first = Text.upperCamel second) ∧
    ∀ name, Text.shoutySnake name = "" ↔ Text.upperCamel name = "" := by
  refine ⟨?_, ?_, Text.shoutySnake_eq_empty_iff⟩
  · intro settings accepted
    have clear := (exists_enumPage_iff rfl).mp accepted
    apply (exists_enumPage_iff rfl).mpr
    intro unclear
    exact clear (Enum.isUnclear_upperCamel ascii unclear)
  · intro first second firstAscii secondAscii same
    exact Text.upperCamel_eq_of_shoutySnake_eq firstAscii secondAscii same

/-- An enum of ASCII names that are cut into words in several ways. -/
def mixedWords : Enum :=
  ⟨"A", [⟨"httpPort", 1⟩, ⟨"HTTPHost2go", 2⟩, ⟨"_a-1", 3⟩]⟩

theorem exists_enumPage_kotlin_mixedWords :
    (∀ entry ∈ mixedWords.values, Text.IsAscii entry.name) ∧
      ∀ settings, (∃ page, csharp.enumPage settings mixedWords = .ok page) ∧
        ∃ page, kotlin.enumPage settings mixedWords = .ok page := by
  have ascii : ∀ entry ∈ mixedWords.values, Text.IsAscii entry.name := by
    decide
  have found : mixedWords.constants csharp Text.upperCamel =
      .ok ["HttpPort", "HttpHost2go", "A1"] := by
    decide +kernel
  refine ⟨ascii, ?_⟩
  intro settings
  have accepted : ∃ page, csharp.enumPage settings mixedWords = .ok page := by
    rw [enumPage, CSharp.enumPage, found]
    exact ⟨_, rfl⟩
  exact ⟨accepted, (exists_enumPage_kotlin ascii).1 settings accepted⟩

/-- The converse does not hold: the underscore is all that tells these names apart. -/
example : Text.shoutySnake "a1" ≠ Text.shoutySnake "a_1" ∧
    Text.upperCamel "a1" = Text.upperCamel "a_1" := by
  decide +kernel

end Language

end GenModel
