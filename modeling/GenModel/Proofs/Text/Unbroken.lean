import GenModel.Proofs.Text.LowerCase
import GenModel.Text.Words

/-!
# Unbroken text

A text without blank characters stays one word wherever it is written. Names and types come from
tokens, so they are unbroken, and they stay so when they are spelled for a language: the case
mappings produce no blank character, neither by a shift nor by an expansion, and the words of a
name are made of its own characters.
-/

namespace GenModel

namespace Text

theorem isBlank_ofNat {code : Nat} (outside : inSpans blankSpans code = false) :
    isBlank (Char.ofNat code) = false := by
  by_cases valid : code.isValidChar
  · rwa [isBlank, toNat_ofNat valid]
  · rw [Char.ofNat, dif_neg valid]
    decide

/-- The upper case mapping produces no blank character. -/
theorem upperTargets_notBlank :
    (upperCaseMap.shifts.all fun shift => blankSpans.all shift.target.isApart) = true ∧
      (upperCaseMap.expansions.all fun expansion =>
        expansion.2.all fun code => !inSpans blankSpans code) = true := by
  decide +kernel

theorem isBlank_of_mem_upper {c x : Char} (notBlank : isBlank c = false) (mem : x ∈ upper c) :
    isBlank x = false := by
  rcases upperCaseMap.apply_cases c with kept | ⟨codes, found, expanded⟩ |
    ⟨shift, shiftMem, member, shifted⟩
  · rw [upper, kept, List.mem_singleton] at mem
    rwa [mem]
  · rw [upper, expanded, List.mem_map] at mem
    rcases mem with ⟨code, codeMem, rfl⟩
    rcases List.lookup_eq_some_iff.mp found with ⟨front, back, expansions, -⟩
    have clean := List.all_eq_true.mp upperTargets_notBlank.2 (c.toNat, codes)
      (by simp [expansions])
    apply isBlank_ofNat
    simpa using List.all_eq_true.mp clean code codeMem
  · rw [upper, shifted, List.mem_singleton] at mem
    subst x
    apply isBlank_ofNat
    apply inSpans_eq_false
    intro blanks blanksMem
    have apart := List.all_eq_true.mp upperTargets_notBlank.1 shift shiftMem
    exact Span.not_contains_of_isApart (List.all_eq_true.mp apart blanks blanksMem)
      (Shift.target_contains member)

theorem isUnbroken_upperFirst {name : String} (isUnbroken : IsUnbroken name) :
    IsUnbroken (upperFirst name) := by
  intro x mem
  cases characters : name.toList with
  | nil => simp [upperFirst, characters] at mem
  | cons first rest =>
      simp only [upperFirst, characters, String.toList_ofList, List.mem_append] at mem
      rcases mem with mem | mem
      · exact isBlank_of_mem_upper (isUnbroken first (by simp [characters])) mem
      · exact isUnbroken x (by simp [characters, mem])

theorem mem_of_mem_nameWords {name : String} {word : List Char} {c : Char}
    (mem : word ∈ nameWords name) (charMem : c ∈ word) : c ∈ name.toList := by
  rcases List.mem_flatMap.mp mem with ⟨piece, pieceMem, wordMem⟩
  have inPiece : c ∈ (cutWords .unknown piece).flatten :=
    List.mem_flatten.mpr ⟨word, wordMem, charMem⟩
  rw [flatten_cutWords] at inPiece
  exact (of_mem_pieces pieceMem inPiece).1

theorem forall_mem_lowerWord {P : Char → Prop} {word : List Char}
    (lowered : ∀ c ∈ word, ∀ x ∈ lower c, P x) (final : 'Σ' ∈ word → P 'ς') :
    ∀ x ∈ lowerWord word, P x := by
  fun_induction lowerWord word with
  | case1 => simp
  | case2 =>
      rw [List.forall_mem_singleton]
      exact final List.mem_cons_self
  | case3 c rest _ ih =>
      rw [List.forall_mem_cons] at lowered
      rw [List.forall_mem_append]
      refine ⟨lowered.1, ih lowered.2 ?_⟩
      intro mem
      exact final (List.mem_cons_of_mem c mem)

/-- A property of all characters that the case mappings produce from a name is one of all characters
of the name in camel case. -/
theorem forall_mem_upperCamel {P : Char → Prop} {name : String}
    (raised : ∀ c ∈ name.toList, ∀ x ∈ upper c, P x)
    (lowered : ∀ c ∈ name.toList, ∀ x ∈ lower c, P x) (final : 'Σ' ∈ name.toList → P 'ς') :
    ∀ x ∈ (upperCamel name).toList, P x := by
  intro x mem
  rw [upperCamel, String.toList_ofList, List.mem_flatMap] at mem
  rcases mem with ⟨word, wordMem, mem⟩
  have inName (c : Char) (charMem : c ∈ word) : c ∈ name.toList :=
    mem_of_mem_nameWords wordMem charMem
  cases word with
  | nil => simp [capitalWord] at mem
  | cons first rest =>
      rw [List.forall_mem_cons] at inName
      rcases List.mem_append.mp mem with mem | mem
      · exact raised first inName.1 x mem
      · refine forall_mem_lowerWord ?_ ?_ x mem
        · intro c charMem
          exact lowered c (inName.2 c charMem)
        · intro sigmaMem
          exact final (inName.2 'Σ' sigmaMem)

theorem isUnbroken_upperCamel {name : String} (isUnbroken : IsUnbroken name) :
    IsUnbroken (upperCamel name) := by
  refine forall_mem_upperCamel ?_ ?_ ?_
  · intro c charMem x mem
    exact isBlank_of_mem_upper (isUnbroken c charMem) mem
  · intro c charMem x mem
    exact isBlank_of_mem_lower (isUnbroken c charMem) mem
  · intro _
    decide

theorem mem_of_mem_intercalate {separator : List Char} {parts : List (List Char)} {x : Char}
    (mem : x ∈ List.intercalate separator parts) : x ∈ separator ∨ ∃ part ∈ parts, x ∈ part := by
  induction parts with
  | nil => simp at mem
  | cons part others ih =>
      by_cases last : others = []
      · subst others
        rw [List.intercalate_singleton] at mem
        exact Or.inr ⟨part, List.mem_cons_self, mem⟩
      · rw [List.intercalate_cons_of_ne_nil last, List.mem_append, List.mem_append] at mem
        rcases mem with (mem | mem) | mem
        · exact Or.inr ⟨part, List.mem_cons_self, mem⟩
        · exact Or.inl mem
        · rcases ih mem with mem | ⟨found, foundMem, mem⟩
          · exact Or.inl mem
          · exact Or.inr ⟨found, List.mem_cons_of_mem part foundMem, mem⟩

/-- A property of all characters that the upper case mapping produces from a name is one of all
characters of the name in capital letters, if the underscore has it. -/
theorem forall_mem_shoutySnake {P : Char → Prop} {name : String} (underscore : P '_')
    (raised : ∀ c ∈ name.toList, ∀ x ∈ upper c, P x) : ∀ x ∈ (shoutySnake name).toList, P x := by
  intro x mem
  rw [shoutySnake, String.toList_ofList] at mem
  rcases mem_of_mem_intercalate mem with mem | ⟨part, partMem, mem⟩
  · rw [List.mem_singleton] at mem
    rwa [mem]
  · rcases List.mem_map.mp partMem with ⟨word, wordMem, rfl⟩
    rcases List.mem_flatMap.mp mem with ⟨c, charMem, mem⟩
    exact raised c (mem_of_mem_nameWords wordMem charMem) x mem

theorem isUnbroken_shoutySnake {name : String} (isUnbroken : IsUnbroken name) :
    IsUnbroken (shoutySnake name) := by
  refine forall_mem_shoutySnake (by decide) ?_
  intro c charMem x mem
  exact isBlank_of_mem_upper (isUnbroken c charMem) mem

end Text

end GenModel
