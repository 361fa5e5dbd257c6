import GenModel.Proofs.TypeExpr
import GenModel.Render

/-!
# Canonical spellings of types

Containers can be written in many ways: as long as the word `list` or `map` stands somewhere, only
the second part of the text counts. A type that was read has one canonical spelling, `list<T>`,
`map<K,V>` or the name itself, and the canonical spelling is read as the same type (`ofText_text`).

For a list that is so because its element is a part of the text. For a map there is more to it:
lists come first, so `list` must not occur between the brackets of the canonical spelling. But what
stands there stands in the text as well, and a text with parameters that mentions `list` is no map.

Of the type of a member a class file depends on nothing but what it is read as, so the canonical
spelling gives the same file in every language.
-/

namespace GenModel

namespace Text

section Pieces

variable {isMark : Char → Bool}

/-- The first piece is the whole text, or it ends at a mark and the other pieces come after it. -/
theorem pieces_eq_cons {text first : List Char} {others : List (List Char)}
    (cut : pieces isMark text = first :: others) :
    others = [] ∧ text = first ∨
      ∃ mark rest, isMark mark = true ∧ text = first ++ mark :: rest ∧
        pieces isMark rest = others := by
  induction text generalizing first with
  | nil =>
      simp only [pieces, List.cons.injEq] at cut
      left
      exact ⟨cut.2.symm, cut.1⟩
  | cons c rest ih =>
      by_cases mark : isMark c = true
      · simp only [pieces, mark, if_true, List.cons.injEq] at cut
        right
        exact ⟨c, rest, mark, by simp [← cut.1], cut.2⟩
      · cases found : pieces isMark rest with
        | nil => exact absurd found (pieces_ne_nil isMark rest)
        | cons piece more =>
            simp only [pieces, mark, found, consFirst] at cut
            rcases List.cons.inj cut with ⟨rfl, rfl⟩
            rcases ih found with ⟨none, rfl⟩ | ⟨separator, tail, isMark_separator, rfl, restCut⟩
            · left
              exact ⟨none, rfl⟩
            · right
              exact ⟨separator, tail, isMark_separator, rfl, restCut⟩

/-- What is cut out of a text occurs in it. -/
theorem isInfix_of_mem_pieces {text piece : List Char} (mem : piece ∈ pieces isMark text) :
    piece <:+: text := by
  generalize cut : pieces isMark text = parts at mem
  induction parts generalizing text with
  | nil => simp at mem
  | cons first others ih =>
      rcases pieces_eq_cons cut with ⟨rfl, rfl⟩ | ⟨mark, rest, -, rfl, restCut⟩
      · have whole := List.mem_singleton.mp mem
        subst whole
        exact List.infix_refl piece
      · rcases List.mem_cons.mp mem with rfl | later
        · exact List.infix_append [] piece (mark :: rest)
        · have inRest := ih restCut later
          apply inRest.trans
          exact ((List.suffix_cons mark rest).trans (List.suffix_append first _)).isInfix

end Pieces

end Text

namespace TypeExpr

/-- The canonical spelling of a type. -/
def text : TypeExpr → String
  | list element => "list<" ++ element ++ ">"
  | map key value => "map<" ++ key ++ "," ++ value ++ ">"
  | named name => name

section Inversion

variable {text parameter element key value name : String}

/-- The parameters of a type are a part of its text. -/
theorem isPart_of_parameters? (found : parameters? text = some parameter) :
    IsPart parameter ∧ parameter.toList <:+: text.toList := by
  have mem : parameter ∈ Text.tokensBy isSeparator text := List.mem_of_getElem? found
  rcases Text.mem_tokensBy_iff.mp mem with ⟨nonempty, pieceMem⟩
  refine ⟨⟨nonempty, ?_⟩, Text.isInfix_of_mem_pieces pieceMem⟩
  intro c charMem
  exact (Text.of_mem_pieces pieceMem charMem).2

theorem eq_of_pair? (found : pair? parameter = some (key, value)) :
    parameter = key ++ "," ++ value ∧ ',' ∉ key.toList ∧ ',' ∉ value.toList := by
  have free {piece : List Char} (mem : piece ∈ Text.pieces (· == ',') parameter.toList) :
      ',' ∉ piece := by
    intro charMem
    have notMark := (Text.of_mem_pieces mem charMem).2
    simp at notMark
  rw [pair?] at found
  split at found
  · next keyPiece valuePiece cut =>
      simp only [Option.some.injEq, Prod.mk.injEq] at found
      rcases found with ⟨rfl, rfl⟩
      rcases Text.pieces_eq_cons cut with ⟨none, -⟩ | ⟨mark, rest, isComma, whole, restCut⟩
      · simp at none
      · rcases Text.pieces_eq_cons restCut with ⟨-, rfl⟩ | ⟨_, more, -, -, others⟩
        · rw [beq_iff_eq] at isComma
          subst mark
          refine ⟨?_, ?_, ?_⟩
          · apply String.toList_injective
            simp [whole]
          · rw [String.toList_ofList]
            exact free (by simp [cut])
          · rw [String.toList_ofList]
            exact free (by simp [cut])
        · exact absurd others (Text.pieces_ne_nil _ more)
  · simp at found

theorem parameters?_of_ofText_eq_list (read : ofText text = .list element) :
    parameters? text = some element := by
  rw [ofText] at read
  split at read
  · next found =>
      rw [TypeExpr.list.injEq] at read
      subst read
      rw [listElement?] at found
      split at found
      · exact found
      · simp at found
  · split at read <;> simp at read

/-- A text that is read as a map has its two parameters, and it does not mention `list`. -/
theorem parameters?_of_ofText_eq_map (read : ofText text = .map key value) :
    (parameters? text).bind pair? = some (key, value) ∧ ¬"list".toList <:+: text.toList := by
  rw [ofText] at read
  split at read
  · simp at read
  · next noList =>
      split at read
      · next found =>
          rw [TypeExpr.map.injEq] at read
          rcases read with ⟨rfl, rfl⟩
          rw [mapTypes?] at found
          split at found
          · refine ⟨found, ?_⟩
            intro mentioned
            rcases Option.bind_eq_some_iff.mp found with ⟨parameter, parameterFound, -⟩
            rw [listElement?, Text.occursIn_iff.mpr mentioned, if_pos rfl, parameterFound] at noList
            simp at noList
          · simp at found
      · simp at read

theorem eq_of_ofText_eq_named (read : ofText text = .named name) : name = text := by
  rw [ofText] at read
  split at read
  · simp at read
  · split at read
    · simp at read
    · rw [TypeExpr.named.injEq] at read
      exact read.symm

end Inversion

section Spellings

variable {text element key value : String}

theorem ofText_text_of_list (read : ofText text = .list element) :
    IsPart element ∧ ofText (TypeExpr.list element).text = .list element := by
  have isPart := (isPart_of_parameters? (parameters?_of_ofText_eq_list read)).1
  exact ⟨isPart, ofText_list isPart⟩

theorem ofText_text_of_map (read : ofText text = .map key value) :
    IsPart (key ++ "," ++ value) ∧ (',' ∉ key.toList ∧ ',' ∉ value.toList) ∧
      ofText (TypeExpr.map key value).text = .map key value := by
  rcases parameters?_of_ofText_eq_map read with ⟨found, notMentioned⟩
  rcases Option.bind_eq_some_iff.mp found with ⟨parameter, parameterFound, pairFound⟩
  rcases isPart_of_parameters? parameterFound with ⟨isPart, occurs⟩
  rcases eq_of_pair? pairFound with ⟨rfl, keyFree, valueFree⟩
  refine ⟨isPart, ⟨keyFree, valueFree⟩, ?_⟩
  have spelled : (TypeExpr.map key value).text = "map<" ++ (key ++ "," ++ value) ++ ">" := by
    simp only [TypeExpr.text, String.append_assoc]
  rw [spelled]
  apply ofText_map isPart keyFree valueFree
  intro mentioned
  exact notMentioned (mentioned.trans occurs)

/-- The canonical spelling of a type that was read is read as this type. -/
theorem ofText_text (text : String) : ofText (ofText text).text = ofText text := by
  cases read : ofText text with
  | list element => exact (ofText_text_of_list read).2
  | map key value => exact (ofText_text_of_map read).2.2
  | named name =>
      have same := eq_of_ofText_eq_named read
      subst same
      exact read

theorem forall_not_isSeparator_iff {part : String} :
    (∀ c ∈ part.toList, isSeparator c = false) ↔
      ∀ c ∈ part.toList, Text.isBlank c = false ∧ c ≠ '<' ∧ c ≠ '>' := by
  simp only [isSeparator, Bool.or_eq_false_iff, beq_eq_false_iff_ne, and_assoc]

end Spellings

end TypeExpr

namespace Language

section Members

variable (language : Language) (settings : Settings) (owner name : String)
  (before after : List Member) {text other : String}

theorem fieldType_congr (same : TypeExpr.ofText text = TypeExpr.ofText other) :
    language.fieldType text = language.fieldType other := by
  rw [fieldType, fieldType, TypeStyle.field, TypeStyle.field, same]

theorem mentions_congr (same : TypeExpr.ofText text = TypeExpr.ofText other) (typeName : String) :
    Class.mentions ⟨owner, before ++ ⟨name, text⟩ :: after⟩ typeName =
      Class.mentions ⟨owner, before ++ ⟨name, other⟩ :: after⟩ typeName := by
  simp only [Class.mentions, List.any_append, List.any_cons, same]

theorem hasContainer_congr (same : TypeExpr.ofText text = TypeExpr.ofText other) :
    Class.hasContainer ⟨owner, before ++ ⟨name, text⟩ :: after⟩ =
      Class.hasContainer ⟨owner, before ++ ⟨name, other⟩ :: after⟩ := by
  simp only [Class.hasContainer, List.any_append, List.any_cons, same]

/-- A class is written in the same way when the type of a member is replaced by a text that is read
as the same type: the fields are the same, and so is everything that is imported for them. -/
theorem classPage_congr (same : TypeExpr.ofText text = TypeExpr.ofText other) :
    language.classPage settings ⟨owner, before ++ ⟨name, text⟩ :: after⟩ =
      language.classPage settings ⟨owner, before ++ ⟨name, other⟩ :: after⟩ := by
  have mentionsDate := mentions_congr owner name before after same Primitive.date.name
  have hasContainer := hasContainer_congr owner name before after same
  cases language with
  | go =>
      have line : Go.fieldLine ⟨name, text⟩ = Go.fieldLine ⟨name, other⟩ := by
        simp only [Go.fieldLine, fieldType_congr go same]
      simp only [classPage, Go.classPage, Go.imports, mentionsDate, List.map_append, List.map_cons,
        line]
  | kotlin =>
      have parameter : Kotlin.parameter ⟨name, text⟩ = Kotlin.parameter ⟨name, other⟩ := by
        simp only [Kotlin.parameter, fieldType_congr kotlin same]
      have nonempty (member : Member) : (before ++ member :: after).isEmpty = false := by
        simp
      simp only [classPage, Kotlin.classPage, Kotlin.imports, Kotlin.classLine, mentionsDate,
        nonempty, List.map_append, List.map_cons, parameter]
  | csharp =>
      have lines : CSharp.propertyLines ⟨name, text⟩ = CSharp.propertyLines ⟨name, other⟩ := by
        simp only [CSharp.propertyLines, fieldType_congr csharp same]
      simp only [classPage, CSharp.classPage, CSharp.directives, mentionsDate, hasContainer,
        List.flatMap_append, List.flatMap_cons, lines]
  | typescript =>
      have line : TypeScript.memberLine ⟨name, text⟩ = TypeScript.memberLine ⟨name, other⟩ := by
        simp only [TypeScript.memberLine, fieldType_congr typescript same]
      simp only [classPage, TypeScript.classPage, TypeScript.imports, List.flatMap_append,
        List.flatMap_cons, same, List.map_append, List.map_cons, line]

end Members

/-- What a text is read as has a canonical spelling that is read as the same type. The parts of a
container hold nothing that could separate them, a name is the text itself, and a member that is
declared by the canonical spelling leads to the same file in every language. -/
theorem generate_of_canonicalType (text : String) :
    (∀ element, TypeExpr.ofText text = .list element →
      element ≠ "" ∧
      (∀ c ∈ element.toList, Text.isBlank c = false ∧ c ≠ '<' ∧ c ≠ '>') ∧
      TypeExpr.ofText ("list<" ++ element ++ ">") = .list element) ∧
    (∀ key value, TypeExpr.ofText text = .map key value →
      (∀ c ∈ key.toList ++ value.toList,
        (Text.isBlank c = false ∧ c ≠ '<' ∧ c ≠ '>') ∧ c ≠ ',') ∧
      TypeExpr.ofText ("map<" ++ key ++ "," ++ value ++ ">") = .map key value) ∧
    (∀ name, TypeExpr.ofText text = .named name → name = text) ∧
    ∀ (language : Language) (settings : Settings) (owner member : String)
      (before after : List Member),
      language.generate settings (.ofClass ⟨owner, before ++ ⟨member, text⟩ :: after⟩) =
        language.generate settings
          (.ofClass ⟨owner, before ++ ⟨member, (TypeExpr.ofText text).text⟩ :: after⟩) := by
  refine ⟨?_, ?_, ?_, ?_⟩
  · intro element read
    rcases TypeExpr.ofText_text_of_list read with ⟨isPart, readAgain⟩
    exact ⟨isPart.1, TypeExpr.forall_not_isSeparator_iff.mp isPart.2, readAgain⟩
  · intro key value read
    rcases TypeExpr.ofText_text_of_map read with ⟨isPart, ⟨keyFree, valueFree⟩, readAgain⟩
    refine ⟨?_, readAgain⟩
    have plain := TypeExpr.forall_not_isSeparator_iff.mp isPart.2
    intro c mem
    constructor
    · apply plain
      simp only [String.toList_append, List.mem_append] at mem ⊢
      rcases mem with inKey | inValue
      · exact Or.inl (Or.inl inKey)
      · exact Or.inr inValue
    · rintro rfl
      rcases List.mem_append.mp mem with inKey | inValue
      · exact keyFree inKey
      · exact valueFree inValue
  · intro name read
    exact TypeExpr.eq_of_ofText_eq_named read
  · intro language settings owner member before after
    have samePage := classPage_congr language settings owner member before after
      (TypeExpr.ofText_text text).symm
    simp only [generate, page, samePage, Declaration.name]

/-- A list with its word at the end, a map with an empty value and brackets all over it, and a name
that mentions both words. -/
theorem generate_of_canonicalType_oddSpellings :
    TypeExpr.ofText "a<b>list" = .list "b" ∧ TypeExpr.ofText "list<b>" = .list "b" ∧
    TypeExpr.ofText "<mapping>>k,<v" = .map "k" "" ∧ TypeExpr.ofText "map<k,>" = .map "k" "" ∧
    TypeExpr.ofText "maplist>" = .named "maplist>" ∧
    ∀ (language : Language) (settings : Settings),
      language.generate settings (.ofClass ⟨"A", [⟨"x", "<mapping>>k,<v"⟩]⟩) =
        language.generate settings (.ofClass ⟨"A", [⟨"x", "map<k,>"⟩]⟩) := by
  have listRead : TypeExpr.ofText "a<b>list" = .list "b" := by
    decide
  have mapRead : TypeExpr.ofText "<mapping>>k,<v" = .map "k" "" := by
    decide
  have nameRead : TypeExpr.ofText "maplist>" = .named "maplist>" := by
    decide
  have listAgain := (generate_of_canonicalType "a<b>list").1 "b" listRead
  have mapDescribed := generate_of_canonicalType "<mapping>>k,<v"
  refine ⟨listRead, listAgain.2.2, mapRead, (mapDescribed.2.1 "k" "" mapRead).2, nameRead, ?_⟩
  intro language settings
  have sameFile := mapDescribed.2.2.2 language settings "A" "x" [] []
  rw [mapRead] at sameFile
  exact sameFile

end Language

end GenModel
