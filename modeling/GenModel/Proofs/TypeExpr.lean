import GenModel.Proofs.Source.RoundTrip
import GenModel.TypeExpr

/-!
# Reading types

A type is classified by the parts that blanks and angle brackets leave of it, and by the words that
occur anywhere in it. A text of one part is a name. If a bracketed part follows the word `list` or
`map`, it holds the parameters, and the brackets end every word that occurs in the text.

Identifiers are therefore read as they are written, alone and in a list. The key and the value of a
map are so unless one of them mentions `list`: lists come first, and the whole text between the
brackets is then the element of a list (`ofText_of_identifier`).
-/

namespace GenModel

namespace Text

theorem occursIn_iff {part text : List Char} : occursIn part text = true ↔ part <:+: text := by
  induction text with
  | nil => simp [occursIn]
  | cons c rest ih =>
      rw [occursIn, Bool.or_eq_true, List.isPrefixOf_iff_prefix, ih, List.infix_cons_iff]

section Marks

variable {part front back : List Char} {mark : Char}

/-- A text without the mark begins what stands before it. -/
theorem isPrefix_append_mark_iff (free : mark ∉ part) :
    part <+: front ++ mark :: back ↔ part <+: front := by
  refine ⟨?_, fun isPrefix => isPrefix.trans (List.prefix_append _ _)⟩
  induction front generalizing part with
  | nil =>
      intro isPrefix
      rcases List.prefix_cons_iff.mp isPrefix with rfl | ⟨rest, rfl, -⟩
      · exact List.nil_prefix
      · exact absurd List.mem_cons_self free
  | cons c others ih =>
      intro isPrefix
      rcases List.prefix_cons_iff.mp isPrefix with rfl | ⟨rest, rfl, restPrefix⟩
      · exact List.nil_prefix
      · exact List.cons_prefix_cons.mpr ⟨rfl, ih (List.not_mem_of_not_mem_cons free) restPrefix⟩

/-- A text without the mark occurs on one side of it. -/
theorem isInfix_append_mark_iff (free : mark ∉ part) :
    part <:+: front ++ mark :: back ↔ part <:+: front ∨ part <:+: back := by
  induction front with
  | nil =>
      have atMark : part <+: [] ++ mark :: back ↔ part <+: [] := isPrefix_append_mark_iff free
      rw [List.nil_append, List.prefix_nil] at atMark
      rw [List.nil_append, List.infix_cons_iff, atMark, List.infix_nil]
  | cons c others ih =>
      have fromHere : part <+: c :: others ++ mark :: back ↔ part <+: c :: others :=
        isPrefix_append_mark_iff free
      rw [List.cons_append] at fromHere ⊢
      rw [List.infix_cons_iff, fromHere, ih, List.infix_cons_iff, or_assoc]

end Marks

end Text

namespace TypeExpr

/-- A text that blanks and brackets leave whole: it is not empty and holds none of them. -/
def IsPart (text : String) : Prop :=
  text ≠ "" ∧ ∀ c ∈ text.toList, isSeparator c = false

instance (text : String) : Decidable (IsPart text) :=
  decidable_of_iff (text ≠ "" ∧ (text.toList.all fun c => !isSeparator c) = true)
    (by simp [IsPart])

section Parts

variable {text word parameter key value : String}

theorem tokensBy_of_isPart (isPart : IsPart text) : Text.tokensBy isSeparator text = [text] :=
  Text.tokensBy_of_forall_not_mark isPart.1 isPart.2

theorem parameters?_of_isPart (isPart : IsPart text) : parameters? text = none := by
  rw [parameters?, tokensBy_of_isPart isPart]
  rfl

/-- What stands between brackets after a word is the parameters. -/
theorem parameters?_bracketed (isWord : IsPart word) (isParameter : IsPart parameter) :
    parameters? (word ++ "<" ++ parameter ++ ">") = some parameter := by
  have opened := Text.tokensBy_append_mark (by decide : isSeparator '<' = true) word parameter
  have closed := Text.tokensBy_append_mark (by decide : isSeparator '>' = true)
    (word ++ "<" ++ parameter) ""
  rw [String.append_empty] at closed
  rw [parameters?]
  change (Text.tokensBy isSeparator (word ++ "<" ++ parameter ++ String.singleton '>'))[1]? = _
  rw [closed]
  change (Text.tokensBy isSeparator (word ++ String.singleton '<' ++ parameter) ++ _)[1]? = _
  rw [opened, tokensBy_of_isPart isWord, tokensBy_of_isPart isParameter]
  rfl

/-- The brackets end what occurs between them. -/
theorem isInfix_bracketed_iff {part : List Char} (noOpening : '<' ∉ part) (noClosing : '>' ∉ part)
    (nonempty : part ≠ []) :
    part <:+: (word ++ "<" ++ parameter ++ ">").toList ↔
      part <:+: word.toList ∨ part <:+: parameter.toList := by
  have characters : (word ++ "<" ++ parameter ++ ">").toList =
      word.toList ++ '<' :: (parameter.toList ++ '>' :: []) := by
    simp
  rw [characters, Text.isInfix_append_mark_iff noOpening, Text.isInfix_append_mark_iff noClosing,
    List.infix_nil]
  simp [nonempty]

theorem pair?_eq_some (keyFree : ',' ∉ key.toList) (valueFree : ',' ∉ value.toList) :
    pair? (key ++ "," ++ value) = some (key, value) := by
  have characters : (key ++ "," ++ value).toList = key.toList ++ ',' :: value.toList := by
    simp
  have whole {part : List Char} (free : ',' ∉ part) : Text.pieces (· == ',') part = [part] := by
    apply Text.pieces_of_forall_not_mark
    intro c mem
    rw [beq_eq_false_iff_ne]
    rintro rfl
    exact free mem
  rw [pair?, characters, Text.pieces_append_mark (by decide), whole keyFree, whole valueFree]
  simp

end Parts

section Forms

variable {element parameter key value name : String}

theorem ofText_of_isPart (isPart : IsPart name) : ofText name = .named name := by
  have noParameters := parameters?_of_isPart isPart
  simp [ofText, listElement?, mapTypes?, noParameters]

/-- A list is read as it is written. -/
theorem ofText_list (isPart : IsPart element) :
    ofText ("list<" ++ element ++ ">") = .list element := by
  have found := parameters?_bracketed (by decide : IsPart "list") isPart
  have mentioned : Text.occursIn "list".toList ("list" ++ "<" ++ element ++ ">").toList = true := by
    rw [Text.occursIn_iff, isInfix_bracketed_iff (by decide) (by decide) (by decide)]
    exact Or.inl (List.infix_refl _)
  change ofText ("list" ++ "<" ++ element ++ ">") = .list element
  rw [ofText, listElement?, mentioned, if_pos rfl, found]

theorem mentionsList_map_iff :
    Text.occursIn "list".toList ("map" ++ "<" ++ parameter ++ ">").toList = true ↔
      "list".toList <:+: parameter.toList := by
  rw [Text.occursIn_iff, isInfix_bracketed_iff (by decide) (by decide) (by decide)]
  have notInMap : ¬"list".toList <:+: "map".toList := by
    rw [← Text.occursIn_iff]
    decide
  simp only [notInMap, false_or]

/-- A map that mentions `list` between its brackets is read as a list of all that stands there. -/
theorem ofText_map_of_list (isPart : IsPart parameter)
    (mentioned : "list".toList <:+: parameter.toList) :
    ofText ("map<" ++ parameter ++ ">") = .list parameter := by
  have found := parameters?_bracketed (by decide : IsPart "map") isPart
  change ofText ("map" ++ "<" ++ parameter ++ ">") = .list parameter
  rw [ofText, listElement?, mentionsList_map_iff.mpr mentioned, if_pos rfl, found]

/-- A map that does not mention `list` between its brackets is read as it is written. -/
theorem ofText_map (isPart : IsPart (key ++ "," ++ value)) (keyFree : ',' ∉ key.toList)
    (valueFree : ',' ∉ value.toList)
    (notMentioned : ¬"list".toList <:+: (key ++ "," ++ value).toList) :
    ofText ("map<" ++ (key ++ "," ++ value) ++ ">") = .map key value := by
  have found := parameters?_bracketed (by decide : IsPart "map") isPart
  have noList : Text.occursIn "list".toList
      ("map" ++ "<" ++ (key ++ "," ++ value) ++ ">").toList = false := by
    rw [Bool.eq_false_iff]
    intro mentioned
    exact notMentioned (mentionsList_map_iff.mp mentioned)
  have mentioned :
      Text.occursIn "map".toList ("map" ++ "<" ++ (key ++ "," ++ value) ++ ">").toList = true := by
    rw [Text.occursIn_iff, isInfix_bracketed_iff (by decide) (by decide) (by decide)]
    exact Or.inl (List.infix_refl _)
  change ofText ("map" ++ "<" ++ (key ++ "," ++ value) ++ ">") = .map key value
  rw [ofText, listElement?, noList, if_neg Bool.false_ne_true, mapTypes?, mentioned, if_pos rfl,
    found, Option.bind_some, pair?_eq_some keyFree valueFree]

end Forms

section Identifiers

variable {element key value : String}

theorem isPart_of_identifier (identifier : Source.Identifier element) : IsPart element := by
  refine ⟨(Source.isToken_of_identifier identifier).1, ?_⟩
  intro c mem
  have isLetterOrDigit := identifier.isLetterOrDigit c mem
  simp only [isSeparator, Bool.or_eq_false_iff, beq_eq_false_iff_ne]
  exact ⟨⟨Source.isBlank_of_isLetterOrDigit isLetterOrDigit,
    isLetterOrDigit.ne_of_not_rest (by decide)⟩, isLetterOrDigit.ne_of_not_rest (by decide)⟩

theorem comma_not_mem_of_identifier (identifier : Source.Identifier element) :
    ',' ∉ element.toList := by
  intro mem
  exact (identifier.isLetterOrDigit ',' mem).ne_of_not_rest (by decide) rfl

theorem isPart_pair (isKey : IsPart key) (isValue : IsPart value) :
    IsPart (key ++ "," ++ value) := by
  refine ⟨by simp, ?_⟩
  have isComma : IsPart "," := by
    decide
  simp only [String.toList_append, List.forall_mem_append]
  exact ⟨⟨isKey.2, isComma.2⟩, isValue.2⟩

/-- A list of an identifier and an identifier alone are read as they are written, and so is a map of
two identifiers unless one of them mentions `list`. -/
theorem ofText_of_identifier (isElement : Source.Identifier element)
    (isKey : Source.Identifier key) (isValue : Source.Identifier value) :
    ofText ("list<" ++ element ++ ">") = .list element ∧
      ofText element = .named element ∧
      (¬("list".toList <:+: key.toList ∨ "list".toList <:+: value.toList) →
        ofText ("map<" ++ key ++ "," ++ value ++ ">") = .map key value) ∧
      ("list".toList <:+: key.toList ∨ "list".toList <:+: value.toList →
        ofText ("map<" ++ key ++ "," ++ value ++ ">") = .list (key ++ "," ++ value)) := by
  have elementPart := isPart_of_identifier isElement
  have pairPart := isPart_pair (isPart_of_identifier isKey) (isPart_of_identifier isValue)
  have written : "map<" ++ key ++ "," ++ value ++ ">" = "map<" ++ (key ++ "," ++ value) ++ ">" := by
    simp only [String.append_assoc]
  -- The word holds no comma, so it occurs in the key or in the value.
  have mentionedIff : "list".toList <:+: (key ++ "," ++ value).toList ↔
      "list".toList <:+: key.toList ∨ "list".toList <:+: value.toList := by
    have characters : (key ++ "," ++ value).toList = key.toList ++ ',' :: value.toList := by
      simp
    rw [characters]
    apply Text.isInfix_append_mark_iff
    decide
  rw [written]
  refine ⟨ofText_list elementPart, ofText_of_isPart elementPart, ?_, ?_⟩
  · intro notMentioned
    apply ofText_map pairPart (comma_not_mem_of_identifier isKey)
      (comma_not_mem_of_identifier isValue)
    intro mentioned
    exact notMentioned (mentionedIff.mp mentioned)
  · intro mentioned
    exact ofText_map_of_list pairPart (mentionedIff.mpr mentioned)

theorem ofText_of_identifier_containerWords :
    Source.Identifier "list" ∧ Source.Identifier "map" ∧ Source.Identifier "lis_t" ∧
      ofText "list<list>" = .list "list" ∧ ofText "list" = .named "list" ∧
      ofText "map<map,lis_t>" = .map "map" "lis_t" := by
  have isList : Source.Identifier "list" := by
    decide
  have isMap : Source.Identifier "map" := by
    decide
  have isOther : Source.Identifier "lis_t" := by
    decide
  have notMentioned : ¬("list".toList <:+: "map".toList ∨ "list".toList <:+: "lis_t".toList) := by
    rw [← Text.occursIn_iff, ← Text.occursIn_iff]
    decide
  have described := ofText_of_identifier isList isMap isOther
  exact ⟨isList, isMap, isOther, described.1, described.2.1, described.2.2.1 notMentioned⟩

/-- A map with the key `list` is a list of what stands between its brackets. -/
theorem ofText_map_listKey :
    Source.Identifier "list" ∧ Source.Identifier "x" ∧
      ofText "map<list,x>" = .list "list,x" ∧ ofText "map<list,x>" ≠ .map "list" "x" := by
  decide

end Identifiers

end TypeExpr

end GenModel
