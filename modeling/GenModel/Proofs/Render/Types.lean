import GenModel.Proofs.Text.Unbroken
import GenModel.Render.TypeStyle

/-!
# Rendered types

The type of a member is a token, so the names that it is made of are unbroken, and so is each of
them in a language. A rendered type is unbroken as well, except that all languages but Go write a
comma and a space between the key and the value of a map.
-/

namespace GenModel

namespace TypeExpr

theorem isUnbroken_of_parameters? {text parameters : String}
    (found : parameters? text = some parameters) : Text.IsUnbroken parameters := by
  have mem : parameters ∈ Text.tokensBy isSeparator text := List.mem_of_getElem? found
  rcases Text.mem_tokensBy_iff.mp mem with ⟨-, pieceMem⟩
  intro c charMem
  have notSeparator := (Text.of_mem_pieces pieceMem charMem).2
  simp only [isSeparator, Bool.or_eq_false_iff] at notSeparator
  exact notSeparator.1.1

theorem isUnbroken_of_pair? {text key value : String} (isUnbroken : Text.IsUnbroken text)
    (found : pair? text = some (key, value)) : Text.IsUnbroken key ∧ Text.IsUnbroken value := by
  have ofPiece {piece : List Char} (mem : piece ∈ Text.pieces (· == ',') text.toList) :
      Text.IsUnbroken (String.ofList piece) := by
    intro c charMem
    rw [String.toList_ofList] at charMem
    exact isUnbroken c (Text.of_mem_pieces mem charMem).1
  rw [pair?] at found
  split at found
  · next keyPiece valuePiece piecesEq =>
      simp only [Option.some.injEq, Prod.mk.injEq] at found
      rcases found with ⟨rfl, rfl⟩
      exact ⟨ofPiece (by simp [piecesEq]), ofPiece (by simp [piecesEq])⟩
  · simp at found

theorem isUnbroken_of_listElement? {text element : String}
    (found : listElement? text = some element) : Text.IsUnbroken element := by
  rw [listElement?] at found
  split at found
  · exact isUnbroken_of_parameters? found
  · simp at found

theorem isUnbroken_of_mapTypes? {text key value : String}
    (found : mapTypes? text = some (key, value)) :
    Text.IsUnbroken key ∧ Text.IsUnbroken value := by
  rw [mapTypes?] at found
  split at found
  · rcases Option.bind_eq_some_iff.mp found with ⟨parameters, parametersFound, pairFound⟩
    exact isUnbroken_of_pair? (isUnbroken_of_parameters? parametersFound) pairFound
  · simp at found

/-- The names that an unbroken type is made of are unbroken. -/
theorem isUnbroken_of_mem_names {text : String} (isUnbroken : Text.IsUnbroken text) :
    ∀ name ∈ (ofText text).names, Text.IsUnbroken name := by
  rw [ofText]
  split
  · next element found => simpa [names] using isUnbroken_of_listElement? found
  · split
    · next key value found => simpa [names] using isUnbroken_of_mapTypes? found
    · simpa [names] using isUnbroken

end TypeExpr

namespace Language

theorem isUnbroken_spelling (language : Language) (primitive : Primitive) :
    Text.IsUnbroken (primitive.spelling language) := by
  cases language <;> cases primitive <;> decide

theorem isUnbroken_reference (language : Language) {name : String}
    (isUnbroken : Text.IsUnbroken name) :
    Text.IsUnbroken (language.typeStyle.reference name) := by
  have capitalised := Text.isUnbroken_upperFirst isUnbroken
  cases language with
  | go => exact Text.isUnbroken_append_iff.mpr ⟨by decide, capitalised⟩
  | kotlin => exact capitalised
  | csharp => exact capitalised
  | typescript => exact capitalised

theorem isUnbroken_element (language : Language) {name : String}
    (isUnbroken : Text.IsUnbroken name) :
    Text.IsUnbroken (language.typeStyle.element name) := by
  have primitiveEq (primitive : Primitive) :
      language.typeStyle.primitive primitive = primitive.spelling language := by
    cases language <;> rfl
  rw [TypeStyle.element, TypeName.resolve]
  cases Primitive.ofName? name with
  | some primitive =>
      simp only [primitiveEq]
      exact isUnbroken_spelling language primitive
  | none => exact isUnbroken_reference language isUnbroken

theorem isUnbroken_list (language : Language) {element : String}
    (isUnbroken : Text.IsUnbroken element) :
    Text.IsUnbroken (language.typeStyle.list element) := by
  cases language with
  | go => exact Text.isUnbroken_append_iff.mpr ⟨by decide, isUnbroken⟩
  | kotlin =>
      simp only [typeStyle, Text.isUnbroken_append_iff]
      exact ⟨⟨by decide, isUnbroken⟩, by decide⟩
  | csharp =>
      simp only [typeStyle, Text.isUnbroken_append_iff]
      exact ⟨⟨by decide, isUnbroken⟩, by decide⟩
  | typescript => exact Text.isUnbroken_append_iff.mpr ⟨isUnbroken, by decide⟩

/-- What holds of unbroken texts and of maps between such texts holds of every rendered type. -/
theorem fieldType_of {Holds : String → Prop} (language : Language) {declaredType : String}
    (isUnbroken : Text.IsUnbroken declaredType)
    (ofUnbroken : ∀ text, Text.IsUnbroken text → Holds text)
    (ofMap : ∀ key value, Text.IsUnbroken key → Text.IsUnbroken value →
      Holds (language.typeStyle.map key value)) :
    Holds (language.fieldType declaredType) := by
  have unbroken := TypeExpr.isUnbroken_of_mem_names isUnbroken
  rw [fieldType, TypeStyle.field]
  cases kind : TypeExpr.ofText declaredType with
  | list element =>
      simp only [kind, TypeExpr.names, List.forall_mem_cons] at unbroken
      exact ofUnbroken _ (isUnbroken_list language (isUnbroken_element language unbroken.1))
  | map key value =>
      simp only [kind, TypeExpr.names, List.forall_mem_cons] at unbroken
      exact ofMap _ _ (isUnbroken_element language unbroken.1)
        (isUnbroken_element language unbroken.2.1)
  | named name =>
      simp only [kind, TypeExpr.names, List.forall_mem_cons] at unbroken
      exact ofUnbroken _ (isUnbroken_element language unbroken.1)

theorem isUnbroken_fieldType_go {declaredType : String}
    (isUnbroken : Text.IsUnbroken declaredType) :
    Text.IsUnbroken (go.fieldType declaredType) := by
  refine fieldType_of go isUnbroken (fun _ unbroken => unbroken) ?_
  intro key value keyUnbroken valueUnbroken
  simp only [typeStyle, Text.isUnbroken_append_iff]
  exact ⟨⟨⟨by decide, keyUnbroken⟩, by decide⟩, valueUnbroken⟩

/-- A text that is unbroken, or that has one space, and that after a comma. -/
def IsTypeText (text : String) : Prop :=
  Text.IsUnbroken text ∨
    ∃ front back, Text.IsUnbroken front ∧ Text.IsUnbroken back ∧ text = front ++ ", " ++ back

theorem isTypeText_map (opening : String) {key value : String}
    (openingUnbroken : Text.IsUnbroken opening) (keyUnbroken : Text.IsUnbroken key)
    (valueUnbroken : Text.IsUnbroken value) :
    IsTypeText (opening ++ key ++ ", " ++ value ++ ">") :=
  Or.inr ⟨opening ++ key, value ++ ">",
    Text.isUnbroken_append_iff.mpr ⟨openingUnbroken, keyUnbroken⟩,
    Text.isUnbroken_append_iff.mpr ⟨valueUnbroken, by decide⟩, String.append_assoc⟩

/-- A rendered type is unbroken, or it is the type of a map with one space after the comma. -/
theorem isTypeText_fieldType (language : Language) {declaredType : String}
    (isUnbroken : Text.IsUnbroken declaredType) :
    IsTypeText (language.fieldType declaredType) := by
  cases language with
  | go => exact Or.inl (isUnbroken_fieldType_go isUnbroken)
  | kotlin =>
      refine fieldType_of kotlin isUnbroken (fun _ unbroken => Or.inl unbroken) ?_
      intro key value keyUnbroken valueUnbroken
      exact isTypeText_map "HashMap<" (by decide) keyUnbroken valueUnbroken
  | csharp =>
      refine fieldType_of csharp isUnbroken (fun _ unbroken => Or.inl unbroken) ?_
      intro key value keyUnbroken valueUnbroken
      exact isTypeText_map "Dictionary<" (by decide) keyUnbroken valueUnbroken
  | typescript =>
      refine fieldType_of typescript isUnbroken (fun _ unbroken => Or.inl unbroken) ?_
      intro key value keyUnbroken valueUnbroken
      exact isTypeText_map "Map<" (by decide) keyUnbroken valueUnbroken

theorem isLine_fieldType (language : Language) {declaredType : String}
    (isUnbroken : Text.IsUnbroken declaredType) :
    Text.IsLine (language.fieldType declaredType) := by
  rcases isTypeText_fieldType language isUnbroken with unbroken | ⟨front, back, frontUnbroken,
    backUnbroken, typeEq⟩
  · exact unbroken.isLine
  · rw [typeEq]
    simp only [Text.isLine_append_iff]
    exact ⟨⟨frontUnbroken.isLine, by decide⟩, backUnbroken.isLine⟩

end Language

end GenModel
