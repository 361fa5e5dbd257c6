import GenModel.Proofs.Render.Page
import GenModel.Proofs.Source.RoundTrip
import GenModel.Proofs.Text.Unbroken
import GenModel.Render

/-!
# Rendered enums can be read back

If an enum is rendered at all, its text determines its type name, its values and the names of its
constants, each in order, and the integer type that the text declares is the narrow one exactly if
all values fit it.

A constant ends where its value begins. In most languages a space stands there, which no name
holds. In Kotlin an opening parenthesis does, which no decimal number holds, so the line is read
from its end.
-/

namespace GenModel

namespace Enum

/-- What rendering relies on: no name holds a blank character. -/
structure IsUnbroken (owner : Enum) : Prop where
  name : Text.IsUnbroken owner.name
  values : ∀ entry ∈ owner.values, Text.IsUnbroken entry.name

theorem isUnbroken_of_readable {owner : Enum} (readable : Source.Readable (.ofEnum owner)) :
    owner.IsUnbroken := by
  have wellFormed := Source.readable_iff.mp readable
  refine ⟨(Source.isToken_of_identifier wellFormed.identifier).isUnbroken, ?_⟩
  intro entry mem
  exact (wellFormed.isToken entry.name (List.mem_map_of_mem mem)).isUnbroken

theorem IsUnbroken.upperName {owner : Enum} (unbroken : owner.IsUnbroken) :
    Text.IsUnbroken (Text.upperFirst owner.name) :=
  Text.isUnbroken_upperFirst unbroken.name

/-- Constants that are accepted are the spellings of all values. -/
theorem constantsFrom_eq_ok {spell : String → String} {taken names : List String}
    {values : List EnumValue} (accepted : constantsFrom spell taken values = .ok names) :
    names = taken ++ values.map fun entry => spell entry.name := by
  induction values generalizing taken with
  | nil =>
      rw [constantsFrom, Except.ok.injEq] at accepted
      simp [accepted]
  | cons entry rest ih =>
      rw [constantsFrom] at accepted
      split at accepted
      · simp at accepted
      · split at accepted
        · simp [ih accepted]
        · simp at accepted

theorem constants_eq_ok {owner : Enum} {language : Language} {spell : String → String}
    {names : List String} (accepted : owner.constants language spell = .ok names) :
    names = owner.values.map fun entry => spell entry.name := by
  rw [constants] at accepted
  split at accepted
  · next found =>
      rw [Except.ok.injEq] at accepted
      subst names
      exact constantsFrom_eq_ok found
  · simp at accepted

theorem eq_of_map_constants {owner : Enum} {language : Language} {spell : String → String}
    {build : List String → Page} {page : Page}
    (rendered : (owner.constants language spell).map build = .ok page) :
    page = build (owner.values.map fun entry => spell entry.name) := by
  cases accepted : owner.constants language spell with
  | error fault => simp [accepted, Except.map] at rendered
  | ok names =>
      rw [accepted, Except.map, Except.ok.injEq] at rendered
      rw [← rendered, constants_eq_ok accepted]

theorem isNarrow_iff {owner : Enum} :
    owner.isNarrow = true ↔
      ∀ entry ∈ owner.values,
        -2147483648 ≤ entry.value.toInt ∧ entry.value.toInt ≤ 2147483647 := by
  simp [isNarrow]

end Enum

namespace Language

/-- The name of the constant for a value. In Go it begins with the type name, since constants share
one scope. -/
def constantName (language : Language) (owner : Enum) (entry : EnumValue) : String :=
  match language with
  | go => Text.upperFirst owner.name ++ Text.upperFirst entry.name
  | kotlin => Text.shoutySnake entry.name
  | csharp => Text.upperCamel entry.name
  | typescript => Text.upperFirst entry.name

/-- What a language writes of the values of an enum: the names of the constants and the numbers. -/
def constants (language : Language) (owner : Enum) : List (String × Int64) :=
  owner.values.map fun entry => (language.constantName owner entry, entry.value)

/-- The line of a constant, without its comma. -/
def constantLine (language : Language) (typeName : String) (constant : String × Int64) : String :=
  match language with
  | go =>
    "\t" ++ constant.1 ++ " = " ++ typeName ++ "(" ++ Text.decimal constant.2.toInt ++ ")"
  | kotlin => "\t" ++ constant.1 ++ "(" ++ Text.decimal constant.2.toInt ++ ")"
  | csharp => "\t" ++ constant.1 ++ " = " ++ Text.decimal constant.2.toInt
  | typescript => "\t" ++ constant.1 ++ " = " ++ Text.decimal constant.2.toInt

/-- The integer type that an enum declares, for values that fit thirty-two bits or not. -/
def storage (language : Language) (narrow : Bool) : String :=
  match language with
  | go => if narrow then "int" else "int64"
  | kotlin => if narrow then "Int" else "Long"
  | csharp => if narrow then "" else " : long"
  | typescript => ""

/-- The first line of an enum. -/
def enumHeader (language : Language) (typeName storage : String) : String :=
  match language with
  | go => "type " ++ typeName ++ " " ++ storage
  | kotlin => "enum class " ++ typeName ++ "(val value: " ++ storage ++ ") \x7b"
  | csharp => "public enum " ++ typeName ++ storage
  | typescript => "export enum " ++ typeName ++ " \x7b"

/-- The lines of an enum after the first one. -/
def enumBody (language : Language) (constantLines : List String) : List String :=
  match language with
  | go => ["", "const ("] ++ constantLines ++ [")"]
  | kotlin => Text.listed constantLines ++ ["\x7d"]
  | csharp => ["\x7b"] ++ Text.listed constantLines ++ ["\x7d"]
  | typescript => Text.listed constantLines ++ ["\x7d"]

/-- The lines of an enum. -/
def enumLines (language : Language) (owner : Enum) : List String :=
  language.enumHeader (Text.upperFirst owner.name) (language.storage owner.isNarrow) ::
    language.enumBody
      ((language.constants owner).map (language.constantLine (Text.upperFirst owner.name)))

/-- The lines before an enum. -/
def enumOpening (language : Language) (settings : Settings) : List String :=
  match language with
  | go => Go.opening settings []
  | kotlin => Kotlin.opening settings []
  | csharp => CSharp.opening settings []
  | typescript => TypeScript.opening settings []

/-- Lines of a declaration as they stand on a page. -/
def enclosed (language : Language) (settings : Settings) (declaration : List String) :
    List String :=
  match language with
  | csharp => CSharp.enclose settings declaration
  | _ => declaration

theorem entries_eq (language : Language) {owner : Enum} {spell : String → String}
    (spelled : ∀ entry, language.constantName owner entry = spell entry.name)
    (line : String → Int64 → String) :
    owner.entries (owner.values.map fun entry => spell entry.name) line =
      (language.constants owner).map fun constant => line constant.1 constant.2 := by
  simp [Enum.entries, constants, spelled, List.zipWith_map_left]

theorem enumPage_go (settings : Settings) (owner : Enum) :
    Go.enumPage settings owner = ⟨go.enumOpening settings, go.enumLines owner⟩ := by
  rw [Go.enumPage, enumLines, constants, List.map_map]
  have lineEq : Go.constantLine (Text.upperFirst owner.name) =
      go.constantLine (Text.upperFirst owner.name) ∘
        fun entry => (go.constantName owner entry, entry.value) := by
    funext entry
    simp [Go.constantLine, constantLine, constantName, String.append_assoc]
  rw [lineEq]
  rfl

theorem enumPage_typescript (settings : Settings) (owner : Enum) :
    TypeScript.enumPage settings owner =
      ⟨typescript.enumOpening settings, typescript.enumLines owner⟩ := by
  rw [TypeScript.enumPage, enumLines, constants, List.map_map, Text.commaSeparated_eq_listed]
  rfl

/-- All languages write an enum in the same way, if they do at all. -/
theorem enumPage_eq_ok {language : Language} {settings : Settings} {owner : Enum} {page : Page}
    (rendered : language.enumPage settings owner = .ok page) :
    page = ⟨language.enumOpening settings,
      language.enclosed settings (language.enumLines owner)⟩ := by
  cases language with
  | go => exact (Except.ok.inj rendered).symm.trans (enumPage_go settings owner)
  | kotlin =>
      rw [Enum.eq_of_map_constants rendered, Kotlin.enumPageOf, entries_eq .kotlin fun _ => rfl,
        Text.commaSeparated_eq_listed]
      rfl
  | csharp =>
      rw [Enum.eq_of_map_constants rendered, CSharp.enumPageOf, entries_eq .csharp fun _ => rfl,
        Text.commaSeparated_eq_listed]
      rfl
  | typescript =>
      exact (Except.ok.inj rendered).symm.trans (enumPage_typescript settings owner)

section Lines

variable {language : Language} {owner first second : Enum}

theorem isUnbroken_of_mem_constants (unbroken : owner.IsUnbroken) :
    ∀ constant ∈ language.constants owner, Text.IsUnbroken constant.1 := by
  rw [constants, List.forall_mem_map]
  intro entry mem
  have entryUnbroken := unbroken.values entry mem
  cases language with
  | go =>
      exact Text.isUnbroken_append_iff.mpr
        ⟨unbroken.upperName, Text.isUnbroken_upperFirst entryUnbroken⟩
  | kotlin => exact Text.isUnbroken_shoutySnake entryUnbroken
  | csharp => exact Text.isUnbroken_upperCamel entryUnbroken
  | typescript => exact Text.isUnbroken_upperFirst entryUnbroken

theorem isLine_constantLine {typeName : String} {constant : String × Int64}
    (typeUnbroken : Text.IsUnbroken typeName) (nameUnbroken : Text.IsUnbroken constant.1) :
    Text.IsLine (language.constantLine typeName constant) := by
  have isDecimal : Text.IsLine (Text.decimal constant.2.toInt) :=
    (Text.isToken_decimal _).isUnbroken.isLine
  cases language with
  | go =>
      simp only [constantLine, Text.isLine_append_iff]
      exact ⟨⟨⟨⟨⟨⟨by decide, nameUnbroken.isLine⟩, by decide⟩, typeUnbroken.isLine⟩, by decide⟩,
        isDecimal⟩, by decide⟩
  | kotlin =>
      simp only [constantLine, Text.isLine_append_iff]
      exact ⟨⟨⟨⟨by decide, nameUnbroken.isLine⟩, by decide⟩, isDecimal⟩, by decide⟩
  | csharp =>
      simp only [constantLine, Text.isLine_append_iff]
      exact ⟨⟨⟨by decide, nameUnbroken.isLine⟩, by decide⟩, isDecimal⟩
  | typescript =>
      simp only [constantLine, Text.isLine_append_iff]
      exact ⟨⟨⟨by decide, nameUnbroken.isLine⟩, by decide⟩, isDecimal⟩

theorem constantLine_inj {typeName : String} {constant other : String × Int64}
    (unbroken : Text.IsUnbroken constant.1) (otherUnbroken : Text.IsUnbroken other.1)
    (same : language.constantLine typeName constant = language.constantLine typeName other) :
    constant = other := by
  suffices parts : constant.1 = other.1 ∧
      Text.decimal constant.2.toInt = Text.decimal other.2.toInt from
    Prod.ext parts.1 (Text.decimal_inj parts.2)
  cases language with
  | go =>
      simp only [constantLine, String.append_assoc, String.append_right_inj] at same
      rcases unbroken.append_inj otherUnbroken (by decide) same with ⟨nameEq, sameValue⟩
      rw [String.append_right_inj, String.append_right_inj, String.append_left_inj] at sameValue
      exact ⟨nameEq, sameValue⟩
  | kotlin =>
      -- Whatever the name holds, the number holds no parenthesis.
      simp only [constantLine, String.append_left_inj] at same
      simp only [String.append_assoc, String.append_right_inj] at same
      exact Text.append_word_inj_of_rest (by decide : '(' ∈ "(".toList)
        (Text.parenthesis_not_mem_decimal _) (Text.parenthesis_not_mem_decimal _) same
  | csharp =>
      simp only [constantLine, String.append_assoc, String.append_right_inj] at same
      exact unbroken.append_inj otherUnbroken (by decide) same
  | typescript =>
      simp only [constantLine, String.append_assoc, String.append_right_inj] at same
      exact unbroken.append_inj otherUnbroken (by decide) same

theorem enumHeader_inj {typeName otherName : String} {narrow otherNarrow : Bool}
    (unbroken : Text.IsUnbroken typeName) (otherUnbroken : Text.IsUnbroken otherName)
    (same : language.enumHeader typeName (language.storage narrow) =
      language.enumHeader otherName (language.storage otherNarrow)) : typeName = otherName := by
  cases language with
  | go =>
      simp only [enumHeader, String.append_assoc, String.append_right_inj] at same
      exact (unbroken.append_inj otherUnbroken (by decide) same).1
  | kotlin =>
      simp only [enumHeader, String.append_assoc, String.append_right_inj] at same
      exact (unbroken.append_inj otherUnbroken (by decide) same).1
  | csharp =>
      -- The usual integer type is not written, so a space is put after both headers.
      have spaced (narrow : Bool) : ∃ tail, csharp.storage narrow ++ " " = " " ++ tail := by
        cases narrow with
        | true => exact ⟨"", rfl⟩
        | false => exact ⟨": long ", rfl⟩
      rcases spaced narrow with ⟨tail, tailEq⟩
      rcases spaced otherNarrow with ⟨otherTail, otherTailEq⟩
      simp only [enumHeader, String.append_assoc, String.append_right_inj] at same
      have sameSpaced := congrArg (· ++ " ") same
      simp only [String.append_assoc, tailEq, otherTailEq] at sameSpaced
      exact (unbroken.append_inj otherUnbroken (by decide) sameSpaced).1
  | typescript =>
      simpa only [enumHeader, String.append_assoc, String.append_right_inj,
        String.append_left_inj] using same

theorem enumBody_inj {constantLines others : List String}
    (same : language.enumBody constantLines = language.enumBody others) :
    constantLines = others := by
  cases language with
  | go => simpa [enumBody] using same
  | kotlin => exact Text.listed_inj (List.append_cancel_right same)
  | csharp => exact Text.listed_inj (by simpa [enumBody] using same)
  | typescript => exact Text.listed_inj (List.append_cancel_right same)

theorem isLine_enumHeader {typeName : String} (narrow : Bool)
    (unbroken : Text.IsUnbroken typeName) :
    Text.IsLine (language.enumHeader typeName (language.storage narrow)) := by
  have isStorage : Text.IsLine (language.storage narrow) := by
    cases language <;> cases narrow <;> decide
  cases language with
  | go =>
      simp only [enumHeader, Text.isLine_append_iff]
      exact ⟨⟨⟨by decide, unbroken.isLine⟩, by decide⟩, isStorage⟩
  | kotlin =>
      simp only [enumHeader, Text.isLine_append_iff]
      exact ⟨⟨⟨⟨by decide, unbroken.isLine⟩, by decide⟩, isStorage⟩, by decide⟩
  | csharp =>
      simp only [enumHeader, Text.isLine_append_iff]
      exact ⟨⟨by decide, unbroken.isLine⟩, isStorage⟩
  | typescript =>
      simp only [enumHeader, Text.isLine_append_iff]
      exact ⟨⟨by decide, unbroken.isLine⟩, by decide⟩

theorem isLine_of_mem_enumBody {constantLines : List String}
    (areLines : ∀ line ∈ constantLines, Text.IsLine line) :
    ∀ line ∈ language.enumBody constantLines, Text.IsLine line := by
  have separated := Text.isLine_of_mem_listed areLines
  cases language with
  | go =>
      simp only [enumBody, List.forall_mem_append]
      exact ⟨⟨by decide, areLines⟩, by decide⟩
  | kotlin =>
      simp only [enumBody, List.forall_mem_append]
      exact ⟨separated, by decide⟩
  | csharp =>
      simp only [enumBody, List.forall_mem_append]
      exact ⟨⟨by decide, separated⟩, by decide⟩
  | typescript =>
      simp only [enumBody, List.forall_mem_append]
      exact ⟨separated, by decide⟩

theorem isLine_of_mem_enumLines (unbroken : owner.IsUnbroken) :
    ∀ line ∈ language.enumLines owner, Text.IsLine line := by
  rw [enumLines, List.forall_mem_cons]
  refine ⟨isLine_enumHeader _ unbroken.upperName, isLine_of_mem_enumBody ?_⟩
  rw [List.forall_mem_map]
  intro constant mem
  exact isLine_constantLine unbroken.upperName (isUnbroken_of_mem_constants unbroken constant mem)

theorem enumLines_inj (firstUnbroken : first.IsUnbroken) (secondUnbroken : second.IsUnbroken)
    (same : language.enumLines first = language.enumLines second) :
    Text.upperFirst first.name = Text.upperFirst second.name ∧
      language.constants first = language.constants second := by
  rw [enumLines, enumLines, List.cons.injEq] at same
  have nameEq := enumHeader_inj firstUnbroken.upperName secondUnbroken.upperName same.1
  have sameConstants := enumBody_inj same.2
  rw [nameEq] at sameConstants
  have constantsEq : (language.constants first).map id = (language.constants second).map id := by
    refine map_eq_map_of_forall ?_ sameConstants
    intro constant mem other otherMem written
    exact constantLine_inj (isUnbroken_of_mem_constants firstUnbroken constant mem)
      (isUnbroken_of_mem_constants secondUnbroken other otherMem) written
  rw [List.map_id, List.map_id] at constantsEq
  exact ⟨nameEq, constantsEq⟩

end Lines

theorem isLine_of_mem_enclosed {language : Language} (settings : Settings)
    {declaration : List String} (areLines : ∀ line ∈ declaration, Text.IsLine line) :
    ∀ line ∈ language.enclosed settings declaration, Text.IsLine line := by
  cases language with
  | go => exact areLines
  | kotlin => exact areLines
  | csharp => exact CSharp.isLine_of_mem_enclose settings areLines
  | typescript => exact areLines

theorem enclosed_inj {language : Language} (settings : Settings) {declaration other : List String}
    (same : language.enclosed settings declaration = language.enclosed settings other) :
    declaration = other := by
  cases language with
  | go => exact same
  | kotlin => exact same
  | csharp => exact CSharp.enclose_inj settings same
  | typescript => exact same

/-- What stands before each line of a declaration. -/
def indent (language : Language) (settings : Settings) : String :=
  match language with
  | csharp => CSharp.indent settings
  | _ => ""

theorem enclosed_cons (language : Language) (settings : Settings) (line : String)
    {others : List String} (nonempty : others ≠ []) :
    ∃ rest, rest ≠ [] ∧
      language.enclosed settings (line :: others) = (language.indent settings ++ line) :: rest := by
  have plain : line :: others = ("" ++ line) :: others := by
    rw [String.empty_append]
  cases language with
  | go => exact ⟨others, nonempty, plain⟩
  | kotlin => exact ⟨others, nonempty, plain⟩
  | csharp => exact CSharp.enclose_cons settings line nonempty
  | typescript => exact ⟨others, nonempty, plain⟩

theorem enclosed_enumLines (language : Language) (settings : Settings) (owner : Enum) :
    ∃ rest, rest ≠ [] ∧ language.enclosed settings (language.enumLines owner) =
      (language.indent settings ++ language.enumHeader (Text.upperFirst owner.name)
        (language.storage owner.isNarrow)) :: rest := by
  have nonempty (constantLines : List String) : language.enumBody constantLines ≠ [] := by
    cases language <;> simp [enumBody]
  exact enclosed_cons language settings _ (nonempty _)

theorem enumLines_eq_of_text {language : Language} {settings : Settings} {first second : Enum}
    {firstPage secondPage : Page} (firstUnbroken : first.IsUnbroken)
    (secondUnbroken : second.IsUnbroken)
    (firstRendered : language.enumPage settings first = .ok firstPage)
    (secondRendered : language.enumPage settings second = .ok secondPage)
    (same : firstPage.text = secondPage.text) :
    language.enumLines first = language.enumLines second := by
  have nonempty (owner : Enum) : language.enclosed settings (language.enumLines owner) ≠ [] := by
    rcases enclosed_enumLines language settings owner with ⟨rest, -, linesEq⟩
    rw [linesEq]
    exact List.cons_ne_nil _ rest
  have areLines {owner : Enum} (unbroken : owner.IsUnbroken) :
      ∀ line ∈ language.enclosed settings (language.enumLines owner), Text.IsLine line :=
    isLine_of_mem_enclosed settings (isLine_of_mem_enumLines unbroken)
  rw [enumPage_eq_ok firstRendered, enumPage_eq_ok secondRendered, Page.text, Page.text,
    String.append_right_inj] at same
  apply enclosed_inj settings
  exact Text.joinLines_inj (nonempty first) (nonempty second) (areLines firstUnbroken)
    (areLines secondUnbroken) same

/-- The text declares that the values of the enum are held in the given integer type. -/
def DeclaresStorage (language : Language) (settings : Settings) (owner : Enum)
    (storage text : String) : Prop :=
  ∃ rest, text = Text.unlines (language.enumOpening settings) ++ language.indent settings ++
    language.enumHeader (Text.upperFirst owner.name) storage ++ "\n" ++ rest

section Storage

variable {language : Language} {settings : Settings} {owner : Enum}

theorem declaresStorage_of_enumPage {page : Page}
    (rendered : language.enumPage settings owner = .ok page) :
    language.DeclaresStorage settings owner (language.storage owner.isNarrow) page.text := by
  rcases enclosed_enumLines language settings owner with ⟨rest, nonempty, linesEq⟩
  refine ⟨Text.joinLines rest, ?_⟩
  rw [enumPage_eq_ok rendered, Page.text, linesEq, Text.joinLines,
    String.intercalate_cons_of_ne_nil nonempty]
  simp only [Text.joinLines, String.append_assoc]

theorem not_declaresStorage_of_declaresStorage {text : String} (typed : language ≠ typescript)
    (narrow : language.DeclaresStorage settings owner (language.storage true) text) :
    ¬language.DeclaresStorage settings owner (language.storage false) text := by
  rcases narrow with ⟨rest, restEq⟩
  rintro ⟨tail, tailEq⟩
  have same := restEq.symm.trans tailEq
  have feed : '\n' ∈ "\n".toList := by
    decide
  simp only [String.append_assoc, String.append_right_inj] at same
  cases language with
  | go =>
      simp only [enumHeader, String.append_assoc, String.append_right_inj] at same
      exact absurd (Text.append_word_inj feed (by decide) (by decide) same).1 (by decide)
  | kotlin =>
      simp only [enumHeader, String.append_assoc, String.append_right_inj] at same
      exact absurd (Text.append_word_inj (by decide : ')' ∈ ") \x7b".toList) (by decide) (by decide)
        same).1 (by decide)
  | csharp =>
      simp only [enumHeader, String.append_assoc, String.append_right_inj] at same
      exact absurd (Text.append_word_inj feed (by decide) (by decide) same).1 (by decide)
  | typescript => exact typed rfl

/-- Of its two integer types, a text declares the narrow one exactly if the enum is narrow. -/
theorem declaresStorage_iff {page : Page} (typed : language ≠ typescript)
    (rendered : language.enumPage settings owner = .ok page) (narrow : Bool) :
    language.DeclaresStorage settings owner (language.storage narrow) page.text ↔
      owner.isNarrow = narrow := by
  have declared := declaresStorage_of_enumPage rendered
  constructor
  · intro other
    cases narrow with
    | true =>
        cases isNarrow : owner.isNarrow with
        | true => rfl
        | false =>
            rw [isNarrow] at declared
            exact absurd declared (not_declaresStorage_of_declaresStorage typed other)
    | false =>
        cases isNarrow : owner.isNarrow with
        | true =>
            rw [isNarrow] at declared
            exact absurd other (not_declaresStorage_of_declaresStorage typed declared)
        | false => rfl
  · rintro rfl
    exact declared

end Storage

/-- The text of an enum determines its type name, its values and the names of its constants in
order, and it declares the narrow integer type exactly if all values fit thirty-two bits. -/
theorem enumPage_text_inj_and_storage (language : Language) (settings : Settings) :
    (∀ {first second : Enum} {firstPage secondPage : Page},
      Source.Readable (.ofEnum first) → Source.Readable (.ofEnum second) →
      language.enumPage settings first = .ok firstPage →
      language.enumPage settings second = .ok secondPage → firstPage.text = secondPage.text →
        Text.upperFirst first.name = Text.upperFirst second.name ∧
        first.values.map EnumValue.value = second.values.map EnumValue.value ∧
        first.values.map (language.constantName first) =
          second.values.map (language.constantName second)) ∧
      (language ≠ typescript → ∀ {owner : Enum} {page : Page},
        language.enumPage settings owner = .ok page →
          (language.DeclaresStorage settings owner (language.storage true) page.text ↔
            ∀ entry ∈ owner.values,
              -2147483648 ≤ entry.value.toInt ∧ entry.value.toInt ≤ 2147483647) ∧
          (language.DeclaresStorage settings owner (language.storage false) page.text ↔
            ¬∀ entry ∈ owner.values,
              -2147483648 ≤ entry.value.toInt ∧ entry.value.toInt ≤ 2147483647)) := by
  constructor
  · intro first second firstPage secondPage firstReadable secondReadable firstRendered
      secondRendered same
    have firstUnbroken := Enum.isUnbroken_of_readable firstReadable
    have secondUnbroken := Enum.isUnbroken_of_readable secondReadable
    have sameLines := enumLines_eq_of_text firstUnbroken secondUnbroken firstRendered
      secondRendered same
    rcases enumLines_inj firstUnbroken secondUnbroken sameLines with ⟨nameEq, constantsEq⟩
    have valuesEq := congrArg (List.map Prod.snd) constantsEq
    have namesEq := congrArg (List.map Prod.fst) constantsEq
    simp only [constants, List.map_map] at valuesEq namesEq
    exact ⟨nameEq, valuesEq, namesEq⟩
  · intro typed owner page rendered
    rw [declaresStorage_iff typed rendered, declaresStorage_iff typed rendered, ← Enum.isNarrow_iff,
      Bool.not_eq_true]
    exact ⟨Iff.rfl, Iff.rfl⟩

/-- An enum with a value that needs more than thirty-two bits. -/
def smallColor : Enum :=
  ⟨"color", [⟨"fooBar", -2147483648⟩, ⟨"wide", 2147483648⟩]⟩

/-- Another enum that is rendered in the same way. -/
def capitalColor : Enum :=
  ⟨"Color", [⟨"foo_bar", -2147483648⟩, ⟨"wide", 2147483648⟩]⟩

theorem enumPage_text_inj_and_storage_colors :
    Source.Readable (.ofEnum smallColor) ∧ Source.Readable (.ofEnum capitalColor) ∧
      ∀ settings : Settings, ∃ smallPage capitalPage : Page,
        kotlin.enumPage settings smallColor = .ok smallPage ∧
        kotlin.enumPage settings capitalColor = .ok capitalPage ∧
        smallPage.text = capitalPage.text ∧
        smallColor.values.map (kotlin.constantName smallColor) =
          capitalColor.values.map (kotlin.constantName capitalColor) ∧
        kotlin.DeclaresStorage settings smallColor "Long" smallPage.text := by
  have smallReadable : Source.Readable (.ofEnum smallColor) :=
    Source.readable_iff.mpr (by decide +kernel)
  have capitalReadable : Source.Readable (.ofEnum capitalColor) :=
    Source.readable_iff.mpr (by decide +kernel)
  refine ⟨smallReadable, capitalReadable, ?_⟩
  intro settings
  have rendered {owner : Enum} {names : List String}
      (spelled : owner.constants kotlin Text.shoutySnake = .ok names) :
      kotlin.enumPage settings owner = .ok (Kotlin.enumPageOf settings owner names) := by
    rw [enumPage, Kotlin.enumPage, spelled]
    rfl
  have smallRendered := rendered
    (by decide +kernel : smallColor.constants kotlin Text.shoutySnake = .ok ["FOO_BAR", "WIDE"])
  have capitalRendered := rendered
    (by decide +kernel : capitalColor.constants kotlin Text.shoutySnake = .ok ["FOO_BAR", "WIDE"])
  have same : (Kotlin.enumPageOf settings smallColor ["FOO_BAR", "WIDE"]).text =
      (Kotlin.enumPageOf settings capitalColor ["FOO_BAR", "WIDE"]).text := by
    have nameEq : Text.upperFirst smallColor.name = Text.upperFirst capitalColor.name := by
      decide +kernel
    simp only [Page.text, Kotlin.enumPageOf, nameEq]
    rfl
  have described := enumPage_text_inj_and_storage kotlin settings
  refine ⟨_, _, smallRendered, capitalRendered, same,
    (described.1 smallReadable capitalReadable smallRendered capitalRendered same).2.2, ?_⟩
  refine (described.2 (by decide) smallRendered).2.mpr ?_
  decide

end Language

end GenModel
