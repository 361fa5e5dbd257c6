import GenModel.Proofs.Render.Constants
import GenModel.Proofs.Text.UpperCase
import Mathlib.Data.List.Nodup

/-!
# Identifiers of entries

The entries of a declaration have distinct names, but not always distinct identifiers. Kotlin and C#
check the constants of an enum, and where the name itself is the identifier there is nothing to
check. In the other cases the name gets a capital first letter, and nothing is checked. There the
identifiers are distinct exactly if distinct names are regained from them, as they are if all names
begin with ASCII characters (`identifiers_nodup_iff`). The names `s` and `ſ` become one identifier.
-/

namespace GenModel

theorem Text.nodup_upperFirst_iff {names : List String}
    (stored : ∀ name ∈ names, lowerFirst name = name) (front : String) :
    (names.map fun name => front ++ upperFirst name).Nodup ↔ (names.map regained).Nodup := by
  simp only [List.Nodup, List.pairwise_map]
  apply List.Pairwise.iff_of_mem
  intro name other mem otherMem
  rw [ne_eq, ne_eq, String.append_right_inj, upperFirst_eq_iff (stored name mem)
    (stored other otherMem)]

theorem Text.regained_nodup_of_beginsAscii {names : List String} (distinct : names.Nodup)
    (stored : ∀ name ∈ names, lowerFirst name = name) (ascii : ∀ name ∈ names, BeginsAscii name) :
    (names.map regained).Nodup := by
  have regainedEq : names.map regained = names.map id := by
    refine List.map_congr_left ?_
    intro name mem
    exact regained_of_beginsAscii (stored name mem) (ascii name mem)
  rwa [regainedEq, List.map_id]

namespace Enum

/-- Constants that are accepted are distinct. -/
theorem constantsFrom_nodup {spell : String → String} {taken names : List String}
    {values : List EnumValue} (distinct : taken.Nodup)
    (accepted : constantsFrom spell taken values = .ok names) : names.Nodup := by
  induction values generalizing taken with
  | nil =>
      rw [constantsFrom, Except.ok.injEq] at accepted
      rwa [← accepted]
  | cons entry rest ih =>
      rw [constantsFrom] at accepted
      split at accepted
      · simp at accepted
      · split at accepted
        · next fresh =>
            refine ih ?_ accepted
            rw [← List.concat_eq_append]
            exact distinct.concat (isFresh_iff.mp fresh)
        · simp at accepted

theorem constants_nodup {owner : Enum} {language : Language} {spell : String → String}
    {names : List String} (accepted : owner.constants language spell = .ok names) :
    (owner.values.map fun entry => spell entry.name).Nodup := by
  rw [← constants_eq_ok accepted]
  rw [constants] at accepted
  split at accepted
  · next found =>
      rw [Except.ok.injEq] at accepted
      subst names
      exact constantsFrom_nodup List.nodup_nil found
  · simp at accepted

end Enum

namespace Language

/-- The identifier of a member. -/
def fieldName (language : Language) (member : Member) : String :=
  match language with
  | go => Text.upperFirst member.name
  | kotlin => member.name
  | csharp => Text.upperFirst member.name
  | typescript => member.name

/-- The identifiers of the entries of a declaration, in order. -/
def identifiers (language : Language) : Declaration → List String
  | .ofClass owner => owner.members.map language.fieldName
  | .ofEnum owner => owner.values.map (language.constantName owner)

/-- The lines of a class in which the given identifiers stand for its members. -/
def classLinesOf (language : Language) (owner : Class) (names : List String) : List String :=
  match language with
  | go =>
    ["type " ++ Text.upperFirst owner.name ++ " struct \x7b"] ++
      List.zipWith (fun name member => "\t" ++ name ++ " " ++
        go.fieldType member.declaredType ++ " `json:\"" ++ member.name ++ "\"`")
        names owner.members ++ ["\x7d"]
  | kotlin =>
    if owner.members.isEmpty then ["class " ++ Text.upperFirst owner.name]
    else
      ["data class " ++ Text.upperFirst owner.name ++ "(" ++
        ", ".intercalate (List.zipWith (fun name member => "val " ++ name ++ ": " ++
          kotlin.fieldType member.declaredType) names owner.members) ++ ")"]
  | csharp =>
    ["public class " ++ Text.upperFirst owner.name, "\x7b"] ++
      (List.zipWith (fun name member =>
        [
          "\t[JsonProperty(PropertyName = \"" ++ member.name ++ "\")]",
          "\tpublic " ++ csharp.fieldType member.declaredType ++ " " ++ name ++
            " \x7b get; set; \x7d"
        ]) names owner.members).flatten ++ ["\x7d"]
  | typescript =>
    ["export class " ++ Text.upperFirst owner.name ++ " \x7b"] ++
      List.zipWith (fun name member => "\t" ++ name ++ ": " ++
        typescript.fieldType member.declaredType ++ ";") names owner.members ++ ["\x7d"]

/-- The lines of a declaration in which the given identifiers stand for its entries. -/
def linesOf (language : Language) (names : List String) : Declaration → List String
  | .ofClass owner => language.classLinesOf owner names
  | .ofEnum owner =>
    language.enumHeader (Text.upperFirst owner.name) (language.storage owner.isNarrow) ::
      language.enumBody (List.zipWith (fun name entry =>
        language.constantLine (Text.upperFirst owner.name) (name, entry.value)) names owner.values)

/-- Whether entries of declarations of a kind have their names with a capital first letter as
identifiers, unchecked. -/
def raisesNames : Language → Kind → Bool
  | go, _ => true
  | csharp, .classKind => true
  | typescript, .enumKind => true
  | _, _ => false

section Identifiers

variable {language : Language} {settings : Settings} {declaration : Declaration}

theorem declarationLines_eq_linesOf (language : Language) (declaration : Declaration) :
    language.declarationLines declaration =
      language.linesOf (language.identifiers declaration) declaration := by
  cases declaration with
  | ofClass owner =>
      cases language with
      | go =>
          rw [linesOf, identifiers, classLinesOf, List.zipWith_map_left, List.zipWith_self]
          rfl
      | kotlin =>
          rw [linesOf, identifiers, classLinesOf, List.zipWith_map_left, List.zipWith_self,
            declarationLines, Kotlin.classLine]
          split_ifs <;> rfl
      | csharp =>
          rw [linesOf, identifiers, classLinesOf, List.zipWith_map_left, List.zipWith_self]
          rfl
      | typescript =>
          rw [linesOf, identifiers, classLinesOf, List.zipWith_map_left, List.zipWith_self]
          rfl
  | ofEnum owner =>
      rw [linesOf, identifiers, List.zipWith_map_left, List.zipWith_self, declarationLines,
        enumLines, constants, List.map_map]
      rfl

theorem identifiers_eq_of_raisesNames (raises : language.raisesNames declaration.kind = true) :
    ∃ front, language.identifiers declaration =
      declaration.entryNames.map fun name => front ++ Text.upperFirst name := by
  have plain (name : String) : Text.upperFirst name = "" ++ Text.upperFirst name := by
    rw [String.empty_append]
  cases declaration with
  | ofClass owner =>
      refine ⟨"", ?_⟩
      rw [Declaration.entryNames, identifiers, List.map_map]
      cases language with
      | go => exact List.map_congr_left fun member _ => plain member.name
      | kotlin => simp [raisesNames] at raises
      | csharp => exact List.map_congr_left fun member _ => plain member.name
      | typescript => simp [raisesNames, Declaration.kind] at raises
  | ofEnum owner =>
      rw [Declaration.entryNames, identifiers]
      cases language with
      | go => exact ⟨Text.upperFirst owner.name, by rw [List.map_map]; rfl⟩
      | kotlin => simp [raisesNames] at raises
      | csharp => simp [raisesNames, Declaration.kind] at raises
      | typescript =>
          refine ⟨"", ?_⟩
          rw [List.map_map]
          exact List.map_congr_left fun entry _ => plain entry.name

theorem exists_page_of_raisesNames (raises : language.raisesNames declaration.kind = true)
    (settings : Settings) : ∃ page, language.page settings declaration = .ok page := by
  cases declaration with
  | ofClass owner => exact ⟨_, rfl⟩
  | ofEnum owner =>
      cases language with
      | go => exact ⟨_, rfl⟩
      | kotlin => simp [raisesNames] at raises
      | csharp => simp [raisesNames, Declaration.kind] at raises
      | typescript => exact ⟨_, rfl⟩

/-- Where names do not get capital first letters, the identifiers of a page are distinct. -/
theorem identifiers_nodup_of_not_raisesNames (distinct : declaration.entryNames.Nodup)
    (keeps : language.raisesNames declaration.kind = false) {page : Page}
    (rendered : language.page settings declaration = .ok page) :
    (language.identifiers declaration).Nodup := by
  cases declaration with
  | ofClass owner =>
      cases language with
      | go => simp [raisesNames] at keeps
      | kotlin => exact distinct
      | csharp => simp [raisesNames, Declaration.kind] at keeps
      | typescript => exact distinct
  | ofEnum owner =>
      have checked {spell : String → String} (spelled : language.ownSpelling? = some spell) :
          (owner.values.map fun entry => spell entry.name).Nodup := by
        rcases exists_enumPage_eq_map spelled settings owner with ⟨build, pageEq⟩
        rw [Language.page, pageEq] at rendered
        cases accepted : owner.constants language spell with
        | error fault => simp [accepted, Except.map] at rendered
        | ok names => exact Enum.constants_nodup accepted
      cases language with
      | go => simp [raisesNames] at keeps
      | kotlin => exact checked rfl
      | csharp => exact checked rfl
      | typescript => simp [raisesNames, Declaration.kind] at keeps

end Identifiers

/-- The identifiers that stand for the entries of a declaration on its page are distinct, unless
they are the names with capital first letters. Then they are distinct exactly if distinct names are
regained from the entries, as is the case if all names begin with ASCII characters. -/
theorem identifiers_nodup_iff {text : String} {model : List Declaration}
    (parsed : Source.parse text = .ok model) (language : Language) (settings : Settings)
    {declaration : Declaration} (mem : declaration ∈ model) :
    (language.raisesNames declaration.kind = true →
      ∃ page, language.page settings declaration = .ok page) ∧
    ∀ page, language.page settings declaration = .ok page →
      page.declaration = language.enclosed settings
        (language.linesOf (language.identifiers declaration) declaration) ∧
      ((language.identifiers declaration).Nodup ↔
        (language.raisesNames declaration.kind = true →
          (declaration.entryNames.map Text.regained).Nodup)) ∧
      ((∀ name ∈ declaration.entryNames, Text.BeginsAscii name) →
        (language.identifiers declaration).Nodup) := by
  have wellFormed := Source.wellFormed_of_parse parsed declaration mem
  refine ⟨fun raises => exists_page_of_raisesNames raises settings, ?_⟩
  intro page rendered
  have distinctIff : (language.identifiers declaration).Nodup ↔
      (language.raisesNames declaration.kind = true →
        (declaration.entryNames.map Text.regained).Nodup) := by
    by_cases raises : language.raisesNames declaration.kind = true
    · rcases identifiers_eq_of_raisesNames raises with ⟨front, identifiersEq⟩
      rw [identifiersEq, Text.nodup_upperFirst_iff wellFormed.lowered front]
      exact ⟨fun distinct _ => distinct, fun distinct => distinct raises⟩
    · rw [Bool.not_eq_true] at raises
      have nodup := identifiers_nodup_of_not_raisesNames wellFormed.distinct raises rendered
      simp [nodup, raises]
  refine ⟨?_, distinctIff, ?_⟩
  · rw [page_eq_ok rendered, ← declarationLines_eq_linesOf]
    rfl
  · intro ascii
    rw [distinctIff]
    intro raises
    exact Text.regained_nodup_of_beginsAscii wellFormed.distinct wellFormed.lowered ascii

/-- An enum with a name that begins with the letter `ſ`, whose capital letter is `S`. -/
def oneLongS : Declaration :=
  .ofEnum ⟨"B", [⟨"t", 1⟩, ⟨"ſ", 2⟩]⟩

theorem identifiers_nodup_iff_oneLongS :
    Source.parse "enum B\n\x7b\nt 1\nſ 2\n\x7d\n" = .ok [oneLongS] ∧
      ∀ settings : Settings, ∃ page, typescript.page settings oneLongS = .ok page ∧
        page.declaration = typescript.linesOf ["T", "S"] oneLongS ∧
        (typescript.identifiers oneLongS).Nodup := by
  have parsed : Source.parse "enum B\n\x7b\nt 1\nſ 2\n\x7d\n" = .ok [oneLongS] := by
    decide +kernel
  have namesEq : typescript.identifiers oneLongS = ["T", "S"] := by
    decide +kernel
  refine ⟨parsed, ?_⟩
  intro settings
  rcases identifiers_nodup_iff parsed typescript settings List.mem_cons_self with
    ⟨isRendered, described⟩
  rcases isRendered rfl with ⟨page, rendered⟩
  rcases described page rendered with ⟨linesEq, distinctIff, -⟩
  rw [namesEq] at linesEq
  exact ⟨page, rendered, linesEq, distinctIff.mpr fun _ => by decide +kernel⟩

/-- A class with the names `s` and `ſ`. -/
def bothClass : Class :=
  ⟨"A", [⟨"s", "string"⟩, ⟨"ſ", "string"⟩]⟩

/-- An enum with the names `s` and `ſ`. -/
def bothEnum : Enum :=
  ⟨"B", [⟨"s", 1⟩, ⟨"ſ", 2⟩]⟩

/-- Distinct names become one identifier in a field, a property and a constant, and nothing
fails. -/
theorem identifiers_not_nodup_both :
    Source.parse
        "class A\n\x7b\ns string\nſ string\n\x7d\nenum B\n\x7b\ns 1\nſ 2\n\x7d\n" =
      .ok [.ofClass bothClass, .ofEnum bothEnum] ∧
    ¬(go.identifiers (.ofClass bothClass)).Nodup ∧
    ¬(csharp.identifiers (.ofClass bothClass)).Nodup ∧
    ¬(go.identifiers (.ofEnum bothEnum)).Nodup ∧
    ¬(typescript.identifiers (.ofEnum bothEnum)).Nodup ∧
    ∀ settings : Settings,
      (go.classPage settings bothClass).declaration =
        ["type A struct \x7b", "\tS string `json:\"s\"`", "\tS string `json:\"ſ\"`", "\x7d"] ∧
      (csharp.classPage settings bothClass).declaration = CSharp.enclose settings
        ["public class A", "\x7b",
          "\t[JsonProperty(PropertyName = \"s\")]", "\tpublic string S \x7b get; set; \x7d",
          "\t[JsonProperty(PropertyName = \"ſ\")]", "\tpublic string S \x7b get; set; \x7d",
          "\x7d"] ∧
      (go.enumPage settings bothEnum).map Page.declaration =
        .ok ["type B int", "", "const (", "\tBS = B(1)", "\tBS = B(2)", ")"] ∧
      (typescript.enumPage settings bothEnum).map Page.declaration =
        .ok ["export enum B \x7b", "\tS = 1,", "\tS = 2", "\x7d"] := by
  refine ⟨by decide +kernel, by decide +kernel, by decide +kernel, by decide +kernel,
    by decide +kernel, ?_⟩
  intro settings
  have properties : csharp.declarationLines (.ofClass bothClass) =
      ["public class A", "\x7b",
        "\t[JsonProperty(PropertyName = \"s\")]", "\tpublic string S \x7b get; set; \x7d",
        "\t[JsonProperty(PropertyName = \"ſ\")]", "\tpublic string S \x7b get; set; \x7d",
        "\x7d"] := by
    decide +kernel
  refine ⟨?_, congrArg (CSharp.enclose settings) properties, ?_, ?_⟩
  · change go.declarationLines (.ofClass bothClass) = _
    decide +kernel
  · have constants : go.enumLines bothEnum =
        ["type B int", "", "const (", "\tBS = B(1)", "\tBS = B(2)", ")"] := by
      decide +kernel
    rw [← constants]
    exact congrArg (fun page => Except.ok page.declaration) (enumPage_go settings bothEnum)
  · have constants : typescript.enumLines bothEnum =
        ["export enum B \x7b", "\tS = 1,", "\tS = 2", "\x7d"] := by
      decide +kernel
    rw [← constants]
    exact congrArg (fun page => Except.ok page.declaration) (enumPage_typescript settings bothEnum)

end Language

end GenModel
