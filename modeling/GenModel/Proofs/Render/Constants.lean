import GenModel.Proofs.Failures
import GenModel.Proofs.Render.Layout

/-!
# When constants cannot be told apart

Kotlin and C# spell the constants of an enum in their own way, and a value offends if its spelling
is empty or is that of an earlier value. The constants are found one after the other, so the first
value that offends is reported, and an enum has constants exactly if no value offends.

Nothing else can fail in the generation of a model. So it fails exactly if a value of some enum
offends, with the fault of the first such value in the first such enum, and otherwise gives one
file for each declaration, in which every value of an enum has its constant next to its number.
-/

namespace GenModel

namespace Enum

/-- The value has no constant of its own after the earlier ones. -/
def Offends (spell : String → String) (earlier : List EnumValue) (entry : EnumValue) : Prop :=
  spell entry.name = "" ∨ ∃ other ∈ earlier, spell other.name = spell entry.name

/-- The fault of a value that offends. An empty spelling is reported before one that is taken. -/
def faultOf (spell : String → String) (entry : EnumValue) : ConstantFault :=
  if spell entry.name = "" then .unusable entry.name else .taken entry.name (spell entry.name)

/-- None of the values offends if the earlier ones come before them. -/
def AreClear (spell : String → String) (earlier values : List EnumValue) : Prop :=
  ∀ front entry back, values = front ++ entry :: back → ¬Offends spell (earlier ++ front) entry

/-- The value offends, and no value before it does. -/
def FirstOffender (spell : String → String) (values : List EnumValue) (entry : EnumValue) : Prop :=
  ∃ before after, values = before ++ entry :: after ∧ Offends spell before entry ∧
    AreClear spell [] before

/-- Some value of the enum offends. -/
def IsUnclear (spell : String → String) (owner : Enum) : Prop :=
  ∃ before entry after, owner.values = before ++ entry :: after ∧ Offends spell before entry

section Constants

variable {spell : String → String} {earlier rest values : List EnumValue} {entry : EnumValue}

theorem areClear_nil : AreClear spell earlier [] := by
  intro front entry back split
  simp at split

theorem areClear_cons (clear : ¬Offends spell earlier entry)
    (restClear : AreClear spell (earlier ++ [entry]) rest) :
    AreClear spell earlier (entry :: rest) := by
  intro front other back split
  cases front with
  | nil =>
      rw [List.nil_append, List.cons.injEq] at split
      rw [List.append_nil, ← split.1]
      exact clear
  | cons first others =>
      rw [List.cons_append, List.cons.injEq] at split
      have otherClear := restClear others other back split.2
      rwa [List.append_assoc, List.singleton_append, split.1] at otherClear

theorem not_isUnclear_iff {owner : Enum} :
    ¬owner.IsUnclear spell ↔ AreClear spell [] owner.values := by
  simp [IsUnclear, AreClear]

theorem constantsFrom_of_offends (offends : Offends spell earlier entry) :
    constantsFrom spell (earlier.map fun other => spell other.name) (entry :: rest) =
      .error (faultOf spell entry) := by
  by_cases vanishes : spell entry.name = ""
  · simp [constantsFrom, faultOf, vanishes]
  · rcases offends with empty | ⟨other, mem, same⟩
    · exact absurd empty vanishes
    · have taken : spell entry.name ∈ earlier.map fun other => spell other.name :=
        List.mem_map.mpr ⟨other, mem, same⟩
      simp [constantsFrom, faultOf, vanishes, isFresh_eq_false_iff.mpr taken]

theorem constantsFrom_of_not_offends (clear : ¬Offends spell earlier entry) :
    constantsFrom spell (earlier.map fun other => spell other.name) (entry :: rest) =
      constantsFrom spell ((earlier ++ [entry]).map fun other => spell other.name) rest := by
  rw [Offends, not_or] at clear
  have free : spell entry.name ∉ earlier.map fun other => spell other.name := by
    simpa using clear.2
  simp [constantsFrom, clear.1, isFresh_iff.mpr free]

/-- The constants are found if no value offends, and otherwise the first that does is reported. -/
theorem constantsFrom_cases (spell : String → String) (earlier values : List EnumValue) :
    (AreClear spell earlier values ∧
      ∃ names, constantsFrom spell (earlier.map fun other => spell other.name) values =
        .ok names) ∨
    ∃ before entry after, values = before ++ entry :: after ∧
      Offends spell (earlier ++ before) entry ∧ AreClear spell earlier before ∧
      constantsFrom spell (earlier.map fun other => spell other.name) values =
        .error (faultOf spell entry) := by
  induction values generalizing earlier with
  | nil => exact Or.inl ⟨areClear_nil, _, rfl⟩
  | cons entry rest ih =>
      by_cases offends : Offends spell earlier entry
      · refine Or.inr ⟨[], entry, rest, rfl, ?_, areClear_nil, constantsFrom_of_offends offends⟩
        rwa [List.append_nil]
      · rw [constantsFrom_of_not_offends offends]
        rcases ih (earlier ++ [entry]) with ⟨clear, found⟩ |
          ⟨before, other, after, rfl, otherOffends, clear, failed⟩
        · exact Or.inl ⟨areClear_cons offends clear, found⟩
        · refine Or.inr ⟨entry :: before, other, after, rfl, ?_, areClear_cons offends clear,
            failed⟩
          rwa [List.append_assoc, List.singleton_append] at otherOffends

theorem constants_cases (owner : Enum) (language : Language) (spell : String → String) :
    (¬owner.IsUnclear spell ∧ ∃ names, owner.constants language spell = .ok names) ∨
    ∃ entry, owner.IsUnclear spell ∧ FirstOffender spell owner.values entry ∧
      owner.constants language spell =
        .error (.generation language owner.name (faultOf spell entry)) := by
  rcases constantsFrom_cases spell [] owner.values with ⟨clear, names, found⟩ |
    ⟨before, entry, after, split, offends, clear, failed⟩
  · rw [List.map_nil] at found
    exact Or.inl ⟨not_isUnclear_iff.mpr clear, names, by rw [constants, found]⟩
  · rw [List.map_nil] at failed
    refine Or.inr ⟨entry, ⟨before, entry, after, split, offends⟩,
      ⟨before, after, split, offends, clear⟩, ?_⟩
    rw [constants, failed]

end Constants

end Enum

namespace Language

/-- The spelling of constants, in a language that has one of its own. -/
def ownSpelling? : Language → Option (String → String)
  | kotlin => some Text.shoutySnake
  | csharp => some Text.upperCamel
  | go => none
  | typescript => none

section Generation

variable {language : Language} {settings : Settings} {spell : String → String}
  {declaration : Declaration} {owner : Enum}

theorem ownSpelling?_eq_some (spelled : language.ownSpelling? = some spell) :
    (language = kotlin ∧ spell = Text.shoutySnake) ∨
      (language = csharp ∧ spell = Text.upperCamel) := by
  cases language with
  | go => simp [ownSpelling?] at spelled
  | kotlin =>
      rw [ownSpelling?, Option.some.injEq] at spelled
      exact Or.inl ⟨rfl, spelled.symm⟩
  | csharp =>
      rw [ownSpelling?, Option.some.injEq] at spelled
      exact Or.inr ⟨rfl, spelled.symm⟩
  | typescript => simp [ownSpelling?] at spelled

theorem exists_enumPage_eq_map (spelled : language.ownSpelling? = some spell)
    (settings : Settings) (owner : Enum) :
    ∃ build, language.enumPage settings owner = (owner.constants language spell).map build := by
  rcases ownSpelling?_eq_some spelled with ⟨rfl, rfl⟩ | ⟨rfl, rfl⟩
  · exact ⟨_, rfl⟩
  · exact ⟨_, rfl⟩

theorem exists_generate_of_constants (spelled : language.ownSpelling? = some spell)
    {names : List String} (found : owner.constants language spell = .ok names)
    (settings : Settings) : ∃ file, language.generate settings (.ofEnum owner) = .ok file := by
  rcases exists_enumPage_eq_map spelled settings owner with ⟨build, pageEq⟩
  rw [generate, page, pageEq, found]
  exact ⟨_, rfl⟩

theorem exists_generate_eq_ok (notSpelled : language.ownSpelling? = none) (settings : Settings)
    (declaration : Declaration) : ∃ file, language.generate settings declaration = .ok file := by
  cases declaration with
  | ofClass owner => exact ⟨_, rfl⟩
  | ofEnum owner =>
      cases language with
      | go => exact ⟨_, rfl⟩
      | kotlin => simp [ownSpelling?] at notSpelled
      | csharp => simp [ownSpelling?] at notSpelled
      | typescript => exact ⟨_, rfl⟩

/-- A declaration is generated unless it is an enum of which a value offends. -/
theorem generate_cases (spelled : language.ownSpelling? = some spell) (declaration : Declaration) :
    ((∀ owner, declaration = .ofEnum owner → ¬owner.IsUnclear spell) ∧
      ∀ settings, ∃ file, language.generate settings declaration = .ok file) ∨
    ∃ owner entry, declaration = .ofEnum owner ∧ owner.IsUnclear spell ∧
      Enum.FirstOffender spell owner.values entry ∧
      ∀ settings, language.generate settings declaration =
        .error (.generation language owner.name (Enum.faultOf spell entry)) := by
  cases declaration with
  | ofClass owner => exact Or.inl ⟨by simp, fun _ => ⟨_, rfl⟩⟩
  | ofEnum owner =>
      rcases owner.constants_cases language spell with ⟨clear, names, found⟩ |
        ⟨entry, unclear, first, failed⟩
      · refine Or.inl ⟨?_, ?_⟩
        · rintro _ ⟨⟩
          exact clear
        · exact exists_generate_of_constants spelled found
      · refine Or.inr ⟨owner, entry, rfl, unclear, first, ?_⟩
        intro settings
        rcases exists_enumPage_eq_map spelled settings owner with ⟨build, pageEq⟩
        rw [generate, page, pageEq, failed]
        rfl

theorem name_of_generate {file : SourceFile}
    (generated : language.generate settings declaration = .ok file) :
    file.name = declaration.name ++ "." ++ language.extension := by
  rw [eq_fileOf generated, fileOf_name, fileName]

/-- The text of an enum whose constants have the given lines. -/
def enumText (language : Language) (settings : Settings) (owner : Enum)
    (constantLines : List String) : String :=
  Text.unlines (language.enumOpening settings) ++
    Text.joinLines (language.enclosed settings
      (language.enumHeader (Text.upperFirst owner.name) (language.storage owner.isNarrow) ::
        language.enumBody constantLines))

theorem constantName_of_ownSpelling (spelled : language.ownSpelling? = some spell) (owner : Enum)
    (entry : EnumValue) : language.constantName owner entry = spell entry.name := by
  rcases ownSpelling?_eq_some spelled with ⟨rfl, rfl⟩ | ⟨rfl, rfl⟩
  · rfl
  · rfl

theorem code_of_generate {file : SourceFile} (spelled : language.ownSpelling? = some spell)
    (generated : language.generate settings (.ofEnum owner) = .ok file) :
    file.code = language.enumText settings owner (owner.values.map fun entry =>
      language.constantLine (Text.upperFirst owner.name) (spell entry.name, entry.value)) := by
  have opening : language.openingLines settings [] = language.enumOpening settings := by
    cases language <;> rfl
  rw [eq_fileOf generated]
  simp [fileOf, pageOf, importLines, declarationLines, opening, Page.text, enumText, enumLines,
    constants, constantName_of_ownSpelling spelled, Function.comp_def]

end Generation

section Entries

variable (settings : Settings) (owner : Enum)

/-- The text of an enum in Kotlin. Each value has one entry, its constant before its number. -/
def kotlinEnum : String :=
  settings.packageClause ++ banner settings.generatedAt ++
    "enum class " ++ Text.upperFirst owner.name ++ "(val value: " ++
    kotlin.storage owner.isNarrow ++ ") \x7b\n" ++
    Text.listing (owner.values.map fun entry =>
      "\t" ++ Text.shoutySnake entry.name ++ "(" ++ toString entry.value.toInt ++ ")") ++ "\x7d"

/-- The text of an enum in C#, in a namespace or in none. Each value has one entry, its constant
before its number. -/
def csharpEnum : String :=
  let tab := CSharp.indent settings
  banner settings.generatedAt ++ CSharp.namespaceClause settings ++
    tab ++ "public enum " ++ Text.upperFirst owner.name ++ csharp.storage owner.isNarrow ++ "\n" ++
    tab ++ "\x7b\n" ++
    Text.listing (owner.values.map fun entry =>
      tab ++ "\t" ++ Text.upperCamel entry.name ++ " = " ++ toString entry.value.toInt) ++
    tab ++ "\x7d" ++ if settings.package? = none then "" else "\n\x7d"

theorem enumText_kotlin :
    kotlin.enumText settings owner (owner.values.map fun entry =>
      kotlin.constantLine (Text.upperFirst owner.name) (Text.shoutySnake entry.name, entry.value)) =
      kotlinEnum settings owner := by
  have opening : kotlin.enumOpening settings =
      settings.packageLines ++ bannerLines settings.generatedAt := by
    rw [enumOpening, Kotlin.opening]
    exact List.append_nil _
  have declaration (header : String) (entries : List String) :
      kotlin.enclosed settings (header :: kotlin.enumBody entries) =
        [header] ++ Text.listed entries ++ ["\x7d"] :=
    rfl
  rw [enumText, opening, declaration, Text.unlines_append, Settings.unlines_packageLines,
    Text.joinLines_listed_append _ _ (List.cons_ne_nil _ _)]
  simp only [constantLine, Text.decimal_eq_toString, enumHeader, Text.unlines, kotlinEnum, banner,
    Text.joinLines_singleton, String.append_assoc, String.append_empty]
  rfl

theorem enumText_csharp :
    csharp.enumText settings owner (owner.values.map fun entry =>
      csharp.constantLine (Text.upperFirst owner.name) (Text.upperCamel entry.name, entry.value)) =
      csharpEnum settings owner := by
  have opening : csharp.enumOpening settings =
      bannerLines settings.generatedAt ++ CSharp.namespaceLines settings :=
    rfl
  have declaration (header : String) (entries : List String) :
      csharp.enclosed settings (header :: csharp.enumBody entries) =
        [CSharp.indent settings ++ header, CSharp.indent settings ++ "\x7b"] ++
          Text.listed (entries.map fun entry => CSharp.indent settings ++ entry) ++
          ((CSharp.indent settings ++ "\x7d") ::
            if settings.package? = none then [] else ["\x7d"]) := by
    rw [enclosed, CSharp.enclose, CSharp.indent]
    cases settings.package? with
    | none => simp [enumBody]
    | some name => simp [enumBody, Text.map_listed]
  have closing : Text.joinLines ((CSharp.indent settings ++ "\x7d") ::
      if settings.package? = none then [] else ["\x7d"]) =
        CSharp.indent settings ++ "\x7d" ++ if settings.package? = none then "" else "\n\x7d" := by
    split
    · simp
    · rw [Text.joinLines_cons (List.cons_ne_nil _ _), Text.joinLines_singleton, String.append_assoc]
      rfl
  rw [enumText, opening, declaration, Text.unlines_append, CSharp.unlines_namespaceLines,
    Text.joinLines_listed_append _ _ (List.cons_ne_nil _ _), closing]
  simp only [constantLine, Text.decimal_eq_toString, enumHeader, Text.unlines, csharpEnum, banner,
    String.append_assoc, String.append_empty, List.map_map, Function.comp_def]
  rfl

end Entries

/-- What a language with a spelling of its own makes of a model. `code` is the text of an enum. -/
structure Reports (language : Language) (spell : String → String)
    (code : Settings → Enum → String) (settings : Settings) (model : List Declaration) : Prop where
  fails : (∃ error, language.generateAll settings model = .error error) ↔
    ∃ owner, .ofEnum owner ∈ model ∧ owner.IsUnclear spell
  first : ∀ error, language.generateAll settings model = .error error →
    ∃ before owner after entry, model = before ++ .ofEnum owner :: after ∧
      (∀ other, .ofEnum other ∈ before → ¬other.IsUnclear spell) ∧
      Enum.FirstOffender spell owner.values entry ∧
      error = .generation language owner.name (Enum.faultOf spell entry)
  constants : ∀ files, language.generateAll settings model = .ok files →
    List.Forall₂ (fun declaration file => ∀ owner, declaration = .ofEnum owner →
      file.code = code settings owner) model files

theorem reports_of_ownSpelling {language : Language} {spell : String → String}
    (spelled : language.ownSpelling? = some spell) {code : Settings → Enum → String}
    (coded : ∀ settings owner, language.enumText settings owner (owner.values.map fun entry =>
      language.constantLine (Text.upperFirst owner.name) (spell entry.name, entry.value)) =
        code settings owner)
    (settings : Settings) (model : List Declaration) :
    language.Reports spell code settings model := by
  have first (error : Error) (failed : language.generateAll settings model = .error error) :
      ∃ before owner after entry, model = before ++ .ofEnum owner :: after ∧
        (∀ other, .ofEnum other ∈ before → ¬other.IsUnclear spell) ∧
        owner.IsUnclear spell ∧ Enum.FirstOffender spell owner.values entry ∧
        error = .generation language owner.name (Enum.faultOf spell entry) := by
    rcases mapM_eq_error_iff.mp failed with ⟨before, declaration, after, rfl, succeed, refused⟩
    rcases generate_cases spelled declaration with ⟨-, generates⟩ |
      ⟨owner, entry, rfl, unclear, offender, reported⟩
    · rcases generates settings with ⟨file, generated⟩
      simp [generated] at refused
    · rw [reported, Except.error.injEq] at refused
      refine ⟨before, owner, after, entry, rfl, ?_, unclear, offender, refused.symm⟩
      intro other mem
      rcases succeed _ mem with ⟨file, generated⟩
      rcases generate_cases spelled (.ofEnum other) with ⟨clear, -⟩ |
        ⟨_, _, _, _, _, otherReported⟩
      · exact clear other rfl
      · simp [otherReported] at generated
  refine ⟨⟨?_, ?_⟩, ?_, ?_⟩
  · rintro ⟨error, failed⟩
    rcases first error failed with ⟨before, owner, after, entry, rfl, -, unclear, -⟩
    exact ⟨owner, by simp, unclear⟩
  · rintro ⟨owner, mem, unclear⟩
    cases result : language.generateAll settings model with
    | error error => exact ⟨error, rfl⟩
    | ok files =>
        exfalso
        rcases exists_ok_of_mem_of_mapM result mem with ⟨file, generated⟩
        rcases generate_cases spelled (.ofEnum owner) with ⟨clear, -⟩ |
          ⟨_, _, _, _, _, reported⟩
        · exact clear owner rfl unclear
        · simp [reported] at generated
  · intro error failed
    rcases first error failed with ⟨before, owner, after, entry, split, clear, -, offender, errorEq⟩
    exact ⟨before, owner, after, entry, split, clear, offender, errorEq⟩
  · intro files generated
    refine List.Forall₂.imp ?_ (mapM_eq_ok_iff.mp generated)
    rintro _ file fileGenerated owner rfl
    exact (code_of_generate spelled fileGenerated).trans (coded settings owner)

/-- Only the constants of an enum can be a reason for failure, and only in a language that spells
them in its own way. The first value that offends in the first enum with such a value is reported;
otherwise every declaration has its file, and every value of an enum its entry there. -/
theorem generateAll_reports (settings : Settings) (model : List Declaration) :
    (∀ language, language = go ∨ language = typescript →
      ∃ files, language.generateAll settings model = .ok files) ∧
    kotlin.Reports Text.shoutySnake kotlinEnum settings model ∧
    csharp.Reports Text.upperCamel csharpEnum settings model ∧
    ∀ (language : Language) (files : List SourceFile),
      language.generateAll settings model = .ok files →
        files.map SourceFile.name =
          model.map fun declaration => declaration.name ++ "." ++ language.extension := by
  refine ⟨?_, reports_of_ownSpelling rfl enumText_kotlin settings model,
    reports_of_ownSpelling rfl enumText_csharp settings model, ?_⟩
  · intro language isPlain
    have notSpelled : language.ownSpelling? = none := by
      rcases isPlain with rfl | rfl <;> rfl
    cases result : language.generateAll settings model with
    | ok files => exact ⟨files, rfl⟩
    | error error =>
        exfalso
        rcases mapM_eq_error_iff.mp result with ⟨before, declaration, after, -, -, refused⟩
        rcases exists_generate_eq_ok notSpelled settings declaration with ⟨file, generated⟩
        simp [generated] at refused
  · intro language files generated
    have related := mapM_eq_ok_iff.mp generated
    clear generated
    induction related with
    | nil => rfl
    | cons fileGenerated _ ih =>
        rw [List.map_cons, List.map_cons, name_of_generate fileGenerated, ih]

/-- An enum with two names that differ in Kotlin and not in C#. -/
def similarNames : Enum :=
  ⟨"Similar", [⟨"a_1", 1⟩, ⟨"a1", 2⟩]⟩

theorem generateAll_reports_similarNames :
    similarNames.IsUnclear Text.upperCamel ∧ ¬similarNames.IsUnclear Text.shoutySnake ∧
      ∀ settings : Settings,
        (∃ error, csharp.generateAll settings [.ofClass ⟨"C", []⟩, .ofEnum similarNames] =
          .error error) ∧
        ∃ first second, kotlin.generateAll settings [.ofClass ⟨"C", []⟩, .ofEnum similarNames] =
            .ok [first, second] ∧
          first.name = "C.kt" ∧ second.name = "Similar.kt" ∧
          second.code = settings.packageClause ++ banner settings.generatedAt ++
            "enum class Similar(val value: Int) \x7b\n\tA_1(1),\n\tA1(2)\n\x7d" := by
  have unclear : similarNames.IsUnclear Text.upperCamel := by
    refine ⟨[⟨"a_1", 1⟩], ⟨"a1", 2⟩, [], rfl, Or.inr ⟨⟨"a_1", 1⟩, List.mem_cons_self, ?_⟩⟩
    decide +kernel
  have clear : ¬similarNames.IsUnclear Text.shoutySnake := by
    have found : similarNames.constants kotlin Text.shoutySnake = .ok ["A_1", "A1"] := by
      decide +kernel
    rcases similarNames.constants_cases kotlin Text.shoutySnake with ⟨clear, -⟩ |
      ⟨_, _, _, failed⟩
    · exact clear
    · simp [found] at failed
  refine ⟨unclear, clear, ?_⟩
  intro settings
  rcases generateAll_reports settings [.ofClass ⟨"C", []⟩, .ofEnum similarNames] with
    ⟨-, kotlinReports, csharpReports, named⟩
  refine ⟨csharpReports.fails.mpr ⟨similarNames, by simp, unclear⟩, ?_⟩
  cases result : kotlin.generateAll settings [.ofClass ⟨"C", []⟩, .ofEnum similarNames] with
  | ok files =>
      rcases kotlinReports.constants files result with _ | ⟨-, _ | ⟨coded, _ | _⟩⟩
      have names := named kotlin _ result
      rw [List.map_cons, List.map_cons, List.map_nil, List.map_cons, List.map_cons,
        List.map_nil, List.cons.injEq, List.cons.injEq] at names
      refine ⟨_, _, rfl, names.1.trans (by decide), names.2.1.trans (by decide), ?_⟩
      have body : kotlinEnum settings similarNames = settings.packageClause ++
          banner settings.generatedAt ++
          ("enum class Similar(val value: Int) \x7b\n\tA_1(1),\n\tA1(2)\n\x7d") := by
        simp only [kotlinEnum, String.append_assoc]
        congr 2
      exact (coded similarNames rfl).trans body
  | error error =>
      exfalso
      rcases kotlinReports.fails.mp ⟨error, result⟩ with ⟨owner, mem, ownerUnclear⟩
      have ownerEq : owner = similarNames := by
        simpa using mem
      subst owner
      exact clear ownerUnclear

end Language

end GenModel
