import GenModel.Proofs.Render.Classes
import GenModel.Proofs.Render.Constants

/-!
# Where the settings show

The package and the time of a run have their own places in a generated text. Whether there is a
text at all depends on the constants of an enum, and so not on the settings (`generate_outcome`).
If there is one it is that of `pageOf`, which keeps the lines that depend on the settings apart from
those that depend on the declaration, and each effect of the settings is read off it.

In C# a package is a namespace around the declaration, whose lines are indented one by one. That is
the same as indenting the text of the declaration, since none of its lines holds a line feed.
-/

namespace GenModel

/-- The text with a tab in front of each of its lines. -/
def Text.tabbed (text : String) : String :=
  joinLines ((pieces (· == '\n') text.toList).map fun line => "\t" ++ String.ofList line)

theorem Text.tabbed_joinLines {written : List String} (nonempty : written ≠ [])
    (areLines : ∀ line ∈ written, IsLine line) :
    tabbed (joinLines written) = joinLines (written.map fun line => "\t" ++ line) := by
  rw [tabbed, pieces_joinLines nonempty areLines, List.map_map]
  simp [Function.comp_def]

namespace Settings

variable {generatedAt : Instant}

@[simp]
theorem package?_none : package? ⟨none, generatedAt⟩ = none :=
  rfl

@[simp]
theorem package?_empty : package? ⟨some "", generatedAt⟩ = none := by
  simp [package?]

theorem package?_some {name : String} (nonempty : name ≠ "") :
    package? ⟨some name, generatedAt⟩ = some name := by
  simp [package?, nonempty]

end Settings

namespace Language

/-- The settings have no say in whether a file is generated, nor in the failure. -/
theorem generate_outcome (language : Language) (declaration : Declaration) :
    (∀ settings, language.generate settings declaration =
      .ok (language.fileOf settings declaration)) ∨
    ∃ error, ∀ settings, language.generate settings declaration = .error error := by
  have fileOf_of_exists
      (generates : ∀ settings, ∃ file, language.generate settings declaration = .ok file)
      (settings : Settings) :
      language.generate settings declaration = .ok (language.fileOf settings declaration) := by
    rcases generates settings with ⟨file, generated⟩
    rw [generated, eq_fileOf generated]
  cases spelled : language.ownSpelling? with
  | none =>
      apply Or.inl
      apply fileOf_of_exists
      intro settings
      exact exists_generate_eq_ok spelled settings declaration
  | some spell =>
      rcases generate_cases spelled declaration with ⟨-, generates⟩ |
        ⟨owner, entry, -, -, -, failed⟩
      · exact Or.inl (fileOf_of_exists generates)
      · exact Or.inr ⟨_, failed⟩

section Changes

variable {language : Language} {declaration : Declaration} {settings other : Settings}

/-- A change of the settings that changes the text of the page changes the code of the file. -/
theorem generate_eq_map (change : String → String)
    (textEq : (language.pageOf settings declaration).text =
      change (language.pageOf other declaration).text) :
    language.generate settings declaration =
      (language.generate other declaration).map fun file =>
        { file with code := change file.code } := by
  rcases generate_outcome language declaration with generated | ⟨error, failed⟩
  · rw [generated, generated, Except.map, fileOf, textEq]
    rfl
  · rw [failed, failed]
    rfl

theorem generate_eq
    (textEq : (language.pageOf settings declaration).text =
      (language.pageOf other declaration).text) :
    language.generate settings declaration = language.generate other declaration := by
  rw [generate_eq_map id textEq]
  cases language.generate other declaration <;> rfl

theorem text_of_package?_eq (samePackage : settings.package? = other.package?)
    (sameTime : settings.generatedAt = other.generatedAt) :
    (language.pageOf settings declaration).text = (language.pageOf other declaration).text := by
  cases language <;>
    simp only [pageOf, openingLines, enclosed, CSharp.enclose, CSharp.namespaceLines,
      Settings.packageLines, samePackage, sameTime]

theorem text_typescript_eq (sameTime : settings.generatedAt = other.generatedAt) :
    (typescript.pageOf settings declaration).text =
      (typescript.pageOf other declaration).text := by
  simp only [pageOf, openingLines, enclosed, sameTime]

theorem text_of_package {generatedAt : Instant} {name : String}
    (isPackaged : language = go ∨ language = kotlin) (nonempty : name ≠ "") :
    (language.pageOf ⟨some name, generatedAt⟩ declaration).text =
      "package " ++ name ++ "\n\n" ++ (language.pageOf ⟨none, generatedAt⟩ declaration).text := by
  have packageLines : Text.unlines (Settings.packageLines ⟨some name, generatedAt⟩) =
      "package " ++ name ++ "\n\n" := by
    rw [Settings.unlines_packageLines, Settings.packageClause, Settings.package?_some nonempty]
  have noLines : Settings.packageLines ⟨none, generatedAt⟩ = [] :=
    rfl
  rcases isPackaged with rfl | rfl <;>
    simp only [pageOf, openingLines, enclosed, Page.text, Text.unlines_append, packageLines,
      noLines, List.nil_append, String.append_assoc]

/-- The time is written in the banner and nowhere else. -/
theorem exists_text_eq_around_banner (language : Language) (settings : Settings)
    (declaration : Declaration) :
    ∃ before after, ∀ time,
      (language.pageOf { settings with generatedAt := time } declaration).text =
        before ++ banner time ++ after := by
  have opening : ∃ front back, ∀ time,
      language.openingLines { settings with generatedAt := time }
        (language.importLines declaration) = front ++ bannerLines time ++ back := by
    cases language with
    | go => exact ⟨settings.packageLines, _, fun _ => rfl⟩
    | kotlin => exact ⟨settings.packageLines, _, fun _ => rfl⟩
    | csharp =>
        refine ⟨[],
          paragraph (csharp.importLines declaration) ++ CSharp.namespaceLines settings, ?_⟩
        intro time
        rw [List.nil_append, openingLines, List.append_assoc]
        rfl
    | typescript => exact ⟨[], _, fun _ => rfl⟩
  have enclosedEq (time : Instant) :
      language.enclosed { settings with generatedAt := time } = language.enclosed settings := by
    cases language <;> rfl
  rcases opening with ⟨front, back, openingEq⟩
  refine ⟨Text.unlines front, Text.unlines back ++
    Text.joinLines (language.enclosed settings (language.declarationLines declaration)), ?_⟩
  intro time
  simp only [Page.text, pageOf, openingEq, enclosedEq, Text.unlines_append, banner,
    String.append_assoc]

end Changes

end Language

namespace CSharp

open GenModel.Language

/-- The text before a declaration: the banner and the directives. -/
def heading (generatedAt : Instant) (declaration : Declaration) : String :=
  banner generatedAt ++ Text.unlines (paragraph (csharp.importLines declaration))

/-- The text of a declaration that stands in no namespace. -/
def body (declaration : Declaration) : String :=
  Text.joinLines (csharp.declarationLines declaration)

variable {declaration : Declaration} {generatedAt : Instant}

theorem declarationLines_ne_nil (declaration : Declaration) :
    csharp.declarationLines declaration ≠ [] := by
  cases declaration <;> simp [declarationLines, enumLines]

theorem isLine_of_mem_declarationLines (readable : Source.Readable declaration) :
    ∀ line ∈ csharp.declarationLines declaration, Text.IsLine line := by
  cases declaration with
  | ofClass owner => exact isLine_of_mem_classLines (Class.isUnbroken_of_readable readable)
  | ofEnum owner => exact isLine_of_mem_enumLines (Enum.isUnbroken_of_readable readable)

theorem text_of_no_package :
    (csharp.pageOf ⟨none, generatedAt⟩ declaration).text =
      heading generatedAt declaration ++ body declaration := by
  simp [pageOf, openingLines, enclosed, namespaceLines, enclose, Page.text, Text.unlines_append,
    heading, body, banner]

theorem text_of_package {name : String} (readable : Source.Readable declaration)
    (nonempty : name ≠ "") :
    (csharp.pageOf ⟨some name, generatedAt⟩ declaration).text =
      heading generatedAt declaration ++ ("namespace " ++ name ++ "\n\x7b\n") ++
        Text.tabbed (body declaration) ++ "\n\x7d" := by
  have package : Settings.package? ⟨some name, generatedAt⟩ = some name :=
    Settings.package?_some nonempty
  have opening : Text.unlines (namespaceLines ⟨some name, generatedAt⟩) =
      "namespace " ++ name ++ "\n\x7b\n" := by
    rw [unlines_namespaceLines, namespaceClause, package]
  have enclosed : Text.joinLines (enclose ⟨some name, generatedAt⟩
      (csharp.declarationLines declaration)) = Text.tabbed (body declaration) ++ "\n\x7d" := by
    have linesNonempty := declarationLines_ne_nil declaration
    rw [enclose, package, body, Text.tabbed_joinLines linesNonempty
      (isLine_of_mem_declarationLines readable)]
    simp [Text.joinLines_append_singleton, linesNonempty, String.append_assoc]
  simp only [pageOf, openingLines, Language.enclosed, Page.text, Text.unlines_append, opening,
    enclosed, heading, banner, String.append_assoc]

end CSharp

namespace Language

/-- The settings show in the file of a declaration only in their own places. -/
structure KeepsSettingsApart (declaration : Declaration) : Prop where
  outcome : ∀ (language : Language) (settings other : Settings),
    (language.generate settings declaration).map SourceFile.name =
      (language.generate other declaration).map SourceFile.name
  unnamed : ∀ (language : Language) (time : Instant),
    language.generate ⟨some "", time⟩ declaration = language.generate ⟨none, time⟩ declaration
  modules : ∀ (package other : Option String) (time : Instant),
    typescript.generate ⟨package, time⟩ declaration =
      typescript.generate ⟨other, time⟩ declaration
  packages : ∀ (language : Language) (name : String) (time : Instant),
    language = go ∨ language = kotlin → name ≠ "" →
      language.generate ⟨some name, time⟩ declaration =
        (language.generate ⟨none, time⟩ declaration).map fun file =>
          { file with code := "package " ++ name ++ "\n\n" ++ file.code }
  namespaces : ∀ (time : Instant) (file : SourceFile),
    csharp.generate ⟨none, time⟩ declaration = .ok file →
      file.code = CSharp.heading time declaration ++ CSharp.body declaration ∧
      ∀ name : String, name ≠ "" →
        csharp.generate ⟨some name, time⟩ declaration = .ok { file with
          code := CSharp.heading time declaration ++ ("namespace " ++ name ++ "\n\x7b\n") ++
            Text.tabbed (CSharp.body declaration) ++ "\n\x7d" }
  times : ∀ (language : Language) (settings : Settings) (file : SourceFile),
    language.generate settings declaration = .ok file →
      ∃ before after, ∀ time,
        language.generate { settings with generatedAt := time } declaration =
          .ok { file with code := before ++ banner time ++ after }

/-- The package and the time of a run show in what is generated only in their own places. -/
theorem keepsSettingsApart {declaration : Declaration} (readable : Source.Readable declaration) :
    KeepsSettingsApart declaration where
  outcome language settings other := by
    rcases generate_outcome language declaration with generated | ⟨error, failed⟩
    · rw [generated, generated, Except.map, Except.map, fileOf_name, fileOf_name]
    · rw [failed, failed]
  unnamed language time := generate_eq (text_of_package?_eq Settings.package?_empty rfl)
  modules package other time := generate_eq (text_typescript_eq rfl)
  packages language name time isPackaged nonempty :=
    generate_eq_map _ (text_of_package isPackaged nonempty)
  namespaces time file generated := by
    refine ⟨?_, ?_⟩
    · rw [eq_fileOf generated, ← CSharp.text_of_no_package]
      rfl
    · intro name nonempty
      rw [generate_eq_map (fun _ => _) (CSharp.text_of_package readable nonempty), generated]
      rfl
  times language settings file generated := by
    rcases exists_text_eq_around_banner language settings declaration with
      ⟨before, after, textEq⟩
    refine ⟨before, after, ?_⟩
    intro time
    rw [generate_eq_map (fun _ => _) (textEq time), generated]
    rfl

/-- A class of one member. -/
def counter : Class :=
  ⟨"counter", [⟨"n", "int"⟩]⟩

theorem keepsSettingsApart_counter :
    Source.Readable (.ofClass counter) ∧
      ∀ time : Instant,
        csharp.generate ⟨some "a.b", time⟩ (.ofClass counter) = .ok ⟨"counter.cs",
          banner time ++ "using Newtonsoft.Json;\n\n" ++ "namespace a.b\n\x7b\n" ++
            ("\tpublic class Counter\n\t\x7b\n\t\t[JsonProperty(PropertyName = \"n\")]\n" ++
              "\t\tpublic int N \x7b get; set; \x7d\n\t\x7d") ++ "\n\x7d"⟩ := by
  have readable : Source.Readable (.ofClass counter) :=
    Source.readable_iff.mpr (by decide +kernel)
  refine ⟨readable, ?_⟩
  intro time
  have name : csharp.fileName "counter" = "counter.cs" := by
    decide
  have directives : Text.unlines (paragraph (csharp.importLines (.ofClass counter))) =
      "using Newtonsoft.Json;\n\n" := by
    decide +kernel
  have opening : "namespace " ++ "a.b" ++ "\n\x7b\n" = "namespace a.b\n\x7b\n" := by
    decide
  have indented : Text.tabbed (CSharp.body (.ofClass counter)) =
      "\tpublic class Counter\n\t\x7b\n\t\t[JsonProperty(PropertyName = \"n\")]\n" ++
        "\t\tpublic int N \x7b get; set; \x7d\n\t\x7d" := by
    decide +kernel
  have generated : csharp.generate ⟨none, time⟩ (.ofClass counter) =
      .ok ⟨csharp.fileName "counter", (CSharp.classPage ⟨none, time⟩ counter).text⟩ :=
    rfl
  rw [((keepsSettingsApart readable).namespaces time _ generated).2 "a.b" (by decide),
    CSharp.heading, name, directives, opening, indented]

end Language

end GenModel
