import GenModel.Proofs.Render.Enums

/-!
# How a file is laid out

Every page is made of lines that depend on the declaration alone, its imports and its own lines,
between lines that depend on the settings alone, which are the banner and what names the package.
`pageOf` says so for all languages and all declarations at once, and a file that is generated is
the one with this page (`eq_fileOf`).
-/

namespace GenModel

namespace Language

/-- The lines before a declaration that has the given imports. -/
def openingLines (language : Language) (settings : Settings) (imports : List String) :
    List String :=
  match language with
  | go => settings.packageLines ++ bannerLines settings.generatedAt ++ paragraph imports
  | kotlin => settings.packageLines ++ bannerLines settings.generatedAt ++ paragraph imports
  | csharp =>
    bannerLines settings.generatedAt ++ paragraph imports ++ CSharp.namespaceLines settings
  | typescript => bannerLines settings.generatedAt ++ paragraph imports

/-- The imports of a declaration. -/
def importLines (language : Language) : Declaration → List String
  | .ofClass owner =>
    match language with
    | go => Go.importLines (Go.imports owner)
    | kotlin => (Kotlin.imports owner).map fun name => "import " ++ name
    | csharp => (CSharp.directives owner).map fun name => "using " ++ name ++ ";"
    | typescript => (TypeScript.imports owner).map TypeScript.importLine
  | .ofEnum _ => []

/-- The lines of a declaration that stands in no namespace. -/
def declarationLines (language : Language) : Declaration → List String
  | .ofClass owner =>
    match language with
    | go =>
      ["type " ++ Text.upperFirst owner.name ++ " struct \x7b"] ++
        owner.members.map Go.fieldLine ++ ["\x7d"]
    | kotlin => [Kotlin.classLine owner]
    | csharp =>
      ["public class " ++ Text.upperFirst owner.name, "\x7b"] ++
        owner.members.flatMap CSharp.propertyLines ++ ["\x7d"]
    | typescript =>
      ["export class " ++ Text.upperFirst owner.name ++ " \x7b"] ++
        owner.members.map TypeScript.memberLine ++ ["\x7d"]
  | .ofEnum owner => language.enumLines owner

/-- The page of a declaration, if there is one. -/
def pageOf (language : Language) (settings : Settings) (declaration : Declaration) : Page where
  opening := language.openingLines settings (language.importLines declaration)
  declaration := language.enclosed settings (language.declarationLines declaration)

/-- The file of a declaration, if there is one. -/
def fileOf (language : Language) (settings : Settings) (declaration : Declaration) :
    SourceFile where
  name := language.fileName declaration.name
  code := (language.pageOf settings declaration).text

section Files

variable {language : Language} {settings : Settings} {declaration : Declaration}

@[simp]
theorem fileOf_name :
    (language.fileOf settings declaration).name = language.fileName declaration.name :=
  rfl

theorem page_eq_ok {page : Page} (rendered : language.page settings declaration = .ok page) :
    page = language.pageOf settings declaration := by
  cases declaration with
  | ofClass owner =>
      rw [Language.page, Except.ok.injEq] at rendered
      subst page
      cases language <;> rfl
  | ofEnum owner =>
      rw [enumPage_eq_ok rendered]
      cases language <;> rfl

theorem eq_fileOf {file : SourceFile}
    (generated : language.generate settings declaration = .ok file) :
    file = language.fileOf settings declaration := by
  cases rendered : language.page settings declaration with
  | error error => simp [generate, rendered, Except.map] at generated
  | ok page =>
      rw [generate, rendered, Except.map, Except.ok.injEq] at generated
      rw [← generated, fileOf, page_eq_ok rendered]

end Files

end Language

end GenModel
