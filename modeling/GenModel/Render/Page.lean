import GenModel.Instant
import GenModel.Text.Lines

/-!
# Generated pages

A generated text has two parts: the lines that come before the declaration, such as the banner
and the imports, and the lines of the declaration itself, of which the last is left open.
-/

namespace GenModel

/-- The choices of one run: the package that the declarations belong to and the time that is
written into the banner. -/
structure Settings where
  requestedPackage : Option String
  generatedAt : Instant

namespace Settings

/-- The package, unless its name is empty. -/
def package? (settings : Settings) : Option String :=
  settings.requestedPackage.filter fun name => name ≠ ""

/-- The line that names the package and an empty line after it, if there is a package. -/
def packageLines (settings : Settings) : List String :=
  match settings.package? with
  | some name => ["package " ++ name, ""]
  | none => []

end Settings

/-- The lines of the comment at the beginning of every page. -/
def bannerLines (generatedAt : Instant) : List String :=
  [
    "// **********************************",
    "//\tGenerated by ModelsGenerator",
    "//\t" ++ generatedAt.timestamp,
    "// **********************************",
    ""
  ]

/-- The comment at the beginning of every page. -/
def banner (generatedAt : Instant) : String :=
  Text.unlines (bannerLines generatedAt)

/-- The lines of a generated text. -/
structure Page where
  opening : List String
  declaration : List String

namespace Page

/-- The generated text. -/
def text (page : Page) : String :=
  Text.unlines page.opening ++ Text.joinLines page.declaration

end Page

/-- Lines and an empty line after them, or nothing at all. -/
def paragraph : List String → List String
  | [] => []
  | paragraphLines => paragraphLines ++ [""]

end GenModel
