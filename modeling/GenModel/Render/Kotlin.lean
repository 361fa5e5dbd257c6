import GenModel.Render.Constants
import GenModel.Render.Page
import GenModel.Render.TypeStyle

/-!
# Kotlin

Classes become data classes, or plain classes if they have no member, since a data class needs a
parameter. Enums carry their value; their constants are in capital letters.
-/

namespace GenModel

namespace Kotlin

/-- The lines before a declaration: the package, the banner and the imports. -/
def opening (settings : Settings) (imports : List String) : List String :=
  settings.packageLines ++ bannerLines settings.generatedAt ++
    paragraph (imports.map fun name => "import " ++ name)

/-- The classes that the members of a class need. -/
def imports (owner : Class) : List String :=
  if owner.mentions Primitive.date.name then ["java.util.Date"] else []

/-- A member as a parameter. -/
def parameter (member : Member) : String :=
  "val " ++ member.name ++ ": " ++ Language.kotlin.fieldType member.declaredType

/-- The line of a class. -/
def classLine (owner : Class) : String :=
  if owner.members.isEmpty then "class " ++ Text.upperFirst owner.name
  else
    "data class " ++ Text.upperFirst owner.name ++ "(" ++
      ", ".intercalate (owner.members.map parameter) ++ ")"

/-- The page of a class. -/
def classPage (settings : Settings) (owner : Class) : Page where
  opening := opening settings (imports owner)
  declaration := [classLine owner]

/-- The integer type that holds the values of an enum. -/
def storage (owner : Enum) : String :=
  if owner.isNarrow then "Int" else "Long"

/-- The line of a constant, without its comma. -/
def constantLine (constant : String) (value : Int64) : String :=
  "\t" ++ constant ++ "(" ++ Text.decimal value.toInt ++ ")"

/-- The page of an enum whose constants are known. -/
def enumPageOf (settings : Settings) (owner : Enum) (constants : List String) : Page where
  opening := opening settings []
  declaration :=
    ["enum class " ++ Text.upperFirst owner.name ++ "(val value: " ++ storage owner ++ ") \x7b"] ++
      Text.commaSeparated (owner.entries constants constantLine) ++ ["\x7d"]

/-- The page of an enum. -/
def enumPage (settings : Settings) (owner : Enum) : Except Error Page :=
  (owner.constants .kotlin Text.shoutySnake).map (enumPageOf settings owner)

end Kotlin

end GenModel
