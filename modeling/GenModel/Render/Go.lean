import GenModel.Render.Page
import GenModel.Render.TypeStyle

/-!
# Go

Classes become structs with a tag for each field, and enums become a named integer type with a
block of constants. References to other declarations are pointers.
-/

namespace GenModel

namespace Go

/-- The lines of the imports: a single one as it is, several as a group in parentheses. -/
def importLines : List String → List String
  | [] => []
  | [single] => ["import \"" ++ single ++ "\""]
  | many => ["import ("] ++ many.map (fun name => "\t\"" ++ name ++ "\"") ++ [")"]

/-- The lines before a declaration: the package, the banner and the imports. -/
def opening (settings : Settings) (imports : List String) : List String :=
  settings.packageLines ++ bannerLines settings.generatedAt ++ paragraph (importLines imports)

/-- The packages that the fields of a class need. -/
def imports (owner : Class) : List String :=
  if owner.mentions Primitive.date.name then ["time"] else []

/-- The line of a field. -/
def fieldLine (member : Member) : String :=
  "\t" ++ Text.upperFirst member.name ++ " " ++ Language.go.fieldType member.declaredType ++
    " `json:\"" ++ member.name ++ "\"`"

/-- The page of a class. -/
def classPage (settings : Settings) (owner : Class) : Page where
  opening := opening settings (imports owner)
  declaration :=
    ["type " ++ Text.upperFirst owner.name ++ " struct \x7b"] ++ owner.members.map fieldLine ++
      ["\x7d"]

/-- The integer type that holds the values of an enum. -/
def storage (owner : Enum) : String :=
  if owner.isNarrow then "int" else "int64"

/-- The line of a constant. -/
def constantLine (typeName : String) (entry : EnumValue) : String :=
  "\t" ++ typeName ++ Text.upperFirst entry.name ++ " = " ++ typeName ++ "(" ++
    Text.decimal entry.value.toInt ++ ")"

/-- The page of an enum. -/
def enumPage (settings : Settings) (owner : Enum) : Page where
  opening := opening settings []
  declaration :=
    ["type " ++ Text.upperFirst owner.name ++ " " ++ storage owner, "", "const ("] ++
      owner.values.map (constantLine (Text.upperFirst owner.name)) ++ [")"]

end Go

end GenModel
