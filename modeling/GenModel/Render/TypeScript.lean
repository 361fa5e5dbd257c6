import GenModel.Render.Page
import GenModel.Render.TypeStyle

/-!
# TypeScript

Every declaration is a module of its own, named after it. A class imports the declarations that
its members refer to, each once and in the order of their first use; its own name is in scope
already. There are no packages.
-/

namespace GenModel

namespace TypeScript

/-- The imports with one more module, unless it is among them. -/
def addImport (imports : List String) (moduleName : String) : List String :=
  if isFresh imports moduleName then imports ++ [moduleName] else imports

/-- Whether a class of the given type name has to import the name. -/
def isImported (ownType typeName : String) : Bool :=
  match TypeName.resolve typeName with
  | .primitive _ => false
  | .reference name => Text.upperFirst name != ownType

/-- The modules that the members of a class need. -/
def imports (owner : Class) : List String :=
  ((owner.members.flatMap fun member => (TypeExpr.ofText member.declaredType).names).filter
    (isImported (Text.upperFirst owner.name))).foldl addImport []

/-- The line of an import. -/
def importLine (moduleName : String) : String :=
  "import \x7b " ++ Text.upperFirst moduleName ++ " \x7d from \"./" ++ moduleName ++ "\";"

/-- The lines before a declaration: the banner and the imports. -/
def opening (settings : Settings) (moduleNames : List String) : List String :=
  bannerLines settings.generatedAt ++ paragraph (moduleNames.map importLine)

/-- The line of a member. -/
def memberLine (member : Member) : String :=
  "\t" ++ member.name ++ ": " ++ Language.typescript.fieldType member.declaredType ++ ";"

/-- The page of a class. -/
def classPage (settings : Settings) (owner : Class) : Page where
  opening := opening settings (imports owner)
  declaration :=
    ["export class " ++ Text.upperFirst owner.name ++ " \x7b"] ++ owner.members.map memberLine ++
      ["\x7d"]

/-- The line of a constant, without its comma. -/
def constantLine (entry : EnumValue) : String :=
  "\t" ++ Text.upperFirst entry.name ++ " = " ++ Text.decimal entry.value.toInt

/-- The page of an enum. -/
def enumPage (settings : Settings) (owner : Enum) : Page where
  opening := opening settings []
  declaration :=
    ["export enum " ++ Text.upperFirst owner.name ++ " \x7b"] ++
      Text.commaSeparated (owner.values.map constantLine) ++ ["\x7d"]

end TypeScript

end GenModel
