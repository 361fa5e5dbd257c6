import GenModel.Render.Constants
import GenModel.Render.Page
import GenModel.Render.TypeStyle

/-!
# C#

Classes become classes with a property for each member, annotated with the member's name. If a
package is given the declaration stands in a namespace and is indented by one tab.
-/

namespace GenModel

namespace CSharp

/-- The lines before a declaration: the banner, the directives and how the namespace begins. -/
def opening (settings : Settings) (directives : List String) : List String :=
  bannerLines settings.generatedAt ++
    paragraph (directives.map fun name => "using " ++ name ++ ";") ++
    match settings.package? with
    | some name => ["namespace " ++ name, "\x7b"]
    | none => []

/-- The lines of a declaration as they stand in the namespace, and its end. -/
def enclose (settings : Settings) (declaration : List String) : List String :=
  match settings.package? with
  | some _ => declaration.map (fun line => "\t" ++ line) ++ ["\x7d"]
  | none => declaration

/-- The namespaces that the properties of a class need. -/
def directives (owner : Class) : List String :=
  (if owner.mentions Primitive.date.name then ["System"] else []) ++
    (if owner.hasContainer then ["System.Collections.Generic"] else []) ++ ["Newtonsoft.Json"]

/-- The lines of a property. -/
def propertyLines (member : Member) : List String :=
  [
    "\t[JsonProperty(PropertyName = \"" ++ member.name ++ "\")]",
    "\tpublic " ++ Language.csharp.fieldType member.declaredType ++ " " ++
      Text.upperFirst member.name ++ " \x7b get; set; \x7d"
  ]

/-- The page of a class. -/
def classPage (settings : Settings) (owner : Class) : Page where
  opening := opening settings (directives owner)
  declaration :=
    enclose settings
      (["public class " ++ Text.upperFirst owner.name, "\x7b"] ++
        owner.members.flatMap propertyLines ++ ["\x7d"])

/-- The integer type that holds the values of an enum, if it is not the usual one. -/
def storage (owner : Enum) : String :=
  if owner.isNarrow then "" else " : long"

/-- The line of a constant, without its comma. -/
def constantLine (constant : String) (value : Int64) : String :=
  "\t" ++ constant ++ " = " ++ Text.decimal value.toInt

/-- The page of an enum whose constants are known. -/
def enumPageOf (settings : Settings) (owner : Enum) (constants : List String) : Page where
  opening := opening settings []
  declaration :=
    enclose settings
      (["public enum " ++ Text.upperFirst owner.name ++ storage owner, "\x7b"] ++
        Text.commaSeparated (owner.entries constants constantLine) ++ ["\x7d"])

/-- The page of an enum. -/
def enumPage (settings : Settings) (owner : Enum) : Except Error Page :=
  (owner.constants .csharp Text.upperCamel).map (enumPageOf settings owner)

end CSharp

end GenModel
