import GenModel.Declaration
import GenModel.Language
import GenModel.Text.CaseMap
import GenModel.TypeExpr

/-!
# The spelling of types

How a language writes the type of a member: its spelling of the primitive types, how it refers
to other declarations, and its lists and maps. References are written with a capital first
letter.
-/

namespace GenModel

/-- How a language writes types. -/
structure TypeStyle where
  primitive : Primitive → String
  reference : String → String
  list : String → String
  map : String → String → String

namespace TypeStyle

/-- A type name in the language. -/
def element (style : TypeStyle) (typeName : String) : String :=
  match TypeName.resolve typeName with
  | .primitive type => style.primitive type
  | .reference name => style.reference name

/-- The type of a member in the language. -/
def field (style : TypeStyle) (declaredType : String) : String :=
  match TypeExpr.ofText declaredType with
  | .list element => style.list (style.element element)
  | .map key value => style.map (style.element key) (style.element value)
  | .named name => style.element name

end TypeStyle

namespace Class

/-- Whether a member's type is made of the given type name. -/
def mentions (owner : Class) (typeName : String) : Bool :=
  owner.members.any fun member => (TypeExpr.ofText member.declaredType).names.contains typeName

/-- Whether a member is a list or a map. -/
def hasContainer (owner : Class) : Bool :=
  owner.members.any fun member => (TypeExpr.ofText member.declaredType).isContainer

end Class

namespace Language

/-- How the language writes types. -/
def typeStyle : Language → TypeStyle
  | go => {
      primitive := Primitive.spelling go
      reference := fun name => "*" ++ Text.upperFirst name
      list := fun element => "[]" ++ element
      map := fun key value => "map[" ++ key ++ "]" ++ value
    }
  | kotlin => {
      primitive := Primitive.spelling kotlin
      reference := Text.upperFirst
      list := fun element => "List<" ++ element ++ ">"
      map := fun key value => "HashMap<" ++ key ++ ", " ++ value ++ ">"
    }
  | csharp => {
      primitive := Primitive.spelling csharp
      reference := Text.upperFirst
      list := fun element => "List<" ++ element ++ ">"
      map := fun key value => "Dictionary<" ++ key ++ ", " ++ value ++ ">"
    }
  | typescript => {
      primitive := Primitive.spelling typescript
      reference := Text.upperFirst
      list := fun element => element ++ "[]"
      map := fun key value => "Map<" ++ key ++ ", " ++ value ++ ">"
    }

/-- The type of a member in the language. -/
def fieldType (language : Language) (declaredType : String) : String :=
  language.typeStyle.field declaredType

end Language

end GenModel
