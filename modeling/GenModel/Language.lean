/-!
# Target languages and primitive types

The languages that declarations can be written in, and the type names that every language has a
spelling of its own for. Any other type name refers to another declaration.
-/

namespace GenModel

/-- A language that declarations can be written in. -/
inductive Language where
  | go
  | kotlin
  | csharp
  | typescript
  deriving DecidableEq, Repr

namespace Language

/-- The name of the language, which also names its output directory. -/
def name : Language → String
  | go => "go"
  | kotlin => "kotlin"
  | csharp => "csharp"
  | typescript => "typescript"

/-- The extension of the files of the language. -/
def extension : Language → String
  | go => "go"
  | kotlin => "kt"
  | csharp => "cs"
  | typescript => "ts"

/-- The name of the file for a declaration. -/
def fileName (language : Language) (declarationName : String) : String :=
  declarationName ++ "." ++ language.extension

end Language

/-- A type that every language has a spelling for. -/
inductive Primitive where
  | bool
  | int
  | long
  | string
  | double
  | float
  | char
  | byte
  | date
  deriving DecidableEq, Repr

namespace Primitive

/-- All primitive types. -/
def all : List Primitive :=
  [bool, int, long, string, double, float, char, byte, date]

/-- The name of the type in a model. -/
def name : Primitive → String
  | bool => "bool"
  | int => "int"
  | long => "long"
  | string => "string"
  | double => "double"
  | float => "float"
  | char => "char"
  | byte => "byte"
  | date => "date"

/-- The primitive type with the given name. -/
def ofName? (typeName : String) : Option Primitive :=
  all.find? fun primitive => primitive.name == typeName

/-- The spelling of the type in a language. -/
def spelling : Language → Primitive → String
  | .go, bool => "bool"
  | .go, int => "int"
  | .go, long => "int64"
  | .go, string => "string"
  | .go, double => "float64"
  | .go, float => "float32"
  | .go, char => "byte"
  | .go, byte => "byte"
  | .go, date => "time.Time"
  | .kotlin, bool => "Boolean"
  | .kotlin, int => "Int"
  | .kotlin, long => "Long"
  | .kotlin, string => "String"
  | .kotlin, double => "Double"
  | .kotlin, float => "Float"
  | .kotlin, char => "Char"
  | .kotlin, byte => "Byte"
  | .kotlin, date => "Date"
  | .csharp, bool => "bool"
  | .csharp, int => "int"
  | .csharp, long => "long"
  | .csharp, string => "string"
  | .csharp, double => "double"
  | .csharp, float => "float"
  | .csharp, char => "char"
  | .csharp, byte => "byte"
  | .csharp, date => "DateTime"
  | .typescript, bool => "boolean"
  | .typescript, int => "number"
  | .typescript, long => "number"
  | .typescript, string => "string"
  | .typescript, double => "number"
  | .typescript, float => "number"
  | .typescript, char => "string"
  | .typescript, byte => "number"
  | .typescript, date => "Date"

end Primitive

/-- A type name: a primitive type, or a reference to another declaration. -/
inductive TypeName where
  | primitive (type : Primitive)
  | reference (name : String)
  deriving DecidableEq, Repr

namespace TypeName

/-- What a name stands for. -/
def resolve (name : String) : TypeName :=
  match Primitive.ofName? name with
  | some type => primitive type
  | none => reference name

end TypeName

end GenModel
