import GenModel.Declaration
import GenModel.Text.Lines

/-!
# Models as JSON

A model is shown as a JSON array with one object for each declaration, in lines that are
indented by two spaces for each level. Strings are written with the least escaping that JSON
allows.
-/

namespace GenModel

namespace Dump

/-- The escape of a control character by its number, in four digits of base sixteen. -/
def numberEscape (c : Char) : List Char :=
  ['\\', 'u', '0', '0', Nat.digitChar (c.toNat / 16), Nat.digitChar (c.toNat % 16)]

/-- A character as it stands in a JSON string. -/
def stringChar (c : Char) : List Char :=
  if c = '"' then ['\\', '"']
  else if c = '\\' then ['\\', '\\']
  else if c = '\x08' then ['\\', 'b']
  else if c = '\t' then ['\\', 't']
  else if c = '\n' then ['\\', 'n']
  else if c = '\x0c' then ['\\', 'f']
  else if c = '\r' then ['\\', 'r']
  else if c.toNat < 0x20 then numberEscape c
  else [c]

/-- A text as a JSON string. -/
def string (text : String) : String :=
  String.ofList ('"' :: text.toList.flatMap stringChar ++ ['"'])

/-- The lines moved in by one level. -/
def indent (block : List String) : List String :=
  block.map fun line => "  " ++ line

/-- The last line of a block with more text after it. -/
def extendLast (block : List String) (more : String) : List String :=
  match block with
  | [] => [more]
  | [last] => [last ++ more]
  | line :: rest => line :: extendLast rest more

/-- The lines of blocks that commas separate. -/
def separate : List (List String) → List String
  | [] => []
  | [last] => last
  | block :: others => extendLast block "," ++ separate others

/-- The lines of an array. -/
def array (items : List (List String)) : List String :=
  if items.isEmpty then ["[]"] else ["["] ++ indent (separate items) ++ ["]"]

/-- The lines of a field of an object. -/
def field (name : String) (value : List String) : List String :=
  match value with
  | [] => []
  | first :: rest => (string name ++ ": " ++ first) :: rest

/-- The lines of an object with the given fields. -/
def object (fields : List (List String)) : List String :=
  ["\x7b"] ++ indent (separate fields) ++ ["\x7d"]

/-- The lines of a member. -/
def member (entry : Member) : List String :=
  object [field "name" [string entry.name], field "declared_type" [string entry.declaredType]]

/-- The lines of an enum value. -/
def enumValue (entry : EnumValue) : List String :=
  object [field "name" [string entry.name], field "value" [Text.decimal entry.value.toInt]]

/-- The lines of a declaration. -/
def declaration : Declaration → List String
  | .ofClass owner =>
    object [
      field "kind" [string Kind.classKind.keyword],
      field "name" [string owner.name],
      field "members" (array (owner.members.map member))
    ]
  | .ofEnum owner =>
    object [
      field "kind" [string Kind.enumKind.keyword],
      field "name" [string owner.name],
      field "values" (array (owner.values.map enumValue))
    ]

/-- The JSON text of a model. -/
def model (declarations : List Declaration) : String :=
  Text.joinLines (array (declarations.map declaration))

end Dump

end GenModel
