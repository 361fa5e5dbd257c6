import GenModel.Text.Blank

/-!
# Type expressions

The type of a member is written as plain text: a name, `list<T>` or `map<K,V>`. A text that
mentions `list` or `map` anywhere is read as such a container if it has the parameters for it,
which are the second of its parts when angle brackets separate like blanks. A text that mentions
both is a list. Every other text is a name.
-/

namespace GenModel

/-- The type of a member. -/
inductive TypeExpr where
  | list (element : String)
  | map (key value : String)
  | named (name : String)
  deriving DecidableEq, Repr

namespace TypeExpr

/-- Whether the character separates the parts of a type. -/
def isSeparator (c : Char) : Bool :=
  Text.isBlank c || c == '<' || c == '>'

/-- The text between the brackets: the second part of a type. -/
def parameters? (text : String) : Option String :=
  (Text.tokensBy isSeparator text)[1]?

/-- The element type of a text that mentions `list` and has a parameter. -/
def listElement? (text : String) : Option String :=
  if Text.occursIn "list".toList text.toList then parameters? text else none

/-- The two types around the only comma of a text. -/
def pair? (text : String) : Option (String × String) :=
  match Text.pieces (· == ',') text.toList with
  | [key, value] => some (String.ofList key, String.ofList value)
  | _ => none

/-- The key and value types of a text that mentions `map` and has two parameters. -/
def mapTypes? (text : String) : Option (String × String) :=
  if Text.occursIn "map".toList text.toList then (parameters? text).bind pair? else none

/-- Reads a type. -/
def ofText (text : String) : TypeExpr :=
  match listElement? text with
  | some element => list element
  | none =>
    match mapTypes? text with
    | some (key, value) => map key value
    | none => named text

/-- Whether the type is a list or a map. -/
def isContainer : TypeExpr → Bool
  | list _ => true
  | map _ _ => true
  | named _ => false

/-- The type names that the type is made of, from left to right. -/
def names : TypeExpr → List String
  | list element => [element]
  | map key value => [key, value]
  | named name => [name]

end TypeExpr

end GenModel
