import GenModel.Text.CaseMap
import GenModel.Text.Decimal

/-!
# Declarations

A model is a list of declarations: classes with typed members and enums with integer values.
Entries are only ever added at the end. An entry's name is stored with a small first letter, and
an entry whose stored name is taken is refused; for an enum the value's text is read first.
-/

namespace GenModel

/-- Whether no earlier name equals the candidate. -/
def isFresh (names : List String) (candidate : String) : Bool :=
  !names.contains candidate

/-- Why an entry is refused. -/
inductive EntryError where
  | duplicateName (owner name : String)
  | invalidValue (name literal : String) (fault : Text.IntegerFault)
  deriving DecidableEq, Repr

namespace EntryError

/-- The wording of the refusal. -/
def message : EntryError → String
  | duplicateName owner name => "duplicate name '" ++ name ++ "' in '" ++ owner ++ "'"
  | invalidValue name literal _ =>
    "enum value '" ++ name ++ "' has non-integer value '" ++ literal ++ "'"

/-- The wordings of what lies behind the refusal. -/
def causes : EntryError → List String
  | duplicateName _ _ => []
  | invalidValue _ _ fault => [fault.message]

end EntryError

/-- A member of a class: its name and its type as it is written. -/
structure Member where
  name : String
  declaredType : String
  deriving DecidableEq, Repr

/-- A value of an enum. -/
structure EnumValue where
  name : String
  value : Int64
  deriving DecidableEq, Repr

/-- A class and its members in order. -/
structure Class where
  name : String
  members : List Member
  deriving DecidableEq, Repr

namespace Class

/-- The class with one more member. -/
def add (owner : Class) (name declaredType : String) : Except EntryError Class :=
  let stored := Text.lowerFirst name
  if isFresh (owner.members.map Member.name) stored then
    .ok { owner with members := owner.members ++ [⟨stored, declaredType⟩] }
  else
    .error (.duplicateName owner.name stored)

end Class

/-- An enum and its values in order. -/
structure Enum where
  name : String
  values : List EnumValue
  deriving DecidableEq, Repr

namespace Enum

/-- The enum with one more value, given as a literal. -/
def add (owner : Enum) (name literal : String) : Except EntryError Enum :=
  match Text.readInteger literal with
  | .error fault => .error (.invalidValue name literal fault)
  | .ok value =>
    let stored := Text.lowerFirst name
    if isFresh (owner.values.map EnumValue.name) stored then
      .ok { owner with values := owner.values ++ [⟨stored, value⟩] }
    else
      .error (.duplicateName owner.name stored)

/-- Whether every value fits thirty-two bits. -/
def isNarrow (owner : Enum) : Bool :=
  owner.values.all fun entry =>
    decide (-2147483648 ≤ entry.value.toInt) && decide (entry.value.toInt ≤ 2147483647)

end Enum

/-- The two kinds of declarations. -/
inductive Kind where
  | classKind
  | enumKind
  deriving DecidableEq, Repr

namespace Kind

/-- The word that introduces a declaration of this kind. -/
def keyword : Kind → String
  | classKind => "class"
  | enumKind => "enum"

/-- The kind that a word introduces. -/
def ofKeyword? (word : String) : Option Kind :=
  if word = "class" then some classKind
  else if word = "enum" then some enumKind
  else none

end Kind

/-- A class or an enum. -/
inductive Declaration where
  | ofClass (owner : Class)
  | ofEnum (owner : Enum)
  deriving DecidableEq, Repr

namespace Declaration

/-- The declaration without entries. -/
def empty (kind : Kind) (name : String) : Declaration :=
  match kind with
  | .classKind => ofClass ⟨name, []⟩
  | .enumKind => ofEnum ⟨name, []⟩

/-- The kind of a declaration. -/
def kind : Declaration → Kind
  | ofClass _ => .classKind
  | ofEnum _ => .enumKind

/-- The name of a declaration. -/
def name : Declaration → String
  | ofClass owner => owner.name
  | ofEnum owner => owner.name

/-- The number of entries. -/
def size : Declaration → Nat
  | ofClass owner => owner.members.length
  | ofEnum owner => owner.values.length

/-- The declaration with one more entry: a member and its type, or a value and its literal. -/
def add (declaration : Declaration) (entryName value : String) :
    Except EntryError Declaration :=
  match declaration with
  | ofClass owner => ofClass <$> owner.add entryName value
  | ofEnum owner => ofEnum <$> owner.add entryName value

end Declaration

end GenModel
