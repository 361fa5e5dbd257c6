import GenModel.Error
import GenModel.Text.Words

/-!
# Constants of an enum

Some languages have a spelling of their own for the constants of an enum, in which a name can
vanish and two names can become one. The first value to which that happens is the fault of the
whole enum.
-/

namespace GenModel

namespace Enum

/-- The constants of the values after the constants that are taken. -/
def constantsFrom (spell : String → String) (taken : List String) :
    List EnumValue → Except ConstantFault (List String)
  | [] => .ok taken
  | entry :: rest =>
    let constant := spell entry.name
    if constant = "" then .error (.unusable entry.name)
    else if isFresh taken constant then constantsFrom spell (taken ++ [constant]) rest
    else .error (.taken entry.name constant)

/-- The constants of an enum in a language that spells them in its own way. -/
def constants (owner : Enum) (language : Language) (spell : String → String) :
    Except Error (List String) :=
  match constantsFrom spell [] owner.values with
  | .ok names => .ok names
  | .error fault => .error (.generation language owner.name fault)

/-- The entries of an enum: each constant is put together with its value. -/
def entries (owner : Enum) (names : List String) (line : String → Int64 → String) :
    List String :=
  List.zipWith (fun constant entry => line constant entry.value) names owner.values

end Enum

end GenModel
