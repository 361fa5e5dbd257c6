import GenModel.Render.CSharp
import GenModel.Render.Go
import GenModel.Render.Kotlin
import GenModel.Render.TypeScript

/-!
# Generated files

Every declaration becomes one file of its language. Only the constants of an enum can be a
reason for failure, and one failure is the failure of the whole model.
-/

namespace GenModel

/-- A generated file. -/
structure SourceFile where
  name : String
  code : String
  deriving DecidableEq, Repr

namespace Language

/-- The page of a class. -/
def classPage (language : Language) (settings : Settings) (owner : Class) : Page :=
  match language with
  | go => Go.classPage settings owner
  | kotlin => Kotlin.classPage settings owner
  | csharp => CSharp.classPage settings owner
  | typescript => TypeScript.classPage settings owner

/-- The page of an enum. -/
def enumPage (language : Language) (settings : Settings) (owner : Enum) : Except Error Page :=
  match language with
  | go => .ok (Go.enumPage settings owner)
  | kotlin => Kotlin.enumPage settings owner
  | csharp => CSharp.enumPage settings owner
  | typescript => .ok (TypeScript.enumPage settings owner)

/-- The page of a declaration. -/
def page (language : Language) (settings : Settings) : Declaration → Except Error Page
  | .ofClass owner => .ok (language.classPage settings owner)
  | .ofEnum owner => language.enumPage settings owner

/-- The file of a declaration. -/
def generate (language : Language) (settings : Settings) (declaration : Declaration) :
    Except Error SourceFile :=
  (language.page settings declaration).map fun page =>
    ⟨language.fileName declaration.name, page.text⟩

/-- The files of a model, in order, unless one of its declarations fails. -/
def generateAll (language : Language) (settings : Settings) (model : List Declaration) :
    Except Error (List SourceFile) :=
  model.mapM (language.generate settings)

end Language

end GenModel
