import GenModel.Proofs.Render.Page
import GenModel.Proofs.Render.Types
import GenModel.Proofs.Source.RoundTrip
import GenModel.Render

/-!
# Rendered classes can be read back

No language loses, merges or reorders the members of a class: the text of a class determines its
type name, the names of its members and their rendered types (`classPage_text_inj`).

The text determines the lines of the declaration, and in three languages every member has lines of
its own, in which its name and its type end at a space or at a fixed word. Kotlin writes all
members in one line. There the comma between members also occurs inside the type of a map, but
what follows it there up to the next space ends with a comma, and so is not the word `val`.
-/

namespace GenModel

/-- What rendering relies on: the name and the type of a member hold no blank character. -/
structure Member.IsUnbroken (member : Member) : Prop where
  name : Text.IsUnbroken member.name
  type : Text.IsUnbroken member.declaredType

namespace Class

/-- What rendering relies on: neither the name nor a member holds a blank character. -/
structure IsUnbroken (owner : Class) : Prop where
  name : Text.IsUnbroken owner.name
  members : ∀ member ∈ owner.members, member.IsUnbroken

theorem isUnbroken_of_readable {owner : Class} (readable : Source.Readable (.ofClass owner)) :
    owner.IsUnbroken := by
  have wellFormed := Source.readable_iff.mp readable
  refine ⟨(Source.isToken_of_identifier wellFormed.identifier).isUnbroken, ?_⟩
  intro member mem
  exact ⟨(wellFormed.isToken member.name (List.mem_map_of_mem mem)).isUnbroken,
    (wellFormed.types member.declaredType (List.mem_map_of_mem mem)).isUnbroken⟩

end Class

/-- What a language writes of a member: its name and its type. -/
def Language.field (language : Language) (member : Member) : String × String :=
  (member.name, language.fieldType member.declaredType)

/-- If what is written of a member determines its field, what is written of all members determines
the fields. -/
theorem Class.fields_inj {Written : Type} {language : Language} {first second : Class}
    {write : Member → Written} (firstUnbroken : first.IsUnbroken)
    (secondUnbroken : second.IsUnbroken)
    (determines : ∀ {member other : Member}, member.IsUnbroken → other.IsUnbroken →
      write member = write other → language.field member = language.field other)
    (same : first.members.map write = second.members.map write) :
    first.members.map language.field = second.members.map language.field := by
  refine map_eq_map_of_forall ?_ same
  intro member mem other otherMem written
  exact determines (firstUnbroken.members member mem) (secondUnbroken.members other otherMem)
    written

theorem Member.IsUnbroken.upperName {member : Member} (isMember : member.IsUnbroken) :
    Text.IsUnbroken (Text.upperFirst member.name) :=
  Text.isUnbroken_upperFirst isMember.name

theorem Class.IsUnbroken.upperName {owner : Class} (unbroken : owner.IsUnbroken) :
    Text.IsUnbroken (Text.upperFirst owner.name) :=
  Text.isUnbroken_upperFirst unbroken.name

namespace Go

variable {member other : Member} {first second owner : Class}

theorem fieldLine_inj (isMember : member.IsUnbroken) (isOther : other.IsUnbroken)
    (same : fieldLine member = fieldLine other) :
    Language.go.field member = Language.go.field other := by
  simp only [fieldLine, String.append_assoc, String.append_right_inj] at same
  rcases isMember.upperName.append_inj isOther.upperName (by decide) same with ⟨-, sameRest⟩
  have typeUnbroken := Language.isUnbroken_fieldType_go isMember.type
  have otherTypeUnbroken := Language.isUnbroken_fieldType_go isOther.type
  rcases typeUnbroken.append_inj otherTypeUnbroken (by decide) sameRest with ⟨typeEq, sameName⟩
  rw [String.append_left_inj] at sameName
  exact Prod.ext sameName typeEq

theorem isLine_fieldLine (isMember : member.IsUnbroken) : Text.IsLine (fieldLine member) := by
  simp only [fieldLine, Text.isLine_append_iff]
  exact ⟨⟨⟨⟨⟨⟨by decide, isMember.upperName.isLine⟩, by decide⟩,
    Language.isLine_fieldType .go isMember.type⟩, by decide⟩, isMember.name.isLine⟩, by decide⟩

theorem isLine_of_mem_classPage (settings : Settings) (unbroken : owner.IsUnbroken) :
    ∀ line ∈ (classPage settings owner).declaration, Text.IsLine line := by
  simp only [classPage, List.cons_append, List.nil_append, List.forall_mem_cons,
    List.forall_mem_append, List.forall_mem_map, Text.isLine_append_iff]
  refine ⟨⟨⟨by decide, unbroken.upperName.isLine⟩, by decide⟩, ?_, by decide, by simp⟩
  intro member mem
  exact isLine_fieldLine (unbroken.members member mem)

theorem classPage_laidOut (settings : Settings) (unbroken : owner.IsUnbroken) :
    (classPage settings owner).LaidOut 'i'
      (settings.packageLines ++ bannerLines settings.generatedAt) [] := by
  have begins : Text.Begins 't' ("type " ++ Text.upperFirst owner.name ++ " struct \x7b") :=
    ((by decide : Text.Begins 't' "type ").append _).append _
  refine Page.laidOut_of_begins ?_ begins (by decide) (isLine_of_mem_classPage settings unbroken)
  rw [imports]
  split <;> decide

theorem classPage_inj (settings : Settings) (firstUnbroken : first.IsUnbroken)
    (secondUnbroken : second.IsUnbroken)
    (same : (classPage settings first).text = (classPage settings second).text) :
    Text.upperFirst first.name = Text.upperFirst second.name ∧
      first.members.map Language.go.field = second.members.map Language.go.field := by
  have sameLines := (classPage_laidOut settings firstUnbroken).declaration_inj
    (classPage_laidOut settings secondUnbroken) same
  simp only [classPage, List.cons_append, List.nil_append, List.cons.injEq, String.append_assoc,
    String.append_right_inj, String.append_left_inj, List.append_cancel_right_eq] at sameLines
  exact ⟨sameLines.1, Class.fields_inj firstUnbroken secondUnbroken fieldLine_inj sameLines.2⟩

end Go

namespace TypeScript

variable {member other : Member} {first second owner : Class}

theorem memberLine_inj (isMember : member.IsUnbroken) (isOther : other.IsUnbroken)
    (same : memberLine member = memberLine other) :
    Language.typescript.field member = Language.typescript.field other := by
  simp only [memberLine, String.append_assoc, String.append_right_inj] at same
  rcases isMember.name.append_inj isOther.name (by decide) same with ⟨nameEq, sameType⟩
  rw [String.append_left_inj] at sameType
  exact Prod.ext nameEq sameType

theorem isLine_memberLine (isMember : member.IsUnbroken) : Text.IsLine (memberLine member) := by
  simp only [memberLine, Text.isLine_append_iff]
  exact ⟨⟨⟨⟨by decide, isMember.name.isLine⟩, by decide⟩,
    Language.isLine_fieldType .typescript isMember.type⟩, by decide⟩

theorem mem_of_mem_foldl_addImport {names imports : List String} {name : String}
    (mem : name ∈ names.foldl addImport imports) : name ∈ imports ∨ name ∈ names := by
  induction names generalizing imports with
  | nil => exact Or.inl mem
  | cons first rest ih =>
      rw [List.foldl_cons] at mem
      rcases ih mem with mem | mem
      · rw [addImport] at mem
        split at mem
        · rw [List.mem_append, List.mem_singleton] at mem
          rcases mem with mem | rfl
          · exact Or.inl mem
          · exact Or.inr List.mem_cons_self
        · exact Or.inl mem
      · exact Or.inr (List.mem_cons_of_mem first mem)

theorem isUnbroken_of_mem_imports (unbroken : owner.IsUnbroken) :
    ∀ name ∈ imports owner, Text.IsUnbroken name := by
  intro name mem
  rcases mem_of_mem_foldl_addImport mem with mem | mem
  · simp at mem
  · rcases List.mem_flatMap.mp (List.mem_of_mem_filter mem) with ⟨member, memberMem, nameMem⟩
    exact TypeExpr.isUnbroken_of_mem_names (unbroken.members member memberMem).type name nameMem

theorem isLine_importLine {name : String} (unbroken : Text.IsUnbroken name) :
    Text.IsLine (importLine name) := by
  simp only [importLine, Text.isLine_append_iff]
  exact ⟨⟨⟨⟨by decide, (Text.isUnbroken_upperFirst unbroken).isLine⟩, by decide⟩,
    unbroken.isLine⟩, by decide⟩

theorem isLine_of_mem_classPage (settings : Settings) (unbroken : owner.IsUnbroken) :
    ∀ line ∈ (classPage settings owner).declaration, Text.IsLine line := by
  simp only [classPage, List.cons_append, List.nil_append, List.forall_mem_cons,
    List.forall_mem_append, List.forall_mem_map, Text.isLine_append_iff]
  refine ⟨⟨⟨by decide, unbroken.upperName.isLine⟩, by decide⟩, ?_, by decide, by simp⟩
  intro member mem
  exact isLine_memberLine (unbroken.members member mem)

theorem classPage_laidOut (settings : Settings) (unbroken : owner.IsUnbroken) :
    (classPage settings owner).LaidOut 'i' (bannerLines settings.generatedAt) [] := by
  have begins : Text.Begins 'e' ("export class " ++ Text.upperFirst owner.name ++ " \x7b") :=
    ((by decide : Text.Begins 'e' "export class ").append _).append _
  refine Page.laidOut_of_begins ?_ begins (by decide) (isLine_of_mem_classPage settings unbroken)
  rw [List.forall_mem_map]
  intro name mem
  have importBegins : Text.Begins 'i' (importLine name) :=
    ((((by decide : Text.Begins 'i' "import \x7b ").append _).append _).append _).append _
  exact ⟨importBegins, isLine_importLine (isUnbroken_of_mem_imports unbroken name mem)⟩

theorem classPage_inj (settings : Settings) (firstUnbroken : first.IsUnbroken)
    (secondUnbroken : second.IsUnbroken)
    (same : (classPage settings first).text = (classPage settings second).text) :
    Text.upperFirst first.name = Text.upperFirst second.name ∧
      first.members.map Language.typescript.field =
        second.members.map Language.typescript.field := by
  have sameLines := (classPage_laidOut settings firstUnbroken).declaration_inj
    (classPage_laidOut settings secondUnbroken) same
  simp only [classPage, List.cons_append, List.nil_append, List.cons.injEq, String.append_assoc,
    String.append_right_inj, String.append_left_inj, List.append_cancel_right_eq] at sameLines
  exact ⟨sameLines.1, Class.fields_inj firstUnbroken secondUnbroken memberLine_inj sameLines.2⟩

end TypeScript

namespace CSharp

variable {member other : Member} {first second owner : Class}

theorem propertyLines_inj (same : propertyLines member = propertyLines other) :
    Language.csharp.field member = Language.csharp.field other := by
  simp only [propertyLines, List.cons.injEq, String.append_assoc, String.append_right_inj,
    String.append_left_inj] at same
  rcases same with ⟨nameEq, typeEq, -⟩
  rw [nameEq, String.append_left_inj] at typeEq
  exact Prod.ext nameEq typeEq

theorem isLine_propertyLines (isMember : member.IsUnbroken) :
    ∀ line ∈ propertyLines member, Text.IsLine line := by
  simp only [propertyLines, List.forall_mem_cons, Text.isLine_append_iff]
  exact ⟨⟨⟨by decide, isMember.name.isLine⟩, by decide⟩,
    ⟨⟨⟨⟨by decide, Language.isLine_fieldType .csharp isMember.type⟩, by decide⟩,
      isMember.upperName.isLine⟩, by decide⟩, by simp⟩

/-- The properties of a class are determined by their lines, as all of them have as many. -/
theorem map_propertyLines_eq {members others : List Member}
    (same : members.flatMap propertyLines = others.flatMap propertyLines) :
    members.map propertyLines = others.map propertyLines := by
  induction members generalizing others with
  | nil =>
      cases others with
      | nil => rfl
      | cons other more => simp [propertyLines] at same
  | cons member rest ih =>
      cases others with
      | nil => simp [propertyLines] at same
      | cons other more =>
          rw [List.flatMap_cons, List.flatMap_cons] at same
          rcases List.append_inj same rfl with ⟨sameLines, sameRest⟩
          rw [List.map_cons, List.map_cons, sameLines, ih sameRest]

theorem isLine_of_mem_classLines (unbroken : owner.IsUnbroken) :
    ∀ line ∈ ["public class " ++ Text.upperFirst owner.name, "\x7b"] ++
      owner.members.flatMap propertyLines ++ ["\x7d"], Text.IsLine line := by
  simp only [List.cons_append, List.nil_append, List.forall_mem_cons, List.forall_mem_append,
    List.forall_mem_flatMap, Text.isLine_append_iff]
  refine ⟨⟨by decide, unbroken.upperName.isLine⟩, by decide, ?_, by decide, by simp⟩
  intro member mem
  exact isLine_propertyLines (unbroken.members member mem)

theorem classPage_laidOut (settings : Settings) (unbroken : owner.IsUnbroken) :
    (classPage settings owner).LaidOut 'u' (bannerLines settings.generatedAt)
      (namespaceLines settings) := by
  refine laidOut_enclose settings ?_ ((by decide : Text.Begins 'p' "public class ").append _)
    (isLine_of_mem_classLines unbroken)
  rw [directives]
  split <;> split <;> decide

theorem classPage_inj (settings : Settings) (firstUnbroken : first.IsUnbroken)
    (secondUnbroken : second.IsUnbroken)
    (same : (classPage settings first).text = (classPage settings second).text) :
    Text.upperFirst first.name = Text.upperFirst second.name ∧
      first.members.map Language.csharp.field = second.members.map Language.csharp.field := by
  have sameLines := enclose_inj settings ((classPage_laidOut settings firstUnbroken).declaration_inj
    (classPage_laidOut settings secondUnbroken) same)
  simp only [List.cons_append, List.nil_append, List.cons.injEq, String.append_right_inj,
    List.append_cancel_right_eq, true_and] at sameLines
  refine ⟨sameLines.1, Class.fields_inj firstUnbroken secondUnbroken ?_
    (map_propertyLines_eq sameLines.2)⟩
  intro member other _ _ written
  exact propertyLines_inj written

end CSharp

namespace Kotlin

variable {first second owner : Class}

/-- The members of a class from the name of the first one on, as if one more member followed. -/
def fromFirstName : List Member → String
  | [] => ""
  | member :: rest =>
    member.name ++ ": " ++ Language.kotlin.fieldType member.declaredType ++ ", val " ++
      fromFirstName rest

theorem intercalate_parameter {members : List Member} (nonempty : members ≠ []) :
    ", ".intercalate (members.map parameter) ++ ", val " = "val " ++ fromFirstName members := by
  induction members with
  | nil => exact absurd rfl nonempty
  | cons member rest ih =>
      by_cases last : rest = []
      · subst rest
        simp [parameter, fromFirstName, String.append_assoc]
      · have restNonempty : rest.map parameter ≠ [] := by
          simpa using last
        have separator : ", val " = ", " ++ "val " := by
          decide
        rw [List.map_cons, String.intercalate_cons_of_ne_nil restNonempty, String.append_assoc,
          ih last]
        simp only [parameter, fromFirstName, String.append_assoc, separator]

/-- The type of a map is not taken for an unbroken type with one more member after it: the part
after its comma ends with a comma, which the word `val` does not. -/
theorem unbroken_append_ne {unbroken front back rest tail : String}
    (isUnbroken : Text.IsUnbroken unbroken) (frontUnbroken : Text.IsUnbroken front)
    (backUnbroken : Text.IsUnbroken back) :
    unbroken ++ (", val " ++ rest) ≠ front ++ (", " ++ (back ++ (", val " ++ tail))) := by
  intro same
  have typeEnd : ", val " ++ rest = ", " ++ ("val" ++ (" " ++ rest)) := by
    rw [← String.append_assoc, ← String.append_assoc]
    rfl
  have mapEnd : back ++ (", val " ++ tail) = (back ++ ",") ++ (" " ++ ("val " ++ tail)) := by
    rw [String.append_assoc, String.append_right_inj, ← String.append_assoc, ← String.append_assoc]
    rfl
  rw [typeEnd, mapEnd] at same
  rcases isUnbroken.append_inj frontUnbroken (by decide) same with ⟨-, sameRest⟩
  have valUnbroken : Text.IsUnbroken "val" := by
    decide
  have endUnbroken : Text.IsUnbroken (back ++ ",") :=
    Text.isUnbroken_append_iff.mpr ⟨backUnbroken, by decide⟩
  rcases valUnbroken.append_inj endUnbroken (by decide) sameRest with ⟨valEq, -⟩
  have lastEq := congrArg (fun text => text.toList.getLast?) valEq
  simp at lastEq

/-- A rendered type shows where it ends if one more member follows it. -/
theorem typeText_append_inj {firstType secondType rest tail : String}
    (isFirst : Language.IsTypeText firstType) (isSecond : Language.IsTypeText secondType)
    (same : firstType ++ (", val " ++ rest) = secondType ++ (", val " ++ tail)) :
    firstType = secondType ∧ rest = tail := by
  rcases isFirst with firstUnbroken | ⟨front, back, frontUnbroken, backUnbroken, rfl⟩
  · rcases isSecond with secondUnbroken | ⟨front, back, frontUnbroken, backUnbroken, rfl⟩
    · exact firstUnbroken.append_inj secondUnbroken (by decide) same
    · rw [String.append_assoc, String.append_assoc] at same
      exact absurd same (unbroken_append_ne firstUnbroken frontUnbroken backUnbroken)
  · rcases isSecond with secondUnbroken | ⟨secondFront, secondBack, secondFrontUnbroken,
      secondBackUnbroken, rfl⟩
    · rw [String.append_assoc, String.append_assoc] at same
      exact absurd same.symm (unbroken_append_ne secondUnbroken frontUnbroken backUnbroken)
    · simp only [String.append_assoc] at same
      rcases frontUnbroken.append_inj secondFrontUnbroken (by decide) same with ⟨rfl, sameBack⟩
      rcases backUnbroken.append_inj secondBackUnbroken (by decide) sameBack with ⟨rfl, restEq⟩
      exact ⟨rfl, restEq⟩

/-- The members are determined one after the other. -/
theorem fromFirstName_inj {members others : List Member}
    (areMembers : ∀ member ∈ members, member.IsUnbroken)
    (areOthers : ∀ member ∈ others, member.IsUnbroken)
    (same : fromFirstName members = fromFirstName others) :
    members.map Language.kotlin.field = others.map Language.kotlin.field := by
  induction members generalizing others with
  | nil =>
      cases others with
      | nil => rfl
      | cons other more => simp [fromFirstName] at same
  | cons member rest ih =>
      cases others with
      | nil => simp [fromFirstName] at same
      | cons other more =>
          rw [List.forall_mem_cons] at areMembers areOthers
          simp only [fromFirstName, String.append_assoc] at same
          rcases areMembers.1.name.append_inj areOthers.1.name (by decide) same with
            ⟨nameEq, sameType⟩
          rcases typeText_append_inj (Language.isTypeText_fieldType .kotlin areMembers.1.type)
            (Language.isTypeText_fieldType .kotlin areOthers.1.type) sameType
            with ⟨typeEq, sameRest⟩
          have fieldEq : Language.kotlin.field member = Language.kotlin.field other :=
            Prod.ext nameEq typeEq
          rw [List.map_cons, List.map_cons, fieldEq, ih areMembers.2 areOthers.2 sameRest]

theorem classLine_of_nil (isEmpty : owner.members = []) :
    classLine owner = "class " ++ Text.upperFirst owner.name := by
  simp [classLine, isEmpty]

theorem classLine_of_ne_nil (nonempty : owner.members ≠ []) :
    classLine owner = "data class " ++ (Text.upperFirst owner.name ++
      ("(" ++ (", ".intercalate (owner.members.map parameter) ++ ")"))) := by
  simp [classLine, nonempty, String.append_assoc]

theorem begins_classLine_of_nil (isEmpty : owner.members = []) :
    Text.Begins 'c' (classLine owner) := by
  rw [classLine_of_nil isEmpty]
  exact (by decide : Text.Begins 'c' "class ").append _

theorem begins_classLine_of_ne_nil (nonempty : owner.members ≠ []) :
    Text.Begins 'd' (classLine owner) := by
  rw [classLine_of_ne_nil nonempty]
  exact (by decide : Text.Begins 'd' "data class ").append _

theorem classLine_ne (isEmpty : first.members = []) (nonempty : second.members ≠ []) :
    classLine first ≠ classLine second := by
  intro same
  have begins := begins_classLine_of_nil isEmpty
  rw [same] at begins
  exact begins.not_begins (by decide) (begins_classLine_of_ne_nil nonempty)

theorem parameters_inj (firstUnbroken : first.IsUnbroken) (secondUnbroken : second.IsUnbroken)
    (firstNonempty : first.members ≠ []) (secondNonempty : second.members ≠ [])
    (same : classLine first = classLine second) :
    Text.upperFirst first.name = Text.upperFirst second.name ∧
      fromFirstName first.members = fromFirstName second.members := by
  have oneMore {owner : Class} (nonempty : owner.members ≠ []) :
      "(" ++ (", ".intercalate (owner.members.map parameter) ++ ", val ") =
        "(val " ++ fromFirstName owner.members := by
    rw [intercalate_parameter nonempty, ← String.append_assoc]
    rfl
  -- With one more member after both lists, every member ends in the same way.
  rw [classLine_of_ne_nil firstNonempty, classLine_of_ne_nil secondNonempty,
    String.append_right_inj] at same
  simp only [← String.append_assoc, String.append_left_inj] at same
  have sameOneMore := congrArg (· ++ ", val ") same
  simp only [String.append_assoc, oneMore firstNonempty, oneMore secondNonempty] at sameOneMore
  exact firstUnbroken.upperName.append_inj secondUnbroken.upperName (by decide) sameOneMore

theorem classLine_inj (firstUnbroken : first.IsUnbroken) (secondUnbroken : second.IsUnbroken)
    (same : classLine first = classLine second) :
    Text.upperFirst first.name = Text.upperFirst second.name ∧
      first.members.map Language.kotlin.field = second.members.map Language.kotlin.field := by
  by_cases firstEmpty : first.members = []
  · by_cases secondEmpty : second.members = []
    · rw [classLine_of_nil firstEmpty, classLine_of_nil secondEmpty,
        String.append_right_inj] at same
      exact ⟨same, by rw [firstEmpty, secondEmpty]⟩
    · exact absurd same (classLine_ne firstEmpty secondEmpty)
  · by_cases secondEmpty : second.members = []
    · exact absurd same.symm (classLine_ne secondEmpty firstEmpty)
    · rcases parameters_inj firstUnbroken secondUnbroken firstEmpty secondEmpty same with
        ⟨nameEq, sameParameters⟩
      exact ⟨nameEq, fromFirstName_inj firstUnbroken.members secondUnbroken.members sameParameters⟩

theorem isLine_parameter {member : Member} (isMember : member.IsUnbroken) :
    Text.IsLine (parameter member) := by
  simp only [parameter, Text.isLine_append_iff]
  exact ⟨⟨⟨by decide, isMember.name.isLine⟩, by decide⟩,
    Language.isLine_fieldType .kotlin isMember.type⟩

theorem isLine_classLine (unbroken : owner.IsUnbroken) : Text.IsLine (classLine owner) := by
  by_cases isEmpty : owner.members = []
  · rw [classLine_of_nil isEmpty, Text.isLine_append_iff]
    exact ⟨by decide, unbroken.upperName.isLine⟩
  · rw [classLine_of_ne_nil isEmpty]
    simp only [Text.isLine_append_iff]
    refine ⟨by decide, unbroken.upperName.isLine, by decide, ?_, by decide⟩
    apply Text.isLine_intercalate (by decide)
    rw [List.forall_mem_map]
    intro member mem
    exact isLine_parameter (unbroken.members member mem)

theorem classPage_laidOut (settings : Settings) (unbroken : owner.IsUnbroken) :
    (classPage settings owner).LaidOut 'i'
      (settings.packageLines ++ bannerLines settings.generatedAt) [] := by
  have importLines : ∀ line ∈ (imports owner).map fun name => "import " ++ name,
      Text.Begins 'i' line ∧ Text.IsLine line := by
    rw [List.forall_mem_map, imports]
    split <;> decide
  have areLines : ∀ line ∈ [classLine owner], Text.IsLine line := by
    simpa using isLine_classLine unbroken
  by_cases isEmpty : owner.members = []
  · exact Page.laidOut_of_begins importLines (begins_classLine_of_nil isEmpty) (by decide) areLines
  · exact Page.laidOut_of_begins importLines (begins_classLine_of_ne_nil isEmpty) (by decide)
      areLines

theorem classPage_inj (settings : Settings) (firstUnbroken : first.IsUnbroken)
    (secondUnbroken : second.IsUnbroken)
    (same : (classPage settings first).text = (classPage settings second).text) :
    Text.upperFirst first.name = Text.upperFirst second.name ∧
      first.members.map Language.kotlin.field = second.members.map Language.kotlin.field := by
  have sameLines := (classPage_laidOut settings firstUnbroken).declaration_inj
    (classPage_laidOut settings secondUnbroken) same
  exact classLine_inj firstUnbroken secondUnbroken (List.cons.inj sameLines).1

end Kotlin

namespace Language

/-- No language loses, merges, reorders or forges members: the text of a class determines its type
name, and the number, the names and the rendered types of its members in order. -/
theorem classPage_text_inj (language : Language) (settings : Settings) {first second : Class}
    (firstReadable : Source.Readable (.ofClass first))
    (secondReadable : Source.Readable (.ofClass second))
    (same : (language.classPage settings first).text =
      (language.classPage settings second).text) :
    Text.upperFirst first.name = Text.upperFirst second.name ∧
      first.members.length = second.members.length ∧
      first.members.map Member.name = second.members.map Member.name ∧
      (first.members.map fun member => language.fieldType member.declaredType) =
        second.members.map fun member => language.fieldType member.declaredType := by
  have firstUnbroken := Class.isUnbroken_of_readable firstReadable
  have secondUnbroken := Class.isUnbroken_of_readable secondReadable
  have determined : Text.upperFirst first.name = Text.upperFirst second.name ∧
      first.members.map language.field = second.members.map language.field := by
    cases language with
    | go => exact Go.classPage_inj settings firstUnbroken secondUnbroken same
    | kotlin => exact Kotlin.classPage_inj settings firstUnbroken secondUnbroken same
    | csharp => exact CSharp.classPage_inj settings firstUnbroken secondUnbroken same
    | typescript => exact TypeScript.classPage_inj settings firstUnbroken secondUnbroken same
  rcases determined with ⟨nameEq, fieldsEq⟩
  have lengthEq := congrArg List.length fieldsEq
  have namesEq := congrArg (List.map Prod.fst) fieldsEq
  have typesEq := congrArg (List.map Prod.snd) fieldsEq
  rw [List.length_map, List.length_map] at lengthEq
  rw [List.map_map, List.map_map] at namesEq typesEq
  exact ⟨nameEq, lengthEq, namesEq, typesEq⟩

/-- A class with the separators of Kotlin in its names and types. -/
def smallBox : Class :=
  ⟨"box", [⟨"val,", "map<val,Int>"⟩, ⟨"ids", "list<person>"⟩]⟩

/-- Another class that is rendered in the same way. -/
def capitalBox : Class :=
  ⟨"Box", [⟨"val,", "map<val,int>"⟩, ⟨"ids", "list<Person>"⟩]⟩

theorem classPage_text_inj_boxes :
    Source.Readable (.ofClass smallBox) ∧ Source.Readable (.ofClass capitalBox) ∧
      ∀ settings : Settings,
        (kotlin.classPage settings smallBox).text = (kotlin.classPage settings capitalBox).text ∧
        smallBox.members.map Member.name = capitalBox.members.map Member.name ∧
        (smallBox.members.map fun member => kotlin.fieldType member.declaredType) =
          capitalBox.members.map fun member => kotlin.fieldType member.declaredType := by
  have smallReadable : Source.Readable (.ofClass smallBox) :=
    Source.readable_iff.mpr (by decide +kernel)
  have capitalReadable : Source.Readable (.ofClass capitalBox) :=
    Source.readable_iff.mpr (by decide +kernel)
  refine ⟨smallReadable, capitalReadable, ?_⟩
  intro settings
  have same : (kotlin.classPage settings smallBox).text =
      (kotlin.classPage settings capitalBox).text := by
    have lineEq : Kotlin.classLine smallBox = Kotlin.classLine capitalBox := by
      decide +kernel
    have importsEq : Kotlin.imports smallBox = Kotlin.imports capitalBox := by
      decide +kernel
    simp only [classPage, Kotlin.classPage, Page.text, lineEq, importsEq]
  exact ⟨same, (classPage_text_inj kotlin settings smallReadable capitalReadable same).2.2⟩

end Language

end GenModel
