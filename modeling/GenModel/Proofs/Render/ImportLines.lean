import GenModel.Proofs.Instant
import GenModel.Proofs.Render.Classes
import GenModel.Proofs.Render.Imports
import GenModel.Proofs.Render.Layout
import GenModel.Proofs.Text.UpperCase
import Mathlib.Data.List.Nodup

/-!
# The imports that a text shows

A line is an import if it begins with the import word of its language. No other line of the page of
a class does, so the imports are read off the text as they were written (`importsIn_classPage`).

Go, Kotlin and C# decide on their imports before they write a field: they ask whether a type name of
some member is `date`, and whether some type is a container. The fields resolve the type names only
later. Both agree on every type, so an import is there exactly if a field is rendered with what it
provides (`classPage_libraries`).

TypeScript binds an identifier in each import. It imports every type name once, but names that
differ only in the case of their first letter have one identifier. So the identifiers of the imports
are distinct exactly if distinct references have distinct identifiers (`boundIn_nodup_iff`).
-/

namespace GenModel

namespace Language

/-- The word that an import begins with. -/
def importWord : Language → String
  | go => "import "
  | kotlin => "import "
  | csharp => "using "
  | typescript => "import "

/-- Whether a line is an import. -/
def isImport (language : Language) (line : String) : Bool :=
  language.importWord.toList.isPrefixOf line.toList

/-- The imports among the lines of a text. -/
def importsIn (language : Language) (text : String) : List String :=
  (Text.lines text).filter language.isImport

section Lines

variable {language : Language} {settings : Settings} {owner : Class} {line : String}

theorem isImport_append {front : String} (begins : language.isImport front = true)
    (back : String) : language.isImport (front ++ back) = true := by
  rw [isImport, List.isPrefixOf_iff_prefix] at begins ⊢
  rw [String.toList_append]
  exact begins.trans (List.prefix_append _ _)

theorem isImport_of_begins {c : Char} (begins : Text.Begins c line) (other : c ∉ ['i', 'u']) :
    language.isImport line = false := by
  rw [Bool.eq_false_iff, isImport, ne_eq, List.isPrefixOf_iff_prefix]
  rintro ⟨rest, lineEq⟩
  apply other
  rw [Text.Begins, ← lineEq] at begins
  cases language <;> simp [importWord] at begins <;> simp [← begins]

theorem isImport_empty : language.isImport "" = false := by
  cases language <;> decide

/-- The lines of a paragraph of imports are the imports and an empty line. -/
theorem filter_paragraph {imports : List String}
    (areImports : ∀ written ∈ imports, language.isImport written = true) :
    (paragraph imports).filter language.isImport = imports := by
  cases imports with
  | nil => rfl
  | cons first others =>
      rw [paragraph_cons, List.filter_append, List.filter_eq_self.mpr areImports,
        List.filter_cons_of_neg (by simp [isImport_empty]), List.filter_nil, List.append_nil]

theorem filter_bannerLines (generatedAt : Instant) :
    (bannerLines generatedAt).filter language.isImport = [] := by
  have comment {text : String} (begins : Text.Begins '/' text) : language.isImport text = false :=
    isImport_of_begins begins (by decide)
  have time : Text.Begins '/' ("//\t" ++ generatedAt.timestamp) :=
    (by decide : Text.Begins '/' "//\t").append _
  rw [List.filter_eq_nil_iff]
  simp only [bannerLines, List.forall_mem_cons, Bool.not_eq_true]
  exact ⟨comment (by decide), comment (by decide), comment time, comment (by decide),
    isImport_empty, by simp⟩

theorem filter_packageLines : settings.packageLines.filter language.isImport = [] := by
  rw [List.filter_eq_nil_iff, Settings.packageLines]
  cases settings.package? with
  | none => simp
  | some name =>
      have begins : Text.Begins 'p' ("package " ++ name) :=
        (by decide : Text.Begins 'p' "package ").append _
      simp [isImport_of_begins begins, isImport_empty]

theorem filter_namespaceLines : (CSharp.namespaceLines settings).filter language.isImport = [] := by
  rw [List.filter_eq_nil_iff, CSharp.namespaceLines]
  cases settings.package? with
  | none => simp
  | some name =>
      have begins : Text.Begins 'n' ("namespace " ++ name) :=
        (by decide : Text.Begins 'n' "namespace ").append _
      have brace : Text.Begins '\x7b' "\x7b" := by
        decide
      simp [isImport_of_begins begins, isImport_of_begins brace]

theorem filter_openingLines {imports : List String}
    (areImports : ∀ written ∈ imports, language.isImport written = true) :
    (language.openingLines settings imports).filter language.isImport = imports := by
  cases language <;>
    simp only [openingLines, List.filter_append, filter_bannerLines, filter_packageLines,
      filter_namespaceLines, filter_paragraph areImports, List.nil_append, List.append_nil]

/-- No line of a class is taken for an import. -/
theorem isImport_of_mem_declarationLines :
    ∀ written ∈ language.declarationLines (.ofClass owner), language.isImport written = false := by
  have closing : language.isImport "\x7d" = false :=
    isImport_of_begins (by decide : Text.Begins '\x7d' "\x7d") (by decide)
  have opening : language.isImport "\x7b" = false :=
    isImport_of_begins (by decide : Text.Begins '\x7b' "\x7b") (by decide)
  have first {c : Char} {word : String} (begins : Text.Begins c word) (other : c ∉ ['i', 'u'])
      (rest : String) : language.isImport (word ++ rest) = false :=
    isImport_of_begins (begins.append rest) other
  cases language with
  | go =>
      simp only [declarationLines, List.cons_append, List.nil_append, List.forall_mem_cons,
        List.forall_mem_append, List.forall_mem_map, Go.fieldLine, String.append_assoc]
      exact ⟨first (by decide : Text.Begins 't' _) (by decide) _,
        fun _ _ => first (by decide : Text.Begins '\t' _) (by decide) _, closing, by simp⟩
  | kotlin =>
      simp only [declarationLines, List.forall_mem_cons, Kotlin.classLine]
      split
      · exact ⟨first (by decide : Text.Begins 'c' _) (by decide) _, by simp⟩
      · simp only [String.append_assoc]
        exact ⟨first (by decide : Text.Begins 'd' _) (by decide) _, by simp⟩
  | csharp =>
      simp only [declarationLines, List.cons_append, List.nil_append, List.forall_mem_cons,
        List.forall_mem_append, List.forall_mem_flatMap, CSharp.propertyLines, String.append_assoc]
      exact ⟨first (by decide : Text.Begins 'p' _) (by decide) _, opening,
        fun _ _ => ⟨first (by decide : Text.Begins '\t' _) (by decide) _,
          first (by decide : Text.Begins '\t' _) (by decide) _, by simp⟩, closing, by simp⟩
  | typescript =>
      simp only [declarationLines, List.cons_append, List.nil_append, List.forall_mem_cons,
        List.forall_mem_append, List.forall_mem_map, TypeScript.memberLine, String.append_assoc]
      exact ⟨first (by decide : Text.Begins 'e' _) (by decide) _,
        fun _ _ => first (by decide : Text.Begins '\t' _) (by decide) _, closing, by simp⟩

theorem filter_enclosed :
    (language.enclosed settings (language.declarationLines (.ofClass owner))).filter
      language.isImport = [] := by
  have inside := @isImport_of_mem_declarationLines language owner
  rw [List.filter_eq_nil_iff]
  simp only [Bool.not_eq_true]
  cases language with
  | go => exact inside
  | kotlin => exact inside
  | typescript => exact inside
  | csharp =>
      rw [enclosed, CSharp.enclose]
      cases settings.package? with
      | none => exact inside
      | some name =>
          simp only [List.forall_mem_append, List.forall_mem_map, List.forall_mem_cons]
          have closing : csharp.isImport "\x7d" = false :=
            isImport_of_begins (by decide : Text.Begins '\x7d' "\x7d") (by decide)
          refine ⟨?_, closing, by simp⟩
          intro written mem
          exact isImport_of_begins ((by decide : Text.Begins '\t' "\t").append written) (by decide)

theorem classPage_eq_pageOf (language : Language) (settings : Settings) (owner : Class) :
    language.classPage settings owner = language.pageOf settings (.ofClass owner) :=
  page_eq_ok rfl

theorem isLine_of_mem_classPage (unbroken : owner.IsUnbroken) :
    ∀ written ∈ (language.classPage settings owner).declaration, Text.IsLine written := by
  cases language with
  | go => exact (Go.classPage_laidOut settings unbroken).areLines
  | kotlin => exact (Kotlin.classPage_laidOut settings unbroken).areLines
  | csharp => exact (CSharp.classPage_laidOut settings unbroken).areLines
  | typescript => exact (TypeScript.classPage_laidOut settings unbroken).areLines

theorem exists_last_of_classPage :
    ∃ last ∈ (language.classPage settings owner).declaration.getLast?, last ≠ "" := by
  cases language with
  | go => exact ⟨"\x7d", List.getLast?_eq_some_iff.mpr ⟨_, rfl⟩, by decide⟩
  | kotlin =>
      refine ⟨Kotlin.classLine owner, rfl, ?_⟩
      by_cases isEmpty : owner.members = []
      · exact (Kotlin.begins_classLine_of_nil isEmpty).ne_empty
      · exact (Kotlin.begins_classLine_of_ne_nil isEmpty).ne_empty
  | csharp =>
      refine ⟨"\x7d", ?_, by decide⟩
      rw [Option.mem_def, List.getLast?_eq_some_iff]
      simp only [classPage, CSharp.classPage, CSharp.enclose]
      cases settings.package? with
      | none => exact ⟨_, rfl⟩
      | some name => exact ⟨_, rfl⟩
  | typescript => exact ⟨"\x7d", List.getLast?_eq_some_iff.mpr ⟨_, rfl⟩, by decide⟩

theorem isLine_of_mem_bannerLines (generatedAt : Instant) :
    ∀ written ∈ bannerLines generatedAt, Text.IsLine written := by
  simp only [bannerLines, List.forall_mem_cons, Text.isLine_append_iff]
  exact ⟨by decide, by decide, ⟨by decide, generatedAt.isLine_timestamp⟩, by decide, by decide,
    by simp⟩

theorem isLine_of_mem_openingLines {imports : List String}
    (packaged : language ≠ typescript → ∀ name ∈ settings.package?, Text.IsLine name)
    (areLines : ∀ written ∈ imports, Text.IsLine written) :
    ∀ written ∈ language.openingLines settings imports, Text.IsLine written := by
  have banner := isLine_of_mem_bannerLines settings.generatedAt
  have importLines : ∀ written ∈ paragraph imports, Text.IsLine written := by
    cases imports with
    | nil => simp [paragraph]
    | cons first others =>
        rw [paragraph_cons, List.forall_mem_append]
        exact ⟨areLines, by decide⟩
  have package (isPackaged : language ≠ typescript) :
      ∀ written ∈ settings.packageLines, Text.IsLine written := by
    have isName := packaged isPackaged
    rw [Settings.packageLines]
    cases found : settings.package? with
    | none => simp
    | some name =>
        simp only [List.forall_mem_cons, Text.isLine_append_iff]
        exact ⟨⟨by decide, isName name found⟩, by decide, by simp⟩
  cases language with
  | go =>
      simp only [openingLines, List.forall_mem_append]
      exact ⟨⟨package (by decide), banner⟩, importLines⟩
  | kotlin =>
      simp only [openingLines, List.forall_mem_append]
      exact ⟨⟨package (by decide), banner⟩, importLines⟩
  | csharp =>
      have isName := packaged (by decide)
      simp only [openingLines, List.forall_mem_append]
      refine ⟨⟨banner, importLines⟩, ?_⟩
      rw [CSharp.namespaceLines]
      cases found : settings.package? with
      | none => simp
      | some name =>
          simp only [List.forall_mem_cons, Text.isLine_append_iff]
          exact ⟨⟨by decide, isName name found⟩, by decide, by simp⟩
  | typescript =>
      simp only [openingLines, List.forall_mem_append]
      exact ⟨banner, importLines⟩

theorem isImport_of_mem_importLines (unbroken : owner.IsUnbroken) :
    ∀ written ∈ language.importLines (.ofClass owner),
      language.isImport written = true ∧ Text.IsLine written := by
  cases language with
  | go =>
      rw [importLines, Go.imports]
      split <;> decide
  | kotlin =>
      rw [importLines, List.forall_mem_map, Kotlin.imports]
      split <;> decide
  | csharp =>
      rw [importLines, List.forall_mem_map, CSharp.directives]
      split <;> split <;> decide
  | typescript =>
      rw [importLines, List.forall_mem_map]
      intro name mem
      refine ⟨?_, TypeScript.isLine_importLine
        (TypeScript.isUnbroken_of_mem_imports unbroken name mem)⟩
      simp only [TypeScript.importLine, String.append_assoc]
      exact isImport_append (by decide) _

/-- The imports are read off the text of a class as they were written. -/
theorem importsIn_classPage (unbroken : owner.IsUnbroken)
    (packaged : language ≠ typescript → ∀ name ∈ settings.package?, Text.IsLine name) :
    language.importsIn (language.classPage settings owner).text =
      language.importLines (.ofClass owner) := by
  have areImports := @isImport_of_mem_importLines language owner unbroken
  have openingLines := isLine_of_mem_openingLines packaged fun written mem =>
    (areImports written mem).2
  have body := @isLine_of_mem_classPage language settings owner unbroken
  have ended := @exists_last_of_classPage language settings owner
  rw [classPage_eq_pageOf, pageOf] at body ended ⊢
  rw [importsIn, Page.text, Text.lines_unlines_append openingLines,
    Text.lines_joinLines body ended, List.filter_append,
    filter_openingLines fun written mem => (areImports written mem).1, filter_enclosed,
    List.append_nil]

end Lines

end Language

theorem Primitive.ofName?_eq_some_iff {name : String} {primitive : Primitive} :
    ofName? name = some primitive ↔ name = primitive.name := by
  constructor
  · intro found
    have named := List.find?_some found
    exact (beq_iff_eq.mp named).symm
  · rintro rfl
    cases primitive <;> rfl

theorem TypeName.resolve_eq_primitive_iff {name : String} {type : Primitive} :
    resolve name = .primitive type ↔ name = type.name := by
  rw [← Primitive.ofName?_eq_some_iff, resolve]
  cases Primitive.ofName? name <;> simp

/-- What the type of a member is rendered from: type names as they are resolved, one alone or in the
form of a container. -/
inductive FieldForm where
  | plain (element : TypeName)
  | list (element : TypeName)
  | map (key value : TypeName)
  deriving DecidableEq

namespace FieldForm

/-- The form in which a type is rendered. -/
def ofText (declaredType : String) : FieldForm :=
  match TypeExpr.ofText declaredType with
  | .list element => list (TypeName.resolve element)
  | .map key value => map (TypeName.resolve key) (TypeName.resolve value)
  | .named name => plain (TypeName.resolve name)

/-- The type names of a form. -/
def elements : FieldForm → List TypeName
  | plain element => [element]
  | list element => [element]
  | map key value => [key, value]

/-- Whether the form is that of a container. -/
def isContainer : FieldForm → Bool
  | plain _ => false
  | list _ => true
  | map _ _ => true

/-- A resolved type name in a language. -/
def spelled (style : TypeStyle) : TypeName → String
  | .primitive type => style.primitive type
  | .reference name => style.reference name

/-- The text of a form in a language. -/
def text (style : TypeStyle) : FieldForm → String
  | plain element => spelled style element
  | list element => style.list (spelled style element)
  | map key value => style.map (spelled style key) (spelled style value)

theorem element_eq_spelled (style : TypeStyle) (name : String) :
    style.element name = spelled style (TypeName.resolve name) := by
  rw [TypeStyle.element]
  cases TypeName.resolve name <;> rfl

theorem field_eq_text (style : TypeStyle) (declaredType : String) :
    style.field declaredType = (ofText declaredType).text style := by
  rw [TypeStyle.field, ofText]
  cases TypeExpr.ofText declaredType <;> simp only [text, element_eq_spelled]

theorem elements_ofText (declaredType : String) :
    (ofText declaredType).elements = (TypeExpr.ofText declaredType).names.map TypeName.resolve := by
  rw [ofText]
  cases TypeExpr.ofText declaredType <;> rfl

theorem isContainer_ofText (declaredType : String) :
    (ofText declaredType).isContainer = (TypeExpr.ofText declaredType).isContainer := by
  rw [ofText]
  cases TypeExpr.ofText declaredType <;> rfl

end FieldForm

namespace Class

/-- Some field of the class is rendered with the resolved type name. -/
def UsesElement (owner : Class) (element : TypeName) : Prop :=
  ∃ member ∈ owner.members, element ∈ (FieldForm.ofText member.declaredType).elements

/-- Some field of the class is rendered in the form of a container. -/
def UsesContainer (owner : Class) : Prop :=
  ∃ member ∈ owner.members, (FieldForm.ofText member.declaredType).isContainer = true

instance (owner : Class) (element : TypeName) : Decidable (owner.UsesElement element) :=
  inferInstanceAs (Decidable (∃ member ∈ owner.members, _))

instance (owner : Class) : Decidable owner.UsesContainer :=
  inferInstanceAs (Decidable (∃ member ∈ owner.members, _))

variable {owner : Class}

/-- A member mentions a primitive type exactly if its field is rendered with that type. -/
theorem mentions_iff {type : Primitive} :
    owner.mentions type.name = true ↔ owner.UsesElement (.primitive type) := by
  rw [mentions, List.any_eq_true, UsesElement]
  apply exists_congr
  intro member
  apply and_congr_right
  intro mem
  rw [FieldForm.elements_ofText, List.contains_iff_mem, List.mem_map]
  constructor
  · intro nameMem
    exact ⟨type.name, nameMem, TypeName.resolve_eq_primitive_iff.mpr rfl⟩
  · rintro ⟨name, nameMem, resolved⟩
    rwa [← TypeName.resolve_eq_primitive_iff.mp resolved]

theorem hasContainer_iff : owner.hasContainer = true ↔ owner.UsesContainer := by
  simp only [hasContainer, List.any_eq_true, UsesContainer, FieldForm.isContainer_ofText]

end Class

namespace Language

/-- The page of a class has exactly the given imports. Its text has them in their place, and they
are the imports that its text shows if each name stands in one line. -/
structure HasImports (language : Language) (settings : Settings) (owner : Class)
    (imports : List String) : Prop where
  fields : ∀ member ∈ owner.members, language.fieldType member.declaredType =
    (FieldForm.ofText member.declaredType).text language.typeStyle
  text : (language.classPage settings owner).text =
    Text.unlines (language.openingLines settings imports) ++
      Text.joinLines (language.enclosed settings (language.declarationLines (.ofClass owner)))
  shown : owner.IsUnbroken → (∀ name ∈ settings.package?, Text.IsLine name) →
    language.importsIn (language.classPage settings owner).text = imports

theorem hasImports_importLines (language : Language) (settings : Settings) (owner : Class) :
    language.HasImports settings owner (language.importLines (.ofClass owner)) where
  fields member _ := FieldForm.field_eq_text language.typeStyle member.declaredType
  text := by
    rw [classPage_eq_pageOf]
    rfl
  shown unbroken packaged := importsIn_classPage unbroken fun _ => packaged

/-- Go, Kotlin and C# import exactly what the fields of a class are rendered with. -/
theorem classPage_libraries (settings : Settings) (owner : Class) :
    go.HasImports settings owner
      (if owner.UsesElement (.primitive .date) then ["import \"time\""] else []) ∧
    kotlin.HasImports settings owner
      (if owner.UsesElement (.primitive .date) then ["import java.util.Date"] else []) ∧
    csharp.HasImports settings owner
      ((if owner.UsesElement (.primitive .date) then ["using System;"] else []) ++
        (if owner.UsesContainer then ["using System.Collections.Generic;"] else []) ++
        ["using Newtonsoft.Json;"]) := by
  refine ⟨?_, ?_, ?_⟩
  · have importsEq : go.importLines (.ofClass owner) =
        if owner.UsesElement (.primitive .date) then ["import \"time\""] else [] := by
      simp only [importLines, Go.imports, Class.mentions_iff]
      split <;> rfl
    rw [← importsEq]
    exact hasImports_importLines go settings owner
  · have importsEq : kotlin.importLines (.ofClass owner) =
        if owner.UsesElement (.primitive .date) then ["import java.util.Date"] else [] := by
      simp only [importLines, Kotlin.imports, Class.mentions_iff]
      split <;> rfl
    rw [← importsEq]
    exact hasImports_importLines kotlin settings owner
  · have importsEq : csharp.importLines (.ofClass owner) =
        (if owner.UsesElement (.primitive .date) then ["using System;"] else []) ++
          (if owner.UsesContainer then ["using System.Collections.Generic;"] else []) ++
          ["using Newtonsoft.Json;"] := by
      simp only [importLines, CSharp.directives, Class.mentions_iff, Class.hasContainer_iff]
      split <;> split <;> rfl
    rw [← importsEq]
    exact hasImports_importLines csharp settings owner

end Language

namespace TypeScript

open GenModel.Language

/-- The identifier that an import binds: what stands between its brace and the next space. -/
def boundBy (line : String) : String :=
  String.ofList ((line.toList.drop "import \x7b ".toList.length).takeWhile (· != ' '))

/-- The identifiers that the imports of a text bind, in order. -/
def boundIn (text : String) : List String :=
  (typescript.importsIn text).map boundBy

section Bound

variable {owner : Class} {name : String}

theorem boundBy_importLine (unbroken : Text.IsUnbroken name) :
    boundBy (importLine name) = Text.upperFirst name := by
  have noSpace : ∀ c ∈ (Text.upperFirst name).toList, (c != ' ') = true := by
    intro c mem
    rw [bne_iff_ne]
    rintro rfl
    exact (Text.isUnbroken_upperFirst unbroken).space_not_mem mem
  have characters : (importLine name).toList = "import \x7b ".toList ++
      ((Text.upperFirst name).toList ++ ' ' :: ("\x7d from \"./" ++ name ++ "\";").toList) := by
    simp [importLine]
  rw [boundBy, characters, List.drop_left, List.takeWhile_append_of_pos noSpace,
    List.takeWhile_cons_of_neg (by simp), List.append_nil, String.ofList_toList]

theorem boundIn_classPage (settings : Settings) (unbroken : owner.IsUnbroken) :
    boundIn (typescript.classPage settings owner).text =
      (imports owner).map Text.upperFirst := by
  rw [boundIn, importsIn_classPage unbroken fun different => absurd rfl different, importLines,
    List.map_map]
  apply List.map_congr_left
  intro name mem
  exact boundBy_importLine (isUnbroken_of_mem_imports unbroken name mem)

/-- References that are written with small first letters of ASCII have distinct identifiers. -/
theorem eq_of_upperFirst_eq {other : String} (stored : Text.lowerFirst name = name)
    (ascii : Text.BeginsAscii name) (otherStored : Text.lowerFirst other = other)
    (otherAscii : Text.BeginsAscii other) (same : Text.upperFirst name = Text.upperFirst other) :
    name = other := by
  rw [← Text.regained_of_beginsAscii stored ascii,
    ← Text.regained_of_beginsAscii otherStored otherAscii, Text.regained, Text.regained, same]

end Bound

/-- The imports of a class bind the identifiers of its references and never the one that the class
declares. They bind each of them once exactly if references that are written differently have
different identifiers, as is the case if all of them have small first letters of ASCII, or if all
of them have capital ones. -/
theorem boundIn_nodup_iff {owner : Class} (readable : Source.Readable (.ofClass owner))
    (settings : Settings) :
    (∀ identifier, identifier ∈ boundIn (typescript.classPage settings owner).text ↔
      ∃ name ∈ references owner, Text.upperFirst name = identifier) ∧
    Text.upperFirst owner.name ∉ boundIn (typescript.classPage settings owner).text ∧
    ((boundIn (typescript.classPage settings owner).text).Nodup ↔
      ∀ name ∈ references owner, ∀ other ∈ references owner,
        Text.upperFirst name = Text.upperFirst other → name = other) ∧
    ((∀ name ∈ references owner, Text.lowerFirst name = name ∧ Text.BeginsAscii name) →
      (boundIn (typescript.classPage settings owner).text).Nodup) ∧
    ((∀ name ∈ references owner, Text.upperFirst name = name) →
      (boundIn (typescript.classPage settings owner).text).Nodup) := by
  have firstUses := firstUses_imports owner
  rw [boundIn_classPage settings (Class.isUnbroken_of_readable readable)]
  have memIff : ∀ identifier, identifier ∈ (imports owner).map Text.upperFirst ↔
      ∃ name ∈ references owner, Text.upperFirst name = identifier := by
    intro identifier
    simp only [List.mem_map, firstUses.mem_iff]
  have distinctIff : ((imports owner).map Text.upperFirst).Nodup ↔
      ∀ name ∈ references owner, ∀ other ∈ references owner,
        Text.upperFirst name = Text.upperFirst other → name = other := by
    rw [List.nodup_map_iff_inj_on firstUses.distinct]
    simp only [firstUses.mem_iff]
  refine ⟨memIff, ?_, distinctIff, ?_, ?_⟩
  · intro own
    rcases (memIff _).mp own with ⟨name, mem, same⟩
    rw [references, List.mem_filter, decide_eq_true_iff] at mem
    exact mem.2.2 same
  · intro small
    rw [distinctIff]
    intro name mem other otherMem same
    exact eq_of_upperFirst_eq (small name mem).1 (small name mem).2 (small other otherMem).1
      (small other otherMem).2 same
  · intro capital
    rw [distinctIff]
    intro name mem other otherMem same
    rwa [capital name mem, capital other otherMem] at same

/-- A class that refers to itself and, in two cases, to others. -/
def mixedCase : Class :=
  ⟨"node", [⟨"next", "Node"⟩, ⟨"owner", "user"⟩, ⟨"tags", "map<user,Tag>"⟩]⟩

theorem boundIn_nodup_iff_mixedCase :
    Source.Readable (.ofClass mixedCase) ∧ references mixedCase = ["user", "user", "Tag"] ∧
      ∀ settings : Settings,
        "Node" ∉ boundIn (typescript.classPage settings mixedCase).text ∧
        (boundIn (typescript.classPage settings mixedCase).text).Nodup := by
  have readable : Source.Readable (.ofClass mixedCase) :=
    Source.readable_iff.mpr (by decide +kernel)
  have ownName : Text.upperFirst mixedCase.name = "Node" := by
    decide +kernel
  refine ⟨readable, by decide +kernel, ?_⟩
  intro settings
  have described := boundIn_nodup_iff readable settings
  rw [ownName] at described
  exact ⟨described.2.1, described.2.2.1.mpr (by decide +kernel)⟩

/-- A class that refers to one type in two spellings. -/
def twoSpellings : Class :=
  ⟨"A", [⟨"a", "bla"⟩, ⟨"b", "Bla"⟩]⟩

/-- Each spelling has an import of its own, and both imports bind one identifier. -/
theorem boundIn_twice_twoSpellings :
    Source.parse "class A\n\x7b\na bla\nb Bla\n\x7d\n" = .ok [.ofClass twoSpellings] ∧
      ∀ settings : Settings,
        boundIn (typescript.classPage settings twoSpellings).text = ["Bla", "Bla"] ∧
        ¬(boundIn (typescript.classPage settings twoSpellings).text).Nodup := by
  have readable : Source.Readable (.ofClass twoSpellings) :=
    Source.readable_iff.mpr (by decide +kernel)
  have bound : (imports twoSpellings).map Text.upperFirst = ["Bla", "Bla"] := by
    decide +kernel
  refine ⟨by decide +kernel, ?_⟩
  intro settings
  rw [boundIn_classPage settings (Class.isUnbroken_of_readable readable), bound]
  exact ⟨rfl, by decide⟩

end TypeScript

end GenModel
