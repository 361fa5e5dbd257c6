import GenModel.Proofs.Source.Grammar
import GenModel.Proofs.Text.Decimal
import GenModel.Proofs.Text.LowerCase

/-!
# Well-formed declarations

What an accepted entry does to a declaration is stated once, in `add_eq_ok_iff` for classes and
for enums: the entry goes to the end under its name with a small first letter, which was not taken
before, and an enum's literal is read as an integer.

A declaration is well-formed if its name is an identifier, its entries have distinct names that
are tokens with small first letters, and its member types are tokens. Adding an entry made of
tokens keeps it well-formed, and the entries of a well-formed declaration, written out as text and
added to an empty declaration again, are accepted and give the same declaration.
-/

namespace GenModel

theorem isFresh_iff {names : List String} {candidate : String} :
    isFresh names candidate = true ↔ candidate ∉ names := by
  simp [isFresh]

theorem isFresh_eq_false_iff {names : List String} {candidate : String} :
    isFresh names candidate = false ↔ candidate ∈ names := by
  simp [isFresh]

namespace Class

theorem add_eq_ok_iff {owner extended : Class} {name declaredType : String} :
    owner.add name declaredType = .ok extended ↔
      Text.lowerFirst name ∉ owner.members.map Member.name ∧
        extended = ⟨owner.name, owner.members ++ [⟨Text.lowerFirst name, declaredType⟩]⟩ := by
  by_cases fresh : isFresh (owner.members.map Member.name) (Text.lowerFirst name) = true
  · simp only [add, fresh, if_true, Except.ok.injEq]
    exact ⟨fun extendedEq => ⟨isFresh_iff.mp fresh, extendedEq.symm⟩, fun both => both.2.symm⟩
  · simp only [add, fresh]
    constructor
    · intro added
      simp at added
    · rintro ⟨notTaken, -⟩
      exact absurd (isFresh_iff.mpr notTaken) fresh

end Class

namespace Enum

theorem add_eq_ok_iff {owner extended : Enum} {name literal : String} :
    owner.add name literal = .ok extended ↔
      ∃ value, Text.readInteger literal = .ok value ∧
        Text.lowerFirst name ∉ owner.values.map EnumValue.name ∧
        extended = ⟨owner.name, owner.values ++ [⟨Text.lowerFirst name, value⟩]⟩ := by
  cases read : Text.readInteger literal with
  | error fault => simp [add, read]
  | ok value =>
      by_cases fresh : isFresh (owner.values.map EnumValue.name) (Text.lowerFirst name) = true
      · simp only [add, read, fresh, if_true, Except.ok.injEq]
        constructor
        · intro extendedEq
          exact ⟨value, rfl, isFresh_iff.mp fresh, extendedEq.symm⟩
        · rintro ⟨_, rfl, -, rfl⟩
          rfl
      · simp only [add, read, fresh]
        constructor
        · intro added
          simp at added
        · rintro ⟨_, -, notTaken, -⟩
          exact absurd (isFresh_iff.mpr notTaken) fresh

end Enum

namespace Declaration

theorem add_ofClass_eq_ok_iff {owner : Class} {extended : Declaration} {name value : String} :
    (ofClass owner).add name value = .ok extended ↔
      ∃ changed, owner.add name value = .ok changed ∧ extended = ofClass changed := by
  cases added : owner.add name value <;>
    simp [add, added, Functor.map, Except.map, eq_comm]

theorem add_ofEnum_eq_ok_iff {owner : Enum} {extended : Declaration} {name value : String} :
    (ofEnum owner).add name value = .ok extended ↔
      ∃ changed, owner.add name value = .ok changed ∧ extended = ofEnum changed := by
  cases added : owner.add name value <;>
    simp [add, added, Functor.map, Except.map, eq_comm]

/-- The names of the entries, in order. -/
def entryNames : Declaration → List String
  | ofClass owner => owner.members.map Member.name
  | ofEnum owner => owner.values.map EnumValue.name

/-- The types of the members, which only a class has. -/
def memberTypes : Declaration → List String
  | ofClass owner => owner.members.map Member.declaredType
  | ofEnum _ => []

/-- The entries as they are written: members with their types, values in decimal. -/
def entryTexts : Declaration → List (String × String)
  | ofClass owner => owner.members.map fun member => (member.name, member.declaredType)
  | ofEnum owner => owner.values.map fun entry => (entry.name, Text.decimal entry.value.toInt)

/-- What the reader guarantees of a declaration. -/
structure WellFormed (declaration : Declaration) : Prop where
  identifier : Source.Identifier declaration.name
  isToken : ∀ entryName ∈ declaration.entryNames, Text.IsToken entryName
  lowered : ∀ entryName ∈ declaration.entryNames, Text.lowerFirst entryName = entryName
  distinct : declaration.entryNames.Nodup
  types : ∀ memberType ∈ declaration.memberTypes, Text.IsToken memberType

theorem wellFormed_iff {declaration : Declaration} :
    declaration.WellFormed ↔
      Source.Identifier declaration.name ∧
        (∀ entryName ∈ declaration.entryNames, Text.IsToken entryName) ∧
        (∀ entryName ∈ declaration.entryNames, Text.lowerFirst entryName = entryName) ∧
        declaration.entryNames.Nodup ∧
        ∀ memberType ∈ declaration.memberTypes, Text.IsToken memberType :=
  ⟨fun ⟨identifier, isToken, lowered, distinct, types⟩ =>
    ⟨identifier, isToken, lowered, distinct, types⟩,
    fun ⟨identifier, isToken, lowered, distinct, types⟩ =>
      ⟨identifier, isToken, lowered, distinct, types⟩⟩

instance (declaration : Declaration) : Decidable declaration.WellFormed :=
  decidable_of_iff' _ wellFormed_iff

/-- What an accepted entry does to the parts of a declaration. -/
theorem parts_add {declaration extended : Declaration} {name value : String}
    (added : declaration.add name value = .ok extended) :
    extended.name = declaration.name ∧
      Text.lowerFirst name ∉ declaration.entryNames ∧
      extended.entryNames = declaration.entryNames ++ [Text.lowerFirst name] ∧
      ∀ memberType ∈ extended.memberTypes,
        memberType ∈ declaration.memberTypes ∨ memberType = value := by
  cases declaration with
  | ofClass owner =>
      rcases add_ofClass_eq_ok_iff.mp added with ⟨changed, ownerAdded, rfl⟩
      rcases Class.add_eq_ok_iff.mp ownerAdded with ⟨notTaken, rfl⟩
      exact ⟨rfl, notTaken, by simp [entryNames], by simp [memberTypes]⟩
  | ofEnum owner =>
      rcases add_ofEnum_eq_ok_iff.mp added with ⟨changed, ownerAdded, rfl⟩
      rcases Enum.add_eq_ok_iff.mp ownerAdded with ⟨number, -, notTaken, rfl⟩
      exact ⟨rfl, notTaken, by simp [entryNames], by simp [memberTypes]⟩

/-- An entry made of tokens keeps a declaration well-formed. -/
theorem WellFormed.add {declaration extended : Declaration} {name value : String}
    (wellFormed : declaration.WellFormed) (isName : Text.IsToken name)
    (isValue : Text.IsToken value) (added : declaration.add name value = .ok extended) :
    extended.WellFormed := by
  rcases parts_add added with ⟨nameEq, notTaken, namesEq, types⟩
  refine ⟨?_, ?_, ?_, ?_, ?_⟩
  · rw [nameEq]
    exact wellFormed.identifier
  · intro entryName mem
    rw [namesEq, List.mem_append, List.mem_singleton] at mem
    rcases mem with mem | rfl
    · exact wellFormed.isToken entryName mem
    · exact Text.isToken_lowerFirst isName
  · intro entryName mem
    rw [namesEq, List.mem_append, List.mem_singleton] at mem
    rcases mem with mem | rfl
    · exact wellFormed.lowered entryName mem
    · exact Text.lowerFirst_lowerFirst name
  · rw [namesEq, List.nodup_append]
    refine ⟨wellFormed.distinct, by simp, ?_⟩
    rintro earlier mem last lastMem rfl
    rw [List.mem_singleton] at lastMem
    exact notTaken (lastMem ▸ mem)
  · intro memberType mem
    rcases types memberType mem with mem | rfl
    · exact wellFormed.types memberType mem
    · exact isValue

theorem wellFormed_empty {kind : Kind} {name : String} (identifier : Source.Identifier name) :
    (empty kind name).WellFormed := by
  cases kind with
  | classKind => exact ⟨identifier, by simp [empty, entryNames], by simp [empty, entryNames],
      by simp [empty, entryNames], by simp [empty, memberTypes]⟩
  | enumKind => exact ⟨identifier, by simp [empty, entryNames], by simp [empty, entryNames],
      by simp [empty, entryNames], by simp [empty, memberTypes]⟩

/-- Entries with distinct names and small first letters can be added one after the other, if each
of them can be added as long as its name is not taken. -/
theorem addAll_map {Entry : Type} {build : List Entry → Declaration} {nameOf : Entry → String}
    {written : Entry → String × String}
    (accepts : ∀ front entry, Text.lowerFirst (nameOf entry) = nameOf entry →
      nameOf entry ∉ front.map nameOf →
      (build front).add (written entry).1 (written entry).2 = .ok (build (front ++ [entry])))
    {front entries : List Entry}
    (lowered : ∀ entry ∈ entries, Text.lowerFirst (nameOf entry) = nameOf entry)
    (distinct : ((front ++ entries).map nameOf).Nodup) :
    Source.addAll (build front) (entries.map written) = .ok (build (front ++ entries)) := by
  induction entries generalizing front with
  | nil => simp [Source.addAll, pure, Except.pure]
  | cons entry rest ih =>
      rw [List.forall_mem_cons] at lowered
      have notTaken : nameOf entry ∉ front.map nameOf := by
        intro taken
        rw [List.map_append, List.nodup_append] at distinct
        exact distinct.2.2 _ taken (nameOf entry) (by simp) rfl
      have added := accepts front entry lowered.1 notTaken
      have restAdded := @ih (front ++ [entry]) lowered.2 (by simpa using distinct)
      rw [List.append_assoc, List.singleton_append] at restAdded
      simpa [Source.addAll, added, bind, Except.bind] using restAdded

/-- The written entries of a well-formed declaration give the declaration. -/
theorem addAll_entryTexts {declaration : Declaration} (wellFormed : declaration.WellFormed) :
    Source.addAll (empty declaration.kind declaration.name) declaration.entryTexts =
      .ok declaration := by
  cases declaration with
  | ofClass owner =>
      have lowered := wellFormed.lowered
      have distinct := wellFormed.distinct
      simp only [entryNames, List.forall_mem_map] at lowered distinct
      refine @addAll_map Member (fun members => ofClass ⟨owner.name, members⟩) Member.name
        (fun member => (member.name, member.declaredType)) ?_ [] owner.members lowered distinct
      intro front member fixed notTaken
      rw [← fixed] at notTaken
      rw [add_ofClass_eq_ok_iff]
      exact ⟨_, Class.add_eq_ok_iff.mpr ⟨notTaken, rfl⟩, by simp [fixed]⟩
  | ofEnum owner =>
      have lowered := wellFormed.lowered
      have distinct := wellFormed.distinct
      simp only [entryNames, List.forall_mem_map] at lowered distinct
      refine @addAll_map EnumValue (fun values => ofEnum ⟨owner.name, values⟩) EnumValue.name
        (fun entry => (entry.name, Text.decimal entry.value.toInt)) ?_ [] owner.values lowered
        distinct
      intro front entry fixed notTaken
      rw [← fixed] at notTaken
      rw [add_ofEnum_eq_ok_iff]
      refine ⟨_, Enum.add_eq_ok_iff.mpr ⟨entry.value, ?_, notTaken, rfl⟩, by simp [fixed]⟩
      exact Text.readInteger_decimal entry.value

end Declaration

end GenModel
