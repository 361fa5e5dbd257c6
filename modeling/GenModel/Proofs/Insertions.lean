import GenModel.Proofs.Declaration

/-!
# Insertions one after the other

A declaration is filled by insertions, some of which may be refused. What it is after any sequence
of them depends on the accepted ones alone: it holds exactly their entries, in order, under names
with small first letters that are all different. That is the invariant `IsBuilt`, which an accepted
insertion extends and a refused one leaves as it is.

An insertion is refused for one of two reasons. The literal of an enum value is read first, so a
literal that is no integer is reported whether or not the name is taken as well, and its name is
not taken by it.
-/

namespace GenModel

namespace Declaration

/-- An insertion in place: its answer, and the declaration that stands there afterwards. -/
def insert (declaration : Declaration) (entry : String × String) :
    Except EntryError Unit × Declaration :=
  match declaration.add entry.1 entry.2 with
  | .ok extended => (.ok (), extended)
  | .error cause => (.error cause, declaration)

/-- The declaration after insertions one after the other. -/
def insertAll (declaration : Declaration) (entries : List (String × String)) : Declaration :=
  entries.foldl (fun reached entry => (reached.insert entry).2) declaration

/-- The insertions that are accepted when all are made one after the other. -/
def accepted (declaration : Declaration) : List (String × String) → List (String × String)
  | [] => []
  | entry :: rest =>
    match declaration.insert entry with
    | (.ok _, next) => entry :: next.accepted rest
    | (.error _, next) => next.accepted rest

/-- The value of an entry can be used: anything as the type of a member, and a literal of
sixty-four bits as the value of an enum. -/
def Usable (kind : Kind) (value : String) : Prop :=
  kind = .enumKind → ∃ number : Int64, Text.IsLiteral value number.toInt

/-- The declaration has exactly these entries, in order, with small first letters. -/
def Holds : Declaration → List (String × String) → Prop
  | ofClass owner, entries =>
    owner.members = entries.map fun entry => ⟨Text.lowerFirst entry.1, entry.2⟩
  | ofEnum owner, entries =>
    List.Forall₂
      (fun entry held =>
        held.name = Text.lowerFirst entry.1 ∧ Text.IsLiteral entry.2 held.value.toInt)
      entries owner.values

theorem Holds.entryNames {declaration : Declaration} {entries : List (String × String)}
    (holds : declaration.Holds entries) :
    declaration.entryNames = entries.map fun entry => Text.lowerFirst entry.1 := by
  cases declaration with
  | ofClass owner =>
      rw [Holds] at holds
      simp [Declaration.entryNames, holds]
  | ofEnum owner =>
      rcases owner with ⟨name, values⟩
      simp only [Holds] at holds
      simp only [Declaration.entryNames]
      induction holds with
      | nil => rfl
      | cons held _ ih => rw [List.map_cons, List.map_cons, held.1, ih]

/-- What a declaration is after insertions of which the given ones were accepted. -/
structure IsBuilt (declaration : Declaration) (kind : Kind) (name : String)
    (entries : List (String × String)) : Prop where
  kind : declaration.kind = kind
  name : declaration.name = name
  holds : declaration.Holds entries
  distinct : declaration.entryNames.Nodup
  lowered : ∀ entryName ∈ declaration.entryNames, Text.lowerFirst entryName = entryName

theorem isBuilt_empty (kind : Kind) (name : String) : (empty kind name).IsBuilt kind name [] := by
  cases kind with
  | classKind => exact ⟨rfl, rfl, rfl, by simp [empty, entryNames], by simp [empty, entryNames]⟩
  | enumKind => exact ⟨rfl, rfl, .nil, by simp [empty, entryNames], by simp [empty, entryNames]⟩

section Insertion

variable {declaration extended : Declaration} {kind : Kind} {name : String}
  {entries : List (String × String)} {entry : String × String}

theorem insert_of_ok (added : declaration.add entry.1 entry.2 = .ok extended) :
    declaration.insert entry = (.ok (), extended) := by
  simp only [insert, added]

theorem insert_of_error {cause : EntryError}
    (refused : declaration.add entry.1 entry.2 = .error cause) :
    declaration.insert entry = (.error cause, declaration) := by
  simp only [insert, refused]

theorem Holds.add (holds : declaration.Holds entries)
    (added : declaration.add entry.1 entry.2 = .ok extended) :
    extended.kind = declaration.kind ∧ extended.Holds (entries ++ [entry]) := by
  cases declaration with
  | ofClass owner =>
      rcases add_ofClass_eq_ok_iff.mp added with ⟨changed, ownerAdded, rfl⟩
      rcases Class.add_eq_ok_iff.mp ownerAdded with ⟨-, rfl⟩
      simp only [Holds] at holds
      simp [Holds, holds, Declaration.kind]
  | ofEnum owner =>
      rcases add_ofEnum_eq_ok_iff.mp added with ⟨changed, ownerAdded, rfl⟩
      rcases Enum.add_eq_ok_iff.mp ownerAdded with ⟨number, read, -, rfl⟩
      refine ⟨rfl, List.rel_append holds (.cons ⟨rfl, ?_⟩ .nil)⟩
      exact Text.readInteger_eq_ok_iff.mp read

/-- An accepted insertion extends what has been built. -/
theorem IsBuilt.add (built : declaration.IsBuilt kind name entries)
    (added : declaration.add entry.1 entry.2 = .ok extended) :
    extended.IsBuilt kind name (entries ++ [entry]) := by
  rcases parts_add added with ⟨nameEq, notTaken, namesEq, -⟩
  rcases built.holds.add added with ⟨kindEq, holds⟩
  refine ⟨kindEq.trans built.kind, nameEq.trans built.name, holds, ?_, ?_⟩
  · rw [namesEq, List.nodup_append]
    refine ⟨built.distinct, by simp, ?_⟩
    rintro earlier mem last lastMem rfl
    rw [List.mem_singleton] at lastMem
    exact notTaken (lastMem ▸ mem)
  · intro entryName mem
    rw [namesEq, List.mem_append, List.mem_singleton] at mem
    rcases mem with mem | rfl
    · exact built.lowered entryName mem
    · exact Text.lowerFirst_lowerFirst entry.1

theorem add_of_free (usable : Usable declaration.kind entry.2)
    (free : Text.lowerFirst entry.1 ∉ declaration.entryNames) :
    ∃ extended, declaration.add entry.1 entry.2 = .ok extended := by
  cases declaration with
  | ofClass owner =>
      exact ⟨_, add_ofClass_eq_ok_iff.mpr ⟨_, Class.add_eq_ok_iff.mpr ⟨free, rfl⟩, rfl⟩⟩
  | ofEnum owner =>
      rcases usable rfl with ⟨number, isLiteral⟩
      have read := Text.readInteger_eq_ok_iff.mpr isLiteral
      have added := Enum.add_eq_ok_iff.mpr ⟨number, read, free, rfl⟩
      exact ⟨_, add_ofEnum_eq_ok_iff.mpr ⟨_, added, rfl⟩⟩

theorem add_of_taken (usable : Usable declaration.kind entry.2)
    (taken : Text.lowerFirst entry.1 ∈ declaration.entryNames) :
    declaration.add entry.1 entry.2 =
      .error (.duplicateName declaration.name (Text.lowerFirst entry.1)) := by
  cases declaration with
  | ofClass owner =>
      have notFresh := isFresh_eq_false_iff.mpr taken
      rw [entryNames] at notFresh
      simp [Declaration.add, Class.add, notFresh, Functor.map, Except.map, Declaration.name]
  | ofEnum owner =>
      rcases usable rfl with ⟨number, isLiteral⟩
      have notFresh := isFresh_eq_false_iff.mpr taken
      rw [entryNames] at notFresh
      simp [Declaration.add, Enum.add, Text.readInteger_eq_ok_iff.mpr isLiteral, notFresh,
        Functor.map, Except.map, Declaration.name]

/-- A literal that cannot be used is reported, whatever the name. -/
theorem add_of_not_usable (unusable : ¬Usable declaration.kind entry.2) :
    ∃ fault, Text.readInteger entry.2 = .error fault ∧
      declaration.add entry.1 entry.2 = .error (.invalidValue entry.1 entry.2 fault) := by
  cases declaration with
  | ofClass owner =>
      exfalso
      apply unusable
      intro isEnum
      simp [Declaration.kind] at isEnum
  | ofEnum owner =>
      cases read : Text.readInteger entry.2 with
      | ok number =>
          exfalso
          apply unusable
          intro _
          exact ⟨number, Text.readInteger_eq_ok_iff.mp read⟩
      | error fault =>
          refine ⟨fault, rfl, ?_⟩
          simp [Declaration.add, Enum.add, read, Functor.map, Except.map]

theorem insert_eq_ok_iff :
    (declaration.insert entry).1 = .ok () ↔
      Usable declaration.kind entry.2 ∧ Text.lowerFirst entry.1 ∉ declaration.entryNames := by
  constructor
  · intro answered
    cases added : declaration.add entry.1 entry.2 with
    | error cause => simp [insert_of_error added] at answered
    | ok extended =>
        refine ⟨?_, (parts_add added).2.1⟩
        by_contra unusable
        rcases add_of_not_usable unusable with ⟨fault, -, refused⟩
        simp [added] at refused
  · rintro ⟨usable, free⟩
    rcases add_of_free usable free with ⟨extended, added⟩
    rw [insert_of_ok added]

/-- Insertions one after the other extend what has been built by what is accepted of them. -/
theorem IsBuilt.insertAll {held : List (String × String)}
    (built : declaration.IsBuilt kind name held) (entries : List (String × String)) :
    (declaration.insertAll entries).IsBuilt kind name (held ++ declaration.accepted entries) := by
  induction entries generalizing declaration held with
  | nil => simpa [Declaration.insertAll, accepted] using built
  | cons entry rest ih =>
      cases added : declaration.add entry.1 entry.2 with
      | ok extended =>
          simpa [Declaration.insertAll, accepted, insert_of_ok added] using ih (built.add added)
      | error cause =>
          simpa [Declaration.insertAll, accepted, insert_of_error added] using ih built

end Insertion

/-- What is answered to one more insertion after insertions of which the given were accepted. -/
structure Answers (declaration : Declaration) (kind : Kind) (name : String)
    (held : List (String × String)) (entry : String × String) : Prop where
  accepts : (declaration.insert entry).1 = .ok () ↔
    Usable kind entry.2 ∧
      ∀ earlier ∈ held, Text.lowerFirst entry.1 ≠ Text.lowerFirst earlier.1
  keeps : ∀ cause, (declaration.insert entry).1 = .error cause →
    (declaration.insert entry).2 = declaration
  unusable : ¬Usable kind entry.2 → ∃ fault, Text.readInteger entry.2 = .error fault ∧
    (declaration.insert entry).1 = .error (.invalidValue entry.1 entry.2 fault)
  taken : Usable kind entry.2 → ∀ earlier ∈ held,
    Text.lowerFirst entry.1 = Text.lowerFirst earlier.1 →
    (declaration.insert entry).1 = .error (.duplicateName name (Text.lowerFirst entry.1))

theorem IsBuilt.answers {declaration : Declaration} {kind : Kind} {name : String}
    {held : List (String × String)} (built : declaration.IsBuilt kind name held)
    (entry : String × String) : declaration.Answers kind name held entry := by
  rcases built with ⟨rfl, rfl, holds, -, -⟩
  have taken_iff : Text.lowerFirst entry.1 ∈ declaration.entryNames ↔
      ∃ earlier ∈ held, Text.lowerFirst entry.1 = Text.lowerFirst earlier.1 := by
    simp [holds.entryNames, eq_comm]
  refine ⟨?_, ?_, ?_, ?_⟩
  · rw [insert_eq_ok_iff, taken_iff]
    simp
  · intro cause answered
    cases added : declaration.add entry.1 entry.2 with
    | ok extended => simp [insert_of_ok added] at answered
    | error found => rw [insert_of_error added]
  · intro unusable
    rcases add_of_not_usable unusable with ⟨fault, read, refused⟩
    exact ⟨fault, read, by rw [insert_of_error refused]⟩
  · intro usable earlier mem same
    rw [insert_of_error (add_of_taken usable (taken_iff.mpr ⟨earlier, mem, same⟩))]

/-- After any insertions into an empty declaration, it is built from the accepted ones, and the next
insertion is answered accordingly. -/
theorem insertAll_empty (kind : Kind) (name : String) (entries : List (String × String)) :
    ((empty kind name).insertAll entries).IsBuilt kind name
        ((empty kind name).accepted entries) ∧
      ∀ entry, ((empty kind name).insertAll entries).Answers kind name
        ((empty kind name).accepted entries) entry := by
  have built := (isBuilt_empty kind name).insertAll entries
  rw [List.nil_append] at built
  exact ⟨built, built.answers⟩

/-- Insertions of which the second has no integer and the third a name that is taken, since the
sign of the kelvin has the small letter `k`. -/
def someInsertions : List (String × String) :=
  [("\u212Aey", "1"), ("b", "x"), ("key", "2"), ("B", "-0")]

theorem insertAll_empty_someInsertions :
    (empty .enumKind "E").accepted someInsertions = [("\u212Aey", "1"), ("B", "-0")] ∧
      ((empty .enumKind "E").insertAll someInsertions).entryNames = ["key", "b"] ∧
      (((empty .enumKind "E").insertAll someInsertions).insert ("b", "")).1 =
        .error (.invalidValue "b" "" .empty) := by
  have acceptedEq : (empty .enumKind "E").accepted someInsertions =
      [("\u212Aey", "1"), ("B", "-0")] := by
    decide +kernel
  rcases insertAll_empty .enumKind "E" someInsertions with ⟨built, answers⟩
  have unread : Text.readInteger "" = .error .empty := by
    decide
  have unusable : ¬Usable .enumKind "" := by
    intro usable
    rcases usable rfl with ⟨number, isLiteral⟩
    rw [← Text.readInteger_eq_ok_iff, unread] at isLiteral
    simp at isLiteral
  rcases (answers ("b", "")).unusable unusable with ⟨fault, read, refused⟩
  rw [unread, Except.error.injEq] at read
  subst fault
  refine ⟨acceptedEq, ?_, refused⟩
  rw [built.holds.entryNames, acceptedEq]
  decide +kernel

end Declaration

end GenModel
