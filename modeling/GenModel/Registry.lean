import GenModel.Error
import GenModel.Text.Quoted

/-!
# Registries

A registry gives generators the names under which they can be requested. A name stands for the
generator that was registered under it last. The names are kept in increasing order.

What a generator is does not matter to a registry. The usual ones are the built-in languages.
-/

namespace GenModel

/-- Names of generators, in increasing order. -/
structure Registry (Generator : Type := Language) where
  entries : List (String × Generator)
  sorted : (entries.map Prod.fst).Pairwise (· < ·)
  deriving DecidableEq, Repr

namespace Registry

variable {Generator : Type}

/-- The registry without names. -/
def empty : Registry Generator :=
  ⟨[], .nil⟩

/-- The entries with one more, which replaces an entry of the same name. -/
def insert (name : String) (generator : Generator) :
    List (String × Generator) → List (String × Generator)
  | [] => [(name, generator)]
  | (other, otherGenerator) :: rest =>
    if name < other then (name, generator) :: (other, otherGenerator) :: rest
    else if name = other then (name, generator) :: rest
    else (other, otherGenerator) :: insert name generator rest

section Insert

variable {name other : String} {generator : Generator} {entries : List (String × Generator)}

theorem mem_insert :
    other ∈ (insert name generator entries).map Prod.fst ↔
      other = name ∨ other ∈ entries.map Prod.fst := by
  induction entries with
  | nil => simp [insert]
  | cons entry rest ih =>
    rw [insert]
    split
    · simp
    · split
      · next same => simp [same]
      · rw [List.map_cons, List.mem_cons, ih, List.map_cons, List.mem_cons, or_left_comm]

/-- An insertion keeps the names in increasing order. -/
theorem pairwise_insert (sorted : (entries.map Prod.fst).Pairwise (· < ·)) :
    ((insert name generator entries).map Prod.fst).Pairwise (· < ·) := by
  induction entries with
  | nil => simp [insert]
  | cons entry rest ih =>
    have restSorted := List.pairwise_cons.mp sorted
    rw [insert]
    split
    · next before =>
      refine List.pairwise_cons.mpr ⟨?_, sorted⟩
      intro later mem
      rcases List.mem_cons.mp mem with rfl | restMem
      · exact before
      · exact String.lt_trans before (restSorted.1 later restMem)
    · next notBefore =>
      split
      · next same =>
        subst same
        exact sorted
      · next different =>
        refine List.pairwise_cons.mpr ⟨?_, ih restSorted.2⟩
        intro later mem
        rcases mem_insert.mp mem with rfl | restMem
        · exact Std.lt_of_le_of_ne (String.not_lt.mp notBefore) (Ne.symm different)
        · exact restSorted.1 later restMem

theorem lookup_insert (name other : String) (generator : Generator)
    (entries : List (String × Generator)) :
    (insert name generator entries).lookup other =
      if other = name then some generator else entries.lookup other := by
  induction entries with
  | nil =>
    by_cases same : other = name
    · simp [insert, same]
    · simp [insert, List.lookup_cons, same, beq_eq_false_iff_ne.mpr same]
  | cons entry rest ih =>
    obtain ⟨found, foundGenerator⟩ := entry
    by_cases before : name < found
    · by_cases same : other = name
      · simp [insert, before, same]
      · simp [insert, List.lookup_cons, before, same, beq_eq_false_iff_ne.mpr same]
    · by_cases equal : name = found
      · subst equal
        by_cases same : other = name
        · simp [insert, same]
        · simp [insert, List.lookup_cons, same, beq_eq_false_iff_ne.mpr same]
      · by_cases same : other = found
        · subst same
          simp [insert, before, equal, Ne.symm equal]
        · simp [insert, List.lookup_cons, before, equal, beq_eq_false_iff_ne.mpr same, ih]

end Insert

/-- The registry in which the name stands for the generator. -/
def register (registry : Registry Generator) (name : String) (generator : Generator) :
    Registry Generator :=
  ⟨insert name generator registry.entries, pairwise_insert registry.sorted⟩

/-- The registry of all languages under their usual names. -/
def defaults : Registry :=
  empty
    |>.register "go" .go
    |>.register "kotlin" .kotlin
    |>.register "typescript" .typescript
    |>.register "csharp" .csharp
    |>.register "c#" .csharp

/-- The generator that the name stands for. -/
def find (registry : Registry Generator) (name : String) : Except Error Generator :=
  match registry.entries.lookup name with
  | some generator => .ok generator
  | none => .error (.unsupportedLanguage name)

/-- A name stands for the generator that was registered under it last. -/
theorem find_register (registry : Registry Generator) (name other : String)
    (generator : Generator) :
    (registry.register name generator).find other =
      if other = name then .ok generator else registry.find other := by
  simp only [find, register, lookup_insert]
  by_cases same : other = name <;> simp [same]

/-- The names in increasing order. -/
def names (registry : Registry Generator) : List String :=
  registry.entries.map Prod.fst

theorem mem_names_register {registry : Registry Generator} {name other : String}
    {generator : Generator} :
    other ∈ (registry.register name generator).names ↔ other = name ∨ other ∈ registry.names :=
  mem_insert

/-- The registry as it is shown to a developer. -/
def description (registry : Registry Generator) : String :=
  "GeneratorRegistry \x7b languages: [" ++ ", ".intercalate (registry.names.map Text.quoted) ++
    "] \x7d"

end Registry

end GenModel
