import GenModel.Proofs.Render.Constants
import GenModel.Proofs.Text.Words

/-!
# Constants that are identifiers

Kotlin and C# put the constants of an enum together from the letters and digits of the names of its
values. If a name is an identifier, its constant holds nothing that an identifier cannot hold. But
the underscores at the beginning of the name are lost, and a digit may follow them: `_1` becomes
`1`, and nothing fails. In no other way does an identifier lead to a constant that is none
(`constants_identifiers_iff`).
-/

namespace GenModel

namespace Source

/-- The first character of the name other than an underscore is a digit: the pattern
`_*[0-9].*`. -/
def IsNumbered (name : String) : Prop :=
  ∃ c ∈ name.toList.find? (· != '_'), c.isDigit = true

instance (name : String) : Decidable (IsNumbered name) :=
  decidable_of_iff ((name.toList.find? (· != '_')).any Char.isDigit = true)
    (by simp [IsNumbered, Option.any_eq_true])

theorem asciiCodes_spelled :
    ∀ code < 128, isIdentifierRest (Char.ofNat code) = true →
      Text.isAlphanumeric (Char.ofNat code) = (Char.ofNat code != '_') ∧
      (Text.upper (Char.ofNat code)).all isIdentifierRest = true ∧
      (Text.lower (Char.ofNat code)).all isIdentifierRest = true ∧
      (Text.upper (Char.ofNat code)).head?.map isIdentifierStart =
        some !(Char.ofNat code).isDigit := by
  decide +kernel

/-- What becomes of a character of an identifier when the identifier is spelled anew: everything but
the underscore is kept, in either case it is such a character again, and a digit is what does not
begin with a letter. -/
structure IsSpelled (c : Char) : Prop where
  kept : Text.isAlphanumeric c = (c != '_')
  raised : ∀ x ∈ Text.upper c, IsLetterOrDigit x
  lowered : ∀ x ∈ Text.lower c, IsLetterOrDigit x
  first : ∀ x ∈ (Text.upper c).head?, (IsLetter x ↔ ¬c.isDigit = true)

theorem IsLetterOrDigit.isSpelled {c : Char} (isLetterOrDigit : IsLetterOrDigit c) :
    IsSpelled c := by
  have below : c.toNat ≤ 0x7E := (isGraphic_of_isLetterOrDigit isLetterOrDigit).2
  have table := asciiCodes_spelled c.toNat (by omega)
  rw [Char.ofNat_toNat] at table
  rcases table (isIdentifierRest_iff.mpr isLetterOrDigit) with ⟨kept, raised, lowered, first⟩
  refine ⟨kept, ?_, ?_, ?_⟩
  · intro x mem
    exact isIdentifierRest_iff.mp (List.all_eq_true.mp raised x mem)
  · intro x mem
    exact isIdentifierRest_iff.mp (List.all_eq_true.mp lowered x mem)
  · intro x mem
    rw [Option.mem_def] at mem
    rw [mem, Option.map_some, Option.some.injEq] at first
    rw [← isIdentifierStart_iff, first]
    simp

section Names

variable {name : String}

theorem find?_isAlphanumeric (written : ∀ c ∈ name.toList, IsLetterOrDigit c) :
    name.toList.find? Text.isAlphanumeric = name.toList.find? (· != '_') := by
  rw [← List.head?_filter, ← List.head?_filter]
  congr 1
  apply List.filter_congr
  intro c mem
  exact (written c mem).isSpelled.kept

theorem identifier_iff_head? (written : ∀ c ∈ name.toList, IsLetterOrDigit c) :
    Identifier name ↔ ∃ first ∈ name.toList.head?, IsLetter first := by
  cases characters : name.toList with
  | nil => simp [Identifier, characters]
  | cons first rest =>
      rw [characters, List.forall_mem_cons] at written
      simp only [Identifier, characters, List.cons.injEq, List.head?_cons, Option.mem_some_iff]
      constructor
      · rintro ⟨_, _, ⟨rfl, rfl⟩, isLetter, -⟩
        exact ⟨first, rfl, isLetter⟩
      · rintro ⟨_, rfl, isLetter⟩
        exact ⟨first, rest, ⟨rfl, rfl⟩, isLetter, written.2⟩

theorem isLetterOrDigit_shoutySnake (written : ∀ c ∈ name.toList, IsLetterOrDigit c) :
    ∀ x ∈ (Text.shoutySnake name).toList, IsLetterOrDigit x := by
  apply Text.forall_mem_shoutySnake
  · exact Or.inl (Or.inr (Or.inr rfl))
  · intro c mem
    exact (written c mem).isSpelled.raised

theorem isLetterOrDigit_upperCamel (written : ∀ c ∈ name.toList, IsLetterOrDigit c) :
    ∀ x ∈ (Text.upperCamel name).toList, IsLetterOrDigit x := by
  apply Text.forall_mem_upperCamel
  · intro c mem
    exact (written c mem).isSpelled.raised
  · intro c mem
    exact (written c mem).isSpelled.lowered
  · intro sigmaMem
    exact absurd rfl ((written 'Σ' sigmaMem).ne_of_not_rest (by decide))

/-- What begins with the first capital of a name begins with a letter exactly if the name is not
numbered. -/
theorem isLetter_firstCapital?_iff (written : ∀ c ∈ name.toList, IsLetterOrDigit c) {first : Char}
    (isFirst : Text.firstCapital? name = some first) : IsLetter first ↔ ¬IsNumbered name := by
  rcases Option.bind_eq_some_iff.mp isFirst with ⟨c, found, capital⟩
  have mem : c ∈ name.toList := List.mem_of_find?_eq_some found
  rw [find?_isAlphanumeric written] at found
  rw [(written c mem).isSpelled.first first capital, IsNumbered, found]
  simp

end Names

end Source

namespace Language

variable {language : Language} {spell : String → String}

theorem head?_ownSpelling (spelled : language.ownSpelling? = some spell) (name : String) :
    (spell name).toList.head? = Text.firstCapital? name := by
  rcases ownSpelling?_eq_some spelled with ⟨rfl, rfl⟩ | ⟨rfl, rfl⟩
  · exact Text.head?_shoutySnake name
  · exact Text.head?_upperCamel name

theorem isLetterOrDigit_ownSpelling (spelled : language.ownSpelling? = some spell) {name : String}
    (written : ∀ c ∈ name.toList, Source.IsLetterOrDigit c) :
    ∀ x ∈ (spell name).toList, Source.IsLetterOrDigit x := by
  rcases ownSpelling?_eq_some spelled with ⟨rfl, rfl⟩ | ⟨rfl, rfl⟩
  · exact Source.isLetterOrDigit_shoutySnake written
  · exact Source.isLetterOrDigit_upperCamel written

theorem identifier_ownSpelling_iff (spelled : language.ownSpelling? = some spell) {name : String}
    (written : ∀ c ∈ name.toList, Source.IsLetterOrDigit c) (usable : spell name ≠ "") :
    Source.Identifier (spell name) ↔ ¬Source.IsNumbered name := by
  have begins := head?_ownSpelling spelled name
  rw [Source.identifier_iff_head? (isLetterOrDigit_ownSpelling spelled written), begins]
  cases isFirst : Text.firstCapital? name with
  | none =>
      rw [isFirst, List.head?_eq_none_iff, String.toList_eq_nil_iff] at begins
      exact absurd begins usable
  | some first =>
      rw [← Source.isLetter_firstCapital?_iff written isFirst]
      simp

theorem ownSpelling_ne_empty (spelled : language.ownSpelling? = some spell) {settings : Settings}
    {owner : Enum} {file : SourceFile}
    (generated : language.generate settings (.ofEnum owner) = .ok file) {entry : EnumValue}
    (mem : entry ∈ owner.values) : spell entry.name ≠ "" := by
  rcases generate_cases spelled (.ofEnum owner) with ⟨clear, -⟩ | ⟨_, _, -, -, -, failed⟩
  · intro empty
    rcases List.append_of_mem mem with ⟨before, after, split⟩
    exact clear owner rfl ⟨before, entry, after, split, Or.inl empty⟩
  · rw [failed settings] at generated
    simp at generated

/-- Where the names of an enum are identifiers and its file is generated, every constant consists of
letters, digits and underscores, and it is an identifier exactly if its name is not numbered. -/
theorem constants_identifiers_iff (spelled : language.ownSpelling? = some spell)
    {settings : Settings} {owner : Enum}
    (identifiers : ∀ entry ∈ owner.values, Source.Identifier entry.name) {file : SourceFile}
    (generated : language.generate settings (.ofEnum owner) = .ok file) :
    file.code = language.enumText settings owner (owner.values.map fun entry =>
      language.constantLine (Text.upperFirst owner.name) (spell entry.name, entry.value)) ∧
    ∀ entry ∈ owner.values, spell entry.name ≠ "" ∧
      (∀ c ∈ (spell entry.name).toList, Source.IsLetterOrDigit c) ∧
      (Source.Identifier (spell entry.name) ↔ ¬Source.IsNumbered entry.name) := by
  refine ⟨code_of_generate spelled generated, ?_⟩
  intro entry mem
  have written := (identifiers entry mem).isLetterOrDigit
  have usable := ownSpelling_ne_empty spelled generated mem
  exact ⟨usable, isLetterOrDigit_ownSpelling spelled written,
    identifier_ownSpelling_iff spelled written usable⟩

/-- An enum with two names that begin with underscores, one of them with a digit after these. -/
def oneNumbered : Enum :=
  ⟨"A", [⟨"__x1", 1⟩, ⟨"_2b", 2⟩]⟩

theorem constants_identifiers_iff_oneNumbered :
    (∀ entry ∈ oneNumbered.values, Source.Identifier entry.name) ∧
      ∀ settings : Settings, ∃ file,
        csharp.generate settings (.ofEnum oneNumbered) = .ok file ∧
        file.code = csharp.enumText settings oneNumbered ["\tX1 = 1", "\t2b = 2"] ∧
        Source.Identifier (Text.upperCamel "__x1") ∧
        ¬Source.Identifier (Text.upperCamel "_2b") := by
  have identifiers : ∀ entry ∈ oneNumbered.values, Source.Identifier entry.name := by
    decide
  have found : oneNumbered.constants csharp Text.upperCamel = .ok ["X1", "2b"] := by
    decide +kernel
  have constantLines : (oneNumbered.values.map fun entry => csharp.constantLine
      (Text.upperFirst oneNumbered.name) (Text.upperCamel entry.name, entry.value)) =
        ["\tX1 = 1", "\t2b = 2"] := by
    decide +kernel
  refine ⟨identifiers, ?_⟩
  intro settings
  rcases exists_generate_of_constants rfl found settings with ⟨file, generated⟩
  rcases constants_identifiers_iff rfl identifiers generated with ⟨code, described⟩
  rw [constantLines] at code
  refine ⟨file, generated, code, ?_, ?_⟩
  · exact (described ⟨"__x1", 1⟩ (by decide)).2.2.mpr (by decide)
  · exact fun identifier => (described ⟨"_2b", 2⟩ (by decide)).2.2.mp identifier (by decide)

/-- An enum whose only name has a digit after its underscore. -/
def numberedName : Enum :=
  ⟨"A", [⟨"_1", 1⟩]⟩

/-- The name of a value is an identifier, its constant is not, and nothing fails. -/
theorem constants_not_identifiers_numberedName :
    Source.parse "enum A\n\x7b\n_1 1\n\x7d\n" = .ok [.ofEnum numberedName] ∧
    (∀ entry ∈ numberedName.values, Source.Identifier entry.name) ∧
    ¬Source.Identifier (Text.shoutySnake "_1") ∧ ¬Source.Identifier (Text.upperCamel "_1") ∧
    ∀ settings : Settings,
      (∃ file, kotlin.generate settings (.ofEnum numberedName) = .ok file ∧
        file.code = kotlin.enumText settings numberedName ["\t1(1)"]) ∧
      ∃ file, csharp.generate settings (.ofEnum numberedName) = .ok file ∧
        file.code = csharp.enumText settings numberedName ["\t1 = 1"] := by
  refine ⟨by decide +kernel, by decide, by decide +kernel, by decide +kernel, ?_⟩
  intro settings
  have kotlinFound : numberedName.constants kotlin Text.shoutySnake = .ok ["1"] := by
    decide +kernel
  have csharpFound : numberedName.constants csharp Text.upperCamel = .ok ["1"] := by
    decide +kernel
  have kotlinLines : (numberedName.values.map fun entry => kotlin.constantLine
      (Text.upperFirst numberedName.name) (Text.shoutySnake entry.name, entry.value)) =
        ["\t1(1)"] := by
    decide +kernel
  have csharpLines : (numberedName.values.map fun entry => csharp.constantLine
      (Text.upperFirst numberedName.name) (Text.upperCamel entry.name, entry.value)) =
        ["\t1 = 1"] := by
    decide +kernel
  rcases exists_generate_of_constants rfl kotlinFound settings with ⟨kotlinFile, kotlinGenerated⟩
  rcases exists_generate_of_constants rfl csharpFound settings with ⟨csharpFile, csharpGenerated⟩
  rw [← kotlinLines, ← csharpLines]
  exact ⟨⟨kotlinFile, kotlinGenerated, code_of_generate rfl kotlinGenerated⟩,
    csharpFile, csharpGenerated, code_of_generate rfl csharpGenerated⟩

end Language

end GenModel
