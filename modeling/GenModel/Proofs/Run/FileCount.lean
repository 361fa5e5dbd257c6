import GenModel.Proofs.Render.Constants
import GenModel.Proofs.Run.OnDisk
import Mathlib.Data.Finset.Dedup
import Mathlib.Data.Set.Card

/-!
# How many files a run leaves

A file is named for its declaration, and nothing keeps two declarations of a model from having one
name. A run below a root without files reports a file for each declaration, and leaves a file for
each name that a declaration has. So the files are as many as the run reports exactly if the
declarations have distinct names (`run_leaves_count_iff`).
-/

namespace GenModel

namespace Language

theorem fileName_injective (language : Language) : Function.Injective language.fileName := by
  intro name other same
  simpa only [fileName, String.append_left_inj] using same

/-- The files of a model have the names of its declarations, in order. -/
theorem names_of_generateAll {language : Language} {settings : Settings}
    {model : List Declaration} {files : List SourceFile}
    (generated : language.generateAll settings model = .ok files) :
    files.map SourceFile.name = (model.map Declaration.name).map language.fileName := by
  have related := mapM_eq_ok_iff.mp generated
  clear generated
  induction related with
  | nil => rfl
  | cons fileGenerated _ ih =>
      rw [List.map_cons, List.map_cons, List.map_cons, ih, name_of_generate fileGenerated]
      rfl

theorem nodup_names_iff_of_generateAll {language : Language} {settings : Settings}
    {model : List Declaration} {files : List SourceFile}
    (generated : language.generateAll settings model = .ok files) :
    (files.map SourceFile.name).Nodup ↔ (model.map Declaration.name).Nodup := by
  rw [names_of_generateAll generated, List.nodup_map_iff language.fileName_injective]

end Language

namespace Disk

/-- The locations of the files that lie at or below a location. -/
def filesBelow (disk : Disk) (base : Location) : Set Location :=
  {location | base <+: location ∧ ∃ content, disk.node? location = some (.file content)}

theorem filesBelow_blank (workplace base : Location) : (blank workplace).filesBelow base = ∅ := by
  rw [Set.eq_empty_iff_forall_notMem]
  rintro location ⟨-, content, file⟩
  rw [node?] at file
  split at file
  · simp at file
  · rcases List.lookup_eq_some_iff.mp file with ⟨front, back, nodes, -⟩
    have mem : (location, Node.file content) ∈ (blank workplace).nodes := by
      simp [nodes]
    simp [blank] at mem

end Disk

namespace Run

variable {root : String} {savedAt generatedAt : Instant} {disk final : Disk}

/-- Below a root without files there are then the places of the saved files. -/
theorem filesBelow_of_saveEach {pairs : List (Language × SourceFile)}
    (areNames : ∀ pair ∈ pairs, Path.IsName pair.2.name)
    (isEmpty : disk.filesBelow (disk.place root) = ∅)
    (ended : outcome (saveEach (directorySink Disk.host root savedAt) pairs) disk =
      (.ok (), final)) :
    final.filesBelow (disk.place root) =
      {location | ∃ pair ∈ pairs,
        outputPlace savedAt pair.1 (disk.place root) pair.2.name = location} := by
  rcases Saving.exists_of_outcome ended with ⟨count, saving⟩
  have changes := saving.changes areNames
  rw [saving.count_of_ok, List.take_length] at changes
  ext location
  constructor
  · rintro ⟨isBelow, content, file⟩
    by_contra elsewhere
    rw [Set.mem_ofPred_eq, not_exists] at elsewhere
    have unwritten : contentAt savedAt (disk.place root) pairs location = none := by
      rw [contentAt_eq_none_iff]
      intro pair mem same
      exact elsewhere pair ⟨mem, same⟩
    have before := (changes.isFile_iff unwritten content).mp file
    have mem : location ∈ disk.filesBelow (disk.place root) := ⟨isBelow, content, before⟩
    simp [isEmpty] at mem
  · rintro ⟨pair, mem, rfl⟩
    refine ⟨⟨_, rfl⟩, ?_⟩
    cases written : contentAt savedAt (disk.place root) pairs
        (outputPlace savedAt pair.1 (disk.place root) pair.2.name) with
    | none => exact absurd rfl (contentAt_eq_none_iff.mp written pair mem)
    | some content => exact ⟨content, (changes.written written).2⟩

/-- The place of the file for a declaration, seen from the place of the root. -/
def filePlace (savedAt : Instant) (language : Language) (base : Location)
    (declarationName : String) : Location :=
  outputPlace savedAt language base (language.fileName declarationName)

theorem filePlace_injective {language : Language} {base : Location} :
    Function.Injective (filePlace savedAt language base) := by
  intro name other same
  apply language.fileName_injective
  exact (outputPlace_inj same).2

section OneTarget

variable {registry : Registry} {model : List Declaration} {target : Target} {count : Nat}

/-- A run of one target saves the files of one language. -/
theorem exists_saveEach_of_run
    (ended : outcome (run registry (directorySink Disk.host root savedAt) model [target]
      generatedAt) disk = (.ok count, final)) :
    ∃ language files, filesOf model generatedAt target language = .ok files ∧
      count = files.length ∧
      outcome (saveEach (directorySink Disk.host root savedAt)
        (files.map fun file => (language, file))) disk = (.ok (), final) := by
  rcases (outcome_run_eq_ok_iff fun _ _ _ => rfl).mp ended with
    ⟨resolved, found, generated, counted, saved⟩
  rcases List.forall₂_cons_left_iff.mp (resolve_eq_ok_iff.mp found) with
    ⟨⟨resolvedTarget, language⟩, others, ⟨targetEq, -⟩, related, rfl⟩
  simp only at targetEq
  rw [List.forall₂_nil_left_iff.mp related, targetEq] at generated counted saved
  cases result : filesOf model generatedAt target language with
  | error error =>
      have failed : failure? model generatedAt [(target, language)] = some error :=
        failure?_cons_error result
      simp [failed] at generated
  | ok files =>
      have savesEq : saves model generatedAt [(target, language)] =
          files.map (fun file => (language, file)) ++ saves model generatedAt [] :=
        saves_cons_ok result
      rw [savesEq, saves, List.takeWhile_nil, List.flatMap_nil, List.append_nil] at counted saved
      exact ⟨language, files, result, by rw [counted, List.length_map], saved⟩

/-- The places of the files of a model are those for the names of its declarations. -/
theorem places_of_filesOf {language : Language} {files : List SourceFile} {base : Location}
    (generated : filesOf model generatedAt target language = .ok files) :
    {location | ∃ pair ∈ files.map fun file => (language, file),
        outputPlace savedAt pair.1 base pair.2.name = location} =
      filePlace savedAt language base '' ((model.map Declaration.name).toFinset : Set String) := by
  ext location
  constructor
  · rintro ⟨pair, mem, rfl⟩
    rcases List.mem_map.mp mem with ⟨file, fileMem, rfl⟩
    rcases exists_of_mem_filesOf generated fileMem with ⟨declaration, declarationMem, name⟩
    refine ⟨declaration.name, ?_, by rw [filePlace, name]⟩
    simpa using ⟨declaration, declarationMem, rfl⟩
  · rintro ⟨name, nameMem, rfl⟩
    have fileName : language.fileName name ∈ files.map SourceFile.name := by
      rw [Language.names_of_generateAll generated]
      exact List.mem_map_of_mem (by simpa using nameMem)
    rcases List.mem_map.mp fileName with ⟨file, fileMem, nameEq⟩
    exact ⟨(language, file), List.mem_map_of_mem fileMem, by rw [filePlace, nameEq]⟩

/-- A run of one target leaves one file for each name of a declaration. -/
theorem ncard_filesBelow_of_run {text : String} (parsed : Source.parse text = .ok model)
    (isEmpty : disk.filesBelow (disk.place root) = ∅)
    (ended : outcome (run registry (directorySink Disk.host root savedAt) model [target]
      generatedAt) disk = (.ok count, final)) :
    count = model.length ∧
      (final.filesBelow (disk.place root)).ncard =
        (model.map Declaration.name).toFinset.card := by
  rcases exists_saveEach_of_run ended with ⟨language, files, generated, counted, saved⟩
  have areNames : ∀ pair ∈ files.map fun file => (language, file), Path.IsName pair.2.name := by
    rw [List.forall_mem_map]
    intro file mem
    rcases exists_of_mem_filesOf generated mem with ⟨declaration, declarationMem, name⟩
    rw [name]
    apply language.isName_fileName
    exact (Source.wellFormed_of_parse parsed declaration declarationMem).identifier
  refine ⟨counted.trans (length_filesOf generated), ?_⟩
  rw [filesBelow_of_saveEach areNames isEmpty saved, places_of_filesOf generated,
    Set.ncard_image_of_injective _ filePlace_injective, Set.ncard_coe_finset]

end OneTarget

/-- The files of a model have distinct names exactly if its declarations do, and a run of one target
leaves as many files below a root without files as it reports exactly then: it reports one for each
declaration and leaves one for each name. -/
theorem run_leaves_count_iff {text : String} {model : List Declaration}
    (parsed : Source.parse text = .ok model) :
    (∀ (language : Language) (settings : Settings) (files : List SourceFile),
      language.generateAll settings model = .ok files →
        ((files.map SourceFile.name).Nodup ↔ (model.map Declaration.name).Nodup)) ∧
    ∀ (registry : Registry) (target : Target) (root : String) (savedAt generatedAt : Instant)
      (disk final : Disk) (count : Nat), disk.filesBelow (disk.place root) = ∅ →
      outcome (run registry (directorySink Disk.host root savedAt) model [target] generatedAt)
        disk = (.ok count, final) →
      count = model.length ∧
        (final.filesBelow (disk.place root)).ncard =
          (model.map Declaration.name).toFinset.card ∧
        ((final.filesBelow (disk.place root)).ncard = count ↔
          (model.map Declaration.name).Nodup) := by
  constructor
  · intro language settings files generated
    exact Language.nodup_names_iff_of_generateAll generated
  · intro registry target root savedAt generatedAt disk final count isEmpty ended
    rcases ncard_filesBelow_of_run parsed isEmpty ended with ⟨counted, left⟩
    refine ⟨counted, left, ?_⟩
    rw [left, counted, ← List.length_map Declaration.name]
    exact Multiset.toFinset_card_eq_card_iff_nodup

theorem exists_final_of_result {State α : Type} {action : ExceptT Error (StateM State) α}
    {state : State} {value : α} (succeeds : (outcome action state).1 = .ok value) :
    ∃ final, outcome action state = (.ok value, final) :=
  ⟨(outcome action state).2, Prod.ext succeeds rfl⟩

/-- A class and an enum with different names. -/
def twoNames : List Declaration :=
  [.ofClass ⟨"A", []⟩, .ofEnum ⟨"a", []⟩]

theorem run_leaves_count_iff_twoNames :
    Source.parse "class A\n\x7b\n\x7d\nenum a\n\x7b\n\x7d\n" = .ok twoNames ∧
      ∃ final,
        outcome (run Registry.defaults (directorySink Disk.host "out" newYear) twoNames
          [⟨"go", none⟩] newYear) (Disk.blank ["home"]) = (.ok 2, final) ∧
        (final.filesBelow ((Disk.blank ["home"]).place "out")).ncard = 2 := by
  have parsed : Source.parse "class A\n\x7b\n\x7d\nenum a\n\x7b\n\x7d\n" = .ok twoNames := by
    decide +kernel
  have succeeds : ∃ final,
      outcome (run Registry.defaults (directorySink Disk.host "out" newYear) twoNames
        [⟨"go", none⟩] newYear) (Disk.blank ["home"]) = (.ok 2, final) :=
    exists_final_of_result (by decide +kernel)
  rcases succeeds with ⟨final, ended⟩
  have described := (run_leaves_count_iff parsed).2 Registry.defaults ⟨"go", none⟩ "out" newYear
    newYear (Disk.blank ["home"]) final 2 (Disk.filesBelow_blank _ _) ended
  exact ⟨parsed, final, ended, described.2.2.mpr (by decide)⟩

/-- A class and an enum with one name. -/
def oneName : List Declaration :=
  [.ofClass ⟨"A", []⟩, .ofEnum ⟨"A", []⟩]

/-- The file of the enum takes the place of the file of the class, and the run reports both. -/
theorem run_leaves_less_oneName :
    Source.parse "class A\n\x7b\n\x7d\nenum A\n\x7b\n\x7d\n" = .ok oneName ∧
      (Language.go.generateAll ⟨none, newYear⟩ oneName).map (List.map SourceFile.name) =
        .ok ["A.go", "A.go"] ∧
      ∃ final,
        outcome (run Registry.defaults (directorySink Disk.host "out" newYear) oneName
          [⟨"go", none⟩] newYear) (Disk.blank ["home"]) = (.ok 2, final) ∧
        (final.filesBelow ((Disk.blank ["home"]).place "out")).ncard = 1 := by
  have parsed : Source.parse "class A\n\x7b\n\x7d\nenum A\n\x7b\n\x7d\n" = .ok oneName := by
    decide +kernel
  have succeeds : ∃ final,
      outcome (run Registry.defaults (directorySink Disk.host "out" newYear) oneName
        [⟨"go", none⟩] newYear) (Disk.blank ["home"]) = (.ok 2, final) :=
    exists_final_of_result (by decide +kernel)
  rcases succeeds with ⟨final, ended⟩
  refine ⟨parsed, by decide +kernel, final, ended, ?_⟩
  rw [(ncard_filesBelow_of_run parsed (Disk.filesBelow_blank _ _) ended).2]
  decide

end Run

end GenModel
