import GenModel.Proofs.Run.Places
import GenModel.Proofs.Run.Saves
import GenModel.Proofs.Source.RoundTrip

/-!
# What a run leaves on a disk

A run can be stopped anywhere: by a language that is not registered, by a target that cannot be
generated, by a folder that cannot be made or by a file that cannot be written. Whatever happens,
the run has saved a beginning of its sequence, and the disk differs from what it was by these files
and by folders on the way to them. Where several of the saved files have one place, the last one is
there. `run_directorySink` is the complete description.

The invariant is `Disk.Changes`: one save makes the changes of one file, and changes compose along
`Saving`.
-/

namespace GenModel

namespace Run

theorem outcome_writeFile (folder : String) (file : SourceFile) (disk : Disk) :
    outcome (Disk.host.writeFile folder file) disk =
      match disk.makeFolders folder with
      | (.error cause, reached) => (.error (.write folder cause), reached)
      | (.ok (), reached) =>
        match reached.write (Path.join folder file.name) file.code.toUTF8 with
        | .error cause => (.error (.write (Path.join folder file.name) cause), reached)
        | .ok written => (.ok (), written) := by
  rw [Host.writeFile, outcome_bind, outcome_lift]
  rcases made : disk.makeFolders folder with ⟨cause | _, reached⟩
  · simp only [Disk.host, made, outcome_throw]
  · cases written : reached.write (Path.join folder file.name) file.code.toUTF8 with
    | error cause =>
        simp only [Disk.host, made, outcome_bind, outcome_lift, written, outcome_throw]
    | ok next =>
        simp only [Disk.host, made, outcome_bind, outcome_lift, written]
        rfl

section Saves

variable {root : String} {generatedAt : Instant} {language : Language} {file : SourceFile}
  {disk next : Disk}

/-- A save makes the folders that it needs, as far as possible, and then writes its file or is
refused. -/
theorem save_directorySink_cases {result : Except Error Unit}
    (ended : outcome ((directorySink Disk.host root generatedAt).save language file) disk =
      (result, next)) :
    ∃ reached,
      Disk.Changes Disk.noFiles (disk.IsOnWay (outputFolder root generatedAt language.name)) disk
        reached ∧
      ((∃ error, result = .error error) ∧ next = reached ∨
        result = .ok () ∧
          reached.write (outputPath root generatedAt language file.name) file.code.toUTF8 =
            .ok next) := by
  have folders := disk.makeFolders_changes (outputFolder root generatedAt language.name)
  simp only [directorySink, outcome_writeFile] at ended
  rcases made : disk.makeFolders (outputFolder root generatedAt language.name) with
    ⟨cause | _, reached⟩
  · rw [made] at ended folders
    rcases ended with ⟨rfl, rfl⟩
    exact ⟨_, folders, Or.inl ⟨⟨_, rfl⟩, rfl⟩⟩
  · rw [made, ← outputPath] at ended
    rw [made] at folders
    cases written :
        reached.write (outputPath root generatedAt language file.name) file.code.toUTF8 with
    | error cause =>
        simp only [written] at ended
        rcases ended with ⟨rfl, rfl⟩
        exact ⟨_, folders, Or.inl ⟨⟨_, rfl⟩, rfl⟩⟩
    | ok later =>
        simp only [written] at ended
        rcases ended with ⟨rfl, rfl⟩
        exact ⟨reached, folders, Or.inr ⟨rfl, written⟩⟩

theorem changes_of_refused {error : Error}
    (refused : outcome ((directorySink Disk.host root generatedAt).save language file) disk =
      (.error error, next)) :
    Disk.Changes Disk.noFiles (disk.IsOnWay (outputFolder root generatedAt language.name)) disk
      next := by
  rcases save_directorySink_cases refused with ⟨reached, folders, ⟨-, rfl⟩ | ⟨ok, -⟩⟩
  · exact folders
  · simp at ok

theorem changes_of_saved (isName : Path.IsName file.name)
    (saved : outcome ((directorySink Disk.host root generatedAt).save language file) disk =
      (.ok (), next)) :
    Disk.Changes
        (Disk.oneFile (outputPlace generatedAt language (disk.place root) file.name)
          file.code.toUTF8)
        (disk.IsOnWay (outputFolder root generatedAt language.name)) disk next ∧
      next.read (outputPath root generatedAt language file.name) = .ok file.code.toUTF8 := by
  rcases save_directorySink_cases saved with ⟨reached, folders, ⟨⟨_, failed⟩, -⟩ | ⟨-, wrote⟩⟩
  · simp at failed
  · have written := Disk.write_changes
      (disk.IsOnWay (outputFolder root generatedAt language.name)) wrote
    rw [place_outputPath root generatedAt language reached isName,
      folders.keeps.place_eq] at written
    exact ⟨folders.trans written (by simp [Disk.noFiles]), Disk.read_of_write wrote⟩

/-- What is in a place when the pairs were saved: the code of the last one that has this place. -/
def contentAt (generatedAt : Instant) (base : Location) (pairs : List (Language × SourceFile))
    (location : Location) : Option ByteArray :=
  (pairs.reverse.find? fun pair =>
    outputPlace generatedAt pair.1 base pair.2.name = location).map fun pair => pair.2.code.toUTF8

theorem contentAt_cons (base : Location) (pair : Language × SourceFile)
    (rest : List (Language × SourceFile)) (location : Location) :
    contentAt generatedAt base (pair :: rest) location =
      (contentAt generatedAt base rest location).or
        (Disk.oneFile (outputPlace generatedAt pair.1 base pair.2.name) pair.2.code.toUTF8
          location) := by
  by_cases same : outputPlace generatedAt pair.1 base pair.2.name = location
  · simp [contentAt, Disk.oneFile, List.find?_append, same]
  · simp [contentAt, Disk.oneFile, List.find?_append, same, Ne.symm same]

theorem contentAt_eq_none_iff {base location : Location}
    {pairs : List (Language × SourceFile)} :
    contentAt generatedAt base pairs location = none ↔
      ∀ pair ∈ pairs, outputPlace generatedAt pair.1 base pair.2.name ≠ location := by
  simp [contentAt]

theorem contentAt_of_last {base : Location} {before after : List (Language × SourceFile)}
    (last : ∀ pair ∈ after, ¬(pair.1 = language ∧ pair.2.name = file.name)) :
    contentAt generatedAt base (before ++ (language, file) :: after)
        (outputPlace generatedAt language base file.name) = some file.code.toUTF8 := by
  have noneAfter : (after.reverse.find? fun pair =>
      outputPlace generatedAt pair.1 base pair.2.name =
        outputPlace generatedAt language base file.name) = none := by
    simp only [List.find?_eq_none, List.mem_reverse, decide_eq_true_eq]
    intro pair mem same
    exact last pair mem (outputPlace_inj same)
  simp [contentAt, List.find?_append, noneAfter]

end Saves

/-- What is left on a disk when files were saved, and folders were made for those that were
attempted. -/
structure Leaves (root : String) (generatedAt : Instant)
    (saved attempted : List (Language × SourceFile)) (disk final : Disk) : Prop where
  workplace : final.workplace = disk.workplace
  last : ∀ {before language file after}, saved = before ++ (language, file) :: after →
    (∀ pair ∈ after, ¬(pair.1 = language ∧ pair.2.name = file.name)) →
      final.node? (outputPlace generatedAt language (disk.place root) file.name) =
          some (.file file.code.toUTF8) ∧
        final.read (outputPath root generatedAt language file.name) = .ok file.code.toUTF8
  files : ∀ {location},
    (∀ pair ∈ saved, outputPlace generatedAt pair.1 (disk.place root) pair.2.name ≠ location) →
      ∀ content, final.node? location = some (.file content) ↔
        disk.node? location = some (.file content)
  folders : ∀ {location},
    (∀ pair ∈ saved, outputPlace generatedAt pair.1 (disk.place root) pair.2.name ≠ location) →
      final.node? location = disk.node? location ∨
        disk.node? location = none ∧ final.node? location = some .folder ∧
          ∃ pair ∈ attempted, disk.IsOnWay (outputFolder root generatedAt pair.1.name) location

namespace Saving

variable {root : String} {generatedAt : Instant} {pairs : List (Language × SourceFile)}
  {count : Nat} {disk final : Disk} {result : Except Error Unit}

/-- The saves of a run change the places of the files that are saved, and make folders on the way
to them and to the one that is refused. -/
theorem changes
    (saving : Saving (directorySink Disk.host root generatedAt) pairs count disk result final)
    (areNames : ∀ pair ∈ pairs, Path.IsName pair.2.name) :
    Disk.Changes (contentAt generatedAt (disk.place root) (pairs.take count))
      (fun location => ∃ pair ∈ pairs.take (count + 1),
        disk.IsOnWay (outputFolder root generatedAt pair.1.name) location) disk final := by
  induction saving with
  | done disk => exact .refl _ disk
  | @refused pair rest disk final error refused =>
      apply (changes_of_refused refused).mono
      intro location isOnWay
      exact ⟨pair, by simp, isOnWay⟩
  | @saved pair rest count disk next final result saved others ih =>
      rw [List.forall_mem_cons] at areNames
      have first := (changes_of_saved areNames.1 saved).1
      have later := ih areNames.2
      simp only [first.keeps.place_eq, first.keeps.isOnWay_eq] at later
      refine Disk.Changes.trans (first.mono ?_) (later.mono ?_) (contentAt_cons _ pair _)
      · intro location isOnWay
        exact ⟨pair, by simp, isOnWay⟩
      · rintro location ⟨other, mem, isOnWay⟩
        exact ⟨other, by simp [mem], isOnWay⟩

theorem readable
    (saving : Saving (directorySink Disk.host root generatedAt) pairs count disk result final)
    (areNames : ∀ pair ∈ pairs, Path.IsName pair.2.name) :
    ∀ pair ∈ pairs.take count,
      ∃ content, final.read (outputPath root generatedAt pair.1 pair.2.name) = .ok content := by
  induction saving with
  | done => simp
  | refused => simp
  | saved saved others ih =>
      rw [List.forall_mem_cons] at areNames
      rw [List.take_succ_cons, List.forall_mem_cons]
      refine ⟨?_, ih areNames.2⟩
      exact (others.changes areNames.2).read (changes_of_saved areNames.1 saved).2

theorem leaves
    (saving : Saving (directorySink Disk.host root generatedAt) pairs count disk result final)
    (areNames : ∀ pair ∈ pairs, Path.IsName pair.2.name) :
    Leaves root generatedAt (pairs.take count) (pairs.take (count + 1)) disk final := by
  have changes := saving.changes areNames
  refine ⟨changes.workplace, ?_, ?_, ?_⟩
  · intro before language file after split isLast
    have mem : (language, file) ∈ pairs.take count := by simp [split]
    have isName := areNames _ (List.mem_of_mem_take mem)
    have there : final.node? (outputPlace generatedAt language (disk.place root) file.name) =
        some (.file file.code.toUTF8) := by
      apply (changes.written _).2
      rw [split]
      exact contentAt_of_last isLast
    refine ⟨there, ?_⟩
    rcases saving.readable areNames _ mem with ⟨content, readBack⟩
    apply (Disk.Keeps.refl final).read readBack
    rw [place_outputPath root generatedAt language final isName, changes.keeps.place_eq]
    exact there
  · intro location elsewhere
    exact changes.isFile_iff (contentAt_eq_none_iff.mpr elsewhere)
  · intro location elsewhere
    exact changes.other (contentAt_eq_none_iff.mpr elsewhere)

end Saving

/-- What a run of a model that was read leaves on any disk: the beginning of its sequence is saved,
the last of several files for one place is there, and everything else is as it was, except for new
folders on the way. All files are named for a declaration and lie in the folders of their languages
and the time. -/
theorem run_directorySink {text : String} {model : List Declaration}
    (parsed : Source.parse text = .ok model) (root : String) (targets : List Target)
    (generatedAt : Instant) (disk : Disk) :
    ∃ count saved result final,
      outcome (run Registry.defaults (directorySink Disk.host root generatedAt) model targets
        generatedAt) disk = (result, final) ∧
      Saving (directorySink Disk.host root generatedAt)
        (saveSequence Registry.defaults model generatedAt targets) count disk saved final ∧
      (∀ files, result = .ok files → count = files) ∧
      (∀ error, saved = .error error → result = .error error) ∧
      Leaves root generatedAt
        ((saveSequence Registry.defaults model generatedAt targets).take count)
        ((saveSequence Registry.defaults model generatedAt targets).take (count + 1)) disk final ∧
      (∀ pair ∈ saveSequence Registry.defaults model generatedAt targets,
        ∃ declaration ∈ model, Source.Identifier declaration.name ∧
          pair.2.name = declaration.name ++ "." ++ pair.1.extension) ∧
      ∀ location content,
        (∀ language ∈ ["go", "kotlin", "csharp", "typescript"],
          ¬disk.place root ++ [language, generatedAt.directoryStamp] <+: location) →
        (final.node? location = some (.file content) ↔
          disk.node? location = some (.file content)) := by
  rcases ended : outcome (run Registry.defaults (directorySink Disk.host root generatedAt) model
    targets generatedAt) disk with ⟨result, final⟩
  rcases exists_saving_of_run (fun _ _ _ => rfl) ended with
    ⟨count, saved, saving, counted, refused⟩
  have named : ∀ pair ∈ saveSequence Registry.defaults model generatedAt targets,
      ∃ declaration ∈ model, Source.Identifier declaration.name ∧
        pair.2.name = pair.1.fileName declaration.name := by
    intro pair mem
    rcases exists_of_mem_saveSequence mem with ⟨declaration, declarationMem, name⟩
    have wellFormed := Source.wellFormed_of_parse parsed declaration declarationMem
    exact ⟨declaration, declarationMem, wellFormed.identifier, name⟩
  have areNames : ∀ pair ∈ saveSequence Registry.defaults model generatedAt targets,
      Path.IsName pair.2.name := by
    intro pair mem
    rcases named pair mem with ⟨declaration, -, identifier, name⟩
    rw [name]
    exact pair.1.isName_fileName identifier
  have leaves := saving.leaves areNames
  refine ⟨count, saved, result, final, rfl, saving, counted, refused, leaves, named, ?_⟩
  intro location content outside
  apply leaves.files
  rintro pair mem rfl
  apply outside pair.1.name
  · cases pair.1 <;> decide
  · exact isPrefix_outputPlace ..

/-- Two targets with one language. -/
def aliases : List Target :=
  [⟨"csharp", none⟩, ⟨"c#", some "B"⟩]

theorem run_directorySink_aliases :
    Source.parse "class A\n\x7b\n\x7d\n" = .ok [.ofClass ⟨"A", []⟩] ∧
      ∃ final,
        outcome (run Registry.defaults (directorySink Disk.host "out" newYear)
          [.ofClass ⟨"A", []⟩] aliases newYear) (Disk.blank ["home"]) = (.ok 2, final) ∧
        Leaves "out" newYear
          ((saveSequence Registry.defaults [.ofClass ⟨"A", []⟩] newYear aliases).take 2)
          ((saveSequence Registry.defaults [.ofClass ⟨"A", []⟩] newYear aliases).take 3)
          (Disk.blank ["home"]) final := by
  have parsed : Source.parse "class A\n\x7b\n\x7d\n" = .ok [.ofClass ⟨"A", []⟩] := by
    decide +kernel
  have two : (outcome (run Registry.defaults (directorySink Disk.host "out" newYear)
      [.ofClass ⟨"A", []⟩] aliases newYear) (Disk.blank ["home"])).1 = .ok 2 := by
    decide +kernel
  rcases run_directorySink parsed "out" aliases newYear (Disk.blank ["home"]) with
    ⟨count, saved, result, final, ended, -, counted, -, leaves, -⟩
  rw [ended] at two
  simp only at two
  subst result
  have countEq := counted 2 rfl
  subst count
  exact ⟨parsed, final, ended, leaves⟩

end Run

end GenModel
