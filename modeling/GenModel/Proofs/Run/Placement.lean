import GenModel.Proofs.Disk.Making
import GenModel.Proofs.Run.OnDisk

/-!
# What it takes to save files

The folder of the root is made by the first save and found by the others; `Settles` is the disk on
which it has been made. From there on every save has three places of its own, below the place of the
root: the folder of its language, the folder of the time in it and the file. `Fits` says what has to
be true of these places. A save that fits puts its file and its folders where they belong, and it
neither makes a save fit that did not nor the other way round. So a list of files can be saved
exactly if each of them fits the disk on which the root has been made, whatever the order is, and
`Holds` says what is there afterwards.
-/

namespace GenModel

namespace Path

theorem endsWithSlash_join {name : String} (isName : IsName name) (base : String) :
    endsWithSlash (join base name) = false := by
  have nonempty : name.toList ≠ [] := by
    rw [Ne, String.toList_eq_nil_iff]
    exact isName.nonempty
  have last : ∀ front : String, endsWithSlash (front ++ name) = false := by
    intro front
    rw [endsWithSlash, String.toList_append, List.getLast?_append_of_ne_nil _ nonempty,
      List.getLast?_eq_some_getLast nonempty, beq_eq_false_iff_ne]
    intro slash
    rw [Option.some.injEq] at slash
    exact isName.noSlash (slash ▸ List.getLast_mem nonempty)
  rw [isName.join_eq]
  split_ifs
  · exact last base
  · exact last (base ++ "/")

end Path

namespace Disk

/-- A folder can be at the location: there is one, or there is nothing. -/
def Admits (disk : Disk) (location : Location) : Prop :=
  ∀ content, disk.node? location ≠ some (.file content)

section Folders

variable {disk later : Disk} {location : Location}

theorem node?_withFolder_of_ne (belowRoot : location ≠ []) {other : Location}
    (different : other ≠ location) :
    (disk.withFolder location).node? other = disk.node? other := by
  cases found : disk.node? location with
  | none => simp [withFolder_of_none found, node?_put disk belowRoot, different]
  | some node => rw [withFolder_of_isSome (by simp [found])]

theorem node?_withFolder (belowRoot : location ≠ []) (admits : disk.Admits location)
    (other : Location) :
    (disk.withFolder location).node? other =
      if other = location then some .folder else disk.node? other := by
  split_ifs with same
  · subst other
    cases found : disk.node? location with
    | none => simp [withFolder_of_none found, node?_put disk belowRoot]
    | some node =>
        rw [withFolder_of_isSome (by simp [found])]
        cases node with
        | folder => exact found
        | file content => exact absurd found (admits content)
  · exact node?_withFolder_of_ne belowRoot same

theorem isFolder_withFolder_iff (belowRoot : location ≠ []) :
    (disk.withFolder location).isFolder location = true ↔ disk.Admits location := by
  constructor
  · intro folder content file
    rw [withFolder_of_isSome (by simp [file]), isFolder_iff, file] at folder
    simp at folder
  · intro admits
    simp [isFolder_iff, node?_withFolder belowRoot admits]

@[simp]
theorem workplace_withFolder (disk : Disk) (location : Location) :
    (disk.withFolder location).workplace = disk.workplace := by
  rw [withFolder]
  split_ifs <;> rfl

theorem place_of_workplace (same : later.workplace = disk.workplace) (path : String) :
    later.place path = disk.place path := by
  simp [place, start, same]

theorem makeAlong_nil_eq_some_iff :
    disk.makeAlong location [] = some later ↔ disk.isFolder location = true ∧ disk = later := by
  simp [makeAlong]

theorem makeAlong_cons_eq_some_iff {name : String} (isName : Path.IsName name)
    {rest : List String} :
    disk.makeAlong location (name :: rest) = some later ↔
      disk.isFolder location = true ∧ isTooLong name = false ∧
        (disk.withFolder (location ++ [name])).makeAlong (location ++ [name]) rest =
          some later := by
  cases long : isTooLong name <;>
    simp [makeAlong, opened?, enter, isName.notDot, isName.notDots, long]

end Folders

end Disk

namespace Run

variable (root : String) (generatedAt : Instant)

/-- The folder of a language, seen from the place of the root. -/
def languagePlace (language : Language) (base : Location) : Location :=
  base ++ [language.name]

/-- The folder of a language and a time, seen from the place of the root. -/
def stampPlace (language : Language) (base : Location) : Location :=
  base ++ [language.name, generatedAt.directoryStamp]

/-- The root is made on the disk. -/
def Settles (disk settled : Disk) : Prop :=
  disk.makeAlong (disk.start root) (Path.segments root) = some settled

/-- What the places of a file have to be like for it to be saved, once the root is made. -/
structure Fits (disk : Disk) (pair : Language × SourceFile) : Prop where
  acceptedFolder : Disk.refusal? (outputFolder root generatedAt pair.1.name) = none
  acceptedPath : Disk.refusal? (outputPath root generatedAt pair.1 pair.2.name) = none
  short : Disk.isTooLong pair.1.name = false ∧ Disk.isTooLong generatedAt.directoryStamp = false ∧
    Disk.isTooLong pair.2.name = false
  language : disk.Admits (languagePlace pair.1 (disk.place root))
  stamp : disk.Admits (stampPlace generatedAt pair.1 (disk.place root))
  file : disk.isFolder (outputPlace generatedAt pair.1 (disk.place root) pair.2.name) = false

/-- The disk with the folders of a language and the time. -/
def prepared (disk : Disk) (language : Language) : Disk :=
  (disk.withFolder (languagePlace language (disk.place root))).withFolder
    (stampPlace generatedAt language (disk.place root))

/-- The disk with a file and its folders in their places. -/
def placed (disk : Disk) (pair : Language × SourceFile) : Disk :=
  (prepared root generatedAt disk pair.1).put
    (outputPlace generatedAt pair.1 (disk.place root) pair.2.name) (.file pair.2.code.toUTF8)

section Places

variable {root generatedAt} {disk settled : Disk}

theorem Settles.keeps (settles : Settles root disk settled) : Disk.Keeps disk settled :=
  Disk.makeAlong_keeps settles

theorem Settles.walked (settles : Settles root disk settled) :
    settled.walkFolders (settled.start root) (Path.segments root) = .ok (settled.place root) := by
  rw [settles.keeps.start_eq, Disk.walkFolders_of_makeAlong settles, Disk.place,
    settles.keeps.start_eq]

/-- Where the root can be walked, nothing has to be made. -/
theorem settles_self_iff :
    Settles root disk disk ↔
      disk.walkFolders (disk.start root) (Path.segments root) = .ok (disk.place root) :=
  ⟨Settles.walked, Disk.makeAlong_of_walkFolders⟩

theorem Settles.unique {other : Disk} (settles : Settles root disk settled)
    (settlesOther : Settles root disk other) : settled = other := by
  rw [Settles, settles] at settlesOther
  exact Option.some.inj settlesOther

theorem outcome_save_eq_ok_iff {language : Language} {file : SourceFile} {next : Disk} :
    outcome ((directorySink Disk.host root generatedAt).save language file) disk = (.ok (), next) ↔
      ∃ reached,
        disk.makeFolders (outputFolder root generatedAt language.name) = (.ok (), reached) ∧
        reached.write (outputPath root generatedAt language file.name) file.code.toUTF8 =
          .ok next := by
  simp only [directorySink, outcome_writeFile]
  rcases disk.makeFolders (outputFolder root generatedAt language.name) with ⟨cause | _, reached⟩
  · simp
  · simp only [outputPath, Prod.mk.injEq, true_and, exists_eq_left']
    cases reached.write (Path.join (outputFolder root generatedAt language.name) file.name)
      file.code.toUTF8 <;> simp

theorem destination_stamp (disk : Disk) (language : Language) :
    Disk.destination (disk.start root)
        (Path.segments root ++ [language.name, generatedAt.directoryStamp]) =
      stampPlace generatedAt language (disk.place root) := by
  have folder := language.isName_name
  have stamp := generatedAt.isName_directoryStamp
  have split : Path.segments root ++ [language.name, generatedAt.directoryStamp] =
      Path.segments root ++ [language.name] ++ [generatedAt.directoryStamp] := by simp
  rw [split, Disk.destination_concat stamp.notDot stamp.notDots,
    Disk.destination_concat folder.notDot folder.notDots, stampPlace, Disk.place]
  simp

theorem makeFolders_outputFolder_eq_ok_iff {language : Language} {reached : Disk} :
    disk.makeFolders (outputFolder root generatedAt language.name) = (.ok (), reached) ↔
      Disk.refusal? (outputFolder root generatedAt language.name) = none ∧
      disk.makeAlong (disk.start root)
        (Path.segments root ++ [language.name, generatedAt.directoryStamp]) = some reached := by
  have segments : Path.segments (outputFolder root generatedAt language.name) =
      (Path.segments root ++ [language.name]) ++ [generatedAt.directoryStamp] := by
    rw [segments_outputFolder]
    simp
  rw [Disk.makeFolders_eq_ok_iff segments generatedAt.isName_directoryStamp.notDot,
    start_outputFolder, segments_outputFolder]

/-- The folders of a file are made if the root is, and if their places admit them. -/
theorem makeFolders_outputFolder_iff {language : Language} {reached : Disk} :
    disk.makeFolders (outputFolder root generatedAt language.name) = (.ok (), reached) ↔
      Disk.refusal? (outputFolder root generatedAt language.name) = none ∧
      ∃ settled, Settles root disk settled ∧
        (Disk.isTooLong language.name = false ∧
          settled.Admits (languagePlace language (settled.place root))) ∧
        (Disk.isTooLong generatedAt.directoryStamp = false ∧
          settled.Admits (stampPlace generatedAt language (settled.place root))) ∧
        reached = prepared root generatedAt settled language := by
  rw [makeFolders_outputFolder_eq_ok_iff, Disk.makeAlong_append, Option.bind_eq_some_iff]
  refine and_congr_right fun _ => exists_congr fun settled => and_congr_right fun settles => ?_
  have base : Disk.destination (disk.start root) (Path.segments root) = settled.place root := by
    rw [Disk.place, Settles.keeps settles |>.start_eq]
  have isFolder : settled.isFolder (settled.place root) = true :=
    (Disk.walkFolders_eq_ok_iff.mp (Settles.walked settles)).2
  have stampAdmits : (settled.withFolder (languagePlace language (settled.place root))).Admits
        (stampPlace generatedAt language (settled.place root)) ↔
      settled.Admits (stampPlace generatedAt language (settled.place root)) := by
    simp only [Disk.Admits]
    rw [Disk.node?_withFolder_of_ne (by simp [languagePlace]) (by simp [languagePlace, stampPlace])]
  rw [base, Disk.makeAlong_cons_eq_some_iff language.isName_name,
    Disk.makeAlong_cons_eq_some_iff generatedAt.isName_directoryStamp,
    Disk.makeAlong_nil_eq_some_iff, List.append_assoc, List.singleton_append, ← languagePlace,
    ← stampPlace,
    Disk.isFolder_withFolder_iff (by simp [languagePlace]),
    Disk.isFolder_withFolder_iff (by simp [stampPlace]), stampAdmits]
  simp only [isFolder, true_and, and_assoc, eq_comm, prepared]

/-- In its folders a file is written if its name is not too long and no folder is in its place. -/
theorem write_outputPath_iff {language : Language} {file : SourceFile} {next : Disk}
    (isName : Path.IsName file.name)
    (walked : disk.walkFolders (disk.start root)
        (Path.segments root ++ [language.name, generatedAt.directoryStamp]) =
      .ok (stampPlace generatedAt language (disk.place root))) :
    disk.write (outputPath root generatedAt language file.name) file.code.toUTF8 = .ok next ↔
      Disk.refusal? (outputPath root generatedAt language file.name) = none ∧
      Disk.isTooLong file.name = false ∧
      disk.isFolder (outputPlace generatedAt language (disk.place root) file.name) = false ∧
      next = disk.put (outputPlace generatedAt language (disk.place root) file.name)
        (.file file.code.toUTF8) := by
  have segments : Path.segments (outputPath root generatedAt language file.name) =
      (Path.segments root ++ [language.name, generatedAt.directoryStamp]) ++ [file.name] := by
    rw [outputPath, Path.segments_join isName, segments_outputFolder]
  have start : disk.start (outputPath root generatedAt language file.name) = disk.start root := by
    rw [Disk.start, outputPath, Path.isAbsolute_join isName, ← Disk.start, start_outputFolder]
  have place : stampPlace generatedAt language (disk.place root) ++ [file.name] =
      outputPlace generatedAt language (disk.place root) file.name := by
    simp [stampPlace, outputPlace]
  rw [Disk.write_eq_ok_iff, start]
  constructor
  · rintro ⟨accepted, -, names, name, folder, split, walkedNames, ⟨-, -, short⟩, notFolder, rfl⟩
    rw [segments] at split
    rcases List.append_inj' split rfl with ⟨rfl, nameEq⟩
    rw [List.cons.injEq] at nameEq
    rw [walked, Except.ok.injEq] at walkedNames
    subst folder
    rw [← nameEq.1, place] at notFolder ⊢
    exact ⟨accepted, nameEq.1 ▸ short, notFolder, rfl⟩
  · rintro ⟨accepted, short, notFolder, rfl⟩
    refine ⟨accepted, Path.endsWithSlash_join isName _, _, file.name, _, segments, walked,
      ⟨isName.notDot, isName.notDots, short⟩, ?_, ?_⟩
    · rw [place]
      exact notFolder
    · rw [place]

theorem walkFolders_of_makeFolders {language : Language} {reached : Disk}
    (made : disk.makeFolders (outputFolder root generatedAt language.name) = (.ok (), reached)) :
    reached.walkFolders (reached.start root)
        (Path.segments root ++ [language.name, generatedAt.directoryStamp]) =
      .ok (stampPlace generatedAt language (reached.place root)) := by
  rw [makeFolders_outputFolder_eq_ok_iff] at made
  rw [(Disk.makeAlong_keeps made.2).start_eq, Disk.walkFolders_of_makeAlong made.2,
    destination_stamp, (Disk.makeAlong_keeps made.2).place_eq]

theorem place_prepared (disk : Disk) (language : Language) :
    (prepared root generatedAt disk language).place root = disk.place root :=
  Disk.place_of_workplace (by simp [prepared]) root

theorem isFolder_prepared_outputPlace (disk : Disk) (language : Language) (fileName : String) :
    (prepared root generatedAt disk language).isFolder
        (outputPlace generatedAt language (disk.place root) fileName) =
      disk.isFolder (outputPlace generatedAt language (disk.place root) fileName) := by
  rw [Disk.isFolder, prepared,
    Disk.node?_withFolder_of_ne (by simp [stampPlace]) (by simp [stampPlace, outputPlace]),
    Disk.node?_withFolder_of_ne (by simp [languagePlace]) (by simp [languagePlace, outputPlace]),
    ← Disk.isFolder]

/-- A file is saved if the root can be made and the file fits the disk on which it is made. -/
theorem save_eq_ok_iff {pair : Language × SourceFile} {next : Disk}
    (isName : Path.IsName pair.2.name) :
    outcome ((directorySink Disk.host root generatedAt).save pair.1 pair.2) disk =
        (.ok (), next) ↔
      ∃ settled, Settles root disk settled ∧ Fits root generatedAt settled pair ∧
        next = placed root generatedAt settled pair := by
  rw [outcome_save_eq_ok_iff]
  constructor
  · rintro ⟨reached, made, written⟩
    rw [write_outputPath_iff isName (walkFolders_of_makeFolders made)] at written
    rcases makeFolders_outputFolder_iff.mp made with
      ⟨acceptedFolder, settled, settles, ⟨shortLanguage, language⟩, ⟨shortStamp, stamp⟩, rfl⟩
    rcases written with ⟨acceptedPath, shortFile, notFolder, rfl⟩
    rw [place_prepared] at notFolder ⊢
    rw [isFolder_prepared_outputPlace] at notFolder
    exact ⟨settled, settles, ⟨acceptedFolder, acceptedPath, ⟨shortLanguage, shortStamp, shortFile⟩,
      language, stamp, notFolder⟩, rfl⟩
  · rintro ⟨settled, settles, fits, rfl⟩
    rcases fits.short with ⟨shortLanguage, shortStamp, shortFile⟩
    have made : disk.makeFolders (outputFolder root generatedAt pair.1.name) =
        (.ok (), prepared root generatedAt settled pair.1) :=
      makeFolders_outputFolder_iff.mpr ⟨fits.acceptedFolder, settled, settles,
        ⟨shortLanguage, fits.language⟩, ⟨shortStamp, fits.stamp⟩, rfl⟩
    refine ⟨_, made, ?_⟩
    rw [write_outputPath_iff isName (walkFolders_of_makeFolders made), place_prepared,
      isFolder_prepared_outputPlace]
    exact ⟨fits.acceptedPath, shortFile, fits.file, rfl⟩

theorem Settles.self (settles : Settles root disk settled) : Settles root settled settled :=
  settles_self_iff.mpr settles.walked

theorem Settles.of_keeps {later : Disk} (settles : Settles root disk disk)
    (keeps : Disk.Keeps disk later) : Settles root later later := by
  rw [settles_self_iff] at settles ⊢
  rw [keeps.start_eq, keeps.place_eq]
  exact keeps.walkFolders settles

end Places

/-- The location is a folder of one of the files. -/
def IsFolderOf (base : Location) (pairs : List (Language × SourceFile)) (location : Location) :
    Prop :=
  ∃ pair ∈ pairs,
    location = languagePlace pair.1 base ∨ location = stampPlace generatedAt pair.1 base

/-- What is on a disk after files were saved: the last file of each place, the folders of the files,
and everything else as it was. -/
structure Holds (pairs : List (Language × SourceFile)) (disk final : Disk) : Prop where
  workplace : final.workplace = disk.workplace
  file : ∀ {location content},
    contentAt generatedAt (disk.place root) pairs location = some content →
      final.node? location = some (.file content)
  folder : ∀ {location}, IsFolderOf generatedAt (disk.place root) pairs location →
    final.node? location = some .folder
  other : ∀ {location}, contentAt generatedAt (disk.place root) pairs location = none →
    ¬IsFolderOf generatedAt (disk.place root) pairs location →
      final.node? location = disk.node? location

section Holding

variable {root generatedAt} {disk final : Disk} {pairs rest : List (Language × SourceFile)}
  {pair : Language × SourceFile} {base location : Location}

theorem not_isFolderOf_outputPlace {language : Language} {fileName : String} :
    ¬IsFolderOf generatedAt base pairs (outputPlace generatedAt language base fileName) := by
  rintro ⟨pair, -, same | same⟩
  · simp [outputPlace, languagePlace] at same
  · simp [outputPlace, stampPlace] at same

theorem contentAt_of_isFolderOf {others : List (Language × SourceFile)}
    (isFolder : IsFolderOf generatedAt base others location) :
    contentAt generatedAt base pairs location = none := by
  rw [contentAt_eq_none_iff]
  rintro pair - rfl
  exact not_isFolderOf_outputPlace isFolder

theorem place_placed (disk : Disk) (pair : Language × SourceFile) :
    (placed root generatedAt disk pair).place root = disk.place root :=
  Disk.place_of_workplace (by simp [placed, prepared, Disk.put]) root

theorem node?_placed (fits : Fits root generatedAt disk pair) (location : Location) :
    (placed root generatedAt disk pair).node? location =
      if location = outputPlace generatedAt pair.1 (disk.place root) pair.2.name then
        some (.file pair.2.code.toUTF8)
      else if location = languagePlace pair.1 (disk.place root) ∨
          location = stampPlace generatedAt pair.1 (disk.place root) then some .folder
      else disk.node? location := by
  have stamp : (disk.withFolder (languagePlace pair.1 (disk.place root))).Admits
      (stampPlace generatedAt pair.1 (disk.place root)) := by
    intro content
    rw [Disk.node?_withFolder_of_ne (by simp [languagePlace]) (by simp [languagePlace, stampPlace])]
    exact fits.stamp content
  rw [placed, Disk.node?_put _ (by simp [outputPlace]), prepared,
    Disk.node?_withFolder (by simp [stampPlace]) stamp,
    Disk.node?_withFolder (by simp [languagePlace]) fits.language]
  by_cases language : location = languagePlace pair.1 (disk.place root) <;> simp [language]

theorem isFolderOf_cons_iff :
    IsFolderOf generatedAt base (pair :: rest) location ↔
      (location = languagePlace pair.1 base ∨ location = stampPlace generatedAt pair.1 base) ∨
        IsFolderOf generatedAt base rest location := by
  simp [IsFolderOf]

theorem holds_nil (disk : Disk) : Holds root generatedAt [] disk disk := by
  refine ⟨rfl, ?_, ?_, fun _ _ => rfl⟩
  · intro location content found
    simp [contentAt] at found
  · rintro location ⟨pair, mem, -⟩
    simp at mem

theorem Holds.cons (fits : Fits root generatedAt disk pair)
    (holds : Holds root generatedAt rest (placed root generatedAt disk pair) final) :
    Holds root generatedAt (pair :: rest) disk final := by
  have fileOf := @holds.file
  have folderOf := @holds.folder
  have otherOf := @holds.other
  rw [place_placed] at fileOf folderOf otherOf
  refine ⟨?_, ?_, ?_, ?_⟩
  · rw [holds.workplace]
    simp [placed, prepared, Disk.put]
  · intro location content found
    rw [contentAt_cons] at found
    cases later : contentAt generatedAt (disk.place root) rest location with
    | some changed =>
        rw [later, Option.some_or, Option.some.injEq] at found
        rw [← found]
        exact fileOf later
    | none =>
        rw [later, Option.none_or, Disk.oneFile, Option.ite_none_right_eq_some,
          Option.some.injEq] at found
        rcases found with ⟨rfl, rfl⟩
        rw [otherOf later not_isFolderOf_outputPlace, node?_placed fits, if_pos rfl]
  · intro location isFolder
    by_cases later : IsFolderOf generatedAt (disk.place root) rest location
    · exact folderOf later
    · have notPlace :
          location ≠ outputPlace generatedAt pair.1 (disk.place root) pair.2.name := by
        rintro rfl
        exact not_isFolderOf_outputPlace isFolder
      rw [otherOf (contentAt_of_isFolderOf isFolder) later, node?_placed fits, if_neg notPlace]
      rw [isFolderOf_cons_iff, or_iff_left later] at isFolder
      rw [if_pos isFolder]
  · intro location unwritten notFolder
    rw [contentAt_cons, Option.or_eq_none_iff] at unwritten
    rw [isFolderOf_cons_iff, not_or] at notFolder
    have notPlace : location ≠ outputPlace generatedAt pair.1 (disk.place root) pair.2.name := by
      simpa [Disk.oneFile] using unwritten.2
    rw [otherOf unwritten.1 notFolder.2, node?_placed fits, if_neg notPlace, if_neg notFolder.1]

theorem exists_of_contentAt {content : ByteArray}
    (found : contentAt generatedAt base pairs location = some content) :
    ∃ pair ∈ pairs, outputPlace generatedAt pair.1 base pair.2.name = location := by
  by_contra unwritten
  simp only [not_exists, not_and] at unwritten
  rw [contentAt_eq_none_iff.mpr unwritten] at found
  simp at found

theorem isFolder_of_contentAt (fits : ∀ pair ∈ pairs, Fits root generatedAt disk pair)
    {content : ByteArray}
    (found : contentAt generatedAt (disk.place root) pairs location = some content) :
    disk.isFolder location = false := by
  rcases exists_of_contentAt found with ⟨pair, mem, rfl⟩
  exact (fits pair mem).file

theorem admits_of_isFolderOf (fits : ∀ pair ∈ pairs, Fits root generatedAt disk pair)
    (isFolder : IsFolderOf generatedAt (disk.place root) pairs location) :
    disk.Admits location := by
  rcases isFolder with ⟨pair, mem, rfl | rfl⟩
  · exact (fits pair mem).language
  · exact (fits pair mem).stamp

namespace Holds

theorem place_eq (holds : Holds root generatedAt pairs disk final) :
    final.place root = disk.place root :=
  Disk.place_of_workplace holds.workplace root

theorem keeps (holds : Holds root generatedAt pairs disk final)
    (fits : ∀ pair ∈ pairs, Fits root generatedAt disk pair) : Disk.Keeps disk final := by
  refine ⟨holds.workplace, ?_, ?_⟩
  · intro location present
    cases found : contentAt generatedAt (disk.place root) pairs location with
    | some content => simp [holds.file found]
    | none =>
        by_cases isFolder : IsFolderOf generatedAt (disk.place root) pairs location
        · simp [holds.folder isFolder]
        · rw [holds.other found isFolder]
          exact present
  · intro location folder
    cases found : contentAt generatedAt (disk.place root) pairs location with
    | some content => simp [isFolder_of_contentAt fits found] at folder
    | none =>
        rw [Disk.isFolder_iff] at folder ⊢
        by_cases isFolder : IsFolderOf generatedAt (disk.place root) pairs location
        · exact holds.folder isFolder
        · rw [holds.other found isFolder, folder]

theorem admits_iff (holds : Holds root generatedAt pairs disk final)
    (fits : ∀ pair ∈ pairs, Fits root generatedAt disk pair)
    (unwritten : contentAt generatedAt (disk.place root) pairs location = none) :
    final.Admits location ↔ disk.Admits location := by
  by_cases isFolder : IsFolderOf generatedAt (disk.place root) pairs location
  · have admits : final.Admits location := by
      simp [Disk.Admits, holds.folder isFolder]
    exact iff_of_true admits (admits_of_isFolderOf fits isFolder)
  · simp only [Disk.Admits, holds.other unwritten isFolder]

theorem isFolder_outputPlace (holds : Holds root generatedAt pairs disk final)
    (fits : ∀ pair ∈ pairs, Fits root generatedAt disk pair) (language : Language)
    (fileName : String) :
    final.isFolder (outputPlace generatedAt language (disk.place root) fileName) =
      disk.isFolder (outputPlace generatedAt language (disk.place root) fileName) := by
  cases found : contentAt generatedAt (disk.place root) pairs
      (outputPlace generatedAt language (disk.place root) fileName) with
  | some content =>
      rw [isFolder_of_contentAt fits found, Disk.isFolder, holds.file found]
  | none =>
      rw [Disk.isFolder, holds.other found not_isFolderOf_outputPlace, ← Disk.isFolder]

/-- Saving files that fit changes nothing about which files fit. -/
theorem fits_iff (holds : Holds root generatedAt pairs disk final)
    (fits : ∀ pair ∈ pairs, Fits root generatedAt disk pair) {other : Language × SourceFile} :
    Fits root generatedAt final other ↔ Fits root generatedAt disk other := by
  have language := @holds.admits_iff _ _ _ _ _ (languagePlace other.1 (disk.place root)) fits
    (contentAt_of_isFolderOf ⟨other, List.mem_singleton_self other, Or.inl rfl⟩)
  have stamp := @holds.admits_iff _ _ _ _ _ (stampPlace generatedAt other.1 (disk.place root)) fits
    (contentAt_of_isFolderOf ⟨other, List.mem_singleton_self other, Or.inr rfl⟩)
  have file := holds.isFolder_outputPlace fits other.1 other.2.name
  constructor
  · intro fitsFinal
    have languageFinal := fitsFinal.language
    have stampFinal := fitsFinal.stamp
    have fileFinal := fitsFinal.file
    rw [holds.place_eq] at languageFinal stampFinal fileFinal
    exact ⟨fitsFinal.acceptedFolder, fitsFinal.acceptedPath, fitsFinal.short,
      language.mp languageFinal, stamp.mp stampFinal, file.symm.trans fileFinal⟩
  · intro fitsDisk
    refine ⟨fitsDisk.acceptedFolder, fitsDisk.acceptedPath, fitsDisk.short, ?_, ?_, ?_⟩
    · rw [holds.place_eq]
      exact language.mpr fitsDisk.language
    · rw [holds.place_eq]
      exact stamp.mpr fitsDisk.stamp
    · rw [holds.place_eq]
      exact file.trans fitsDisk.file

end Holds

theorem holds_placed (fits : Fits root generatedAt disk pair) :
    Holds root generatedAt [pair] disk (placed root generatedAt disk pair) :=
  .cons fits (holds_nil _)

theorem fits_placed_iff (fits : Fits root generatedAt disk pair) {other : Language × SourceFile} :
    Fits root generatedAt (placed root generatedAt disk pair) other ↔
      Fits root generatedAt disk other := by
  apply (holds_placed fits).fits_iff
  simpa using fits

theorem holds_foldl (fits : ∀ pair ∈ pairs, Fits root generatedAt disk pair) :
    Holds root generatedAt pairs disk (pairs.foldl (placed root generatedAt) disk) := by
  induction pairs generalizing disk with
  | nil => exact holds_nil disk
  | cons pair rest ih =>
      rw [List.forall_mem_cons] at fits
      apply Holds.cons fits.1
      apply ih
      intro other mem
      exact (fits_placed_iff fits.1).mpr (fits.2 other mem)

theorem saveEach_cons_eq_ok_iff (isName : Path.IsName pair.2.name) :
    outcome (saveEach (directorySink Disk.host root generatedAt) (pair :: rest)) disk =
        (.ok (), final) ↔
      ∃ settled, Settles root disk settled ∧ Fits root generatedAt settled pair ∧
        outcome (saveEach (directorySink Disk.host root generatedAt) rest)
          (placed root generatedAt settled pair) = (.ok (), final) := by
  rw [outcome_saveEach_cons_eq_ok_iff]
  simp only [save_eq_ok_iff isName]
  constructor
  · rintro ⟨_, ⟨settled, settles, fits, rfl⟩, others⟩
    exact ⟨settled, settles, fits, others⟩
  · rintro ⟨settled, settles, fits, others⟩
    exact ⟨_, ⟨settled, settles, fits, rfl⟩, others⟩

theorem settles_placed (settles : Settles root disk disk)
    (fits : Fits root generatedAt disk pair) :
    Settles root (placed root generatedAt disk pair) (placed root generatedAt disk pair) := by
  apply settles.of_keeps
  apply (holds_placed fits).keeps
  simpa using fits

theorem saveEach_eq_ok_iff_of_settles (settles : Settles root disk disk)
    (areNames : ∀ pair ∈ pairs, Path.IsName pair.2.name) :
    outcome (saveEach (directorySink Disk.host root generatedAt) pairs) disk = (.ok (), final) ↔
      (∀ pair ∈ pairs, Fits root generatedAt disk pair) ∧
        pairs.foldl (placed root generatedAt) disk = final := by
  induction pairs generalizing disk with
  | nil => simp [saveEach]
  | cons pair rest ih =>
      rw [List.forall_mem_cons] at areNames
      rw [saveEach_cons_eq_ok_iff areNames.1, List.forall_mem_cons, List.foldl_cons]
      constructor
      · rintro ⟨settled, settlesToo, fits, others⟩
        rcases settles.unique settlesToo with rfl
        rw [ih (settles_placed settles fits) areNames.2] at others
        simp only [fits_placed_iff fits] at others
        exact ⟨⟨fits, others.1⟩, others.2⟩
      · rintro ⟨⟨fits, othersFit⟩, foldEq⟩
        refine ⟨disk, settles, fits, ?_⟩
        rw [ih (settles_placed settles fits) areNames.2]
        simp only [fits_placed_iff fits]
        exact ⟨othersFit, foldEq⟩

/-- Files can be saved exactly if each of them fits the disk on which the root has been made. -/
theorem saveEach_eq_ok_iff (areNames : ∀ pair ∈ pairs, Path.IsName pair.2.name)
    (nonempty : pairs ≠ []) :
    outcome (saveEach (directorySink Disk.host root generatedAt) pairs) disk = (.ok (), final) ↔
      ∃ settled, Settles root disk settled ∧
        (∀ pair ∈ pairs, Fits root generatedAt settled pair) ∧
        pairs.foldl (placed root generatedAt) settled = final := by
  cases pairs with
  | nil => exact absurd rfl nonempty
  | cons pair rest =>
      have isName := areNames pair List.mem_cons_self
      constructor
      · intro saved
        rcases (saveEach_cons_eq_ok_iff isName).mp saved with ⟨settled, settles, others⟩
        refine ⟨settled, settles, (saveEach_eq_ok_iff_of_settles settles.self areNames).mp ?_⟩
        exact (saveEach_cons_eq_ok_iff isName).mpr ⟨settled, settles.self, others⟩
      · rintro ⟨settled, settles, placedAll⟩
        have saved := (saveEach_eq_ok_iff_of_settles settles.self areNames).mpr placedAll
        rcases (saveEach_cons_eq_ok_iff isName).mp saved with ⟨settledToo, settlesToo, others⟩
        rcases settles.self.unique settlesToo with rfl
        exact (saveEach_cons_eq_ok_iff isName).mpr ⟨settled, settles, others⟩

end Holding

end Run

end GenModel
