import GenModel.Proofs.Disk.Making
import GenModel.Proofs.Run.OnDisk

/-!
# Writing one file

A file is written by making its folder and then writing to the path that its name gives, seen from
the folder. The name can be any text: it can lead out of the folder or stand for a folder itself.
Whatever it is, one file is changed or none, and new folders lie on the way to the folder
(`writeFile_changes`).

The path that a failure names tells what went wrong: it is the folder exactly if the folder is not
there afterwards. Making a folder is a search that goes up the path and down again, and it can give
up half way. What it returns is nevertheless known from the disk that it leaves behind
(`makeFolders_eq_ok_iff_hasFolder`): where the shorter path could not be made, the longer one cannot
be walked.
-/

namespace GenModel

namespace Disk

/-- The names lead from the location to a folder, through folders only. -/
def Reaches (disk : Disk) (location : Location) (names : List String) : Prop :=
  ∃ folder, disk.walkFolders location names = .ok folder

/-- There is a folder at the path. The empty path stands for the folder where it begins. -/
def HasFolder (disk : Disk) (path : String) : Prop :=
  path = "" ∨ refusal? path = none ∧ disk.Reaches (disk.start path) (Path.segments path)

section Reaches

variable {disk made : Disk} {location : Location} {names front back : List String}

theorem Reaches.of_append (reaches : disk.Reaches location (front ++ back)) :
    disk.Reaches location front := by
  rcases reaches with ⟨folder, walked⟩
  rw [walkFolders_append] at walked
  cases first : disk.walkFolders location front with
  | ok middle => exact ⟨middle, first⟩
  | error error => simp [first] at walked

theorem Reaches.dropLast (reaches : disk.Reaches location names) :
    disk.Reaches location names.dropLast := by
  rcases List.dropLast_prefix names with ⟨back, whole⟩
  rw [← whole] at reaches
  exact reaches.of_append

theorem reaches_congr_filter
    (same : (front.filter fun name => name != ".") = back.filter fun name => name != ".") :
    disk.Reaches location front ↔ disk.Reaches location back := by
  rw [Reaches, Reaches, ← walkFolders_filter, same, walkFolders_filter]

theorem reaches_of_ensureFolder (ensured : disk.ensureFolder location names = .ok made) :
    made.Reaches location names := by
  rcases List.eq_nil_or_concat names with rfl | ⟨front, last, rfl⟩
  · cases walked : disk.walkFolders location [] with
    | ok folder =>
        simp only [ensureFolder, makeFolder, List.getLast?_nil, walked, Except.isOk, Except.toBool,
          if_true, Except.ok.injEq] at ensured
        subst made
        exact ⟨folder, walked⟩
    | error error =>
        simp [ensureFolder, makeFolder, walked, Except.isOk, Except.toBool] at ensured
  · rw [List.concat_eq_append] at ensured ⊢
    cases walked : disk.walkFolders location front with
    | error error => simp [ensureFolder_of_error walked] at ensured
    | ok folder =>
        rcases @ensureFolder_of_walkFolders disk location front last folder walked with
          ⟨error, -, outcome⟩
        rw [outcome] at ensured
        cases along : disk.makeAlong folder [last] with
        | none => simp [along] at ensured
        | some later =>
            simp only [along, Option.elim_some, Except.ok.injEq] at ensured
            subst later
            refine ⟨destination folder [last], ?_⟩
            rw [walkFolders_append, (makeAlong_keeps along).walkFolders walked]
            exact walkFolders_of_makeAlong along

theorem not_reaches_of_ensureFolder {error : FileError}
    (failed : disk.ensureFolder location names = .error error) : ¬disk.Reaches location names := by
  rintro ⟨folder, walked⟩
  cases attempt : disk.makeFolder location names with
  | ok result => simp [ensureFolder, attempt] at failed
  | error cause => simp [ensureFolder, attempt, walked, Except.isOk, Except.toBool] at failed

/-- The result of an attempt that is the last one is known from the disk afterwards. -/
theorem eq_ok_iff_reaches_of_ensureFolder {result : Except FileError Unit × Disk}
    (succeeded : ∀ next, disk.ensureFolder location names = .ok next → result = (.ok (), next))
    (failed : ∀ error, disk.ensureFolder location names = .error error →
      result = (.error error, disk)) :
    result.1 = .ok () ↔ result.2.Reaches location names := by
  cases ensured : disk.ensureFolder location names with
  | ok next =>
      rw [succeeded next ensured]
      simpa using reaches_of_ensureFolder ensured
  | error error =>
      rw [failed error ensured]
      simpa using not_reaches_of_ensureFolder ensured

end Reaches

/-- A folder is made along ever shorter paths exactly if it is there afterwards. -/
theorem makeWay_eq_ok_iff_reaches {location : Location} {names above : List String} (disk : Disk)
    (shorter : ∀ other : Disk, other.Reaches location names →
      other.Reaches location above.reverse) :
    (makeWay location names above disk).1 = .ok () ↔
      (makeWay location names above disk).2.Reaches location names := by
  induction above generalizing names disk with
  | nil =>
      apply @eq_ok_iff_reaches_of_ensureFolder disk
      · intro next ensured
        exact makeWay_of_ok ensured []
      · intro error ensured
        simp [makeWay, ensured]
  | cons inner above ih =>
      by_cases missing : disk.ensureFolder location names = .error .notFound
      · have deeper := @ih (inner :: above).reverse disk (by
          intro other reaches
          rw [List.reverse_cons] at reaches
          exact reaches.of_append)
        rcases way : makeWay location (inner :: above).reverse above disk with ⟨result, reached⟩
        rw [way] at deeper
        cases result with
        | error error =>
            -- Where the shorter path could not be made, the longer one cannot be walked.
            have unreached : ¬reached.Reaches location names := by
              intro reaches
              have impossible := deeper.mpr (shorter reached reaches)
              simp at impossible
            simp only [makeWay, missing, way]
            simpa using unreached
        | ok _ =>
            apply @eq_ok_iff_reaches_of_ensureFolder reached
            · intro next ensured
              simp only [makeWay, missing, way, ensured]
            · intro error ensured
              simp only [makeWay, missing, way, ensured]
      · apply @eq_ok_iff_reaches_of_ensureFolder disk
        · intro next ensured
          exact makeWay_of_ok ensured _
        · intro error ensured
          apply makeWay_of_error ensured
          rintro rfl
          exact missing ensured

/-- Folders are made without a failure exactly if the last of them is there afterwards. -/
theorem makeFolders_eq_ok_iff_hasFolder (disk : Disk) (path : String) :
    (disk.makeFolders path).1 = .ok () ↔ (disk.makeFolders path).2.HasFolder path := by
  have start : (disk.makeFolders path).2.start path = disk.start path :=
    (disk.makeFolders_changes path).keeps.start_eq path
  rw [HasFolder, start]
  by_cases empty : path = ""
  · simp [makeFolders, empty]
  · cases refused : refusal? path with
    | some error => simp [makeFolders, empty, refused]
    | none =>
        simp only [makeFolders, empty, refused, if_false, false_or, true_and]
        apply makeWay_eq_ok_iff_reaches
        intro other reaches
        rw [List.reverse_reverse]
        have components := (reaches_congr_filter (Path.components_filter path)).mpr reaches
        exact components.dropLast

end Disk

namespace Run

section WriteFile

variable {disk next : Disk} {folder : String} {file : SourceFile}

theorem writeFile_cases {result : Except Error Unit}
    (ended : outcome (Disk.host.writeFile folder file) disk = (result, next)) :
    (∃ cause, (disk.makeFolders folder).1 = .error cause ∧ next = (disk.makeFolders folder).2 ∧
      result = .error (.write folder cause)) ∨
    (disk.makeFolders folder).1 = .ok () ∧
      ((∃ cause, next = (disk.makeFolders folder).2 ∧
        result = .error (.write (Path.join folder file.name) cause)) ∨
      result = .ok () ∧
        (disk.makeFolders folder).2.write (Path.join folder file.name) file.code.toUTF8 =
          .ok next) := by
  rw [outcome_writeFile] at ended
  rcases made : disk.makeFolders folder with ⟨cause | _, reached⟩
  · rw [made] at ended
    rcases ended with ⟨rfl, rfl⟩
    exact Or.inl ⟨cause, rfl, rfl, rfl⟩
  · rw [made] at ended
    right
    refine ⟨rfl, ?_⟩
    cases written : reached.write (Path.join folder file.name) file.code.toUTF8 with
    | error cause =>
        simp only [written] at ended
        rcases ended with ⟨rfl, rfl⟩
        exact Or.inl ⟨cause, rfl, rfl⟩
    | ok later =>
        simp only [written] at ended
        rcases ended with ⟨rfl, rfl⟩
        exact Or.inr ⟨rfl, rfl⟩

end WriteFile

/-- Writing a file changes one file or none. If it succeeds, the file is there with its contents; if
it fails, there are at most new folders, and the failure names the folder if that is not there and
the path of the file otherwise. -/
theorem writeFile_changes (disk : Disk) (folder : String) (file : SourceFile) :
    (∀ next, outcome (Disk.host.writeFile folder file) disk = (.ok (), next) →
      next.read (Path.join folder file.name) = .ok file.code.toUTF8 ∧
      Disk.Changes (Disk.oneFile (disk.place (Path.join folder file.name)) file.code.toUTF8)
        (disk.IsOnWay folder) disk next) ∧
    ∀ error next, outcome (Disk.host.writeFile folder file) disk = (.error error, next) →
      Disk.Changes Disk.noFiles (disk.IsOnWay folder) disk next ∧
      ∃ cause,
        ¬next.HasFolder folder ∧ error = .write folder cause ∨
        next.HasFolder folder ∧ error = .write (Path.join folder file.name) cause := by
  have folders := disk.makeFolders_changes folder
  have isThere := disk.makeFolders_eq_ok_iff_hasFolder folder
  constructor
  · intro next ended
    rcases writeFile_cases ended with ⟨_, -, -, failed⟩ | ⟨-, ⟨_, -, failed⟩ | ⟨-, written⟩⟩
    · simp at failed
    · simp at failed
    · refine ⟨Disk.read_of_write written, ?_⟩
      have changes := Disk.write_changes (disk.IsOnWay folder) written
      rw [folders.keeps.place_eq] at changes
      exact folders.trans changes (by simp [Disk.noFiles])
  · intro error next ended
    rcases writeFile_cases ended with
      ⟨cause, unmade, rfl, failed⟩ | ⟨made, ⟨cause, rfl, failed⟩ | ⟨ok, -⟩⟩
    · rw [Except.error.injEq] at failed
      refine ⟨folders, cause, Or.inl ⟨?_, failed⟩⟩
      rw [← isThere, unmade]
      simp
    · rw [Except.error.injEq] at failed
      exact ⟨folders, cause, Or.inr ⟨isThere.mp made, failed⟩⟩
    · simp at ok

/-- The disk after a file was written under a name that leads out of its folder again. -/
def besideFolder : Disk :=
  (outcome (Disk.host.writeFile "out/new" ⟨"../a", "x"⟩) (Disk.blank ["home"])).2

/-- A file beside its folder, a name that is none, and a folder in whose way there is a file. -/
theorem writeFile_changes_besideFolder :
    (outcome (Disk.host.writeFile "out/new" ⟨"../a", "x"⟩) (Disk.blank ["home"]) =
        (.ok (), besideFolder) ∧
      besideFolder.read "out/new/../a" = .ok "x".toUTF8) ∧
    (∃ next, outcome (Disk.host.writeFile "out/new" ⟨"", "x"⟩) besideFolder =
        (.error (.write "out/new/" .isDirectory), next) ∧
      Disk.Changes Disk.noFiles (besideFolder.IsOnWay "out/new") besideFolder next) ∧
    ∃ next, outcome (Disk.host.writeFile "out/a/b" ⟨"c", "y"⟩) besideFolder =
        (.error (.write "out/a/b" .notDirectory), next) ∧
      Disk.Changes Disk.noFiles (besideFolder.IsOnWay "out/a/b") besideFolder next := by
  have written : outcome (Disk.host.writeFile "out/new" ⟨"../a", "x"⟩) (Disk.blank ["home"]) =
      (.ok (), besideFolder) :=
    Prod.ext (by decide +kernel) rfl
  have unnamed : outcome (Disk.host.writeFile "out/new" ⟨"", "x"⟩) besideFolder =
      (.error (.write "out/new/" .isDirectory), _) :=
    Prod.ext (by decide +kernel) rfl
  have blocked : outcome (Disk.host.writeFile "out/a/b" ⟨"c", "y"⟩) besideFolder =
      (.error (.write "out/a/b" .notDirectory), _) :=
    Prod.ext (by decide +kernel) rfl
  refine ⟨⟨written, ?_⟩, ⟨_, unnamed, ?_⟩, ⟨_, blocked, ?_⟩⟩
  · exact ((writeFile_changes _ _ _).1 _ written).1
  · exact ((writeFile_changes _ _ _).2 _ _ unnamed).1
  · exact ((writeFile_changes _ _ _).2 _ _ blocked).1

end Run

end GenModel
