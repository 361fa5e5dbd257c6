import GenModel.Proofs.Disk.Walk
import GenModel.Proofs.Path
import Mathlib.Data.List.Basic

/-!
# What the operations of a disk change

`Changes files folders disk later` says everything about how a disk differs from what it was: the
places for which `files` has contents are files with these contents, and apart from that there are
only new folders, where nothing was before and `folders` allows it. Changes one after the other
compose, and the later contents of a place win.

Making folders changes a disk by folders along the way to the folder that is asked for; that is so
for every outcome, since the folders made before a failure stay. Writing a file changes what is at
its destination, which is never a folder, and afterwards the path reads as what was written.
-/

namespace GenModel

namespace Disk

/-- The later disk has the given files and differs otherwise only by folders where nothing was, in
places that are allowed. -/
structure Changes (files : Location → Option ByteArray) (folders : Location → Prop)
    (disk later : Disk) : Prop where
  workplace : later.workplace = disk.workplace
  written : ∀ {location content}, files location = some content →
    disk.isFolder location = false ∧ later.node? location = some (.file content)
  other : ∀ {location}, files location = none →
    later.node? location = disk.node? location ∨
      disk.node? location = none ∧ later.node? location = some .folder ∧ folders location

/-- No contents for any place. -/
def noFiles : Location → Option ByteArray :=
  fun _ => none

/-- Contents for one place. -/
def oneFile (place : Location) (content : ByteArray) : Location → Option ByteArray :=
  fun location => if location = place then some content else none

namespace Changes

variable {files : Location → Option ByteArray} {folders : Location → Prop} {disk later : Disk}

theorem refl (folders : Location → Prop) (disk : Disk) : Changes noFiles folders disk disk :=
  ⟨rfl, by simp [noFiles], fun _ => Or.inl rfl⟩

theorem mono {wider : Location → Prop} (changes : Changes files folders disk later)
    (weaker : ∀ location, folders location → wider location) : Changes files wider disk later := by
  refine ⟨changes.workplace, changes.written, ?_⟩
  intro location unwritten
  rcases changes.other unwritten with same | ⟨missing, made, isAllowed⟩
  · exact Or.inl same
  · exact Or.inr ⟨missing, made, weaker location isAllowed⟩

theorem isFolder (changes : Changes files folders disk later) {location : Location}
    (folder : disk.isFolder location = true) : later.isFolder location = true := by
  cases found : files location with
  | some content =>
      have notFolder := (changes.written found).1
      simp [folder] at notFolder
  | none =>
      rw [isFolder_iff] at folder ⊢
      rcases changes.other found with same | ⟨missing, -, -⟩
      · rw [same, folder]
      · simp [folder] at missing

theorem isFile (changes : Changes files folders disk later) {location : Location}
    {content : ByteArray} (file : disk.node? location = some (.file content)) :
    later.node? location = some (.file ((files location).getD content)) := by
  cases found : files location with
  | some changed => exact (changes.written found).2
  | none =>
      rcases changes.other found with same | ⟨missing, -, -⟩
      · rw [same, file]
        rfl
      · simp [file] at missing

theorem isFile_iff (changes : Changes files folders disk later) {location : Location}
    (unwritten : files location = none) (content : ByteArray) :
    later.node? location = some (.file content) ↔ disk.node? location = some (.file content) := by
  constructor
  · intro file
    rcases changes.other unwritten with same | ⟨-, made, -⟩
    · rw [← same, file]
    · simp [file] at made
  · intro file
    rw [changes.isFile file, unwritten]
    rfl

theorem keeps (changes : Changes files folders disk later) : Keeps disk later := by
  refine ⟨changes.workplace, ?_, fun _ => changes.isFolder⟩
  intro location present
  cases found : disk.node? location with
  | none => simp [found] at present
  | some node =>
      cases node with
      | folder => simp [isFolder_iff.mp (changes.isFolder (isFolder_iff.mpr found))]
      | file content => simp [changes.isFile found]

/-- A file that could be read can still be read. -/
theorem read (changes : Changes files folders disk later) {path : String} {content : ByteArray}
    (readBefore : disk.read path = .ok content) : ∃ changed, later.read path = .ok changed := by
  rcases read_eq_ok_iff.mp readBefore with ⟨-, -, location, walked, file⟩
  rw [destination_of_walk walked, ← place] at file
  exact ⟨_, changes.keeps.read readBefore (changes.isFile file)⟩

theorem trans {laterFiles allFiles : Location → Option ByteArray} {middle : Disk}
    (first : Changes files folders disk middle)
    (second : Changes laterFiles folders middle later)
    (combined : ∀ location, allFiles location = (laterFiles location).or (files location)) :
    Changes allFiles folders disk later := by
  refine ⟨second.workplace.trans first.workplace, ?_, ?_⟩
  · intro location content written
    rw [combined] at written
    cases found : laterFiles location with
    | some changed =>
        rcases second.written found with ⟨notFolder, there⟩
        simp only [found, Option.some_or, Option.some.injEq] at written
        subst changed
        refine ⟨?_, there⟩
        rw [Bool.eq_false_iff] at notFolder ⊢
        exact fun folder => notFolder (first.isFolder folder)
    | none =>
        simp only [found, Option.none_or] at written
        rcases first.written written with ⟨notFolder, there⟩
        refine ⟨notFolder, ?_⟩
        rw [second.isFile there, found]
        rfl
  · intro location unwritten
    rw [combined, Option.or_eq_none_iff] at unwritten
    rcases second.other unwritten.1 with same | ⟨missing, made, isAllowed⟩
    · rw [same]
      exact first.other unwritten.2
    · rcases first.other unwritten.2 with same | ⟨-, there, -⟩
      · exact Or.inr ⟨same ▸ missing, made, isAllowed⟩
      · simp [there] at missing

theorem putFolder {location : Location} (belowRoot : location ≠ [])
    (missing : disk.node? location = none) (isAllowed : folders location) :
    Changes noFiles folders disk (disk.put location .folder) := by
  refine ⟨rfl, by simp [noFiles], ?_⟩
  intro other _
  rw [node?_put disk belowRoot]
  by_cases same : other = location
  · subst other
    exact Or.inr ⟨missing, by simp, isAllowed⟩
  · simp [same]

theorem putFile {location : Location} (belowRoot : location ≠ [])
    (notFolder : disk.isFolder location = false) (content : ByteArray) :
    Changes (oneFile location content) folders disk (disk.put location (.file content)) := by
  refine ⟨rfl, ?_, ?_⟩
  · intro other written there
    simp only [oneFile, Option.ite_none_right_eq_some, Option.some.injEq] at there
    rcases there with ⟨rfl, rfl⟩
    exact ⟨notFolder, by simp [node?_put disk belowRoot]⟩
  · intro other unwritten
    have different : other ≠ location := by simpa [oneFile] using unwritten
    exact Or.inl (by simp [node?_put disk belowRoot, different])

end Changes

theorem makeFolder_changes {folders : Location → Prop} {disk made : Disk} {location : Location}
    {names : List String} (named : folders (destination location names))
    (done : disk.makeFolder location names = .ok made) : Changes noFiles folders disk made := by
  cases last : names.getLast? with
  | none => simp [makeFolder, last] at done
  | some name =>
      cases walked : disk.walkFolders location names.dropLast with
      | error error => simp [makeFolder, last, walked] at done
      | ok folder =>
          by_cases dots : name = "." ∨ name = ".."
          · simp [makeFolder, last, walked, dots] at done
          · by_cases long : isTooLong name = true
            · simp [makeFolder, last, walked, dots, long] at done
            · cases found : disk.node? (folder ++ [name]) with
              | some node => simp [makeFolder, last, walked, dots, long, found] at done
              | none =>
                  simp only [makeFolder, last, walked, dots, long, found, Option.isSome_none,
                    Bool.false_eq_true, if_false, Except.ok.injEq] at done
                  subst made
                  refine .putFolder (by simp) found ?_
                  rw [not_or] at dots
                  rw [destination_of_walk (walkFolders_eq_ok_iff.mp walked).1,
                    ← destination_concat dots.1 dots.2, List.dropLast_append_getLast? name last]
                  exact named

theorem ensureFolder_changes {folders : Location → Prop} {disk made : Disk}
    {location : Location} {names : List String} (named : folders (destination location names))
    (done : disk.ensureFolder location names = .ok made) : Changes noFiles folders disk made := by
  cases attempt : disk.makeFolder location names with
  | ok result =>
      simp only [ensureFolder, attempt, Except.ok.injEq] at done
      subst made
      exact makeFolder_changes named attempt
  | error error =>
      by_cases there : (disk.walkFolders location names).isOk = true
      · simp only [ensureFolder, attempt, there, if_true, Except.ok.injEq] at done
        subst made
        exact .refl _ _
      · simp [ensureFolder, attempt, there] at done

theorem makeWay_changes {folders : Location → Prop} {location : Location}
    {names above : List String} (disk : Disk) (named : folders (destination location names))
    (passed : ∀ front, front <+: above.reverse → folders (destination location front)) :
    Changes noFiles folders disk (makeWay location names above disk).2 := by
  induction above generalizing names disk with
  | nil =>
      cases done : disk.ensureFolder location names with
      | ok made => simpa [makeWay, done] using ensureFolder_changes named done
      | error error => simpa [makeWay, done] using .refl folders disk
  | cons inner above ih =>
      have deeper : Changes noFiles folders disk
          (makeWay location (inner :: above).reverse above disk).2 := by
        apply ih disk (passed _ List.prefix_rfl)
        intro front isPrefix
        apply passed front
        rw [List.reverse_cons]
        exact isPrefix.trans (List.prefix_append _ _)
      cases done : disk.ensureFolder location names with
      | ok made => simpa [makeWay, done] using ensureFolder_changes named done
      | error error =>
          cases error with
          | notFound =>
              cases way : makeWay location (inner :: above).reverse above disk with
              | mk result reached =>
                  rw [way] at deeper
                  cases result with
                  | error error => simpa only [makeWay, done, way] using deeper
                  | ok _ =>
                      cases again : reached.ensureFolder location names with
                      | error error => simpa only [makeWay, done, way, again] using deeper
                      | ok made =>
                          simp only [makeWay, done, way, again]
                          exact deeper.trans (ensureFolder_changes named again) fun _ => rfl
          | _ => simpa [makeWay, done] using Changes.refl folders disk

theorem destination_filter (location : Location) (names : List String) :
    destination location (names.filter fun name => name != ".") = destination location names := by
  induction names generalizing location with
  | nil => rfl
  | cons name rest ih =>
      by_cases dot : name = "."
      · simp only [dot, bne_self_eq_false, Bool.false_eq_true, not_false_eq_true,
          List.filter_cons_of_neg, ih]
        rfl
      · rw [List.filter_cons_of_pos (by simpa using dot)]
        exact ih (enter location name)

theorem isOnWay_of_prefix_components {path : String} {front : List String} (disk : Disk)
    (isPrefix : front <+: Path.components path) :
    disk.IsOnWay path (destination (disk.start path) front) := by
  have filtered := isPrefix.filter fun name => name != "."
  rw [Path.components_filter, List.prefix_filter_iff] at filtered
  rcases filtered with ⟨others, othersPrefix, same⟩
  refine ⟨others, othersPrefix, ?_⟩
  rw [← destination_filter _ front, same, destination_filter]

theorem makeFolders_changes (disk : Disk) (path : String) :
    Changes noFiles (disk.IsOnWay path) disk (disk.makeFolders path).2 := by
  by_cases empty : path = ""
  · simpa [makeFolders, empty] using .refl _ disk
  · cases refused : refusal? path with
    | some error => simpa [makeFolders, empty, refused] using .refl _ disk
    | none =>
        simp only [makeFolders, empty, refused, if_false]
        apply makeWay_changes
        · exact ⟨Path.segments path, List.prefix_rfl, rfl⟩
        · intro front isPrefix
          rw [List.reverse_reverse] at isPrefix
          exact isOnWay_of_prefix_components disk (isPrefix.trans (List.dropLast_prefix _))

/-- What it takes to write a file, and what is written. -/
theorem write_eq_ok_iff {disk written : Disk} {path : String} {content : ByteArray} :
    disk.write path content = .ok written ↔
      refusal? path = none ∧ Path.endsWithSlash path = false ∧
        ∃ names name folder, Path.segments path = names ++ [name] ∧
          disk.walkFolders (disk.start path) names = .ok folder ∧
          (name ≠ "." ∧ name ≠ ".." ∧ isTooLong name = false) ∧
          disk.isFolder (folder ++ [name]) = false ∧
          written = disk.put (folder ++ [name]) (.file content) := by
  constructor
  · intro done
    cases refused : refusal? path with
    | some error => simp [write, refused] at done
    | none =>
        cases last : (Path.segments path).getLast? with
        | none => simp [write, refused, last] at done
        | some name =>
            cases walked : disk.walkFolders (disk.start path) (Path.segments path).dropLast with
            | error error => simp [write, refused, last, walked] at done
            | ok folder =>
                simp only [write, refused, last, walked] at done
                split at done
                · simp at done
                · rename_i dots
                  simp only [not_or, Bool.not_eq_true] at dots
                  split at done
                  · simp at done
                  · rename_i long
                    split at done
                    · simp at done
                    · rename_i notFolder
                      simp only [Bool.not_eq_true, Except.ok.injEq] at long notFolder done
                      exact ⟨rfl, dots.2.2, _, name, folder,
                        (List.dropLast_append_getLast? name last).symm, walked,
                        ⟨dots.1, dots.2.1, long⟩, notFolder, done.symm⟩
  · rintro ⟨accepted, noSlash, names, name, folder, segments, walked, ⟨notDot, notDots, short⟩,
      notFolder, rfl⟩
    simp [write, accepted, noSlash, segments, walked, notDot, notDots, short, notFolder]

theorem write_changes (folders : Location → Prop) {disk written : Disk} {path : String}
    {content : ByteArray} (done : disk.write path content = .ok written) :
    Changes (oneFile (disk.place path) content) folders disk written := by
  rcases write_eq_ok_iff.mp done with
    ⟨-, -, names, name, folder, segments, walked, ⟨notDot, notDots, -⟩, notFolder, rfl⟩
  have reached := destination_of_walk (walkFolders_eq_ok_iff.mp walked).1
  have placeEq : disk.place path = folder ++ [name] := by
    rw [place, segments, destination_concat notDot notDots, ← reached]
  rw [placeEq]
  exact .putFile (by simp) notFolder content

theorem read_of_write {disk written : Disk} {path : String} {content : ByteArray}
    (done : disk.write path content = .ok written) : written.read path = .ok content := by
  have keeps := (write_changes (fun _ => False) done).keeps
  rcases write_eq_ok_iff.mp done with
    ⟨accepted, open_, names, name, folder, segments, walked, ⟨notDot, notDots, short⟩, -, rfl⟩
  have there : (disk.put (folder ++ [name]) (.file content)).node? (folder ++ [name]) =
      some (.file content) := by
    simp [node?_put]
  rcases walkFolders_eq_ok_iff.mp (keeps.walkFolders walked) with ⟨walkedLater, isFolder⟩
  rw [read_eq_ok_iff]
  refine ⟨accepted, open_, folder ++ [name], ?_, there⟩
  rw [segments, keeps.start_eq, walk_append_eq_ok_iff]
  refine ⟨folder, walkedLater, ?_⟩
  rw [walk_cons_eq_ok_iff]
  refine ⟨isFolder, Or.inr (Or.inr ⟨short, by simp [there]⟩), ?_⟩
  simp [walk, enter, notDot, notDots]

end Disk

end GenModel
