import GenModel.Proofs.Disk.Changes

/-!
# Making folders from left to right

A folder is made by trying the whole path first and, as long as a folder on the way to it is
missing, ever shorter paths; what was shortened is then made up for in the opposite order. On a
path that ends in a plain name this comes to the same as going through the names once, from left to
right, and making each folder that is not there (`makeFolders_eq_ok_iff`).

The point is when the shorter path is tried. A walk fails either because something is missing, and
then the shorter path decides, or because something is in the way, and then going from left to right
fails too.
-/

namespace GenModel

namespace Path

/-- The components of a path that ends in a name end in it too. -/
theorem components_concat {path last : String} {front : List String}
    (found : segments path = front ++ [last]) (notDot : last ≠ ".") :
    ∃ others, components path = others ++ [last] ∧
      (others.filter fun name => name != ".") = front.filter fun name => name != "." := by
  cases front with
  | nil => exact ⟨[], by simp [components, found, notDot], rfl⟩
  | cons first middle =>
      refine ⟨(if first = "." ∧ isAbsolute path then [] else [first]) ++
        middle.filter fun name => name != ".", ?_, ?_⟩
      · simp [components, found, notDot]
      · split_ifs with dropped
        · simp [dropped]
        · simp [List.filter_cons]

end Path

namespace Disk

/-- The disk with a folder at the location, if nothing was there. -/
def withFolder (disk : Disk) (location : Location) : Disk :=
  if (disk.node? location).isSome then disk else disk.put location .folder

/-- The disk in which a name can be entered from a location. -/
def opened? (disk : Disk) (location : Location) (name : String) : Option Disk :=
  if name = "." ∨ name = ".." then some disk
  else if isTooLong name then none
  else some (disk.withFolder (location ++ [name]))

/-- Goes through the names, all of which have to be folders, and makes those that are missing. -/
def makeAlong (disk : Disk) (location : Location) : List String → Option Disk
  | [] => if disk.isFolder location then some disk else none
  | name :: rest =>
    if disk.isFolder location then
      (disk.opened? location name).bind fun opened => opened.makeAlong (enter location name) rest
    else none

section Folders

variable {disk : Disk} {location : Location}

theorem withFolder_of_isSome (present : (disk.node? location).isSome = true) :
    disk.withFolder location = disk := by
  simp [withFolder, present]

theorem withFolder_of_none (missing : disk.node? location = none) :
    disk.withFolder location = disk.put location .folder := by
  simp [withFolder, missing]

theorem withFolder_changes {folders : Location → Prop} (belowRoot : location ≠ [])
    (isAllowed : folders location) : Changes noFiles folders disk (disk.withFolder location) := by
  cases found : disk.node? location with
  | none =>
      rw [withFolder_of_none found]
      exact .putFolder belowRoot found isAllowed
  | some node =>
      rw [withFolder_of_isSome (by simp [found])]
      exact .refl folders disk

theorem isSome_withFolder (belowRoot : location ≠ []) :
    ((disk.withFolder location).node? location).isSome = true := by
  cases found : disk.node? location with
  | none => simp [withFolder_of_none found, node?_put disk belowRoot]
  | some node => simp [withFolder_of_isSome, found]

end Folders

section Walks

variable {disk : Disk} {location : Location}

theorem walkFolders_nil (disk : Disk) (location : Location) :
    disk.walkFolders location [] =
      if disk.isFolder location then .ok location else .error .notDirectory :=
  rfl

theorem walkFolders_of_not_isFolder (notFolder : disk.isFolder location = false)
    (names : List String) : disk.walkFolders location names = .error .notDirectory := by
  cases names with
  | nil => simp [walkFolders_nil, notFolder]
  | cons name rest => simp [walkFolders, walk, notFolder]

theorem walkFolders_cons (folder : disk.isFolder location = true) (name : String)
    (rest : List String) :
    disk.walkFolders location (name :: rest) =
      if name = "." ∨ name = ".." then disk.walkFolders (enter location name) rest
      else if isTooLong name then .error .nameTooLong
      else if (disk.node? (location ++ [name])).isSome then
        disk.walkFolders (enter location name) rest
      else .error .notFound := by
  by_cases dot : name = "."
  · simp [walkFolders, walk, enter, folder, dot]
  · by_cases dots : name = ".."
    · simp [walkFolders, walk, enter, folder, dots]
    · cases long : isTooLong name <;> cases found : disk.node? (location ++ [name]) <;>
        simp [walkFolders, walk, enter, folder, dot, dots, long, found]

theorem walkFolders_append (disk : Disk) (location : Location) (front back : List String) :
    disk.walkFolders location (front ++ back) =
      match disk.walkFolders location front with
      | .ok middle => disk.walkFolders middle back
      | .error error => .error error := by
  induction front generalizing location with
  | nil =>
      by_cases folder : disk.isFolder location = true
      · simp [walkFolders_nil, folder]
      · rw [Bool.not_eq_true] at folder
        simp [walkFolders_of_not_isFolder folder]
  | cons name rest ih =>
      by_cases folder : disk.isFolder location = true
      · rw [List.cons_append, walkFolders_cons folder, walkFolders_cons folder, ih]
        split_ifs <;> rfl
      · rw [Bool.not_eq_true] at folder
        simp [walkFolders_of_not_isFolder folder]

theorem walkFolders_filter (disk : Disk) (location : Location) (names : List String) :
    disk.walkFolders location (names.filter fun name => name != ".") =
      disk.walkFolders location names := by
  induction names generalizing location with
  | nil => rfl
  | cons name rest ih =>
      by_cases folder : disk.isFolder location = true
      · by_cases dot : name = "."
        · subst name
          rw [walkFolders_cons folder, if_pos (Or.inl rfl)]
          exact ih location
        · rw [List.filter_cons_of_pos (by simpa using dot), walkFolders_cons folder,
            walkFolders_cons folder, ih]
      · rw [Bool.not_eq_true] at folder
        simp [walkFolders_of_not_isFolder folder]

end Walks

section Along

variable {disk later : Disk} {location : Location}

theorem makeAlong_of_not_isFolder (notFolder : disk.isFolder location = false)
    (names : List String) : disk.makeAlong location names = none := by
  cases names <;> simp [makeAlong, notFolder]

theorem opened?_keeps {opened : Disk} {name : String}
    (done : disk.opened? location name = some opened) :
    Keeps disk opened ∧
      (name = "." ∨ name = ".." ∨
        isTooLong name = false ∧ (opened.node? (location ++ [name])).isSome = true) := by
  by_cases dots : name = "." ∨ name = ".."
  · simp only [opened?, dots, if_true, Option.some.injEq] at done
    subst opened
    refine ⟨.refl disk, ?_⟩
    rcases dots with dot | dots
    · exact Or.inl dot
    · exact Or.inr (Or.inl dots)
  · cases short : isTooLong name with
    | true => simp [opened?, dots, short] at done
    | false =>
        simp only [opened?, dots, short, if_false, Bool.false_eq_true, Option.some.injEq] at done
        subst opened
        have belowRoot : location ++ [name] ≠ [] := by simp
        refine ⟨?_, Or.inr (Or.inr ⟨rfl, isSome_withFolder belowRoot⟩)⟩
        exact (@withFolder_changes disk _ (fun _ => True) belowRoot trivial).keeps

theorem makeAlong_append (disk : Disk) (location : Location) (front back : List String) :
    disk.makeAlong location (front ++ back) =
      (disk.makeAlong location front).bind fun reached =>
        reached.makeAlong (destination location front) back := by
  induction front generalizing disk location with
  | nil =>
      by_cases folder : disk.isFolder location = true
      · simp [makeAlong, folder, destination]
      · rw [Bool.not_eq_true] at folder
        simp [makeAlong_of_not_isFolder folder]
  | cons name rest ih =>
      by_cases folder : disk.isFolder location = true
      · simp only [List.cons_append, makeAlong, folder, if_true, Option.bind_assoc, ih]
        rfl
      · rw [Bool.not_eq_true] at folder
        simp [makeAlong_of_not_isFolder folder]

theorem makeAlong_keeps {names : List String}
    (done : disk.makeAlong location names = some later) : Keeps disk later := by
  induction names generalizing disk location with
  | nil =>
      simp only [makeAlong, Option.ite_none_right_eq_some, Option.some.injEq] at done
      rw [← done.2]
      exact .refl disk
  | cons name rest ih =>
      simp only [makeAlong, Option.ite_none_right_eq_some, Option.bind_eq_some_iff] at done
      rcases done with ⟨-, opened, openedEq, restDone⟩
      exact (opened?_keeps openedEq).1.trans (ih restDone)

/-- Where folders were made along the names, the names can be walked. -/
theorem walkFolders_of_makeAlong {names : List String}
    (done : disk.makeAlong location names = some later) :
    later.walkFolders location names = .ok (destination location names) := by
  rw [walkFolders_eq_ok_iff]
  induction names generalizing disk location with
  | nil =>
      simp only [makeAlong, Option.ite_none_right_eq_some, Option.some.injEq] at done
      rw [← done.2]
      exact ⟨rfl, done.1⟩
  | cons name rest ih =>
      have keeps := makeAlong_keeps done
      simp only [makeAlong, Option.ite_none_right_eq_some, Option.bind_eq_some_iff] at done
      rcases done with ⟨folder, opened, openedEq, restDone⟩
      have restKeeps := makeAlong_keeps restDone
      rcases ih restDone with ⟨walked, isFolder⟩
      refine ⟨?_, isFolder⟩
      rw [walk_cons_eq_ok_iff]
      refine ⟨keeps.folder location folder, ?_, walked⟩
      rcases (opened?_keeps openedEq).2 with dot | dots | ⟨short, present⟩
      · exact Or.inl dot
      · exact Or.inr (Or.inl dots)
      · exact Or.inr (Or.inr ⟨short, restKeeps.present _ present⟩)

/-- Nothing is made along names that can be walked. If they cannot, then something is missing, or
something is in the way of making folders as well. -/
theorem walkFolders_cases (disk : Disk) (location : Location) (names : List String) :
    (∃ found, disk.walkFolders location names = .ok found ∧
      disk.makeAlong location names = some disk) ∨
    disk.walkFolders location names = .error .notFound ∨
    ∃ error, error ≠ .notFound ∧ disk.walkFolders location names = .error error ∧
      disk.makeAlong location names = none := by
  induction names generalizing location with
  | nil =>
      by_cases folder : disk.isFolder location = true
      · exact Or.inl ⟨location, by simp [walkFolders_nil, folder], by simp [makeAlong, folder]⟩
      · rw [Bool.not_eq_true] at folder
        exact Or.inr (Or.inr ⟨.notDirectory, by simp, walkFolders_of_not_isFolder folder _,
          makeAlong_of_not_isFolder folder _⟩)
  | cons name rest ih =>
      by_cases folder : disk.isFolder location = true
      · rw [walkFolders_cons folder, makeAlong, if_pos folder, opened?]
        split_ifs with dots long present
        · exact ih (enter location name)
        · exact Or.inr (Or.inr ⟨.nameTooLong, by simp, rfl, rfl⟩)
        · rw [withFolder_of_isSome present]
          exact ih (enter location name)
        · exact Or.inr (Or.inl rfl)
      · rw [Bool.not_eq_true] at folder
        exact Or.inr (Or.inr ⟨.notDirectory, by simp, walkFolders_of_not_isFolder folder _,
          makeAlong_of_not_isFolder folder _⟩)

theorem makeAlong_of_walkFolders {names : List String} {found : Location}
    (walked : disk.walkFolders location names = .ok found) :
    disk.makeAlong location names = some disk := by
  rcases disk.walkFolders_cases location names with ⟨-, -, made⟩ | missing | ⟨_, -, failed, -⟩
  · exact made
  · simp [walked] at missing
  · simp [walked] at failed

end Along

section Ways

variable {disk later : Disk} {location : Location} {front above : List String} {last : String}

theorem makeAlong_filter (disk : Disk) (location : Location) (names : List String) :
    disk.makeAlong location (names.filter fun name => name != ".") =
      disk.makeAlong location names := by
  induction names generalizing disk location with
  | nil => rfl
  | cons name rest ih =>
      by_cases folder : disk.isFolder location = true
      · by_cases dot : name = "."
        · subst name
          rw [makeAlong, if_pos folder, opened?, if_pos (Or.inl rfl)]
          exact ih disk location
        · rw [List.filter_cons_of_pos (by simpa using dot)]
          simp only [makeAlong, ih]
      · rw [Bool.not_eq_true] at folder
        simp [makeAlong_of_not_isFolder folder]

theorem ensureFolder_of_error {error : FileError}
    (failed : disk.walkFolders location front = .error error) :
    disk.ensureFolder location (front ++ [last]) = .error error := by
  simp [ensureFolder, makeFolder, walkFolders_append, failed, Except.isOk, Except.toBool]

/-- When the folders above can be walked, the last name decides, and nothing is missing. -/
theorem ensureFolder_of_walkFolders {folder : Location}
    (walked : disk.walkFolders location front = .ok folder) :
    ∃ error, error ≠ .notFound ∧
      disk.ensureFolder location (front ++ [last]) =
        (disk.makeAlong folder [last]).elim (.error error) .ok := by
  have isFolder := (walkFolders_eq_ok_iff.mp walked).2
  have walkedAll :
      disk.walkFolders location (front ++ [last]) = disk.walkFolders folder [last] := by
    rw [walkFolders_append, walked]
  -- Something that is there already is accepted if it is a folder.
  have accepted {place : Location}
      (occupied : disk.makeFolder location (front ++ [last]) = .error .alreadyExists)
      (found : disk.walkFolders folder [last] = disk.walkFolders place [])
      (made : disk.makeAlong folder [last] = disk.makeAlong place []) :
      ∃ error, error ≠ .notFound ∧
        disk.ensureFolder location (front ++ [last]) =
          (disk.makeAlong folder [last]).elim (.error error) .ok := by
    refine ⟨.alreadyExists, by simp, ?_⟩
    rw [ensureFolder, occupied, walkedAll, found, made]
    cases there : disk.isFolder place <;>
      simp [walkFolders_nil, makeAlong, there, Except.isOk, Except.toBool]
  by_cases dots : last = "." ∨ last = ".."
  · apply @accepted (enter folder last)
    · simp [makeFolder, walked, dots]
    · rw [walkFolders_cons isFolder, if_pos dots]
    · simp [makeAlong, opened?, isFolder, dots]
  · cases long : isTooLong last with
    | true =>
        refine ⟨.nameTooLong, by simp, ?_⟩
        rw [ensureFolder, walkedAll, walkFolders_cons isFolder]
        simp [makeFolder, walked, makeAlong, opened?, isFolder, dots, long, Except.isOk,
          Except.toBool]
    | false =>
        cases found : disk.node? (folder ++ [last]) with
        | some node =>
            apply @accepted (enter folder last)
            · simp [makeFolder, walked, dots, long, found]
            · simp [walkFolders_cons isFolder, dots, long, found]
            · simp [makeAlong, opened?, isFolder, dots, long, withFolder, found]
        | none =>
            refine ⟨.alreadyExists, by simp, ?_⟩
            rw [not_or] at dots
            simp [ensureFolder, makeFolder, walked, makeAlong, opened?, withFolder, enter, isFolder,
              isFolder_iff, node?_put, dots, long, found]

theorem makeWay_of_ok {names : List String} {made : Disk}
    (ensured : disk.ensureFolder location names = .ok made) (above : List String) :
    makeWay location names above disk = (.ok (), made) := by
  cases above <;> simp [makeWay, ensured]

theorem makeWay_of_error {names : List String} {error : FileError}
    (failed : disk.ensureFolder location names = .error error) (notMissing : error ≠ .notFound)
    (above : List String) : makeWay location names above disk = (.error error, disk) := by
  cases above with
  | nil => simp [makeWay, failed]
  | cons inner above => cases error <;> simp_all [makeWay]

theorem makeWay_eq_ok_iff_of_not_missing
    (notMissing : disk.walkFolders location front ≠ .error .notFound) :
    makeWay location (front ++ [last]) above disk = (.ok (), later) ↔
      disk.makeAlong location (front ++ [last]) = some later := by
  rcases disk.walkFolders_cases location front with ⟨folder, walked, along⟩ | missing |
    ⟨error, different, failed, along⟩
  · have reached := destination_of_walk (walkFolders_eq_ok_iff.mp walked).1
    rcases @ensureFolder_of_walkFolders disk location front last folder walked with
      ⟨error, different, ensured⟩
    rw [makeAlong_append, along, Option.bind_some, ← reached]
    cases made : disk.makeAlong folder [last] with
    | none =>
        rw [made] at ensured
        simp [makeWay_of_error ensured different]
    | some result =>
        rw [made] at ensured
        simp [makeWay_of_ok ensured]
  · exact absurd missing notMissing
  · rw [makeWay_of_error (ensureFolder_of_error failed) different, makeAlong_append, along]
    simp

/-- Trying ever shorter paths makes the same folders as going from left to right. -/
theorem makeWay_eq_ok_iff
    (same : (front.filter fun name => name != ".") = above.reverse.filter fun name => name != ".") :
    makeWay location (front ++ [last]) above disk = (.ok (), later) ↔
      disk.makeAlong location (front ++ [last]) = some later := by
  induction above generalizing front last later with
  | nil =>
      apply makeWay_eq_ok_iff_of_not_missing
      rw [← walkFolders_filter, same, List.reverse_nil, List.filter_nil, walkFolders_nil]
      split_ifs <;> simp
  | cons inner above ih =>
      by_cases missing : disk.walkFolders location front = .error .notFound
      · have alongFront : disk.makeAlong location front =
            disk.makeAlong location (above.reverse ++ [inner]) := by
          rw [← makeAlong_filter, same, makeAlong_filter, List.reverse_cons]
        rw [makeWay, ensureFolder_of_error missing, makeAlong_append, List.reverse_cons, alongFront]
        cases way : makeWay location (above.reverse ++ [inner]) above disk with
        | mk result reached =>
            cases result with
            | error error =>
                cases along : disk.makeAlong location (above.reverse ++ [inner]) with
                | none => simp
                | some made => simp [(ih rfl).mpr along] at way
            | ok _ =>
                have along := (ih rfl).mp way
                have walked : reached.walkFolders location front =
                    .ok (destination location front) :=
                  walkFolders_of_makeAlong (alongFront.trans along)
                rcases @ensureFolder_of_walkFolders reached location front last _ walked with
                  ⟨error, -, ensured⟩
                rw [along, Option.bind_some]
                simp only [ensured]
                cases reached.makeAlong (destination location front) [last] <;> simp
      · exact makeWay_eq_ok_iff_of_not_missing missing

/-- A folder at a path that ends in a name is made by making folders along its names. -/
theorem makeFolders_eq_ok_iff {path : String} (segments : Path.segments path = front ++ [last])
    (notDot : last ≠ ".") :
    disk.makeFolders path = (.ok (), later) ↔
      refusal? path = none ∧
        disk.makeAlong (disk.start path) (Path.segments path) = some later := by
  have nonempty : path ≠ "" := by
    rintro rfl
    simp [Path.segments_empty] at segments
  rcases Path.components_concat segments notDot with ⟨others, components, same⟩
  cases refused : refusal? path with
  | some error => simp [makeFolders, nonempty, refused]
  | none =>
      rw [makeFolders, if_neg nonempty, refused, components, List.dropLast_concat, segments]
      simp only [true_and]
      apply makeWay_eq_ok_iff
      rw [List.reverse_reverse, same]

end Ways

end Disk

end GenModel
