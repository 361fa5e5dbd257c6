import GenModel.Disk

/-!
# Walking on a disk

There are no links on a disk, so where a walk ends is known from the names alone: `destination` is
the location that the names lead to, and every walk that succeeds ends there. Whether it succeeds
depends on the disk, but in one direction only. A disk that still has everything and all folders
that another one had (`Keeps`) lets every walk succeed that succeeded there, and every file that was
read by a path can still be read by it.
-/

namespace GenModel

namespace Disk

theorem isFolder_iff {disk : Disk} {location : Location} :
    disk.isFolder location = true ↔ disk.node? location = some .folder := by
  cases found : disk.node? location with
  | none => simp [isFolder, found]
  | some node => cases node <;> simp [isFolder, found]

/-- The location that a name leads to. -/
def enter (location : Location) (name : String) : Location :=
  if name = "." then location else if name = ".." then location.dropLast else location ++ [name]

/-- The location that names lead to. -/
def destination (location : Location) (names : List String) : Location :=
  names.foldl enter location

/-- The location that a path leads to. -/
def place (disk : Disk) (path : String) : Location :=
  destination (disk.start path) (Path.segments path)

/-- The locations that are passed on the way to the end of a path. -/
def IsOnWay (disk : Disk) (path : String) (location : Location) : Prop :=
  ∃ front, front <+: Path.segments path ∧ location = destination (disk.start path) front

theorem destination_concat {location : Location} {front : List String} {name : String}
    (notDot : name ≠ ".") (notDots : name ≠ "..") :
    destination location (front ++ [name]) = destination location front ++ [name] := by
  simp [destination, enter, notDot, notDots]

/-- What a walk needs to get past a name. -/
theorem walk_cons_eq_ok_iff {disk : Disk} {location found : Location} {name : String}
    {rest : List String} :
    disk.walk location (name :: rest) = .ok found ↔
      disk.isFolder location = true ∧
        (name = "." ∨ name = ".." ∨
          isTooLong name = false ∧ (disk.node? (location ++ [name])).isSome = true) ∧
        disk.walk (enter location name) rest = .ok found := by
  rw [walk]
  by_cases folder : disk.isFolder location = true
  · by_cases dot : name = "."
    · simp [folder, dot, enter]
    · by_cases dots : name = ".."
      · simp [folder, dots, enter]
      · by_cases long : isTooLong name = true
        · simp [folder, dot, dots, long]
        · cases disk.node? (location ++ [name]) <;>
            simp [folder, dot, dots, long, enter]
  · simp [folder]

theorem destination_of_walk {disk : Disk} {location found : Location} {names : List String}
    (walked : disk.walk location names = .ok found) : found = destination location names := by
  induction names generalizing location with
  | nil => simpa [walk, destination, eq_comm] using walked
  | cons name rest ih => exact ih (walk_cons_eq_ok_iff.mp walked).2.2

theorem walk_append_eq_ok_iff {disk : Disk} {location found : Location}
    {front back : List String} :
    disk.walk location (front ++ back) = .ok found ↔
      ∃ middle, disk.walk location front = .ok middle ∧ disk.walk middle back = .ok found := by
  induction front generalizing location with
  | nil => simp [walk]
  | cons name rest ih =>
      simp only [List.cons_append, walk_cons_eq_ok_iff, ih]
      constructor
      · rintro ⟨folder, passable, middle, first, second⟩
        exact ⟨middle, ⟨folder, passable, first⟩, second⟩
      · rintro ⟨middle, ⟨folder, passable, first⟩, second⟩
        exact ⟨folder, passable, middle, first, second⟩

theorem walkFolders_eq_ok_iff {disk : Disk} {location found : Location} {names : List String} :
    disk.walkFolders location names = .ok found ↔
      disk.walk location names = .ok found ∧ disk.isFolder found = true := by
  cases walked : disk.walk location names with
  | error error => simp [walkFolders, walked]
  | ok reached =>
      by_cases folder : disk.isFolder reached = true
      · simp only [walkFolders, walked, folder, if_true, Except.ok.injEq]
        constructor
        · rintro rfl
          exact ⟨rfl, folder⟩
        · rintro ⟨rfl, -⟩
          rfl
      · simp only [walkFolders, walked, folder, Except.ok.injEq]
        constructor
        · intro impossible
          simp at impossible
        · rintro ⟨rfl, isFolder⟩
          exact absurd isFolder folder

/-- The later disk still has everything that the disk had, and folders are still folders. -/
structure Keeps (disk later : Disk) : Prop where
  workplace : later.workplace = disk.workplace
  present : ∀ location, (disk.node? location).isSome = true →
    (later.node? location).isSome = true
  folder : ∀ location, disk.isFolder location = true → later.isFolder location = true

namespace Keeps

theorem refl (disk : Disk) : Keeps disk disk :=
  ⟨rfl, fun _ present => present, fun _ folder => folder⟩

theorem trans {first second third : Disk} (earlier : Keeps first second)
    (later : Keeps second third) : Keeps first third where
  workplace := later.workplace.trans earlier.workplace
  present location present := later.present location (earlier.present location present)
  folder location folder := later.folder location (earlier.folder location folder)

variable {disk later : Disk}

theorem start_eq (keeps : Keeps disk later) (path : String) :
    later.start path = disk.start path := by
  simp [start, keeps.workplace]

theorem place_eq (keeps : Keeps disk later) (path : String) :
    later.place path = disk.place path := by
  simp [place, keeps.start_eq]

theorem isOnWay_eq (keeps : Keeps disk later) (path : String) :
    later.IsOnWay path = disk.IsOnWay path := by
  funext location
  simp [IsOnWay, keeps.start_eq]

theorem walk (keeps : Keeps disk later) {location found : Location} {names : List String}
    (walked : disk.walk location names = .ok found) : later.walk location names = .ok found := by
  induction names generalizing location with
  | nil => simpa [Disk.walk] using walked
  | cons name rest ih =>
      rw [walk_cons_eq_ok_iff] at walked ⊢
      rcases walked with ⟨folder, passable, restWalked⟩
      refine ⟨keeps.folder location folder, ?_, ih restWalked⟩
      rcases passable with dot | dots | ⟨short, present⟩
      · exact Or.inl dot
      · exact Or.inr (Or.inl dots)
      · exact Or.inr (Or.inr ⟨short, keeps.present _ present⟩)

theorem walkFolders (keeps : Keeps disk later) {location found : Location} {names : List String}
    (walked : disk.walkFolders location names = .ok found) :
    later.walkFolders location names = .ok found := by
  rw [walkFolders_eq_ok_iff] at walked ⊢
  exact ⟨keeps.walk walked.1, keeps.folder found walked.2⟩

end Keeps

theorem read_eq_ok_iff {disk : Disk} {path : String} {content : ByteArray} :
    disk.read path = .ok content ↔
      refusal? path = none ∧ Path.endsWithSlash path = false ∧
        ∃ location, disk.walk (disk.start path) (Path.segments path) = .ok location ∧
          disk.node? location = some (.file content) := by
  cases refused : refusal? path with
  | some error => simp [read, refused]
  | none =>
      cases walked : disk.walk (disk.start path) (Path.segments path) with
      | error error => simp [read, refused, walked]
      | ok location =>
          cases found : disk.node? location with
          | none => simp [read, refused, walked, found]
          | some node =>
              cases node with
              | folder => simp [read, refused, walked, found]
              | file bytes => cases slash : Path.endsWithSlash path <;>
                  simp [read, refused, walked, found, slash]

/-- A path by which a file was read still leads to the same place. -/
theorem Keeps.read {disk later : Disk} (keeps : Keeps disk later) {path : String}
    {content changed : ByteArray} (readBefore : disk.read path = .ok content)
    (found : later.node? (disk.place path) = some (.file changed)) :
    later.read path = .ok changed := by
  rcases read_eq_ok_iff.mp readBefore with ⟨accepted, open_, location, walked, -⟩
  rw [place, ← destination_of_walk walked] at found
  rw [read_eq_ok_iff, keeps.start_eq]
  exact ⟨accepted, open_, location, keeps.walk walked, found⟩

end Disk

end GenModel
