import GenModel.Error
import GenModel.Path
import GenModel.Text.Utf8

/-!
# Disks

A disk holds folders and files under their locations, which are lists of names from the root
down. Relative paths begin at the working folder. A path is walked name by name, so that a
missing folder, a file in the place of a folder and a name that is too long are noticed where
they are met.
-/

namespace GenModel

/-- A place on a disk: the names from the root down. -/
abbrev Location := List String

/-- What is found at a location. -/
inductive Node where
  | folder
  | file (content : ByteArray)

/-- Folders and files, and the folder where relative paths begin. -/
structure Disk where
  workplace : Location
  nodes : List (Location × Node)

namespace Disk

/-- What is at the location. The root is always a folder. -/
def node? (disk : Disk) (location : Location) : Option Node :=
  if location = [] then some .folder else disk.nodes.lookup location

/-- Whether there is a folder at the location. -/
def isFolder (disk : Disk) (location : Location) : Bool :=
  match disk.node? location with
  | some .folder => true
  | _ => false

/-- The entries with a node in the place of the one at its location, or after all others. -/
def replaceNode (location : Location) (node : Node) :
    List (Location × Node) → List (Location × Node)
  | [] => [(location, node)]
  | (other, otherNode) :: rest =>
    if other = location then (location, node) :: rest
    else (other, otherNode) :: replaceNode location node rest

/-- The disk with the node at the location. -/
def put (disk : Disk) (location : Location) (node : Node) : Disk :=
  { disk with nodes := replaceNode location node disk.nodes }

theorem lookup_replaceNode (location other : Location) (node : Node)
    (nodes : List (Location × Node)) :
    (replaceNode location node nodes).lookup other =
      if other = location then some node else nodes.lookup other := by
  induction nodes with
  | nil =>
    by_cases same : other = location
    · simp [replaceNode, same]
    · simp [replaceNode, List.lookup_cons, same, beq_eq_false_iff_ne.mpr same]
  | cons entry rest ih =>
    obtain ⟨found, foundNode⟩ := entry
    by_cases equal : found = location
    · subst equal
      by_cases same : other = found
      · simp [replaceNode, same]
      · simp [replaceNode, List.lookup_cons, same, beq_eq_false_iff_ne.mpr same]
    · by_cases same : other = found
      · subst same
        simp [replaceNode, equal]
      · simp [replaceNode, List.lookup_cons, equal, beq_eq_false_iff_ne.mpr same, ih]

/-- Putting a node somewhere below the root changes what is there and nothing else. -/
theorem node?_put (disk : Disk) {location : Location} (belowRoot : location ≠ []) (node : Node)
    (other : Location) :
    (disk.put location node).node? other =
      if other = location then some node else disk.node? other := by
  by_cases root : other = []
  · subst root
    simp [node?, Ne.symm belowRoot]
  · simp [node?, put, root, lookup_replaceNode]

/-- Whether a name is longer than a disk allows. -/
def isTooLong (name : String) : Bool :=
  decide (255 < name.utf8ByteSize)

/-- Follows the names from a location. The last one may be a file. -/
def walk (disk : Disk) (location : Location) : List String → Except FileError Location
  | [] => .ok location
  | name :: rest =>
    if !disk.isFolder location then .error .notDirectory
    else if name = "." then disk.walk location rest
    else if name = ".." then disk.walk location.dropLast rest
    else if isTooLong name then .error .nameTooLong
    else if (disk.node? (location ++ [name])).isNone then .error .notFound
    else disk.walk (location ++ [name]) rest

/-- Follows names that all have to be folders. -/
def walkFolders (disk : Disk) (location : Location) (names : List String) :
    Except FileError Location :=
  match disk.walk location names with
  | .error error => .error error
  | .ok found => if disk.isFolder found then .ok found else .error .notDirectory

/-- Where a path begins. -/
def start (disk : Disk) (path : String) : Location :=
  if Path.isAbsolute path then [] else disk.workplace

/-- Why the text of a path is refused before it is walked. -/
def refusal? (path : String) : Option FileError :=
  if path.toList.contains '\x00' then some .nulInName
  else if 4096 ≤ path.utf8ByteSize then some .nameTooLong
  else if path = "" then some .notFound
  else none

/-- The bytes of the file at a path. -/
def read (disk : Disk) (path : String) : Except FileError ByteArray :=
  match refusal? path with
  | some error => .error error
  | none =>
    match disk.walk (disk.start path) (Path.segments path) with
    | .error error => .error error
    | .ok location =>
      match disk.node? location with
      | some (.file content) =>
        if Path.endsWithSlash path then .error .notDirectory else .ok content
      | some .folder => .error .isDirectory
      | none => .error .notFound

/-- Writes the file at a path, which must not be a folder and whose folder has to exist. -/
def write (disk : Disk) (path : String) (content : ByteArray) : Except FileError Disk :=
  match refusal? path with
  | some error => .error error
  | none =>
    match (Path.segments path).getLast? with
    | none => .error .isDirectory
    | some name =>
      match disk.walkFolders (disk.start path) (Path.segments path).dropLast with
      | .error error => .error error
      | .ok folder =>
        if name = "." ∨ name = ".." ∨ Path.endsWithSlash path then .error .isDirectory
        else if isTooLong name then .error .nameTooLong
        else if disk.isFolder (folder ++ [name]) then .error .isDirectory
        else .ok (disk.put (folder ++ [name]) (.file content))

/-- Makes one folder, whose own folder has to exist. -/
def makeFolder (disk : Disk) (location : Location) (names : List String) :
    Except FileError Disk :=
  match names.getLast? with
  | none => .error .alreadyExists
  | some name =>
    match disk.walkFolders location names.dropLast with
    | .error error => .error error
    | .ok folder =>
      if name = "." ∨ name = ".." then .error .alreadyExists
      else if isTooLong name then .error .nameTooLong
      else if (disk.node? (folder ++ [name])).isSome then .error .alreadyExists
      else .ok (disk.put (folder ++ [name]) .folder)

/-- Makes one folder, or finds that it is there. -/
def ensureFolder (disk : Disk) (location : Location) (names : List String) :
    Except FileError Disk :=
  match disk.makeFolder location names with
  | .ok made => .ok made
  | .error error =>
    if (disk.walkFolders location names).isOk then .ok disk else .error error

/-- Makes a folder and, if one of the folders above it is missing, first those: `above` names them
from the innermost out. Folders that were made before a failure stay. -/
def makeWay (location : Location) (names : List String) :
    List String → Disk → Except FileError Unit × Disk
  | [], disk =>
    match disk.ensureFolder location names with
    | .ok made => (.ok (), made)
    | .error error => (.error error, disk)
  | inner :: above, disk =>
    match disk.ensureFolder location names with
    | .ok made => (.ok (), made)
    | .error .notFound =>
      match makeWay location (inner :: above).reverse above disk with
      | (.error error, reached) => (.error error, reached)
      | (.ok (), reached) =>
        match reached.ensureFolder location names with
        | .ok made => (.ok (), made)
        | .error error => (.error error, reached)
    | .error error => (.error error, disk)

/-- Makes the folder at a path with all folders above it. -/
def makeFolders (disk : Disk) (path : String) : Except FileError Unit × Disk :=
  if path = "" then (.ok (), disk)
  else
    match refusal? path with
    | some error => (.error error, disk)
    | none =>
      makeWay (disk.start path) (Path.segments path) (Path.components path).dropLast.reverse disk

/-- The disk with a file at a path and all folders above it. -/
def plant (disk : Disk) (path : String) (content : ByteArray) : Except FileError Disk :=
  match makeWay (disk.start path) (Path.components path).dropLast
      (Path.components path).dropLast.dropLast.reverse disk with
  | (.error error, _) => .error error
  | (.ok (), reached) => reached.write path content

/-- The disk with nothing but the working folder and the folders above it. -/
def blank (workplace : Location) : Disk where
  workplace := workplace
  nodes := (List.range workplace.length).map fun depth => (workplace.take (depth + 1), .folder)

/-- What is below the working folder: files with their text, and folders, whose paths end with a
slash. -/
def listing (disk : Disk) : List (String × Option String) :=
  disk.nodes.filterMap fun (location, node) =>
    if disk.workplace.isPrefixOf location ∧ location ≠ disk.workplace then
      let path := "/".intercalate (location.drop disk.workplace.length)
      match node with
      | .folder => some (path ++ "/", none)
      | .file content => some (path, some (Text.decodeLossy content))
    else none

end Disk

end GenModel
