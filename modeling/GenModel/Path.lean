import GenModel.Text.Split

/-!
# Paths

A path is a text in which slashes separate names. It is absolute if it begins with a slash.
Empty names count for nothing. A name of one dot stands for the directory itself and counts only
at the beginning of a relative path, when the components of the path are asked for.
-/

namespace GenModel

namespace Path

/-- Whether the path begins at the root. -/
def isAbsolute (path : String) : Bool :=
  path.toList.head? == some '/'

/-- Whether the path ends with a slash. -/
def endsWithSlash (path : String) : Bool :=
  path.toList.getLast? == some '/'

/-- The path of `child` as seen from `base`. An absolute child stands for itself. -/
def join (base child : String) : String :=
  if isAbsolute child then child
  else if base = "" ∨ endsWithSlash base then base ++ child
  else base ++ "/" ++ child

/-- The names of the path, dots among them. -/
def segments (path : String) : List String :=
  Text.tokensBy (· == '/') path

/-- The names of the path without single dots, except for one that begins a relative path. -/
def components (path : String) : List String :=
  match segments path with
  | [] => []
  | first :: rest =>
    (if first = "." ∧ isAbsolute path then [] else [first]) ++ rest.filter fun name => name != "."

/-- The last component of the path, if it is a name of its own. -/
def fileName? (path : String) : Option String :=
  (components path).getLast?.filter fun name => name != "." && name != ".."

/-- The part of a file name after its last dot, unless that dot is the first character. -/
def extensionOf? (name : String) : Option String :=
  let afterDot := name.toList.reverse.takeWhile fun c => c != '.'
  match name.toList.reverse.dropWhile fun c => c != '.' with
  | [] => none
  | [_] => none
  | _ => some (String.ofList afterDot.reverse)

/-- The extension of the file that the path names. -/
def extension? (path : String) : Option String :=
  (fileName? path).bind extensionOf?

end Path

end GenModel
