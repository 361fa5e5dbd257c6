import GenModel.Command
import Std.Time.DateTime.Timestamp

/-!
# The program

The real machine as a host, and the entry point. Everything is decided by `Command.invoke`.
-/

namespace GenModel

namespace Main

/-- What the machine reports of a file. -/
def fileError : IO.Error → FileError
  | .noFileOrDirectory _ _ _ => .notFound
  | .alreadyExists _ _ _ => .alreadyExists
  | .inappropriateType _ 20 _ => .notDirectory
  | .inappropriateType _ 21 _ => .isDirectory
  | .invalidArgument _ 36 _ => .nameTooLong
  | error => .other (toString error)

/-- The result of an action on a file. -/
def attempt {α : Type} (action : IO α) : IO (Except FileError α) := do
  try
    return .ok (← action)
  catch error =>
    return .error (fileError error)

/-- Makes one folder, or finds that it is there. -/
def ensureFolder (path : String) : IO Unit := do
  try
    IO.FS.createDir ⟨path⟩
  catch error =>
    let isThere ←
      try
        (← IO.FS.realPath ⟨path⟩).isDir
      catch _ =>
        pure false
    unless isThere do
      throw error

/-- Makes a folder and, if one of the folders above it is missing, first those: `above` holds their
paths from the innermost out. -/
def makeWay (path : String) : List String → IO Unit
  | [] => ensureFolder path
  | parent :: above => do
    try
      ensureFolder path
    catch
      | .noFileOrDirectory _ _ _ =>
        makeWay parent above
        ensureFolder path
      | error => throw error

/-- The paths of the folders above a path, from the innermost out. -/
def pathsAbove (path : String) : List String :=
  let names := (Path.components path).dropLast
  let root := if Path.isAbsolute path then "/" else ""
  (List.range names.length).reverse.map fun depth =>
    root ++ "/".intercalate (names.take (depth + 1))

/-- The real machine. Events are not shown. -/
def machine : Host IO where
  read path := attempt (IO.FS.readBinFile ⟨path⟩)
  makeFolders path := attempt (if path = "" then pure () else makeWay path (pathsAbove path))
  write path content := attempt (IO.FS.writeFile ⟨path⟩ content)
  note _ := pure ()

/-- The present time, to the second. -/
def present : IO Instant := do
  let now ← Std.Time.Timestamp.now
  match Instant.of? now.toSecondsSinceUnixEpoch.val 0 with
  | some instant => pure instant
  | none => throw (IO.userError "the clock is out of range")

end Main

end GenModel

/-- Carries out the arguments on the real machine. -/
def main (arguments : List String) : IO UInt32 := do
  let outcome ← GenModel.Command.invoke GenModel.Main.machine (← GenModel.Main.present) arguments
  (← IO.getStdout).putStr outcome.output
  match outcome.report? with
  | some report => (← IO.getStderr).putStr report
  | none =>
    if outcome.exitCode = 2 then
      (← IO.getStderr).putStr "Usage: modelgen [OPTIONS] <FILE> [TARGETS]...\n"
  return outcome.exitCode
