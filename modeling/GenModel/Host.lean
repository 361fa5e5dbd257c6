import GenModel.Disk
import GenModel.Event
import GenModel.Run

/-!
# Hosts

What a run needs of the machine that it works on: reading a file, making folders, writing a file
and noting events. A disk is such a host, and so is the real machine. The model is read from a
`.gen` file, and the generated files go to a folder for each language and time.
-/

namespace GenModel

/-- The operations of the machine that a run works on. -/
structure Host (m : Type → Type) where
  read : (path : String) → m (Except FileError ByteArray)
  makeFolders : (path : String) → m (Except FileError Unit)
  write : (path content : String) → m (Except FileError Unit)
  note : Event → m Unit

namespace Disk

/-- A disk as a host that forgets the events. -/
def host : Host (StateM Disk) where
  read path := fun disk => (disk.read path, disk)
  makeFolders path := fun disk => disk.makeFolders path
  write path content := fun disk =>
    match disk.write path content.toUTF8 with
    | .ok written => (.ok (), written)
    | .error error => (.error error, disk)
  note _ := pure ()

end Disk

namespace Host

variable {m : Type → Type} [Monad m]

/-- The host together with a list of the events that were noted. -/
def traced (host : Host m) : Host (StateT (List Event) m) where
  read path := StateT.lift (host.read path)
  makeFolders path := StateT.lift (host.makeFolders path)
  write path content := StateT.lift (host.write path content)
  note event := fun events => pure ((), events ++ [event])

/-- Notes the events one after the other. -/
def noteAll (host : Host m) : List Event → m Unit
  | [] => pure ()
  | event :: rest => do
    host.note event
    host.noteAll rest

/-- The declarations of a source text, with its events noted. -/
def parse (host : Host m) (text : String) : ExceptT Error m (List Declaration) := do
  ExceptT.lift (host.noteAll (Source.read text).events)
  ExceptT.mk (pure (Source.parse text))

/-- The declarations of a `.gen` file. A file of another kind is refused unread. -/
def load (host : Host m) (path : String) : ExceptT Error m (List Declaration) := do
  if Path.extension? path ≠ some "gen" then throw (.wrongExtension path)
  match ← ExceptT.lift (host.read path) with
  | .error cause => throw (.file cause)
  | .ok bytes =>
    match String.fromUTF8? bytes with
    | none => throw (.file .notText)
    | some text => host.parse text

/-- Writes a generated file into a folder, which is made if it is missing. -/
def writeFile (host : Host m) (folder : String) (file : SourceFile) : ExceptT Error m Unit := do
  match ← ExceptT.lift (host.makeFolders folder) with
  | .error cause => throw (.write folder cause)
  | .ok () =>
    let path := Path.join folder file.name
    match ← ExceptT.lift (host.write path file.code) with
    | .error cause => throw (.write path cause)
    | .ok () => ExceptT.lift (host.note (.wrote path))

end Host

/-- The folder for the files of a language that are generated at a time. -/
def outputFolder (root : String) (generatedAt : Instant) (language : String) : String :=
  Path.join (Path.join root language) generatedAt.directoryStamp

/-- A sink that writes every file into the folder of its language and time. -/
def directorySink {m : Type → Type} [Monad m] (host : Host m) (root : String)
    (generatedAt : Instant) : Sink m where
  save language file := host.writeFile (outputFolder root generatedAt language.name) file
  finished target language files := host.note (.generated target language files)

end GenModel
