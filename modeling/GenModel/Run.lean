import GenModel.Registry
import GenModel.Render
import GenModel.Target

/-!
# Runs

A run writes a model in the languages of a list of targets. All targets are looked up before
anything is generated. Then each target's files are generated as a whole and handed to a sink
one after the other. The first failure ends the run; what the sink has taken stays with it.
-/

namespace GenModel

/-- Where a run delivers its files. `save` takes a file or refuses it, and `finished` is told of
each target when all of its files are saved. -/
structure Sink (m : Type → Type) where
  save : (language : Language) → (file : SourceFile) → ExceptT Error m Unit
  finished : (target : Target) → (language : Language) → (files : Nat) → m Unit

namespace Run

variable {m : Type → Type} [Monad m]

/-- The languages of the targets, in order. -/
def resolve (registry : Registry) (targets : List Target) :
    Except Error (List (Target × Language)) :=
  targets.mapM fun target => (registry.find target.language).map fun language => (target, language)

/-- The files of a model for one target. -/
def filesOf (model : List Declaration) (generatedAt : Instant) (target : Target)
    (language : Language) : Except Error (List SourceFile) :=
  language.generateAll ⟨target.package, generatedAt⟩ model

/-- Saves the files one after the other. -/
def saveAll (sink : Sink m) (language : Language) : List SourceFile → ExceptT Error m Unit
  | [] => pure ()
  | file :: rest => do
    sink.save language file
    saveAll sink language rest

/-- Generates and saves the files of every target. Gives the number of files. -/
def deliver (sink : Sink m) (model : List Declaration) (generatedAt : Instant) :
    List (Target × Language) → ExceptT Error m Nat
  | [] => pure 0
  | (target, language) :: rest => do
    let files ← ExceptT.mk (pure (filesOf model generatedAt target language))
    saveAll sink language files
    ExceptT.lift (sink.finished target language files.length)
    let others ← deliver sink model generatedAt rest
    pure (files.length + others)

end Run

/-- Writes a model in the languages of the targets. Gives the number of files. -/
def run {m : Type → Type} [Monad m] (registry : Registry) (sink : Sink m)
    (model : List Declaration) (targets : List Target) (generatedAt : Instant) :
    ExceptT Error m Nat := do
  let resolved ← ExceptT.mk (pure (Run.resolve registry targets))
  Run.deliver sink model generatedAt resolved

/-- A sink that collects the files with their languages, and refuses any more when it holds as
many as the limit says. -/
def collectingSink (limit : Option Nat) : Sink (StateM (List (Language × SourceFile))) where
  save language file := ExceptT.mk fun saved =>
    if limit.any fun most => most ≤ saved.length then (.error (.file .readOnly), saved)
    else (.ok (), saved ++ [(language, file)])
  finished _ _ _ := pure ()

end GenModel
