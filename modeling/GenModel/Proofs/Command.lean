import GenModel.Command
import GenModel.Proofs.Json
import GenModel.Proofs.Render.Constants
import GenModel.Proofs.Run.OnDisk

/-!
# The stages of the command

A request goes through its stages in a fixed order: the languages of the targets are looked up, the
model file is read, and then the model is printed or generated. The first stage that fails decides
the report, and before the generation nothing on the disk changes.

A run after the first stage can only fail in two more ways. A save fails because of a folder or a
file, and a target because of the constants of an enum, so that the languages are never reported
late.
-/

namespace GenModel

namespace Language

theorem exists_generation_of_generate {language : Language} {settings : Settings}
    {declaration : Declaration} {error : Error}
    (failed : language.generate settings declaration = .error error) :
    ∃ owner fault, error = .generation language owner fault := by
  cases spelled : language.ownSpelling? with
  | none =>
      rcases exists_generate_eq_ok spelled settings declaration with ⟨file, generated⟩
      simp [generated] at failed
  | some spell =>
      rcases generate_cases spelled declaration with ⟨-, generates⟩ |
        ⟨owner, entry, -, -, -, reported⟩
      · rcases generates settings with ⟨file, generated⟩
        simp [generated] at failed
      · rw [reported, Except.error.injEq] at failed
        exact ⟨owner.name, _, failed.symm⟩

end Language

namespace Run

theorem exists_generation_of_failure? {model : List Declaration} {generatedAt : Instant}
    {resolved : List (Target × Language)} {error : Error}
    (failed : failure? model generatedAt resolved = some error) :
    ∃ language owner fault, error = .generation language owner fault := by
  rcases List.exists_of_findSome?_eq_some failed with ⟨pair, -, found⟩
  cases result : filesOf model generatedAt pair.1 pair.2 with
  | ok files => simp [result] at found
  | error cause =>
      simp only [result, Option.some.injEq] at found
      subst cause
      rcases mapM_eq_error_iff.mp result with ⟨before, declaration, after, -, -, refused⟩
      exact ⟨pair.2, Language.exists_generation_of_generate refused⟩

section Disks

variable {root : String} {generatedAt : Instant} {disk final : Disk} {error : Error}

theorem exists_write_of_save {language : Language} {file : SourceFile}
    (refused : outcome ((directorySink Disk.host root generatedAt).save language file) disk =
      (.error error, final)) :
    ∃ path cause, error = .write path cause := by
  simp only [directorySink, outcome_writeFile] at refused
  split at refused
  · rcases refused with ⟨rfl, -⟩
    exact ⟨_, _, rfl⟩
  · split at refused
    · rcases refused with ⟨rfl, -⟩
      exact ⟨_, _, rfl⟩
    · simp at refused

theorem exists_write_of_saving {pairs : List (Language × SourceFile)} {count : Nat}
    (saving : Saving (directorySink Disk.host root generatedAt) pairs count disk (.error error)
      final) :
    ∃ path cause, error = .write path cause := by
  generalize ended : (.error error : Except Error Unit) = result at saving
  induction saving with
  | done => simp at ended
  | refused refused =>
      rw [Except.error.injEq] at ended
      subst ended
      exact exists_write_of_save refused
  | saved _ _ ih => exact ih ended

/-- A run whose languages are all registered does not report a language. -/
theorem ne_unsupportedLanguage_of_run {registry : Registry} {model : List Declaration}
    {targets : List Target} {result : Except Error Nat}
    (registered : ∀ target ∈ targets, target.language ∈ registry.names)
    (ended : outcome (run registry (directorySink Disk.host root generatedAt) model targets
      generatedAt) disk = (result, final)) (name : String) :
    result ≠ .error (.unsupportedLanguage name) := by
  rintro rfl
  rcases resolve_of_forall_mem registered with ⟨resolved, found⟩
  rw [outcome_run_of_resolve_ok (fun _ _ _ => rfl) found] at ended
  rcases attempt : outcome (saveEach (directorySink Disk.host root generatedAt)
    (saves model generatedAt resolved)) disk with ⟨cause | _, reached⟩
  · rw [attempt] at ended
    rcases ended with ⟨rfl, rfl⟩
    rcases Saving.exists_of_outcome attempt with ⟨count, saving⟩
    rcases exists_write_of_saving saving with ⟨path, cause, same⟩
    simp at same
  · rw [attempt, Prod.mk.injEq] at ended
    cases failed : failure? model generatedAt resolved with
    | none => simp [ending, failed] at ended
    | some cause =>
        rcases exists_generation_of_failure? failed with ⟨language, owner, fault, rfl⟩
        simp [ending, failed] at ended

end Disks

end Run

namespace Host

variable {m : Type → Type} [Monad m] [LawfulMonad m]

/-- A file with a wrong extension is refused without a look at it. -/
theorem load_of_wrongExtension (host : Host m) {path : String}
    (wrong : Path.extension? path ≠ some "gen") :
    host.load path = throw (.wrongExtension path) := by
  apply ExceptT.ext
  simp [load, wrong]

end Host

namespace Disk

theorem noteAll_host (events : List Event) : host.noteAll events = pure () := by
  induction events with
  | nil => rfl
  | cons event rest ih =>
      rw [Host.noteAll, ih]
      rfl

/-- Reading a model leaves the disk as it is. The extension, the file and its encoding are looked
at in this order, and then the text is parsed. -/
theorem outcome_load (path : String) (disk : Disk) :
    Run.outcome (host.load path) disk =
      (if Path.extension? path ≠ some "gen" then .error (.wrongExtension path)
        else
          match disk.read path with
          | .error cause => .error (.file cause)
          | .ok bytes =>
            match String.fromUTF8? bytes with
            | none => .error (.file .notText)
            | some text => Source.parse text,
        disk) := by
  by_cases wrong : Path.extension? path ≠ some "gen"
  · rw [Host.load_of_wrongExtension host wrong, Run.outcome_throw, if_pos wrong]
  · have unchanged : host.read path disk = (disk.read path, disk) := rfl
    rw [if_neg wrong, Host.load, if_neg wrong, Run.outcome_bind, Run.outcome_lift, unchanged]
    cases disk.read path with
    | error cause => rfl
    | ok bytes =>
        cases decoded : String.fromUTF8? bytes with
        | none => simp [decoded]
        | some text => simp [decoded, Host.parse, noteAll_host]

end Disk

namespace Command

open Run (outcome)

namespace Outcome

/-- How the command ends when a request is carried out. -/
def ofResult : Except Failure String → Outcome
  | .ok text => printed text
  | .error failure => failed failure

/-- How the command ends when a model is generated. -/
def ofRun : Except Error Nat → Outcome
  | .ok _ => printed ""
  | .error error => failed ⟨some "generating code", error⟩

end Outcome

/-- How the command ends for a request, and the disk that it leaves behind. -/
def conclusion (now : Instant) (request : Request) (disk : Disk) : Outcome × Disk :=
  ((Outcome.ofResult <$> (perform Disk.host now request).run).run disk).run

/-- The first target whose language is not registered. -/
def unregistered? (targets : List Target) : Option Target :=
  targets.find? fun target => target.language ∉ Registry.defaults.names

/-- A failure of an action is reported with the activity, and the next one is not begun. -/
theorem run_adapt_bind {α β : Type} (action : ExceptT Error (StateM Disk) α)
    (activity : Option String) (next : α → ExceptT Failure (StateM Disk) β) (disk : Disk) :
    ((action.adapt (Failure.mk activity) >>= next).run.run disk).run =
      match outcome action disk with
      | (.ok value, reached) => ((next value).run.run reached).run
      | (.error error, reached) => (.error ⟨activity, error⟩, reached) := by
  simp only [outcome, ExceptT.run_bind, StateT.run_bind, Id.run_bind, ExceptT.run_adapt,
    StateT.run_map, Id.run_map]
  rcases (action.run.run disk).run with ⟨_ | _, _⟩ <;> rfl

section Conclusion

variable (now : Instant) (request : Request) (disk : Disk)

theorem invoke_of_read {arguments : List String}
    (asked : Arguments.read arguments = .perform request) :
    ((invoke Disk.host now arguments).run disk).run = conclusion now request disk := by
  have ends : invoke Disk.host now arguments =
      Outcome.ofResult <$> (perform Disk.host now request).run := by
    rw [invoke, asked, map_eq_pure_bind]
    apply bind_congr
    intro result
    cases result <;> rfl
  rw [ends, conclusion]

/-- The languages are looked up, the model is read, and then it is printed or generated. -/
theorem conclusion_eq :
    conclusion now request disk =
      match Run.resolve Registry.defaults request.targets with
      | .error error => (.failed ⟨none, error⟩, disk)
      | .ok _ =>
        match (outcome (Disk.host.load request.file) disk).1 with
        | .error error => (.failed ⟨some ("parsing " ++ request.file), error⟩, disk)
        | .ok model =>
          if request.dumpModel then (.printed (Dump.model model ++ "\n"), disk)
          else
            (outcome (run Registry.defaults (directorySink Disk.host request.output now) model
              request.targets now) disk).map Outcome.ofRun id := by
  have loaded : outcome (Disk.host.load request.file) disk =
      ((outcome (Disk.host.load request.file) disk).1, disk) := by
    rw [Disk.outcome_load]
  -- Each stage is the first action of what is left of the request.
  rw [conclusion, StateT.run_map, Id.run_map, perform, run_adapt_bind, Run.outcome_mk_pure]
  cases Run.resolve Registry.defaults request.targets with
  | error error => rfl
  | ok resolved =>
      simp only
      rw [run_adapt_bind, loaded]
      cases (outcome (Disk.host.load request.file) disk).1 with
      | error error => rfl
      | ok model =>
          simp only
          by_cases dumps : request.dumpModel = true
          · rw [if_pos dumps, if_pos dumps]
            rfl
          · rw [if_neg dumps, if_neg dumps, run_adapt_bind]
            rcases outcome (run Registry.defaults (directorySink Disk.host request.output now)
              model request.targets now) disk with ⟨_ | _, _⟩ <;> rfl

end Conclusion

/-- The stages of a request on a disk, in their order. -/
structure Stages (now : Instant) (request : Request) (disk : Disk) : Prop where
  invoked : ∀ arguments, Arguments.read arguments = .perform request →
    ((invoke Disk.host now arguments).run disk).run = conclusion now request disk
  unregistered : ∀ target, unregistered? request.targets = some target →
    conclusion now request disk = (.failed ⟨none, .unsupportedLanguage target.language⟩, disk)
  unloaded : unregistered? request.targets = none → ∀ error,
    (outcome (Disk.host.load request.file) disk).1 = .error error →
      conclusion now request disk =
        (.failed ⟨some ("parsing " ++ request.file), error⟩, disk)
  dumped : unregistered? request.targets = none → ∀ model,
    (outcome (Disk.host.load request.file) disk).1 = .ok model → request.dumpModel = true →
      conclusion now request disk = (.printed (Dump.model model ++ "\n"), disk) ∧
        Json.Writes (Json.ofModel model) (Dump.model model ++ "\n")
  generated : unregistered? request.targets = none → ∀ model,
    (outcome (Disk.host.load request.file) disk).1 = .ok model → request.dumpModel = false →
      ∀ result final,
        outcome (run Registry.defaults (directorySink Disk.host request.output now) model
          request.targets now) disk = (result, final) →
        conclusion now request disk = (.ofRun result, final) ∧
          ∀ name, result ≠ .error (.unsupportedLanguage name)
  prints : (conclusion now request disk).1.output ≠ "" ↔
    unregistered? request.targets = none ∧ request.dumpModel = true ∧
      ∃ model, (outcome (Disk.host.load request.file) disk).1 = .ok model

/-- How the model of a request is read from a disk: its extension is looked at before the file, and
the file before the text in it. -/
structure Loads (path : String) (disk : Disk) : Prop where
  unread : Path.extension? path ≠ some "gen" →
    ∀ {m : Type → Type} [Monad m] [LawfulMonad m] (host : Host m),
      host.load path = throw (.wrongExtension path)
  unreadable : Path.extension? path = some "gen" → ∀ cause, disk.read path = .error cause →
    outcome (Disk.host.load path) disk = (.error (.file cause), disk)
  notText : Path.extension? path = some "gen" → ∀ bytes, disk.read path = .ok bytes →
    String.fromUTF8? bytes = none →
      outcome (Disk.host.load path) disk = (.error (.file .notText), disk)
  parsed : Path.extension? path = some "gen" → ∀ bytes, disk.read path = .ok bytes →
    ∀ text, String.fromUTF8? bytes = some text →
      outcome (Disk.host.load path) disk = (Source.parse text, disk)

theorem loads (path : String) (disk : Disk) : Loads path disk := by
  refine ⟨?_, ?_, ?_, ?_⟩
  · intro wrong m _ _ host
    exact host.load_of_wrongExtension wrong
  · intro isGen cause failed
    simp [Disk.outcome_load, isGen, failed]
  · intro isGen bytes found undecoded
    simp [Disk.outcome_load, isGen, found, undecoded]
  · intro isGen bytes found text decoded
    simp [Disk.outcome_load, isGen, found, decoded]

section Order

variable {now : Instant} {request : Request} {disk : Disk}

theorem registered_of_unregistered?_eq_none (known : unregistered? request.targets = none) :
    ∀ target ∈ request.targets, target.language ∈ Registry.defaults.names := by
  simpa [unregistered?] using known

theorem conclusion_of_unregistered {target : Target}
    (first : unregistered? request.targets = some target) :
    conclusion now request disk =
      (.failed ⟨none, .unsupportedLanguage target.language⟩, disk) := by
  rw [conclusion_eq, Run.resolve_of_find?_eq_some first]

theorem conclusion_of_load_error {error : Error} (known : unregistered? request.targets = none)
    (failed : (outcome (Disk.host.load request.file) disk).1 = .error error) :
    conclusion now request disk =
      (.failed ⟨some ("parsing " ++ request.file), error⟩, disk) := by
  rcases Run.resolve_of_forall_mem (registered_of_unregistered?_eq_none known) with
    ⟨resolved, found⟩
  rw [conclusion_eq, found, failed]

theorem conclusion_of_load_ok {model : List Declaration}
    (known : unregistered? request.targets = none)
    (loaded : (outcome (Disk.host.load request.file) disk).1 = .ok model) :
    conclusion now request disk =
      if request.dumpModel then (.printed (Dump.model model ++ "\n"), disk)
      else
        (outcome (run Registry.defaults (directorySink Disk.host request.output now) model
          request.targets now) disk).map Outcome.ofRun id := by
  rcases Run.resolve_of_forall_mem (registered_of_unregistered?_eq_none known) with
    ⟨resolved, found⟩
  rw [conclusion_eq, found, loaded]

theorem output_ofRun (result : Except Error Nat) : (Outcome.ofRun result).output = "" := by
  cases result <;> rfl

theorem output_conclusion_ne_empty_iff :
    (conclusion now request disk).1.output ≠ "" ↔
      unregistered? request.targets = none ∧ request.dumpModel = true ∧
        ∃ model, (outcome (Disk.host.load request.file) disk).1 = .ok model := by
  cases known : unregistered? request.targets with
  | some target => simp [conclusion_of_unregistered known, Outcome.output]
  | none =>
      cases loaded : (outcome (Disk.host.load request.file) disk).1 with
      | error error => simp [conclusion_of_load_error known loaded, Outcome.output]
      | ok model =>
          rw [conclusion_of_load_ok known loaded]
          by_cases dumps : request.dumpModel = true
          · simp [dumps, Outcome.output]
          · simp [dumps, output_ofRun]

/-- A request is refused for the first language that is not registered, else for its model file.
Then the model is printed as JSON, or it is generated, which is not refused for a language. The disk
changes only if the model is generated, and something is printed only if the model is. -/
theorem stages_of_request (now : Instant) (request : Request) (disk : Disk) :
    Stages now request disk ∧ Loads request.file disk := by
  refine ⟨⟨?_, ?_, ?_, ?_, ?_, output_conclusion_ne_empty_iff⟩, loads request.file disk⟩
  · intro arguments asked
    exact invoke_of_read now request disk asked
  · intro target first
    exact conclusion_of_unregistered first
  · intro known error failed
    exact conclusion_of_load_error known failed
  · intro known model loaded dumps
    refine ⟨?_, Json.writes_model model⟩
    rw [conclusion_of_load_ok known loaded, if_pos dumps]
  · intro known model loaded generates result final ended
    refine ⟨?_, ?_⟩
    · rw [conclusion_of_load_ok known loaded, generates, ended]
      rfl
    · exact Run.ne_unsupportedLanguage_of_run (registered_of_unregistered?_eq_none known) ended

end Order

/-- A disk with one model file, in which there is an enum without values. -/
def oneModel : Disk :=
  ⟨[], [(["m.gen"], .file "enum E\n\x7b\n\x7d\n".toUTF8)]⟩

theorem stages_of_request_oneModel :
    conclusion Run.newYear ⟨"m.txt", [⟨"go", none⟩, ⟨"cobol", none⟩, ⟨"ada", none⟩], ".", true⟩
        oneModel = (.failed ⟨none, .unsupportedLanguage "cobol"⟩, oneModel) ∧
      conclusion Run.newYear ⟨"m.txt", [⟨"go", none⟩], ".", true⟩ oneModel =
        (.failed ⟨some "parsing m.txt", .wrongExtension "m.txt"⟩, oneModel) ∧
      conclusion Run.newYear ⟨"m.gen", [⟨"go", none⟩], ".", true⟩ oneModel =
        (.printed ("[\n  \x7b\n    \"kind\": \"enum\",\n    \"name\": \"E\",\n" ++
          "    \"values\": []\n  \x7d\n]\n"), oneModel) := by
  have registered : unregistered? [⟨"go", none⟩] = none := by
    decide +kernel
  have printed : Dump.model [.ofEnum ⟨"E", []⟩] ++ "\n" =
      "[\n  \x7b\n    \"kind\": \"enum\",\n    \"name\": \"E\",\n" ++
        "    \"values\": []\n  \x7d\n]\n" := by
    decide +kernel
  refine ⟨?_, ?_, ?_⟩
  · have stages := (stages_of_request Run.newYear
      ⟨"m.txt", [⟨"go", none⟩, ⟨"cobol", none⟩, ⟨"ada", none⟩], ".", true⟩ oneModel).1
    exact stages.unregistered ⟨"cobol", none⟩ (by decide +kernel)
  · rcases stages_of_request Run.newYear ⟨"m.txt", [⟨"go", none⟩], ".", true⟩ oneModel with
      ⟨stages, loads⟩
    apply stages.unloaded registered
    rw [loads.unread (by decide +kernel) Disk.host]
    rfl
  · have stages := (stages_of_request Run.newYear ⟨"m.gen", [⟨"go", none⟩], ".", true⟩ oneModel).1
    rw [← printed]
    exact (stages.dumped registered [.ofEnum ⟨"E", []⟩] (by decide +kernel) rfl).1

end Command

end GenModel
