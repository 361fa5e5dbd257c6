import GenModel.Arguments
import GenModel.Dump
import GenModel.Host

/-!
# The command

Carries out what the arguments ask for. The languages of all targets are looked up before the
model file is read; then the model is either printed or written into the output directory. A
failure is reported with what was being done and with everything that lies behind it.
-/

namespace GenModel

namespace Command

/-- A failure and what was being done. -/
structure Failure where
  activity : Option String
  error : Error
  deriving DecidableEq, Repr

/-- A text that may have several lines, the first after `lead` and the others after `margin`. -/
def indented (lead margin text : String) : String :=
  lead ++ ("\n" ++ margin).intercalate
    ((Text.pieces (· == '\n') text.toList).map String.ofList)

/-- The number of a cause and a colon, the number being at least five characters wide. -/
def numberLead (number : Nat) : String :=
  String.ofList (List.replicate (5 - (Text.decimalNat number).length) ' ') ++
    Text.decimalNat number ++ ": "

/-- The causes, each on lines of its own after its number. -/
def numberedCauses (number : Nat) : List String → String
  | [] => ""
  | cause :: rest =>
    "\n" ++ indented (numberLead number) "       " cause ++ numberedCauses (number + 1) rest

/-- What a report says of the causes. A single one has no number. -/
def causesText : List String → String
  | [] => ""
  | [cause] => "\n\nCaused by:\n" ++ indented "    " "    " cause
  | causes => "\n\nCaused by:" ++ numberedCauses 0 causes

namespace Failure

/-- The report of a failure. -/
def report (failure : Failure) : String :=
  match failure.activity with
  | none => "Error: " ++ failure.error.message ++ causesText failure.error.causes ++ "\n"
  | some activity =>
    "Error: " ++ activity ++ causesText (failure.error.message :: failure.error.causes) ++ "\n"

end Failure

/-- How the command ends: with a text that is printed, with a failure, or with a mistake in its
arguments. -/
inductive Outcome where
  | printed (text : String)
  | failed (failure : Failure)
  | misused
  deriving DecidableEq, Repr

namespace Outcome

/-- The exit code. -/
def exitCode : Outcome → UInt32
  | printed _ => 0
  | failed _ => 1
  | misused => 2

/-- What is printed. -/
def output : Outcome → String
  | printed text => text
  | _ => ""

/-- What is reported, if there is a failure. -/
def report? : Outcome → Option String
  | failed failure => some failure.report
  | _ => none

end Outcome

/-- The lines that the help ends with. -/
def helpNotes : List String :=
  [
    "",
    "Targets are written as language:package; the package part is optional.",
    "Supported languages: go, kotlin, csharp (or c#) and typescript.",
    "Generated files are placed under <OUTPUT>/<language>/<timestamp>/."
  ]

/-- The lines that the help begins with. -/
def helpUsage : List String :=
  [
    "Convert a \"gen\" file into model declarations for different languages.",
    "",
    "Usage: modelgen [OPTIONS] <FILE> [TARGETS]...",
    "",
    "Arguments:"
  ]

/-- The help with one line for each argument. -/
def shortHelp : String :=
  Text.unlines
    (helpUsage ++
      [
        "  <FILE>        Path to the .gen model file",
        "  [TARGETS]...  Target languages, e.g. go:models kotlin:com.example csharp",
        "",
        "Options:",
        "  -o, --output <OUTPUT>  Root directory for generated files [default: .]",
        "      --dump-model       Print the parsed model as JSON instead of generating code",
        "  -h, --help             Print help",
        "  -V, --version          Print version"
      ] ++ helpNotes)

/-- The help with a paragraph for each argument. -/
def longHelp : String :=
  Text.unlines
    (helpUsage ++
      [
        "  <FILE>",
        "          Path to the .gen model file",
        "",
        "  [TARGETS]...",
        "          Target languages, e.g. go:models kotlin:com.example csharp",
        "",
        "Options:",
        "  -o, --output <OUTPUT>",
        "          Root directory for generated files",
        "          ",
        "          [default: .]",
        "",
        "      --dump-model",
        "          Print the parsed model as JSON instead of generating code",
        "",
        "  -h, --help",
        "          Print help",
        "",
        "  -V, --version",
        "          Print version"
      ] ++ helpNotes)

/-- The version. -/
def version : String :=
  "modelgen 0.1.0\n"

variable {m : Type → Type} [Monad m]

/-- Carries out a request. Gives the text that is printed. -/
def perform (host : Host m) (now : Instant) (request : Request) : ExceptT Failure m String := do
  let registry := Registry.defaults
  let _ ← (ExceptT.mk (pure (Run.resolve registry request.targets))).adapt (Failure.mk none)
  let model ← (host.load request.file).adapt (Failure.mk (some ("parsing " ++ request.file)))
  if request.dumpModel then
    pure (Dump.model model ++ "\n")
  else
    let sink := directorySink host request.output now
    let _ ← (run registry sink model request.targets now).adapt
      (Failure.mk (some "generating code"))
    pure ""

/-- Carries out what the arguments ask for. -/
def invoke (host : Host m) (now : Instant) (arguments : List String) : m Outcome :=
  match Arguments.read arguments with
  | .longHelp => pure (.printed longHelp)
  | .shortHelp => pure (.printed shortHelp)
  | .version => pure (.printed version)
  | .misuse => pure .misused
  | .perform request => do
    match ← (perform host now request).run with
    | .ok text => pure (.printed text)
    | .error failure => pure (.failed failure)

end Command

end GenModel
