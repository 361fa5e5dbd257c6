import GenModel.Target

/-!
# Arguments of the command line

The arguments name a model file and the targets, in this order, with options anywhere between
them until a double hyphen. They are read from left to right, so that of a request for help and
a mistake the one that comes first decides. The word `help` in the first place asks for the long
help, whatever follows it.
-/

namespace GenModel

/-- What the command is asked to do with a model file. -/
structure Request where
  file : String
  targets : List Target
  output : String
  dumpModel : Bool
  deriving DecidableEq, Repr

/-- What the arguments ask for. -/
inductive Invocation where
  | longHelp
  | shortHelp
  | version
  | misuse
  | perform (request : Request)
  deriving DecidableEq, Repr

namespace Arguments

/-- What has been read of the arguments. -/
structure Collected where
  file : Option String
  targets : List Target
  output : Option String
  dumpModel : Bool

namespace Collected

/-- Nothing has been read. -/
def empty : Collected :=
  ⟨none, [], none, false⟩

/-- Takes an argument that is no option: the file, which must not be empty, then targets. -/
def addPositional (collected : Collected) (argument : String) : Option Collected :=
  match collected.file with
  | some _ => some { collected with targets := collected.targets ++ [Target.ofText argument] }
  | none => if argument = "" then none else some { collected with file := some argument }

/-- Takes the output directory, which must not be empty and not be given twice. -/
def setOutput (collected : Collected) (value : String) : Option Collected :=
  if value = "" ∨ collected.output.isSome then none
  else some { collected with output := some value }

/-- Takes the request for the model, which must not be given twice. -/
def setDumpModel (collected : Collected) : Option Collected :=
  if collected.dumpModel then none else some { collected with dumpModel := true }

/-- What the arguments ask for when all are read. There has to be a file, and a target unless the
model is asked for. -/
def finish (collected : Collected) : Invocation :=
  match collected.file with
  | none => .misuse
  | some file =>
    if collected.targets.isEmpty ∧ ¬collected.dumpModel then .misuse
    else
      .perform {
        file := file
        targets := collected.targets
        output := collected.output.getD "."
        dumpModel := collected.dumpModel
      }

end Collected

/-- What one argument means. -/
inductive Meaning where
  | endOfOptions
  | shortHelp
  | version
  | dumpModel
  | output (value : String)
  | outputAhead
  | positional
  | unknown
  deriving DecidableEq, Repr

/-- The value that follows an option in the same argument, after an equals sign or directly. -/
def attachedValue : List Char → String
  | '=' :: value => String.ofList value
  | value => String.ofList value

/-- What an argument with one hyphen means. Only the first letter counts, since each option either
ends the reading or takes the rest as its value. -/
def shortMeaning : List Char → Meaning
  | 'h' :: _ => .shortHelp
  | 'V' :: _ => .version
  | ['o'] => .outputAhead
  | 'o' :: value => .output (attachedValue value)
  | _ => .unknown

/-- What an argument with two hyphens means. -/
def longMeaning (name : List Char) : Meaning :=
  if name = "help".toList then .shortHelp
  else if name = "version".toList then .version
  else if name = "dump-model".toList then .dumpModel
  else if name = "output".toList then .outputAhead
  else if "output=".toList.isPrefixOf name then .output (String.ofList (name.drop 7))
  else .unknown

/-- What an argument means while options are allowed. -/
def meaning (argument : String) : Meaning :=
  match argument.toList with
  | ['-', '-'] => .endOfOptions
  | '-' :: '-' :: name => longMeaning name
  | ['-'] => .positional
  | '-' :: letters => shortMeaning letters
  | _ => .positional

/-- How the reading goes on after an argument. -/
inductive Progress where
  | options (collected : Collected)
  | outputValue (collected : Collected)
  | positionals (collected : Collected)
  | decided (invocation : Invocation)

namespace Progress

/-- Goes on with options, unless the argument was refused. -/
def ofOption : Option Collected → Progress
  | some collected => options collected
  | none => decided .misuse

end Progress

/-- Takes an argument while options are allowed. -/
def advance (collected : Collected) (argument : String) : Progress :=
  match meaning argument with
  | .endOfOptions => .positionals collected
  | .shortHelp => .decided .shortHelp
  | .version => .decided .version
  | .dumpModel => .ofOption collected.setDumpModel
  | .output value => .ofOption (collected.setOutput value)
  | .outputAhead => .outputValue collected
  | .positional => .ofOption (collected.addPositional argument)
  | .unknown => .decided .misuse

/-- Takes an argument after an option that needs a value. -/
def advanceValue (collected : Collected) (argument : String) : Progress :=
  if meaning argument = .positional then .ofOption (collected.setOutput argument)
  else .decided .misuse

/-- Takes an argument after the end of the options. -/
def advancePositional (collected : Collected) (argument : String) : Progress :=
  match collected.addPositional argument with
  | some extended => .positionals extended
  | none => .decided .misuse

namespace Progress

/-- The progress after one more argument. -/
def next (progress : Progress) (argument : String) : Progress :=
  match progress with
  | options collected => advance collected argument
  | outputValue collected => advanceValue collected argument
  | positionals collected => advancePositional collected argument
  | decided invocation => decided invocation

/-- What the arguments ask for if there are no more. -/
def finish : Progress → Invocation
  | options collected => collected.finish
  | outputValue _ => .misuse
  | positionals collected => collected.finish
  | decided invocation => invocation

end Progress

/-- What the arguments ask for. -/
def read (arguments : List String) : Invocation :=
  if arguments.head? = some "help" then .longHelp
  else (arguments.foldl Progress.next (.options .empty)).finish

end Arguments

end GenModel
