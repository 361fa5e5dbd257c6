import GenModel.Declaration
import GenModel.Language

/-!
# Failures

Everything that can go wrong between a source text and the written files, as causes. The
wordings are in one place; `causes` gives the wordings of what lies behind a failure, outermost
first.
-/

namespace GenModel

/-- Why a file cannot be read or written. -/
inductive FileError where
  | notFound
  | alreadyExists
  | notDirectory
  | isDirectory
  | nameTooLong
  | notText
  | nulInName
  | readOnly
  | other (description : String)
  deriving DecidableEq, Repr

namespace FileError

/-- The wording of the failure. -/
def message : FileError → String
  | notFound => "No such file or directory (os error 2)"
  | alreadyExists => "File exists (os error 17)"
  | notDirectory => "Not a directory (os error 20)"
  | isDirectory => "Is a directory (os error 21)"
  | nameTooLong => "File name too long (os error 36)"
  | notText => "stream did not contain valid UTF-8"
  | nulInName => "file name contained an unexpected NUL byte"
  | readOnly => "read-only"
  | other description => description

end FileError

/-- What a line of a source was expected to be. -/
inductive Expectation where
  | declaration
  | openingBrace
  | noOpeningBrace
  | entry
  deriving DecidableEq, Repr

namespace Expectation

/-- The wording of the expectation. -/
def message : Expectation → String
  | declaration => "expected a `class <name>` or `enum <name>` declaration"
  | openingBrace => "expected `\x7b` after declaration"
  | noOpeningBrace => "unexpected `\x7b` inside a declaration body"
  | entry => "expected `<name> <value>` body line"

end Expectation

/-- Why an enum has no constants in a language. -/
inductive ConstantFault where
  | unusable (valueName : String)
  | taken (valueName constant : String)
  deriving DecidableEq, Repr

namespace ConstantFault

/-- The wording of the fault. -/
def message : ConstantFault → String
  | unusable valueName => "value '" ++ valueName ++ "' has no usable identifier characters"
  | taken valueName constant =>
    "value '" ++ valueName ++ "' renders to '" ++ constant ++ "', which is already taken"

end ConstantFault

/-- A failure: of a line of the source, of a request, or of a file. -/
inductive Error where
  | malformed (line : Nat) (content : String) (expectation : Expectation)
  | refused (line : Nat) (content : String) (cause : EntryError)
  | unsupportedLanguage (name : String)
  | wrongExtension (path : String)
  | generation (language : Language) (owner : String) (fault : ConstantFault)
  | write (path : String) (cause : FileError)
  | file (cause : FileError)
  deriving DecidableEq, Repr

namespace Error

/-- The wording of the failure. -/
def message : Error → String
  | malformed line content expectation =>
    "syntax error at line " ++ Text.decimalNat line ++ ": " ++ expectation.message ++
      " (`" ++ content ++ "`)"
  | refused line content cause =>
    "line " ++ Text.decimalNat line ++ ": " ++ cause.message ++ " (`" ++ content ++ "`)"
  | unsupportedLanguage name => "received unsupported language '" ++ name ++ "'"
  | wrongExtension path =>
    "tried to parse a file with wrong type: " ++ path ++ ". only .gen files are supported"
  | generation language owner fault =>
    "cannot generate " ++ language.name ++ " code for '" ++ owner ++ "': " ++ fault.message
  | write path cause => "writing generated file " ++ path ++ ": " ++ cause.message
  | file cause => "IO error: " ++ cause.message

/-- The line of the source that the failure is about, counted from one. -/
def line? : Error → Option Nat
  | malformed line _ _ => some line
  | refused line _ _ => some line
  | _ => none

/-- The wordings of what lies behind the failure. -/
def causes : Error → List String
  | refused _ _ cause => cause.message :: cause.causes
  | write _ cause => [cause.message]
  | file cause => [cause.message]
  | _ => []

end Error

end GenModel
