/-!
# Targets

A target names a language and may name a package after a colon. Only the first colon separates;
an empty package is no package.
-/

namespace GenModel

/-- A requested language and the package for its declarations. -/
structure Target where
  language : String
  package : Option String
  deriving DecidableEq, Repr

namespace Target

/-- Reads a target. -/
def ofText (text : String) : Target where
  language := String.ofList (text.toList.takeWhile fun c => c != ':')
  package :=
    match text.toList.dropWhile fun c => c != ':' with
    | [] => none
    | [_] => none
    | _ :: name => some (String.ofList name)

/-- Writes a target. -/
def text (target : Target) : String :=
  match target.package with
  | some name => target.language ++ ":" ++ name
  | none => target.language

end Target

end GenModel
