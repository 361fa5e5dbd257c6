import GenModel.Error
import GenModel.Text.Blank
import GenModel.Text.Lines

/-!
# Source text

A model is written line by line. Only the tokens of a line matter, and a line without tokens is
skipped. A declaration is a line `class <name>` or `enum <name>`, a line with an opening brace,
lines with a name and a value each, and a line with a closing brace.

Reading stops at the first line that does not fit. A declaration that is still open when the
text ends is dropped, although its lines have been checked.
-/

namespace GenModel

namespace Source

/-- Whether the character can begin an identifier. -/
def isIdentifierStart (c : Char) : Bool :=
  c.isAlpha || c == '_'

/-- Whether the character can continue an identifier. -/
def isIdentifierRest (c : Char) : Bool :=
  c.isAlphanum || c == '_'

/-- Whether the name is a letter or an underscore followed by letters, digits and underscores of
ASCII. -/
def isIdentifier (name : String) : Bool :=
  match name.toList with
  | [] => false
  | first :: rest => isIdentifierStart first && rest.all isIdentifierRest

/-- The tokens of the line that opens a declaration. -/
def openingLine : List String :=
  ["\x7b"]

/-- The tokens of the line that closes a declaration. -/
def closingLine : List String :=
  ["\x7d"]

/-- What has been read of the declaration at hand. -/
inductive State where
  | outside
  | declared (declaration : Declaration)
  | inside (declaration : Declaration)
  deriving DecidableEq, Repr

/-- What is wrong with a line. -/
inductive Fault where
  | unexpected (expectation : Expectation)
  | refused (cause : EntryError)
  deriving DecidableEq, Repr

namespace Fault

/-- The fault of a line as a failure of the source. -/
def toError (fault : Fault) (line : Nat) (content : String) : Error :=
  match fault with
  | unexpected expectation => .malformed line content expectation
  | refused cause => .refused line content cause

end Fault

/-- The declaration that a line begins. -/
def declaration? : List String → Option Declaration
  | [word, name] =>
    if isIdentifier name then (Kind.ofKeyword? word).map fun kind => .empty kind name else none
  | _ => none

/-- What the tokens of a line do: the declaration that they close, and the state after them. -/
def step (state : State) (lineTokens : List String) :
    Except Fault (Option Declaration × State) :=
  match state with
  | .outside =>
    match declaration? lineTokens with
    | some declaration => .ok (none, .declared declaration)
    | none => .error (.unexpected .declaration)
  | .declared declaration =>
    if lineTokens = openingLine then .ok (none, .inside declaration)
    else .error (.unexpected .openingBrace)
  | .inside declaration =>
    if lineTokens = closingLine then .ok (some declaration, .outside)
    else if lineTokens = openingLine then .error (.unexpected .noOpeningBrace)
    else
      match lineTokens with
      | [name, value] =>
        match declaration.add name value with
        | .ok extended => .ok (none, .inside extended)
        | .error cause => .error (.refused cause)
      | _ => .error (.unexpected .entry)

/-- How the reading of a text ends. -/
inductive Ending where
  | complete
  | unfinished (declaration : Declaration)
  | failed (error : Error)
  deriving DecidableEq, Repr

namespace State

/-- How the reading ends if there is no further line. -/
def ending : State → Ending
  | outside => .complete
  | declared declaration => .unfinished declaration
  | inside declaration => .unfinished declaration

end State

/-- What is found in a text: the declarations that are closed, in order, and how it ends. -/
structure Reading where
  closed : List Declaration
  ending : Ending
  deriving DecidableEq, Repr

namespace Reading

/-- The reading with a declaration in front that was closed before. -/
def after (reading : Reading) : Option Declaration → Reading
  | none => reading
  | some declaration => { reading with closed := declaration :: reading.closed }

/-- The declarations, unless a line does not fit. -/
def toExcept (reading : Reading) : Except Error (List Declaration) :=
  match reading.ending with
  | .failed error => .error error
  | _ => .ok reading.closed

end Reading

/-- Reads the lines from the given state on, the first of them having the given number. -/
def readLines (state : State) (number : Nat) : List String → Reading
  | [] => ⟨[], state.ending⟩
  | line :: rest =>
    match Text.tokens line with
    | [] => readLines state (number + 1) rest
    | lineTokens =>
      match step state lineTokens with
      | .error fault => ⟨[], .failed (fault.toError number line)⟩
      | .ok (closed, next) => (readLines next (number + 1) rest).after closed

/-- Reads a text. -/
def read (text : String) : Reading :=
  readLines .outside 1 (Text.lines text)

/-- The declarations of a text. -/
def parse (text : String) : Except Error (List Declaration) :=
  (read text).toExcept

end Source

end GenModel
