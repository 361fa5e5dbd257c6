import GenModel.Source
import GenModel.Target

/-!
# Events

What is reported while a model is read and its files are written. An event has a level and named
fields in the order of their names, its message being one of them.
-/

namespace GenModel

/-- How important an event is. -/
inductive Level where
  | debug
  | info
  | warn
  deriving DecidableEq, Repr

namespace Level

/-- The name of the level. -/
def name : Level → String
  | debug => "DEBUG"
  | info => "INFO"
  | warn => "WARN"

end Level

/-- Something that is reported. -/
inductive Event where
  | closed (declaration : Declaration)
  | discarded (declaration : Declaration)
  | wrote (path : String)
  | generated (requested : Target) (language : Language) (files : Nat)
  deriving DecidableEq, Repr

namespace Event

/-- The level of the event. -/
def level : Event → Level
  | closed _ => .debug
  | discarded _ => .warn
  | wrote _ => .debug
  | generated _ _ _ => .info

/-- The fields of the event, in the order of their names. -/
def fields : Event → List (String × String)
  | closed declaration =>
    [
      ("entries", Text.decimalNat declaration.size),
      ("kind", declaration.kind.keyword),
      ("message", "closed declaration"),
      ("name", declaration.name)
    ]
  | discarded declaration =>
    [
      ("kind", declaration.kind.keyword),
      ("message", "input ended inside an unterminated declaration, discarding it"),
      ("name", declaration.name)
    ]
  | wrote path => [("message", "wrote generated file"), ("path", path)]
  | generated requested language files =>
    [
      ("files", Text.decimalNat files),
      ("language", language.name),
      ("message", "generated code"),
      ("requested", requested.text)
    ]

end Event

namespace Source

namespace Reading

/-- What is reported of a reading: the declarations as they are closed, then one that is
discarded. -/
def events (reading : Reading) : List Event :=
  reading.closed.map Event.closed ++
    match reading.ending with
    | .unfinished declaration => [Event.discarded declaration]
    | _ => []

end Reading

end Source

end GenModel
