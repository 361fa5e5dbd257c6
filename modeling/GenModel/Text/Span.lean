/-!
# Spans of code points

Character properties and case mappings are given as short lists of spans. A span is an
arithmetic progression of code points, which covers both a block of letters in a row and the
blocks where capital and small letters alternate.
-/

namespace GenModel

namespace Text

/-- Every `step`-th code point from `first` to `last`. -/
structure Span where
  first : Nat
  last : Nat
  step : Nat
  deriving DecidableEq, Repr

namespace Span

/-- Whether the code point belongs to the span. -/
def contains (span : Span) (code : Nat) : Bool :=
  span.first.ble code && code.ble span.last && ((code - span.first) % span.step).beq 0

end Span

/-- Whether one of the spans holds the code point. The spans are in increasing order, so the only
one that can is the first that does not end before it. -/
def inSpans (spans : List Span) (code : Nat) : Bool :=
  match spans.find? fun span => code.ble span.last with
  | some span => span.contains code
  | none => false

/-- A span whose members are moved by one common distance, `span.first` going to `image`. -/
structure Shift where
  span : Span
  image : Nat
  deriving DecidableEq, Repr

namespace Shift

/-- The character that takes the place of the code point. -/
def apply (shift : Shift) (code : Nat) : Char :=
  Char.ofNat (shift.image + (code - shift.span.first))

end Shift

end Text

end GenModel
