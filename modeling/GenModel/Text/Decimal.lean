/-!
# Decimal integers

Integers are written without leading zeros and with a minus sign if they are negative. A literal
is read more freely: one sign of either kind and any number of leading zeros are allowed, and
the value has to fit sixty-four bits. Reading goes from left to right and stops at the first
character that cannot be used, so a literal with two faults is refused for the first of them.
-/

namespace GenModel

namespace Text

/-- The decimal digits of a natural number. -/
def decimalNat (number : Nat) : String :=
  String.ofList (Nat.toDigits 10 number)

/-- An integer in decimal. -/
def decimal (number : Int) : String :=
  if number < 0 then "-" ++ decimalNat number.natAbs else decimalNat number.natAbs

/-- A natural number in decimal, filled up with leading zeros to the given width. -/
def paddedDecimal (width number : Nat) : String :=
  String.ofList
    (List.replicate (width - (Nat.toDigits 10 number).length) '0' ++ Nat.toDigits 10 number)

/-- Why a text is no integer of sixty-four bits. -/
inductive IntegerFault where
  | empty
  | invalidDigit
  | tooLarge
  | tooSmall
  deriving DecidableEq, Repr

namespace IntegerFault

/-- The wording of the fault. -/
def message : IntegerFault → String
  | empty => "cannot parse integer from empty string"
  | invalidDigit => "invalid digit found in string"
  | tooLarge => "number too large to fit in target type"
  | tooSmall => "number too small to fit in target type"

end IntegerFault

/-- The value of a decimal digit. -/
def digit? (c : Char) : Option Nat :=
  if c.isDigit then some (c.toNat - '0'.toNat) else none

/-- The value extended by one digit, away from zero. -/
def appendDigit (negative : Bool) (value : Int) (digit : Nat) : Int :=
  if negative then value * 10 - digit else value * 10 + digit

/-- Reads digits that extend the value, as long as it fits sixty-four bits. -/
def readDigits (negative : Bool) (value : Int) : List Char → Except IntegerFault Int
  | [] => .ok value
  | c :: rest =>
    match digit? c with
    | none => .error .invalidDigit
    | some digit =>
      let extended := appendDigit negative value digit
      if extended < Int64.minValue.toInt then .error .tooSmall
      else if Int64.maxValue.toInt < extended then .error .tooLarge
      else readDigits negative extended rest

/-- Reads the digits after a sign, of which there has to be at least one. -/
def readMagnitude (negative : Bool) (digits : List Char) : Except IntegerFault Int :=
  if digits.isEmpty then .error .invalidDigit else readDigits negative 0 digits

/-- Reads a signed integer of sixty-four bits. -/
def readInteger (literal : String) : Except IntegerFault Int64 :=
  Int64.ofInt <$>
    match literal.toList with
    | [] => .error .empty
    | '+' :: digits => readMagnitude false digits
    | '-' :: digits => readMagnitude true digits
    | digits => readMagnitude false digits

end Text

end GenModel
