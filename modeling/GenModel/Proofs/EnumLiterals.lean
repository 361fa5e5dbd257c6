import GenModel.Proofs.Declaration
import Mathlib.Data.List.TakeWhile

/-!
# Literals of enum values

A literal is refused for the first of its faults. Its digits are read one by one, and since they
lead away from zero, the number of the longest run of digits decides whether the range is left
before a character is met that is no digit (`readDigits_eq_error_iff`). So each refusal can be
explained by the literal alone (`readInteger_fault_iff`), and a literal of an enum value is either
refused with its explanation or stored as the number that it stands for (`add_reads_literal`).
-/

namespace GenModel

namespace Text

/-- The number of the longest run of digits at the beginning, appended to those of the magnitude. -/
def runNumber (negative : Bool) (magnitude : Nat) (characters : List Char) : Int :=
  signed negative (Nat.ofDigitChars 10 (characters.takeWhile Char.isDigit) magnitude)

/-- Whether the literal has a minus sign. -/
def isNegative (literal : String) : Bool :=
  literal.toList.head? == some '-'

/-- The characters of a literal after its sign, if it has one. -/
def afterSign (literal : String) : List Char :=
  match literal.toList with
  | '+' :: rest => rest
  | '-' :: rest => rest
  | characters => characters

/-- The number of the longest run of digits after the sign of a literal, with that sign. -/
def leadingNumber (literal : String) : Int :=
  runNumber (isNegative literal) 0 (afterSign literal)

/-- The wording tells why a literal is refused. -/
inductive Explains (literal : String) : String → Prop where
  | empty (isEmpty : literal = "") :
      Explains literal "cannot parse integer from empty string"
  | tooLarge (notNegative : isNegative literal = false) (unfit : ¬Fits (leadingNumber literal)) :
      Explains literal "number too large to fit in target type"
  | tooSmall (negative : isNegative literal = true) (unfit : ¬Fits (leadingNumber literal)) :
      Explains literal "number too small to fit in target type"
  | invalidDigit (nonempty : literal ≠ "") (fits : Fits (leadingNumber literal))
      (notLiteral : ¬∃ number, IsLiteral literal number ∧ Fits number) :
      Explains literal "invalid digit found in string"

section Digits

variable {negative : Bool} {magnitude : Nat} {c : Char} {digits rest : List Char}
  {fault : IntegerFault}

theorem runNumber_nil : runNumber negative magnitude [] = signed negative magnitude := rfl

theorem runNumber_cons_of_isDigit (isDigit : c.isDigit = true) :
    runNumber negative magnitude (c :: rest) =
      runNumber negative (10 * magnitude + (c.toNat - '0'.toNat)) rest := by
  simp [runNumber, isDigit, Nat.ofDigitChars_cons]

theorem runNumber_cons_of_not_isDigit (notDigit : ¬c.isDigit = true) :
    runNumber negative magnitude (c :: rest) = signed negative magnitude := by
  simp [runNumber, notDigit]

/-- No digit that follows leads back into the range. -/
theorem fits_of_fits_runNumber (fits : Fits (runNumber negative magnitude digits)) :
    Fits (signed negative magnitude) := by
  apply fits_of_le _ fits
  exact le_ofDigitChars _ _

/-- Digits are refused for their number if the longest run of them does not fit, whatever follows
it, and for a character that is no digit otherwise. -/
theorem readDigits_eq_error_iff (fits : Fits (signed negative magnitude)) :
    readDigits negative (signed negative magnitude) digits = .error fault ↔
      overflow negative = fault ∧ ¬Fits (runNumber negative magnitude digits) ∨
        .invalidDigit = fault ∧ Fits (runNumber negative magnitude digits) ∧
          ¬∀ c ∈ digits, c.isDigit = true := by
  induction digits generalizing magnitude with
  | nil => simp [readDigits, runNumber_nil, fits]
  | cons c rest ih =>
      by_cases isDigit : c.isDigit = true
      · rw [runNumber_cons_of_isDigit isDigit, List.forall_mem_cons]
        by_cases extendedFits : Fits (signed negative (10 * magnitude + (c.toNat - '0'.toNat)))
        · rw [readDigits_cons_of_fits isDigit extendedFits, ih extendedFits]
          simp [isDigit]
        · have unfit :
              ¬Fits (runNumber negative (10 * magnitude + (c.toNat - '0'.toNat)) rest) := by
            intro runFits
            exact extendedFits (fits_of_fits_runNumber runFits)
          rw [readDigits_cons_of_not_fits isDigit extendedFits]
          simp only [unfit, not_false_eq_true, and_true, false_and, and_false, or_false,
            Except.error.injEq]
      · simp [readDigits, digit?, isDigit, runNumber_cons_of_not_isDigit isDigit, fits]

theorem readMagnitude_eq_error_iff :
    readMagnitude negative digits = .error fault ↔
      overflow negative = fault ∧ ¬Fits (runNumber negative 0 digits) ∨
        .invalidDigit = fault ∧ Fits (runNumber negative 0 digits) ∧
          ¬(digits ≠ [] ∧ ∀ c ∈ digits, c.isDigit = true) := by
  have fits := fits_signed_zero negative
  cases digits with
  | nil => simp [readMagnitude, runNumber_nil, fits]
  | cons first rest =>
      have read := @readDigits_eq_error_iff negative 0 (first :: rest) fault fits
      rw [signed_zero] at read
      simpa [readMagnitude] using read

end Digits

section Literals

variable {literal : String} {number : Int} {fault : IntegerFault}

/-- A literal begins with a plus sign, with a minus sign or with neither of them. -/
theorem sign_cases (literal : String) :
    literal.toList = '+' :: afterSign literal ∧ isNegative literal = false ∨
      literal.toList = '-' :: afterSign literal ∧ isNegative literal = true ∨
      literal.toList = afterSign literal ∧ isNegative literal = false ∧
        literal.toList.head? ≠ some '+' := by
  rw [afterSign, isNegative]
  split
  · next rest characters => simp [characters]
  · next rest characters => simp [characters]
  · next notPlus notMinus =>
      right
      right
      refine ⟨rfl, ?_, ?_⟩
      · rw [beq_eq_false_iff_ne]
        intro minus
        rcases List.head?_eq_some_iff.mp minus with ⟨rest, characters⟩
        exact notMinus rest characters
      · intro plus
        rcases List.head?_eq_some_iff.mp plus with ⟨rest, characters⟩
        exact notPlus rest characters

theorem readInteger_of_ne_empty (nonempty : literal ≠ "") :
    readInteger literal =
      Int64.ofInt <$> readMagnitude (isNegative literal) (afterSign literal) := by
  rcases sign_cases literal with
    ⟨characters, sign⟩ | ⟨characters, sign⟩ | ⟨characters, sign, notPlus⟩
  · simp [readInteger, characters, sign]
  · simp [readInteger, characters, sign]
  · rw [sign, readInteger, ← characters]
    split
    · next nothing => exact absurd (String.toList_eq_nil_iff.mp nothing) nonempty
    · next rest plus => simp [plus] at notPlus
    · next rest minus => simp [isNegative, minus] at sign
    · rfl

theorem readInteger_eq_error_iff (nonempty : literal ≠ "") :
    readInteger literal = .error fault ↔
      overflow (isNegative literal) = fault ∧ ¬Fits (leadingNumber literal) ∨
        .invalidDigit = fault ∧ Fits (leadingNumber literal) ∧
          ¬(afterSign literal ≠ [] ∧ ∀ c ∈ afterSign literal, c.isDigit = true) := by
  rw [readInteger_of_ne_empty nonempty, leadingNumber, ← readMagnitude_eq_error_iff]
  cases readMagnitude (isNegative literal) (afterSign literal) <;> simp [Functor.map, Except.map]

theorem exists_toInt_eq_of_fits (fits : Fits number) : ∃ value : Int64, value.toInt = number :=
  ⟨Int64.ofInt number, Int64.toInt_ofInt_of_le fits.1 (Int.lt_add_one_iff.mpr fits.2)⟩

theorem exists_readInteger_iff :
    (∃ value, readInteger literal = .ok value) ↔
      ∃ number, IsLiteral literal number ∧ Fits number := by
  constructor
  · rintro ⟨value, read⟩
    exact ⟨value.toInt, readInteger_eq_ok_iff.mp read, fits_toInt value⟩
  · rintro ⟨number, isLiteral, fits⟩
    rcases exists_toInt_eq_of_fits fits with ⟨value, rfl⟩
    exact ⟨value, readInteger_eq_ok_iff.mpr isLiteral⟩

/-- A literal is refused unless it stands for a number that fits. -/
theorem exists_fault_iff :
    (∃ fault, readInteger literal = .error fault) ↔
      ¬∃ number, IsLiteral literal number ∧ Fits number := by
  rw [← exists_readInteger_iff]
  cases readInteger literal <;> simp

theorem readInteger_of_unfit (unfit : ¬Fits (leadingNumber literal)) :
    readInteger literal = .error (overflow (isNegative literal)) := by
  have nonempty : literal ≠ "" := by
    rintro rfl
    exact unfit (fits_signed_zero false)
  apply (readInteger_eq_error_iff nonempty).mpr
  left
  exact ⟨rfl, unfit⟩

/-- A literal is refused with exactly the wording that explains it. -/
theorem readInteger_fault_iff {wording : String} :
    (∃ fault, readInteger literal = .error fault ∧ fault.message = wording) ↔
      Explains literal wording := by
  constructor
  · rintro ⟨fault, refused, rfl⟩
    by_cases isEmpty : literal = ""
    · subst literal
      cases refused
      exact .empty rfl
    · rcases (readInteger_eq_error_iff isEmpty).mp refused with ⟨rfl, unfit⟩ | ⟨rfl, fits, -⟩
      · cases sign : isNegative literal with
        | false => exact .tooLarge sign unfit
        | true => exact .tooSmall sign unfit
      · exact .invalidDigit isEmpty fits (exists_fault_iff.mp ⟨_, refused⟩)
  · intro explained
    cases explained with
    | empty isEmpty =>
        subst literal
        exact ⟨.empty, rfl, rfl⟩
    | tooLarge notNegative unfit =>
        refine ⟨.tooLarge, ?_, rfl⟩
        rw [readInteger_of_unfit unfit, notNegative]
        rfl
    | tooSmall negative unfit =>
        refine ⟨.tooSmall, ?_, rfl⟩
        rw [readInteger_of_unfit unfit, negative]
        rfl
    | invalidDigit nonempty fits notLiteral =>
        -- Something is refused here, and it is not the number.
        rcases exists_fault_iff.mpr notLiteral with ⟨fault, refused⟩
        rcases (readInteger_eq_error_iff nonempty).mp refused with ⟨-, unfit⟩ | ⟨rfl, -, -⟩
        · exact absurd fits unfit
        · exact ⟨.invalidDigit, refused, rfl⟩

end Literals

end Text

namespace Enum

section Literals

variable {owner : Enum} {name literal : String}

theorem add_eq_stored_iff (free : Text.lowerFirst name ∉ owner.values.map EnumValue.name)
    {value : Int64} :
    owner.add name literal =
        .ok ⟨owner.name, owner.values ++ [⟨Text.lowerFirst name, value⟩]⟩ ↔
      Text.IsLiteral literal value.toInt := by
  rw [add_eq_ok_iff, ← Text.readInteger_eq_ok_iff]
  constructor
  · rintro ⟨stored, read, -, same⟩
    have storedEq : value = stored := by
      simpa using same
    rwa [storedEq]
  · intro read
    exact ⟨value, read, free, rfl⟩

/-- A literal without a value is refused as it is given, whether or not the name is taken. -/
theorem add_eq_invalidValue_iff {fault : Text.IntegerFault} :
    owner.add name literal = .error (.invalidValue name literal fault) ↔
      Text.readInteger literal = .error fault := by
  cases read : Text.readInteger literal with
  | error found => simp [add, read]
  | ok value =>
      by_cases fresh : isFresh (owner.values.map EnumValue.name) (Text.lowerFirst name) = true
      · simp [add, read, fresh]
      · simp [add, read, fresh]

end Literals

/-- A literal under a name that is not taken is stored as the number that it stands for, if that
fits sixty-four bits. In all other cases it is refused, with exactly the wording that explains
it. -/
theorem add_reads_literal {owner : Enum} {name : String}
    (free : Text.lowerFirst name ∉ owner.values.map EnumValue.name) (literal : String) :
    (∀ number : Int,
        (∃ value : Int64, value.toInt = number ∧
          owner.add name literal =
            .ok ⟨owner.name, owner.values ++ [⟨Text.lowerFirst name, value⟩]⟩) ↔
          Text.IsLiteral literal number ∧ Text.Fits number) ∧
      ((∃ fault, owner.add name literal = .error (.invalidValue name literal fault)) ↔
        ¬∃ number, Text.IsLiteral literal number ∧ Text.Fits number) ∧
      ∀ wording,
        (∃ fault, owner.add name literal = .error (.invalidValue name literal fault) ∧
          fault.message = wording) ↔ Text.Explains literal wording := by
  refine ⟨?_, ?_, ?_⟩
  · intro number
    constructor
    · rintro ⟨value, rfl, added⟩
      exact ⟨(add_eq_stored_iff free).mp added, Text.fits_toInt value⟩
    · rintro ⟨isLiteral, fits⟩
      rcases Text.exists_toInt_eq_of_fits fits with ⟨value, rfl⟩
      exact ⟨value, rfl, (add_eq_stored_iff free).mpr isLiteral⟩
  · simp only [add_eq_invalidValue_iff]
    exact Text.exists_fault_iff
  · intro wording
    simp only [add_eq_invalidValue_iff]
    exact Text.readInteger_fault_iff

/-- An enum with one value. -/
def oneValue : Enum :=
  ⟨"Ends", [⟨"high", Int64.maxValue⟩]⟩

/-- The least number is stored, leading zeros or not. With a letter after it the letter is at fault,
but a number below it is too small whatever follows. -/
theorem add_reads_literal_oneValue :
    Text.lowerFirst "Low" ∉ oneValue.values.map EnumValue.name ∧
      (∃ value : Int64, value.toInt = -9223372036854775808 ∧
        oneValue.add "Low" "-009223372036854775808" =
          .ok ⟨"Ends", [⟨"high", Int64.maxValue⟩, ⟨"low", value⟩]⟩) ∧
      (∃ fault, oneValue.add "Low" "-9223372036854775808x" =
          .error (.invalidValue "Low" "-9223372036854775808x" fault) ∧
        fault.message = "invalid digit found in string") ∧
      ∃ fault, oneValue.add "Low" "-9223372036854775809x" =
          .error (.invalidValue "Low" "-9223372036854775809x" fault) ∧
        fault.message = "number too small to fit in target type" := by
  have free : Text.lowerFirst "Low" ∉ oneValue.values.map EnumValue.name := by
    decide +kernel
  have isLiteral : Text.IsLiteral "-009223372036854775808" (-9223372036854775808) := by
    have areDigits : ∀ c ∈ "009223372036854775808".toList, c.isDigit = true := by
      apply List.all_eq_true.mp
      decide +kernel
    exact ⟨['-'], _, by decide +kernel, by simp, by decide +kernel, areDigits, by decide +kernel⟩
  have leastFits : Text.Fits (-9223372036854775808) := by
    decide +kernel
  have notLiteral :
      ¬∃ number, Text.IsLiteral "-9223372036854775808x" number ∧ Text.Fits number := by
    apply Text.exists_fault_iff.mp
    exact ⟨.invalidDigit, by decide +kernel⟩
  refine ⟨free, ?_, ?_, ?_⟩
  · exact ((add_reads_literal free _).1 _).mpr ⟨isLiteral, leastFits⟩
  · apply ((add_reads_literal free _).2.2 _).mpr
    exact .invalidDigit (by decide) (by decide +kernel) notLiteral
  · apply ((add_reads_literal free _).2.2 _).mpr
    exact .tooSmall (by decide +kernel) (by decide +kernel)

end Enum

end GenModel
