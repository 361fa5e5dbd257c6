import GenModel.Proofs.Text.Tokens
import GenModel.Text.Decimal

/-!
# Reading and writing integers

The digits of a literal are read away from zero, so that the value never comes closer to zero
again and a value that does not fit can be refused at once. `readDigits_eq_ok_iff` is the
resulting description of the loop: it ends without a fault exactly if there are only digits and
the number that they denote fits sixty-four bits. So a literal is read exactly if it stands for an
integer of sixty-four bits (`readInteger_eq_ok_iff`), and every such integer is read back from its
decimal form, at both ends of the range.
-/

namespace GenModel

namespace Text

/-- The integer fits sixty-four bits. -/
def Fits (value : Int) : Prop :=
  Int64.minValue.toInt ≤ value ∧ value ≤ Int64.maxValue.toInt

instance (value : Int) : Decidable (Fits value) :=
  inferInstanceAs (Decidable (_ ∧ _))

/-- The integer with the given distance from zero. -/
def signed (negative : Bool) (magnitude : Nat) : Int :=
  if negative then -magnitude else magnitude

theorem signed_zero (negative : Bool) : signed negative 0 = 0 := by
  cases negative <;> rfl

theorem fits_toInt (value : Int64) : Fits value.toInt :=
  ⟨value.minValue_le_toInt, value.toInt_le⟩

theorem fits_signed_zero (negative : Bool) : Fits (signed negative 0) := by
  simp [signed_zero, Fits, Int64.toInt_maxValue]

/-- What lies between zero and an integer that fits also fits. -/
theorem fits_of_le {negative : Bool} {smaller larger : Nat} (le : smaller ≤ larger)
    (fits : Fits (signed negative larger)) : Fits (signed negative smaller) := by
  simp only [Fits, Int64.toInt_minValue, Int64.toInt_maxValue] at fits ⊢
  cases negative with
  | false =>
      simp only [signed, Bool.false_eq_true, if_false] at fits ⊢
      omega
  | true =>
      simp only [signed, if_true] at fits ⊢
      omega

theorem appendDigit_signed (negative : Bool) (magnitude digit : Nat) :
    appendDigit negative (signed negative magnitude) digit =
      signed negative (10 * magnitude + digit) := by
  cases negative with
  | false =>
      simp only [appendDigit, signed, Bool.false_eq_true, if_false]
      omega
  | true =>
      simp only [appendDigit, signed, if_true]
      omega

theorem le_ofDigitChars (digits : List Char) (magnitude : Nat) :
    magnitude ≤ Nat.ofDigitChars 10 digits magnitude := by
  rw [Nat.ofDigitChars_eq_ofDigitChars_zero]
  have positive : 0 < 10 ^ digits.length := Nat.pow_pos (by omega)
  have grows := Nat.le_mul_of_pos_left magnitude positive
  omega

theorem readDigits_cons_of_fits {negative : Bool} {magnitude : Nat} {c : Char}
    {rest : List Char} (isDigit : c.isDigit = true)
    (fits : Fits (signed negative (10 * magnitude + (c.toNat - '0'.toNat)))) :
    readDigits negative (signed negative magnitude) (c :: rest) =
      readDigits negative (signed negative (10 * magnitude + (c.toNat - '0'.toNat))) rest := by
  simp only [readDigits, digit?, isDigit, if_true, appendDigit_signed]
  rw [if_neg (Int.not_lt.mpr fits.1), if_neg (Int.not_lt.mpr fits.2)]

/-- The fault of a number that is too far from zero on its side. -/
def overflow (negative : Bool) : IntegerFault :=
  if negative then .tooSmall else .tooLarge

theorem readDigits_cons_of_not_fits {negative : Bool} {magnitude : Nat} {c : Char}
    {rest : List Char} (isDigit : c.isDigit = true)
    (unfit : ¬Fits (signed negative (10 * magnitude + (c.toNat - '0'.toNat)))) :
    readDigits negative (signed negative magnitude) (c :: rest) = .error (overflow negative) := by
  simp only [readDigits, digit?, isDigit, if_true, appendDigit_signed]
  generalize 10 * magnitude + (c.toNat - '0'.toNat) = extended at unfit ⊢
  simp only [Fits, Int64.toInt_minValue, Int64.toInt_maxValue] at unfit ⊢
  cases negative with
  | false =>
      simp only [signed, overflow, Bool.false_eq_true, if_false] at unfit ⊢
      rw [if_neg (by omega), if_pos (by omega)]
  | true =>
      simp only [signed, overflow, if_true] at unfit ⊢
      rw [if_pos (by omega)]

/-- Digits are read without a fault exactly if the number that they denote fits. -/
theorem readDigits_eq_ok_iff {negative : Bool} {magnitude : Nat} {digits : List Char}
    {value : Int} (fits : Fits (signed negative magnitude)) :
    readDigits negative (signed negative magnitude) digits = .ok value ↔
      (∀ c ∈ digits, c.isDigit = true) ∧
        value = signed negative (Nat.ofDigitChars 10 digits magnitude) ∧ Fits value := by
  induction digits generalizing magnitude with
  | nil =>
      simp only [readDigits, Except.ok.injEq, List.not_mem_nil, false_implies, implies_true,
        Nat.ofDigitChars_nil, true_and]
      constructor
      · rintro rfl
        exact ⟨rfl, fits⟩
      · rintro ⟨rfl, -⟩
        rfl
  | cons c rest ih =>
      by_cases isDigit : c.isDigit = true
      · simp only [List.forall_mem_cons, isDigit, true_and, Nat.ofDigitChars_cons]
        by_cases extendedFits : Fits (signed negative (10 * magnitude + (c.toNat - '0'.toNat)))
        · rw [readDigits_cons_of_fits isDigit extendedFits]
          exact ih extendedFits
        · rw [readDigits_cons_of_not_fits isDigit extendedFits]
          constructor
          · intro read
            simp at read
          · rintro ⟨-, rfl, valueFits⟩
            exact absurd (fits_of_le (le_ofDigitChars rest _) valueFits) extendedFits
      · simp [readDigits, digit?, isDigit]

theorem readMagnitude_eq_ok_iff {negative : Bool} {digits : List Char} {number : Int} :
    readMagnitude negative digits = .ok number ↔
      digits ≠ [] ∧ (∀ c ∈ digits, c.isDigit = true) ∧
        number = signed negative (Nat.ofDigitChars 10 digits 0) ∧ Fits number := by
  have read : readDigits negative 0 digits = .ok number ↔
      (∀ c ∈ digits, c.isDigit = true) ∧
        number = signed negative (Nat.ofDigitChars 10 digits 0) ∧ Fits number := by
    have general := @readDigits_eq_ok_iff negative 0 digits number (fits_signed_zero negative)
    rwa [signed_zero] at general
  cases digits with
  | nil => simp [readMagnitude]
  | cons first rest => simpa [readMagnitude] using read

/-- Digits after a sign are read as a value exactly if they denote it. -/
theorem ofInt_readMagnitude_eq_ok_iff {negative : Bool} {digits : List Char} {value : Int64} :
    Int64.ofInt <$> readMagnitude negative digits = .ok value ↔
      digits ≠ [] ∧ (∀ c ∈ digits, c.isDigit = true) ∧
        value.toInt = signed negative (Nat.ofDigitChars 10 digits 0) := by
  constructor
  · intro mapped
    cases read : readMagnitude negative digits with
    | error fault => simp [read, Functor.map, Except.map] at mapped
    | ok number =>
        rcases readMagnitude_eq_ok_iff.mp read with ⟨nonempty, areDigits, numberEq, fits⟩
        simp only [read, Functor.map, Except.map, Except.ok.injEq] at mapped
        subst value
        refine ⟨nonempty, areDigits, ?_⟩
        rw [Int64.toInt_ofInt_of_le fits.1 (Int.lt_add_one_iff.mpr fits.2)]
        exact numberEq
  · rintro ⟨nonempty, areDigits, valueEq⟩
    have read := readMagnitude_eq_ok_iff.mpr ⟨nonempty, areDigits, valueEq, fits_toInt value⟩
    simp [read, Functor.map, Except.map]

theorem readInteger_digits {first : Char} {rest : List Char} (isDigit : first.isDigit = true) :
    readInteger (String.ofList (first :: rest)) =
      Int64.ofInt <$> readMagnitude false (first :: rest) := by
  have notPlus : first ≠ '+' := by
    rintro rfl
    simp [Char.isDigit] at isDigit
  have notMinus : first ≠ '-' := by
    rintro rfl
    simp [Char.isDigit] at isDigit
  simp [readInteger, notPlus, notMinus]

/-- The literal stands for the integer: after at most one sign it has digits only, at least one of
them, and the integer is their number with that sign. -/
def IsLiteral (literal : String) (number : Int) : Prop :=
  ∃ sign digits, literal.toList = sign ++ digits ∧ (sign = [] ∨ sign = ['+'] ∨ sign = ['-']) ∧
    digits ≠ [] ∧ (∀ c ∈ digits, c.isDigit = true) ∧
    number = signed (sign = ['-']) (Nat.ofDigitChars 10 digits 0)

/-- A literal is read as a value exactly if it stands for it. -/
theorem readInteger_eq_ok_iff {literal : String} {value : Int64} :
    readInteger literal = .ok value ↔ IsLiteral literal value.toInt := by
  constructor
  · intro read
    rw [readInteger] at read
    split at read
    · simp [Functor.map, Except.map] at read
    · next digits characters =>
        exact ⟨['+'], digits, characters, by simp, ofInt_readMagnitude_eq_ok_iff.mp read⟩
    · next digits characters =>
        exact ⟨['-'], digits, characters, by simp, ofInt_readMagnitude_eq_ok_iff.mp read⟩
    · exact ⟨[], literal.toList, rfl, by simp, ofInt_readMagnitude_eq_ok_iff.mp read⟩
  · rintro ⟨sign, digits, characters, rfl | rfl | rfl, denotes⟩
    · cases digits with
      | nil => exact absurd rfl denotes.1
      | cons first rest =>
          have written : literal = String.ofList (first :: rest) := by
            rw [← String.toList_inj, characters]
            simp
          rw [written, readInteger_digits (denotes.2.1 first List.mem_cons_self)]
          exact ofInt_readMagnitude_eq_ok_iff.mpr denotes
    · rw [readInteger, characters]
      exact ofInt_readMagnitude_eq_ok_iff.mpr denotes
    · rw [readInteger, characters]
      exact ofInt_readMagnitude_eq_ok_iff.mpr denotes

theorem isDigit_of_mem_toDigits {number : Nat} {c : Char} (mem : c ∈ Nat.toDigits 10 number) :
    c.isDigit = true :=
  Nat.isDigit_of_mem_toDigits (by omega) (by omega) mem

theorem isDigit_of_mem_paddedDecimal {width number : Nat} {c : Char}
    (mem : c ∈ (paddedDecimal width number).toList) : c.isDigit = true := by
  rw [paddedDecimal, String.toList_ofList, List.mem_append, List.mem_replicate] at mem
  rcases mem with ⟨-, rfl⟩ | mem
  · rfl
  · exact isDigit_of_mem_toDigits mem

theorem notMem_paddedDecimal {width number : Nat} {c : Char} (notDigit : c.isDigit = false) :
    c ∉ (paddedDecimal width number).toList := by
  intro mem
  rw [isDigit_of_mem_paddedDecimal mem] at notDigit
  simp at notDigit

theorem isLiteral_decimal (number : Int) : IsLiteral (decimal number) number := by
  have areDigits : ∀ c ∈ Nat.toDigits 10 number.natAbs, c.isDigit = true := by
    intro c mem
    exact isDigit_of_mem_toDigits mem
  have magnitude : Nat.ofDigitChars 10 (Nat.toDigits 10 number.natAbs) 0 = number.natAbs := by
    simp
  by_cases negative : number < 0
  · refine ⟨['-'], _, ?_, by simp, Nat.toDigits_ne_nil, areDigits, ?_⟩
    · simp [decimal, decimalNat, negative]
    · simp only [magnitude, signed, decide_true, if_true]
      omega
  · refine ⟨[], _, ?_, by simp, Nat.toDigits_ne_nil, areDigits, ?_⟩
    · simp [decimal, decimalNat, negative]
    · simp only [magnitude, signed, List.nil_eq, reduceCtorEq, decide_false, Bool.false_eq_true,
        if_false]
      omega

theorem decimal_eq_toString (number : Int) : decimal number = toString number := by
  have digits (magnitude : Nat) : magnitude.repr = decimalNat magnitude :=
    Nat.repr_eq_ofList_toDigits
  rw [decimal, Int.toString_eq_repr, Int.repr_eq_if, digits, digits]
  by_cases negative : number < 0
  · have magnitude : (-number).toNat = number.natAbs := by
      omega
    rw [if_pos negative, if_neg (Int.not_le.mpr negative), magnitude]
  · have magnitude : number.toNat = number.natAbs := by
      omega
    rw [if_neg negative, if_pos (Int.not_lt.mp negative), magnitude]

/-- Every integer of sixty-four bits is read back from its decimal form. -/
theorem readInteger_decimal (value : Int64) : readInteger (decimal value.toInt) = .ok value :=
  readInteger_eq_ok_iff.mpr (isLiteral_decimal value.toInt)

theorem minus_or_isDigit_of_mem_decimal {number : Int} {c : Char}
    (mem : c ∈ (decimal number).toList) : c = '-' ∨ c.isDigit = true := by
  by_cases negative : number < 0
  · simp only [decimal, decimalNat, negative, if_true, String.toList_append,
      String.toList_ofList] at mem
    rcases List.mem_append.mp mem with mem | mem
    · exact Or.inl (by simpa using mem)
    · exact Or.inr (isDigit_of_mem_toDigits mem)
  · simp only [decimal, decimalNat, negative, if_false, String.toList_ofList] at mem
    exact Or.inr (isDigit_of_mem_toDigits mem)

theorem isToken_decimal (number : Int) : IsToken (decimal number) := by
  constructor
  · by_cases negative : number < 0
    · simp [decimal, decimalNat, negative]
    · simp [decimal, decimalNat, negative, Nat.toDigits_ne_nil]
  · intro c mem
    rcases minus_or_isDigit_of_mem_decimal mem with rfl | isDigit
    · decide
    · simp only [Char.isDigit, Bool.and_eq_true, decide_eq_true_eq] at isDigit
      apply isBlank_of_isGraphic
      exact ⟨Char.le_trans (by decide) isDigit.1, Char.le_trans isDigit.2 (by decide)⟩

end Text

end GenModel
