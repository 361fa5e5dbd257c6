import GenModel.Proofs.Text.Decimal
import Mathlib.Algebra.Group.Nat.Defs
import Mathlib.Data.List.Lex

/-!
# Numbers of fixed width

Digits of the same number are ordered like the numbers that they denote, since the first digit that
differs decides both orders. So are numbers that are filled up with leading zeros to a width that
they fit. A text in which such numbers stand between fixed marks is therefore ordered like the list
of the numbers, and it determines them (`written_lt_iff`, `written_inj`).
-/

namespace GenModel

namespace Text

section Digits

variable {first second front back : List Char}

theorem append_lt_append_iff (sameLength : first.length = second.length) :
    first ++ front < second ++ back ↔ first < second ∨ first = second ∧ front < back := by
  induction first generalizing second with
  | nil =>
      rw [List.length_nil, eq_comm, List.length_eq_zero_iff] at sameLength
      subst second
      simp
  | cons c rest ih =>
      cases second with
      | nil => simp at sameLength
      | cons d others =>
          rw [List.length_cons, List.length_cons, Nat.add_right_cancel_iff] at sameLength
          simp only [List.cons_append, List.cons_lt_cons_iff, List.cons.injEq, ih sameLength]
          constructor
          · rintro (less | ⟨rfl, less | ⟨rfl, less⟩⟩)
            · exact Or.inl (Or.inl less)
            · exact Or.inl (Or.inr ⟨rfl, less⟩)
            · exact Or.inr ⟨⟨rfl, rfl⟩, less⟩
          · rintro ((less | ⟨rfl, less⟩) | ⟨⟨rfl, rfl⟩, less⟩)
            · exact Or.inl less
            · exact Or.inr ⟨rfl, Or.inl less⟩
            · exact Or.inr ⟨rfl, Or.inr ⟨rfl, less⟩⟩

theorem digit_bounds {c : Char} (isDigit : c.isDigit = true) : 48 ≤ c.toNat ∧ c.toNat ≤ 57 := by
  rw [Char.isDigit, Bool.and_eq_true, decide_eq_true_iff, decide_eq_true_iff] at isDigit
  exact isDigit

theorem ofDigitChars_cons_zero (c : Char) (rest : List Char) :
    Nat.ofDigitChars 10 (c :: rest) 0 =
      10 ^ rest.length * (c.toNat - 48) + Nat.ofDigitChars 10 rest 0 := by
  have zero : '0'.toNat = 48 := rfl
  rw [Nat.ofDigitChars_cons, Nat.ofDigitChars_eq_ofDigitChars_zero, zero, Nat.mul_zero,
    Nat.zero_add]

theorem ofDigitChars_lt (areDigits : ∀ c ∈ first, c.isDigit = true) :
    Nat.ofDigitChars 10 first 0 < 10 ^ first.length := by
  induction first with
  | nil => simp
  | cons c rest ih =>
      rw [List.forall_mem_cons] at areDigits
      have below := ih areDigits.2
      have digit := digit_bounds areDigits.1
      have atMost : c.toNat - 48 ≤ 9 := by omega
      have scaled := Nat.mul_le_mul_left (10 ^ rest.length) atMost
      rw [ofDigitChars_cons_zero, List.length_cons, Nat.pow_succ]
      omega

theorem mul_add_lt_mul_add_iff {size high low otherHigh otherLow : Nat} (lowBelow : low < size)
    (otherBelow : otherLow < size) :
    size * high + low < size * otherHigh + otherLow ↔
      high < otherHigh ∨ high = otherHigh ∧ low < otherLow := by
  rcases Nat.lt_trichotomy high otherHigh with less | rfl | greater
  · have scaled := Nat.mul_le_mul_left size (Nat.succ_le_of_lt less)
    rw [Nat.mul_succ] at scaled
    simp only [less, true_or, iff_true]
    omega
  · simp
  · have scaled := Nat.mul_le_mul_left size (Nat.succ_le_of_lt greater)
    rw [Nat.mul_succ] at scaled
    constructor
    · intro impossible
      omega
    · intro impossible
      omega

/-- Digits of the same number are ordered like the numbers that they denote. -/
theorem digits_lt_iff (areDigits : ∀ c ∈ first, c.isDigit = true)
    (areOthers : ∀ c ∈ second, c.isDigit = true) (sameLength : first.length = second.length) :
    first < second ↔ Nat.ofDigitChars 10 first 0 < Nat.ofDigitChars 10 second 0 := by
  induction first generalizing second with
  | nil =>
      rw [List.length_nil, eq_comm, List.length_eq_zero_iff] at sameLength
      subst second
      simp
  | cons c rest ih =>
      cases second with
      | nil => simp at sameLength
      | cons d others =>
          rw [List.length_cons, List.length_cons, Nat.add_right_cancel_iff] at sameLength
          rw [List.forall_mem_cons] at areDigits areOthers
          have restBelow := ofDigitChars_lt areDigits.2
          have othersBelow := ofDigitChars_lt areOthers.2
          have digit := digit_bounds areDigits.1
          have otherDigit := digit_bounds areOthers.1
          have less : c < d ↔ c.toNat - 48 < d.toNat - 48 := by
            rw [Char.lt_def, UInt32.lt_iff_toNat_lt]
            change c.toNat < d.toNat ↔ _
            omega
          have equal : c = d ↔ c.toNat - 48 = d.toNat - 48 := by
            rw [← Char.toNat_inj]
            omega
          rw [← sameLength] at othersBelow
          -- The first digits decide, unless they are equal: the others cannot make up for them.
          rw [List.cons_lt_cons_iff, ih areDigits.2 areOthers.2 sameLength, ofDigitChars_cons_zero,
            ofDigitChars_cons_zero, ← sameLength, mul_add_lt_mul_add_iff restBelow othersBelow,
            less, equal]

end Digits

section Padded

variable {width first second : Nat}

theorem ofDigitChars_paddedDecimal (width number : Nat) :
    Nat.ofDigitChars 10 (paddedDecimal width number).toList 0 = number := by
  rw [paddedDecimal, String.toList_ofList, Nat.ofDigitChars_append, Nat.ofDigitChars_replicate_zero,
    Nat.mul_zero, Nat.ofDigitChars_ten_toDigits]

theorem paddedDecimal_inj (same : paddedDecimal width first = paddedDecimal width second) :
    first = second := by
  rw [← ofDigitChars_paddedDecimal width first, same, ofDigitChars_paddedDecimal]

theorem length_paddedDecimal {number : Nat} (positive : 0 < width) (fits : number < 10 ^ width) :
    (paddedDecimal width number).toList.length = width := by
  have atMost := (Nat.length_toDigits_le_iff (by decide : 1 < 10) positive).mpr fits
  rw [paddedDecimal, String.toList_ofList, List.length_append, List.length_replicate]
  omega

theorem paddedDecimal_lt_iff (positive : 0 < width) (firstFits : first < 10 ^ width)
    (secondFits : second < 10 ^ width) :
    (paddedDecimal width first).toList < (paddedDecimal width second).toList ↔ first < second := by
  rw [digits_lt_iff (fun _ => isDigit_of_mem_paddedDecimal)
    (fun _ => isDigit_of_mem_paddedDecimal), ofDigitChars_paddedDecimal, ofDigitChars_paddedDecimal]
  rw [length_paddedDecimal positive firstFits, length_paddedDecimal positive secondFits]

end Padded

/-- A text in which each number follows its mark and is filled up to its width. -/
def written (ending : String) : List (String × Nat) → List Nat → String
  | (mark, width) :: slots, number :: numbers =>
    mark ++ paddedDecimal width number ++ written ending slots numbers
  | _, _ => ending

/-- Every number fits the width of its slot. -/
def FitsSlots (slots : List (String × Nat)) (numbers : List Nat) : Prop :=
  List.Forall₂ (fun slot number => 0 < slot.2 ∧ number < 10 ^ slot.2) slots numbers

section Written

variable {ending : String} {slots : List (String × Nat)} {first second : List Nat}

theorem length_written (firstFits : FitsSlots slots first) (secondFits : FitsSlots slots second) :
    (written ending slots first).toList.length = (written ending slots second).toList.length := by
  induction firstFits generalizing second with
  | nil =>
      cases secondFits
      rfl
  | cons slotFits _ ih =>
      cases secondFits with
      | cons otherFits restFits =>
          simp only [written, String.toList_append, List.length_append, ih restFits,
            length_paddedDecimal slotFits.1 slotFits.2,
            length_paddedDecimal otherFits.1 otherFits.2]

/-- Texts with the same slots are ordered like the numbers in them. -/
theorem written_lt_iff (firstFits : FitsSlots slots first) (secondFits : FitsSlots slots second) :
    (written ending slots first).toList < (written ending slots second).toList ↔
      first < second := by
  induction firstFits generalizing second with
  | nil =>
      cases secondFits
      simp
  | @cons slot number slots numbers slotFits _ ih =>
      cases secondFits with
      | @cons _ other _ others otherFits restFits =>
          have sameLength : (paddedDecimal slot.2 number).toList.length =
              (paddedDecimal slot.2 other).toList.length := by
            rw [length_paddedDecimal slotFits.1 slotFits.2,
              length_paddedDecimal otherFits.1 otherFits.2]
          have sameNumber :
              (paddedDecimal slot.2 number).toList = (paddedDecimal slot.2 other).toList ↔
                number = other := by
            constructor
            · intro same
              exact paddedDecimal_inj (String.toList_injective same)
            · rintro rfl
              rfl
          simp only [written, String.toList_append, List.append_assoc]
          rw [append_lt_append_iff rfl, append_lt_append_iff sameLength, ih restFits, sameNumber,
            paddedDecimal_lt_iff slotFits.1 slotFits.2 otherFits.2, List.cons_lt_cons_iff]
          simp

theorem written_inj (firstFits : FitsSlots slots first) (secondFits : FitsSlots slots second)
    (same : written ending slots first = written ending slots second) : first = second := by
  rcases lt_trichotomy first second with less | equal | greater
  · have ordered := (@written_lt_iff ending _ _ _ firstFits secondFits).mpr less
    rw [same] at ordered
    exact absurd ordered (List.lt_irrefl _)
  · exact equal
  · have ordered := (@written_lt_iff ending _ _ _ secondFits firstFits).mpr greater
    rw [same] at ordered
    exact absurd ordered (List.lt_irrefl _)

end Written

end Text

end GenModel
