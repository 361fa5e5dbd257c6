import GenModel.Instant
import GenModel.Proofs.Text.Decimal

/-!
# The characters of a timestamp

A timestamp holds digits and a few marks between them, whatever the instant is. So it holds no line
break and no slash, and can stand in a line and in a path.
-/

namespace GenModel

namespace Instant

/-- A text of digits and of the marks of a timestamp. -/
def IsStampText (text : String) : Prop :=
  ∀ c ∈ text.toList, c.isDigit = true ∨ c ∈ ['+', '-', ':', 'T', 'Z']

instance (text : String) : Decidable (IsStampText text) :=
  decidable_of_iff
    ((text.toList.all fun c => c.isDigit || ['+', '-', ':', 'T', 'Z'].contains c) = true)
    (by simp [IsStampText])

theorem isStampText_append_iff {front back : String} :
    IsStampText (front ++ back) ↔ IsStampText front ∧ IsStampText back := by
  simp only [IsStampText, String.toList_append, List.forall_mem_append]

theorem isStampText_paddedDecimal (width number : Nat) :
    IsStampText (Text.paddedDecimal width number) := by
  intro c mem
  exact Or.inl (Text.isDigit_of_mem_paddedDecimal mem)

theorem isStampText_yearText (year : Int) : IsStampText (Date.yearText year) := by
  have digits := isStampText_paddedDecimal 4 year.natAbs
  rw [Date.yearText]
  split
  · exact isStampText_append_iff.mpr ⟨by decide, digits⟩
  · split
    · exact digits
    · exact isStampText_append_iff.mpr ⟨by decide, digits⟩

theorem isStampText_timestamp (instant : Instant) : IsStampText instant.timestamp := by
  have digits := isStampText_paddedDecimal
  have date : IsStampText instant.date.text := by
    simp only [Date.text, isStampText_append_iff]
    exact ⟨⟨⟨⟨isStampText_yearText _, by decide⟩, digits _ _⟩, by decide⟩, digits _ _⟩
  simp only [timestamp, isStampText_append_iff]
  exact ⟨⟨⟨⟨⟨⟨⟨date, by decide⟩, digits _ _⟩, by decide⟩, digits _ _⟩, by decide⟩, digits _ _⟩,
    by decide⟩

theorem isLine_timestamp (instant : Instant) : Text.IsLine instant.timestamp := by
  intro c mem
  have stampChar := isStampText_timestamp instant c mem
  constructor
  · rintro rfl
    revert stampChar
    decide
  · rintro rfl
    revert stampChar
    decide

end Instant

end GenModel
