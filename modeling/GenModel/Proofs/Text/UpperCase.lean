import GenModel.Proofs.Text.Unbroken
import Mathlib.Data.List.Basic

/-!
# Capital first letters

A stored name has a small first letter, and some languages write it with a capital one. What is
written need not lead back to the stored name: both `s` and `ſ` are written `S`, and `ß` is written
`SS`. The name that a written name leads back to is the one that is regained from the stored name.
Two stored names are written alike exactly if the same name is regained from both
(`upperFirst_eq_iff`), and a name that begins with an ASCII character is regained from itself.

This rests on the tables: every character that the upper case mapping produces in the first place
returns from its own lower case form. As the tables are given by spans, so is the proof. A shift
that covers a span keeps the distances of its members, and `upperTargets_return` follows the spans
that the upper case mapping produces through both tables.
-/

namespace GenModel

namespace Text

namespace Span

/-- Whether the span shows that it holds all members of another span. -/
def covers (span other : Span) : Bool :=
  span.contains other.first && other.last.ble span.last &&
    ((other.step % span.step).beq 0 || other.first.beq other.last)

theorem contains_of_covers {span other : Span} {code : Nat} (covers : span.covers other = true)
    (member : other.contains code = true) : span.contains code = true := by
  rcases contains_iff.mp member with ⟨above, below, onStep⟩
  simp only [Span.covers, Bool.and_eq_true, Bool.or_eq_true, Nat.beq_eq, Nat.ble_eq] at covers
  rcases covers with ⟨⟨firstMember, lastBelow⟩, finer⟩
  rcases contains_iff.mp firstMember with ⟨firstAbove, -, firstOnStep⟩
  refine contains_iff.mpr ⟨by omega, by omega, ?_⟩
  have fromFirst : span.step ∣ code - other.first := by
    rcases finer with multiple | single
    · exact Nat.dvd_trans (Nat.dvd_of_mod_eq_zero multiple) (Nat.dvd_of_mod_eq_zero onStep)
    · have isFirst : code - other.first = 0 := by
        omega
      rw [isFirst]
      exact Nat.dvd_zero _
  have distance : code - span.first = (code - other.first) + (other.first - span.first) := by
    omega
  rw [distance]
  exact Nat.mod_eq_zero_of_dvd (Nat.dvd_add fromFirst (Nat.dvd_of_mod_eq_zero firstOnStep))

theorem first_le_of_covers {span other : Span} (covers : span.covers other = true) :
    span.first ≤ other.first := by
  simp only [Span.covers, Bool.and_eq_true] at covers
  exact (contains_iff.mp covers.1.1).1

/-- Whether the span shows that all of its members are characters. -/
def isValid (span : Span) : Bool :=
  span.last.blt 0xD800 || Nat.blt 0xDFFF span.first && span.last.blt 0x110000

theorem toNat_ofNat_of_isValid {span : Span} {code : Nat} (valid : span.isValid = true)
    (member : span.contains code = true) : (Char.ofNat code).toNat = code := by
  have bounds := contains_iff.mp member
  simp only [isValid, Bool.or_eq_true, Bool.and_eq_true, Nat.blt_eq] at valid
  apply toNat_ofNat
  simp only [Nat.isValidChar]
  omega

end Span

namespace Shift

variable {shift : Shift} {span : Span} {code : Nat}

/-- The code point that a code point is moved to. -/
def move (shift : Shift) (code : Nat) : Nat :=
  shift.image + (code - shift.span.first)

/-- The span that a span is moved to. -/
def moved (shift : Shift) (span : Span) : Span :=
  ⟨shift.move span.first, shift.move span.last, span.step⟩

theorem moved_contains (covers : shift.span.covers span = true)
    (member : span.contains code = true) :
    (shift.moved span).contains (shift.move code) = true := by
  have firstInside := Span.first_le_of_covers covers
  rcases Span.contains_iff.mp member with ⟨above, below, onStep⟩
  have distance : shift.move code - shift.move span.first = code - span.first := by
    simp only [move]
    omega
  refine Span.contains_iff.mpr ⟨?_, ?_, ?_⟩
  · simp only [moved, move]
    omega
  · simp only [moved, move]
    omega
  · simpa only [moved, distance] using onStep

end Shift

namespace CaseMap

/-- The first shift that does not end before the code point. -/
def shiftFrom? (caseMap : CaseMap) (code : Nat) : Option Shift :=
  caseMap.shifts.find? fun shift => code.ble shift.span.last

/-- A shift that covers a span, and before which all others end, moves all members of the span. -/
theorem apply_of_covers {caseMap : CaseMap} {shift : Shift} {span : Span} {c : Char}
    (found : caseMap.shiftFrom? span.first = some shift) (covers : shift.span.covers span = true)
    (member : span.contains c.toNat = true) : caseMap.apply c = [shift.apply c.toNat] := by
  have inside := Span.contains_of_covers covers member
  have above := (Span.contains_iff.mp member).1
  have below := (Span.contains_iff.mp inside).2.1
  rcases List.find?_eq_some_iff_append.mp found with ⟨-, front, back, shifts, frontEnds⟩
  have frontFails : (front.find? fun earlier => c.toNat.ble earlier.span.last) = none := by
    rw [List.find?_eq_none]
    intro earlier mem
    have ends := frontEnds earlier mem
    rw [Bool.not_eq_true', ← Bool.not_eq_true, Nat.ble_eq] at ends
    rw [Nat.ble_eq]
    omega
  have foundThere : (caseMap.shifts.find? fun other => c.toNat.ble other.span.last) =
      some shift := by
    rw [shifts, List.find?_append, frontFails, Option.none_or]
    exact List.find?_cons_of_pos (Nat.ble_eq.mpr below)
  rw [apply, foundThere]
  exact if_pos inside

end CaseMap

/-- One mapping takes the character to one character, and the other mapping takes that back. -/
def Returns (there back : Char → List Char) (c : Char) : Prop :=
  (there c).length = 1 ∧ (there c).flatMap back = [c]

instance (there back : Char → List Char) (c : Char) : Decidable (Returns there back c) :=
  inferInstanceAs (Decidable (_ ∧ _))

theorem returns_iff {there back : Char → List Char} {c : Char} :
    Returns there back c ↔ ∃ other, there c = [other] ∧ back other = [c] := by
  constructor
  · rintro ⟨single, returned⟩
    rcases List.length_eq_one_iff.mp single with ⟨other, mapped⟩
    refine ⟨other, mapped, ?_⟩
    simpa [mapped] using returned
  · rintro ⟨other, mapped, returned⟩
    exact ⟨by simp [mapped], by simp [mapped, returned]⟩

/-- Whether the tables show that all members of the span return from their lower case forms. -/
def isReturned (span : Span) : Bool :=
  span.isValid && (lowerCaseMap.shiftFrom? span.first).any fun small =>
    small.span.covers span && (small.moved span).isValid &&
      (upperCaseMap.shiftFrom? (small.moved span).first).any fun capital =>
        capital.span.covers (small.moved span) &&
          (capital.move (small.move span.first)).beq span.first

theorem returns_of_isReturned {span : Span} {code : Nat} (returned : isReturned span = true)
    (member : span.contains code = true) : Returns lower upper (Char.ofNat code) := by
  simp only [isReturned, Bool.and_eq_true, Option.any_eq_true, Nat.beq_eq] at returned
  rcases returned with ⟨valid, small, smallFound, ⟨smallCovers, smallValid⟩, capital, capitalFound,
    capitalCovers, firstReturns⟩
  have movedMember := Shift.moved_contains smallCovers member
  have codeEq := Span.toNat_ofNat_of_isValid valid member
  have movedEq := Span.toNat_ofNat_of_isValid smallValid movedMember
  -- Both shifts keep distances, so every member returns as the first one does.
  have codeReturns : capital.move (small.move code) = code := by
    have smallAbove := Span.first_le_of_covers smallCovers
    have capitalAbove := Span.first_le_of_covers capitalCovers
    have above := (Span.contains_iff.mp member).1
    simp only [Shift.move, Shift.moved] at firstReturns capitalAbove ⊢
    omega
  refine returns_iff.mpr ⟨Char.ofNat (small.move code), ?_, ?_⟩
  · rw [← codeEq] at member
    rw [lower, CaseMap.apply_of_covers smallFound smallCovers member, codeEq]
    rfl
  · rw [← movedEq] at movedMember
    rw [upper, CaseMap.apply_of_covers capitalFound capitalCovers movedMember, movedEq]
    exact congrArg (fun returnedCode => [Char.ofNat returnedCode]) codeReturns

/-- What the upper case mapping produces in the first place returns from its lower case form. -/
theorem upperTargets_return :
    (upperCaseMap.shifts.all fun shift => isReturned shift.target) = true ∧
      ∀ expansion ∈ upperCaseMap.expansions, ∃ code ∈ expansion.2.head?,
        Returns lower upper (Char.ofNat code) := by
  decide +kernel

/-- The upper case form of a character begins with a character that returns from its lower case
form. -/
theorem upper_cases (c : Char) :
    upper c = [c] ∨ ∃ first rest, upper c = first :: rest ∧ Returns lower upper first := by
  rcases upperCaseMap.apply_cases c with kept | ⟨codes, found, expanded⟩ |
    ⟨shift, mem, member, shifted⟩
  · exact Or.inl kept
  · right
    rcases List.lookup_eq_some_iff.mp found with ⟨front, back, expansions, -⟩
    rcases upperTargets_return.2 (c.toNat, codes) (by simp [expansions]) with
      ⟨code, codeFirst, returns⟩
    rcases List.head?_eq_some_iff.mp codeFirst with ⟨others, rfl⟩
    exact ⟨Char.ofNat code, others.map Char.ofNat, expanded, returns⟩
  · right
    have returned := List.all_eq_true.mp upperTargets_return.1 shift mem
    exact ⟨_, [], shifted, returns_of_isReturned returned (Shift.target_contains member)⟩

section FirstLetters

variable {name other : String} {c : Char} {rest : List Char}

theorem upperFirst_ofList_cons :
    upperFirst (String.ofList (c :: rest)) = String.ofList (upper c ++ rest) := by
  simp [upperFirst]

theorem lowerFirst_ofList_cons :
    lowerFirst (String.ofList (c :: rest)) = String.ofList (lower c ++ rest) := by
  simp [lowerFirst]

/-- The name that is led back to from a name with its first letter made a capital one. -/
def regained (name : String) : String :=
  lowerFirst (upperFirst name)

theorem lower_eq_of_lowerFirst
    (stored : lowerFirst (String.ofList (c :: rest)) = String.ofList (c :: rest)) :
    lower c = [c] := by
  rw [lowerFirst_ofList_cons, String.ofList_inj, ← List.singleton_append] at stored
  exact List.append_cancel_right stored

theorem regained_ofList_cons (returns : Returns upper lower c) :
    regained (String.ofList (c :: rest)) = String.ofList (c :: rest) := by
  rcases returns_iff.mp returns with ⟨capital, raised, lowered⟩
  rw [regained, upperFirst_ofList_cons, raised, List.singleton_append, lowerFirst_ofList_cons,
    lowered, List.singleton_append]

/-- A regained name is written as the name that it is regained from. -/
theorem upperFirst_regained (stored : lowerFirst name = name) :
    upperFirst (regained name) = upperFirst name := by
  cases characters : name.toList with
  | nil => simp [regained, upperFirst, lowerFirst, characters]
  | cons c rest =>
      have nameEq : name = String.ofList (c :: rest) := by
        rw [← characters, String.ofList_toList]
      subst nameEq
      rw [regained, upperFirst_ofList_cons]
      rcases upper_cases c with kept | ⟨first, others, raised, returns⟩
      · rw [kept, List.singleton_append, stored, upperFirst_ofList_cons, kept,
          List.singleton_append]
      · rcases returns_iff.mp returns with ⟨small, lowered, returned⟩
        rw [raised, List.cons_append, lowerFirst_ofList_cons, lowered, List.singleton_append,
          upperFirst_ofList_cons, returned, List.singleton_append]

/-- Two stored names are written alike exactly if the same name is regained from both. -/
theorem upperFirst_eq_iff (stored : lowerFirst name = name)
    (otherStored : lowerFirst other = other) :
    upperFirst name = upperFirst other ↔ regained name = regained other := by
  constructor
  · intro same
    rw [regained, regained, same]
  · intro same
    rw [← upperFirst_regained stored, same, upperFirst_regained otherStored]

/-- The text begins with no other character than an ASCII one. -/
def BeginsAscii (text : String) : Prop :=
  ∀ c ∈ text.toList.head?, c.toNat < 128

theorem asciiCodes_return :
    ∀ code < 128, lower (Char.ofNat code) = [Char.ofNat code] →
      Returns upper lower (Char.ofNat code) := by
  decide +kernel

theorem regained_of_beginsAscii (stored : lowerFirst name = name) (ascii : BeginsAscii name) :
    regained name = name := by
  cases characters : name.toList with
  | nil =>
      rw [String.toList_eq_nil_iff] at characters
      rw [characters]
      rfl
  | cons c rest =>
      have nameEq : name = String.ofList (c :: rest) := by
        rw [← characters, String.ofList_toList]
      have below : c.toNat < 128 := ascii c (by simp [characters])
      subst nameEq
      have kept := lower_eq_of_lowerFirst stored
      have returns := asciiCodes_return c.toNat below
      rw [Char.ofNat_toNat] at returns
      exact regained_ofList_cons (returns kept)

end FirstLetters

end Text

end GenModel
