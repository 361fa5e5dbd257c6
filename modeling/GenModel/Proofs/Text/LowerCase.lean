import GenModel.Proofs.Text.Tokens
import GenModel.Text.CaseMap

/-!
# Small first letters

Names are stored with a small first letter, and a stored name stays what it is when it is stored
again. That rests on the table of the lower case mapping: no character that the table produces is
one that the table changes, and none is blank. As the table is given by spans, so is the proof. Two
spans that lie one after the other, or whose members are all even and all odd, share nothing, and
`lowerTargets_isSettled` finds this of every span of characters that the table produces and every
span that it must avoid.
-/

namespace GenModel

namespace Text

namespace Span

theorem contains_iff {span : Span} {code : Nat} :
    span.contains code = true ↔
      span.first ≤ code ∧ code ≤ span.last ∧ (code - span.first) % span.step = 0 := by
  simp [contains, Nat.ble_eq, and_assoc]

/-- Whether the span shows that all of its members have the given parity. -/
def hasParity (span : Span) (parity : Nat) : Bool :=
  (span.first % 2).beq parity && ((span.step % 2).beq 0 || span.first.beq span.last)

theorem mod_two_of_hasParity {span : Span} {parity code : Nat}
    (hasParity : span.hasParity parity = true) (member : span.contains code = true) :
    code % 2 = parity := by
  rcases contains_iff.mp member with ⟨above, below, onStep⟩
  simp only [Span.hasParity, Bool.and_eq_true, Bool.or_eq_true, Nat.beq_eq] at hasParity
  rcases hasParity with ⟨firstParity, evenStep | single⟩
  · have evenDistance : 2 ∣ code - span.first :=
      Nat.dvd_trans (Nat.dvd_of_mod_eq_zero evenStep) (Nat.dvd_of_mod_eq_zero onStep)
    omega
  · omega

/-- Whether the spans show that they share no member. -/
def isApart (span other : Span) : Bool :=
  bif span.first.ble other.last then
    bif other.first.ble span.last then
      span.hasParity 0 && other.hasParity 1 || span.hasParity 1 && other.hasParity 0
    else true
  else true

theorem not_contains_of_isApart {span other : Span} {code : Nat}
    (isApart : span.isApart other = true) (member : span.contains code = true) :
    other.contains code = false := by
  rw [Bool.eq_false_iff]
  intro otherMember
  have inSpan := contains_iff.mp member
  have inOther := contains_iff.mp otherMember
  have reaches : span.first.ble other.last = true := Nat.ble_eq.mpr (by omega)
  have reached : other.first.ble span.last = true := Nat.ble_eq.mpr (by omega)
  simp only [Span.isApart, reaches, reached, cond_true, Bool.or_eq_true, Bool.and_eq_true]
    at isApart
  rcases isApart with ⟨even, odd⟩ | ⟨odd, even⟩
  · have := mod_two_of_hasParity even member
    have := mod_two_of_hasParity odd otherMember
    omega
  · have := mod_two_of_hasParity odd member
    have := mod_two_of_hasParity even otherMember
    omega

end Span

theorem inSpans_eq_false {spans : List Span} {code : Nat}
    (outside : ∀ span ∈ spans, span.contains code = false) : inSpans spans code = false := by
  cases found : spans.find? fun span => code.ble span.last with
  | none => simp [inSpans, found]
  | some span => simp [inSpans, found, outside span (List.mem_of_find?_eq_some found)]

/-- The span of the characters that a shift produces. -/
def Shift.target (shift : Shift) : Span :=
  ⟨shift.image, shift.image + (shift.span.last - shift.span.first), shift.span.step⟩

theorem Shift.target_contains {shift : Shift} {code : Nat}
    (member : shift.span.contains code = true) :
    shift.target.contains (shift.image + (code - shift.span.first)) = true := by
  rcases Span.contains_iff.mp member with ⟨above, below, onStep⟩
  refine Span.contains_iff.mpr ⟨?_, ?_, ?_⟩
  · simp [target]
  · simp only [target]
    omega
  · simpa [target] using onStep

namespace CaseMap

variable {caseMap : CaseMap} {c : Char}

/-- What a mapping can do to a character: keep it, expand it or shift it. -/
theorem apply_cases (caseMap : CaseMap) (c : Char) :
    caseMap.apply c = [c] ∨
      (∃ codes, caseMap.expansions.lookup c.toNat = some codes ∧
        caseMap.apply c = codes.map Char.ofNat) ∨
      ∃ shift ∈ caseMap.shifts, shift.span.contains c.toNat = true ∧
        caseMap.apply c = [shift.apply c.toNat] := by
  have expandCases : caseMap.expand c = [c] ∨
      ∃ codes, caseMap.expansions.lookup c.toNat = some codes ∧
        caseMap.expand c = codes.map Char.ofNat := by
    cases found : caseMap.expansions.lookup c.toNat with
    | none => exact Or.inl (by simp [expand, found])
    | some codes => exact Or.inr ⟨codes, rfl, by simp [expand, found]⟩
  cases found : caseMap.shifts.find? fun shift => c.toNat.ble shift.span.last with
  | none =>
      simp only [apply, found]
      rcases expandCases with kept | expanded
      · exact Or.inl kept
      · exact Or.inr (Or.inl expanded)
  | some shift =>
      by_cases member : shift.span.contains c.toNat = true
      · refine Or.inr (Or.inr ⟨shift, List.mem_of_find?_eq_some found, member, ?_⟩)
        simp [apply, found, member]
      · simp only [apply, found, member]
        rcases expandCases with kept | expanded
        · exact Or.inl kept
        · exact Or.inr (Or.inl expanded)

theorem apply_eq_self (unshifted : ∀ shift ∈ caseMap.shifts, shift.span.contains c.toNat = false)
    (unexpanded : caseMap.expansions.lookup c.toNat = none) : caseMap.apply c = [c] := by
  rcases caseMap.apply_cases c with kept | ⟨codes, found, -⟩ | ⟨shift, mem, member, -⟩
  · exact kept
  · rw [unexpanded] at found
    simp at found
  · rw [unshifted shift mem] at member
    simp at member

end CaseMap

/-- Whether the span holds only characters that are not blank and that the lower case mapping
keeps. -/
def isSettled (span : Span) : Bool :=
  (span.last.blt 0xD800 || Nat.blt 0xDFFF span.first && span.last.blt 0x110000) &&
    span.isApart ⟨0x130, 0x130, 1⟩ && blankSpans.all span.isApart &&
    lowerCaseMap.shifts.all fun shift => span.isApart shift.span

theorem toNat_ofNat {code : Nat} (valid : code.isValidChar) : (Char.ofNat code).toNat = code := by
  rw [Char.ofNat, dif_pos valid]
  rfl

theorem toNat_ofNat_of_isSettled {span : Span} {code : Nat} (settled : isSettled span = true)
    (member : span.contains code = true) : (Char.ofNat code).toNat = code := by
  have bounds := Span.contains_iff.mp member
  simp only [isSettled, Bool.and_eq_true, Bool.or_eq_true, Nat.blt_eq] at settled
  apply toNat_ofNat
  simp only [Nat.isValidChar]
  omega

theorem isBlank_of_isSettled {span : Span} {code : Nat} (settled : isSettled span = true)
    (member : span.contains code = true) : isBlank (Char.ofNat code) = false := by
  rw [isBlank, toNat_ofNat_of_isSettled settled member]
  simp only [isSettled, Bool.and_eq_true, List.all_eq_true] at settled
  apply inSpans_eq_false
  intro blanks mem
  exact Span.not_contains_of_isApart (settled.1.2 blanks mem) member

theorem lower_of_isSettled {span : Span} {code : Nat} (settled : isSettled span = true)
    (member : span.contains code = true) : lower (Char.ofNat code) = [Char.ofNat code] := by
  have codeEq := toNat_ofNat_of_isSettled settled member
  simp only [isSettled, Bool.and_eq_true, List.all_eq_true] at settled
  rcases settled with ⟨⟨⟨-, notDotted⟩, -⟩, unshifted⟩
  apply CaseMap.apply_eq_self
  · intro shift mem
    rw [codeEq]
    exact Span.not_contains_of_isApart (unshifted shift mem) member
  · have notDotted : code ≠ 0x130 := by
      rintro rfl
      have excluded := Span.not_contains_of_isApart notDotted member
      simp [Span.contains] at excluded
    rw [codeEq]
    simp [lowerCaseMap, List.lookup_cons, beq_eq_false_iff_ne.mpr notDotted]

/-- The lower case mapping produces only characters that are not blank and that it keeps. -/
theorem lowerTargets_isSettled :
    (lowerCaseMap.shifts.all fun shift => isSettled shift.target) = true := by
  decide +kernel

/-- The lower case form of a character begins with a character that is its own lower case form. -/
theorem lower_cases (c : Char) :
    lower c = [c] ∨ ∃ first rest, lower c = first :: rest ∧ lower first = [first] ∧
      ∀ x ∈ lower c, isBlank x = false := by
  rcases lowerCaseMap.apply_cases c with kept | ⟨codes, found, expanded⟩ |
    ⟨shift, mem, member, shifted⟩
  · exact Or.inl kept
  · right
    have dotted : codes = [0x69, 0x307] := by
      by_cases isDotted : c.toNat = 0x130
      · simpa [lowerCaseMap, isDotted] using found.symm
      · simp [lowerCaseMap, List.lookup_cons, beq_eq_false_iff_ne.mpr isDotted] at found
    subst codes
    refine ⟨'i', ['\u0307'], expanded, by decide +kernel, ?_⟩
    rw [lower, expanded]
    simp only [List.map_cons, List.map_nil, List.forall_mem_cons]
    exact ⟨by decide, by decide, by simp⟩
  · right
    have settled := List.all_eq_true.mp lowerTargets_isSettled shift mem
    have targeted := Shift.target_contains member
    refine ⟨_, [], shifted, lower_of_isSettled settled targeted, ?_⟩
    intro x xMem
    rw [lower, shifted, List.mem_singleton] at xMem
    subst x
    exact isBlank_of_isSettled settled targeted

theorem isBlank_of_mem_lower {c x : Char} (notBlank : isBlank c = false) (mem : x ∈ lower c) :
    isBlank x = false := by
  rcases lower_cases c with kept | ⟨_, _, -, -, noneBlank⟩
  · rw [kept, List.mem_singleton] at mem
    rw [mem]
    exact notBlank
  · exact noneBlank x mem

/-- A name with a small first letter stays what it is. -/
theorem lowerFirst_lowerFirst (name : String) : lowerFirst (lowerFirst name) = lowerFirst name := by
  cases characters : name.toList with
  | nil => simp [lowerFirst, characters]
  | cons c others =>
      rcases lower_cases c with kept | ⟨first, rest, lowered, fixed, -⟩
      · simp [lowerFirst, characters, kept]
      · simp [lowerFirst, characters, lowered, fixed]

theorem isToken_lowerFirst {name : String} (isToken : IsToken name) :
    IsToken (lowerFirst name) := by
  rcases isToken with ⟨nonempty, noneBlank⟩
  cases characters : name.toList with
  | nil =>
      rw [String.toList_eq_nil_iff] at characters
      exact absurd characters nonempty
  | cons c others =>
      rw [characters, List.forall_mem_cons] at noneBlank
      have lowerNonempty : lower c ≠ [] := by
        rcases lower_cases c with kept | ⟨first, rest, lowered, -, -⟩
        · simp [kept]
        · simp [lowered]
      refine ⟨?_, ?_⟩
      · simp [lowerFirst, characters, lowerNonempty]
      · intro x mem
        simp only [lowerFirst, characters, String.toList_ofList, List.mem_append] at mem
        rcases mem with mem | mem
        · exact isBlank_of_mem_lower noneBlank.1 mem
        · exact noneBlank.2 x mem

end Text

end GenModel
