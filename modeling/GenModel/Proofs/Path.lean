import GenModel.Path
import GenModel.Proofs.Text.Tokens

/-!
# Paths of plain names

Joining a plain name to a path appends it to the names of the path and does not change where the
path begins.
-/

namespace GenModel

namespace Path

/-- A name that stands for an entry of a folder: not empty, without slashes and not one of the
names that stand for folders themselves. -/
structure IsName (name : String) : Prop where
  nonempty : name ≠ ""
  noSlash : '/' ∉ name.toList
  notDot : name ≠ "."
  notDots : name ≠ ".."

namespace IsName

variable {name : String}

theorem not_isAbsolute (isName : IsName name) : isAbsolute name = false := by
  rw [Bool.eq_false_iff]
  intro absolute
  simp only [isAbsolute, beq_iff_eq] at absolute
  exact isName.noSlash (List.mem_of_head? absolute)

theorem segments_eq (isName : IsName name) : segments name = [name] := by
  apply Text.tokensBy_of_forall_not_mark isName.nonempty
  intro c mem
  rw [beq_eq_false_iff_ne]
  rintro rfl
  exact isName.noSlash mem

theorem join_eq (isName : IsName name) (base : String) :
    join base name =
      if base = "" ∨ endsWithSlash base then base ++ name else base ++ "/" ++ name := by
  simp [join, isName.not_isAbsolute]

end IsName

theorem segments_empty : segments "" = [] := by
  decide

theorem segments_append_slash (front back : String) :
    segments (front ++ "/" ++ back) = segments front ++ segments back := by
  have slash : String.singleton '/' = "/" := by decide
  have cut := @Text.tokensBy_append_mark (· == '/') '/' (by decide) front back
  rw [slash] at cut
  exact cut

theorem eq_append_slash_of_endsWithSlash {path : String} (slash : endsWithSlash path = true) :
    ∃ front, path = front ++ "/" := by
  simp only [endsWithSlash, beq_iff_eq] at slash
  rcases List.getLast?_eq_some_iff.mp slash with ⟨front, whole⟩
  refine ⟨String.ofList front, ?_⟩
  apply String.toList_injective
  simp [whole]

/-- Joining a plain name appends it to the names of a path. -/
theorem segments_join {name : String} (isName : IsName name) (base : String) :
    segments (join base name) = segments base ++ [name] := by
  rw [isName.join_eq]
  by_cases empty : base = ""
  · subst base
    simp [segments_empty, isName.segments_eq]
  · by_cases slash : endsWithSlash base = true
    · rcases eq_append_slash_of_endsWithSlash slash with ⟨front, rfl⟩
      have nothing := segments_append_slash front ""
      rw [segments_empty, List.append_nil, String.append_empty] at nothing
      rw [if_pos (Or.inr slash), segments_append_slash, nothing, isName.segments_eq]
    · rw [if_neg (by simp [empty, slash]), segments_append_slash, isName.segments_eq]

theorem isAbsolute_join {name : String} (isName : IsName name) (base : String) :
    isAbsolute (join base name) = isAbsolute base := by
  rw [isName.join_eq]
  by_cases empty : base = ""
  · subst base
    simp only [true_or, if_true, String.empty_append]
    rw [isName.not_isAbsolute]
    rfl
  · have head : ∀ back : String, isAbsolute (base ++ back) = isAbsolute base := by
      intro back
      cases characters : base.toList with
      | nil =>
          rw [String.toList_eq_nil_iff] at characters
          exact absurd characters empty
      | cons first rest => simp [isAbsolute, characters]
    by_cases slash : endsWithSlash base = true
    · rw [if_pos (Or.inr slash), head]
    · rw [if_neg (by simp [empty, slash]), String.append_assoc, head]

theorem components_filter (path : String) :
    (components path).filter (fun name => name != ".") =
      (segments path).filter fun name => name != "." := by
  cases found : segments path with
  | nil => simp [components, found]
  | cons first rest =>
      by_cases dropped : first = "." ∧ isAbsolute path = true
      · simp [components, found, dropped]
      · simp [components, found, dropped, List.filter_cons]

end Path

end GenModel
