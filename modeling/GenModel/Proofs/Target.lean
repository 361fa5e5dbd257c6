import GenModel.Target
import Mathlib.Data.List.TakeWhile

/-!
# Targets and their texts

The first colon of a text ends the language, and all that follows it is the package, further
colons included. A text without a colon and a text that ends with its first colon name no package,
so these two are read as the same target. `ofText_eq_iff` says that nothing else is confused: the
texts of a target are the one that it is written as and, if it has no package, the same text with a
colon after it. Reading and writing are inverse to each other up to that colon.
-/

namespace GenModel

namespace Target

/-- A target whose parts can be told apart in its text. -/
structure IsPlain (target : Target) : Prop where
  language : ':' ∉ target.language.toList
  package : target.package ≠ some ""

/-- The text announces a package after a language but does not give it. -/
def LacksPackage (text : String) : Prop :=
  ∃ language : String, ':' ∉ language.toList ∧ text = language ++ ":"

/-- A text without a colon is a language, and any other is cut at its first colon. -/
theorem exists_cut (text : String) :
    ':' ∉ text.toList ∨
      ∃ language name : String, ':' ∉ language.toList ∧ text = language ++ ":" ++ name := by
  by_cases colon : ':' ∈ text.toList
  · right
    rcases List.eq_append_cons_of_mem colon with ⟨before, after, whole, free⟩
    refine ⟨String.ofList before, String.ofList after, ?_, ?_⟩
    · rwa [String.toList_ofList]
    · apply String.toList_injective
      simp [whole]
  · left
    exact colon

section Reading

variable {language : String} (free : ':' ∉ language.toList)
include free

theorem ne_colon_of_mem : ∀ c ∈ language.toList, (c != ':') = true := by
  intro c mem
  rw [bne_iff_ne]
  rintro rfl
  exact free mem

theorem ofText_of_free : ofText language = ⟨language, none⟩ := by
  have taken := List.takeWhile_eq_self_iff.mpr (ne_colon_of_mem free)
  have dropped := List.dropWhile_eq_nil_iff.mpr (ne_colon_of_mem free)
  simp [ofText, taken, dropped]

theorem ofText_append_colon (name : String) :
    ofText (language ++ ":" ++ name) = ⟨language, if name = "" then none else some name⟩ := by
  have characters : (language ++ ":" ++ name).toList = language.toList ++ ':' :: name.toList := by
    simp
  have taken : (language.toList ++ ':' :: name.toList).takeWhile (fun c => c != ':') =
      language.toList := by
    rw [List.takeWhile_append_of_pos (ne_colon_of_mem free)]
    simp
  have dropped : (language.toList ++ ':' :: name.toList).dropWhile (fun c => c != ':') =
      ':' :: name.toList := by
    rw [List.dropWhile_append_of_pos (ne_colon_of_mem free)]
    simp
  rw [ofText, characters, taken, dropped, String.ofList_toList]
  by_cases empty : name = ""
  · subst name
    rfl
  · cases found : name.toList with
    | nil => exact absurd (String.toList_eq_nil_iff.mp found) empty
    | cons first rest =>
        simp only [if_neg empty]
        rw [← found, String.ofList_toList]

end Reading

/-- The targets that can be read are the plain ones, each from the text that it is written as and,
without a package, from one text more. -/
theorem ofText_eq_iff {text : String} {target : Target} :
    ofText text = target ↔
      target.IsPlain ∧
        (text = target.text ∨ target.package = none ∧ text = target.text ++ ":") := by
  constructor
  · rintro rfl
    rcases exists_cut text with free | ⟨language, name, free, rfl⟩
    · rw [ofText_of_free free]
      exact ⟨⟨free, by simp⟩, Or.inl rfl⟩
    · rw [ofText_append_colon free]
      by_cases empty : name = ""
      · subst name
        exact ⟨⟨free, by simp⟩, Or.inr ⟨by simp, by simp [Target.text]⟩⟩
      · rw [if_neg empty]
        exact ⟨⟨free, by simpa using empty⟩, Or.inl rfl⟩
  · rcases target with ⟨language, package⟩
    rintro ⟨⟨free, nonempty⟩, rfl | ⟨rfl, rfl⟩⟩
    · cases package with
      | none => exact ofText_of_free free
      | some name =>
          have given : name ≠ "" := by
            rintro rfl
            exact nonempty rfl
          simp only [Target.text]
          rw [ofText_append_colon free, if_neg given]
    · have cut := ofText_append_colon free ""
      rw [String.append_empty, if_pos rfl] at cut
      exact cut

theorem isPlain_ofText (text : String) : (ofText text).IsPlain :=
  (ofText_eq_iff.mp rfl).1

theorem ofText_of_lacksPackage {language : String} (free : ':' ∉ language.toList) :
    ofText (language ++ ":") = ⟨language, none⟩ := by
  apply ofText_eq_iff.mpr
  exact ⟨⟨free, by simp⟩, Or.inr ⟨rfl, rfl⟩⟩

/-- Exactly the plain targets are read back from their texts, and only they are read at all. Every
text is written again as it was, but for the colon of a package that is not given. -/
theorem ofText_text_iff_and_text_ofText :
    (∀ target : Target, ofText target.text = target ↔ target.IsPlain) ∧
      (∀ text, (ofText text).IsPlain) ∧
      ∀ text,
        (LacksPackage text → text = (ofText text).text ++ ":") ∧
          (¬LacksPackage text → (ofText text).text = text) := by
  refine ⟨?_, isPlain_ofText, ?_⟩
  · intro target
    constructor
    · intro read
      exact read ▸ isPlain_ofText target.text
    · intro plain
      exact ofText_eq_iff.mpr ⟨plain, Or.inl rfl⟩
  · intro text
    constructor
    · rintro ⟨language, free, rfl⟩
      rw [ofText_of_lacksPackage free]
      rfl
    · intro given
      rcases ofText_eq_iff.mp (rfl : ofText text = ofText text) with
        ⟨plain, written | ⟨absent, written⟩⟩
      · exact written.symm
      · exfalso
        apply given
        refine ⟨(ofText text).language, plain.language, ?_⟩
        simpa [Target.text, absent] using written

/-- A package may begin and end with a colon. The last colon of a text is dropped only if it is the
first one too. -/
theorem ofText_text_iff_and_text_ofText_colons :
    ofText "c#::My::Models:" = ⟨"c#", some ":My::Models:"⟩ ∧
      LacksPackage "c#:" ∧ "c#:" = (ofText "c#:").text ++ ":" ∧
      ¬LacksPackage "c#::" ∧ (ofText "c#::").text = "c#::" := by
  rcases ofText_text_iff_and_text_ofText with ⟨readBack, -, writtenBack⟩
  have lacks : LacksPackage "c#:" := ⟨"c#", by decide, by decide⟩
  have given : ¬LacksPackage "c#::" := by
    rintro ⟨language, free, written⟩
    have characters : ['c', '#', ':'] ++ [':'] = language.toList ++ [':'] := by
      simpa using congrArg String.toList written
    rw [← List.append_cancel_right characters] at free
    simp at free
  have plain : IsPlain ⟨"c#", some ":My::Models:"⟩ := ⟨by decide, by decide⟩
  exact ⟨(readBack _).mpr plain, lacks, (writtenBack _).1 lacks, given, (writtenBack _).2 given⟩

end Target

end GenModel
