import GenModel.Proofs.Run.Saves

/-!
# Runs into a collecting sink

A sink that collects files and refuses all of them once it is full ends up with the beginning of
the saves that fits. Three failures compete for the result of such a run: a language that is not
registered, which is found before anything else; a file that is refused; and a target that cannot
be generated, which only counts if all files of the targets before it were taken.
`run_collectingSink` is the complete description.
-/

namespace GenModel

namespace Run

/-- The first items, as many as the limit allows. -/
def within {α : Type} (limit : Option Nat) (items : List α) : List α :=
  match limit with
  | some most => items.take most
  | none => items

/-- Whether there are more than the limit allows. -/
def exceeds (limit : Option Nat) (count : Nat) : Bool :=
  limit.any fun most => most < count

/-- The room that is left in a sink with the given contents. -/
def room {α : Type} (limit : Option Nat) (held : List α) : Option Nat :=
  limit.map fun most => most - held.length

theorem outcome_save_collectingSink (limit : Option Nat) (language : Language) (file : SourceFile)
    (held : List (Language × SourceFile)) :
    outcome ((collectingSink limit).save language file) held =
      if limit.any fun most => most ≤ held.length then (.error (.file .readOnly), held)
      else (.ok (), held ++ [(language, file)]) :=
  rfl

theorem outcome_saveEach_collectingSink (limit : Option Nat)
    (pairs held : List (Language × SourceFile)) :
    outcome (saveEach (collectingSink limit) pairs) held =
      (if exceeds (room limit held) pairs.length then .error (.file .readOnly) else .ok (),
        held ++ within (room limit held) pairs) := by
  induction pairs generalizing held with
  | nil => cases limit <;> simp [saveEach, exceeds, within, room]
  | cons pair rest ih =>
      rcases pair with ⟨language, file⟩
      cases limit with
      | none =>
          have saved : outcome ((collectingSink none).save language file) held =
              (.ok (), held ++ [(language, file)]) := rfl
          rw [outcome_saveEach_cons_ok saved, ih]
          simp [exceeds, within, room]
      | some most =>
          by_cases full : most ≤ held.length
          · have refused : outcome ((collectingSink (some most)).save language file) held =
                (.error (.file .readOnly), held) := by
              simp [outcome_save_collectingSink, full]
            rw [outcome_saveEach_cons_error refused]
            simp [exceeds, within, room, full]
          · have saved : outcome ((collectingSink (some most)).save language file) held =
                (.ok (), held ++ [(language, file)]) := by
              simp [outcome_save_collectingSink, full]
            have more : most - held.length = most - (held.length + 1) + 1 := by omega
            rw [outcome_saveEach_cons_ok saved, ih]
            simp [exceeds, within, room, more]

/-- A run into a collecting sink: a language that is not registered leaves the sink as it is;
otherwise the sink takes the saves of the targets up to its limit, and the result is its refusal,
else the first failure of a target, else the number of saves. -/
theorem run_collectingSink (registry : Registry) (limit : Option Nat) (model : List Declaration)
    (targets : List Target) (generatedAt : Instant) :
    (∀ target held,
      (targets.find? fun target => target.language ∉ registry.names) = some target →
        outcome (run registry (collectingSink limit) model targets generatedAt) held =
          (.error (.unsupportedLanguage target.language), held)) ∧
    ((targets.find? fun target => target.language ∉ registry.names) = none →
      ∃ resolved,
        List.Forall₂ (Resolves registry) targets resolved ∧
        outcome (run registry (collectingSink limit) model targets generatedAt) [] =
          (if exceeds limit (saves model generatedAt resolved).length then
              .error (.file .readOnly)
            else
              ending (saves model generatedAt resolved).length
                (failure? model generatedAt resolved),
            within limit (saves model generatedAt resolved)) ∧
        (failure? model generatedAt resolved = none →
          (saves model generatedAt resolved).length = targets.length * model.length) ∧
        ∀ before pair after error, resolved = before ++ pair :: after →
          filesOf model generatedAt pair.1 pair.2 = .error error →
          saves model generatedAt resolved = saves model generatedAt before) := by
  refine ⟨?_, ?_⟩
  · intro target held first
    exact outcome_run_of_resolve_error (resolve_of_find?_eq_some first) held
  · intro noneMissing
    have registered : ∀ target ∈ targets, target.language ∈ registry.names := by
      simpa using noneMissing
    rcases resolve_of_forall_mem registered with ⟨resolved, found⟩
    have resolves := resolve_eq_ok_iff.mp found
    refine ⟨resolved, resolves, ?_, ?_, ?_⟩
    · rw [outcome_run_of_resolve_ok (fun _ _ _ => rfl) found, outcome_saveEach_collectingSink]
      have empty : room limit ([] : List (Language × SourceFile)) = limit := by
        cases limit <;> simp [room]
      rw [empty, List.nil_append]
      cases exceeds limit (saves model generatedAt resolved).length <;> rfl
    · intro generated
      rw [length_saves generated, resolves.length_eq]
    · rintro before pair after error rfl failed
      exact saves_append_cons_error failed

/-- A class and an enum. -/
def twoDeclarations : List Declaration :=
  [.ofClass ⟨"A", []⟩, .ofEnum ⟨"E", []⟩]

theorem run_collectingSink_twoDeclarations :
    outcome (run Registry.defaults (collectingSink (some 1)) twoDeclarations
        [⟨"go", none⟩, ⟨"cobol", none⟩] newYear) [] =
      (.error (.unsupportedLanguage "cobol"), []) ∧
    ∃ resolved,
      List.Forall₂ (Resolves Registry.defaults) [⟨"c#", none⟩] resolved ∧
      outcome (run Registry.defaults (collectingSink (some 1)) twoDeclarations [⟨"c#", none⟩]
          newYear) [] =
        (if exceeds (some 1) (saves twoDeclarations newYear resolved).length then
            .error (.file .readOnly)
          else
            ending (saves twoDeclarations newYear resolved).length
              (failure? twoDeclarations newYear resolved),
          within (some 1) (saves twoDeclarations newYear resolved)) := by
  refine ⟨?_, ?_⟩
  · have described := run_collectingSink Registry.defaults (some 1) twoDeclarations
      [⟨"go", none⟩, ⟨"cobol", none⟩] newYear
    exact described.1 ⟨"cobol", none⟩ [] (by decide +kernel)
  · have described := run_collectingSink Registry.defaults (some 1) twoDeclarations
      [⟨"c#", none⟩] newYear
    rcases described.2 (by decide +kernel) with ⟨resolved, resolves, ended, -⟩
    exact ⟨resolved, resolves, ended⟩

end Run

end GenModel
