import GenModel.Proofs.Run.Saves
import Mathlib.Data.List.Induction
import Mathlib.Data.List.Sort
import Mathlib.Data.String.Basic

/-!
# Registries as maps

A registry is the result of registrations one after the other. What a name stands for is decided by
the last of them with this name, and all others could as well be left out. The names are in
increasing order, so they do not tell in which order they were registered, and a run looks at a
registry only through `find`. So registrations that agree on the last one of every name cannot be
told apart (`registerAll_views`).

The registry of all languages is itself the result of five registrations, and what is registered
on top of it is one history with them.
-/

namespace GenModel

namespace Registry

variable {Generator : Type}

/-- The registry after registrations one after the other. -/
def registerAll (registry : Registry Generator) (calls : List (String × Generator)) :
    Registry Generator :=
  calls.foldl (fun reached call => reached.register call.1 call.2) registry

/-- The name is registered for the generator, and not registered again after that. -/
def IsLast (calls : List (String × Generator)) (name : String) (generator : Generator) : Prop :=
  ∃ before after, calls = before ++ (name, generator) :: after ∧ name ∉ after.map Prod.fst

/-- The registrations of the usual names. -/
def usualCalls : List (String × Language) :=
  [("go", .go), ("kotlin", .kotlin), ("typescript", .typescript), ("csharp", .csharp),
    ("c#", .csharp)]

/-- The registries that can be begun with, and the registrations that they come from. -/
inductive IsStart : Registry → List (String × Language) → Prop where
  | empty : IsStart .empty []
  | defaults : IsStart .defaults usualCalls

theorem registerAll_concat (registry : Registry Generator) (calls : List (String × Generator))
    (call : String × Generator) :
    registry.registerAll (calls ++ [call]) = (registry.registerAll calls).register call.1 call.2 :=
  List.foldl_concat ..

theorem registerAll_of_isStart {start : Registry} {initial : List (String × Language)}
    (isStart : IsStart start initial) (calls : List (String × Language)) :
    start.registerAll calls = empty.registerAll (initial ++ calls) := by
  cases isStart with
  | empty => rfl
  | defaults =>
      rw [registerAll, registerAll, List.foldl_append]
      rfl

section Histories

variable {calls : List (String × Generator)} {name : String} {generator : Generator}

theorem isLast_concat_iff {registered : String} {chosen : Generator} :
    IsLast (calls ++ [(registered, chosen)]) name generator ↔
      name = registered ∧ generator = chosen ∨
        name ≠ registered ∧ IsLast calls name generator := by
  constructor
  · rintro ⟨before, after, split, notAgain⟩
    rcases List.eq_nil_or_concat after with rfl | ⟨front, last, rfl⟩
    · rcases List.append_inj' split rfl with ⟨-, same⟩
      simp only [List.cons.injEq, Prod.mk.injEq, and_true] at same
      exact Or.inl ⟨same.1.symm, same.2.symm⟩
    · rw [List.concat_eq_append, ← List.cons_append, ← List.append_assoc] at split
      rcases List.append_inj' split rfl with ⟨frontEq, same⟩
      rw [List.cons.injEq] at same
      rw [List.concat_eq_append, ← same.1] at notAgain
      simp only [List.map_append, List.mem_append, not_or, List.map_cons, List.map_nil,
        List.mem_singleton] at notAgain
      exact Or.inr ⟨notAgain.2, before, front, frontEq, notAgain.1⟩
  · rintro (⟨rfl, rfl⟩ | ⟨different, before, after, rfl, notAgain⟩)
    · exact ⟨calls, [], rfl, by simp⟩
    · refine ⟨before, after ++ [(registered, chosen)], by simp, ?_⟩
      simp only [List.map_append, List.mem_append, not_or, List.map_cons, List.map_nil,
        List.mem_singleton]
      exact ⟨notAgain, different⟩

/-- A name stands for the generator that was registered under it last. -/
theorem find_registerAll_eq_ok_iff :
    (empty.registerAll calls).find name = .ok generator ↔ IsLast calls name generator := by
  induction calls using List.reverseRecOn with
  | nil => simp [registerAll, empty, find, IsLast]
  | append_singleton calls call ih =>
      rw [registerAll_concat, find_register, isLast_concat_iff, ← ih]
      by_cases same : name = call.1 <;> simp [same, eq_comm]

theorem mem_names_registerAll :
    name ∈ (empty.registerAll calls).names ↔ name ∈ calls.map Prod.fst := by
  induction calls using List.reverseRecOn with
  | nil => simp [registerAll, empty, names]
  | append_singleton calls call ih =>
      rw [registerAll_concat, mem_names_register, ih]
      simp [or_comm]

theorem find_registerAll_eq_error_iff {error : Error} :
    (empty.registerAll calls).find name = .error error ↔
      name ∉ calls.map Prod.fst ∧ error = .unsupportedLanguage name := by
  rw [← mem_names_registerAll, ← lookup_eq_none_iff]
  cases found : (empty.registerAll calls).entries.lookup name <;> simp [find, found, eq_comm]

theorem find_eq_of_isLast_iff {others : List (String × Generator)}
    (sameLast : ∀ name generator, IsLast calls name generator ↔ IsLast others name generator)
    (name : String) :
    (empty.registerAll calls).find name = (empty.registerAll others).find name := by
  cases found : (empty.registerAll calls).find name with
  | ok generator =>
      rw [find_registerAll_eq_ok_iff, sameLast, ← find_registerAll_eq_ok_iff] at found
      exact found.symm
  | error error =>
      cases foundToo : (empty.registerAll others).find name with
      | ok generator =>
          rw [find_registerAll_eq_ok_iff, ← sameLast, ← find_registerAll_eq_ok_iff, found]
            at foundToo
          simp at foundToo
      | error otherError =>
          rw [(find_registerAll_eq_error_iff.mp found).2,
            (find_registerAll_eq_error_iff.mp foundToo).2]

end Histories

theorem mem_names_iff_find {registry : Registry Generator} {name : String} :
    name ∈ registry.names ↔ ∃ generator, registry.find name = .ok generator := by
  rw [← not_iff_not, ← lookup_eq_none_iff, not_exists]
  simp [find_eq_ok_iff, Option.eq_none_iff_forall_ne_some]

theorem pairwise_names (registry : Registry Generator) : registry.names.Pairwise (· < ·) :=
  registry.sorted

/-- Registries in which every name stands for the same have the same names, since these are in
increasing order. -/
theorem names_eq_of_find_eq {first second : Registry Generator}
    (same : ∀ name, first.find name = second.find name) : first.names = second.names := by
  refine first.pairwise_names.eq_of_mem_iff second.pairwise_names ?_
  intro name
  simp only [mem_names_iff_find, same]

/-- A run looks at a registry only through `find`. -/
theorem run_eq_of_find_eq {first second : Registry}
    (same : ∀ name, first.find name = second.find name) {m : Type → Type} [Monad m]
    (sink : Sink m) (model : List Declaration) (targets : List Target) (generatedAt : Instant) :
    run first sink model targets generatedAt = run second sink model targets generatedAt := by
  simp only [run, Run.resolve, same]

/-- What can be seen of a registry after any registrations: a name stands for the language of its
last registration and is not supported if there is none, the names are those registered, in
increasing order, and registrations that agree on the last one of every name give registries with
the same names, the same languages and the same runs. -/
theorem registerAll_views {start : Registry} {initial : List (String × Language)}
    (isStart : IsStart start initial) (calls : List (String × Language)) :
    (∀ name language, (start.registerAll calls).find name = .ok language ↔
      IsLast (initial ++ calls) name language) ∧
    (∀ name error, (start.registerAll calls).find name = .error error ↔
      name ∉ (initial ++ calls).map Prod.fst ∧ error = .unsupportedLanguage name) ∧
    (start.registerAll calls).names.Pairwise (· < ·) ∧
    (∀ name, name ∈ (start.registerAll calls).names ↔ name ∈ (initial ++ calls).map Prod.fst) ∧
    ∀ {other : Registry} {otherInitial otherCalls : List (String × Language)},
      IsStart other otherInitial →
      (∀ name language, IsLast (initial ++ calls) name language ↔
        IsLast (otherInitial ++ otherCalls) name language) →
      (start.registerAll calls).names = (other.registerAll otherCalls).names ∧
      (∀ name, (start.registerAll calls).find name = (other.registerAll otherCalls).find name) ∧
      ∀ {m : Type → Type} [Monad m] (sink : Sink m) (model : List Declaration)
        (targets : List Target) (generatedAt : Instant),
        run (start.registerAll calls) sink model targets generatedAt =
          run (other.registerAll otherCalls) sink model targets generatedAt := by
  rw [registerAll_of_isStart isStart]
  refine ⟨fun _ _ => find_registerAll_eq_ok_iff, fun _ _ => find_registerAll_eq_error_iff,
    pairwise_names _, fun _ => mem_names_registerAll, ?_⟩
  intro other otherInitial otherCalls otherStart sameLast
  rw [registerAll_of_isStart otherStart]
  have same := find_eq_of_isLast_iff sameLast
  refine ⟨names_eq_of_find_eq same, same, ?_⟩
  intro m _ sink model targets generatedAt
  exact run_eq_of_find_eq same sink model targets generatedAt

/-- Registrations that replace a usual name twice. -/
def repeatedCalls : List (String × Language) :=
  [("go", .kotlin), ("é", .go), ("go", .typescript)]

/-- The last registrations of each name among them, in another order. -/
def lastCalls : List (String × Language) :=
  [("go", .typescript), ("é", .go)]

theorem registerAll_views_otherOrder :
    (∀ name language, IsLast (usualCalls ++ repeatedCalls) name language ↔
      IsLast (usualCalls ++ lastCalls) name language) ∧
    (defaults.registerAll repeatedCalls).names = (defaults.registerAll lastCalls).names ∧
    (defaults.registerAll lastCalls).names = ["c#", "csharp", "go", "kotlin", "typescript", "é"] ∧
    IsLast (usualCalls ++ repeatedCalls) "go" .typescript ∧
    (defaults.registerAll repeatedCalls).find "Go" = .error (.unsupportedLanguage "Go") := by
  have sameLast : ∀ name language, IsLast (usualCalls ++ repeatedCalls) name language ↔
      IsLast (usualCalls ++ lastCalls) name language := by
    intro name language
    have sameRegistry : empty.registerAll (usualCalls ++ repeatedCalls) =
        empty.registerAll (usualCalls ++ lastCalls) := by
      decide
    rw [← find_registerAll_eq_ok_iff, ← find_registerAll_eq_ok_iff, sameRegistry]
  have views := registerAll_views .defaults repeatedCalls
  refine ⟨sameLast, (views.2.2.2.2 .defaults sameLast).1, by decide, ?_, ?_⟩
  · exact (views.1 "go" .typescript).mp (by decide)
  · exact (views.2.1 "Go" _).mpr ⟨by decide, rfl⟩

end Registry

end GenModel
