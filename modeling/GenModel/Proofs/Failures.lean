import GenModel.Error
import Mathlib.Data.List.Forall2

/-!
# Work that stops at the first failure

A list is worked through item by item, and the first item that fails is the failure of the whole
list. So the work succeeds exactly if it does for every item, and it fails exactly with the failure
of an item before which all succeed.
-/

namespace GenModel

theorem bind_eq_ok_iff {α β : Type} {first : Except Error α} {next : α → Except Error β}
    {result : β} :
    (first >>= next) = .ok result ↔ ∃ value, first = .ok value ∧ next value = .ok result := by
  cases first <;> simp [bind, Except.bind]

theorem mapM_eq_ok_iff {α β : Type} {step : α → Except Error β} {items : List α}
    {results : List β} :
    items.mapM step = .ok results ↔
      List.Forall₂ (fun item result => step item = .ok result) items results := by
  constructor
  · intro mapped
    induction items generalizing results with
    | nil =>
        simp only [List.mapM_nil, pure, Except.pure, Except.ok.injEq] at mapped
        subst results
        exact .nil
    | cons item rest ih =>
        rw [List.mapM_cons, bind_eq_ok_iff] at mapped
        rcases mapped with ⟨result, stepped, mapped⟩
        rcases bind_eq_ok_iff.mp mapped with ⟨others, restMapped, collected⟩
        simp only [pure, Except.pure, Except.ok.injEq] at collected
        subst results
        exact .cons stepped (ih restMapped)
  · intro related
    induction related with
    | nil => rfl
    | cons stepped _ ih =>
        rw [List.mapM_cons, stepped, ih]
        rfl

theorem exists_of_mem_of_mapM {α β : Type} {step : α → Except Error β} {items : List α}
    {results : List β} (mapped : items.mapM step = .ok results) {result : β}
    (mem : result ∈ results) : ∃ item ∈ items, step item = .ok result := by
  rw [mapM_eq_ok_iff] at mapped
  induction mapped with
  | nil => simp at mem
  | cons stepped _ ih =>
      rcases List.mem_cons.mp mem with rfl | memRest
      · exact ⟨_, List.mem_cons_self, stepped⟩
      · rcases ih memRest with ⟨item, itemMem, itemStepped⟩
        exact ⟨item, List.mem_cons_of_mem _ itemMem, itemStepped⟩

theorem exists_ok_of_mem_of_mapM {α β : Type} {step : α → Except Error β} {items : List α}
    {results : List β} (mapped : items.mapM step = .ok results) {item : α} (mem : item ∈ items) :
    ∃ result, step item = .ok result := by
  rw [mapM_eq_ok_iff] at mapped
  induction mapped with
  | nil => simp at mem
  | cons stepped _ ih =>
      rcases List.mem_cons.mp mem with rfl | memRest
      · exact ⟨_, stepped⟩
      · exact ih memRest

theorem mapM_eq_error_iff {α β : Type} {step : α → Except Error β} {items : List α}
    {error : Error} :
    items.mapM step = .error error ↔
      ∃ before item after, items = before ++ item :: after ∧
        (∀ earlier ∈ before, ∃ result, step earlier = .ok result) ∧
        step item = .error error := by
  constructor
  · intro failed
    induction items with
    | nil => simp [pure, Except.pure] at failed
    | cons item rest ih =>
        cases stepped : step item with
        | error found =>
            simp only [List.mapM_cons, stepped, bind, Except.bind, Except.error.injEq] at failed
            subst found
            exact ⟨[], item, rest, rfl, by simp, stepped⟩
        | ok result =>
            cases mapped : rest.mapM step with
            | ok results => simp [List.mapM_cons, stepped, mapped, bind, Except.bind, pure,
                Except.pure] at failed
            | error found =>
                simp only [List.mapM_cons, stepped, mapped, bind, Except.bind,
                  Except.error.injEq] at failed
                subst found
                rcases ih mapped with ⟨before, failing, after, rfl, succeed, refused⟩
                refine ⟨item :: before, failing, after, rfl, ?_, refused⟩
                rw [List.forall_mem_cons]
                exact ⟨⟨result, stepped⟩, succeed⟩
  · rintro ⟨before, item, after, rfl, succeed, refused⟩
    induction before with
    | nil => simp [List.mapM_cons, refused, bind, Except.bind]
    | cons earlier rest ih =>
        rw [List.forall_mem_cons] at succeed
        rcases succeed with ⟨⟨result, stepped⟩, succeed⟩
        rw [List.cons_append, List.mapM_cons, stepped, ih succeed]
        rfl

end GenModel
