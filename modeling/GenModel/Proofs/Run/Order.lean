import GenModel.Proofs.Run.Placement
import Mathlib.Data.List.Perm.Basic
import Mathlib.Data.List.TakeWhile

/-!
# Order and repetition of runs

Whether files can be saved depends on each of them alone, and what is on the disk afterwards depends
on their order only where two of them have one place. Files of different languages never have. So
the targets of a run can be put in another order if their languages are different (`run_of_perm`).

After a run its files and folders are where the same run would put them again. So a run that
succeeded can be repeated, and nothing changes (`run_again`).
-/

namespace GenModel

namespace Disk

/-- The disks have the same folders, and the same files with the same contents. -/
structure SameTree (disk other : Disk) : Prop where
  workplace : other.workplace = disk.workplace
  nodes : ∀ location, other.node? location = disk.node? location

namespace SameTree

theorem refl (disk : Disk) : SameTree disk disk :=
  ⟨rfl, fun _ => rfl⟩

end SameTree

end Disk

namespace Run

/-- The names of the targets do not stand for one language. -/
def Apart (registry : Registry) (target other : Target) : Prop :=
  ∀ language, registry.find target.language = .ok language →
    registry.find other.language ≠ .ok language

section Contents

variable {generatedAt : Instant} {base location : Location}
  {front back pairs others : List (Language × SourceFile)}

theorem contentAt_append :
    contentAt generatedAt base (front ++ back) location =
      (contentAt generatedAt base back location).or
        (contentAt generatedAt base front location) := by
  simp only [contentAt, List.reverse_append, List.find?_append, Option.map_or]

/-- Files of different languages do not have one place. -/
theorem contentAt_append_comm (apart : ∀ pair ∈ front, ∀ other ∈ back, pair.1 ≠ other.1) :
    contentAt generatedAt base (front ++ back) location =
      contentAt generatedAt base (back ++ front) location := by
  rw [contentAt_append, contentAt_append]
  cases inFront : contentAt generatedAt base front location with
  | none => simp
  | some content =>
      have unwritten : contentAt generatedAt base back location = none := by
        rw [contentAt_eq_none_iff]
        rintro other otherMem rfl
        rcases exists_of_contentAt inFront with ⟨pair, mem, same⟩
        exact apart pair mem other otherMem (outputPlace_inj same).1
      simp [unwritten]

theorem isFolderOf_of_perm (perm : pairs.Perm others) :
    IsFolderOf generatedAt base pairs location ↔ IsFolderOf generatedAt base others location := by
  simp only [IsFolderOf, perm.mem_iff]

namespace Holds

variable {root : String} {disk final later : Disk}

theorem sameTree (holds : Holds root generatedAt pairs disk final)
    (holdsToo : Holds root generatedAt others disk later)
    (sameContents : ∀ location, contentAt generatedAt (disk.place root) pairs location =
      contentAt generatedAt (disk.place root) others location)
    (sameFolders : ∀ location, IsFolderOf generatedAt (disk.place root) pairs location ↔
      IsFolderOf generatedAt (disk.place root) others location) : final.SameTree later := by
  refine ⟨holdsToo.workplace.trans holds.workplace.symm, ?_⟩
  intro location
  cases found : contentAt generatedAt (disk.place root) pairs location with
  | some content =>
      rw [holds.file found, holdsToo.file ((sameContents location).symm.trans found)]
  | none =>
      by_cases isFolder : IsFolderOf generatedAt (disk.place root) pairs location
      · rw [holds.folder isFolder, holdsToo.folder ((sameFolders location).mp isFolder)]
      · have notFolder : ¬IsFolderOf generatedAt (disk.place root) others location := by
          intro isFolderToo
          exact isFolder ((sameFolders location).mpr isFolderToo)
        rw [holds.other found isFolder,
          holdsToo.other ((sameContents location).symm.trans found) notFolder]

/-- Files that were saved already can be saved again without any change. -/
theorem sameTree_again (holds : Holds root generatedAt pairs disk final)
    (again : Holds root generatedAt pairs final later) : final.SameTree later := by
  refine ⟨again.workplace, ?_⟩
  intro location
  have base := holds.place_eq
  cases found : contentAt generatedAt (disk.place root) pairs location with
  | some content =>
      rw [holds.file found, again.file (base ▸ found)]
  | none =>
      by_cases isFolder : IsFolderOf generatedAt (disk.place root) pairs location
      · rw [holds.folder isFolder, again.folder (base ▸ isFolder)]
      · exact again.other (base ▸ found) (base ▸ isFolder)

end Holds

end Contents

section Resolved

variable {registry : Registry} {model : List Declaration} {generatedAt : Instant}
  {targets : List Target} {resolved reordered : List (Target × Language)} {base location : Location}

theorem failure?_eq_none_iff :
    failure? model generatedAt resolved = none ↔
      ∀ pair ∈ resolved, isGenerated model generatedAt pair = true := by
  rw [failure?, List.findSome?_eq_none_iff]
  refine forall₂_congr fun pair _ => ?_
  cases generated : filesOf model generatedAt pair.1 pair.2 <;>
    simp [isGenerated, generated, Except.isOk, Except.toBool]

theorem saves_of_failure?_eq_none (generated : failure? model generatedAt resolved = none) :
    saves model generatedAt resolved = resolved.flatMap (pairsOf model generatedAt) := by
  rw [failure?_eq_none_iff] at generated
  rw [saves, List.takeWhile_eq_self_iff.mpr generated]

theorem language_of_mem_pairsOf {pair : Target × Language} {saved : Language × SourceFile}
    (mem : saved ∈ pairsOf model generatedAt pair) : saved.1 = pair.2 := by
  cases generated : filesOf model generatedAt pair.1 pair.2 with
  | error error => simp [pairsOf, generated] at mem
  | ok files =>
      simp only [pairsOf, generated, List.mem_map] at mem
      rcases mem with ⟨file, -, rfl⟩
      rfl

theorem contentAt_of_perm (perm : resolved.Perm reordered)
    (distinct : resolved.Pairwise fun pair other => pair.2 ≠ other.2) :
    contentAt generatedAt base (resolved.flatMap (pairsOf model generatedAt)) location =
      contentAt generatedAt base (reordered.flatMap (pairsOf model generatedAt)) location := by
  induction perm with
  | nil => rfl
  | cons pair _ ih =>
      rw [List.flatMap_cons, List.flatMap_cons, contentAt_append, contentAt_append,
        ih distinct.of_cons]
  | swap first second rest =>
      rw [List.pairwise_cons] at distinct
      have apart : ∀ saved ∈ pairsOf model generatedAt second,
          ∀ other ∈ pairsOf model generatedAt first, saved.1 ≠ other.1 := by
        intro saved savedMem other otherMem
        rw [language_of_mem_pairsOf savedMem, language_of_mem_pairsOf otherMem]
        exact distinct.1 first List.mem_cons_self
      simp only [List.flatMap_cons]
      rw [← List.append_assoc, ← List.append_assoc, contentAt_append, contentAt_append_comm apart,
        ← contentAt_append]
  | trans firstPerm _ firstIh secondIh =>
      rw [firstIh distinct]
      apply secondIh
      exact firstPerm.pairwise distinct fun different => different.symm

theorem find_of_mem_resolved (found : resolve registry targets = .ok resolved)
    {pair : Target × Language} (mem : pair ∈ resolved) :
    ∃ target ∈ targets, registry.find target.language = .ok pair.2 := by
  rcases exists_of_mem_of_mapM found mem with ⟨target, targetMem, resolves⟩
  refine ⟨target, targetMem, ?_⟩
  cases result : registry.find target.language with
  | error error => simp [result, Except.map] at resolves
  | ok language =>
      rw [result, Except.map, Except.ok.injEq] at resolves
      rw [← resolves]

theorem languages_of_apart (found : resolve registry targets = .ok resolved)
    (distinct : targets.Pairwise (Apart registry)) :
    resolved.Pairwise fun pair other => pair.2 ≠ other.2 := by
  have related := resolve_eq_ok_iff.mp found
  clear found
  induction related with
  | nil => exact .nil
  | @cons target pair rest others resolves related ih =>
      rw [List.pairwise_cons] at distinct ⊢
      refine ⟨?_, ih distinct.2⟩
      intro other mem same
      rcases find_of_mem_resolved (resolve_eq_ok_iff.mpr related) mem with
        ⟨next, nextMem, resolvesNext⟩
      apply distinct.1 next nextMem pair.2 (Registry.find_eq_ok_iff.mpr resolves.2)
      rw [same, resolvesNext]

theorem isName_of_mem_saves {text : String} (parsed : Source.parse text = .ok model)
    {pair : Language × SourceFile} (mem : pair ∈ saves model generatedAt resolved) :
    Path.IsName pair.2.name := by
  rcases exists_of_mem_saves mem with ⟨declaration, declarationMem, name⟩
  rw [name]
  apply pair.1.isName_fileName
  exact (Source.wellFormed_of_parse parsed declaration declarationMem).identifier

end Resolved

section Runs

variable {text root : String} {model : List Declaration} {registry : Registry}
  {targets reordered : List Target} {generatedAt : Instant} {disk final : Disk} {count : Nat}

theorem exists_saveEach_of_perm {pairs others : List (Language × SourceFile)}
    (areNames : ∀ pair ∈ pairs, Path.IsName pair.2.name) (perm : pairs.Perm others)
    (sameContents : ∀ base location, contentAt generatedAt base pairs location =
      contentAt generatedAt base others location)
    (saved : outcome (saveEach (directorySink Disk.host root generatedAt) pairs) disk =
      (.ok (), final)) :
    ∃ later, outcome (saveEach (directorySink Disk.host root generatedAt) others) disk =
        (.ok (), later) ∧ final.SameTree later := by
  by_cases nonempty : pairs = []
  · subst pairs
    rw [List.nil_perm] at perm
    subst others
    exact ⟨final, saved, .refl final⟩
  · have otherNames : ∀ pair ∈ others, Path.IsName pair.2.name := by
      intro pair mem
      exact areNames pair (perm.mem_iff.mpr mem)
    have othersNonempty : others ≠ [] := by
      rintro rfl
      exact nonempty perm.eq_nil
    rcases (saveEach_eq_ok_iff areNames nonempty).mp saved with ⟨settled, settles, fits, rfl⟩
    have othersFit : ∀ pair ∈ others, Fits root generatedAt settled pair := by
      intro pair mem
      exact fits pair (perm.mem_iff.mpr mem)
    refine ⟨_, (saveEach_eq_ok_iff otherNames othersNonempty).mpr
      ⟨settled, settles, othersFit, rfl⟩, ?_⟩
    exact (holds_foldl fits).sameTree (holds_foldl othersFit) (sameContents _)
      fun _ => isFolderOf_of_perm perm

theorem exists_saveEach_again {pairs : List (Language × SourceFile)}
    (areNames : ∀ pair ∈ pairs, Path.IsName pair.2.name)
    (saved : outcome (saveEach (directorySink Disk.host root generatedAt) pairs) disk =
      (.ok (), final)) :
    ∃ later, outcome (saveEach (directorySink Disk.host root generatedAt) pairs) final =
        (.ok (), later) ∧ final.SameTree later := by
  by_cases nonempty : pairs = []
  · subst pairs
    exact ⟨final, rfl, .refl final⟩
  · rcases (saveEach_eq_ok_iff areNames nonempty).mp saved with ⟨settled, settles, fits, rfl⟩
    have holds := holds_foldl fits
    have settledAgain := settles.self.of_keeps (holds.keeps fits)
    have fitsAgain : ∀ pair ∈ pairs, Fits root generatedAt
        (pairs.foldl (placed root generatedAt) settled) pair := by
      intro pair mem
      exact (holds.fits_iff fits).mpr (fits pair mem)
    refine ⟨_, (saveEach_eq_ok_iff_of_settles settledAgain areNames).mpr ⟨fitsAgain, rfl⟩, ?_⟩
    exact holds.sameTree_again (holds_foldl fitsAgain)

theorem exists_run_of_perm (parsed : Source.parse text = .ok model)
    (perm : targets.Perm reordered) (distinct : targets.Pairwise (Apart registry))
    (succeeded : outcome (run registry (directorySink Disk.host root generatedAt) model targets
      generatedAt) disk = (.ok count, final)) :
    ∃ later, outcome (run registry (directorySink Disk.host root generatedAt) model reordered
        generatedAt) disk = (.ok count, later) ∧ final.SameTree later := by
  rcases (outcome_run_eq_ok_iff fun _ _ _ => rfl).mp succeeded with
    ⟨resolved, found, generated, rfl, saved⟩
  rcases List.perm_comp_forall₂ perm.symm (resolve_eq_ok_iff.mp found) with
    ⟨others, related, resolvedPerm⟩
  have othersGenerated : failure? model generatedAt others = none := by
    rw [failure?_eq_none_iff] at generated ⊢
    intro pair mem
    exact generated pair (resolvedPerm.mem_iff.mp mem)
  have savesPerm : (saves model generatedAt resolved).Perm (saves model generatedAt others) := by
    rw [saves_of_failure?_eq_none generated, saves_of_failure?_eq_none othersGenerated]
    exact resolvedPerm.symm.flatMap_right _
  have sameContents : ∀ base location,
      contentAt generatedAt base (saves model generatedAt resolved) location =
        contentAt generatedAt base (saves model generatedAt others) location := by
    intro base location
    rw [saves_of_failure?_eq_none generated, saves_of_failure?_eq_none othersGenerated]
    exact contentAt_of_perm resolvedPerm.symm (languages_of_apart found distinct)
  rcases exists_saveEach_of_perm (fun _ => isName_of_mem_saves parsed) savesPerm sameContents saved
    with ⟨later, savedLater, same⟩
  refine ⟨later, ?_, same⟩
  rw [outcome_run_eq_ok_iff fun _ _ _ => rfl]
  exact ⟨others, resolve_eq_ok_iff.mpr related, othersGenerated, savesPerm.length_eq, savedLater⟩

theorem Apart.symm {target other : Target} (apart : Apart registry target other) :
    Apart registry other target :=
  fun language found foundOther => apart language foundOther found

/-- The order of targets for different languages does not matter: a run succeeds in one order if
and only if it does in the other, with the same number of files and the same tree. -/
theorem run_of_perm (parsed : Source.parse text = .ok model) (registry : Registry)
    (perm : targets.Perm reordered) (distinct : targets.Pairwise (Apart registry)) (root : String)
    (generatedAt : Instant) (disk : Disk) :
    ((∃ count final, outcome (run registry (directorySink Disk.host root generatedAt) model targets
        generatedAt) disk = (.ok count, final)) ↔
      ∃ count final, outcome (run registry (directorySink Disk.host root generatedAt) model
        reordered generatedAt) disk = (.ok count, final)) ∧
    ∀ count otherCount final otherFinal,
      outcome (run registry (directorySink Disk.host root generatedAt) model targets
        generatedAt) disk = (.ok count, final) →
      outcome (run registry (directorySink Disk.host root generatedAt) model reordered
        generatedAt) disk = (.ok otherCount, otherFinal) →
      count = otherCount ∧ final.SameTree otherFinal := by
  have reorderedDistinct : reordered.Pairwise (Apart registry) :=
    perm.pairwise distinct Apart.symm
  refine ⟨⟨?_, ?_⟩, ?_⟩
  · rintro ⟨count, final, succeeded⟩
    rcases exists_run_of_perm parsed perm distinct succeeded with ⟨later, succeededToo, -⟩
    exact ⟨count, later, succeededToo⟩
  · rintro ⟨count, final, succeeded⟩
    rcases exists_run_of_perm parsed perm.symm reorderedDistinct succeeded with
      ⟨later, succeededToo, -⟩
    exact ⟨count, later, succeededToo⟩
  · intro count otherCount final otherFinal succeeded succeededToo
    rcases exists_run_of_perm parsed perm distinct succeeded with ⟨later, ended, same⟩
    rw [succeededToo, Prod.mk.injEq, Except.ok.injEq] at ended
    rcases ended with ⟨rfl, rfl⟩
    exact ⟨rfl, same⟩

/-- Two targets with different languages. -/
def twoLanguages : List Target :=
  [⟨"go", none⟩, ⟨"c#", some "B"⟩]

theorem run_of_perm_twoLanguages :
    twoLanguages.Pairwise (Apart Registry.defaults) ∧
      ∃ final otherFinal,
        outcome (run Registry.defaults (directorySink Disk.host "new/../out" newYear)
          [.ofClass ⟨"A", []⟩] twoLanguages newYear) (Disk.blank ["home"]) = (.ok 2, final) ∧
        outcome (run Registry.defaults (directorySink Disk.host "new/../out" newYear)
          [.ofClass ⟨"A", []⟩] twoLanguages.reverse newYear) (Disk.blank ["home"]) =
            (.ok 2, otherFinal) ∧
        final.SameTree otherFinal := by
  have parsed : Source.parse "class A\n\x7b\n\x7d\n" = .ok [.ofClass ⟨"A", []⟩] := by
    decide +kernel
  have go : Registry.defaults.find "go" = .ok .go := by decide +kernel
  have csharp : Registry.defaults.find "c#" = .ok .csharp := by decide +kernel
  have distinct : twoLanguages.Pairwise (Apart Registry.defaults) := by
    simp [twoLanguages, Apart, go, csharp]
  have two : (outcome (run Registry.defaults (directorySink Disk.host "new/../out" newYear)
      [.ofClass ⟨"A", []⟩] twoLanguages newYear) (Disk.blank ["home"])).1 = .ok 2 := by
    decide +kernel
  rcases run_of_perm parsed Registry.defaults twoLanguages.reverse_perm.symm distinct "new/../out"
    newYear (Disk.blank ["home"]) with ⟨succeeds, agree⟩
  rcases ended : outcome (run Registry.defaults (directorySink Disk.host "new/../out" newYear)
    [.ofClass ⟨"A", []⟩] twoLanguages newYear) (Disk.blank ["home"]) with ⟨result, final⟩
  rw [ended] at two
  simp only at two
  subst result
  rcases succeeds.mp ⟨2, final, ended⟩ with ⟨count, otherFinal, endedToo⟩
  rcases agree 2 count final otherFinal ended endedToo with ⟨rfl, same⟩
  exact ⟨distinct, final, otherFinal, rfl, endedToo, same⟩

/-- A run that succeeded can be repeated: it succeeds again, with the same number of files, and
leaves the tree as it is. -/
theorem run_again (parsed : Source.parse text = .ok model)
    (succeeded : outcome (run registry (directorySink Disk.host root generatedAt) model targets
      generatedAt) disk = (.ok count, final)) :
    ∃ later, outcome (run registry (directorySink Disk.host root generatedAt) model targets
        generatedAt) final = (.ok count, later) ∧ final.SameTree later := by
  rcases (outcome_run_eq_ok_iff fun _ _ _ => rfl).mp succeeded with
    ⟨resolved, found, generated, countEq, saved⟩
  have areNames : ∀ pair ∈ saves model generatedAt resolved, Path.IsName pair.2.name :=
    fun _ => isName_of_mem_saves parsed
  rcases exists_saveEach_again areNames saved with ⟨later, savedAgain, same⟩
  refine ⟨later, ?_, same⟩
  rw [outcome_run_eq_ok_iff fun _ _ _ => rfl]
  exact ⟨resolved, found, generated, countEq, savedAgain⟩

theorem run_again_aliases :
    ∃ final later,
      outcome (run Registry.defaults (directorySink Disk.host "new/../out" newYear)
        [.ofClass ⟨"A", []⟩] aliases newYear) (Disk.blank ["home"]) = (.ok 2, final) ∧
      outcome (run Registry.defaults (directorySink Disk.host "new/../out" newYear)
        [.ofClass ⟨"A", []⟩] aliases newYear) final = (.ok 2, later) ∧
      final.SameTree later := by
  have parsed : Source.parse "class A\n\x7b\n\x7d\n" = .ok [.ofClass ⟨"A", []⟩] := by
    decide +kernel
  have two : (outcome (run Registry.defaults (directorySink Disk.host "new/../out" newYear)
      [.ofClass ⟨"A", []⟩] aliases newYear) (Disk.blank ["home"])).1 = .ok 2 := by
    decide +kernel
  rcases ended : outcome (run Registry.defaults (directorySink Disk.host "new/../out" newYear)
    [.ofClass ⟨"A", []⟩] aliases newYear) (Disk.blank ["home"]) with ⟨result, final⟩
  rw [ended] at two
  simp only at two
  subst result
  rcases run_again parsed ended with ⟨later, again, same⟩
  exact ⟨final, later, rfl, again, same⟩

end Runs

end Run

end GenModel
