import GenModel.Proofs.Failures
import GenModel.Run

/-!
# What a run saves

A run first looks up the languages of its targets and then goes through them, generating and
saving. Since generation has no effects, a run does the same as one that generates everything
first: `saves` are the files that are generated before the first failure, paired with their
languages, and `failure?` is that failure. `deliver_eq` states that a run saves the former and then
ends with the latter, for every sink in every lawful monad that takes no note of finished targets.
-/

namespace GenModel

namespace Registry

variable {Generator : Type} {registry : Registry Generator} {name : String}

theorem lookup_eq_none_iff :
    registry.entries.lookup name = none ↔ name ∉ registry.names := by
  simp only [names, List.lookup_eq_none_iff, List.mem_map, not_exists, not_and, bne_iff_ne]
  constructor
  · intro different entry mem same
    exact different entry mem same.symm
  · intro different entry mem same
    exact different entry mem same.symm

theorem find_eq_ok_iff {generator : Generator} :
    registry.find name = .ok generator ↔ registry.entries.lookup name = some generator := by
  cases found : registry.entries.lookup name <;> simp [find, found]

theorem find_of_not_mem (missing : name ∉ registry.names) :
    registry.find name = .error (.unsupportedLanguage name) := by
  simp [find, lookup_eq_none_iff.mpr missing]

end Registry

namespace Run

/-- The target and the language that its name is registered for. -/
def Resolves (registry : Registry) (target : Target) (pair : Target × Language) : Prop :=
  pair.1 = target ∧ registry.entries.lookup target.language = some pair.2

theorem resolve_eq_ok_iff {registry : Registry} {targets : List Target}
    {resolved : List (Target × Language)} :
    resolve registry targets = .ok resolved ↔
      List.Forall₂ (Resolves registry) targets resolved := by
  rw [resolve, mapM_eq_ok_iff]
  have same : (fun (target : Target) (pair : Target × Language) =>
      (registry.find target.language).map (fun language => (target, language)) = .ok pair) =
        Resolves registry := by
    funext target pair
    rcases pair with ⟨paired, language⟩
    cases found : registry.entries.lookup target.language <;>
      simp [Resolves, Registry.find, found, Except.map, eq_comm]
  rw [same]

/-- The first target whose language is not registered is the failure of the whole list. -/
theorem resolve_of_find?_eq_some {registry : Registry} {targets : List Target} {target : Target}
    (first : (targets.find? fun target => target.language ∉ registry.names) = some target) :
    resolve registry targets = .error (.unsupportedLanguage target.language) := by
  induction targets with
  | nil => simp at first
  | cons next rest ih =>
      rw [resolve, List.mapM_cons, ← resolve]
      by_cases registered : next.language ∈ registry.names
      · have restFirst : (rest.find? fun target => target.language ∉ registry.names) =
            some target := by
          simpa [registered] using first
        cases found : registry.entries.lookup next.language with
        | none => exact absurd registered (Registry.lookup_eq_none_iff.mp found)
        | some language =>
            rw [Registry.find_eq_ok_iff.mpr found, ih restFirst]
            rfl
      · have same : next = target := by simpa [registered] using first
        subst next
        rw [Registry.find_of_not_mem registered]
        rfl

theorem resolve_of_forall_mem {registry : Registry} {targets : List Target}
    (registered : ∀ target ∈ targets, target.language ∈ registry.names) :
    ∃ resolved, resolve registry targets = .ok resolved := by
  induction targets with
  | nil => exact ⟨[], rfl⟩
  | cons target rest ih =>
      rw [List.forall_mem_cons] at registered
      rcases ih registered.2 with ⟨resolved, restResolved⟩
      cases found : registry.entries.lookup target.language with
      | none => exact absurd registered.1 (Registry.lookup_eq_none_iff.mp found)
      | some language =>
          refine ⟨(target, language) :: resolved, ?_⟩
          rw [resolve_eq_ok_iff] at restResolved ⊢
          exact .cons ⟨rfl, found⟩ restResolved

section Deliveries

variable (model : List Declaration) (generatedAt : Instant)

/-- Whether the files of a target can be generated. -/
def isGenerated (pair : Target × Language) : Bool :=
  (filesOf model generatedAt pair.1 pair.2).isOk

/-- The files of a target with their language, if they can be generated. -/
def pairsOf (pair : Target × Language) : List (Language × SourceFile) :=
  match filesOf model generatedAt pair.1 pair.2 with
  | .ok files => files.map fun file => (pair.2, file)
  | .error _ => []

/-- What a run hands to its sink if nothing is refused: the files of all targets before the first
one that cannot be generated. -/
def saves (resolved : List (Target × Language)) : List (Language × SourceFile) :=
  (resolved.takeWhile (isGenerated model generatedAt)).flatMap (pairsOf model generatedAt)

/-- The failure of the first target that cannot be generated. -/
def failure? (resolved : List (Target × Language)) : Option Error :=
  resolved.findSome? fun pair =>
    match filesOf model generatedAt pair.1 pair.2 with
    | .ok _ => none
    | .error error => some error

variable {model generatedAt}

section Cons

variable {pair : Target × Language} {rest : List (Target × Language)} {files : List SourceFile}
  {error : Error}

theorem saves_cons_ok (generated : filesOf model generatedAt pair.1 pair.2 = .ok files) :
    saves model generatedAt (pair :: rest) =
      files.map (fun file => (pair.2, file)) ++ saves model generatedAt rest := by
  simp [saves, isGenerated, pairsOf, generated, Except.isOk, Except.toBool]

theorem saves_cons_error (failed : filesOf model generatedAt pair.1 pair.2 = .error error) :
    saves model generatedAt (pair :: rest) = [] := by
  simp [saves, isGenerated, failed, Except.isOk, Except.toBool]

theorem failure?_cons_ok (generated : filesOf model generatedAt pair.1 pair.2 = .ok files) :
    failure? model generatedAt (pair :: rest) = failure? model generatedAt rest := by
  simp [failure?, generated]

theorem failure?_cons_error (failed : filesOf model generatedAt pair.1 pair.2 = .error error) :
    failure? model generatedAt (pair :: rest) = some error := by
  simp [failure?, failed]

/-- Nothing is saved of a target that fails, nor of the targets after it. -/
theorem saves_append_cons_error {before : List (Target × Language)}
    (failed : filesOf model generatedAt pair.1 pair.2 = .error error) :
    saves model generatedAt (before ++ pair :: rest) = saves model generatedAt before := by
  induction before with
  | nil => exact saves_cons_error failed
  | cons earlier others ih =>
      cases generated : filesOf model generatedAt earlier.1 earlier.2 with
      | error otherError =>
          rw [List.cons_append, saves_cons_error generated, saves_cons_error generated]
      | ok files => rw [List.cons_append, saves_cons_ok generated, saves_cons_ok generated, ih]

end Cons

theorem length_filesOf {target : Target} {language : Language} {files : List SourceFile}
    (generated : filesOf model generatedAt target language = .ok files) :
    files.length = model.length :=
  (mapM_eq_ok_iff.mp generated).length_eq.symm

theorem exists_of_mem_filesOf {target : Target} {language : Language} {files : List SourceFile}
    (generated : filesOf model generatedAt target language = .ok files) {file : SourceFile}
    (mem : file ∈ files) :
    ∃ declaration ∈ model, file.name = language.fileName declaration.name := by
  rcases exists_of_mem_of_mapM generated mem with ⟨declaration, declarationMem, result⟩
  refine ⟨declaration, declarationMem, ?_⟩
  rw [Language.generate] at result
  cases page : language.page ⟨target.package, generatedAt⟩ declaration with
  | error error => simp [page, Except.map] at result
  | ok text =>
      simp only [page, Except.map, Except.ok.injEq] at result
      rw [← result]

/-- Every saved file is named for a declaration. -/
theorem exists_of_mem_saves {resolved : List (Target × Language)} {pair : Language × SourceFile}
    (mem : pair ∈ saves model generatedAt resolved) :
    ∃ declaration ∈ model, pair.2.name = pair.1.fileName declaration.name := by
  induction resolved with
  | nil => simp [saves] at mem
  | cons first rest ih =>
      cases generated : filesOf model generatedAt first.1 first.2 with
      | error error => simp [saves_cons_error generated] at mem
      | ok files =>
          rw [saves_cons_ok generated, List.mem_append, List.mem_map] at mem
          rcases mem with ⟨file, fileMem, rfl⟩ | memRest
          · exact exists_of_mem_filesOf generated fileMem
          · exact ih memRest

theorem length_saves {resolved : List (Target × Language)}
    (generated : failure? model generatedAt resolved = none) :
    (saves model generatedAt resolved).length = resolved.length * model.length := by
  induction resolved with
  | nil => simp [saves]
  | cons pair rest ih =>
      cases result : filesOf model generatedAt pair.1 pair.2 with
      | error error => simp [failure?_cons_error result] at generated
      | ok files =>
          rw [failure?_cons_ok result] at generated
          rw [saves_cons_ok result, List.length_append, List.length_map, length_filesOf result,
            ih generated, List.length_cons, Nat.succ_mul, Nat.add_comm]

end Deliveries

section Sinks

variable {m : Type → Type} [Monad m]

/-- Saves files of several languages one after the other. -/
def saveEach (sink : Sink m) : List (Language × SourceFile) → ExceptT Error m Unit
  | [] => pure ()
  | (language, file) :: rest => do
      sink.save language file
      saveEach sink rest

variable {sink : Sink m}

theorem saveEach_map (language : Language) (files : List SourceFile) :
    saveEach sink (files.map fun file => (language, file)) = saveAll sink language files := by
  induction files with
  | nil => rfl
  | cons file rest ih => simp [saveEach, saveAll, ih]

variable [LawfulMonad m]

theorem saveEach_append (front back : List (Language × SourceFile)) :
    saveEach sink (front ++ back) = (do saveEach sink front; saveEach sink back) := by
  induction front with
  | nil => simp [saveEach]
  | cons pair rest ih => simp [saveEach, ih]

/-- How a run ends after all saves were taken. -/
def finish (count : Nat) : Option Error → ExceptT Error m Nat
  | some error => throw error
  | none => pure count

theorem map_finish (count more : Nat) (failure : Option Error) :
    ((fun others => more + others) <$> finish count failure : ExceptT Error m Nat) =
      finish (more + count) failure := by
  cases failure with
  | none => simp [finish]
  | some error =>
      apply ExceptT.ext
      simp [finish]

/-- A run saves what is generated before the first failure and ends with that failure. -/
theorem deliver_eq {model : List Declaration} {generatedAt : Instant}
    (quiet : ∀ target language count, sink.finished target language count = pure ())
    (resolved : List (Target × Language)) :
    deliver sink model generatedAt resolved = (do
      saveEach sink (saves model generatedAt resolved)
      finish (saves model generatedAt resolved).length (failure? model generatedAt resolved)) := by
  induction resolved with
  | nil => simp [deliver, saves, failure?, saveEach, finish]
  | cons pair rest ih =>
      rcases pair with ⟨target, language⟩
      cases result : filesOf model generatedAt target language with
      | error error =>
          have noSaves := @saves_cons_error model generatedAt (target, language) rest error result
          have failure :=
            @failure?_cons_error model generatedAt (target, language) rest error result
          rw [noSaves, failure, deliver, result]
          apply ExceptT.ext
          simp [saveEach, finish, ExceptT.run_bind]
      | ok files =>
          have nextSaves := @saves_cons_ok model generatedAt (target, language) rest files result
          have failure := @failure?_cons_ok model generatedAt (target, language) rest files result
          have generated : (ExceptT.mk (pure (.ok files)) : ExceptT Error m (List SourceFile)) =
              pure files := rfl
          have noted : (ExceptT.lift (sink.finished target language files.length) :
              ExceptT Error m Unit) = pure () := by
            rw [quiet]
            apply ExceptT.ext
            simp
          rw [nextSaves, failure, saveEach_append, saveEach_map, deliver, result, ih, generated]
          simp [noted, map_finish]

end Sinks

section States

variable {State α β : Type}

/-- What an action gives in a state, and the state that it leaves behind. -/
def outcome (action : ExceptT Error (StateM State) α) (state : State) : Except Error α × State :=
  (action.run.run state).run

theorem outcome_bind (action : ExceptT Error (StateM State) α)
    (next : α → ExceptT Error (StateM State) β) (state : State) :
    outcome (action >>= next) state =
      match outcome action state with
      | (.ok value, reached) => outcome (next value) reached
      | (.error error, reached) => (.error error, reached) := by
  simp only [outcome, ExceptT.run_bind, StateT.run_bind, Id.run_bind]
  rcases (action.run.run state).run with ⟨_ | _, _⟩ <;> rfl

@[simp]
theorem outcome_pure (value : α) (state : State) :
    outcome (pure value) state = (.ok value, state) :=
  rfl

@[simp]
theorem outcome_throw (error : Error) (state : State) :
    outcome (throw error : ExceptT Error (StateM State) α) state = (.error error, state) :=
  rfl

@[simp]
theorem outcome_mk_pure (result : Except Error α) (state : State) :
    outcome (ExceptT.mk (pure result)) state = (result, state) :=
  rfl

@[simp]
theorem outcome_lift (action : StateM State α) (state : State) :
    outcome (ExceptT.lift action) state = (.ok (action state).1, (action state).2) :=
  rfl

variable {sink : Sink (StateM State)}

theorem outcome_saveEach_cons_ok {language : Language} {file : SourceFile}
    {rest : List (Language × SourceFile)} {state next : State}
    (saved : outcome (sink.save language file) state = (.ok (), next)) :
    outcome (saveEach sink ((language, file) :: rest)) state =
      outcome (saveEach sink rest) next := by
  rw [saveEach, outcome_bind, saved]

theorem outcome_saveEach_cons_error {language : Language} {file : SourceFile}
    {rest : List (Language × SourceFile)} {state next : State} {error : Error}
    (refused : outcome (sink.save language file) state = (.error error, next)) :
    outcome (saveEach sink ((language, file) :: rest)) state = (.error error, next) := by
  rw [saveEach, outcome_bind, refused]

theorem outcome_saveEach_cons_eq_ok_iff {pair : Language × SourceFile}
    {rest : List (Language × SourceFile)} {state final : State} :
    outcome (saveEach sink (pair :: rest)) state = (.ok (), final) ↔
      ∃ next, outcome (sink.save pair.1 pair.2) state = (.ok (), next) ∧
        outcome (saveEach sink rest) next = (.ok (), final) := by
  rcases pair with ⟨language, file⟩
  cases attempt : outcome (sink.save language file) state with
  | mk attempted next =>
      cases attempted with
      | error error => simp [outcome_saveEach_cons_error attempt]
      | ok _ => simp [outcome_saveEach_cons_ok attempt]

/-- Exactly as many of the first pairs as counted are saved; then there are no more, or the next
one is refused. -/
inductive Saving (sink : Sink (StateM State)) :
    List (Language × SourceFile) → Nat → State → Except Error Unit → State → Prop where
  | done (state : State) : Saving sink [] 0 state (.ok ()) state
  | refused {pair : Language × SourceFile} {rest : List (Language × SourceFile)}
      {state final : State} {error : Error}
      (refused : outcome (sink.save pair.1 pair.2) state = (.error error, final)) :
      Saving sink (pair :: rest) 0 state (.error error) final
  | saved {pair : Language × SourceFile} {rest : List (Language × SourceFile)} {count : Nat}
      {state next final : State} {result : Except Error Unit}
      (saved : outcome (sink.save pair.1 pair.2) state = (.ok (), next))
      (others : Saving sink rest count next result final) :
      Saving sink (pair :: rest) (count + 1) state result final

namespace Saving

variable {pairs : List (Language × SourceFile)} {count : Nat} {state final : State}
  {result : Except Error Unit}

theorem exists_of_outcome (ended : outcome (saveEach sink pairs) state = (result, final)) :
    ∃ count, Saving sink pairs count state result final := by
  induction pairs generalizing state with
  | nil =>
      simp only [saveEach, outcome_pure, Prod.mk.injEq] at ended
      rcases ended with ⟨rfl, rfl⟩
      exact ⟨0, .done state⟩
  | cons pair rest ih =>
      rcases pair with ⟨language, file⟩
      cases attempt : outcome (sink.save language file) state with
      | mk attempted next =>
          cases attempted with
          | error error =>
              rw [outcome_saveEach_cons_error attempt, Prod.mk.injEq] at ended
              rcases ended with ⟨rfl, rfl⟩
              exact ⟨0, .refused attempt⟩
          | ok _ =>
              rw [outcome_saveEach_cons_ok attempt] at ended
              rcases ih ended with ⟨count, others⟩
              exact ⟨count + 1, .saved attempt others⟩

theorem count_of_ok (saving : Saving sink pairs count state (.ok ()) final) :
    count = pairs.length := by
  generalize ended : (.ok () : Except Error Unit) = result at saving
  induction saving with
  | done => rfl
  | refused => simp at ended
  | saved _ _ ih => rw [ih ended, List.length_cons]

end Saving

/-- The result of a run after all saves were taken. -/
def ending (count : Nat) : Option Error → Except Error Nat
  | some error => .error error
  | none => .ok count

theorem outcome_finish (count : Nat) (failure : Option Error) (state : State) :
    outcome (finish count failure) state = (ending count failure, state) := by
  cases failure <;> rfl

variable {registry : Registry} {model : List Declaration} {targets : List Target}
  {generatedAt : Instant}

theorem outcome_run_of_resolve_error {error : Error}
    (failed : resolve registry targets = .error error) (state : State) :
    outcome (run registry sink model targets generatedAt) state = (.error error, state) := by
  rw [run, outcome_bind, failed, outcome_mk_pure]

theorem outcome_run_of_resolve_ok {resolved : List (Target × Language)}
    (quiet : ∀ target language count, sink.finished target language count = pure ())
    (found : resolve registry targets = .ok resolved) (state : State) :
    outcome (run registry sink model targets generatedAt) state =
      match outcome (saveEach sink (saves model generatedAt resolved)) state with
      | (.error error, reached) => (.error error, reached)
      | (.ok (), reached) =>
        (ending (saves model generatedAt resolved).length (failure? model generatedAt resolved),
          reached) := by
  rw [run, outcome_bind, found, outcome_mk_pure]
  simp only [deliver_eq quiet, outcome_bind, outcome_finish]
  rcases outcome (saveEach sink (saves model generatedAt resolved)) state with ⟨_ | _, _⟩ <;> rfl

/-- A run succeeds if all languages are registered, all targets are generated and all files are
saved. -/
theorem outcome_run_eq_ok_iff {count : Nat} {state final : State}
    (quiet : ∀ target language count, sink.finished target language count = pure ()) :
    outcome (run registry sink model targets generatedAt) state = (.ok count, final) ↔
      ∃ resolved, resolve registry targets = .ok resolved ∧
        failure? model generatedAt resolved = none ∧
        count = (saves model generatedAt resolved).length ∧
        outcome (saveEach sink (saves model generatedAt resolved)) state = (.ok (), final) := by
  cases found : resolve registry targets with
  | error error => simp [outcome_run_of_resolve_error found]
  | ok resolved =>
      rw [outcome_run_of_resolve_ok quiet found]
      cases attempt : outcome (saveEach sink (saves model generatedAt resolved)) state with
      | mk saved reached =>
          cases saved with
          | error error => simp [attempt]
          | ok _ =>
              cases failed : failure? model generatedAt resolved with
              | some error => simp [ending, failed]
              | none => simp [ending, failed, attempt, eq_comm]

/-- What a run hands to its sink if nothing is refused. -/
def saveSequence (registry : Registry) (model : List Declaration) (generatedAt : Instant)
    (targets : List Target) : List (Language × SourceFile) :=
  match resolve registry targets with
  | .ok resolved => saves model generatedAt resolved
  | .error _ => []

theorem exists_of_mem_saveSequence {pair : Language × SourceFile}
    (mem : pair ∈ saveSequence registry model generatedAt targets) :
    ∃ declaration ∈ model, pair.2.name = pair.1.fileName declaration.name := by
  rw [saveSequence] at mem
  split at mem
  · exact exists_of_mem_saves mem
  · simp at mem

/-- A run saves the beginning of its sequence. It gives the number of saves, or fails because one
is refused, or because of a target. -/
theorem exists_saving_of_run {result : Except Error Nat} {state final : State}
    (quiet : ∀ target language count, sink.finished target language count = pure ())
    (ended : outcome (run registry sink model targets generatedAt) state = (result, final)) :
    ∃ count saved,
      Saving sink (saveSequence registry model generatedAt targets) count state saved final ∧
      (∀ files, result = .ok files → count = files) ∧
      ∀ error, saved = .error error → result = .error error := by
  cases found : resolve registry targets with
  | error error =>
      rw [outcome_run_of_resolve_error found, Prod.mk.injEq] at ended
      rcases ended with ⟨rfl, rfl⟩
      simp only [saveSequence, found]
      exact ⟨0, .ok (), .done state, by simp, by simp⟩
  | ok resolved =>
      rw [outcome_run_of_resolve_ok quiet found] at ended
      simp only [saveSequence, found]
      cases attempt : outcome (saveEach sink (saves model generatedAt resolved)) state with
      | mk saved reached =>
          rcases Saving.exists_of_outcome attempt with ⟨count, saving⟩
          rw [attempt] at ended
          cases saved with
          | error error =>
              rw [Prod.mk.injEq] at ended
              rcases ended with ⟨rfl, rfl⟩
              refine ⟨count, .error error, saving, by simp, ?_⟩
              rintro _ ⟨⟩
              rfl
          | ok _ =>
              rw [Prod.mk.injEq] at ended
              rcases ended with ⟨rfl, rfl⟩
              refine ⟨count, .ok (), saving, ?_, by simp⟩
              intro files same
              rw [saving.count_of_ok]
              cases failed : failure? model generatedAt resolved with
              | some error => simp [ending, failed] at same
              | none => simpa [ending, failed] using same

end States

/-- The beginning of 1970. -/
def newYear : Instant :=
  ⟨0, 0, by decide, by decide, by decide⟩

end Run

end GenModel
