import DurableFlow.Settings.Store
import Mathlib.Data.List.Basic

/-!
Overrides stay out of the settings file. Any number of stores work on one settings file, and others
write to it behind their backs. Each step sees variables of the environment of its own; what a load
hands out depends on them, but what a store remembers and what stands in the file never does.
-/

namespace DurableFlow.SettingsStore

/-- What can be done with the stores of a settings file, which are numbered in the order of their
making; and what others can do to the files. -/
inductive Operation where
  | create
  | load (store : Nat)
  | reload (store : Nat)
  | save (store : Nat) (given : Option Settings)
  | external (change : Files → Files)

/-- The files, and the stores that were made so far. -/
structure Shared where
  files : Files := {}
  stores : List SettingsStore := []

/-- What a step gives back to the one who takes it. -/
inductive Answer where
  | done
  | noStore
  | loaded (found : Outcome Fault Settings)
  | saved (result : Outcome SaveError Unit)

namespace Shared

def keep (sh : Shared) (i : Nat) (store : SettingsStore) : Shared :=
  { sh with stores := sh.stores.set i store }

/-- One step with the variables that are set while it is taken. -/
def step (path shownPath : String) (sh : Shared) (env : Environment) : Operation → Shared × Answer
  | .create => ({ sh with stores := sh.stores ++ [{ path := path, shownPath := shownPath }] }, .done)
  | .load i =>
    match sh.stores[i]? with
    | none => (sh, .noStore)
    | some store =>
      let (store, found) := store.load sh.files env
      (sh.keep i store, .loaded found)
  | .reload i =>
    match sh.stores[i]? with
    | none => (sh, .noStore)
    | some store =>
      let (store, found) := store.reload sh.files env
      (sh.keep i store, .loaded found)
  | .save i given =>
    match sh.stores[i]? with
    | none => (sh, .noStore)
    | some store =>
      let (store, files, result) := store.save sh.files given
      ({ sh.keep i store with files := files }, .saved result)
  | .external change => ({ sh with files := change sh.files }, .done)

/-- The steps of a run, each with its own variables: what there is after each of them, and the
answers. -/
def run (path shownPath : String) : Shared → List (Operation × Environment) → List (Shared × Answer)
  | _, [] => []
  | sh, (op, env) :: rest =>
    let next := sh.step path shownPath env op
    next :: run path shownPath next.1 rest

/-- The variables show in the answer to a step and nowhere else. -/
theorem step_fst (path shownPath : String) (sh : Shared) (env env' : Environment) (op : Operation) :
    (sh.step path shownPath env op).1 = (sh.step path shownPath env' op).1 := by
  cases op with
  | create => rfl
  | load i =>
      simp only [step]
      cases sh.stores[i]? with
      | none => rfl
      | some store => rfl
  | reload i =>
      simp only [step]
      cases sh.stores[i]? with
      | none => rfl
      | some store => rfl
  | save i given => rfl
  | external change => rfl

theorem run_fst (path shownPath : String) (sh : Shared)
    (steps : List (Operation × Environment × Environment)) :
    (sh.run path shownPath (steps.map fun s => (s.1, s.2.1))).map Prod.fst =
      (sh.run path shownPath (steps.map fun s => (s.1, s.2.2))).map Prod.fst := by
  induction steps generalizing sh with
  | nil => rfl
  | cons s steps ih =>
      obtain ⟨op, env, env'⟩ := s
      simp only [List.map_cons, run]
      rw [step_fst path shownPath sh env env' op, ih]

def contents (path : String) (states : List (Shared × Answer)) :
    List (Except FileCause FileEntry) :=
  states.map fun s => s.1.files.status path

end Shared

/-- Whatever is done with the stores of a settings file and to the file itself, and whatever variables
are set at each step, the file holds the same after every step. -/
theorem contents_unaffected (path shownPath : String) (sh : Shared)
    (steps : List (Operation × Environment × Environment)) :
    Shared.contents path (sh.run path shownPath (steps.map fun s => (s.1, s.2.1))) =
      Shared.contents path (sh.run path shownPath (steps.map fun s => (s.1, s.2.2))) := by
  have hcontents : ∀ states, Shared.contents path states =
      (states.map Prod.fst).map fun sh => sh.files.status path := by
    intro states
    rw [List.map_map]
    rfl
  rw [hcontents, hcontents, Shared.run_fst]

-- An override is handed out, and not remembered for the save behind it.
example :
    let store : SettingsStore := { path := "s.json", shownPath := "s.json" }
    let (after, found) := store.load {} [("STEPFLOW_CYCLE_POLICY", "FALLBACK")]
    (found.result.toOption.map (·.compiler.cyclePolicy), (after.remembered {}).1.compiler.cyclePolicy) =
      (some .fallback, .error) := by
  decide

end DurableFlow.SettingsStore
