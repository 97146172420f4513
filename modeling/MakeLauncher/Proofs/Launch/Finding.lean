import MakeLauncher.Launch.Run

/-! The search for make by itself. It looks at the files and at nothing that has been done before, and
writes at most one entry into the log, so it is a pair of functions: the make or the failure that it
ends with, and the entries. Main statement: when it fails, and how. -/

namespace MakeLauncher.Launch

variable (site : Site) (build : Build) (platform : Platform)

def searchFor (name : String) : Option Bytes :=
  site.search build.environment.searchPath build.directory name

/-- What the search for make ends with. -/
def makeFor : Except Failure Make := (outcome (findMake site build platform) {}).1

/-- The entries that the search for make writes: that there is no prebuilt make, when one was looked
for. -/
def missing : List Event :=
  if build.environment.chosenMake = none ∧
      site.isFile (Make.prebuiltPath build.root platform) = false then
    [.noPrebuilt (Make.prebuiltPath build.root platform)]
  else []

variable {site build platform}

/-! ### The three sources -/

theorem outcome_findMake_of_chosen {name : String}
    (hname : build.environment.chosenMake = some name) (trace : Trace) :
    outcome (findMake site build platform) trace =
      ((searchFor site build name).elim (.error (.invalidOverride name)) fun path =>
        .ok ⟨path, .chosen⟩, trace) := by
  unfold findMake
  cases hsearch : searchFor site build name with
  | none =>
      rw [searchFor] at hsearch
      simp only [hname, hsearch, outcome_throw, Option.elim_none]
  | some path =>
      rw [searchFor] at hsearch
      simp only [hname, hsearch, outcome_pure, Option.elim_some]

theorem outcome_findMake_of_prebuilt (hname : build.environment.chosenMake = none)
    (hfile : site.isFile (Make.prebuiltPath build.root platform) = true) (trace : Trace) :
    outcome (findMake site build platform) trace =
      (.ok ⟨Make.prebuiltPath build.root platform, .prebuilt⟩, trace) := by
  unfold findMake
  simp only [hname, hfile, if_true, outcome_pure]

theorem outcome_findMake_of_missing (hname : build.environment.chosenMake = none)
    (hfile : site.isFile (Make.prebuiltPath build.root platform) = false) (trace : Trace) :
    outcome (findMake site build platform) trace =
      ((searchFor site build Make.defaultName).elim (.error .noMake) fun path =>
        .ok ⟨path, .searchPath⟩,
        { trace with
          log := trace.log ++ [.noPrebuilt (Make.prebuiltPath build.root platform)] }) := by
  unfold findMake
  cases hsearch : searchFor site build Make.defaultName with
  | none =>
      rw [searchFor] at hsearch
      simp only [hname, hfile, hsearch, Bool.false_eq_true, if_false, outcome_bind, outcome_note,
        outcome_throw, Option.elim_none]
  | some path =>
      rw [searchFor] at hsearch
      simp only [hname, hfile, hsearch, Bool.false_eq_true, if_false, outcome_bind, outcome_note,
        outcome_pure, Option.elim_some]

/-! ### All of them -/

theorem makeFor_of_chosen {name : String} (hname : build.environment.chosenMake = some name) :
    makeFor site build platform =
      (searchFor site build name).elim (.error (.invalidOverride name)) fun path =>
        .ok ⟨path, .chosen⟩ :=
  congrArg Prod.fst (outcome_findMake_of_chosen hname {})

theorem makeFor_of_prebuilt (hname : build.environment.chosenMake = none)
    (hfile : site.isFile (Make.prebuiltPath build.root platform) = true) :
    makeFor site build platform = .ok ⟨Make.prebuiltPath build.root platform, .prebuilt⟩ :=
  congrArg Prod.fst (outcome_findMake_of_prebuilt hname hfile {})

theorem makeFor_of_missing (hname : build.environment.chosenMake = none)
    (hfile : site.isFile (Make.prebuiltPath build.root platform) = false) :
    makeFor site build platform =
      (searchFor site build Make.defaultName).elim (.error .noMake) fun path =>
        .ok ⟨path, .searchPath⟩ :=
  congrArg Prod.fst (outcome_findMake_of_missing hname hfile {})

theorem outcome_findMake (trace : Trace) :
    outcome (findMake site build platform) trace =
      (makeFor site build platform,
        { trace with log := trace.log ++ missing site build platform }) := by
  cases hname : build.environment.chosenMake with
  | some name => simp [outcome_findMake_of_chosen hname, makeFor, missing, hname]
  | none =>
      cases hfile : site.isFile (Make.prebuiltPath build.root platform) with
      | true => simp [outcome_findMake_of_prebuilt hname hfile, makeFor, missing, hfile]
      | false => simp [outcome_findMake_of_missing hname hfile, makeFor, missing, hname, hfile]

theorem makeFor_eq_error_iff {failure : Failure} :
    makeFor site build platform = .error failure ↔
      (∃ name, build.environment.chosenMake = some name ∧ searchFor site build name = none ∧
        failure = .invalidOverride name) ∨
      (build.environment.chosenMake = none ∧
        site.isFile (Make.prebuiltPath build.root platform) = false ∧
        searchFor site build Make.defaultName = none ∧ failure = .noMake) := by
  cases hname : build.environment.chosenMake with
  | some name =>
      rw [makeFor_of_chosen hname]
      cases hsearch : searchFor site build name <;> simp [hsearch, eq_comm (a := failure)]
  | none =>
      cases hfile : site.isFile (Make.prebuiltPath build.root platform) with
      | true => simp [makeFor_of_prebuilt hname hfile]
      | false =>
          rw [makeFor_of_missing hname hfile]
          cases hsearch : searchFor site build Make.defaultName <;>
            simp [eq_comm (a := failure)]

end MakeLauncher.Launch
