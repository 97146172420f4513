import MakeLauncher.Proofs.Launch.Invocation
import MakeLauncher.Proofs.Root

/-! Two launches side by side that differ in their arguments and in the variables that switch the log
and the analyzer. All stages of a launch are handed the whole build, with the settings in it; here each
is shown to look at none of them. Two computations are alike when nothing tells them apart but what
they log, and computations made of alike parts are alike. Main statement: such launches ask the same
questions, make the same calls, and come to the same failure or to invocations that differ in the flag
of the analyzer and in the forwarded arguments only. -/

namespace MakeLauncher

/-- Two traces that have the same questions and the same calls. Their logs may differ. -/
structure Trace.Alike (left right : Trace) : Prop where
  queries : left.queries = right.queries
  calls : left.calls = right.calls

/-- Two results that are the same failure, or are values in a relation. -/
inductive Failure.SameOr {α β : Type} (R : α → β → Prop) : Except Failure α → Except Failure β → Prop
  | error (failure : Failure) : SameOr R (.error failure) (.error failure)
  | ok {a : α} {b : β} (h : R a b) : SameOr R (.ok a) (.ok b)

theorem Failure.sameOr_eq_self {α : Type} (result : Except Failure α) :
    Failure.SameOr Eq result result := by
  cases result with
  | error failure => exact .error failure
  | ok a => exact .ok rfl

theorem Failure.SameOr.imp {α β : Type} {R S : α → β → Prop} {left : Except Failure α}
    {right : Except Failure β} (h : Failure.SameOr R left right) (himp : ∀ a b, R a b → S a b) :
    Failure.SameOr S left right := by
  cases h with
  | error failure => exact .error failure
  | ok hvalues => exact .ok (himp _ _ hvalues)

theorem Failure.SameOr.eq {α : Type} {left right : Except Failure α}
    (h : Failure.SameOr Eq left right) : left = right := by
  cases h with
  | error failure => rfl
  | ok hvalues => rw [hvalues]

/-- Two requests that differ at most in their arguments and in the variables that switch the log and the
analyzer. -/
structure Request.Agrees (left right : Request) : Prop where
  root : left.root = right.root
  directory : left.directory = right.directory
  chosenMake : left.environment.chosenMake = right.environment.chosenMake
  ostype : left.environment.ostype = right.environment.ostype
  searchPath : left.environment.searchPath = right.environment.searchPath

/-- The process that is a build, with the analyzer or without it, whatever the settings of the build. -/
def Build.invocationBy (build : Build) (analyze : Bool) (program : Bytes) : Invocation where
  program := program
  arguments := [Bytes.ofText syncFlag, Bytes.ofText "-f", build.script] ++
    (if analyze then [Bytes.ofText analysisFlag] else []) ++ build.arguments
  cleared := hiddenVariables

namespace Launch

variable {α β γ δ : Type} {R : α → β → Prop} {S : γ → δ → Prop}

/-- Two computations that are not told apart but by what they log: behind alike traces they end in the
same failure or with values in the relation, and leave alike traces. -/
def Alike (R : α → β → Prop) (left : Launch α) (right : Launch β) : Prop :=
  ∀ trace trace' : Trace, trace.Alike trace' →
    Failure.SameOr R (outcome left trace).1 (outcome right trace').1 ∧
    (outcome left trace).2.Alike (outcome right trace').2

/-! ### Steps -/

theorem alike_pure {a : α} {b : β} (h : R a b) : Alike R (pure a) (pure b) :=
  fun _ _ htrace => ⟨.ok h, htrace⟩

theorem alike_throw (failure : Failure) :
    Alike R (throw failure : Launch α) (throw failure : Launch β) :=
  fun _ _ htrace => ⟨.error failure, htrace⟩

theorem alike_ofExcept {left : Except Failure α} {right : Except Failure β}
    (h : Failure.SameOr R left right) : Alike R (ofExcept left) (ofExcept right) := by
  cases h with
  | error failure => exact alike_throw failure
  | ok h => exact alike_pure h

/-- What is logged tells nothing apart. -/
theorem alike_noteAll (events events' : List Event) :
    Alike Eq (noteAll events) (noteAll events') :=
  fun _ _ htrace => ⟨.ok rfl, ⟨htrace.queries, htrace.calls⟩⟩

theorem alike_ask (probe : Probe) (query : Query) : Alike Eq (ask probe query) (ask probe query) := by
  intro trace trace' htrace
  rw [outcome_ask, outcome_ask]
  exact ⟨Failure.sameOr_eq_self _, ⟨by rw [htrace.queries], htrace.calls⟩⟩

/-- An answer to a call may depend on the calls before it, and these are the same. -/
theorem alike_call (runner : Runner) (kind : CallKind) (invocation : Invocation) :
    Alike Eq (call runner kind invocation) (call runner kind invocation) := by
  intro trace trace' htrace
  rw [outcome_call, outcome_call, htrace.calls]
  exact ⟨Failure.sameOr_eq_self _, ⟨htrace.queries, rfl⟩⟩

theorem Alike.bind {left : Launch α} {right : Launch β} {next : α → Launch γ}
    {next' : β → Launch δ} (h : Alike R left right)
    (hnext : ∀ a b, R a b → Alike S (next a) (next' b)) :
    Alike S (left >>= next) (right >>= next') := by
  intro trace trace' htrace
  obtain ⟨hresult, hleft⟩ := h trace trace' htrace
  rw [outcome_bind, outcome_bind]
  generalize outcome left trace = reached at hresult hleft ⊢
  generalize outcome right trace' = reached' at hresult hleft ⊢
  obtain ⟨result, after⟩ := reached
  obtain ⟨result', after'⟩ := reached'
  cases hresult with
  | error failure => exact ⟨.error failure, hleft⟩
  | ok hvalues => exact hnext _ _ hvalues after after' hleft

theorem Alike.tryCatch {left : Launch α} {right : Launch β} {handler : Failure → Launch α}
    {handler' : Failure → Launch β} (h : Alike R left right)
    (hhandler : ∀ failure, Alike R (handler failure) (handler' failure)) :
    Alike R (tryCatch left handler) (tryCatch right handler') := by
  intro trace trace' htrace
  obtain ⟨hresult, hleft⟩ := h trace trace' htrace
  rw [outcome_tryCatch, outcome_tryCatch]
  generalize outcome left trace = reached at hresult hleft ⊢
  generalize outcome right trace' = reached' at hresult hleft ⊢
  obtain ⟨result, after⟩ := reached
  obtain ⟨result', after'⟩ := reached'
  cases hresult with
  | error failure => exact hhandler failure after after' hleft
  | ok hvalues => exact ⟨.ok hvalues, hleft⟩

theorem Alike.imp {S : α → β → Prop} {left : Launch α} {right : Launch β} (h : Alike R left right)
    (himp : ∀ a b, R a b → S a b) : Alike S left right := by
  intro trace trace' htrace
  obtain ⟨hresult, hafter⟩ := h trace trace' htrace
  exact ⟨hresult.imp himp, hafter⟩

/-! ### Stages -/

theorem alike_detect (probe : Probe) : Alike Eq (detect probe) (detect probe) := by
  refine (alike_ask probe .kernel).bind fun kernel _ hkernel => ?_
  cases hkernel
  refine (alike_ask probe .machine).bind fun machine _ hmachine => ?_
  cases hmachine
  exact alike_ofExcept (Failure.sameOr_eq_self _)

theorem alike_convert (runner : Runner) (style : PathStyle) (path : Bytes) :
    Alike Eq (CygwinTrial.convert runner style path) (CygwinTrial.convert runner style path) := by
  refine (alike_call runner .output _).bind fun reply _ hreply => ?_
  cases hreply
  split
  · exact alike_pure rfl
  · exact alike_throw _

theorem alike_trial (runner : Runner) (make root : Bytes) :
    Alike Eq (CygwinTrial.run runner make root) (CygwinTrial.run runner make root) := by
  refine (alike_convert runner .unix make).bind fun unix _ hunix => ?_
  cases hunix
  refine (alike_convert runner .mixed root).bind fun mixed _ hmixed => ?_
  cases hmixed
  refine (alike_call runner .output _).bind fun reply _ hreply => ?_
  cases hreply
  split
  · exact (alike_noteAll _ _).bind fun _ _ _ => alike_pure rfl
  · refine Alike.bind ((alike_convert runner .mixed unix).tryCatch fun _ => alike_pure rfl)
      fun known _ hknown => ?_
    cases hknown
    exact alike_throw _

variable {build build' : Build}

theorem alike_findMake (h : build.toRequest.Agrees build'.toRequest) (site : Site)
    (platform : Platform) :
    Alike Eq (findMake site build platform) (findMake site build' platform) := by
  unfold findMake
  -- These four are all that the search looks at, so that both sides now go by the same values.
  rw [h.root, h.directory, h.chosenMake, h.searchPath]
  cases build'.environment.chosenMake with
  | some name =>
      dsimp only
      cases site.search build'.environment.searchPath build'.directory name with
      | some path => exact alike_pure rfl
      | none => exact alike_throw _
  | none =>
      dsimp only
      split
      · exact alike_pure rfl
      refine (alike_noteAll _ _).bind fun _ _ _ => ?_
      cases site.search build'.environment.searchPath build'.directory Make.defaultName with
      | some path => exact alike_pure rfl
      | none => exact alike_throw _

theorem alike_program (h : build.toRequest.Agrees build'.toRequest) (runner : Runner)
    (make : Make) : Alike Eq (program runner build make) (program runner build' make) := by
  have hcygwin : build.environment.isCygwin = build'.environment.isCygwin := by
    unfold Environment.isCygwin
    rw [h.ostype]
  unfold program
  rw [hcygwin, h.root]
  split
  · exact alike_trial runner make.path build'.root
  · exact alike_pure rfl

/-! ### Settings that are handed in -/

/-- All that comes before a build, by settings that stand in the place of those of the build. -/
def prepareBy (settings : Settings) (surroundings : Surroundings) (build : Build) :
    Launch Invocation := do
  noteAll (.root build.root :: Event.ofSettings settings)
  let platform ← detect surroundings.probe
  noteAll (Event.ofPlatform platform)
  let make ← findMake surroundings.site build platform
  note (.make make)
  let program ← program surroundings.runner build make
  pure (build.invocationBy settings.analyze program)

theorem prepareBy_settings (surroundings : Surroundings) (build : Build) :
    prepareBy build.settings surroundings build = prepare surroundings build := rfl

/-- Builds that agree are prepared alike by any settings, and come to the same program. -/
theorem alike_prepareBy (h : build.toRequest.Agrees build'.toRequest) (settings settings' : Settings)
    (surroundings : Surroundings) :
    Alike (fun invocation invocation' => ∃ program,
        invocation = build.invocationBy settings.analyze program ∧
        invocation' = build'.invocationBy settings'.analyze program)
      (prepareBy settings surroundings build) (prepareBy settings' surroundings build') := by
  refine (alike_noteAll _ _).bind fun _ _ _ => ?_
  refine (alike_detect surroundings.probe).bind fun platform _ hplatform => ?_
  cases hplatform
  refine (alike_noteAll _ _).bind fun _ _ _ => ?_
  refine (alike_findMake h surroundings.site platform).bind fun make _ hmake => ?_
  cases hmake
  refine (alike_noteAll _ _).bind fun _ _ _ => ?_
  refine (alike_program h surroundings.runner make).bind fun program _ hprogram => ?_
  cases hprogram
  exact alike_pure ⟨program, rfl, rfl⟩

theorem alike_configure {left right : Request} (h : left.Agrees right) :
    Alike (fun build build' => build.toRequest = left ∧ build'.toRequest = right)
      (configure left) (configure right) := by
  have hroot : checkRoot left.root = checkRoot right.root := congrArg checkRoot h.root
  have hbuild : Failure.SameOr
      (fun build build' => build.toRequest = left ∧ build'.toRequest = right)
      (Build.ofRequest left) (Build.ofRequest right) := by
    cases hleft : Build.ofRequest left with
    | error failure =>
        rw [Build.ofRequest_eq_error_iff, hroot, ← Build.ofRequest_eq_error_iff] at hleft
        rw [hleft]
        exact .error failure
    | ok build =>
        cases hright : Build.ofRequest right with
        | error failure =>
            rw [Build.ofRequest_eq_error_iff, ← hroot, ← Build.ofRequest_eq_error_iff] at hright
            rw [hright] at hleft
            cases hleft
        | ok build' =>
            exact .ok ⟨Build.ofRequest_eq_ok_iff.mp hleft, Build.ofRequest_eq_ok_iff.mp hright⟩
  refine (alike_ofExcept hbuild).bind fun build build' hbuilds => ?_
  exact (alike_noteAll _ _).bind fun _ _ _ => alike_pure hbuilds

/-- Launches that agree differ at most in the settings and the arguments of the builds they come to. -/
theorem alike_configure_prepare {left right : Request} (h : left.Agrees right)
    (surroundings : Surroundings) :
    Alike (fun invocation invocation' => ∃ (build build' : Build) (program : Bytes),
        build.toRequest = left ∧ build'.toRequest = right ∧
        invocation = build.invocation program ∧ invocation' = build'.invocation program)
      (configure left >>= prepare surroundings) (configure right >>= prepare surroundings) := by
  refine (alike_configure h).bind fun build build' ⟨hleft, hright⟩ => ?_
  have hagrees : build.toRequest.Agrees build'.toRequest := by rwa [hleft, hright]
  rw [← prepareBy_settings, ← prepareBy_settings]
  refine (alike_prepareBy hagrees build.settings build'.settings surroundings).imp ?_
  rintro _ _ ⟨program, rfl, rfl⟩
  exact ⟨build, build', program, hleft, hright, rfl, rfl⟩

/-- Neither the arguments of a launch nor the variables that switch the log and the analyzer have a part
in what it asks, in the calls it makes before make is started, in its failure, or in anything of the
invocation but the flag of the analyzer and the arguments behind it. Of the settings, only the switch of
the analyzer goes beyond the log. -/
theorem prepared_noninterference {left right : Request} (h : left.Agrees right)
    (surroundings : Surroundings) :
    (prepared surroundings left).2.queries = (prepared surroundings right).2.queries ∧
    (prepared surroundings left).2.calls = (prepared surroundings right).2.calls ∧
    Failure.SameOr
      (fun invocation invocation' =>
        invocation.program = invocation'.program ∧ invocation.cleared = invocation'.cleared ∧
        (∃ front, front.length = 3 ∧ front <+: invocation.arguments ∧
          front <+: invocation'.arguments) ∧
        (left.settings.analyze = right.settings.analyze →
          ∃ front, invocation.arguments = front ++ left.arguments ∧
            invocation'.arguments = front ++ right.arguments))
      (prepared surroundings left).1 (prepared surroundings right).1 ∧
    ∀ (settings : Settings) (build : Build), settings.analyze = build.settings.analyze →
      (outcome (prepareBy settings surroundings build) {}).1 =
          (outcome (prepare surroundings build) {}).1 ∧
        (outcome (prepareBy settings surroundings build) {}).2.queries =
          (outcome (prepare surroundings build) {}).2.queries ∧
        (outcome (prepareBy settings surroundings build) {}).2.calls =
          (outcome (prepare surroundings build) {}).2.calls := by
  obtain ⟨hresult, htrace⟩ := alike_configure_prepare h surroundings {} {} ⟨rfl, rfl⟩
  refine ⟨htrace.queries, htrace.calls, hresult.imp ?_, ?_⟩
  · rintro _ _ ⟨build, build', program, rfl, rfl, rfl, rfl⟩
    have hscript : build.script = build'.script := by rw [Build.script, Build.script, h.root]
    refine ⟨rfl, rfl, ⟨[Bytes.ofText Build.syncFlag, Bytes.ofText "-f", build.script], rfl, ?_, ?_⟩,
      fun hanalyze => ?_⟩
    · rw [Build.invocation, List.append_assoc]
      exact List.prefix_append _ _
    · rw [Build.invocation, List.append_assoc, hscript]
      exact List.prefix_append _ _
    · refine ⟨_, rfl, ?_⟩
      rw [hanalyze, hscript]
      rfl
  · intro settings build hanalyze
    rw [← prepareBy_settings]
    have hself : build.toRequest.Agrees build.toRequest := ⟨rfl, rfl, rfl, rfl, rfl⟩
    obtain ⟨hresult, htrace⟩ :=
      alike_prepareBy hself settings build.settings surroundings {} {} ⟨rfl, rfl⟩
    refine ⟨Failure.SameOr.eq (hresult.imp ?_), htrace.queries, htrace.calls⟩
    rintro _ _ ⟨program, rfl, rfl⟩
    rw [hanalyze]

/-- The request that analyzes, with other arguments and with the switches in its environment. -/
def switchedRequest : Request :=
  { analyzingRequest with
    arguments := ["V=1", "NDK_ANALYZER_OUT=/out", "-C"]
    environment :=
      { analyzingRequest.environment with log := some "1", analyze := some "true" } }

theorem prepared_noninterference_of_switchedRequest :
    analyzingRequest.Agrees switchedRequest ∧
    (prepared cygwinShell analyzingRequest).2.log ≠ (prepared cygwinShell switchedRequest).2.log ∧
    (prepared cygwinShell analyzingRequest).2.calls =
      (prepared cygwinShell switchedRequest).2.calls ∧
    ∃ (invocation invocation' : Invocation) (front : List Bytes),
      (prepared cygwinShell analyzingRequest).1 = .ok invocation ∧
      (prepared cygwinShell switchedRequest).1 = .ok invocation' ∧
      invocation.arguments = front ++ analyzingRequest.arguments ∧
      invocation'.arguments = front ++ switchedRequest.arguments := by
  have hagrees : analyzingRequest.Agrees switchedRequest := ⟨rfl, rfl, rfl, rfl, rfl⟩
  obtain ⟨-, hcalls, hresult, -⟩ := prepared_noninterference hagrees cygwinShell
  have hanalyze : analyzingRequest.settings.analyze = switchedRequest.settings.analyze := by decide
  refine ⟨hagrees, by decide, hcalls, ?_⟩
  generalize hleft : (prepared cygwinShell analyzingRequest).1 = left at hresult ⊢
  generalize hright : (prepared cygwinShell switchedRequest).1 = right at hresult ⊢
  cases hresult with
  | error failure => exact absurd hleft nofun
  | ok hinvocations =>
      obtain ⟨-, -, -, hfront⟩ := hinvocations
      obtain ⟨front, hforwarded, hforwarded'⟩ := hfront hanalyze
      exact ⟨_, _, front, rfl, rfl, hforwarded, hforwarded'⟩

end Launch
end MakeLauncher
