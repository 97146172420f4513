import MakeLauncher.Proofs.Launch.Course
import MakeLauncher.Proofs.Platform

/-! The stages of a launch that can end it, and the order in which they are come to. What makes a stage
fail is said of each by itself, so that several may fail at one and the same input. Main statement: a
launch fails as the first stage that fails says, it comes to an invocation when none does, and what it
has done until then is what the stages before that one do. -/

namespace MakeLauncher.Launch

inductive Stage where
  | root
  | kernel
  | machine
  | family
  | processor
  | chosenMake
  | anyMake
  | trial
  deriving DecidableEq, Repr

namespace Stage

def rank : Stage → Nat
  | .root => 0
  | .kernel => 1
  | .machine => 2
  | .family => 3
  | .processor => 4
  | .chosenMake => 5
  | .anyMake => 6
  | .trial => 7

/-- The questions that a launch has asked when the stage is over. -/
def asked : Stage → List Query
  | .root => []
  | .kernel => [.kernel]
  | _ => [.kernel, .machine]

theorem rank_lt_trial {stage : Stage} (h : stage ≠ .trial) : stage.rank < Stage.trial.rank := by
  cases stage with
  | trial => exact absurd rfl h
  | _ => decide

theorem rank_injective {stage other : Stage} (h : stage.rank = other.rank) : stage = other := by
  cases stage <;> cases other <;> first | rfl | cases h

end Stage

variable (surroundings : Surroundings) (request : Request)

/-- No program is found that a name means to a request. -/
def NotFound (name : String) : Prop :=
  ∀ path ∈ surroundings.site.candidates request.environment.searchPath request.directory name,
    surroundings.site.isProgram path = false

/-- What makes a stage fail, and the failure. No condition looks at the other stages, but what depends
on the platform needs one, and a trial needs a make. -/
inductive Fails : Stage → Failure → Prop
  | root (hroot : request.root.hasWhiteSpace = true) :
      Fails .root (.whiteSpaceInRoot request.root)
  | kernel {failure : Failure} (hkernel : surroundings.probe .kernel = .error failure) :
      Fails .kernel failure
  | machine {failure : Failure} (hmachine : surroundings.probe .machine = .error failure) :
      Fails .machine failure
  | family {kernel : String} (hkernel : surroundings.probe .kernel = .ok kernel)
      (hunknown : OsFamily.Unknown kernel) :
      Fails .family (.unsupportedOs (trim kernel))
  | processor {machine : String} (hmachine : surroundings.probe .machine = .ok machine)
      (hunknown : Processor.Unknown machine) :
      Fails .processor (.unsupportedProcessor (trim machine))
  | chosenMake {name : String} (hname : request.environment.chosenMake = some name)
      (hnone : NotFound surroundings request name) :
      Fails .chosenMake (.invalidOverride name)
  | anyMake {platform : Platform} (hname : request.environment.chosenMake = none)
      (hplatform : surroundings.probe.platform = .ok platform)
      (hfile : surroundings.site.isFile (Make.prebuiltPath request.root platform) = false)
      (hnone : NotFound surroundings request Make.defaultName) :
      Fails .anyMake .noMake
  | trial {build : Build} {platform : Platform} {make : Make} {failure : Failure}
      (hcygwin : request.environment.ostype = some "cygwin") (hbuild : build.toRequest = request)
      (hplatform : surroundings.probe.platform = .ok platform)
      (hmake : makeFor surroundings.site build platform = .ok make)
      (htrial : (outcome (CygwinTrial.run surroundings.runner make.path request.root) {}).1 =
        .error failure) :
      Fails .trial failure

def Passes (stage : Stage) : Prop := ∀ failure, ¬Fails surroundings request stage failure

def PassesBefore (stage : Stage) : Prop :=
  ∀ earlier : Stage, earlier.rank < stage.rank → Passes surroundings request earlier

/-- A stage that fails when all before it pass. -/
def FailsFirst (stage : Stage) (failure : Failure) : Prop :=
  Fails surroundings request stage failure ∧ PassesBefore surroundings request stage

variable {surroundings request}

/-! ### Stages that pass -/

theorem searchFor_eq_none_iff {build : Build} (hbuild : build.toRequest = request)
    {name : String} :
    searchFor surroundings.site build name = none ↔ NotFound surroundings request name := by
  subst hbuild
  simp only [searchFor, Site.search, List.find?_eq_none, Bool.not_eq_true, NotFound]

theorem passes_root {build : Build} (hbuild : build.toRequest = request) :
    Passes surroundings request .root := by
  intro failure h
  cases h with
  | root hroot =>
      subst hbuild
      rw [build.clean] at hroot
      cases hroot

theorem passes_kernel {kernel : String} (hanswer : surroundings.probe .kernel = .ok kernel) :
    Passes surroundings request .kernel := by
  intro failure h
  cases h with
  | kernel hkernel =>
      rw [hanswer] at hkernel
      cases hkernel

theorem passes_machine {machine : String}
    (hanswer : surroundings.probe .machine = .ok machine) :
    Passes surroundings request .machine := by
  intro failure h
  cases h with
  | machine hmachine =>
      rw [hanswer] at hmachine
      cases hmachine

theorem passes_family {kernel : String} (hanswer : surroundings.probe .kernel = .ok kernel)
    (hknown : ¬OsFamily.Unknown kernel) : Passes surroundings request .family := by
  intro failure h
  cases h with
  | family hkernel hunknown =>
      rw [hanswer] at hkernel
      cases hkernel
      exact hknown hunknown

theorem passes_processor {machine : String}
    (hanswer : surroundings.probe .machine = .ok machine)
    (hknown : ¬Processor.Unknown machine) : Passes surroundings request .processor := by
  intro failure h
  cases h with
  | processor hmachine hunknown =>
      rw [hanswer] at hmachine
      cases hmachine
      exact hknown hunknown

theorem passes_chosenMake (hname : request.environment.chosenMake = none) :
    Passes surroundings request .chosenMake := by
  intro failure h
  cases h with
  | chosenMake hsome =>
      rw [hname] at hsome
      cases hsome

theorem passesBefore_root : PassesBefore surroundings request .root :=
  fun _ hlt => absurd hlt (Nat.not_lt_zero _)

theorem PassesBefore.next {stage next : Stage} (hbefore : PassesBefore surroundings request stage)
    (hpasses : Passes surroundings request stage) (hrank : next.rank = stage.rank + 1) :
    PassesBefore surroundings request next := by
  intro earlier hlt
  rw [hrank] at hlt
  rcases Nat.lt_or_eq_of_le (Nat.le_of_lt_succ hlt) with hearlier | heq
  · exact hbefore earlier hearlier
  · exact Stage.rank_injective heq ▸ hpasses

/-- The stages that ask about the host pass when the answers come to a platform. -/
theorem passesBefore_chosenMake {platform : Platform}
    (hroot : Passes surroundings request .root)
    (hplatform : surroundings.probe.platform = .ok platform) :
    PassesBefore surroundings request .chosenMake := by
  obtain ⟨kernel, machine, hkernel, hmachine, hok⟩ := Probe.platform_eq_ok_iff.mp hplatform
  have hnames : ∀ failure, Platform.ofNames kernel machine ≠ .error failure := by
    intro failure herror
    rw [hok] at herror
    cases herror
  simp only [ne_eq, Platform.ofNames_eq_error_iff, not_or] at hnames
  have hfamily : ¬OsFamily.Unknown kernel := fun hunknown =>
    (hnames (.unsupportedOs (trim kernel))).1 ⟨hunknown, rfl⟩
  have hprocessor : ¬Processor.Unknown machine := fun hunknown =>
    (hnames (.unsupportedProcessor (trim machine))).2 ⟨hfamily, hunknown, rfl⟩
  exact ((((passesBefore_root.next hroot rfl).next (passes_kernel hkernel) rfl).next
    (passes_machine hmachine) rfl).next (passes_family hkernel hfamily) rfl).next
    (passes_processor hmachine hprocessor) rfl

/-- The stages before the trial pass when there is a make. -/
theorem passesBefore_trial {build : Build} {platform : Platform} {make : Make}
    (hbuild : build.toRequest = request)
    (hplatform : surroundings.probe.platform = .ok platform)
    (hmake : makeFor surroundings.site build platform = .ok make) :
    PassesBefore surroundings request .trial := by
  have hfound : ∀ failure, makeFor surroundings.site build platform ≠ .error failure := by
    intro failure herror
    rw [hmake] at herror
    cases herror
  simp only [ne_eq, makeFor_eq_error_iff, searchFor_eq_none_iff hbuild, not_or] at hfound
  have hchosen : Passes surroundings request .chosenMake := by
    intro failure h
    cases h with
    | chosenMake hname hnone =>
        subst hbuild
        exact (hfound _).1 ⟨_, hname, hnone, rfl⟩
  have hany : Passes surroundings request .anyMake := by
    intro failure h
    cases h with
    | anyMake hname hother hfile hnone =>
        cases Except.ok.inj (hplatform.symm.trans hother)
        subst hbuild
        exact (hfound _).2 ⟨hname, hfile, hnone, rfl⟩
  exact ((passesBefore_chosenMake (passes_root hbuild) hplatform).next hchosen rfl).next hany rfl

/-! ### The first stage that fails -/

theorem Fails.unique {stage : Stage} {failure other : Failure}
    (h : Fails surroundings request stage failure)
    (hother : Fails surroundings request stage other) : failure = other := by
  cases h with
  | root => cases hother; rfl
  | anyMake => cases hother; rfl
  | kernel hkernel =>
      cases hother with
      | kernel hkernel' => exact Except.error.inj (hkernel.symm.trans hkernel')
  | machine hmachine =>
      cases hother with
      | machine hmachine' => exact Except.error.inj (hmachine.symm.trans hmachine')
  | family hkernel =>
      cases hother with
      | family hkernel' => rw [Except.ok.inj (hkernel.symm.trans hkernel')]
  | processor hmachine =>
      cases hother with
      | processor hmachine' => rw [Except.ok.inj (hmachine.symm.trans hmachine')]
  | chosenMake hname =>
      cases hother with
      | chosenMake hname' => rw [Option.some.inj (hname.symm.trans hname')]
  | trial _ hbuild hplatform hmake htrial =>
      cases hother with
      | trial _ hbuild' hplatform' hmake' htrial' =>
          obtain ⟨rfl, rfl, rfl⟩ :=
            found_unique hbuild hplatform hmake hbuild' hplatform' hmake'
          exact Except.error.inj (htrial.symm.trans htrial')

theorem FailsFirst.unique {stage other : Stage} {failure cause : Failure}
    (h : FailsFirst surroundings request stage failure)
    (hother : FailsFirst surroundings request other cause) : stage = other ∧ failure = cause := by
  obtain ⟨hfails, hbefore⟩ := h
  obtain ⟨hfails', hbefore'⟩ := hother
  rcases Nat.lt_trichotomy stage.rank other.rank with hlt | heq | hgt
  · exact absurd hfails (hbefore' stage hlt failure)
  · cases Stage.rank_injective heq
    exact ⟨rfl, hfails.unique hfails'⟩
  · exact absurd hfails' (hbefore other hgt cause)

/-- When the answers of the host come to no platform, one of the four stages that ask about the host
fails first. -/
theorem exists_failsFirst_of_platform_eq_error {failure : Failure}
    (hroot : Passes surroundings request .root)
    (hplatform : surroundings.probe.platform = .error failure) :
    ∃ stage : Stage, FailsFirst surroundings request stage failure ∧
      stage.asked = surroundings.probe.asked ∧ stage ≠ .root := by
  unfold Probe.platform at hplatform
  unfold Probe.asked
  have hbefore : PassesBefore surroundings request .kernel := passesBefore_root.next hroot rfl
  cases hkernel : surroundings.probe .kernel with
  | error cause =>
      simp only [hkernel, bind, Except.bind, Except.error.injEq] at hplatform
      subst hplatform
      exact ⟨.kernel, ⟨.kernel hkernel, hbefore⟩, rfl, nofun⟩
  | ok kernel =>
  replace hbefore : PassesBefore surroundings request .machine :=
    hbefore.next (passes_kernel hkernel) rfl
  cases hmachine : surroundings.probe .machine with
  | error cause =>
      simp only [hkernel, hmachine, bind, Except.bind, Except.error.injEq] at hplatform
      subst hplatform
      exact ⟨.machine, ⟨.machine hmachine, hbefore⟩, rfl, nofun⟩
  | ok machine =>
  replace hbefore : PassesBefore surroundings request .family :=
    hbefore.next (passes_machine hmachine) rfl
  simp only [hkernel, hmachine, bind, Except.bind] at hplatform
  rcases Platform.ofNames_eq_error_iff.mp hplatform with
    ⟨hunknown, rfl⟩ | ⟨hknown, hunknown, rfl⟩
  · exact ⟨.family, ⟨.family hkernel hunknown, hbefore⟩, rfl, nofun⟩
  · exact ⟨.processor, ⟨.processor hmachine hunknown,
      hbefore.next (passes_family hkernel hknown) rfl⟩, rfl, nofun⟩

/-- When there is no make for a platform, the name that the user gave fails first, or the lack of any
make. -/
theorem exists_failsFirst_of_makeFor_eq_error {build : Build} {platform : Platform}
    {failure : Failure} (hbuild : build.toRequest = request)
    (hplatform : surroundings.probe.platform = .ok platform)
    (hmake : makeFor surroundings.site build platform = .error failure) :
    ∃ stage : Stage, FailsFirst surroundings request stage failure ∧
      stage.asked = [.kernel, .machine] ∧ stage ≠ .root := by
  have hbefore := passesBefore_chosenMake (passes_root hbuild) hplatform
  rcases makeFor_eq_error_iff.mp hmake with
    ⟨name, hname, hsearch, rfl⟩ | ⟨hname, hfile, hsearch, rfl⟩
  · have hnone := (searchFor_eq_none_iff hbuild).mp hsearch
    subst hbuild
    exact ⟨.chosenMake, ⟨.chosenMake hname hnone, hbefore⟩, rfl, nofun⟩
  · have hnone := (searchFor_eq_none_iff hbuild).mp hsearch
    subst hbuild
    exact ⟨.anyMake, ⟨.anyMake hname hplatform hfile hnone,
      hbefore.next (passes_chosenMake hname) rfl⟩, rfl, nofun⟩

/-- A launch that fails does so at the first stage that fails, and has done nothing behind it. -/
theorem exists_failsFirst {failure : Failure}
    (h : (prepared surroundings request).1 = .error failure) :
    ∃ stage : Stage, FailsFirst surroundings request stage failure ∧
      (prepared surroundings request).2.queries = stage.asked ∧
      (stage = .root → (prepared surroundings request).2 = {}) ∧
      (stage ≠ .trial → (prepared surroundings request).2.calls = []) := by
  have hcourse := course_prepared surroundings request
  rw [h] at hcourse
  generalize (prepared surroundings request).2 = trace at hcourse ⊢
  cases hcourse with
  | rejected hroot =>
      exact ⟨.root, ⟨.root hroot, passesBefore_root⟩, rfl, fun _ => rfl, fun _ => rfl⟩
  | unknownHost hbuild hplatform =>
      obtain ⟨stage, hfirst, hasked, hne⟩ :=
        exists_failsFirst_of_platform_eq_error (passes_root hbuild) hplatform
      exact ⟨stage, hfirst, hasked.symm, fun heq => absurd heq hne, fun _ => rfl⟩
  | withoutMake hbuild hplatform hmake =>
      obtain ⟨stage, hfirst, hasked, hne⟩ :=
        exists_failsFirst_of_makeFor_eq_error hbuild hplatform hmake
      exact ⟨stage, hfirst, hasked.symm, fun heq => absurd heq hne, fun _ => rfl⟩
  | untrusted hbuild hplatform hmake hcygwin htrial =>
      have hresult := congrArg Prod.fst (htrial.outcome_run {})
      have hostype := Environment.isCygwin_eq_true_iff.mp hcygwin
      exact ⟨.trial, ⟨.trial hostype hbuild hplatform hmake hresult,
        passesBefore_trial hbuild hplatform hmake⟩, rfl, nofun, fun hne => absurd rfl hne⟩

theorem passes_of_prepared_eq_ok {invocation : Invocation}
    (h : (prepared surroundings request).1 = .ok invocation) (stage : Stage) :
    Passes surroundings request stage := by
  have hcourse := course_prepared surroundings request
  rw [h] at hcourse
  by_cases hstage : stage = .trial
  · subst hstage
    intro failure hfails
    cases hfails with
    | trial hostype hbuild hplatform hmake htrial =>
        generalize (prepared surroundings request).2 = trace at hcourse
        cases hcourse with
        | untried _ _ _ hother =>
            exact absurd hostype (Environment.isCygwin_eq_false_iff.mp hother)
        | tried hbuild' hplatform' hmake' _ hgoes =>
            obtain ⟨rfl, rfl, rfl⟩ :=
              found_unique hbuild hplatform hmake hbuild' hplatform' hmake'
            have hresult := congrArg Prod.fst (hgoes.outcome_run {})
            cases htrial.symm.trans hresult
  · generalize (prepared surroundings request).2 = trace at hcourse
    cases hcourse with
    | untried hbuild hplatform hmake =>
        exact passesBefore_trial hbuild hplatform hmake stage (Stage.rank_lt_trial hstage)
    | tried hbuild hplatform hmake =>
        exact passesBefore_trial hbuild hplatform hmake stage (Stage.rank_lt_trial hstage)

/-- The first stage that fails decides how a launch ends, and a launch in which none fails comes to an
invocation. Of the stages behind that one nothing is asked and nothing is started. -/
theorem prepared_decided_by_first_stage (surroundings : Surroundings) (request : Request) :
    (∀ failure, (prepared surroundings request).1 = .error failure ↔
      ∃ stage, FailsFirst surroundings request stage failure) ∧
    ((∃ invocation, (prepared surroundings request).1 = .ok invocation) ↔
      ∀ stage, Passes surroundings request stage) ∧
    (∀ stage failure, FailsFirst surroundings request stage failure →
      (prepared surroundings request).2.queries = stage.asked ∧
      (stage = .root → (prepared surroundings request).2 = {}) ∧
      (stage ≠ .trial → (prepared surroundings request).2.calls = [])) := by
  have hfirst : ∀ stage failure, FailsFirst surroundings request stage failure →
      (prepared surroundings request).1 = .error failure ∧
      (prepared surroundings request).2.queries = stage.asked ∧
      (stage = .root → (prepared surroundings request).2 = {}) ∧
      (stage ≠ .trial → (prepared surroundings request).2.calls = []) := by
    intro stage failure hfails
    cases hresult : (prepared surroundings request).1 with
    | ok invocation => exact absurd hfails.1 (passes_of_prepared_eq_ok hresult stage failure)
    | error other =>
        obtain ⟨first, hother, htrace⟩ := exists_failsFirst hresult
        obtain ⟨rfl, rfl⟩ := hfails.unique hother
        exact ⟨rfl, htrace⟩
  refine ⟨fun failure => ⟨fun h => ?_, fun ⟨stage, hfails⟩ => (hfirst stage failure hfails).1⟩,
    ⟨fun ⟨invocation, h⟩ => passes_of_prepared_eq_ok h, fun hpasses => ?_⟩,
    fun stage failure hfails => (hfirst stage failure hfails).2⟩
  · obtain ⟨stage, hfails, -⟩ := exists_failsFirst h
    exact ⟨stage, hfails⟩
  · cases hresult : (prepared surroundings request).1 with
    | ok invocation => exact ⟨invocation, rfl⟩
    | error failure =>
        obtain ⟨stage, hfails, -⟩ := exists_failsFirst hresult
        exact absurd hfails.1 (hpasses stage failure)

/-- A host that has an unknown kernel, does not tell its machine and holds no files. -/
def bareHost : Surroundings where
  site := ⟨⟨fun _ => false, fun _ => false⟩, "/", "/"⟩
  probe := fun
    | .kernel => .ok " Plan9\n"
    | .machine => .error (.unknownHost "machine name" "exit status: 1")
  runner := Runner.scripted []

/-- A request that asks for nothing in particular. -/
def plainRequest : Request where
  root := "/ndk"
  directory := "/"
  arguments := []
  environment := {}

theorem prepared_decided_by_first_stage_on_bareHost :
    FailsFirst bareHost plainRequest .machine
      (.unknownHost "machine name" "exit status: 1") ∧
    Fails bareHost plainRequest .family (.unsupportedOs "Plan9") ∧
    (prepared bareHost plainRequest).1 =
      .error (.unknownHost "machine name" "exit status: 1") ∧
    (prepared bareHost plainRequest).2.queries = [.kernel, .machine] ∧
    (prepared bareHost plainRequest).2.calls = [] := by
  obtain ⟨build, hbuild⟩ : ∃ build : Build, build.toRequest = plainRequest :=
    ⟨{ plainRequest with clean := by decide }, rfl⟩
  have hfirst : FailsFirst bareHost plainRequest .machine
      (.unknownHost "machine name" "exit status: 1") :=
    ⟨.machine rfl,
      (passesBefore_root.next (passes_root hbuild) rfl).next (passes_kernel rfl) rfl⟩
  have hunknown : OsFamily.Unknown " Plan9\n" := by
    intro family
    cases family <;> decide
  have hname : trim " Plan9\n" = "Plan9" := by decide
  obtain ⟨hresult, -, htrace⟩ := prepared_decided_by_first_stage bareHost plainRequest
  obtain ⟨hqueries, -, hcalls⟩ := htrace _ _ hfirst
  exact ⟨hfirst, hname ▸ .family rfl hunknown, (hresult _).mpr ⟨_, hfirst⟩, hqueries,
    hcalls nofun⟩

end MakeLauncher.Launch
