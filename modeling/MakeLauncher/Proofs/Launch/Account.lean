import MakeLauncher.Proofs.Launch.Configuration
import MakeLauncher.Proofs.Launch.Invocation
import MakeLauncher.Proofs.Launch.Log

/-! The whole log of a launch. Its entries are written by the stages that they are about, and a stage
that fails keeps the later ones from being reached, so the log is told from the request, from the
platform and the make that are found, and from the trial. Main statement: nothing is written for a root
that may not stand; otherwise the entries stand in one order, each of them is there just when there is
something to say, and starting make adds none. -/

namespace MakeLauncher

/-- What an entry of the log says: its level, its wording, and the path beside it. -/
structure Event.Entry where
  level : Level := .info
  message : String
  path? : Option Bytes := none
  deriving DecidableEq

def Event.entry (event : Event) : Entry := ⟨event.level, event.message, event.path?⟩

/-- The platform that the answers of a probe come to, if they come to one. -/
def Probe.platform? (probe : Probe) : Option Platform := probe.platform.toOption

namespace CygwinTrial

def passes (runner : Runner) (make root : Bytes) : Bool :=
  (Launch.outcome (run runner make root) {}).1.toOption.isSome

theorem Goes.events_eq {runner : Runner} {make root : Bytes} {result : Except Failure Bytes}
    {calls : List Call} {events : List Event} (h : Goes runner [] make root result calls events) :
    events = if passes runner make root then [.cygwinMake] else [] := by
  have hresult : (Launch.outcome (run runner make root) {}).1 = result :=
    congrArg Prod.fst (Goes.outcome_run {} h)
  rw [passes, hresult]
  cases h <;> rfl

end CygwinTrial

namespace Launch

variable (surroundings : Surroundings) (build : Build)

/-- The make that a launch finds, if it finds the platform and then a make. -/
def foundMake? : Option Make :=
  surroundings.probe.platform?.bind fun platform =>
    (makeFor surroundings.site build platform).toOption

/-- The place of the prebuilt make that a launch looks for in vain, if it comes to look for it. -/
def missingMake? : Option Bytes :=
  (surroundings.probe.platform?.map (Make.prebuiltPath build.root)).filter fun place =>
    build.environment.chosenMake = none ∧ surroundings.site.isFile place = false

/-- Make is tried and stands the trial. -/
def standsTrial : Bool :=
  (foundMake? surroundings build).any fun make =>
    build.environment.ostype = some "cygwin" ∧
      CygwinTrial.passes surroundings.runner make.path build.root = true

variable {surroundings build}

/-! ### What is found -/

theorem platform?_of_eq_ok {probe : Probe} {platform : Platform}
    (hplatform : probe.platform = .ok platform) : probe.platform? = some platform := by
  rw [Probe.platform?, hplatform]
  rfl

theorem foundMake?_of_eq_ok {platform : Platform} {make : Make}
    (hplatform : surroundings.probe.platform = .ok platform)
    (hmake : makeFor surroundings.site build platform = .ok make) :
    foundMake? surroundings build = some make := by
  rw [foundMake?, platform?_of_eq_ok hplatform, Option.bind_some, hmake]
  rfl

/-- Make is tried under Cygwin alone. -/
theorem standsTrial_eq {make : Make} (hfound : foundMake? surroundings build = some make) :
    standsTrial surroundings build =
      (build.environment.isCygwin &&
        CygwinTrial.passes surroundings.runner make.path build.root) := by
  rw [standsTrial, hfound, Option.any_some, Environment.isCygwin, Bool.decide_and,
    Bool.decide_eq_true]

theorem missing_eq_toList {platform : Platform}
    (hplatform : surroundings.probe.platform = .ok platform) :
    missing surroundings.site build platform =
      (missingMake? surroundings build).toList.map .noPrebuilt := by
  rw [missing, missingMake?, platform?_of_eq_ok hplatform, Option.map_some, Option.filter_some]
  split
  · rename_i h
    rw [if_pos (decide_eq_true h)]
    rfl
  · rename_i h
    rw [if_neg (by simpa using h)]
    rfl

/-! ### The log -/

/-- The log up to the start of make: the opening, and the entries of the stages that are reached. -/
theorem log_prepared_eq (surroundings : Surroundings) (build : Build) :
    (prepared surroundings build.toRequest).2.log =
      opening build.toRequest ++ surroundings.probe.platform?.toList.flatMap Event.ofPlatform ++
        (missingMake? surroundings build).toList.map .noPrebuilt ++
        (foundMake? surroundings build).toList.map .make ++
        if standsTrial surroundings build then [.cygwinMake] else [] := by
  have hcourse := course_prepared surroundings build.toRequest
  generalize (prepared surroundings build.toRequest).1 = result at hcourse
  generalize (prepared surroundings build.toRequest).2 = trace at hcourse ⊢
  cases hcourse with
  | rejected hroot => exact absurd hroot (by simp [build.clean])
  | unknownHost hbuild hplatform =>
      have hnone : surroundings.probe.platform? = none := by
        rw [Probe.platform?, hplatform]
        rfl
      simp [missingMake?, foundMake?, standsTrial, hnone]
  | withoutMake hbuild hplatform hmake =>
      cases Build.toRequest_injective hbuild
      have hnone : foundMake? surroundings build = none := by
        rw [foundMake?, platform?_of_eq_ok hplatform, Option.bind_some, hmake]
        rfl
      simp [missing_eq_toList hplatform, platform?_of_eq_ok hplatform, standsTrial, hnone]
  | untried hbuild hplatform hmake hcygwin =>
      cases Build.toRequest_injective hbuild
      have hfound := foundMake?_of_eq_ok hplatform hmake
      simp [missing_eq_toList hplatform, platform?_of_eq_ok hplatform, hfound,
        standsTrial_eq hfound, hcygwin]
  | untrusted hbuild hplatform hmake hcygwin htrial =>
      cases Build.toRequest_injective hbuild
      have hfound := foundMake?_of_eq_ok hplatform hmake
      simp [missing_eq_toList hplatform, platform?_of_eq_ok hplatform, hfound,
        standsTrial_eq hfound, hcygwin, htrial.events_eq]
  | tried hbuild hplatform hmake hcygwin htrial =>
      cases Build.toRequest_injective hbuild
      have hfound := foundMake?_of_eq_ok hplatform hmake
      simp [missing_eq_toList hplatform, platform?_of_eq_ok hplatform, hfound,
        standsTrial_eq hfound, hcygwin, htrial.events_eq]

/-- The opening, told from the arguments and the variables. -/
theorem opening_eq (request : Request) :
    opening request =
      (if Argument.EndsOpen request.arguments then [.danglingFlag] else []) ++
        [.root request.root,
          .verbose ((Argument.lastFree Assignment.log? request.arguments).getD
            (decide (request.environment.log ∈ [some "1", some "true"]))),
          .analyze ((Argument.lastFree Assignment.analyze? request.arguments).getD
            (decide (request.environment.analyze ∈ [some "1", some "true"])))] ++
        (Argument.lastFree Assignment.analyzerOut? request.arguments).toList.map .analyzerOut ++
        (Argument.lastFree Assignment.appAbi? request.arguments).toList.map .appAbi ++
        (Argument.paths request.arguments).getLast?.toList.map .projectPath := by
  simp only [opening, Event.ofArguments, Event.ofSettings, Request.settings,
    Argument.awaitsPath_classify, Settings.verbose_withArguments, Settings.analyze_withArguments,
    Settings.analyzerOut_withArguments, Settings.appAbi_withArguments,
    Settings.projectPath_withArguments, Environment.seed, any_isOn, Option.or_none,
    decide_eq_true_eq, List.append_assoc, List.cons_append, List.nil_append]

/-- The log of a launch is empty when the root may not stand. Otherwise it says, in this order: that the
arguments end in a flag without its path; the root and the two switches; the path for the reports, the
target and the path of the project, each as the last argument has it; the platform; that there is no
prebuilt make; the make and where it was found; that make understands the paths of Cygwin. What has not
come about is left out, and nothing is said behind this. -/
theorem log_of_launch (surroundings : Surroundings) (request : Request) :
    (finished surroundings request).2.log = (prepared surroundings request).2.log ∧
    (checkRoot request.root ≠ .ok () → (prepared surroundings request).2.log = []) ∧
    ∀ build : Build, build.toRequest = request →
      (prepared surroundings request).2.log.map Event.entry =
        (if Argument.EndsOpen request.arguments then
          [{ level := .warn, message := "ignoring trailing -C with no project path" }] else []) ++
        [{ message := "NDK_ROOT=" ++ request.root.shown },
          { message := "NDK_LOG=" ++
              if (Argument.lastFree Assignment.log? request.arguments).getD
                (decide (request.environment.log ∈ [some "1", some "true"])) then "1" else "0" },
          { message := "NDK_ANALYZE=" ++
              if (Argument.lastFree Assignment.analyze? request.arguments).getD
                (decide (request.environment.analyze ∈ [some "1", some "true"])) then "1" else "0" }] ++
        (Argument.lastFree Assignment.analyzerOut? request.arguments).toList.map (fun path =>
          { message := "NDK_ANALYZER_OUT=" ++ path }) ++
        (Argument.lastFree Assignment.appAbi? request.arguments).toList.map (fun abi =>
          { message := "APP_ABI=" ++ abi }) ++
        (Argument.paths request.arguments).getLast?.toList.map (fun path =>
          { message := "PROJECT_PATH=" ++ path.shown }) ++
        surroundings.probe.platform?.toList.flatMap (fun platform =>
          [{ message := "HOST_OS=" ++ platform.family.name },
            { message := "HOST_ARCH=" ++ platform.processor.name },
            { message := "HOST_TAG=" ++ (platform.family.name ++ "-" ++ platform.processor.name) }]) ++
        (missingMake? surroundings build).toList.map (fun place =>
          { level := .debug, message := "no prebuilt make", path? := some place }) ++
        (foundMake? surroundings build).toList.map (fun make =>
          { message := "GNUMAKE=" ++ make.path.shown ++ " (" ++ make.origin.text ++ ")" }) ++
        if standsTrial surroundings build then
          [{ message := "Cygwin-compatible GNU make detected" }] else [] := by
  refine ⟨log_finished surroundings request, fun hroot => ?_, ?_⟩
  · have hspace : request.root.hasWhiteSpace = true := by
      by_contra hclean
      exact hroot (checkRoot_eq_ok_iff.mpr (Bool.eq_false_iff.mpr hclean))
    rw [prepared_of_hasWhiteSpace surroundings request hspace]
  · rintro build rfl
    rw [log_prepared_eq, opening_eq]
    simp only [List.map_append, List.map_map, List.map_flatMap, apply_ite (List.map Event.entry)]
    rfl

/-- The shell of Cygwin with a make of the usual name. -/
def cygwinHost : Surroundings :=
  { cygwinShell with
    site := ⟨⟨(· = Bytes.ofText "/bin/make"), (· = Bytes.ofText "/bin/make")⟩, "/work", "/home"⟩ }

/-- A request of which everything that can be in a log is said. -/
def tellingRequest : Request where
  root := "/ndk"
  directory := "/work"
  arguments := ["APP_ABI=arm64-v8a", "-C", "NDK_LOG=1", "NDK_ANALYZER_OUT=/out", "APP_ABI=x86", "-C"]
  environment := { ostype := some "cygwin", analyze := some "true", searchPath := "/bin" }

theorem log_of_launch_of_tellingRequest :
    checkRoot "/opt/android ndk" ≠ .ok () ∧
    (finished cygwinHost { tellingRequest with root := "/opt/android ndk" }).2.log = [] ∧
    ∃ build : Build, build.toRequest = tellingRequest ∧
      (finished cygwinHost tellingRequest).2.log.map Event.entry =
        [{ level := .warn, message := "ignoring trailing -C with no project path" },
          { message := "NDK_ROOT=/ndk" }, { message := "NDK_LOG=0" }, { message := "NDK_ANALYZE=1" },
          { message := "NDK_ANALYZER_OUT=/out" }, { message := "APP_ABI=x86" },
          { message := "PROJECT_PATH=NDK_LOG=1" }, { message := "HOST_OS=cygwin" },
          { message := "HOST_ARCH=x86_64" }, { message := "HOST_TAG=cygwin-x86_64" },
          { level := .debug, message := "no prebuilt make",
            path? := some "/ndk/prebuilt/cygwin-x86_64/bin/make" },
          { message := "GNUMAKE=/bin/make (system path)" },
          { message := "Cygwin-compatible GNU make detected" }] := by
  have hspace : checkRoot "/opt/android ndk" ≠ .ok () := by decide
  obtain ⟨hrefused, hempty, -⟩ :=
    log_of_launch cygwinHost { tellingRequest with root := "/opt/android ndk" }
  obtain ⟨hstarted, -, htold⟩ := log_of_launch cygwinHost tellingRequest
  have hlog := htold { tellingRequest with clean := by decide } rfl
  refine ⟨hspace, hrefused.trans (hempty hspace), { tellingRequest with clean := by decide }, rfl, ?_⟩
  rw [hstarted, hlog]
  decide

end Launch
end MakeLauncher
