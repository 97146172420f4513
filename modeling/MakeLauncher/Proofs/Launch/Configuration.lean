import MakeLauncher.Launch.Run
import MakeLauncher.Proofs.Root
import MakeLauncher.Proofs.Settings

/-! The build that a request is configured to. Its settings are drawn from the arguments in one pass
over the list and a second one over what that pass made of it; here they are told from the list alone.
Main statement: a request in a root that may stand has a build with the arguments as they are, and each
of its settings is what the last argument says that is in a place to set it, or what the environment
says. -/

namespace MakeLauncher

theorem any_isOn (value : Option String) :
    value.any isOn = decide (value ∈ [some "1", some "true"]) := by
  cases value with
  | none => rfl
  | some text => simp [isOn, Bool.decide_or]

namespace Launch

/-- A request in a root that may stand is configured to its build, and its arguments are looked at. -/
theorem outcome_configure (build : Build) (trace : Trace) :
    outcome (configure build.toRequest) trace =
      (.ok build,
        { trace with
          log := trace.log ++ Event.ofArguments (Argument.classify build.arguments) }) := by
  unfold configure
  rw [Build.ofRequest_eq_ok_iff.mpr rfl]
  simp only [outcome_bind, outcome_ofExcept, outcome_noteAll, outcome_pure, Settings.read]

/-- A request in a root that may stand has a build with its arguments, and the settings of the build are
these: a switch is as the last assignment to it says that is not the path of a flag, and without one
as the environment says; a value is that of the last such assignment; the path of the project is the
last path of a flag; and a flag is left over just when the arguments end in an odd run of flags. -/
theorem settings_of_configured {request : Request} (hroot : checkRoot request.root = .ok ()) :
    ∃ build : Build, (outcome (configure request) {}).1 = .ok build ∧
      build.arguments = request.arguments ∧
      build.settings =
        { verbose := (Argument.lastFree Assignment.log? request.arguments).getD
            (decide (request.environment.log ∈ [some "1", some "true"]))
          analyze := (Argument.lastFree Assignment.analyze? request.arguments).getD
            (decide (request.environment.analyze ∈ [some "1", some "true"]))
          analyzerOut := Argument.lastFree Assignment.analyzerOut? request.arguments
          appAbi := Argument.lastFree Assignment.appAbi? request.arguments
          projectPath := (Argument.paths request.arguments).getLast?
          danglingFlag := decide (Argument.EndsOpen request.arguments) } := by
  obtain ⟨build, rfl⟩ : ∃ build : Build, build.toRequest = request :=
    ⟨{ request with clean := checkRoot_eq_ok_iff.mp hroot }, rfl⟩
  refine ⟨build, congrArg Prod.fst (outcome_configure build {}), rfl, ?_⟩
  have hverbose := Settings.verbose_withArguments build.environment.seed build.arguments
  have hanalyze := Settings.analyze_withArguments build.environment.seed build.arguments
  have hout := Settings.analyzerOut_withArguments build.environment.seed build.arguments
  have habi := Settings.appAbi_withArguments build.environment.seed build.arguments
  have hpath := Settings.projectPath_withArguments build.environment.seed build.arguments
  have hdangling := Settings.danglingFlag_withArguments build.environment.seed build.arguments
  calc build.settings
      = ⟨build.settings.verbose, build.settings.analyze, build.settings.analyzerOut,
          build.settings.appAbi, build.settings.projectPath, build.settings.danglingFlag⟩ := rfl
    _ = _ := by
        unfold Request.settings
        rw [hverbose, hanalyze, hout, habi, hpath, hdangling]
        simp only [Environment.seed, any_isOn, Option.or_none, Bool.false_or]

/-- A request whose flags take one another and an assignment as their paths. -/
def flaggedRequest : Request where
  root := "/ndk"
  directory := "/work"
  arguments := ["NDK_LOG=true", "-C", "-C", "APP_ABI=x86", "-C", "NDK_LOG=0", "APP_ABI=arm64=",
    "NDK_ANALYZE=yes", "-C", "-C", "-C"]
  environment := { log := some "0", analyze := some "true" }

theorem settings_of_configured_of_flaggedRequest :
    checkRoot flaggedRequest.root = .ok () ∧
    ∃ build : Build, (outcome (configure flaggedRequest) {}).1 = .ok build ∧
      build.settings =
        { verbose := true, analyze := false, analyzerOut := none, appAbi := some "arm64="
          projectPath := some Argument.flag, danglingFlag := true } := by
  have hroot : checkRoot flaggedRequest.root = .ok () := by decide
  obtain ⟨build, hbuild, -, hsettings⟩ := settings_of_configured hroot
  refine ⟨hroot, build, hbuild, hsettings.trans ?_⟩
  decide

end Launch
end MakeLauncher
