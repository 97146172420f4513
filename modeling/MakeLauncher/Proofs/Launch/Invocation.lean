import MakeLauncher.Proofs.Launch.Course
import MakeLauncher.Proofs.Settings

/-! The invocation that a launch comes to, in terms of its request: the program is the make that was
found, as the system knows it, and the arguments are three fixed ones, the flag of the analyzer where
it is asked for, and those of the request. Main statement: this is the whole invocation, and the
launch ends with the reply to it. -/

namespace MakeLauncher.Launch

/-- Whether a request asks for the analyzer: as the last of its arguments says that sets the switch
and is not the path of a flag, and without one as the environment says. -/
def analyzes (request : Request) : Bool :=
  (Argument.lastFree Assignment.analyze? request.arguments).getD
    (request.environment.analyze.any isOn)

/-- The path that a make is started by: the one it was found at, or under Cygwin the one that its trial
gives back. -/
def programOf (surroundings : Surroundings) (request : Request) (make : Make) :
    Except Failure Bytes :=
  if request.environment.ostype = some "cygwin" then
    (outcome (CygwinTrial.run surroundings.runner make.path request.root) {}).1
  else .ok make.path

theorem analyze_settings (request : Request) : request.settings.analyze = analyzes request :=
  Settings.analyze_withArguments _ _

theorem exists_build_of_prepared {surroundings : Surroundings} {request : Request}
    {invocation : Invocation} (h : (prepared surroundings request).1 = .ok invocation) :
    ∃ (build : Build) (platform : Platform) (make : Make) (program : Bytes),
      build.toRequest = request ∧ surroundings.probe.platform = .ok platform ∧
      makeFor surroundings.site build platform = .ok make ∧
      programOf surroundings request make = .ok program ∧
      invocation = build.invocation program := by
  have hcourse := course_prepared surroundings request
  rw [h] at hcourse
  generalize (prepared surroundings request).2 = trace at hcourse
  unfold programOf
  cases hcourse with
  | untried hbuild hplatform hmake hcygwin =>
      have hother := Environment.isCygwin_eq_false_iff.mp hcygwin
      exact ⟨_, _, _, _, hbuild, hplatform, hmake, if_neg hother, rfl⟩
  | tried hbuild hplatform hmake hcygwin htrial =>
      have hostype := Environment.isCygwin_eq_true_iff.mp hcygwin
      refine ⟨_, _, _, _, hbuild, hplatform, hmake, ?_, rfl⟩
      rw [if_pos hostype, htrial.outcome_run {}]

/-- What a launch starts when it comes to start make, and what it ends with: the reply to that. -/
theorem prepared_invocation {surroundings : Surroundings} {request : Request}
    {invocation : Invocation} (h : (prepared surroundings request).1 = .ok invocation) :
    (∃ (build : Build) (platform : Platform) (make : Make), build.toRequest = request ∧
      surroundings.probe.platform = .ok platform ∧
      makeFor surroundings.site build platform = .ok make ∧
      programOf surroundings request make = .ok invocation.program) ∧
    invocation.arguments =
      [Bytes.ofText "-O", Bytes.ofText "-f", (request.root.join "core").join "build-local.mk"] ++
        (if analyzes request then [Bytes.ofText "APP_CFLAGS+=--analyze"] else []) ++
        request.arguments ∧
    invocation.cleared = ["PYTHONPATH", "PYTHONHOME"] ∧
    finished surroundings request =
      ((surroundings.runner (prepared surroundings request).2.calls ⟨.status, invocation⟩).mapError
        (.notStarted invocation.program.shown),
        { (prepared surroundings request).2 with
          calls := (prepared surroundings request).2.calls ++ [⟨.status, invocation⟩] }) := by
  obtain ⟨build, platform, make, program, hbuild, hplatform, hmake, hprogram, heq⟩ :=
    exists_build_of_prepared h
  refine ⟨⟨build, platform, make, hbuild, hplatform, hmake, ?_⟩, ?_, ?_, ?_⟩
  · rw [hprogram, heq]
    rfl
  · rw [heq, ← hbuild, ← analyze_settings]
    rfl
  · rw [heq]
    rfl
  · have hpair : prepared surroundings request =
        (.ok invocation, (prepared surroundings request).2) := Prod.ext h rfl
    have hfinished := finished_eq surroundings request
    rw [hpair] at hfinished
    exact hfinished

/-- A shell of Cygwin that has a make of another name, which stands its trial and then builds in
vain. -/
def cygwinShell : Surroundings where
  site := ⟨⟨(· = Bytes.ofText "/bin/gmake"), (· = Bytes.ofText "/bin/gmake")⟩, "/work", "/home"⟩
  probe := fun
    | .kernel => .ok "CYGWIN_NT-10.0\n"
    | .machine => .ok "x86_64"
  runner := Runner.scripted
    [.ok { stdout := "/cygdrive/c/gmake" }, .ok { stdout := "C:/ndk" }, .ok {}, .ok { code := 2 }]

/-- A request whose first assignment is a path, and whose last argument is no text. -/
def analyzingRequest : Request where
  root := "/ndk"
  directory := "/work"
  arguments := ["-C", "NDK_ANALYZE=0", "NDK_ANALYZE=true", [0xFF]]
  environment := { chosenMake := some "gmake", ostype := some "cygwin", searchPath := "/bin" }

theorem prepared_invocation_of_analyzingRequest :
    ∃ invocation, (prepared cygwinShell analyzingRequest).1 = .ok invocation ∧
      invocation.program = "/cygdrive/c/gmake" ∧
      invocation.arguments =
        [Bytes.ofText "-O", Bytes.ofText "-f", Bytes.ofText "/ndk/core/build-local.mk",
          Bytes.ofText "APP_CFLAGS+=--analyze", Bytes.ofText "-C", Bytes.ofText "NDK_ANALYZE=0",
          Bytes.ofText "NDK_ANALYZE=true", [0xFF]] ∧
      (finished cygwinShell analyzingRequest).1 = .ok { code := 2 } := by
  have h : (prepared cygwinShell analyzingRequest).1 =
      .ok ⟨"/cygdrive/c/gmake",
        ["-O", "-f", "/ndk/core/build-local.mk", "APP_CFLAGS+=--analyze", "-C", "NDK_ANALYZE=0",
          "NDK_ANALYZE=true", [0xFF]], ["PYTHONPATH", "PYTHONHOME"]⟩ := rfl
  obtain ⟨-, harguments, -, hfinished⟩ := prepared_invocation h
  refine ⟨_, h, rfl, harguments.trans ?_, ?_⟩
  · decide
  · rw [hfinished]
    rfl

end MakeLauncher.Launch
