import MakeLauncher.Proofs.Launch.Finding
import MakeLauncher.Proofs.Launch.Trial

/-! The course of a launch, from its request up to the start of make. A launch can go in six ways, by
where it ends; each way fixes the result and the whole trace: the log, the questions and the calls.
Main statements: every launch goes in one of these ways, and the whole launch is this course with one
call behind it when the course ends well. -/

namespace MakeLauncher

namespace Probe

def platform (probe : Probe) : Except Failure Platform := do
  let kernel ← probe .kernel
  let machine ← probe .machine
  Platform.ofNames kernel machine

/-- The questions that are put to a probe: the second only when the first is answered. -/
def asked (probe : Probe) : List Query :=
  match probe .kernel with
  | .ok _ => [.kernel, .machine]
  | .error _ => [.kernel]

/-- There is a platform when both questions are answered and the names are known. -/
theorem platform_eq_ok_iff {probe : Probe} {platform : Platform} :
    probe.platform = .ok platform ↔
      ∃ kernel machine, probe .kernel = .ok kernel ∧ probe .machine = .ok machine ∧
        Platform.ofNames kernel machine = .ok platform := by
  unfold Probe.platform
  cases probe .kernel with
  | error failure => simp [bind, Except.bind]
  | ok kernel => cases probe .machine <;> simp [bind, Except.bind]

theorem asked_of_platform_eq_ok {probe : Probe} {platform : Platform}
    (h : probe.platform = .ok platform) : probe.asked = [.kernel, .machine] := by
  obtain ⟨kernel, machine, hkernel, -⟩ := platform_eq_ok_iff.mp h
  rw [asked, hkernel]

end Probe

theorem Build.toRequest_injective {build other : Build}
    (h : build.toRequest = other.toRequest) : build = other :=
  Except.ok.inj ((ofRequest_eq_ok_iff.mpr h).symm.trans (ofRequest_eq_ok_iff.mpr rfl))

namespace Environment

theorem isCygwin_eq_true_iff {environment : Environment} :
    environment.isCygwin = true ↔ environment.ostype = some "cygwin" := by
  simp [isCygwin]

theorem isCygwin_eq_false_iff {environment : Environment} :
    environment.isCygwin = false ↔ environment.ostype ≠ some "cygwin" := by
  simp [isCygwin]

end Environment

namespace Launch

theorem outcome_detect (probe : Probe) (trace : Trace) :
    outcome (detect probe) trace =
      (probe.platform, { trace with queries := trace.queries ++ probe.asked }) := by
  unfold detect Probe.platform Probe.asked
  rw [outcome_bind, outcome_ask]
  cases probe .kernel with
  | error failure => rfl
  | ok kernel =>
      simp only [outcome_bind, outcome_ask]
      cases probe .machine with
      | error failure => simp [bind, Except.bind]
      | ok machine => simp [bind, Except.bind]

variable (surroundings : Surroundings) (request : Request)

/-- What a launch comes to before make is started, and its trace until then. -/
def prepared : Except Failure Invocation × Trace :=
  outcome (configure request >>= prepare surroundings) {}

def finished : Except Failure Reply × Trace :=
  outcome (configure request >>= run surroundings) {}

/-- There is one build, one platform and one make at most that a launch comes to. -/
theorem found_unique {surroundings : Surroundings} {request : Request} {build build' : Build}
    {platform platform' : Platform} {make make' : Make} (hbuild : build.toRequest = request)
    (hplatform : surroundings.probe.platform = .ok platform)
    (hmake : makeFor surroundings.site build platform = .ok make)
    (hbuild' : build'.toRequest = request)
    (hplatform' : surroundings.probe.platform = .ok platform')
    (hmake' : makeFor surroundings.site build' platform' = .ok make') :
    build = build' ∧ platform = platform' ∧ make = make' := by
  cases Except.ok.inj (hplatform.symm.trans hplatform')
  cases Build.toRequest_injective (hbuild.trans hbuild'.symm)
  exact ⟨rfl, rfl, Except.ok.inj (hmake.symm.trans hmake')⟩

/-- The entries that a launch writes before it asks about the host. -/
def opening : List Event :=
  Event.ofArguments (Argument.classify request.arguments) ++
    .root request.root :: Event.ofSettings request.settings

/-- The ways in which a launch can go up to the start of make: what it ends with and its trace. -/
inductive Course : Except Failure Invocation → Trace → Prop
  | rejected (hroot : request.root.hasWhiteSpace = true) :
      Course (.error (.whiteSpaceInRoot request.root)) {}
  | unknownHost {build : Build} {failure : Failure} (hbuild : build.toRequest = request)
      (hplatform : surroundings.probe.platform = .error failure) :
      Course (.error failure) { log := opening request, queries := surroundings.probe.asked }
  | withoutMake {build : Build} {platform : Platform} {failure : Failure}
      (hbuild : build.toRequest = request)
      (hplatform : surroundings.probe.platform = .ok platform)
      (hmake : makeFor surroundings.site build platform = .error failure) :
      Course (.error failure)
        { log := opening request ++ Event.ofPlatform platform ++
            missing surroundings.site build platform
          queries := [.kernel, .machine] }
  | untried {build : Build} {platform : Platform} {make : Make}
      (hbuild : build.toRequest = request)
      (hplatform : surroundings.probe.platform = .ok platform)
      (hmake : makeFor surroundings.site build platform = .ok make)
      (hcygwin : request.environment.isCygwin = false) :
      Course (.ok (build.invocation make.path))
        { log := opening request ++ Event.ofPlatform platform ++
            missing surroundings.site build platform ++ [.make make]
          queries := [.kernel, .machine] }
  | untrusted {build : Build} {platform : Platform} {make : Make} {failure : Failure}
      {calls : List Call} {events : List Event} (hbuild : build.toRequest = request)
      (hplatform : surroundings.probe.platform = .ok platform)
      (hmake : makeFor surroundings.site build platform = .ok make)
      (hcygwin : request.environment.isCygwin = true)
      (htrial : CygwinTrial.Goes surroundings.runner [] make.path request.root (.error failure)
        calls events) :
      Course (.error failure)
        { log := opening request ++ Event.ofPlatform platform ++
            missing surroundings.site build platform ++ [.make make] ++ events
          queries := [.kernel, .machine], calls }
  | tried {build : Build} {platform : Platform} {make : Make} {program : Bytes}
      {calls : List Call} {events : List Event} (hbuild : build.toRequest = request)
      (hplatform : surroundings.probe.platform = .ok platform)
      (hmake : makeFor surroundings.site build platform = .ok make)
      (hcygwin : request.environment.isCygwin = true)
      (htrial : CygwinTrial.Goes surroundings.runner [] make.path request.root (.ok program)
        calls events) :
      Course (.ok (build.invocation program))
        { log := opening request ++ Event.ofPlatform platform ++
            missing surroundings.site build platform ++ [.make make] ++ events
          queries := [.kernel, .machine], calls }

/-- Every launch goes in one of the ways. -/
theorem course_prepared :
    Course surroundings request (prepared surroundings request).1
      (prepared surroundings request).2 := by
  unfold prepared configure
  cases hroot : request.root.hasWhiteSpace with
  | true =>
      simp only [Build.ofRequest, hroot, Bool.true_eq_false, dif_neg, not_false_eq_true,
        outcome_bind, outcome_ofExcept]
      exact .rejected hroot
  | false =>
  obtain ⟨build, hbuild⟩ : ∃ build : Build, build.toRequest = request :=
    ⟨{ request with clean := hroot }, rfl⟩
  rw [(Build.ofRequest_eq_ok_iff).mpr hbuild]
  subst hbuild
  simp only [outcome_bind, outcome_ofExcept, outcome_noteAll, outcome_pure, prepare,
    outcome_detect, List.nil_append, Settings.read]
  cases hplatform : surroundings.probe.platform with
  | error failure => exact .unknownHost rfl hplatform
  | ok platform =>
  simp only [outcome_findMake, Probe.asked_of_platform_eq_ok hplatform]
  cases hmake : makeFor surroundings.site build platform with
  | error failure => exact .withoutMake rfl hplatform hmake
  | ok make =>
  simp only [outcome_note, program]
  cases hcygwin : build.environment.isCygwin with
  | false => exact .untried rfl hplatform hmake hcygwin
  | true =>
  simp only [if_true]
  obtain ⟨result, calls, events, hgoes⟩ :=
    CygwinTrial.exists_goes surroundings.runner [] make.path build.root
  rw [CygwinTrial.Goes.outcome_run _ hgoes]
  cases result with
  | error failure => exact .untrusted rfl hplatform hmake hcygwin hgoes
  | ok program => exact .tried rfl hplatform hmake hcygwin hgoes

/-- A launch that has come to an invocation starts it and ends with the reply; any other has ended
already. -/
theorem finished_eq :
    finished surroundings request =
      match prepared surroundings request with
      | (.ok invocation, trace) =>
          ((surroundings.runner trace.calls ⟨.status, invocation⟩).mapError
              (.notStarted invocation.program.shown),
            { trace with calls := trace.calls ++ [⟨.status, invocation⟩] })
      | (.error failure, trace) => (.error failure, trace) := by
  have hassoc : (configure request >>= run surroundings) =
      (configure request >>= prepare surroundings) >>= call surroundings.runner .status :=
    (bind_assoc _ _ _).symm
  unfold finished prepared
  rw [hassoc, outcome_bind]
  rcases outcome (configure request >>= prepare surroundings) {} with
    ⟨failure | invocation, trace⟩
  · rfl
  · exact outcome_call _ _ _ _

theorem log_finished :
    (finished surroundings request).2.log = (prepared surroundings request).2.log := by
  rw [finished_eq]
  rcases prepared surroundings request with ⟨failure | invocation, trace⟩ <;> rfl

variable {surroundings request}

/-- A launch that ends with a reply has come to an invocation, and started that last. -/
theorem exists_invocation_of_finished {reply : Reply}
    (h : (finished surroundings request).1 = .ok reply) :
    ∃ earlier invocation,
      (finished surroundings request).2.calls = earlier ++ [⟨.status, invocation⟩] ∧
      surroundings.runner earlier ⟨.status, invocation⟩ = .ok reply := by
  rw [finished_eq] at h ⊢
  generalize prepared surroundings request = reached at h ⊢
  obtain ⟨failure | invocation, trace⟩ := reached
  · cases h
  · refine ⟨trace.calls, invocation, rfl, ?_⟩
    dsimp only at h
    cases hreply : surroundings.runner trace.calls ⟨.status, invocation⟩ with
    | error cause =>
        rw [hreply] at h
        cases h
    | ok reply' =>
        rw [hreply] at h
        cases h
        rfl

end Launch
end MakeLauncher
