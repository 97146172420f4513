import MakeLauncher.CommandLine
import MakeLauncher.Proofs.Launch.Configuration
import MakeLauncher.Proofs.Launch.Log
import MakeLauncher.Proofs.Subscriber
import MakeLauncher.Proofs.WaitStatus

/-! A run of the launcher as those around it see it: what it prints on the two streams and the exit code
that it leaves. The arguments are read twice in a run, and either reading may write a warning: the first
is before there is a subscriber, which it is made for, the second is in the launch. Main statement: the
run prints its log, or the warnings of it, with what the build prints behind it; it warns once at most;
it reports a failure, and nothing else, on the stream of errors; and its exit code is that of the build
or 1. -/

namespace MakeLauncher

theorem Runner.ofStarter_eq_ok_iff {World : Type} {start : Starter World} {world : World}
    {earlier : List Call} {call : Call} {reply : Reply} :
    Runner.ofStarter start world earlier call = .ok reply ↔
      ∃ completion,
        (start (start.after world (earlier.map (·.invocation))) call.invocation).1 =
          .ok completion ∧ completion.reply call.kind = reply := by
  unfold Runner.ofStarter
  dsimp only
  cases (start (start.after world (earlier.map (·.invocation))) call.invocation).1 with
  | error cause => simp [Except.map]
  | ok completion => simp [Except.map]

namespace Failure

theorem isSome_remedy?_iff {failure : Failure} :
    failure.remedy?.isSome = true ↔
      (∃ name, failure = .invalidOverride name) ∨ failure = .noMake ∨
        ∃ make, failure = .incompatibleMake make := by
  cases failure <;> simp [remedy?]

theorem report_eq (failure : Failure) :
    failure.report =
      "ERROR: " ++ failure.message ++ failure.cause?.elim "" (": " ++ ·) ++ "\n" ++
        failure.remedy?.elim "" (· ++ "\n") := by
  unfold report
  cases failure.cause? <;> cases failure.remedy? <;> rfl

theorem ofText_report_ne_nil (failure : Failure) : Bytes.ofText failure.report ≠ [] := by
  rw [report_eq, String.append_assoc, String.append_assoc, String.append_assoc, Bytes.ofText_append]
  exact List.append_ne_nil_of_left_ne_nil (by decide) _

end Failure

namespace CommandLine

/-- The entries of a log that a run shows: all of them when the last assignment to the switch of the
log says so that is not the path of a flag, or without one the environment; otherwise the warnings. -/
def shown (line : CommandLine) (log : List Event) : List Event :=
  if (Argument.lastFree Assignment.log? line.arguments).getD
      (decide (line.vars.text? "NDK_LOG" ∈ [some "1", some "true"])) then log
  else log.filter (·.level = .warn)

variable {World : Type} (system : System World) (world : World) (line : CommandLine)

def root : Except Failure Bytes :=
  rootOfLauncher line.executable
    (system.locate world (line.workingDirectory system world) line.executable)

def request (root : Bytes) : Request :=
  ⟨root, line.workingDirectory system world, line.arguments, line.environment⟩

/-- A run whose installation is found, and is one that make can work in, but whose arguments end in a
flag without its path. -/
def Warns : Prop :=
  (∃ root, line.root system world = .ok root ∧ checkRoot root = .ok ()) ∧
    Argument.EndsOpen line.arguments

/-- The world in which a run starts its processes: the host has said what it is. -/
def worldOfCalls : World := (line.starter system world).afterQueries world [.kernel, .machine]

theorem outcome_launch :
    Launch.outcome (line.launch system world) {} =
      match line.root system world with
      | .error failure => (.error failure, {})
      | .ok root =>
          Launch.finished (line.surroundings system world) (line.request system world root) := by
  unfold launch launchIn
  rw [Launch.outcome_bind, Launch.outcome_ofExcept]
  unfold root
  cases rootOfLauncher line.executable
    (system.locate world (line.workingDirectory system world) line.executable) <;> rfl

theorem reading_eq : line.reading =
    (line.environment.seed.withArguments line.arguments,
      if Argument.EndsOpen line.arguments then [.danglingFlag] else []) := by
  unfold reading Settings.read Event.ofArguments
  rw [Argument.awaitsPath_classify]
  simp only [decide_eq_true_eq]

theorem verbose_reading : line.reading.1.verbose =
    (Argument.lastFree Assignment.log? line.arguments).getD
      (decide (line.vars.text? "NDK_LOG" ∈ [some "1", some "true"])) := by
  rw [reading_eq, Settings.verbose_withArguments]
  unfold Environment.seed
  rw [any_isOn]
  rfl

theorem lines_console : line.console.lines = [] :=
  congrArg Console.lines (Console.writeAll_of_none rfl line.reading.2)

/-- The console shows the log of the launch, and of the reading before it nothing. -/
theorem lines_writeAll_console (log : List Event) :
    (line.console.writeAll log).lines = (line.shown log).map line.subscriber.line := by
  unfold console
  rw [Console.lines_writeAll_install]
  unfold subscriber
  rw [Subscriber.filter_takes_ofRun, verbose_reading]
  rfl

/-- A warning is shown whether or not the rest of the log is. -/
theorem count_danglingFlag_shown (log : List Event) :
    (line.shown log).count .danglingFlag = log.count .danglingFlag := by
  unfold shown
  split
  · rfl
  · exact List.count_filter (by decide)

theorem count_danglingFlag_launch :
    (line.Warns system world →
      (Launch.outcome (line.launch system world) {}).2.log.count .danglingFlag = 1) ∧
    (¬line.Warns system world →
      (Launch.outcome (line.launch system world) {}).2.log.count .danglingFlag = 0) := by
  unfold Warns
  rw [outcome_launch]
  cases hroot : line.root system world with
  | error failure => simp
  | ok root =>
      dsimp only
      rw [Launch.count_danglingFlag_finished]
      simp only [Except.ok.injEq, exists_eq_left', checkRoot_eq_ok_iff]
      exact ⟨fun h => if_pos h, fun h => if_neg h⟩

/-- The build of a run that comes to a reply was started last, and the reply is made of what it left. -/
theorem exists_completion_of_launch {reply : Reply}
    (h : (Launch.outcome (line.launch system world) {}).1 = .ok reply) :
    ∃ earlier invocation completion,
      (Launch.outcome (line.launch system world) {}).2.calls =
        earlier ++ [⟨.status, invocation⟩] ∧
      (line.starter system world
        ((line.starter system world).after (line.worldOfCalls system world)
          (earlier.map (·.invocation))) invocation).1 = .ok completion ∧
      completion.reply .status = reply := by
  rw [outcome_launch] at h ⊢
  cases hroot : line.root system world with
  | error failure => simp [hroot] at h
  | ok root =>
      rw [hroot] at h
      obtain ⟨earlier, invocation, hcalls, hreply⟩ := Launch.exists_invocation_of_finished h
      obtain ⟨completion, hstart, hcompletion⟩ := Runner.ofStarter_eq_ok_iff.mp hreply
      exact ⟨earlier, invocation, completion, hcalls, hstart, hcompletion⟩

theorem run_of_error {failure : Failure} {trace : Trace}
    (h : Launch.outcome (line.launch system world) {} = (.error failure, trace)) :
    line.run system world =
      { code := 1
        printed :=
          { stdout := printedLines ((line.shown trace.log).map line.subscriber.line)
            stderr := Bytes.ofText failure.report } } := by
  unfold run
  rw [h, ← lines_writeAll_console]
  rfl

theorem run_of_ok {reply : Reply} {trace : Trace}
    (h : Launch.outcome (line.launch system world) {} = (.ok reply, trace)) :
    line.run system world =
      { code := exitByte reply.code
        printed :=
          { stdout :=
              printedLines ((line.shown trace.log).map line.subscriber.line) ++ reply.printed.stdout
            stderr := reply.printed.stderr } } := by
  unfold run
  rw [h, ← lines_writeAll_console]

/-- Were the subscriber there from the start, a run that warns would warn twice. -/
theorem count_of_early_subscriber (h : line.Warns system world) :
    (((Console.install {} line.subscriber).writeAll
        (line.reading.2 ++ (Launch.outcome (line.launch system world) {}).2.log)).lines).count
      (line.subscriber.line .danglingFlag) = 2 := by
  have hlaunch := (line.count_danglingFlag_launch system world).1 h
  rw [Console.lines_writeAll rfl, Console.install, List.nil_append,
    Subscriber.count_line_danglingFlag, List.count_filter line.subscriber.takes_danglingFlag, List.count_append, hlaunch,
    reading_eq, if_pos h.2]
  rfl

/-- What a run leaves: on either stream what it prints itself and then what the build prints. The first
is the log, or its warnings where the whole log is not asked for. Both readings of the arguments write
the warning of a flag without its path; the first prints nothing, and so there is one line that warns or
none. The second stream is nothing but the report of a failure. The exit code is that of the build,
which a run that does not fail has started last, or 1. -/
theorem run_leaves (system : System World) (world : World) (line : CommandLine) :
    ∃ (result : Except Failure Reply) (trace : Trace) (lines : List String) (report : Bytes)
      (build : Streams),
      Launch.outcome (line.launch system world) {} = (result, trace) ∧
      (line.run system world).printed =
        { stdout := printedLines lines ++ build.stdout
          stderr := report ++ build.stderr } ∧
      lines = (line.shown trace.log).map line.subscriber.line ∧
      line.reading.2 = (if Argument.EndsOpen line.arguments then [.danglingFlag] else []) ∧
      line.console.lines = [] ∧
      (line.Warns system world → lines.count (line.subscriber.line .danglingFlag) = 1) ∧
      (¬line.Warns system world → lines.count (line.subscriber.line .danglingFlag) = 0) ∧
      (report ≠ [] ↔ ∃ failure, result = .error failure) ∧
      (∀ failure, result = .error failure →
        (line.run system world).code = 1 ∧ build = {} ∧
        report = Bytes.ofText ("ERROR: " ++ failure.message ++
          failure.cause?.elim "" (": " ++ ·) ++ "\n" ++ failure.remedy?.elim "" (· ++ "\n")) ∧
        (failure.remedy?.isSome = true ↔
          (∃ name, failure = .invalidOverride name) ∨ failure = .noMake ∨
            ∃ make, failure = .incompatibleMake make)) ∧
      ∀ reply, result = .ok reply →
        ∃ (earlier : List Call) (invocation : Invocation) (completion : Completion),
          trace.calls = earlier ++ [⟨.status, invocation⟩] ∧
          (line.starter system world
            ((line.starter system world).after (line.worldOfCalls system world)
              (earlier.map (·.invocation))) invocation).1 = .ok completion ∧
          build = completion.printed ∧
          ((line.run system world).code : Int) = completion.status.exitCode := by
  obtain ⟨hwarns, hsilent⟩ := line.count_danglingFlag_launch system world
  have hcompletion := @exists_completion_of_launch _ system world line
  have hread : line.reading.2 = if Argument.EndsOpen line.arguments then [.danglingFlag] else [] :=
    congrArg Prod.snd line.reading_eq
  have hcount (log : List Event) :
      ((line.shown log).map line.subscriber.line).count (line.subscriber.line .danglingFlag) =
        log.count .danglingFlag := by
    rw [Subscriber.count_line_danglingFlag, count_danglingFlag_shown]
  rcases hlaunch : Launch.outcome (line.launch system world) {} with ⟨failure | reply, trace⟩
  · rw [hlaunch, ← hcount] at hwarns hsilent
    have hrun := line.run_of_error system world hlaunch
    refine ⟨_, trace, _, Bytes.ofText failure.report, {}, rfl, ?_, rfl, hread, line.lines_console,
      hwarns, hsilent, ?_, ?_, nofun⟩
    · rw [hrun, List.append_nil, List.append_nil]
    · exact ⟨fun _ => ⟨failure, rfl⟩, fun _ => failure.ofText_report_ne_nil⟩
    · rintro _ ⟨⟩
      rw [hrun, failure.report_eq]
      exact ⟨rfl, rfl, rfl, Failure.isSome_remedy?_iff⟩
  · rw [hlaunch] at hcompletion
    rw [hlaunch, ← hcount] at hwarns hsilent
    have hrun := line.run_of_ok system world hlaunch
    refine ⟨_, trace, _, [], reply.printed, rfl, ?_, rfl, hread, line.lines_console, hwarns,
      hsilent, ?_, nofun, ?_⟩
    · rw [hrun, List.nil_append]
    · simp
    · rintro _ ⟨⟩
      obtain ⟨earlier, invocation, completion, hcalls, hstart, rfl⟩ := hcompletion rfl
      refine ⟨earlier, invocation, completion, hcalls, hstart, rfl, ?_⟩
      rw [hrun]
      exact exitByte_exitCode completion.status

/-- A system that starts no process. -/
def bareSystem : System Unit where
  files _ := ⟨fun _ => false, fun _ => false⟩
  locate _ _ path := .ok path
  accountHome := "/root"
  start _ _ world _ := (.error (.refused .noEntry), world)

example :
    (run bareSystem () ⟨"/ndk/ndk-build", "/work", ["-C"], []⟩).printed.stdout =
      "\x1b[33m WARN\x1b[0m ignoring trailing -C with no project path\n" ∧
    (run bareSystem () ⟨"/ndk/ndk-build", "/work", ["-C"], [("NO_COLOR", "1")]⟩).printed.stdout =
      " WARN ignoring trailing -C with no project path\n" := by decide

end CommandLine
end MakeLauncher
