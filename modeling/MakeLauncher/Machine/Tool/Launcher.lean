import MakeLauncher.CommandLine
import MakeLauncher.Launch.Demand
import MakeLauncher.Machine.Load
import MakeLauncher.Machine.Tool.Basic

/-! The launcher as a program of a machine. Its launch is taken step by step: what it writes into the
log is printed as it comes, and the processes that it needs are started by the system. -/

namespace MakeLauncher.Machine

namespace Activity

/-- Lead a stream that no other program gets to an open file. The result is its number. -/
def hide (file : Nat) : Activity Nat := do
  let stream := (← get).freeStream Process.hiddenStream
  setStream stream (some file)
  return stream

/-- Make a pipe. The result is the streams that lead to its ends, the one to read from first. -/
def openPipe : Activity (Nat × Nat) := do
  let (reader, writer) ← holdPipe []
  return (← hide reader, ← hide writer)

def closeInput : Activity Unit := do
  let (world, file) := (← get).hold (.device .sink)
  set world
  setStream 0 (some file)

/-- Start a process, which runs a program. The result is its number. -/
def start (call : ProgramCall) (prepare : Activity Unit) : Activity Nat := do
  match ← forkForProgram with
  | .parent child => return child
  | .child => do
      prepare
      let _ ← exec call
      exit (WaitStatus.ofExit 127)

/-- Read two streams up to their ends, each as far as it has come. The bound is on the number of
portions. -/
def drainBoth (first second : Nat) : Nat → Bytes → Bytes → Bool → Bool → Activity (Bytes × Bytes)
  | 0, one, other, _, _ => return (one, other)
  | _, one, other, true, true => return (one, other)
  | bound + 1, one, other, firstEnded, secondEnded => do
      let canRead (world : World) (stream : Nat) (ended : Bool) : Bool :=
        !ended && (world.stream? stream).all world.canRead
      let ready (world : World) : Bool :=
        canRead world first firstEnded || canRead world second secondEnded
      await ready
      if canRead (← get) first firstEnded then
        let bytes := ((← read first portion).toOption).getD []
        drainBoth first second bound (one ++ bytes) other bytes.isEmpty secondEnded
      else if canRead (← get) second secondEnded then
        let bytes := ((← read second portion).toOption).getD []
        drainBoth first second bound one (other ++ bytes) firstEnded bytes.isEmpty
      else drainBoth first second bound one other firstEnded secondEnded

/-- Start a process as an invocation asks for and wait for its end. What it prints is kept if the caller
is to read it, and otherwise printed where the caller prints. -/
def complete (kind : CallKind) (invocation : Invocation) :
    Activity (Except IoFailure Completion) := do
  let restored (process : Process) : Process :=
    { process with ignored := process.ignored.filter (· ≠ World.pipeSignal) }
  match (← get).choose invocation with
  | .error errno => return .error (.refused errno)
  | .ok call =>
      match kind with
      | .status => do
          let child ← start call (modify (·.updateSelf restored))
          return .ok { status := ← waitFor child }
      | .output => do
          let (outReader, outWriter) ← openPipe
          let (errReader, errWriter) ← openPipe
          let child ← start call do
            modify (·.updateSelf restored)
            closeInput
            setStream 1 ((← get).stream? outWriter)
            setStream 2 ((← get).stream? errWriter)
            for stream in [outReader, outWriter, errReader, errWriter] do
              setStream stream none
          setStream outWriter none
          setStream errWriter none
          let (stdout, stderr) ← drainBoth outReader errReader portionLimit [] [] false false
          setStream outReader none
          setStream errReader none
          return .ok { status := ← waitFor child, printed := { stdout, stderr } }

end Activity

namespace Tool

/-- What a run of the launcher knows from step to step. -/
structure LaunchState where
  answers : Answers := {}
  /-- The files as they are when the host has said what it is. -/
  files : Files
  console : Console
  /-- The number of entries of the log that the console has got. -/
  written : Nat := 0

def launchLimit : Nat := 16

/-- Take a launch on from where it has got to, up to its end. -/
def takeLaunch (line : CommandLine) (directory : Bytes) (home : Bytes) :
    Nat → LaunchState → Activity Nat
  | 0, _ => return 1
  | bound + 1, state => do
      let site : Site := ⟨state.files, directory, home⟩
      let launch (probe : Probe) (runner : Runner) : Launch Reply :=
        line.launchIn directory (.ok line.executable) ⟨site, probe, runner⟩
      let (demand, log) := Launch.demand launch state.answers
      let console := state.console.writeAll (log.drop state.written)
      for text in console.lines.drop state.console.lines.length do
        let _ ← Activity.write 1 (Bytes.ofText (text ++ "\n"))
      let state := { state with console, written := log.length }
      match demand with
      | .query query => do
          let answer := query.answer (← Activity.complete .output query.invocation)
          let queries := state.answers.queries ++ [(query, answer)]
          takeLaunch line directory home bound
            { state with
              answers := { state.answers with queries }
              files := (← get).tree.files }
      | .call call => do
          let reply := (← Activity.complete call.kind call.invocation).map (·.reply call.kind)
          let replies := state.answers.replies ++ [reply]
          takeLaunch line directory home bound
            { state with answers := { state.answers with replies } }
      | .nothing (.ok reply) => return exitByte reply.code
      | .nothing (.error failure) => do
          let _ ← Activity.write 2 (Bytes.ofText failure.report)
          return exitByte failure.exitCode

/-- The launcher. Its executable is the file that holds it, with all links followed. -/
def launcher : Tool := fun name arguments => do
  let world ← get
  let process := world.self
  let executable := (process.program? >>= world.tree.pathOfArrival?).getD name
  let directory := (world.tree.pathOf? process.directory).getD [Bytes.slash]
  let line : CommandLine := { executable, directory, arguments, vars := process.vars }
  modify (·.updateSelf fun process =>
    { process with ignored := World.pipeSignal :: process.ignored })
  takeLaunch line directory (process.vars.home World.accountHome) launchLimit
    { files := world.tree.files, console := line.console }

end Tool
end MakeLauncher.Machine
