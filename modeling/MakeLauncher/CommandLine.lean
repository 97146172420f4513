import MakeLauncher.Launch.Run
import MakeLauncher.Subscriber
import MakeLauncher.System.Completion

/-! The launcher as a program: it reads its arguments to know how much of the log is to be printed, finds
the installation it belongs to, runs the launch, which reads them again, and reports a failure. -/

namespace MakeLauncher

/-- What the operating system does for a process, by the directory and the variables of the process,
in a world that processes may change. -/
structure System (World : Type) where
  files : World → Files
  /-- The path of a file with all links followed, seen from a directory. -/
  locate : World → Bytes → Bytes → Except IoFailure Bytes
  /-- The home that the user's account has. -/
  accountHome : Bytes
  start : Bytes → Variables → Starter World

/-- A run of the launcher. -/
structure CommandLine where
  executable : Bytes
  directory : Bytes
  arguments : List Bytes
  vars : Variables
  deriving DecidableEq, Repr

namespace CommandLine

variable {World : Type} (system : System World) (world : World) (line : CommandLine)

def environment : Environment := Environment.capture line.vars

/-- The first reading of the arguments, by which it is known how much of the log is printed. -/
def reading : Settings × List Event := line.environment.seed.read line.arguments

def subscriber : Subscriber := .ofRun line.reading.1.verbose line.vars

/-- The console that the launch finds. What the first reading writes is written before the subscriber is
there. -/
def console : Console := (Console.writeAll {} line.reading.2).install line.subscriber

/-- The directory of the run as the system tells it, with all links followed. -/
def workingDirectory : Bytes :=
  (system.locate world [Bytes.slash] line.directory).toOption.getD line.directory

/-- The way in which the run starts processes. -/
def starter : Starter World := system.start (line.workingDirectory system world) line.vars

/-- The surroundings of the run. Make is looked for when the host has said what it is. -/
def surroundings : Surroundings :=
  let start := line.starter system world
  let asked := start.afterQueries world [.kernel, .machine]
  { site := ⟨system.files asked, line.workingDirectory system world,
      line.vars.home system.accountHome⟩
    probe := Probe.uname start world
    runner := Runner.ofStarter start asked }

/-- The launch of the run in a directory and in some surroundings, when the path of the executable with
all links followed is known. The installation is found before the request is looked at. -/
def launchIn (directory : Bytes) (located : Except IoFailure Bytes) (surroundings : Surroundings) :
    Launch Reply := do
  let root ← Launch.ofExcept (rootOfLauncher line.executable located)
  let build ← Launch.configure ⟨root, directory, line.arguments, line.environment⟩
  Launch.run surroundings build

def launch : Launch Reply :=
  let directory := line.workingDirectory system world
  line.launchIn directory (system.locate world directory line.executable)
    (line.surroundings system world)

end CommandLine

/-- What a run of the launcher leaves. -/
structure Finish where
  code : Nat
  printed : Streams
  deriving DecidableEq, Repr

/-- The eight bits of an exit code that the system keeps. -/
def exitByte (code : Int) : Nat := (code % 256).toNat

namespace CommandLine

variable {World : Type} (system : System World) (world : World) (line : CommandLine)

/-- The whole run. The build starts when the log is complete, and prints behind it. -/
def run : Finish :=
  let (result, trace) := (line.launch system world).outcome {}
  let log := printedLines (line.console.writeAll trace.log).lines
  match result with
  | .ok reply =>
      { code := exitByte reply.code
        printed := { stdout := log ++ reply.printed.stdout, stderr := reply.printed.stderr } }
  | .error failure =>
      { code := exitByte failure.exitCode
        printed := { stdout := log, stderr := Bytes.ofText failure.report } }

end CommandLine
end MakeLauncher
