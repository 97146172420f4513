import MakeLauncher.Launch.Basic
import MakeLauncher.System.WaitStatus
import MakeLauncher.Text.WhiteSpace

/-! Processes as the operating system runs them, and what a launch makes of them: the replies to its
calls, and the answers to its questions about the host, which the program `uname` gives. A process
may change the world that the ones behind it find. -/

namespace MakeLauncher

structure Completion where
  status : WaitStatus
  printed : Streams := {}
  deriving DecidableEq, Repr

/-- What comes of starting a process in a world. -/
abbrev Starter (World : Type) := World → Invocation → Except IoFailure Completion × World

/-- What a launch learns from a completion. The text that it reads is shown and trimmed, and of a
process whose output it reads nothing else is seen. -/
def Completion.reply (completion : Completion) : CallKind → Reply
  | .output =>
      { code := completion.status.exitCode, stdout := trim completion.printed.stdout.shown }
  | .status => { code := completion.status.exitCode, printed := completion.printed }

/-- The world that processes leave, which run one behind the other. -/
def Starter.after {World : Type} (start : Starter World) (world : World) : List Invocation → World :=
  List.foldl (fun world invocation => (start world invocation).2) world

def Runner.ofStarter {World : Type} (start : Starter World) (world : World) : Runner :=
  fun earlier call =>
    let world := start.after world (earlier.map (·.invocation))
    (start world call.invocation).1.map (·.reply call.kind)

/-- The flag that puts a question to `uname`. -/
def Query.flag : Query → String
  | .kernel => "-s"
  | .machine => "-m"

def Query.invocation (query : Query) : Invocation where
  program := "uname"
  arguments := [query.flag]

/-- The questions that a launch asks before a question. -/
def Query.earlier : Query → List Query
  | .kernel => []
  | .machine => [.kernel]

/-- The world in which the program `uname` has answered questions. -/
def Starter.afterQueries {World : Type} (start : Starter World) (world : World)
    (queries : List Query) : World :=
  start.after world (queries.map Query.invocation)

/-- The answer to a question that the process which answers it has given. -/
def Query.answer (query : Query) : Except IoFailure Completion → Except Failure String
  | .error cause => .error (.unknownHost query.subject cause.message)
  | .ok completion =>
      if completion.status.isClear then .ok (trim completion.printed.stdout.shown)
      else
        .error (.unknownHost query.subject
          ("uname " ++ query.flag ++ " exited with " ++ completion.status.description))

def Probe.uname {World : Type} (start : Starter World) (world : World) : Probe := fun query =>
  query.answer (start (start.afterQueries world query.earlier) query.invocation).1

end MakeLauncher
