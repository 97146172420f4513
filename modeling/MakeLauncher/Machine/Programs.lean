import MakeLauncher.Machine.Condition
import MakeLauncher.Machine.Shell.Program
import MakeLauncher.Machine.Tool.Calls
import MakeLauncher.Machine.Tool.Files
import MakeLauncher.Machine.Tool.Launcher
import MakeLauncher.Machine.Tool.Make
import MakeLauncher.Machine.Tool.Print
import MakeLauncher.Machine.Tool.Search
import MakeLauncher.Machine.Tool.Text

/-! What each program in the form of the system does. -/

namespace MakeLauncher.Machine

open Bytes (ascii)

namespace Tool

/-- Evaluates a condition, which ends with a bracket if it begins with one. -/
def test (bracketed : Bool) : Tool := fun name arguments => do
  if bracketed && arguments.getLast? ≠ some (Bytes.ofText "]") then
    refuse [name, ": missing ']'"] 2
  else
    let words := if bracketed then arguments.dropLast else arguments
    match Condition.outcome (← get) words with
    | .ok outcome => return if outcome then 0 else 1
    | .error complaint => refuse [name, ": ", complaint] 2

end Tool

def tools : List (String × Tool) :=
  [("launcher", Tool.launcher), ("sh", Shell.program), ("[", Tool.test true),
    ("arch", Tool.arch), ("basename", Tool.basename), ("cat", Tool.cat), ("chmod", Tool.chmod),
    ("cmp", Tool.cmp), ("cp", Tool.cp), ("cut", Tool.cut), ("dirname", Tool.dirname),
    ("echo", Tool.echo), ("egrep", Tool.grepWith "-E"), ("env", Tool.env), ("expr", Tool.expr),
    ("false", fun _ _ => return 1), ("fgrep", Tool.grepWith "-F"), ("fold", Tool.fold),
    ("grep", Tool.grep), ("head", Tool.head), ("id", Tool.id), ("link", Tool.link),
    ("ln", Tool.ln), ("ls", Tool.ls), ("make", Tool.make), ("mkdir", Tool.mkdir),
    ("mv", Tool.mv), ("nice", Tool.nice), ("nl", Tool.nl), ("nohup", Tool.nohup),
    ("paste", Tool.paste), ("printenv", Tool.printenv), ("printf", Tool.printf),
    ("pwd", Tool.pwd), ("readlink", Tool.readlink), ("realpath", Tool.realpath),
    ("rev", Tool.rev), ("rm", Tool.rm), ("rmdir", Tool.rmdir), ("seq", Tool.seq),
    ("setsid", Tool.setsid), ("sleep", Tool.sleep), ("sort", Tool.sort), ("stat", Tool.stat),
    ("stdbuf", Tool.stdbuf), ("sync", fun _ _ => return 0), ("tac", Tool.tac),
    ("tail", Tool.tail), ("tee", Tool.tee), ("test", Tool.test false), ("timeout", Tool.timeout),
    ("touch", Tool.touch), ("tr", Tool.tr), ("true", fun _ _ => return 0), ("tty", Tool.tty),
    ("uname", Tool.uname), ("uniq", Tool.uniq), ("unlink", Tool.unlink), ("wc", Tool.wc),
    ("which", Tool.which), ("whoami", Tool.whoami), ("xargs", Tool.xargs), ("yes", Tool.yes)]

def toolOf (utility : Utility) : Tool :=
  (tools.lookup utility.name).getD fun _ _ => return 127

def Loaded.run (loaded : Loaded) : Activity Empty := do
  let code ← toolOf loaded.utility (loaded.words.headD []) loaded.words.tail
  Activity.exit (WaitStatus.ofExit code)

end MakeLauncher.Machine
