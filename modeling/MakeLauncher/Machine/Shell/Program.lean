import MakeLauncher.Machine.Shell.Run

/-! The shell as a program: it takes options and a script, which is an argument, a file or the standard
input, and runs it to the end. -/

namespace MakeLauncher.Shell

open Bytes (ascii)
open Numeral (decimal)
open Machine (Activity Routine World)

/-- A number of steps that is enough for the scripts that end. -/
def stepLimit : Nat := 1000000

/-- Names of variables that a shell sets when it starts, with their values. -/
def startVariables : List (String × Bytes) :=
  [("PATH", "/usr/local/sbin:/usr/local/bin:/usr/sbin:/usr/bin:/sbin:/bin"), ("IFS", " \t\n"),
    ("OPTIND", "1"), ("PS1", "# "), ("PS2", "> "), ("PS4", "+ ")]

/-- The state of a shell that starts as the process that runs now, under a name. It takes over the
variables of the process whose names it can use, and tells the directory as `PWD` does if that is
right. Signals that do nothing to the process go on doing nothing. -/
def State.start (world : World) (name : Bytes) : State :=
  let process := world.self
  let inherited := process.vars.filter fun entry => isName (Bytes.ofText entry.1)
  let told := (process.vars.lookup "PWD").getD []
  let isRight := told.isAbsolute && (world.place told).toOption = some process.directory
  let shown := if isRight then told else (world.tree.pathOf? process.directory).getD []
  let parent : String × Bytes := ("PPID", decimal process.parent)
  let own := (parent :: startVariables).filter fun entry =>
    !inherited.any fun other => other.1 = entry.1
  let ifs : Variable := { value? := some " \t\n" }
  let vars :=
    inherited.map (fun (name, value) => (name, { value? := some value, exported := true })) ++
      own.map fun (name, value) => (name, { value? := some value })
  let state : State :=
    { world, mainNumber := world.current, name, vars, shownDirectory := shown
      deaf := process.ignored }
  (state.put "IFS" ifs).put "PWD" { value? := some shown, exported := true }

/-- What a shell does with the arguments that it is started with. -/
def Session.main (arguments : List Bytes) : Session Nat := do
  let { words, isCommand, .. } ← applyOptions true arguments
  let runWith (context : Context) (source : Source) (words : List Bytes) : Session Nat := do
    match words with
    | name :: arguments => modify fun state => { state with name, arguments }
    | [] => pure ()
    runText stepLimit context source 0
  if isCommand then
    match words with
    | [] => fail ["-c requires an argument"]
    | script :: words => runWith { last := true } { rest := script.filter (· ≠ 0) } words
  else if (← get).has 's' || words.isEmpty then
    setOption true 's'
    modify fun state => { state with arguments := words }
    runWith {} { rest := [], stream? := some stdin } []
  else
    let stream ← openScript (words.headD [])
    runWith {} { rest := [], stream? := some stream } words

/-- Runs a shell under a name. -/
def program (name : Bytes) (arguments : List Bytes) : Activity Nat := do
  let state := State.start (← get) name
  let (_, state) ← ((conclude stepLimit (Session.main arguments)).run.run state :
    Routine (Except Stop Nat × State))
  set state.world
  return state.status

end MakeLauncher.Shell
