import MakeLauncher.Machine.Schedule

/-! How a machine completes the processes that are started on it from outside, one after the other. -/

namespace MakeLauncher.Machine

/-- The number of the process from which others are started. -/
def callerNumber : Nat := 4710

/-- The number of steps that processes may take between two calls. -/
def stepLimit : Nat := 100000000

/-- The signals that the system keeps for itself. -/
def reservedSignals : List Nat := [32, 33]

/-- A machine with a file tree and one process, from which others are started. -/
def ofTree (tree : FileTree) : Machine :=
  let caller : Process :=
    { parent := World.firstProcess, directory := FileTree.root, vars := [], streams := []
      ignored := reservedSignals }
  { world := { tree, processes := [(callerNumber, caller)], lastProcess := callerNumber } }

/-- The place of a directory, or the root if it is not there. -/
def placeOf (machine : Machine) (directory : Bytes) : Place :=
  ((machine.world.tree.place FileTree.root directory).toOption).getD FileTree.root

/-- The machine in which the process from which others are started runs now, in a directory and with
variables. -/
def withCaller (machine : Machine) (directory : Bytes) (vars : Variables) : Machine :=
  let directory := machine.placeOf directory
  { machine with
    world := { machine.world with current := callerNumber }.updateSelf fun caller =>
      { caller with directory, vars } }

/-- The completion of an invocation by a process in a directory with variables. It is complete when the
process has ended and no other one can print where it does. -/
def complete (directory : Bytes) (vars : Variables) (machine : Machine) (invocation : Invocation) :
    Except IoFailure Completion × Machine :=
  if invocation.program.contains 0 || invocation.arguments.any (·.contains 0) then
    (.error .zeroInArgument, machine)
  else
    let world := (machine.withCaller directory vars).world
    match world.choose invocation with
    | .error errno => (.error (.refused errno), machine)
    | .ok call =>
        let (world, input) := world.hold (.device .sink)
        let (world, out) := world.hold (.collector [])
        let (world, err) := world.hold (.collector [])
        let process := { world.self with
          parent := callerNumber, streams := [(0, input), (1, out), (2, err)] }
        let (world, number) := world.addProcess process
        let refused (_ : Errno) (world : World) : Routine (Empty × World) :=
          .exit (WaitStatus.ofExit 127) world
        let start := { machine with world }.settle number
          (.exec call { world with current := number } refused)
        let isCollected (world : World) : Bool :=
          world.processes.any fun (_, process) =>
            process.streams.any fun (_, file) => file = out || file = err
        let isOver (world : World) : Bool := !world.isRunning number && !isCollected world
        let machine : Machine := start.runUntil isOver stepLimit
        let status := ((machine.world.process? number).bind (·.ending?)).getD (WaitStatus.ofExit 0)
        let content (file : Nat) : Bytes :=
          match machine.world.opened[file]? with
          | some (.collector content) => content
          | _ => []
        (.ok { status, printed := ⟨content out, content err⟩ },
          { machine with world := machine.world.forget number })

/-- The operating system of a machine. -/
def system : System Machine where
  files machine := machine.world.tree.files
  locate machine directory path := machine.world.tree.locate (machine.placeOf directory) path
  accountHome := World.accountHome
  start := complete

/-- The run of a command line. Its executable is searched as the program of a process is that has the
directory and the variables of the run. Another program than the launcher runs as it does elsewhere. -/
def run (machine : Machine) (line : CommandLine) : Except IoFailure Finish := do
  let caller := machine.withCaller line.directory line.vars
  let name := line.executable
  let loaded ← ((caller.world.search false name line.arguments line.vars).bind
    caller.world.loadCall).mapError .refused
  if loaded.utility = Utility.launcher && loaded.words = name :: line.arguments then
    let executable := (caller.world.tree.pathOfArrival? loaded.file).getD name
    let world := caller.world.updateSelf fun process => { process with program? := some loaded.file }
    return { line with executable }.run system { caller with world }
  else
    let invocation : Invocation := { program := name, arguments := line.arguments }
    let completion ← (complete line.directory line.vars machine invocation).1
    return { code := exitByte completion.status.exitCode, printed := completion.printed }

end MakeLauncher.Machine
