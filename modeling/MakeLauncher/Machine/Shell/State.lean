import MakeLauncher.Machine.Numeral
import MakeLauncher.Machine.Routine
import MakeLauncher.Machine.Shell.Command

/-! What a running shell has at hand: its variables, arguments, functions, options and traps, and the
ways in which a command can leave off. A shell is a process: its directory, its streams and its signals
are in the world, which it shares with the others. -/

namespace MakeLauncher.Shell

open Bytes (ascii)
open Numeral (decimal)
open Machine (Activity Routine World)

/-- A variable of a shell. It may be marked without having a value. -/
structure Variable where
  value? : Option Bytes
  exported : Bool := false
  fixed : Bool := false
  deriving DecidableEq, Repr

/-- A command in the background, by a number of its own. -/
structure Job where
  number : Nat
  processes : List Nat
  /-- The processes that have ended, and how they have. -/
  ended : List (Nat × WaitStatus) := []
  /-- The script has waited for it. -/
  isAwaited : Bool := false
  deriving Repr

/-- How the last process of a job has ended, if all have. -/
def Job.status? (job : Job) : Option WaitStatus :=
  if job.processes.all fun number => (job.ended.lookup number).isSome then
    job.processes.getLast?.bind fun number => job.ended.lookup number
  else none

/-- A running shell. -/
structure State where
  world : World
  /-- The number of the process that the shell was before it forked. -/
  mainNumber : Nat
  name : Bytes
  arguments : List Bytes := []
  vars : List (String × Variable) := []
  functions : List (Bytes × Command) := []
  /-- The words that stand for a text where a command can start. -/
  aliases : List (Bytes × Bytes) := []
  options : List Char := []
  status : Nat := 0
  /-- The exit code of the last command whose output went into a word. -/
  substituted : Nat := 0
  /-- The directory as the shell tells it, in which links may not be followed. -/
  shownDirectory : Bytes
  /-- The scripts for signals, by the numbers of the signals; zero stands for the end of the shell. -/
  traps : List (Nat × Bytes) := []
  /-- The variables that functions have made their own, with what they were before, innermost function
  first. -/
  frames : List (List (String × Option Variable)) := []
  /-- The number of loops around the command. -/
  loops : Nat := 0
  /-- The texts that the lines of scripts hold. -/
  documents : Array Word := #[]
  line : Nat := 0
  /-- The line to which the script has been read. -/
  reached : Nat := 1
  /-- The builtin that messages name. -/
  builtin? : Option Bytes := none
  jobs : List Job := []
  /-- The number of the last process in the background. -/
  lastJob? : Option Nat := none
  /-- The signals that do nothing to the shell whatever it says about them. -/
  deaf : List Nat := []
  /-- The number of the argument behind the one that `getopts` is at, and how much of that one it has
  read; zero says that it is done with it. -/
  optionIndex : Nat := 1
  optionOffset : Nat := 0

/-- Why the commands behind a command are not run. -/
inductive Stop where
  | leave (loops : Nat)
  /-- So many loops but one end, and the last of them goes on with its next round. -/
  | next (loops : Nat)
  /-- The function or the file of commands ends. -/
  | back
  /-- The shell ends with its status. -/
  | finish
  /-- A command has gone wrong, and its complaint is printed. -/
  | failed
  deriving DecidableEq, Repr

abbrev Session := ExceptT Stop (StateT State Routine)

/-- The numbers of the streams. -/
abbrev stdin : Nat := 0
abbrev stdout : Nat := 1
abbrev stderr : Nat := 2

namespace State

def has (state : State) (option : Char) : Bool := state.options.contains option

def value? (state : State) (name : String) : Option Bytes :=
  (state.vars.lookup name).bind (·.value?)

/-- The state with a variable put in the place of any of that name. -/
def put (state : State) (name : String) (new : Variable) : State :=
  if (state.vars.lookup name).isSome then
    { state with
      vars := state.vars.map fun entry => if entry.1 = name then (name, new) else entry }
  else { state with vars := state.vars ++ [(name, new)] }

def drop (state : State) (name : String) : State :=
  { state with vars := state.vars.filter (·.1 ≠ name) }

/-- The variables that processes of the shell see. -/
def visible (state : State) : Variables :=
  state.vars.filterMap fun (name, entry) =>
    if entry.exported then entry.value?.map (name, ·) else none

/-- The separators of words. They are the blanks and the new line unless `IFS` says otherwise. -/
def separators (state : State) : Bytes := (state.value? "IFS").getD " \t\n"

/-- The absolute path of the directory of the shell. -/
def directoryPath (state : State) : Bytes :=
  (state.world.tree.pathOf? state.world.self.directory).getD state.shownDirectory

end State

namespace Session

/-- Do something to the world, which others may change meanwhile. -/
def act {α : Type} (activity : Activity α) : Session α := do
  let (result, world) ← (activity.run (← get).world : Routine (α × World))
  modify fun state => { state with world }
  return result

/-- Write to a stream. The result tells whether the bytes have been written. -/
def write (stream : Nat) (bytes : Bytes) : Session Bool := do
  match ← act (Activity.write stream bytes) with
  | .ok () => return true
  | .error _ => return false

/-- Print a message, which names the shell, the line and the builtin. -/
def complain (parts : List Bytes) : Session Unit := do
  let state ← get
  let builtin : Bytes :=
    match state.builtin? with
    | some name => name ++ Bytes.ofText ": "
    | none => []
  let start : List Bytes := [state.name, ": ", decimal state.line, ": ", builtin]
  let _ ← write stderr ((start ++ parts).flatten ++ [ascii '\n'])

def fail {α : Type} (parts : List Bytes) : Session α := do
  complain parts
  modify fun state => { state with status := 2 }
  throw .failed

def number (base10 : Bool) (bytes : Bytes) : Session Int :=
  match Numeral.value? base10 bytes with
  | some n => return n
  | none => fail ["Illegal number: ", bytes]

def count (bytes : Bytes) : Session Nat := do
  let n ← number true bytes
  if 0 ≤ n && n ≤ 2147483647 then return n.toNat
  else fail ["Illegal number: ", bytes]

/-! ### Variables -/

/-- Set a variable, and export it if `exporting` says so or all variables are exported. -/
def assign (name : String) (value : Bytes) (exporting : Bool) : Session Unit := do
  let state ← get
  let old := state.vars.lookup name
  if old.any (·.fixed) then fail [name, ": is read only"]
  else
    let exported := exporting || state.has 'a' || old.any (·.exported)
    set (state.put name { value? := some value, exported })
    if name = "OPTIND" then
      let index := ((Numeral.value? true value).getD 1).toNat
      modify fun state =>
        { state with optionIndex := if index = 0 then 1 else index, optionOffset := 0 }

/-- Set a variable whose name has not been looked at. -/
def assignTo (name value : Bytes) (exporting : Bool) : Session Unit :=
  if isName name then assign name.shown value exporting
  else fail [name, ": bad variable name"]

/-- Keep what a variable is now for the end of the innermost function. -/
def keep (name : String) : Session Unit := do
  let state ← get
  match state.frames with
  | frame :: frames =>
      if frame.any (·.1 = name) then return
      else set { state with frames := ((name, state.vars.lookup name) :: frame) :: frames }
  | [] => return

/-- Open a frame for variables that are set for one command. -/
def openFrame : Session Unit := modify fun state => { state with frames := [] :: state.frames }

/-- Close the innermost frame, and give its variables back what they were. -/
def closeFrame : Session Unit :=
  modify fun state =>
    match state.frames with
    | frame :: frames =>
        frame.foldl (fun state (name, old) =>
          match old with
          | some old => state.put name old
          | none => state.drop name) { state with frames }
    | [] => state

end Session

end MakeLauncher.Shell
