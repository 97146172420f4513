import MakeLauncher.Machine.Shell.Signals

/-! The children of a shell: how it forks, waits for them and learns how they have ended. A command in
the background is a job, which is known until the script has waited for it. -/

namespace MakeLauncher.Shell

open Bytes (ascii)
open Numeral (readDigits?)
open Machine (Activity Role World)

namespace State

def endedChildren (state : State) : List (Nat × WaitStatus) :=
  state.world.endedChildren state.world.current

def hasChildren (state : State) : Bool :=
  state.world.processes.any fun (_, process) => process.parent = state.world.current

/-- How often the shell can learn of a child or wait for one before all have ended. -/
def childLimit (state : State) : Nat := 2 * state.world.processes.length + 2

/-- The state in which a child is known to have ended. -/
def note (state : State) (child : Nat) (status : WaitStatus) : State :=
  { state with
    world := state.world.forget child
    jobs := state.jobs.map fun job =>
      if job.processes.contains child then { job with ended := (child, status) :: job.ended }
      else job }

/-- The state with room for one more job: the oldest one that the script has waited for is
forgotten. -/
def makeRoom (state : State) : State :=
  match state.jobs.reverse.find? fun job => job.isAwaited && job.status?.isSome with
  | some old => { state with jobs := state.jobs.filter (·.number ≠ old.number) }
  | none => state

def addJob (state : State) (processes : List Nat) : State :=
  let used := state.jobs.map (·.number)
  let number := ((List.range' 1 (used.length + 1)).find? (!used.contains ·)).getD 1
  { state with jobs := { number, processes } :: state.jobs, lastJob? := processes.getLast? }

/-- The job that a word with a percent sign in front names. -/
def jobOfSign? (state : State) (word : Bytes) : Option Job :=
  let name := word.tail
  if name.isEmpty || name = [ascii '%'] || name = [ascii '+'] then state.jobs.head?
  else if name = [ascii '-'] then state.jobs[1]?
  else
    match readDigits? 10 name with
    | some (number, []) => state.jobs.find? (·.number = number)
    | _ => none

end State

namespace Session

/-- The exit code of a process that the shell has waited for. It says so if a signal ended the
process, unless it was the one of the keyboard or of a broken pipe. -/
def announce (status : WaitStatus) : Session Nat := do
  match status.ending with
  | .killed signal _ =>
      if signal ≠ 2 && signal ≠ 13 then
        let _ ← write stderr (Bytes.ofText (signalText signal ++ "\n"))
  | _ => pure ()
  return status.exitCode.toNat

/-- Wait until a child has ended. With `alert` a signal for the shell to act on ends the waiting too. -/
def awaitChild (alert : Bool) : Session Unit :=
  act (Activity.pause { ready := fun world =>
    (alert && !world.self.pending.isEmpty) || !(world.endedChildren world.current).isEmpty })

/-- Learn of children that have ended, of so many at most. -/
def reapAll : Nat → Session Unit
  | 0 => return
  | bound + 1 => do
      match (← get).endedChildren with
      | [] => return
      | (child, status) :: _ => do
          modify (·.note child status)
          reapAll bound

/-- Learn of the children that have ended. -/
def reap : Session Unit := do reapAll (← get).childLimit

/-- Wait for the children that run a command, and say how they end. The result is how they have
ended. -/
def awaitAll (children : List Nat) :
    Nat → List (Nat × WaitStatus) → Session (List (Nat × WaitStatus))
  | 0, found => return found
  | bound + 1, found => do
      let state ← get
      if children.all fun child => (found.lookup child).isSome then return found
      else
        match state.endedChildren with
        | (child, status) :: _ => do
            modify (·.note child status)
            if children.contains child then
              let _ ← announce status
              awaitAll children bound ((child, status) :: found)
            else awaitAll children bound found
        | [] =>
            if !state.hasChildren then return found
            else do
              awaitChild false
              awaitAll children bound found

/-- Wait for the children that run a command. The result is the exit code of the last of them. -/
def waitForAll (children : List Nat) : Session Nat := do
  let found ← awaitAll children (← get).childLimit []
  reap
  let status := children.getLast?.bind fun child => found.lookup child
  return (status.map fun status => status.exitCode.toNat).getD 0

/-- Wait until a test holds of the state, which some child ends up making true. The processes for which
`announces` holds are talked about when they end. The result is false if a signal for the shell to act on
came first. -/
def awaitJobs (isOver : State → Bool) (announces : Nat → Bool) : Nat → Session Bool
  | 0 => return true
  | bound + 1 => do
      let state ← get
      if isOver state then return true
      else
        match state.endedChildren with
        | (child, status) :: _ => do
            modify (·.note child status)
            if announces child then
              let _ ← announce status
            awaitJobs isOver announces bound
        | [] =>
            if !state.world.self.pending.isEmpty then return false
            else if !state.hasChildren then return true
            else do
              awaitChild true
              awaitJobs isOver announces bound

/-- The exit code of a wait that a signal has ended. -/
def alertedCode : Session Nat := do
  return 128 + ((← get).world.self.pending.getLast?.getD 0)

def waitForJobs : Session Nat := do
  let isOver (state : State) : Bool := state.jobs.all (·.status?.isSome)
  if ← awaitJobs isOver (fun _ => false) (← get).childLimit then
    reap
    modify fun state => { state with jobs := state.jobs.map ({ · with isAwaited := true }) }
    return 0
  else alertedCode

/-- Wait for a job. There is no result if a signal ends the waiting. -/
def waitForJob (job : Job) : Session (Option Nat) := do
  let now (state : State) : Option Job := state.jobs.find? (·.number = job.number)
  let isOver (state : State) : Bool := (now state).all (·.status?.isSome)
  if ← awaitJobs isOver job.processes.contains (← get).childLimit then
    reap
    let status? := (now (← get)).bind (·.status?)
    modify fun state =>
      { state with
        jobs := state.jobs.map fun other =>
          if other.number = job.number then { other with isAwaited := true } else other }
    return some ((status?.map fun status => status.exitCode.toNat).getD 127)
  else return none

def refuseJob {α : Type} (word : Bytes) : Session α :=
  if ["%", "%%", "%+"].any (Bytes.ofText · == word) then fail ["No current job"]
  else if word = Bytes.ofText "%-" then fail ["No previous job"]
  else fail ["No such job: ", word]

/-- Wait for the jobs that words name, by the numbers of their last processes or by their own behind a
percent sign. -/
def waitForWords : Nat → List Bytes → Session Nat
  | status, [] => return status
  | status, word :: rest => do
      let state ← get
      let job? ←
        if word.head? = some (ascii '%') then
          match state.jobOfSign? word with
          | some job => pure (some job)
          | none => refuseJob word
        else do
          let number ← count word
          pure (state.jobs.find? fun job => job.processes.getLast? = some number)
      match job? with
      | none => waitForWords status rest
      | some job =>
          match ← waitForJob job with
          | some status => waitForWords status rest
          | none => alertedCode

/-! ### Telling about jobs -/

/-- What is said about how a job is. -/
def jobState (job : Job) : String :=
  match job.status? with
  | none => "Running"
  | some status =>
      match status.ending with
      | .killed signal dumped => signalText signal ++ if dumped then " (core dumped)" else ""
      | _ =>
          if status.exitCode = 0 then "Done" else "Done(" ++ toString status.exitCode ++ ")"

/-- The column at which the command of a job would stand. -/
def commandColumn : Nat := 33

/-- The text about a job. The sign tells the last one and the one before it from the others; `isLong`
asks for the numbers of its processes. -/
def describeJob (isLong : Bool) (sign : Char) (job : Job) : Bytes :=
  let mark := "[" ++ toString job.number ++ "] " ++ sign.toString ++ " "
  let tell (line : String) : String :=
    line ++ String.ofList (List.replicate (max 1 (commandColumn - line.length)) ' ')
  let number (n : Nat) : String := toString n ++ " "
  let lines :=
    match job.processes with
    | [] => []
    | first :: others =>
        let start := mark ++ (if isLong then number first else "") ++ jobState job
        if isLong then
          tell start :: others.map fun other =>
            let indented := " |\n" ++ String.ofList (List.replicate mark.length ' ') ++ number other
            indented ++ String.ofList (List.replicate (max 1 (commandColumn + 3 - indented.length)) ' ')
        else [tell start ++ String.join (others.map fun _ => " | ")]
  Bytes.ofText (String.join lines ++ "\n")

/-- The text about some of the jobs that there are. The last job and the one before it have signs; those
that are over do not count any more once they have been told about. -/
def describeJobs (isLong : Bool) (jobs : List Job) : List Job → Bytes
  | [] => []
  | job :: rest =>
      let index := jobs.findIdx (·.number = job.number)
      let sign := if index = 0 then '+' else if index = 1 then '-' else ' '
      let left := jobs.filter fun other => other.number ≠ job.number || other.status?.isNone
      describeJob isLong sign job ++ describeJobs isLong left rest

/-- Forget the jobs that are over and have been told about. -/
def forgetTold (told : List Job) : Session Unit :=
  modify fun state =>
    { state with
      jobs := state.jobs.filter fun job =>
        job.status?.isNone || told.all (·.number ≠ job.number) }

end Session
end MakeLauncher.Shell
