import MakeLauncher.Machine.Programs

/-! How the processes of a machine take turns. Each process goes on at a time of its own, and the clock
of the machine moves on to the earliest of these. What a process does between two pauses takes no time;
the start of a process or of a program does. -/

namespace MakeLauncher

open Machine

/-- A process on its way: when it goes on, and what it does then. -/
structure Machine.Task where
  number : Nat
  condition : Wait
  next : World → Routine (Empty × World)

/-- A machine: what its processes share, and the processes that have not ended. -/
structure Machine where
  world : World
  tasks : List Task := []

namespace Machine

/-- How long it takes in microseconds until a process goes on when what it has waited for is there. -/
def wakeTime : Nat := 10

/-- How long it takes a process to split into two. -/
def forkTime : Nat := 100

/-- How long it takes until a program runs in the place of another. -/
def loadTime : Nat := 600

/-- The condition of a process that goes on at a time. -/
def Wait.untilTime (time : Nat) : Wait := { ready := fun _ => false, until? := some time }

def add (machine : Machine) (task : Task) : Machine :=
  { machine with tasks := machine.tasks ++ [task] }

/-- The machine when a process has got to its next step. -/
def settle (machine : Machine) (number : Nat) : Routine (Empty × World) → Machine
  | .done (never, _) => never.elim
  | .exit status world => { machine with world := world.finish number status }
  | .wait condition world next => { machine with world }.add ⟨number, condition, next⟩
  | .fork delay world next =>
      let (world, child) := world.addProcess { world.self with parent := number, pending := [] }
      { machine with world }
        |>.add ⟨number, .untilTime (world.clock + forkTime), next (.parent child)⟩
        |>.add ⟨child, .untilTime (world.clock + delay), next .child⟩
  | .exec call world next =>
      match world.loadCall call with
      | .error errno =>
          { machine with world }.add ⟨number, .untilTime world.clock, next errno⟩
      | .ok loaded =>
          let world := world.updateSelf fun process =>
            { process with
              vars := call.vars
              caught := []
              pending := []
              streams := process.streams.filter (·.1 < Process.hiddenStream)
              program? := some loaded.file }
          let next (world : World) : Routine (Empty × World) := loaded.run.run world
          { machine with world }.add ⟨number, .untilTime (world.clock + loadTime), next⟩

/-- The task when its process has noticed that what it waits for is there. -/
def Task.notice (world : World) (task : Task) : Task :=
  if task.condition.ready { world with current := task.number } then
    let time := world.clock + wakeTime
    { task with
      condition := .untilTime (task.condition.until?.elim time (min time)) }
  else task

/-- The task of a list that goes on first, and the others. -/
def first? : List Task → Option ((Task × Nat) × List Task)
  | [] => none
  | task :: rest =>
      match task.condition.until?, first? rest with
      | none, none => none
      | none, some (found, others) => some (found, task :: others)
      | some time, none => some ((task, time), rest)
      | some time, some ((later, laterTime), others) =>
          if time ≤ laterTime then some ((task, time), rest)
          else some ((later, laterTime), task :: others)

def nextEnd? (world : World) : Option Nat :=
  (world.processes.filterMap fun (_, process) =>
    if process.ending?.isSome && world.clock < process.knownAt then some process.knownAt
    else none).min?

/-- The machine after one more step of a process, or when one more end of a process has become known.
There is none if no process can go on. -/
def step? (machine : Machine) : Option Machine :=
  let world := machine.world
  let isStopped (task : Task) : Bool := (world.process? task.number).any (·.isStopped)
  let living := machine.tasks.filter fun task => world.isRunning task.number
  let (resting, moving) := living.partition isStopped
  let noticed := moving.map (Task.notice world)
  match first? noticed, nextEnd? world with
  | none, none => none
  | none, some time =>
      some { world := { world with clock := time }, tasks := resting ++ noticed }
  | some ((task, time), others), end? =>
      match end?.filter (· < time) with
      | some time => some { world := { world with clock := time }, tasks := resting ++ noticed }
      | none =>
          let world := { world with current := task.number, clock := max world.clock time }
          some ({ world, tasks := resting ++ others : Machine }.settle task.number (task.next world))

/-- The machine when a test holds, or when no process can go on. The bound is on the number of
steps. -/
def runUntil (test : World → Bool) : Nat → Machine → Machine
  | 0, machine => machine
  | bound + 1, machine =>
      if test machine.world then machine
      else
        match machine.step? with
        | some machine => runUntil test bound machine
        | none => machine

end Machine
end MakeLauncher
