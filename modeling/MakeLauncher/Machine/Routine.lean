import MakeLauncher.Machine.World

/-! Programs as they run. A routine is a computation that can be left at certain steps, so that other
processes may run in between: it waits, splits into two processes, or asks for another program to run in
its place. At each of these steps it gives the world away and gets it back as the others have left it.
An activity is a routine that carries the world along from step to step. -/

namespace MakeLauncher.Machine

/-- What a process is after it has split. -/
inductive Role where
  /-- It is the one that was there before, and the other has this number. -/
  | parent (child : Nat)
  | child
  deriving DecidableEq, Repr

/-- Until when a process waits. -/
structure Wait where
  /-- It goes on when this holds. -/
  ready : World → Bool
  /-- It goes on at this time at the latest. -/
  until? : Option Nat := none

/-- A program that is to run in the place of another: its path, the words that it is called with and its
variables. -/
structure ProgramCall where
  path : Bytes
  words : List Bytes
  vars : Variables
  deriving DecidableEq, Repr

/-- A program as it runs, up to a result. -/
inductive Routine (α : Type) where
  | done (result : α)
  | exit (status : WaitStatus) (world : World)
  | wait (condition : Wait) (world : World) (next : World → Routine α)
  /-- The process splits into two, and it takes a time until the new one does something. -/
  | fork (delay : Nat) (world : World) (next : Role → World → Routine α)
  /-- Another program runs in the place of this one, which goes on only if that is refused. -/
  | exec (call : ProgramCall) (world : World) (next : Errno → World → Routine α)

namespace Routine

variable {α β : Type}

/-- A routine, and another one behind it that goes by its result. -/
def bind : Routine α → (α → Routine β) → Routine β
  | .done result, after => after result
  | .exit status world, _ => .exit status world
  | .wait condition world next, after => .wait condition world fun world => (next world).bind after
  | .fork delay world next, after =>
      .fork delay world fun role world => (next role world).bind after
  | .exec call world next, after => .exec call world fun errno world => (next errno world).bind after

instance : Monad Routine where
  pure := .done
  bind := bind

end Routine

/-- A routine that carries the world along. -/
abbrev Activity := StateT World Routine

namespace Activity

variable {α : Type}

def pause (condition : Wait) : Activity Unit := do
  set (← (Routine.wait condition (← get) .done : Routine World))

/-- How often a process may find that others have been faster. -/
def retryLimit : Nat := 10000

/-- Wait until a test holds. Others may make it fail again before the process goes on, and then it waits
once more, at most so often. -/
def awaitWithin (test : World → Bool) : Nat → Activity Unit
  | 0 => return
  | retries + 1 => do
      if test (← get) then return
      else do
        pause { ready := test }
        awaitWithin test retries

def await (test : World → Bool) : Activity Unit := awaitWithin test retryLimit

def delay (time : Nat) : Activity Unit := do
  pause { ready := fun _ => false, until? := some ((← get).clock + time) }

def giveWay : Activity Unit := pause { ready := fun _ => true }

/-- Split into two processes. It takes a time until the new one does something. -/
def forkWithin (delay : Nat) : Activity Role := do
  let (role, world) ← (Routine.fork delay (← get) fun role world => .done (role, world))
  set world
  return role

def fork : Activity Role := forkWithin 350

/-- Split into two processes, the new one of which runs another program at once. -/
def forkForProgram : Activity Role := forkWithin 50

def exit (status : WaitStatus) : Activity α := do
  (Routine.exit status (← get) : Routine α)

/-- Run another program in the place of this one. There is a result only if that is refused. -/
def exec (call : ProgramCall) : Activity Errno := do
  let (errno, world) ← (Routine.exec call (← get) fun errno world => .done (errno, world))
  set world
  return errno

/-! ### Streams -/

/-- The number of bytes that are read at once. -/
def portion : Nat := 65536

/-- How long it takes in microseconds to read what has no end. -/
def zeroTime : Nat := 100

/-- How long it takes in microseconds to write. -/
def writeTime : Nat := 1

/-- Read from an open file, so many bytes at most. The result is empty if there is nothing more. -/
def readFrom (number limit : Nat) : Activity (Except Errno Bytes) := do
  if (← get).isEndless number then delay zeroTime
  await (·.canRead number)
  match (← get).available number limit with
  | .error errno => return .error errno
  | .ok bytes =>
      modify (·.advance number bytes.length)
      return .ok bytes

def read (stream limit : Nat) : Activity (Except Errno Bytes) := do
  match (← get).stream? stream with
  | some number => readFrom number limit
  | none => return .error .badStream

/-- Give back so many of the bytes that have been read from a stream, if it leads to a file of the
tree. -/
def unread (stream count : Nat) : Activity Unit :=
  modify fun world =>
    match world.stream? stream with
    | some number => world.retreat number count
    | none => world

/-- Read from an open file up to its end. The bound is on the number of portions. -/
def readAllFrom (number : Nat) : Nat → Bytes → Activity (Except Errno Bytes)
  | 0, earlier => return .ok earlier
  | bound + 1, earlier => do
      match ← readFrom number portion with
      | .error errno => return .error errno
      | .ok [] => return .ok earlier
      | .ok bytes => readAllFrom number bound (earlier ++ bytes)

/-- The number of portions that are read from a file at most. -/
def portionLimit : Nat := 100000

def readAll (stream : Nat) : Activity (Except Errno Bytes) := do
  match (← get).stream? stream with
  | some number => readAllFrom number portionLimit []
  | none => return .error .badStream

/-- The number of bytes that go into a pipe together or not at all. -/
def atomicLength : Nat := 4096

/-- Write to an open file, bit by bit where there is no room for all. -/
def writeTo (number : Nat) (bytes : Bytes) : Activity (Except Errno Unit) :=
  go bytes.length bytes
where
  /-- Writes at least one byte in each round. -/
  go : Nat → Bytes → Activity (Except Errno Unit)
    | rounds, bytes => do
        let least := if bytes.length ≤ atomicLength then bytes.length else 1
        let hasRoom (world : World) : Bool := (world.room number).all (least ≤ ·)
        await hasRoom
        let world ← get
        let now := bytes.take ((world.room number).getD bytes.length)
        match world.write number now with
        | .ok world =>
            set world
            delay writeTime
            match rounds with
            | 0 => return .ok ()
            | rounds + 1 =>
                if now.length = bytes.length then return .ok ()
                else go rounds (bytes.drop now.length)
        | .error .brokenPipe => do
            set (world.signal world.current World.pipeSignal)
            giveWay
            return .error .brokenPipe
        | .error errno => return .error errno

def write (stream : Nat) (bytes : Bytes) : Activity (Except Errno Unit) := do
  match (← get).stream? stream with
  | some number => if bytes.isEmpty then return .ok () else writeTo number bytes
  | none => return if bytes.isEmpty then .ok () else .error .badStream

/-- Make a pipe with something in it. The result is the numbers of its ends. -/
def holdPipe (content : Bytes) : Activity (Nat × Nat) :=
  modifyGet fun world =>
    let (world, ends) := world.holdPipe content
    (ends, world)

/-- Lead a stream to an open file, or to none. -/
def setStream (stream : Nat) (file? : Option Nat) : Activity Unit :=
  modify (·.setStream stream file?)

/-- Open the file at a path to be read. The result is the number of a new stream. -/
def openToRead (path : Bytes) : Activity (Except Errno Nat) := do
  match (← get).openToRead path with
  | .error errno => return .error errno
  | .ok (world, file) =>
      let stream := world.freeStream 3
      set (world.setStream stream (some file))
      return .ok stream

/-- Open the file at a path to be written. The result is the number of a new stream. -/
def openToWrite (path : Bytes) (appends emptied : Bool) : Activity (Except Errno Nat) := do
  match (← get).openToWrite path { writes := true, appends } emptied with
  | .error errno => return .error errno
  | .ok (world, file) =>
      let stream := world.freeStream 3
      set (world.setStream stream (some file))
      return .ok stream

/-! ### Processes -/

/-- Wait until one of some children has ended. The result is the first of them that has and how; its
record is gone then. -/
def waitForAny (children : List Nat) : Activity (Nat × WaitStatus) := do
  let first? (world : World) : Option (Nat × WaitStatus) :=
    (world.endedChildren world.current).find? fun (child, _) => children.contains child
  let world ← get
  let number := world.current
  let isOver (world : World) : Bool := children.any world.isOver
  await isOver
  match first? (← get) with
  | some (child, status) =>
      modify (·.forget child)
      return (child, status)
  | none => return (number, WaitStatus.ofExit 127)

def waitFor (child : Nat) : Activity WaitStatus := do return (← waitForAny [child]).2

end Activity
end MakeLauncher.Machine
