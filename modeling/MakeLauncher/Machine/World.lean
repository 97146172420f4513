import MakeLauncher.Environment
import MakeLauncher.Machine.FileTree
import MakeLauncher.Machine.Limits
import MakeLauncher.System.WaitStatus

/-! What the processes of a machine share: the file tree, the files that are held open, the pipes, the
clock, and a record of each process. A file that is held open has a number of its own; several streams
of several processes may lead to it. One of the processes is the one that runs now: what is said about
a process without a number is said about that one. -/

namespace MakeLauncher.Machine

/-- What an open file may be used for. -/
structure Access where
  reads : Bool := false
  writes : Bool := false
  /-- What is written goes to the end of the file. -/
  appends : Bool := false
  deriving DecidableEq, Repr

inductive OpenFile where
  | device (device : Device)
  /-- The end of a pipe that is read from. -/
  | reader (pipe : Nat)
  /-- The end of a pipe that is written to. -/
  | writer (pipe : Nat)
  /-- What is written is kept for those who run the machine. -/
  | collector (content : Bytes)
  /-- A file of the tree and how far it has been read or written. -/
  | file (place : Place) (offset : Nat) (access : Access)
  deriving DecidableEq, Repr

structure Process where
  /-- The number of the process that has started it. -/
  parent : Nat
  directory : Place
  vars : Variables
  /-- The open files that the streams lead to, by the numbers of the streams. -/
  streams : List (Nat × Nat)
  /-- The permissions that new files do not get. -/
  mask : Nat := 0o022
  /-- The signals that the process acts on itself. -/
  caught : List Nat := []
  /-- The signals that do nothing to the process. -/
  ignored : List Nat := []
  /-- The signals that have arrived for the process to act on, oldest first. -/
  pending : List Nat := []
  isStopped : Bool := false
  limits : Limits := Limits.usual
  /-- The file that holds its program. -/
  program? : Option FileTree.Arrival := none
  ending? : Option WaitStatus := none
  /-- The time from which others know of its end. -/
  knownAt : Nat := 0
  deriving Repr

/-- The least number of a stream that a process keeps for itself: another program in its place does not
get it. -/
def Process.hiddenStream : Nat := 10

/-- What processes share. -/
structure World where
  tree : FileTree
  opened : Array OpenFile := #[]
  /-- What is on its way through the pipes. -/
  pipes : Array Bytes := #[]
  /-- The records of the processes by their numbers. Those that have ended come last, in the order in
  which they have ended. -/
  processes : List (Nat × Process) := []
  /-- The number of the process that runs now. -/
  current : Nat := 0
  /-- The number of the process that was started last. -/
  lastProcess : Nat := 4710
  clock : Nat := 0

namespace World

def accountHome : Bytes := "/root"

/-! ### Processes -/

def process? (world : World) (number : Nat) : Option Process := world.processes.lookup number

def self (world : World) : Process :=
  (world.process? world.current).getD
    { parent := 0, directory := FileTree.root, vars := [], streams := [] }

def update (world : World) (number : Nat) (change : Process → Process) : World :=
  { world with
    processes := world.processes.map fun entry =>
      if entry.1 = number then (number, change entry.2) else entry }

/-- The world with the record of the process that runs now changed. -/
def updateSelf (world : World) (change : Process → Process) : World :=
  world.update world.current change

def isRunning (world : World) (number : Nat) : Bool :=
  (world.process? number).any (·.ending?.isNone)

def addProcess (world : World) (process : Process) : World × Nat :=
  let number := world.lastProcess + 1
  ({ world with processes := (number, process) :: world.processes, lastProcess := number }, number)

def forget (world : World) (number : Nat) : World :=
  { world with processes := world.processes.filter (·.1 ≠ number) }

/-- The process has ended, and others know. -/
def isOver (world : World) (number : Nat) : Bool :=
  (world.process? number).all fun process =>
    process.ending?.isSome && process.knownAt ≤ world.clock

/-- The children of a process that are known to have ended and how, in the order in which they have. -/
def endedChildren (world : World) (parent : Nat) : List (Nat × WaitStatus) :=
  world.processes.filterMap fun (number, process) =>
    if process.parent = parent && world.isOver number then process.ending?.map (number, ·) else none

/-- How long it takes in microseconds until others know of the end of a process. -/
def noticeTime : Nat := 150

/-- The number of the process that takes over the children of those that have ended. -/
def firstProcess : Nat := 1

/-- The signal that a process gets when a child of it ends. -/
def childSignal : Nat := 17

/-- The world after the end of a process. Its streams are closed; its children become those of the
first process, which forgets them when they end. -/
def finish (world : World) (number : Nat) (status : WaitStatus) : World :=
  match world.process? number with
  | none => world
  | some process =>
      if process.ending?.isSome then world
      else
        let others := (world.forget number).processes.filterMap fun (other, child) =>
          if child.parent ≠ number then some (other, child)
          else if child.ending?.isSome then none
          else some (other, { child with parent := firstProcess })
        let ended :=
          { process with
            streams := []
            pending := []
            ending? := some status
            knownAt := world.clock + noticeTime }
        let isMissed := world.isRunning process.parent
        let others := others.map fun (other, record) =>
          if other = process.parent && record.caught.contains childSignal then
            (other, { record with pending := record.pending.filter (· ≠ childSignal) ++ [childSignal] })
          else (other, record)
        { world with processes := others ++ if isMissed then [(number, ended)] else [] }

/-! ### Signals -/

/-- The signals that do nothing unless a process acts on them. -/
def mildSignals : List Nat := [0, 17, 18, 23, 28]

/-- The signals that stop a process unless it acts on them. -/
def stopSignals : List Nat := [19, 20, 21, 22]

/-- The signals that a process can neither act on nor ignore. -/
def hardSignals : List Nat := [9, 19]

/-- The signal that lets a stopped process go on. -/
def continueSignal : Nat := 18

/-- The signal that a process gets when it writes to a pipe that nobody reads. -/
def pipeSignal : Nat := 13

def signal (world : World) (number signal : Nat) : World :=
  match world.process? number with
  | none => world
  | some process =>
      let world :=
        if signal = continueSignal then world.update number ({ · with isStopped := false })
        else world
      let isHard := hardSignals.contains signal
      if process.ending?.isSome || signal = 0 then world
      else if !isHard && process.ignored.contains signal then world
      else if !isHard && process.caught.contains signal then
        world.update number fun process =>
          { process with pending := process.pending.filter (· ≠ signal) ++ [signal] }
      else if mildSignals.contains signal then world
      else if stopSignals.contains signal then world.update number ({ · with isStopped := true })
      else world.finish number (WaitStatus.ofSignal signal)

/-! ### Open files -/

def hold (world : World) (file : OpenFile) : World × Nat :=
  ({ world with opened := world.opened.push file }, world.opened.size)

/-- The world with one more pipe that has something in it, and the numbers of the ends to read from and
to write to. -/
def holdPipe (world : World) (content : Bytes) : World × Nat × Nat :=
  let pipe := world.pipes.size
  let (world, reader) := { world with pipes := world.pipes.push content }.hold (.reader pipe)
  let (world, writer) := world.hold (.writer pipe)
  (world, reader, writer)

/-- A stream of a process leads to an open file of some sort. -/
def isHeld (world : World) (sort : OpenFile → Bool) : Bool :=
  world.processes.any fun (_, process) =>
    process.streams.any fun (_, number) => (world.opened[number]?).any sort

def stream? (world : World) (stream : Nat) : Option Nat := world.self.streams.lookup stream

/-- The world in which a stream of the process leads to an open file, or to none. -/
def setStream (world : World) (stream : Nat) (file? : Option Nat) : World :=
  world.updateSelf fun process =>
    let others := process.streams.filter (·.1 ≠ stream)
    { process with streams := file?.toList.map (stream, ·) ++ others }

/-- The first number of a stream, from a least one on, that the process does not use. -/
def freeStream (world : World) (least : Nat) : Nat :=
  let used := world.self.streams.map (·.1)
  ((List.range' least (used.length + 1)).find? (!used.contains ·)).getD least

/-- The number of bytes that a pipe has room for. -/
def pipeCapacity : Nat := 65536

/-- Something can be read from an open file now, if only that there is nothing more. -/
def canRead (world : World) (number : Nat) : Bool :=
  match world.opened[number]? with
  | some (.reader pipe) =>
      !(world.pipes[pipe]?.getD []).isEmpty || !world.isHeld (· = .writer pipe)
  | _ => true

/-- The number of bytes that are read at once where there is no end of them. -/
def zeroPortion : Nat := 4096

/-- There is no end of the bytes of an open file. -/
def isEndless (world : World) (number : Nat) : Bool :=
  match world.opened[number]? with
  | some (.device .zeros) | some (.device .full) => true
  | _ => false

/-- The bytes that an open file has to be read now, so many at most. -/
def available (world : World) (number limit : Nat) : Except Errno Bytes :=
  match world.opened[number]? with
  | some (.reader pipe) => .ok ((world.pipes[pipe]?.getD []).take limit)
  | some (.file place offset access) =>
      if !access.reads then .error .badStream
      else if world.tree.isDirectory place then .error .isDirectory
      else .ok (((world.tree.content place).drop offset).take limit)
  | some (.device .zeros) | some (.device .full) => .ok (List.replicate (min limit zeroPortion) 0)
  | some (.device _) | some (.collector _) => .ok []
  | some (.writer _) | none => .error .badStream

/-- The world after so many bytes are read from an open file. -/
def advance (world : World) (number count : Nat) : World :=
  match world.opened[number]? with
  | some (.reader pipe) =>
      { world with pipes := world.pipes.modify pipe (·.drop count) }
  | some (.file place offset access) =>
      { world with opened := world.opened.setIfInBounds number (.file place (offset + count) access) }
  | _ => world

/-- The world in which so many bytes are to be read from an open file once more, if it is a file of the
tree. -/
def retreat (world : World) (number count : Nat) : World :=
  match world.opened[number]? with
  | some (.file place offset access) =>
      { world with opened := world.opened.setIfInBounds number (.file place (offset - count) access) }
  | _ => world

/-- The number of bytes that can be written to an open file now. There is room without an end where
nobody has to make it. -/
def room (world : World) (number : Nat) : Option Nat :=
  match world.opened[number]? with
  | some (.writer pipe) =>
      if world.isHeld (· = .reader pipe) then
        some (pipeCapacity - (world.pipes[pipe]?.getD []).length)
      else none
  | _ => none

/-- The world after bytes are written to an open file that has room for them. -/
def write (world : World) (number : Nat) (bytes : Bytes) : Except Errno World :=
  match world.opened[number]? with
  | some (.writer pipe) =>
      if world.isHeld (· = .reader pipe) then
        .ok { world with pipes := world.pipes.modify pipe (· ++ bytes) }
      else .error .brokenPipe
  | some (.collector content) =>
      .ok { world with opened := world.opened.setIfInBounds number (.collector (content ++ bytes)) }
  | some (.file place offset access) =>
      if !access.writes then .error .badStream
      else
        let old := world.tree.content place
        let offset := if access.appends then old.length else offset
        let gap := List.replicate (offset - old.length) 0
        let new := old.take offset ++ gap ++ bytes ++ old.drop (offset + bytes.length)
        .ok { world with
          tree := world.tree.store place world.clock new
          opened := world.opened.setIfInBounds number (.file place (offset + bytes.length) access) }
  | some (.device .full) => if bytes.isEmpty then .ok world else .error .noSpace
  | some (.device _) => .ok world
  | some (.reader _) | none => .error .badStream

/-! ### Paths -/

def find (world : World) (path : Bytes) : Except Errno Node := do
  let place ← world.tree.place world.self.directory path
  match world.tree.node? place with
  | some node => return node
  | none => throw .noEntry

def place (world : World) (path : Bytes) : Except Errno Place :=
  world.tree.place world.self.directory path

def findLink (world : World) (path : Bytes) : Except Errno Node := do
  let place ← world.tree.placeOfLink world.self.directory path
  match world.tree.node? place with
  | some node => return node
  | none => throw .noEntry

/-- The name that the last name of a path is in its directory. -/
def slot (world : World) (path : Bytes) : Except Errno (Option Slot) :=
  world.tree.slot world.self.directory path

/-- A process runs the program in the file at a place. -/
def isProgramOfProcess (world : World) (place : Place) : Bool :=
  world.processes.any fun (_, process) =>
    process.ending?.isNone && process.program?.any (·.place = place)

/-- The file at a place is held open to be written. -/
def isWritten (world : World) (place : Place) : Bool :=
  world.isHeld fun file =>
    match file with
    | .file other _ access => other = place && access.writes
    | _ => false

/-- The world with a device open. The streams of the process are devices too: a pipe is opened at the
end that fits, and a file anew. -/
def openDevice (world : World) (device : Device) (access : Access) (emptied : Bool) :
    Except Errno (World × Nat) :=
  match device with
  | .terminal => .error .noDevice
  | .stream number =>
      match world.stream? number with
      | none => .error .noEntry
      | some file =>
          match world.opened[file]? with
          | some (.reader pipe) | some (.writer pipe) =>
              .ok (world.hold (if access.writes then .writer pipe else .reader pipe))
          | some (.file place _ _) =>
              let world :=
                if emptied then { world with tree := world.tree.store place world.clock [] } else world
              .ok (world.hold (.file place 0 access))
          | some _ => .ok (world, file)
          | none => .error .noEntry
  | device => .ok (world.hold (.device device))

/-- The world with the file at a path open to be read. -/
def openToRead (world : World) (path : Bytes) : Except Errno (World × Nat) := do
  let place ← world.place path
  match world.tree.kind? place with
  | some (.device device) => world.openDevice device { reads := true } false
  | some _ => return world.hold (.file place 0 { reads := true })
  | none => throw .noEntry

/-- The world with the file at a path open to be written, and made if it is not there. Its content is
thrown away if it is to be `emptied`. A file that holds the program of a process cannot be written. -/
def openToWrite (world : World) (path : Bytes) (access : Access) (emptied : Bool) :
    Except Errno (World × Nat) := do
  FileTree.checkPath path
  let directory := FileTree.start world.self.directory path
  if path.getLast? = some Bytes.slash then
    let _ ← world.slot path
    throw .isDirectory
  match ← world.tree.creation FileTree.linkLimit directory (FileTree.steps path) with
  | none => throw .isDirectory
  | some slot =>
      match world.tree.child? slot with
      | none =>
          let node : Node :=
            { kind := .file [], mode := 0o666 &&& (0o777 ^^^ world.self.mask), changed := world.clock }
          if (world.tree.pathOf? slot.directory).isNone then throw .noEntry
          else
            let (tree, place) := world.tree.addAt slot node
            return { world with tree }.hold (.file place 0 access)
      | some place =>
          match world.tree.kind? place with
          | some (.device device) => world.openDevice device access emptied
          | some (.file _) =>
              if world.isProgramOfProcess place then throw .busy
              else
                let tree := if emptied then world.tree.store place world.clock [] else world.tree
                return { world with tree }.hold (.file place 0 access)
          | _ => throw .isDirectory

end World
end MakeLauncher.Machine
