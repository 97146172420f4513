import MakeLauncher.Invocation
import MakeLauncher.Machine.Routine
import MakeLauncher.Machine.Shell.Lookup

/-! How a machine finds the program that a process asks for. A program whose name has no slash is
searched along the search path. A file that starts with `#!` is a script, which the interpreter named
there runs; the interpreter may be a script in turn. -/

namespace MakeLauncher.Machine

open Bytes (ascii)

/-! ### Scripts -/

/-- The number of bytes at the start of a file that the system looks at. -/
def headerLength : Nat := 256

/-- The number of scripts that may be the interpreters of one another. -/
def scriptLimit : Nat := 5

def isBlank (b : UInt8) : Bool := b = ascii ' ' || b = ascii '\t'

/-- The interpreter that a script names in its first line, and the argument for it, if there is one.
The name ends at a blank or a zero byte; the argument is the rest of the line up to a zero byte,
without the blanks around it. A line that does not end in the header counts with what is there of it,
as long as the name ends. -/
def interpreter? (script : Bytes) : Option (Bytes × Option Bytes) :=
  let header := (script ++ List.replicate headerLength 0).take headerLength
  let ends (b : UInt8) : Bool := isBlank b || b = 0
  let isMarked := header.take 2 = Bytes.ofText "#!"
  let body := header.drop 2
  let isComplete := body.contains (ascii '\n')
  let shown := if isComplete then body.takeWhile (· ≠ ascii '\n') else body
  let named := (shown.dropWhile isBlank).any ends
  let line := if isComplete then shown else body.dropLast
  let line := ((line.reverse.dropWhile isBlank).reverse).dropWhile isBlank
  if !isMarked || line.isEmpty || (!isComplete && !named) then none
  else
    let name := line.takeWhile (!ends ·)
    let behind := line.drop name.length
    if behind.head?.any isBlank then
      some (name, some ((behind.dropWhile isBlank).takeWhile (· ≠ 0)))
    else some (name, none)

/-! ### Programs -/

/-- A program that is ready to run: the utility, the words that it is called with and the file that
holds it. -/
structure Loaded where
  utility : Utility
  words : List Bytes
  file : FileTree.Arrival

/-- The number of bytes that a word of a call may have with its end. -/
def wordLimit : Nat := 131072

/-- The number of bytes that the words of a call and the variables may have together, with their ends
and with a pointer to each. -/
def callLimit : Nat := 2097152

/-- A call is not too long for the system. -/
def ProgramCall.fits (call : ProgramCall) : Bool :=
  let settings := call.vars.map fun (name, value) => Bytes.ofText name ++ ascii '=' :: value
  let all := call.words ++ settings
  let pointer := 8
  all.all (·.length < wordLimit) &&
    all.foldl (fun sum word => sum + word.length + 1 + pointer) (call.path.length + 1) ≤ callLimit

namespace World

def executable (world : World) (path : Bytes) : Except Errno FileTree.Arrival := do
  let arrival ← world.tree.arrive world.self.directory path
  let mayRun := (world.tree.node? arrival.place).any fun node => node.isFile && node.isExecutable
  if !mayRun then throw .access
  else if world.isWritten arrival.place then throw .busy
  else return arrival

/-- What runs as the program at a path. Of a script it is what its interpreter comes to, with the script
behind it in the place of the first of the words. -/
def loadWith (world : World) (interpret : Bytes → List Bytes → Except Errno Loaded) (path : Bytes)
    (words : List Bytes) : Except Errno Loaded := do
  let file ← world.executable path
  let content := world.tree.content file.place
  match Utility.ofContent? content, interpreter? content with
  | some utility, _ => return { utility, words, file }
  | none, none => throw .execFormat
  | none, some (name, argument?) =>
      let _ ← world.executable name
      interpret name (name :: argument?.toList ++ path :: words.tail)

/-- What runs as the program at a path, when so many scripts may be the interpreters of one another. -/
def load (world : World) : Nat → Bytes → List Bytes → Except Errno Loaded
  | 0 => world.loadWith fun _ _ => .error .linkLoop
  | scripts + 1 => world.loadWith (world.load scripts)

/-- What runs for a call. -/
def loadCall (world : World) (call : ProgramCall) : Except Errno Loaded :=
  if call.fits then world.load scriptLimit call.path call.words else .error .tooLong

end World

/-! ### The search for a program -/

/-- A refusal after which the search for a program goes on. -/
def passesOver : Errno → Bool
  | .access | .noEntry | .notDirectory => true
  | _ => false

/-- The directories that are searched when there is no search path. -/
def defaultSearchPath : Bytes := "/bin:/usr/bin"

/-- Tries paths one after the other. When none of them has the program, a refusal of access is
reported before any other. -/
def tryCandidates {α : Type} (attempt : Bytes → Except Errno α) (denied : Bool) (last : Errno) :
    List Bytes → Except Errno α
  | [] => .error (if denied then .access else last)
  | path :: rest =>
      match attempt path with
      | .error errno =>
          if passesOver errno then tryCandidates attempt (denied || errno = .access) errno rest
          else .error errno
      | outcome => outcome

/-- The paths of a program along a search path. An entry that is longer than a path can be is not
searched; it counts as an empty one in its place, unless it is the last. -/
def searchedPaths (searchPath name : Bytes) : List Bytes :=
  let entries := searchPath.splitOn Bytes.colon
  let limit := min searchPath.length Bytes.pathLimit
  let usable := entries.zipIdx.filterMap fun (entry, index) =>
    if entry.length ≤ limit then some entry
    else if index + 1 = entries.length then none else some []
  usable.map (Shell.entryPath · name)

/-- The call of a program by its name, with arguments and variables. Without a slash in it the name is
searched along the path that the variables give. With `viaShell` a file that is no program in the form
of the system is a script of the shell. -/
def World.search (world : World) (viaShell : Bool) (name : Bytes) (arguments : List Bytes)
    (vars : Variables) : Except Errno ProgramCall :=
  let checked (call : ProgramCall) : Except Errno ProgramCall := do
    let _ ← world.loadCall call
    return call
  let attempt (path : Bytes) : Except Errno ProgramCall :=
    match checked ⟨path, name :: arguments, vars⟩ with
    | .error .execFormat =>
        let shell : Bytes := "/bin/sh"
        if viaShell then checked ⟨shell, shell :: path :: arguments, vars⟩ else .error .execFormat
    | outcome => outcome
  if name.isEmpty then .error .noEntry
  else if name.contains Bytes.slash then attempt name
  else if name.length > FileTree.nameLimit then .error .nameTooLong
  else
    let searchPath := (vars.value? "PATH").getD defaultSearchPath
    tryCandidates attempt false .noEntry (searchedPaths searchPath name)

/-- The call by which the process that runs now starts the program of an invocation, if there is one. When
the search path is taken away, be there one or not, a program is searched along the default one, and run by
the shell if it is no program in the form of the system. -/
def World.choose (world : World) (invocation : Invocation) : Except Errno ProgramCall :=
  let program := invocation.program
  let losesPath := invocation.cleared.contains "PATH"
  world.search (losesPath && !program.contains Bytes.slash) program invocation.arguments
    (world.self.vars.clear invocation.cleared)

end MakeLauncher.Machine
