import MakeLauncher.Machine.Shell.Lookup
import MakeLauncher.Machine.Shell.Reader
import MakeLauncher.Machine.Shell.Streams

/-! The running of commands. Subshells, the members of pipelines, the commands whose output goes into a
word and programs run in processes of their own. A number bounds how deep the running of commands goes
and how many rounds loops take. -/

namespace MakeLauncher.Shell

open Bytes (ascii)
open Machine (Activity Role World)

/-- Where a command stands. -/
structure Context where
  /-- Its exit code is looked at, so that no failure of it ends the shell. -/
  tested : Bool := false
  /-- The shell does nothing behind it. -/
  last : Bool := false

/-- The context of a command that others follow. -/
def Context.inner (context : Context) : Context := { tested := context.tested }

/-- How a round of a loop ends. -/
inductive Round where
  | done (status : Nat)
  | next
  | leave

namespace Session

/-- Do something, and something else behind it, however the first ends. -/
def followedBy {α : Type} (act : Session α) (after : Session Unit) : Session α := do
  let result ← try (Except.ok <$> act) catch stop => pure (.error stop)
  after
  match result with
  | .ok a => return a
  | .error stop => throw stop

/-- How long the shell takes for a command, in microseconds. -/
def commandTime : Nat := 1

def setStatus (status : Nat) : Session Unit := modify fun state => { state with status }

/-! ### Processes -/

/-- Lead a stream that the script cannot name to an open file. The result is its number. -/
def hold (file : Nat) : Session Nat := do
  let stream := (← get).world.freeStream hiddenStream
  act (Activity.setStream stream (some file))
  return stream

def close (stream : Nat) : Session Unit := act (Activity.setStream stream none)

/-- Lead a stream to where another one leads, which is closed then. -/
def moveStream (source target : Nat) : Session Unit := do
  act (Activity.setStream target ((← get).world.stream? source))
  close source

/-- Make a pipe. The result is the streams that lead to its ends, the one to read from first. -/
def openPipe : Session (Nat × Nat) := do
  let (reader, writer) ← act (Activity.holdPipe [])
  return (← hold reader, ← hold writer)

def closeInput : Session Unit :=
  modify fun state =>
    let (world, file) := state.world.hold (.device .sink)
    { state with world := world.setStream stdin (some file) }

/-- The signals of the keyboard, which do nothing to commands in the background. -/
def keyboardSignals : List Nat := [2, 3]

/-- Make the copy of a shell that has just forked a shell of its own, which has no children and no
traps but those that make signals do nothing. -/
def enterChild (inBackground : Bool) : Session Unit := do
  modify fun state =>
    { state with
      jobs := []
      traps := state.traps.filter fun (_, script) => script.isEmpty
      deaf := if inBackground then state.deaf ++ keyboardSignals else state.deaf }
  arrangeSignals

/-- Make a process of its own, by a way of forking, that does something which does not return. The result
is its number. -/
def startBy (fork : Activity Role) (inBackground : Bool) (body : Session Nat) : Session Nat := do
  match ← act fork with
  | .parent child => return child
  | .child => do
      enterChild inBackground
      body

/-- Start a process that does something which does not return. The result is its number. -/
def start : Bool → Session Nat → Session Nat := startBy Activity.fork

/-- End the process with the status. -/
def finish : Session Nat := do act (Activity.exit (WaitStatus.ofExit (← get).status))

/-! ### Programs -/

/-- Try to run a program in the place of the shell at the paths that it can have, until one is more
than refused. A file that is no program in the form of the system is a script of the shell. -/
def tryPaths (name : Bytes) (arguments : List Bytes) : Errno → List Bytes → Session Errno
  | refusal, [] => return refusal
  | refusal, path :: rest => do
      let vars := (← get).visible
      let shell : Bytes := "/bin/sh"
      let errno ←
        match ← act (Activity.exec ⟨path, name :: arguments, vars⟩) with
        | .execFormat => act (Activity.exec ⟨shell, shell :: path :: arguments, vars⟩)
        | errno => pure errno
      match errno with
      | .noEntry | .notDirectory => tryPaths name arguments refusal rest
      | errno => tryPaths name arguments errno rest

/-- The paths that a program can have. -/
def programPaths (searchPath name : Bytes) : List Bytes :=
  if name.contains Bytes.slash then [name]
  else (searchPath.splitOn Bytes.colon).map (entryPath · name)

/-- Run a program in the place of the shell. If that is refused, the status says so. -/
def replace (searchPath name : Bytes) (arguments : List Bytes) : Session Unit := do
  let errno ← tryPaths name arguments .noEntry (programPaths searchPath name)
  complain [name, ": ", refusalText errno]
  setStatus (refusalCode errno)

def runProgram (context : Context) (searchPath name : Bytes) (arguments : List Bytes) :
    Session Nat := do
  let state ← get
  match findProgram state searchPath name with
  | .error errno =>
      complain [name, ": ", refusalText errno]
      return 127
  | .ok _ =>
      if context.last && state.traps.isEmpty then
        replace searchPath name arguments
        throw .finish
      else
        modify (·.makeRoom)
        let child ← startBy Activity.forkForProgram false do
          replace searchPath name arguments
          finish
        waitForAll [child]

/-! ### Commands without others in them -/

/-- Run a round of a loop. -/
def inLoop (act : Session Nat) : Session Round :=
  try (Round.done <$> act)
  catch stop =>
    match stop with
    | .leave n => if n ≤ 1 then return .leave else throw (.leave (n - 1))
    | .next n => if n ≤ 1 then return .next else throw (.next (n - 1))
    | stop => throw stop

/-- Run a builtin, which messages name meanwhile. A failure of one that is not special does not end
the shell. -/
def asBuiltin (name : Bytes) (special : Bool) (act : Session Nat) : Session Nat := do
  let outer := (← get).builtin?
  modify fun state => { state with builtin? := some name }
  let restore : Session Unit := modify fun state => { state with builtin? := outer }
  try followedBy act restore
  catch stop =>
    if stop = .failed && !special then return (← get).status else throw stop

/-- The exit code that an argument tells, or else the one of the last command. -/
def codeOf (arguments : List Bytes) : Session Nat := do
  match arguments with
  | [] => return (← get).status
  | first :: _ => count first

/-- Leave loops, or go on with their next round. -/
def leaveLoops (stop : Nat → Stop) (arguments : List Bytes) : Session Nat := do
  let given ←
    match arguments with
    | [] => pure 1
    | first :: _ => count first
  let loops := min given (← get).loops
  if given = 0 then fail ["Illegal number: ", arguments.headD []]
  else if loops = 0 then return 0
  else
    setStatus 0
    throw (stop loops)

/-- The number of bytes of a script that are read at once. -/
def blockLength : Nat := 8192

/-- Open the script in a file. The result is a stream that it is read from. -/
def openScript (path : Bytes) : Session Nat := do
  match (← get).world.openToRead path with
  | .ok (world, file) => do
      modify fun state => { state with world }
      hold file
  | .error errno =>
      let why : Bytes :=
        match errno with
        | .noEntry | .notDirectory => "No such file"
        | errno => errno.text
      fail ["cannot open ", path, ": ", why]

/-- The path of a file of commands, which is searched along the search path if its name has no
slash. -/
def scriptPath (name : Bytes) : Session Bytes := do
  let state ← get
  if name.contains Bytes.slash then return name
  else
    match searchEntries state name .noEntry (state.searchPath.splitOn Bytes.colon) with
    | .ok path => return path
    | .error _ => fail [name, ": not found"]

/-- Tell what names mean. -/
def describeAll : List Bytes → Session Nat
  | [] => return 0
  | name :: rest => do
      let status ← describe true (← get).searchPath name
      let others ← describeAll rest
      return status.lor others

/-- Look programs up ahead of their use. -/
def lookUpAll (arguments : List Bytes) : Session Nat := do
  let (_, names) ← readOptions "rv" arguments
  let mut status := 0
  for name in names do
    let state ← get
    let known := state.functions.any (·.1 = name) || (builtin? name).isSome
    match findProgram state state.searchPath name with
    | .ok _ => pure ()
    | .error errno =>
        if !known then
          complain [name, ": ", refusalText errno]
          status := 1
  return status

def trace (assignments : List (Bytes × Bytes)) (words : List Bytes) : Session Unit := do
  let state ← get
  if state.has 'x' then
    let shown := assignments.map (fun (name, value) => name ++ ascii '=' :: value) ++ words
    let line := (state.value? "PS4").getD [] ++ [ascii ' '].intercalate shown ++ [ascii '\n']
    let _ ← write stderr line

/-- Set variables in front of a command. With `own` they are set for the command alone. -/
def assignAll (output : Nat → Bytes → Session Bytes) (own exporting : Bool) :
    List (Bytes × Word) → Session (List (Bytes × Bytes))
  | [] => return []
  | (name, word) :: rest => do
      let value ← expandOne output .value word
      if own then keep name.shown
      assign name.shown value (own || exporting)
      return (name, value) :: (← assignAll output own exporting rest)

/-- The word that says which command words are, without a `command` in front. -/
def commandName : List Bytes → Bytes
  | [] => []
  | first :: rest =>
      if first = Bytes.ofText "command" || first = Bytes.ofText "-p" then commandName rest
      else first

/-- The words of a command. Those that are assignments are not split if the command takes them. -/
def expandCommand (output : Nat → Bytes → Session Bytes) (earlier : List Bytes) :
    List Word → Session (List Bytes)
  | [] => return earlier
  | word :: rest => do
      let words ←
        if assigningBuiltins.contains (commandName earlier) && word.assignment?.isSome then do
          pure [← expandOne output .assignment word]
        else expandWords output [word]
      expandCommand output (earlier ++ words) rest

end Session

open Session

mutual

/-- Runs the commands of a script, one list after the other. The last argument is the status if there
are none. -/
def runText : Nat → Context → Source → Nat → Session Nat
  | 0, _, _, _ => throw .finish
  | bound + 1, context, source, status => do
      let { documents, aliases, .. } ← get
      let source := { source with documents, aliases }
      match source.stream?, source.earlyPortion? with
      | some stream, none => do
          let bytes := ((← act (Activity.read stream blockLength)).toOption).getD []
          let source :=
            if bytes.isEmpty then { source with stream? := none }
            else { source with rest := source.rest ++ bytes.filter (· ≠ 0) }
          runText bound context source status
      | some _, some portion => runPortion bound context source status portion
      | none, _ => runPortion bound context source status source.nextPortion

/-- Runs what has been read of a script, and the commands behind it. -/
def runPortion : Nat → Context → Source → Nat → Portion → Session Nat
  | 0, _, _, _, _ => throw .finish
  | bound + 1, context, source, status, portion => do
      match portion with
      | .complaint complaint => do
          modify fun state => { state with line := complaint.line }
          if (← get).has 'v' then
            let lines := (source.rest.splitOn (ascii '\n')).take (complaint.line + 1 - source.line)
            let _ ← write stderr (lines.flatMap (· ++ [ascii '\n']))
          fail [complaint.text]
      | .finished => return status
      | .command command rest ended => do
          modify fun state => { state with documents := rest.documents, reached := rest.line }
          if (← get).has 'v' then
            let _ ← write stderr (source.rest.take (source.rest.length - rest.rest.length))
          if command = .nothing then runText bound context rest status
          else
            let status ← run bound { context with last := context.last && ended } command
            runText bound context rest status

/-- Runs an action to the end of the process, and the script that is set for the end behind it. -/
def conclude : Nat → Session Nat → Session Nat
  | 0, _ => finish
  | bound + 1, body => do
      try setStatus (← body) catch _ => pure ()
      let { traps, status, .. } ← get
      match traps.lookup 0 with
      | none => finish
      | some script => do
          modify fun state => { state with traps := state.traps.filter (·.1 ≠ 0) }
          try
            let _ ← runText bound {} { rest := script } 0
            setStatus status
          catch _ => pure ()
          finish

/-- What a script prints in a process of its own, without the new lines at the end. -/
def output : Nat → Nat → Bytes → Session Bytes
  | 0, _, _ => return []
  | bound + 1, line, script => do
      let { documents, aliases, .. } ← get
      let source : Source := { rest := script, line, documents, aliases }
      match source.wholeCommand with
      | .error complaint => do
          modify fun state => { state with line := complaint.line }
          fail [complaint.text]
      | .ok (command, documents) => do
          modify fun state => { state.makeRoom with documents }
          let (reader, writer) ← openPipe
          let child ← start false do
            close reader
            moveStream writer stdout
            conclude bound (run bound { last := true } command)
          close writer
          let printed ← act (Activity.readAll reader)
          close reader
          let status ← waitForAll [child]
          modify fun state => { state with substituted := status }
          let kept := ((printed.toOption.getD []).filter (· ≠ 0)).reverse.dropWhile (· = ascii '\n')
          return kept.reverse

/-- Runs the scripts that are set for the signals that have arrived. -/
def handleSignals : Nat → Session Unit
  | 0 => return
  | bound + 1 => do
      match ← takeSignal with
      | none => return
      | some signal => do
          let { traps, status, .. } ← get
          match traps.lookup signal with
          | none => pure ()
          | some script => do
              let _ ← runText bound {} { rest := script } 0
              setStatus status
          handleSignals bound

def run : Nat → Context → Command → Session Nat
  | 0, _, _ => throw .finish
  | bound + 1, context, command => do
      if (← get).has 'n' then return 0
      else
        let settle (checked : Bool) (status : Nat) : Session Nat := do
          setStatus status
          handleSignals bound
          if checked && !context.tested && status ≠ 0 && (← get).has 'e' then throw .finish
          return status
        match command with
        | .nothing => return 0
        | .simple line assignments words redirections => do
            modify fun state => { state with line }
            let status ← runSimple bound context assignments words redirections
            act (Activity.delay commandTime)
            reap
            settle true status
        | .pipe first second => do
            modify (·.makeRoom)
            let children ← startMembers bound context false none (.pipe first second)
            settle true (← waitForAll children)
        | .background command => do
            modify (·.makeRoom)
            let children ←
              match command with
              | .pipe first second => startMembers bound context true none (.pipe first second)
              | command => do
                  let child ← start true do
                    closeInput
                    conclude bound (run bound { last := true } command)
                  pure [child]
            modify (·.addJob children)
            settle true 0
        | .subshell line command redirections => do
            modify fun state => { state with line }
            let redirects ← expandTargets (output bound) redirections
            let body : Session Nat := do
              redirectAll (output bound) redirects
              run bound { context with last := true } command
            if context.last && (← get).traps.isEmpty then
              setStatus (← body)
              throw .finish
            else
              modify (·.makeRoom)
              let child ← start false (conclude bound body)
              settle true (← waitForAll [child])
        | .sequence first second => do
            let _ ← run bound context.inner first
            run bound context second
        | .both first second => do
            let status ← run bound { tested := true } first
            if status = 0 then run bound context second else return status
        | .either first second => do
            let status ← run bound { tested := true } first
            if status = 0 then return status else run bound context second
        | .negated command => do
            let status ← run bound { tested := true } command
            settle false (if status = 0 then 1 else 0)
        | .branch condition yes no => do
            let status ← run bound { tested := true } condition
            if status = 0 then run bound context yes
            else if no = .nothing then settle false 0
            else run bound context no
        | .loop stop condition body => do
            let loops := (← get).loops
            modify fun state => { state with loops := loops + 1 }
            let status ← runLoop bound context.inner stop condition body 0
            modify fun state => { state with loops }
            settle false status
        | .each line name words body => do
            modify fun state => { state with line }
            let values ← expandWords (output bound) words
            let loops := (← get).loops
            modify fun state => { state with loops := loops + 1 }
            let status ← runEach bound context.inner name.shown body 0 values
            modify fun state => { state with loops }
            settle false status
        | .choice line subject options => do
            modify fun state => { state with line }
            let bytes ← expandOne (output bound) .start subject
            settle false (← runOptions bound context bytes options)
        | .option _ _ _ => return 0
        | .redirected line command redirections => do
            modify fun state => { state with line }
            let redirects ← expandTargets (output bound) redirections
            match ← tryRedirects (output bound) redirects with
            | some saved =>
                settle false (← followedBy (run bound context.inner command)
                  (restoreStreams saved))
            | none => settle false 2
        | .function name body => do
            modify fun state =>
              { state with
                functions := (name, body) :: state.functions.filter (·.1 ≠ name) }
            settle false 0

/-- Starts the members of a pipeline, the first of which reads from a stream if one is given, and gives
their numbers. -/
def startMembers : Nat → Context → Bool → Option Nat → Command → Session (List Nat)
  | 0, _, _, _, _ => return []
  | bound + 1, context, inBackground, input?, command => do
      let enter : Session Unit := do
        match input? with
        | some input => moveStream input stdin
        | none => if inBackground then closeInput
      match command with
      | .pipe first rest => do
          let (reader, writer) ← openPipe
          let child ← start inBackground do
            close reader
            enter
            moveStream writer stdout
            conclude bound (run bound { context with last := true } first)
          close writer
          if let some input := input? then close input
          return child :: (← startMembers bound context inBackground (some reader) rest)
      | last => do
          let child ← start inBackground do
            enter
            conclude bound (run bound { context with last := true } last)
          if let some input := input? then close input
          return [child]

/-- Runs the rounds of a loop. The last argument is the status if there is no further round. -/
def runLoop : Nat → Context → Bool → Command → Command → Nat → Session Nat
  | 0, _, _, _, _, _ => throw .finish
  | bound + 1, context, stop, condition, body, status => do
      match ← inLoop (run bound { tested := true } condition) with
      | .leave => return status
      | .next => runLoop bound context stop condition body status
      | .done code =>
          if decide (code = 0) = stop then return status
          else
            match ← inLoop (run bound context body) with
            | .leave => return (← get).status
            | .next => runLoop bound context stop condition body (← get).status
            | .done code => runLoop bound context stop condition body code

def runEach : Nat → Context → String → Command → Nat → List Bytes → Session Nat
  | 0, _, _, _, _, _ => throw .finish
  | _ + 1, _, _, _, status, [] => return status
  | bound + 1, context, name, body, _, value :: rest => do
      assign name value false
      match ← inLoop (run bound context body) with
      | .leave => return (← get).status
      | .next => runEach bound context name body (← get).status rest
      | .done status => runEach bound context name body status rest

/-- Runs the first of the options of a choice that the subject matches. -/
def runOptions : Nat → Context → Bytes → Command → Session Nat
  | 0, _, _, _ => throw .finish
  | bound + 1, context, subject, options => do
      match options with
      | .option patterns body otherwise => do
          if ← fitsAny bound subject patterns then run bound context body
          else runOptions bound context subject otherwise
      | _ => return 0

/-- Whether a subject matches one of several patterns, which are expanded until one fits. -/
def fitsAny : Nat → Bytes → List Word → Session Bool
  | 0, _, _ => return false
  | _ + 1, _, [] => return false
  | bound + 1, subject, pattern :: rest => do
      if (← expandPattern (output bound) pattern).accepts subject then return true
      else fitsAny bound subject rest

/-- Runs a simple command: its words are expanded first, then its redirections are done and its
variables set. -/
def runSimple : Nat → Context → List (Bytes × Word) → List Word →
    List Redirection → Session Nat
  | 0, _, _, _, _ => throw .finish
  | bound + 1, context, assignments, words, redirections => do
      modify fun state => { state with substituted := 0 }
      let words ← expandCommand (output bound) [] words
      let name := commandName words
      let isFunction := (← get).functions.any (·.1 = words.headD [])
      let special := words.isEmpty || (!isFunction && isSpecial (words.headD []))
      let replaces := !isFunction && name = Bytes.ofText "exec"
      let redirects ← expandTargets (output bound) redirections
      match ← tryRedirects (output bound) redirects with
      | none => if special && !words.isEmpty then throw .failed else return 2
      | some saved =>
          if !special then openFrame
          let after : Session Unit := do
            if replaces then dropStreams saved else restoreStreams saved
            if !special then closeFrame
          followedBy (do
            let exporting := replaces && 1 < words.length
            let values ← assignAll (output bound) (!special) exporting assignments
            trace values words
            match words with
            | [] => return (← get).substituted
            | name :: arguments =>
                runWords bound context isFunction false special name arguments) after

/-- Runs the command that words make up. The flags say whether it is a function, whether programs are
searched along the path of the system, and whether a failure ends the shell. -/
def runWords : Nat → Context → Bool → Bool → Bool → Bytes → List Bytes → Session Nat
  | 0, _, _, _, _, _, _ => throw .finish
  | bound + 1, context, isFunction, systemPath, special, name, arguments => do
      let state ← get
      let searchPath := if systemPath then systemSearchPath else state.searchPath
      match if isFunction then state.functions.lookup name else none with
      | some body => runFunction bound context body arguments
      | none =>
          match builtin? name with
          | some (.plain act) => asBuiltin name special (act arguments)
          | some (.control .command) => do
              let options ← asCommand (readCommandOptions arguments)
              match options with
              | none => return (← get).status
              | some options =>
                  let path := if options.systemPath then systemSearchPath else searchPath
                  match options.describes, options.words with
                  | _, [] => return 0
                  | some verbose, word :: _ => asBuiltin name false (describe verbose path word)
                  | none, word :: rest =>
                      runWords bound context false options.systemPath false word rest
          | some (.control control) =>
              asBuiltin name special (runControl bound context control arguments)
          | none => runProgram context searchPath name arguments
where
  /-- The options of `command`, unless they are wrong. -/
  asCommand (act : Session CommandOptions) : Session (Option CommandOptions) := do
    let outer := (← get).builtin?
    modify fun state => { state with builtin? := some "command" }
    let restore : Session Unit := modify fun state => { state with builtin? := outer }
    try some <$> followedBy act restore
    catch stop => if stop = .failed then return none else throw stop

def runFunction : Nat → Context → Command → List Bytes → Session Nat
  | 0, _, _, _ => throw .finish
  | bound + 1, context, body, arguments => do
      let before ← get
      set { before with arguments, loops := 0, optionIndex := 1, optionOffset := 0 }
      let restore : Session Unit :=
        modify fun state =>
          { state with
            arguments := before.arguments
            loops := before.loops
            optionIndex := before.optionIndex
            optionOffset := before.optionOffset }
      try followedBy (run bound context.inner body) restore
      catch stop => if stop = .back then return (← get).status else throw stop

/-- Runs a builtin that runs other commands or changes how the shell goes on. -/
def runControl : Nat → Context → Control → List Bytes → Session Nat
  | 0, _, _, _ => throw .finish
  | bound + 1, context, control, arguments => do
      match control with
      | .leave => leaveLoops .leave arguments
      | .next => leaveLoops .next arguments
      | .back => do
          setStatus (← codeOf arguments)
          throw .back
      | .finish => do
          setStatus (← codeOf arguments)
          throw .finish
      | .evaluate => do
          let reached := (← get).reached
          followedBy
            (runText bound context.inner { rest := [ascii ' '].intercalate arguments } 0)
            (modify fun state => { state with reached })
      | .source =>
          match arguments with
          | [] => return 0
          | name :: _ => do
              let path ← scriptPath name
              let stream ← openScript path
              let { reached, builtin?, .. } ← get
              modify fun state => { state with builtin? := some path }
              followedBy
                (try runText bound {} { rest := [], stream? := some stream } 0
                  catch stop => if stop = .back then return (← get).status else throw stop)
                (do
                  close stream
                  modify fun state => { state with reached, builtin? })
      | .replace =>
          let words := if arguments.head? = some (Bytes.ofText "--") then arguments.tail else arguments
          match words with
          | [] => return 0
          | name :: rest => do
              replace (← get).searchPath name rest
              throw .finish
      | .describe => describeAll arguments
      | .hash => lookUpAll arguments
      | .command => return 0

end

end MakeLauncher.Shell
