import MakeLauncher.Machine.Shell.Builtin
import MakeLauncher.Machine.Shell.Source

/-! What the name of a command means to a shell: a function, a builtin, or a program that is searched
along the search path. -/

namespace MakeLauncher.Shell

open Bytes (ascii)

/-- The builtins that run other commands or change how the shell goes on. -/
inductive Control where
  | leave
  | next
  | back
  | finish
  | evaluate
  | source
  | replace
  | command
  | describe
  | hash
  deriving DecidableEq, Repr

/-- A builtin. -/
inductive Builtin where
  | plain (run : List Bytes → Session Nat)
  | control (control : Control)

/-- The control builtins, by their names. -/
def controlBuiltins : List (String × Control) :=
  [("break", .leave), ("continue", .next), ("return", .back), ("exit", .finish),
    ("eval", .evaluate), (".", .source), ("exec", .replace), ("command", .command),
    ("type", .describe), ("hash", .hash)]

/-- The builtins whose arguments can be assignments. -/
def assigningBuiltins : List Bytes := ["export", "readonly", "local"]

def builtin? (name : Bytes) : Option Builtin :=
  match plainBuiltins.find? fun entry => Bytes.ofText entry.1 == name with
  | some (_, run) => some (.plain run)
  | none =>
      (controlBuiltins.find? fun entry => Bytes.ofText entry.1 == name).map fun entry =>
        .control entry.2

/-- Whether a builtin is special: its failures end the shell, and what is assigned in front of it
stays. -/
def isSpecial (name : Bytes) : Bool :=
  specialBuiltins.any (Bytes.ofText · == name) || name = Bytes.ofText "local"

/-- The search path when a command asks for the one of the system. -/
def systemSearchPath : Bytes := "/usr/sbin:/usr/bin:/sbin:/bin"

/-- The path that an entry of a search path makes of a name. -/
def entryPath (entry name : Bytes) : Bytes :=
  if entry.isEmpty then name else entry ++ Bytes.slash :: name

/-- The search for a program that is there, along the entries of a search path. A refusal other than
that nothing is there is remembered. -/
def searchEntries (state : State) (name : Bytes) : Errno → List Bytes → Except Errno Bytes
  | refusal, [] => .error refusal
  | refusal, entry :: rest =>
      let path := entryPath entry name
      match state.world.find path with
      | .ok node => if node.isFile then .ok path else searchEntries state name .access rest
      | .error .noEntry | .error .notDirectory => searchEntries state name refusal rest
      | .error errno => searchEntries state name errno rest

def State.searchPath (state : State) : Bytes := (state.value? "PATH").getD []

/-- The path of a program, which is its name if that has a slash. -/
def findProgram (state : State) (searchPath name : Bytes) : Except Errno Bytes :=
  if name.contains Bytes.slash then .ok name
  else searchEntries state name .noEntry (searchPath.splitOn Bytes.colon)

def refusalText : Errno → String
  | .noEntry | .notDirectory => "not found"
  | errno => errno.text

def refusalCode : Errno → Nat
  | .noEntry | .notDirectory | .nameTooLong | .linkLoop => 127
  | _ => 126

/-- Tell what a name means, in a sentence or by the word alone. -/
def describe (verbose : Bool) (searchPath name : Bytes) : Session Nat := do
  let state ← get
  let say (sentence : Bytes) : Session Nat :=
    Session.printLines [if verbose then name ++ sentence else name]
  if reservedWords.any (Bytes.ofText · == name) then say " is a shell keyword"
  else if let some text := state.aliases.lookup name then
    let line : Bytes :=
      if verbose then name ++ Bytes.ofText " is an alias for " ++ text
      else Bytes.ofText "alias " ++ aliasLine name text
    Session.printLines [line]
  else if state.functions.any (·.1 = name) then say " is a shell function"
  else if (builtin? name).isSome then
    say (if isSpecial name then " is a special shell builtin" else " is a shell builtin")
  else
    let path? :=
      if name.contains Bytes.slash then
        (state.world.find name).map fun _ => name
      else searchEntries state name .noEntry (searchPath.splitOn Bytes.colon)
    match path? with
    | .ok path => Session.printLines [if verbose then name ++ Bytes.ofText " is " ++ path else path]
    | .error _ => do
        if verbose then
          let _ ← Session.print (name ++ Bytes.ofText ": not found\n")
        return 127

/-- The end of the arguments of `command` that tell what to do: whether a name is to be described and
how, the search path and the words of the command. -/
structure CommandOptions where
  describes : Option Bool := none
  systemPath : Bool := false
  words : List Bytes

/-- Reads the options of `command`. -/
def readCommandOptions (arguments : List Bytes) : Session CommandOptions := do
  let (options, words) ← readOptions "pvV" arguments
  let described := options.filterMap fun (option, _) =>
    if option = 'v' then some false else if option = 'V' then some true else none
  return { describes := described.getLast?, systemPath := options.any (·.1 = 'p'), words }

end MakeLauncher.Shell
