import MakeLauncher.Environment

/-! Processes to be started: the program, its arguments, and the variables it must not see. -/

namespace MakeLauncher

/-- A process to be started. -/
structure Invocation where
  program : Bytes
  arguments : List Bytes := []
  /-- The variables taken out of the environment of the process, in the order in which they were
  named. -/
  cleared : List String := []
  deriving DecidableEq, Repr

namespace Invocation

def withArgument (invocation : Invocation) (argument : Bytes) : Invocation :=
  { invocation with arguments := invocation.arguments ++ [argument] }

def withArguments (invocation : Invocation) (arguments : List Bytes) : Invocation :=
  { invocation with arguments := invocation.arguments ++ arguments }

def clearing (invocation : Invocation) (name : String) : Invocation :=
  { invocation with cleared := invocation.cleared ++ [name] }

/-- One step in the making of an invocation. -/
inductive Step where
  | argument (argument : Bytes)
  | arguments (arguments : List Bytes)
  | clearing (name : String)
  deriving DecidableEq, Repr

def step (invocation : Invocation) : Step → Invocation
  | .argument argument => invocation.withArgument argument
  | .arguments arguments => invocation.withArguments arguments
  | .clearing name => invocation.clearing name

end Invocation

/-- A name put in its place among names in order, once. -/
def insertName (name : String) : List String → List String
  | [] => [name]
  | other :: rest =>
      if name < other then name :: other :: rest
      else if name = other then other :: rest
      else other :: insertName name rest

/-- The names in ascending order, each once. -/
def sortNames (names : List String) : List String := names.foldr insertName []

/-- What stands for a program or an argument that holds a zero byte, which ends a string where the
system reads it. Such a command is never started. -/
def zeroMark : Bytes := "<string-with-nul>"

/-- A program or an argument as the system takes it. -/
def maskZero (bytes : Bytes) : Bytes := if bytes.contains 0 then zeroMark else bytes

/-- An invocation as the system takes it: the variables to be taken out are a set. -/
structure Command where
  program : Bytes
  arguments : List Bytes
  cleared : List String
  deriving DecidableEq, Repr

/-- The command of an invocation. -/
def Invocation.command (invocation : Invocation) : Command where
  program := maskZero invocation.program
  arguments := invocation.arguments.map maskZero
  cleared := sortNames invocation.cleared

end MakeLauncher
