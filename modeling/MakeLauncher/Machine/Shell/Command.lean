import MakeLauncher.Bytes

/-! The commands of a shell: words with quotes and expansions, simple commands with assignments and
redirections, pipelines, lists, conditionals, loops and functions. -/

namespace MakeLauncher.Shell

/-- A parameter that a word can refer to. -/
inductive Parameter where
  | variable (name : String)
  | argument (number : Nat)
  /-- All arguments, each a word of its own. -/
  | arguments
  /-- All arguments as one word. -/
  | joined
  | count
  | status
  /-- The number of the process that runs the script. -/
  | process
  /-- The number of the last process in the background. -/
  | background
  /-- The options that are on. -/
  | options
  deriving DecidableEq, Repr

/-- What a word does with a parameter. The flag `emptyIsUnset` counts one that is set to nothing as
not set. -/
inductive Action where
  | value
  | length
  /-- Another word stands in for a parameter that is not set. -/
  | default (emptyIsUnset : Bool)
  /-- Another word becomes the value of a parameter that is not set. -/
  | assign (emptyIsUnset : Bool)
  /-- Another word stands in for a parameter that is set. -/
  | alternative (emptyIsUnset : Bool)
  /-- The script ends with another word as its complaint if the parameter is not set. -/
  | require (emptyIsUnset : Bool)
  /-- What matches a pattern is cut off at an end. -/
  | trim (atEnd longest : Bool)
  | unknown
  deriving DecidableEq, Repr

/-- A word of a script, piece by piece. -/
inductive Word where
  | nil
  | text (quoted : Bool) (bytes : Bytes) (rest : Word)
  | parameter (quoted : Bool) (parameter : Parameter) (action : Action) (operand rest : Word)
  /-- What a script prints, which begins on a line. -/
  | command (quoted : Bool) (line : Nat) (script : Bytes) (rest : Word)
  | arithmetic (quoted : Bool) (expression rest : Word)
  deriving DecidableEq, Repr

/-- The builtins whose failures end a script, and which no function can have the name of. -/
def specialBuiltins : List String :=
  [".", ":", "break", "continue", "eval", "exec", "exit", "export", "readonly", "return", "set",
    "shift", "times", "trap", "unset"]

/-- A byte that a name of a variable can start with. -/
def startsName (b : UInt8) : Bool :=
  let c := Char.ofNat b.toNat
  c.isAlpha || c = '_'

/-- A byte that a name of a variable can go on with. -/
def continuesName (b : UInt8) : Bool :=
  let c := Char.ofNat b.toNat
  c.isAlphanum || c = '_'

def isName (bytes : Bytes) : Bool := bytes.head?.any startsName && bytes.all continuesName

namespace Word

def append : Word → Word → Word
  | .nil, word => word
  | .text quoted bytes rest, word => .text quoted bytes (rest.append word)
  | .parameter quoted p action operand rest, word =>
      .parameter quoted p action operand (rest.append word)
  | .command quoted line script rest, word => .command quoted line script (rest.append word)
  | .arithmetic quoted expression rest, word => .arithmetic quoted expression (rest.append word)

/-- The bytes of a word that has neither quotes nor expansions. -/
def plain? : Word → Option Bytes
  | .nil => some []
  | .text false bytes rest => rest.plain?.map (bytes ++ ·)
  | _ => none

/-- The bytes of a word without its quotes, its expansions left out. -/
def bare : Word → Bytes
  | .nil => []
  | .text _ bytes rest => bytes ++ rest.bare
  | .parameter _ _ _ _ rest => rest.bare
  | .command _ _ _ rest => rest.bare
  | .arithmetic _ _ rest => rest.bare

/-- Whether a part of a word is quoted. -/
def hasQuotes : Word → Bool
  | .nil => false
  | .text quoted _ rest => quoted || rest.hasQuotes
  | .parameter quoted _ _ _ rest => quoted || rest.hasQuotes
  | .command quoted _ _ rest => quoted || rest.hasQuotes
  | .arithmetic quoted _ rest => quoted || rest.hasQuotes

/-- A word that starts with a name and an equals sign, none of them quoted, as the name and the rest
of the word. -/
def assignment? : Word → Option (Bytes × Word)
  | .text false bytes rest =>
      let name := bytes.takeWhile continuesName
      match bytes.drop name.length with
      | equals :: value =>
          if equals = Bytes.ascii '=' && isName name then
            some (name, if value.isEmpty then rest else .text false value rest)
          else none
      | [] => none
  | _ => none

end Word

inductive RedirectionKind where
  | input
  | output
  /-- Output, also onto a file that is to be kept. -/
  | clobber
  | append
  | readWrite
  /-- The stream becomes another one. -/
  | duplicate
  /-- Input from a text of the script, by the number of the text. -/
  | document (number : Nat)
  deriving DecidableEq, Repr

/-- A change of where a stream goes. -/
structure Redirection where
  descriptor : Nat
  kind : RedirectionKind
  target : Word
  deriving DecidableEq, Repr

inductive Command where
  | nothing
  | simple (line : Nat) (assignments : List (Bytes × Word)) (words : List Word)
      (redirections : List Redirection)
  | pipe (first second : Command)
  | background (command : Command)
  | subshell (line : Nat) (command : Command) (redirections : List Redirection)
  | sequence (first second : Command)
  /-- The second command runs when the first succeeds. -/
  | both (first second : Command)
  /-- The second command runs when the first fails. -/
  | either (first second : Command)
  | negated (command : Command)
  | branch (condition yes no : Command)
  /-- The body runs while the condition succeeds or, with `stop`, while it fails. -/
  | loop (stop : Bool) (condition body : Command)
  | each (line : Nat) (name : Bytes) (words : List Word) (body : Command)
  /-- The first of the options runs that the subject matches. -/
  | choice (line : Nat) (subject : Word) (options : Command)
  /-- The body runs when the subject of the choice matches one of the patterns. -/
  | option (patterns : List Word) (body otherwise : Command)
  | redirected (line : Nat) (command : Command) (redirections : List Redirection)
  | function (name : Bytes) (body : Command)
  deriving DecidableEq, Repr

end MakeLauncher.Shell
