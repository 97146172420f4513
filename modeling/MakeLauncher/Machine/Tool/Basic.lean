import MakeLauncher.Machine.Numeral
import MakeLauncher.Machine.Routine

/-! What the utilities of a machine share: how they read their options and files, and how they
complain. -/

namespace MakeLauncher.Machine

open Bytes (ascii)

/-- A utility at work, by the name that it is called by and its arguments. The result is its exit
code. -/
abbrev Tool := Bytes → List Bytes → Activity Nat

namespace Tool

/-! ### Printing -/

def complain (parts : List Bytes) : Activity Unit := do
  let _ ← Activity.write 2 (parts.flatten ++ [ascii '\n'])

def refuse (parts : List Bytes) (code : Nat) : Activity Nat := do
  complain parts
  return code

def put (name bytes : Bytes) : Activity Unit := do
  match ← Activity.write 1 bytes with
  | .ok () => return
  | .error errno => do
      complain [name, ": write error: ", errno.text]
      Activity.exit (WaitStatus.ofExit 1)

def print (name bytes : Bytes) : Activity Nat := do
  put name bytes
  return 0

/-- Tell where there is more to be read about the use of a utility. -/
def hint (name : Bytes) : Bytes :=
  let parts : List Bytes := ["Try '", name, " --help' for more information."]
  parts.flatten

def refuseUse (name : Bytes) (parts : List Bytes) (code : Nat) : Activity Nat :=
  let start : List Bytes := [name, ": "]
  let finish : List Bytes := ["\n", hint name]
  refuse (start ++ parts ++ finish) code

/-- Complain that there are not enough arguments. -/
def refuseFew (name operand : Bytes) : Activity Nat := refuseUse name ["missing ", operand] 1

/-- Complain that there are not enough arguments behind the last one. -/
def refuseAfter (name operand last : Bytes) : Activity Nat :=
  refuseUse name ["missing ", operand, " after '", last, "'"] 1

def quotedBytes : Bytes := " !\"$&'()*;<=>?[\\^|:" ++ [UInt8.ofNat 96]

/-- The name of a file as a message tells it. It is quoted if it is empty or a shell would give one of
its bytes a meaning. -/
def shownName (name : Bytes) : Bytes :=
  let startsSpecial :=
    name.head? = some (ascii '#') || name.head? = some (ascii '~') ||
      name = [ascii '\x7b'] || name = [ascii '\x7d']
  let quote := ascii '\''
  if name.isEmpty || startsSpecial || name.any quotedBytes.contains then
    if name.contains quote then [ascii '"'] ++ name ++ [ascii '"'] else [quote] ++ name ++ [quote]
  else name

def quoted (word : Bytes) : Bytes :=
  let quote := ascii '\''
  if word.contains quote then [ascii '"'] ++ word ++ [ascii '"'] else [quote] ++ word ++ [quote]

/-! ### Options -/

/-- The options of a call, each with its value, and the other arguments. -/
structure Options where
  given : List (Char × Bytes) := []
  operands : List Bytes := []

namespace Options

def has (options : Options) (option : Char) : Bool := options.given.any (·.1 = option)

def value? (options : Options) (option : Char) : Option Bytes :=
  (options.given.reverse.find? (·.1 = option)).map (·.2)

def cons (option : Char × Bytes) (options : Options) : Options :=
  { options with given := option :: options.given }

/-- What a utility takes for options. -/
structure Grammar where
  /-- The letters, those with a value with a colon behind them. -/
  letters : String
  /-- Long names for letters. -/
  long : List (String × Char) := []
  /-- Options may stand behind other arguments. -/
  anywhere : Bool := true

namespace Grammar

/-- Whether a letter has a value, if it is one of an option. -/
def takesValue? (grammar : Grammar) (letter : Char) : Option Bool :=
  match grammar.letters.toList.dropWhile (· ≠ letter) with
  | [] => none
  | _ :: behind => if letter = ':' then none else some (behind.head? = some ':')

/-- What reading options gives: the options, or the complaint about them. -/
abbrev Outcome := Except (List Bytes) Options

/-- Reads the letters of one argument. A value is what is left of the argument, or else the next
argument. The function reads the other arguments. -/
def readLetters (grammar : Grammar) (rest : List Bytes) (more : List Bytes → Outcome) :
    Bytes → Outcome
  | [] => more rest
  | b :: letters =>
      let letter := Char.ofNat b.toNat
      match grammar.takesValue? letter with
      | none => .error ["invalid option -- '", [b], "'"]
      | some false => (grammar.readLetters rest more letters).map (cons (letter, []))
      | some true =>
          if letters.isEmpty then
            match rest with
            | [] => .error ["option requires an argument -- '", [b], "'"]
            | value :: rest => (more rest).map (cons (letter, value))
          else (more rest).map (cons (letter, letters))

/-- Reads an option with a long name, of which the start is enough if it is the start of no other. -/
def readLong (grammar : Grammar) (word : Bytes) (rest : List Bytes) (more : List Bytes → Outcome) :
    Outcome :=
  let name : Bytes := word.takeWhile (· ≠ ascii '=')
  let value? := (word.drop name.length).tail?
  let fits := grammar.long.filter fun (long, _) => name.isPrefixOf (Bytes.ofText long)
  let exact := grammar.long.filter fun (long, _) => Bytes.ofText long == name
  match exact, fits with
  | (long, letter) :: _, _ | [], [(long, letter)] =>
      match grammar.takesValue? letter, value?, rest with
      | some true, some value, _ => (more rest).map (cons (letter, value))
      | some true, none, value :: rest => (more rest).map (cons (letter, value))
      | some true, none, [] => .error ["option '--", Bytes.ofText long, "' requires an argument"]
      | _, some value, _ =>
          if letter.isUpper then (more rest).map (cons (letter, value))
          else .error ["option '--", Bytes.ofText long, "' doesn't allow an argument"]
      | _, none, _ => (more rest).map (cons (letter, []))
  | [], [] => .error ["unrecognized option '--", name, "'"]
  | [], _ =>
      .error ["option '--", word, "' is ambiguous; possibilities:",
        fits.flatMap fun (long, _) => Bytes.ofText (" '--" ++ long ++ "'")]

/-- Reads arguments, of which there are no more than the bound. -/
def readFrom (grammar : Grammar) : Nat → List Bytes → Outcome
  | bound + 1, word :: rest =>
      let more := grammar.readFrom bound
      if word = Bytes.ofText "--" then .ok { operands := rest }
      else if (Bytes.ofText "--").isPrefixOf word then grammar.readLong (word.drop 2) rest more
      else
        match word with
        | dash :: letters =>
            if dash = ascii '-' && !letters.isEmpty then grammar.readLetters rest more letters
            else if grammar.anywhere then
              (more rest).map fun options => { options with operands := word :: options.operands }
            else .ok { operands := word :: rest }
        | [] =>
            if grammar.anywhere then
              (more rest).map fun options => { options with operands := word :: options.operands }
            else .ok { operands := word :: rest }
  | _, words => .ok { operands := words }

end Grammar
end Options

/-- Read the options of a call and go on with them, or complain with an exit code. -/
def withOptions (grammar : Options.Grammar) (code : Nat) (name : Bytes) (arguments : List Bytes)
    (act : Options → Activity Nat) : Activity Nat :=
  match grammar.readFrom arguments.length arguments with
  | .ok options => act options
  | .error complaint => refuseUse name complaint code

/-! ### Files -/

/-- Do something with a file that is opened to be read, or with the standard input for a dash. -/
def withFile {α : Type} (path : Bytes) (act : Nat → Activity (Except Errno α)) :
    Activity (Except Errno α) := do
  if path = Bytes.ofText "-" then act 0
  else
    match ← Activity.openToRead path with
    | .error errno => return .error errno
    | .ok stream => do
        let result ← act stream
        Activity.setStream stream none
        return result

/-- The content of a file, or of the standard input for a dash. -/
def readFile (path : Bytes) : Activity (Except Errno Bytes) := withFile path Activity.readAll

/-- What is done for each of some files, or for the standard input if there are none, with the number
of files in front and its name. `blame` words what cannot be done with a file. The exit code is that
of a failure if one of them fails. -/
def forFiles (name : Bytes) (blame : Bytes → Bytes) (files : List Bytes)
    (act : Nat → Bytes → Nat → Activity (Except Errno Unit)) : Activity Nat := do
  let mut code := 0
  for (path, index) in (if files.isEmpty then [Bytes.ofText "-"] else files).zipIdx do
    match ← withFile path (act index path) with
    | .ok () => pure ()
    | .error errno =>
        code ← refuse [name, ": ", blame path, ": ", errno.text] 1
  return code

/-- The bytes of all files that can be read, one file behind the other, and the exit code. -/
def readFiles (name : Bytes) (blame : Bytes → Bytes) (files : List Bytes) :
    Activity (Bytes × Nat) := do
  let mut all : Bytes := []
  let mut code := 0
  for path in if files.isEmpty then [Bytes.ofText "-"] else files do
    match ← readFile path with
    | .ok bytes => all := all ++ bytes
    | .error errno => code ← refuse [name, ": ", blame path, ": ", errno.text] 1
  return (all, code)

def lines (bytes : Bytes) : List Bytes :=
  let pieces := bytes.splitOn (ascii '\n')
  let ended := pieces.dropLast.map (· ++ [ascii '\n'])
  ended ++ pieces.getLast?.toList.filter (· ≠ [])

def bareLines (bytes : Bytes) : List Bytes :=
  (lines bytes).map fun line =>
    if line.getLast? = some (ascii '\n') then line.dropLast else line

def unlines (lines : List Bytes) : Bytes := lines.flatMap (· ++ [ascii '\n'])

end Tool
end MakeLauncher.Machine
