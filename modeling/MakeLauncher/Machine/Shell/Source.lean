import MakeLauncher.Machine.Numeral
import MakeLauncher.Machine.Shell.Command
import MakeLauncher.Text.Decoding

/-! The text of a script on its way to be read: its bytes, its lines and its lexemes. A backslash at
the end of a line joins it to the next one wherever it is not quoted. -/

namespace MakeLauncher.Shell

open Bytes (ascii)

/-- The words that have a meaning of their own where a command can start. -/
def reservedWords : List String :=
  ["!", "case", "do", "done", "elif", "else", "esac", "fi", "for", "if", "in", "then", "until", "while",
    "\x7b", "\x7d"]

inductive Lexeme where
  | endOfFile
  | newline
  | semicolon
  | ampersand
  | both
  | either
  | pipe
  | openParen
  | closeParen
  | doubleSemicolon
  | redirection (descriptor : Nat) (kind : RedirectionKind)
  /-- The start of a text that the lines behind the current one hold. -/
  | document (descriptor : Nat) (stripped : Bool)
  | word (word : Word)
  | reserved (name : String)
  deriving DecidableEq, Repr

namespace Lexeme

/-- A word that is a reserved one as that. -/
def reserve (lexeme : Lexeme) : Lexeme :=
  match lexeme with
  | .word w =>
      match w.plain?.bind fun bytes => reservedWords.find? (Bytes.ofText · == bytes) with
      | some name => .reserved name
      | none => lexeme
  | _ => lexeme

def name : Lexeme → String
  | .endOfFile => "end of file"
  | .newline => "newline"
  | .semicolon => "\";\""
  | .ampersand => "\"&\""
  | .both => "\"&&\""
  | .either => "\"||\""
  | .pipe => "\"|\""
  | .openParen => "\"(\""
  | .closeParen => "\")\""
  | .doubleSemicolon => "\";;\""
  | .redirection _ _ | .document _ _ => "redirection"
  | .word _ => "word"
  | .reserved name => "\"" ++ name ++ "\""

/-- Whether a list of commands ends before a lexeme. -/
def endsList : Lexeme → Bool
  | .endOfFile | .closeParen | .doubleSemicolon => true
  | .reserved name =>
      ["do", "done", "elif", "else", "esac", "fi", "then", "\x7d"].contains name
  | _ => false

end Lexeme

/-- A text of a script that is to be read from the lines behind the current one. -/
structure AwaitedDocument where
  /-- The line that ends the text. -/
  delimiter : Bytes
  /-- The text has no expansions. -/
  quoted : Bool
  /-- Tabs at the start of its lines are left out. -/
  stripped : Bool
  deriving Repr

def isBlank (b : UInt8) : Bool := b = ascii ' ' || b = ascii '\t'

/-- The text of an alias that is being read in the place of its name. -/
structure Expansion where
  name : Bytes
  /-- The number of bytes of the script behind the text. -/
  behind : Nat
  /-- The text ends with a blank, so that the word behind it may be an alias too. -/
  goesOn : Bool
  deriving Repr

structure Source where
  rest : Bytes
  line : Nat := 1
  /-- A lexeme that has been looked at and put back. -/
  returned : Option Lexeme := none
  awaited : List AwaitedDocument := []
  /-- The texts that have been read. -/
  documents : Array Word := #[]
  /-- While one of those texts is read, how many lines its delimiter takes. -/
  linesBehind? : Option Nat := none
  /-- The stream from which there may be more to be read. -/
  stream? : Option Nat := none
  /-- The words that stand for a text where a command can start. -/
  aliases : List (Bytes × Bytes) := []
  /-- The texts of aliases that are being read, innermost first. -/
  expansions : List Expansion := []
  /-- The text of an alias has ended with a blank in front of the next word. -/
  followsBlank : Bool := false

structure Complaint where
  line : Nat
  text : String
  deriving Repr

abbrev Reader := StateT Source (Except Complaint)

namespace Reader

def refuse {α : Type} (text : String) : Reader α := fun source =>
  .error ⟨source.line, "Syntax error: " ++ text⟩

/-- Give up at a lexeme that does not belong where it stands. -/
def unexpected {α : Type} (lexeme : Lexeme) : Reader α := refuse (lexeme.name ++ " unexpected")

/-- Give up at a lexeme where another one must stand. -/
def expected {α : Type} (lexeme wanted : Lexeme) : Reader α :=
  refuse (lexeme.name ++ " unexpected (expecting " ++ wanted.name ++ ")")

/-- Bytes without the joints of lines at their start, and the line they are in. -/
def dropJoints : Bytes → Nat → Bytes × Nat
  | 92 :: 10 :: rest, line => dropJoints rest (line + 1)
  | bytes, line => (bytes, line)

def peek : Reader (Option UInt8) := do
  modify fun source =>
    let (rest, line) := dropJoints source.rest source.line
    { source with rest, line }
  return (← get).rest.head?

def skip (count : Nat) : Reader Unit :=
  modify fun source =>
    { source with
      rest := source.rest.drop count
      line := source.line + (source.rest.take count).count (ascii '\n') }

def take : Reader (Option UInt8) := do
  let next ← peek
  skip 1
  return next

/-- Pass over the next byte if it is this one. -/
def accept (b : UInt8) : Reader Bool := do
  if (← peek) = some b then
    skip 1
    return true
  else return false

/-- The longest run of bytes from here that satisfy a test. -/
def takeRun (test : UInt8 → Bool) : Nat → Reader Bytes
  | 0 => return []
  | bound + 1 => do
      match ← peek with
      | none => return []
      | some b =>
          if test b then
            let run := (← get).rest.takeWhile fun b => test b && b ≠ ascii '\\'
            if run.isEmpty then
              skip 1
              return b :: (← takeRun test bound)
            else
              skip run.length
              return run ++ (← takeRun test bound)
          else return []

def skipBlank : Reader Unit := do
  skip 1
  modify fun source =>
    let ends := source.expansions.any fun expansion =>
      expansion.goesOn && expansion.behind = source.rest.length
    { source with followsBlank := source.followsBlank || ends }

/-- Put the text of an alias in the place of its name, which has just been read. It is left alone where it
stands in that text itself. -/
def expandAlias (name : Bytes) : Reader Bool := do
  let source ← get
  let behind := source.rest.length
  let expansions := source.expansions.filter (·.behind ≤ behind)
  match source.aliases.lookup name with
  | none => return false
  | some text =>
      if expansions.any (·.name = name) then return false
      else
        let goesOn := text.getLast?.any isBlank
        set { source with
          rest := text ++ source.rest
          expansions := { name, behind, goesOn } :: expansions }
        return true

def giveBack (lexeme : Lexeme) : Reader Unit :=
  modify fun source => { source with returned := some lexeme }

def length : Reader Nat := return (← get).rest.length

end Reader

def backquote : UInt8 := UInt8.ofNat 96

end MakeLauncher.Shell
