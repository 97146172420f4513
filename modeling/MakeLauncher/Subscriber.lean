import MakeLauncher.Environment
import MakeLauncher.Event

/-! Where the log of a run goes. The subscriber prints the entries up to some level, each as a line, and
in colours unless the environment asks for none. It is not there from the start: entries that are written
before it is there go nowhere. -/

namespace MakeLauncher

namespace Level

/-- How far down the level is: the higher, the less an entry matters. -/
def depth : Level → Nat
  | .warn => 1
  | .info => 2
  | .debug => 3

/-- The name in five places, aligned on the right. -/
def aligned (level : Level) : String :=
  String.ofList (List.replicate (5 - level.name.length) ' ') ++ level.name

/-- The code of the colour that a terminal shows the level in. -/
def colour : Level → String
  | .warn => "33"
  | .info => "32"
  | .debug => "34"

end Level

structure Subscriber where
  /-- The last of the levels whose entries are printed. -/
  last : Level
  /-- Lines have the codes in them that a terminal changes its colours by. -/
  coloured : Bool
  deriving DecidableEq, Repr

namespace Subscriber

/-- The subscriber of a run with some variables. A value of `NO_COLOR` that is not well-formed is as good
as none, and so is an empty one. -/
def ofRun (verbose : Bool) (vars : Variables) : Subscriber where
  last := if verbose then .debug else .warn
  coloured := (vars.text? "NO_COLOR").isNone

def takes (subscriber : Subscriber) (event : Event) : Bool := event.level.depth ≤ subscriber.last.depth

/-- A character as a line has it. Those that a terminal would act on are spelled out. -/
def escapeChar (c : Char) : List Char :=
  let digits := Nat.toDigits 16 c.toNat
  if [0x07, 0x08, 0x0C, 0x1B, 0x7F].contains c.toNat then
    ['\\', 'x'] ++ List.replicate (2 - digits.length) '0' ++ digits
  else if 0x80 ≤ c.toNat && c.toNat ≤ 0x9F then ['\\', 'u', '\x7b'] ++ digits ++ ['\x7d']
  else [c]

def escape (text : String) : String := String.ofList (text.toList.flatMap escapeChar)

example : escape "a\x1b[0m\x07\u0085" = "a\\x1b[0m\\x07\\u\x7b85\x7d" := by decide

/-- A text in a style of the terminal, which ends behind it. -/
def paint (subscriber : Subscriber) (style text : String) : String :=
  if subscriber.coloured then "\x1b[" ++ style ++ "m" ++ text ++ "\x1b[0m" else text

def label (subscriber : Subscriber) (level : Level) : String :=
  subscriber.paint level.colour level.aligned

def italic : String := "3"

def dimmed : String := "2"

/-- The line that an entry is printed as. A path beside the wording is printed as it is. -/
def line (subscriber : Subscriber) (event : Event) : String :=
  subscriber.label event.level ++ " " ++ escape event.message ++
    match event.path? with
    | some path => " " ++ subscriber.paint italic "path" ++ subscriber.paint dimmed "=" ++ path.shown
    | none => ""

example : line ⟨.debug, true⟩ (.verbose true) = "\x1b[32m INFO\x1b[0m NDK_LOG=1" ∧
    line ⟨.debug, false⟩ (.noPrebuilt "/make") = "DEBUG no prebuilt make path=/make" := by decide

end Subscriber

/-- The subscriber, as soon as it is there, and the lines that have been printed. -/
structure Console where
  subscriber? : Option Subscriber := none
  lines : List String := []
  deriving DecidableEq, Repr

namespace Console

def install (console : Console) (subscriber : Subscriber) : Console :=
  { console with subscriber? := some subscriber }

def write (console : Console) (event : Event) : Console :=
  match console.subscriber? with
  | none => console
  | some subscriber =>
      if subscriber.takes event then
        { console with lines := console.lines ++ [subscriber.line event] }
      else console

def writeAll (console : Console) (log : List Event) : Console := log.foldl write console

end Console

def printedLines (lines : List String) : Bytes :=
  lines.flatMap fun text => Bytes.ofText (text ++ "\n")

end MakeLauncher
