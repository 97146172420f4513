import MakeLauncher.Settings

/-! The variables of the environment that a launch looks at, taken once when the launcher starts. -/

namespace MakeLauncher

/-- The variables of a process, each by its name. -/
abbrev Variables := List (String × Bytes)

namespace Variables

def value? (vars : Variables) (name : String) : Option Bytes := vars.lookup name

/-- The text of a variable. One that is empty, or is not well-formed UTF-8, counts as unset. -/
def text? (vars : Variables) (name : String) : Option String :=
  ((vars.value? name).bind Bytes.text?).filter (· ≠ "")

/-- The home of the user: what `HOME` says, or where that says nothing the home of the account. -/
def home (vars : Variables) (account : Bytes) : Bytes :=
  match vars.value? "HOME" with
  | some home => if home.isEmpty then account else home
  | none => account

/-- The variables with one more set, in the place of any of that name. -/
def set (vars : Variables) (name : String) (value : Bytes) : Variables :=
  (name, value) :: vars.filter (·.1 ≠ name)

def clear (vars : Variables) (names : List String) : Variables :=
  vars.filter fun entry => !names.contains entry.1

end Variables

/-- What a launch takes from the environment. -/
structure Environment where
  /-- The make that the user asks for, in `GNUMAKE`. -/
  chosenMake : Option String := none
  ostype : Option String := none
  log : Option String := none
  analyze : Option String := none
  /-- The list of directories that programs are searched in. -/
  searchPath : Bytes := []
  deriving DecidableEq, Repr

namespace Environment

def capture (vars : Variables) : Environment where
  chosenMake := vars.text? "GNUMAKE"
  ostype := vars.text? "OSTYPE"
  log := vars.text? "NDK_LOG"
  analyze := vars.text? "NDK_ANALYZE"
  searchPath := (vars.value? "PATH").getD []

/-- A shell of Cygwin says so in `OSTYPE`. -/
def isCygwin (environment : Environment) : Bool := environment.ostype = some "cygwin"

/-- The settings that a launch starts from, before it reads its arguments. -/
def seed (environment : Environment) : Settings where
  verbose := environment.log.any isOn
  analyze := environment.analyze.any isOn

end Environment
end MakeLauncher
