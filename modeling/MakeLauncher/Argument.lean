import MakeLauncher.Text.Decoding

/-! The arguments of the command line, read one by one. None of them is refused and none is changed
on its way to make; a few also set something in the launcher: `-C` with the argument behind it, and
the assignments to the four variables of `Assignment`. -/

namespace MakeLauncher

/-- A switch is turned on by `1` and by `true`, and by nothing else. -/
def isOn (value : String) : Bool := value = "1" || value = "true"

/-- An assignment on the command line that the launcher takes notice of. -/
inductive Assignment where
  | log (on : Bool)
  | analyze (on : Bool)
  | analyzerOut (path : String)
  | appAbi (abi : String)
  deriving DecidableEq, Repr

namespace Assignment

/-- The assignment of a value to the variable of a name. -/
def ofKey? (key value : String) : Option Assignment :=
  if key = "NDK_LOG" then some (.log (isOn value))
  else if key = "NDK_ANALYZE" then some (.analyze (isOn value))
  else if key = "NDK_ANALYZER_OUT" then some (.analyzerOut value)
  else if key = "APP_ABI" then some (.appAbi value)
  else none

/-- The assignment that an argument spells, read as it is shown. The name ends at the first equals
sign. -/
def ofBytes? (argument : Bytes) : Option Assignment :=
  match argument.decode.dropWhile (· ≠ '=') with
  | [] => none
  | _ :: value =>
      ofKey? (String.ofList (argument.decode.takeWhile (· ≠ '='))) (String.ofList value)

end Assignment

/-- What one argument is. -/
inductive Argument where
  /-- The flag `-C`. -/
  | projectFlag
  /-- The argument behind that flag, whatever it looks like. -/
  | projectPath (path : Bytes)
  | assignment (assignment : Assignment)
  | other (bytes : Bytes)
  deriving DecidableEq, Repr

namespace Argument

/-- The flag that takes the path of the project from the next argument. -/
def flag : Bytes := "-C"

/-- What an argument is where no path is awaited. -/
def ofBytes (argument : Bytes) : Argument :=
  if argument = flag then .projectFlag
  else
    match Assignment.ofBytes? argument with
    | some a => .assignment a
    | none => .other argument

/-- What the arguments are, the first of them being awaited as a path or not. -/
def classifyFrom : Bool → List Bytes → List Argument
  | _, [] => []
  | true, path :: rest => .projectPath path :: classifyFrom false rest
  | false, argument :: rest => ofBytes argument :: classifyFrom (argument = flag) rest

def classify (arguments : List Bytes) : List Argument := classifyFrom false arguments

/-- Whether a path is awaited behind the arguments, when one was before them or was not. -/
def awaitsFrom (awaited : Bool) (arguments : List Argument) : Bool :=
  arguments.foldl (fun awaited argument =>
    match argument with
    | .projectFlag => true
    | .projectPath _ => false
    | _ => awaited) awaited

/-- Whether the last flag among the arguments has no path behind it. -/
def awaitsPath (arguments : List Argument) : Bool := awaitsFrom false arguments

theorem length_classifyFrom (awaited : Bool) (arguments : List Bytes) :
    (classifyFrom awaited arguments).length = arguments.length := by
  induction arguments generalizing awaited with
  | nil => cases awaited <;> rfl
  | cons argument rest ih => cases awaited <;> simp [classifyFrom, ih]

theorem length_classify (arguments : List Bytes) :
    (classify arguments).length = arguments.length := length_classifyFrom false arguments

end Argument
end MakeLauncher
