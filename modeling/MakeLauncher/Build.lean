import MakeLauncher.Environment
import MakeLauncher.Failure
import MakeLauncher.Invocation
import MakeLauncher.Path
import MakeLauncher.Text.WhiteSpace

/-! What a launch is asked for, and the build that it comes to. Make splits its arguments at white
space, so there is a build only in an installation whose path has none. -/

namespace MakeLauncher

/-- What a launch is asked for. -/
structure Request where
  root : Bytes
  directory : Bytes
  /-- The arguments, all of which go to make. -/
  arguments : List Bytes
  environment : Environment
  deriving DecidableEq, Repr

/-- The settings that the environment and the arguments of a request make up. -/
def Request.settings (request : Request) : Settings :=
  request.environment.seed.withArguments request.arguments

/-- A path may stand as the root of an installation when it has no white space. -/
def checkRoot (root : Bytes) : Except Failure Unit :=
  if root.hasWhiteSpace then .error (.whiteSpaceInRoot root) else .ok ()

/-- A request in an installation that make can work in. -/
structure Build extends Request where
  clean : root.hasWhiteSpace = false
  deriving DecidableEq

namespace Build

def ofRequest (request : Request) : Except Failure Build :=
  if h : request.root.hasWhiteSpace = false then .ok { request with clean := h }
  else .error (.whiteSpaceInRoot request.root)

/-- The script that make is told to run. -/
def script (build : Build) : Bytes := (build.root.join "core").join "build-local.mk"

/-- The flag that keeps the output of jobs that run side by side together. -/
def syncFlag : String := "-O"

/-- The assignment that makes the compiler run its analyzer. -/
def analysisFlag : String := "APP_CFLAGS+=--analyze"

/-- The variables that make must not see. -/
def hiddenVariables : List String := ["PYTHONPATH", "PYTHONHOME"]

/-- The process that is the build, when make is started by the path `program`. -/
def invocation (build : Build) (program : Bytes) : Invocation where
  program := program
  arguments := [Bytes.ofText syncFlag, Bytes.ofText "-f", build.script] ++
    (if build.settings.analyze then [Bytes.ofText analysisFlag] else []) ++ build.arguments
  cleared := hiddenVariables

theorem ofRequest_eq_ok_iff {request : Request} {build : Build} :
    ofRequest request = .ok build ↔ build.toRequest = request := by
  unfold ofRequest
  split
  · constructor
    · rintro ⟨⟩
      rfl
    · rintro rfl
      rfl
  · rename_i h
    constructor
    · rintro ⟨⟩
    · rintro rfl
      exact absurd build.clean h

end Build

/-- The root of the installation that a launcher belongs to: the directory of its executable. The
path of the executable is `given`, and `located` once its links are followed. -/
def rootOfLauncher (given : Bytes) (located : Except IoFailure Bytes) : Except Failure Bytes :=
  match located with
  | .error cause => .error (.unknownRoot (given.shown ++ ": " ++ cause.message))
  | .ok path =>
      match path.parent? with
      | some root => .ok root
      | none => .error (.unknownRoot (path.shown ++ " has no parent directory"))

end MakeLauncher
