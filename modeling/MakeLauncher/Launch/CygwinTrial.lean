import MakeLauncher.Launch.Basic
import MakeLauncher.Path

/-! The trial of make under Cygwin. A make that is no program of Cygwin starts without a complaint
and then garbles the paths it is given, so it is run once on a small script before the build. -/

namespace MakeLauncher

/-- The styles that `cygpath` writes paths in. -/
inductive PathStyle where
  /-- As in `/cygdrive/c/tools`. -/
  | unix
  /-- As in `C:/tools`. -/
  | mixed
  deriving DecidableEq, Repr

def PathStyle.flag : PathStyle → String
  | .unix => "-u"
  | .mixed => "-m"

namespace CygwinTrial

/-- The program that converts paths. -/
def converter : String := "cygpath"

/-- The script for the trial, in an installation. -/
def script : String := "core/check-cygwin-make.mk"

def conversion (style : PathStyle) (path : Bytes) : Invocation where
  program := converter
  arguments := [style.flag, path]

/-- The process that tries a make, given the path of the installation. -/
def trial (make root : Bytes) : Invocation where
  program := make
  arguments := ["-f", root.join script]

/-- A path in another style. A converter that fails or prints nothing has not converted it. -/
def convert (runner : Runner) (style : PathStyle) (path : Bytes) : Launch Bytes := do
  let reply ← Launch.call runner .output (conversion style path)
  if reply.code = 0 ∧ reply.stdout ≠ "" then pure (Bytes.ofText reply.stdout)
  else throw (.notStarted converter (.notConverted path reply.code))

/-- The path that Cygwin starts a make by, once the make has stood the trial. One that has not is
reported in the style that its user knows, if that can be had. -/
def run (runner : Runner) (make root : Bytes) : Launch Bytes := do
  let make ← convert runner .unix make
  let root ← convert runner .mixed root
  let reply ← Launch.call runner .output (trial make root)
  if reply.code = 0 then
    Launch.note .cygwinMake
    pure make
  else
    let known ← tryCatch (convert runner .mixed make) fun _ => pure make
    throw (.incompatibleMake known.shown)

end CygwinTrial
end MakeLauncher
