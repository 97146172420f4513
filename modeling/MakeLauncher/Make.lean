import MakeLauncher.Path
import MakeLauncher.Platform

/-! The GNU Make that a launch hands its arguments to. -/

namespace MakeLauncher

inductive Origin where
  /-- The user named it in `GNUMAKE`. -/
  | chosen
  /-- It comes with the installation. -/
  | prebuilt
  | searchPath
  deriving DecidableEq, Repr

def Origin.text : Origin → String
  | .chosen => "from environment variable"
  | .prebuilt => "NDK prebuilt"
  | .searchPath => "system path"

structure Make where
  path : Bytes
  origin : Origin
  deriving DecidableEq, Repr

namespace Make

/-- The name of make where the user gives none. -/
def defaultName : String := "make"

/-- The place of the make for a platform in an installation. -/
def prebuiltPath (root : Bytes) (platform : Platform) : Bytes :=
  (((root.join "prebuilt").join platform.tag).join "bin").join defaultName

end Make
end MakeLauncher
