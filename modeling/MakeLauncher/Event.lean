import MakeLauncher.Make
import MakeLauncher.Settings

/-! What a launch writes into its log. -/

namespace MakeLauncher

/-- How much an entry of the log matters. -/
inductive Level where
  | debug
  | info
  | warn
  deriving DecidableEq, Repr

def Level.name : Level → String
  | .debug => "DEBUG"
  | .info => "INFO"
  | .warn => "WARN"

inductive Event where
  /-- The arguments ended in a `-C` without a path. -/
  | danglingFlag
  | root (path : Bytes)
  | verbose (on : Bool)
  | analyze (on : Bool)
  | analyzerOut (path : String)
  | appAbi (abi : String)
  | projectPath (path : Bytes)
  | family (family : OsFamily)
  | processor (processor : Processor)
  | platform (platform : Platform)
  /-- The installation has no make for the platform; it would be at `path`. -/
  | noPrebuilt (path : Bytes)
  | make (make : Make)
  /-- Make understands the paths of Cygwin. -/
  | cygwinMake
  deriving DecidableEq, Repr

namespace Event

def level : Event → Level
  | .danglingFlag => .warn
  | .noPrebuilt _ => .debug
  | _ => .info

/-- A switch is logged as a digit. -/
def digit (on : Bool) : String := if on then "1" else "0"

def message : Event → String
  | .danglingFlag => "ignoring trailing -C with no project path"
  | .root path => "NDK_ROOT=" ++ path.shown
  | .verbose on => "NDK_LOG=" ++ digit on
  | .analyze on => "NDK_ANALYZE=" ++ digit on
  | .analyzerOut path => "NDK_ANALYZER_OUT=" ++ path
  | .appAbi abi => "APP_ABI=" ++ abi
  | .projectPath path => "PROJECT_PATH=" ++ path.shown
  | .family os => "HOST_OS=" ++ os.name
  | .processor cpu => "HOST_ARCH=" ++ cpu.name
  | .platform host => "HOST_TAG=" ++ host.tag
  | .noPrebuilt _ => "no prebuilt make"
  | .make found => "GNUMAKE=" ++ found.path.shown ++ " (" ++ found.origin.text ++ ")"
  | .cygwinMake => "Cygwin-compatible GNU make detected"

/-- The path that an entry carries beside its wording. -/
def path? : Event → Option Bytes
  | .noPrebuilt path => some path
  | _ => none

def ofArguments (arguments : List Argument) : List Event :=
  if Argument.awaitsPath arguments then [.danglingFlag] else []

/-- The entries that show the settings of a launch. Those without a value are left out. -/
def ofSettings (settings : Settings) : List Event :=
  [.verbose settings.verbose, .analyze settings.analyze] ++
    settings.analyzerOut.toList.map .analyzerOut ++ settings.appAbi.toList.map .appAbi ++
    settings.projectPath.toList.map .projectPath

def ofPlatform (host : Platform) : List Event :=
  [.family host.family, .processor host.processor, .platform host]

end Event

/-- Settings with arguments read into them, and the entries that are written on the way. -/
def Settings.read (settings : Settings) (arguments : List Bytes) : Settings × List Event :=
  (settings.withArguments arguments, Event.ofArguments (Argument.classify arguments))

end MakeLauncher
