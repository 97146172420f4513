import MakeLauncher.Text.Decoding

/-! What can end a launch, and how it is reported. Every failure ends the launch with the same exit
code. -/

namespace MakeLauncher

/-- The refusals of the operating system that files and programs meet. -/
inductive Errno where
  | notPermitted
  | noEntry
  | noDevice
  | tooLong
  | execFormat
  | badStream
  | tryAgain
  | access
  | exists
  | notDirectory
  | isDirectory
  | invalid
  | busy
  | noSpace
  | brokenPipe
  | nameTooLong
  | notEmpty
  | linkLoop
  deriving DecidableEq, Repr

namespace Errno

def code : Errno → Nat
  | .notPermitted => 1
  | .noEntry => 2
  | .noDevice => 6
  | .tooLong => 7
  | .execFormat => 8
  | .badStream => 9
  | .tryAgain => 11
  | .access => 13
  | .exists => 17
  | .notDirectory => 20
  | .isDirectory => 21
  | .invalid => 22
  | .busy => 26
  | .noSpace => 28
  | .brokenPipe => 32
  | .nameTooLong => 36
  | .notEmpty => 39
  | .linkLoop => 40

def text : Errno → String
  | .notPermitted => "Operation not permitted"
  | .noEntry => "No such file or directory"
  | .noDevice => "No such device or address"
  | .tooLong => "Argument list too long"
  | .execFormat => "Exec format error"
  | .badStream => "Bad file descriptor"
  | .tryAgain => "Resource temporarily unavailable"
  | .access => "Permission denied"
  | .exists => "File exists"
  | .notDirectory => "Not a directory"
  | .isDirectory => "Is a directory"
  | .invalid => "Invalid argument"
  | .busy => "Text file busy"
  | .noSpace => "No space left on device"
  | .brokenPipe => "Broken pipe"
  | .nameTooLong => "File name too long"
  | .notEmpty => "Directory not empty"
  | .linkLoop => "Too many levels of symbolic links"

end Errno

/-- Why a request to the operating system came to nothing. -/
inductive IoFailure where
  | refused (errno : Errno)
  /-- A program or an argument holds a zero byte. -/
  | zeroInArgument
  | zeroInPath
  /-- The converter of paths ran and gave nothing for a path. -/
  | notConverted (path : Bytes) (code : Int)
  | other (text : String)
  deriving DecidableEq, Repr

def IoFailure.message : IoFailure → String
  | .refused errno => errno.text ++ " (os error " ++ toString errno.code ++ ")"
  | .zeroInArgument => "nul byte found in provided data"
  | .zeroInPath => "file name contained an unexpected NUL byte"
  | .notConverted path code =>
      "cannot convert " ++ path.shown ++ " (exit code " ++ toString code ++ ")"
  | .other text => text

/-- What ends a launch before make has run, or keeps make from being started. -/
inductive Failure where
  /-- The root of the installation has white space in its path. -/
  | whiteSpaceInRoot (root : Bytes)
  /-- The root of the installation cannot be found. -/
  | unknownRoot (reason : String)
  /-- The host did not say what it is. -/
  | unknownHost (subject reason : String)
  | unsupportedOs (kernel : String)
  | unsupportedProcessor (machine : String)
  /-- The make that the user asked for is no program. -/
  | invalidOverride (name : String)
  | noMake
  /-- The make that was found does not understand the paths of Cygwin. -/
  | incompatibleMake (make : String)
  | notStarted (program : String) (cause : IoFailure)
  deriving DecidableEq, Repr

namespace Failure

/-- The exit code of the launcher after any failure. -/
def exitCode (_ : Failure) : Int := 1

/-- The oldest version of make that will do. -/
def leastVersion : String := "3.81"

def message : Failure → String
  | .whiteSpaceInRoot root => "NDK path cannot contain whitespace: " ++ root.shown
  | .unknownRoot reason => "Cannot determine NDK installation root: " ++ reason
  | .unknownHost subject reason => "Cannot query host " ++ subject ++ ": " ++ reason
  | .unsupportedOs kernel => "Unknown host operating system: " ++ kernel
  | .unsupportedProcessor machine => "Unknown host CPU architecture: " ++ machine
  | .invalidOverride name => "Your GNUMAKE variable is defined to an invalid name: " ++ name
  | .noMake => "Cannot find 'make' program"
  | .incompatibleMake make => "You are using a non-Cygwin compatible Make program: " ++ make
  | .notStarted program cause => "Failed to run " ++ program ++ ": " ++ cause.message

/-- The wording of the failure behind a failure, where there is one. -/
def cause? : Failure → Option String
  | .notStarted _ cause => some cause.message
  | _ => none

/-- What the user can do about a failure, where there is something. -/
def remedy? : Failure → Option String
  | .invalidOverride _ =>
      some "Please fix it to point to a valid make executable (e.g. /usr/bin/make)"
  | .noMake =>
      some ("Please install GNU Make " ++ leastVersion ++
        " or later (the Cygwin 'make' package on Windows)\n" ++
        "or define the GNUMAKE variable to point to it.")
  | .incompatibleMake _ =>
      some ("To solve the issue, follow these steps:\n\n" ++
        "1. Ensure that the Cygwin 'make' package is installed.\n" ++
        "   NOTE: You will need GNU Make " ++ leastVersion ++ " or later!\n\n" ++
        "2. Define the GNUMAKE environment variable to point to it, as in:\n\n" ++
        "     export GNUMAKE=/usr/bin/make\n\n" ++
        "3. Call 'ndk-build' again.")
  | _ => none

/-- The lines that report a failure: its message, with the cause once more behind it, and the
remedy. -/
def report (failure : Failure) : String :=
  let headline := "ERROR: " ++ failure.message ++
    (match failure.cause? with
    | some cause => ": " ++ cause
    | none => "")
  headline ++ "\n" ++
    match failure.remedy? with
    | some remedy => remedy ++ "\n"
    | none => ""

end Failure
end MakeLauncher
