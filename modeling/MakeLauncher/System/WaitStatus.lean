/-! The word in which the system says how a process ended. Its low seven bits are zero for a process
that ended by itself, with the exit code in the second byte; otherwise they name the signal that
ended it, except that all of them set means that it has not ended. -/

namespace MakeLauncher

structure WaitStatus where
  raw : Int32
  deriving DecidableEq, Repr

inductive Ending where
  | exited (code : Nat)
  | killed (signal : Nat) (dumped : Bool)
  /-- The process is stopped, or goes on after a stop, or the word says nothing. -/
  | notEnded
  deriving DecidableEq, Repr

namespace WaitStatus

def bits (status : WaitStatus) : Nat := status.raw.toUInt32.toNat

def ending (status : WaitStatus) : Ending :=
  let low := status.bits % 128
  if low = 0 then .exited (status.bits / 256 % 256)
  else if low = 127 then .notEnded
  else .killed low (status.bits / 128 % 2 = 1)

/-- The word of a process that ended by itself. The system keeps eight bits of the code. -/
def ofExit (code : Nat) : WaitStatus := ⟨Int32.ofNat (code % 256 * 256)⟩

def ofSignal (signal : Nat) : WaitStatus := ⟨Int32.ofNat (signal % 128)⟩

/-- The exit code as a shell counts it: the signal that ended a process counts from 128 on, and a
process that has not ended counts as failed. -/
def exitCode (status : WaitStatus) : Int :=
  match status.ending with
  | .exited code => code
  | .killed signal _ => 128 + signal
  | .notEnded => 1

/-- The exit code counts as zero: the process ended by itself, with zero. -/
def success (status : WaitStatus) : Bool := status.ending = .exited 0

/-- The system's own test for success is of the whole word: no bit of it is set. A word with stray bits
is not clear, though its exit code may be zero. -/
def isClear (status : WaitStatus) : Bool := status.raw = 0

end WaitStatus

def signalNames : List String :=
  ["HUP", "INT", "QUIT", "ILL", "TRAP", "ABRT", "BUS", "FPE", "KILL", "USR1", "SEGV", "USR2", "PIPE",
    "ALRM", "TERM", "STKFLT", "CHLD", "CONT", "STOP", "TSTP", "TTIN", "TTOU", "URG", "XCPU", "XFSZ",
    "VTALRM", "PROF", "WINCH", "IO", "PWR", "SYS"]

/-- The name of a signal as it stands behind its number, where it has one. -/
def signalName : Nat → String
  | 0 => ""
  | n + 1 =>
      match signalNames[n]? with
      | some name => " (SIG" ++ name ++ ")"
      | none => ""

def WaitStatus.description (status : WaitStatus) : String :=
  match status.ending with
  | .exited code => "exit status: " ++ toString code
  | .killed signal dumped =>
      "signal: " ++ toString signal ++ signalName signal ++ if dumped then " (core dumped)" else ""
  | .notEnded =>
      let stop := status.bits / 256 % 256
      if status.bits % 256 = 127 then
        "stopped (not terminated) by signal: " ++ toString stop ++ signalName stop
      else if status.bits = 65535 then "continued (WIFCONTINUED)"
      else "unrecognised wait status: " ++ toString status.raw.toInt ++ " 0x" ++
        String.ofList (Nat.toDigits 16 status.bits)

example : (WaitStatus.ofSignal 9).description = "signal: 9 (SIGKILL)" := by decide

example : (WaitStatus.ofExit 256).exitCode = 0 ∧ (WaitStatus.mk (-1)).exitCode = 1 ∧
    (WaitStatus.mk 0x8F).exitCode = 143 := by decide

end MakeLauncher
