import MakeLauncher.Machine.Shell.State

/-! Signals as a shell names them, and what it does about those that reach it. -/

namespace MakeLauncher.Shell

open Bytes (ascii)
open Numeral (readDigits?)

/-- The number of signals and of the end of the shell, which counts as one. -/
def signalCount : Nat := 65

/-- The number of the first signal of those without a purpose. -/
def firstFreeSignal : Nat := 34

/-- A signal without a name, since no process gets it from the system. -/
def stackSignal : Nat := 16

def shortName (signal : Nat) : String :=
  if signal = 0 then "EXIT"
  else if signal = stackSignal then toString signal
  else
    match signalNames[signal - 1]? with
    | some name => name
    | none =>
        if signal < firstFreeSignal then toString signal
        else if signal = firstFreeSignal then "RTMIN"
        else if signal < 50 then "RTMIN+" ++ toString (signal - firstFreeSignal)
        else if signal + 1 < signalCount then "RTMAX-" ++ toString (signalCount - 1 - signal)
        else "RTMAX"

/-- The signal that a word names, by its number or, from `least` on, by its name. -/
def signal? (least : Nat) (word : Bytes) : Option Nat :=
  let number? : Option Nat :=
    match readDigits? 10 word with
    | some (n, []) => if n < signalCount then some n else none
    | _ => none
  match number? with
  | some n => some n
  | none =>
      ((List.range signalCount).drop least).find? fun signal =>
        (shortName signal).map Char.toUpper = word.shown.map Char.toUpper

/-- What is said about signals that end processes. -/
def signalTexts : List String :=
  ["Hangup", "Interrupt", "Quit", "Illegal instruction", "Trace/breakpoint trap", "Aborted",
    "Bus error", "Floating point exception", "Killed", "User defined signal 1",
    "Segmentation fault", "User defined signal 2", "Broken pipe", "Alarm clock", "Terminated",
    "Stack fault", "Child exited", "Continued", "Stopped (signal)", "Stopped",
    "Stopped (tty input)", "Stopped (tty output)", "Urgent I/O condition",
    "CPU time limit exceeded", "File size limit exceeded", "Virtual timer expired",
    "Profiling timer expired", "Window changed", "I/O possible", "Power failure",
    "Bad system call"]

def signalText (signal : Nat) : String :=
  match signalTexts[signal - 1]? with
  | some text => text
  | none =>
      if signal < firstFreeSignal then "Unknown signal " ++ toString signal
      else "Real-time signal " ++ toString (signal - firstFreeSignal)

namespace Session

/-- Tell the system which signals the shell acts on, and which do nothing to it. -/
def arrangeSignals : Session Unit :=
  modify fun state =>
    let set := state.traps.filter fun (signal, _) => signal ≠ 0 && !state.deaf.contains signal
    let caught := (set.filter fun (_, script) => !script.isEmpty).map (·.1)
    let ignored := (set.filter fun (_, script) => script.isEmpty).map (·.1)
    { state with
      world := state.world.updateSelf fun process =>
        { process with caught, ignored := state.deaf ++ ignored } }

/-- The least signal that has arrived for the shell to act on. It counts as acted on then. -/
def takeSignal : Session (Option Nat) := do
  match (← get).world.self.pending.min? with
  | none => return none
  | some signal =>
      modify fun state =>
        { state with
          world := state.world.updateSelf fun process =>
            { process with pending := process.pending.filter (· ≠ signal) } }
      return some signal

end Session
end MakeLauncher.Shell
