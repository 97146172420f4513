import MakeLauncher.Machine.Load
import MakeLauncher.Machine.Shell.Signals
import MakeLauncher.Machine.Tool.Names

/-! The utilities that run other programs: `env`, `nohup`, `nice`, `setsid`, `stdbuf`, `timeout` and
`xargs`. -/

namespace MakeLauncher.Machine

open Bytes (ascii)
open Numeral (decimal readDigits?)

namespace Activity

/-- Run a program by its name in the place of this one, with other variables. There is a result only if
that is refused. -/
def execNamed (name : Bytes) (arguments : List Bytes) (vars : Variables) : Activity Errno := do
  match (← get).search true name arguments vars with
  | .error errno => return errno
  | .ok call => exec call

end Activity

namespace Tool

/-- The exit code that tells that a program cannot be run. -/
def refusedCode : Errno → Nat
  | .noEntry => 127
  | _ => 126

/-! ### Programs with other variables -/

/-- A way through a text that is to be split into words, as `env` does it. -/
structure TextSplit where
  /-- The words that are complete, last one first. -/
  finished : List Bytes := []
  /-- The bytes of the word that is not complete, last one first, if there is one. -/
  current? : Option Bytes := none
  deriving DecidableEq, Repr

namespace TextSplit

def add (split : TextSplit) (b : UInt8) : TextSplit :=
  { split with current? := some (b :: split.current?.getD []) }

/-- The split after the start of a word, which may stay empty. -/
def begin (split : TextSplit) : TextSplit :=
  { split with current? := some (split.current?.getD []) }

def close (split : TextSplit) : TextSplit :=
  match split.current? with
  | some word => { finished := word.reverse :: split.finished }
  | none => split

/-- The bytes that letters behind a backslash stand for. -/
def controls : List (Char × Char) :=
  [('f', '\x0c'), ('n', '\n'), ('r', '\r'), ('t', '\t'), ('v', '\x0b'), ('"', '"'), ('#', '#'),
    ('$', '$'), ('\'', '\''), ('\\', '\\')]

/-- Splits a text. The quote around it is given, if there is one. The bound is on the number of bytes. -/
def read (vars : Variables) : Nat → Option UInt8 → TextSplit → Bytes → Except (List Bytes) (List Bytes)
  | 0, _, split, _ => .ok split.close.finished.reverse
  | _ + 1, none, split, [] => .ok split.close.finished.reverse
  | _ + 1, some _, _, [] => .error ["no terminating quote in -S string"]
  | bound + 1, quote?, split, b :: rest =>
      let single := ascii '\''
      let double := ascii '"'
      let isBlank := [' ', '\t', '\n', '\x0b', '\x0c', '\r'].any (ascii · = b)
      if (b = single || b = double) && quote? = some b then read vars bound none split rest
      else if (b = single || b = double) && quote?.isNone then
        read vars bound (some b) split.begin rest
      else if quote?.isNone && isBlank then read vars bound none split.close rest
      else if quote?.isNone && b = ascii '#' && split.current?.isNone then
        .ok split.close.finished.reverse
      else if b = ascii '\\' && quote? = some single then
        match rest with
        | next :: rest =>
            if next = ascii '\\' || next = single then read vars bound quote? (split.add next) rest
            else read vars bound quote? (split.add b) (next :: rest)
        | [] => read vars bound quote? (split.add b) []
      else if b = ascii '\\' then
        match rest with
        | [] => .error ["invalid backslash at end of string in -S"]
        | next :: rest =>
            match controls.find? fun (letter, _) => ascii letter = next with
            | some (_, byte) => read vars bound quote? (split.add (ascii byte)) rest
            | none =>
                if next = ascii '_' then
                  read vars bound quote?
                    (if quote?.isSome then split.add (ascii ' ') else split.close) rest
                else if next = ascii 'c' then
                  if quote?.isSome then
                    .error ["'\\c' must not appear in double-quoted -S string"]
                  else .ok split.close.finished.reverse
                else .error ["invalid sequence '\\", [next], "' in -S"]
      else if b = ascii '$' && quote? ≠ some single then
        let behind := rest.drop 1
        let name : Bytes := behind.takeWhile Shell.continuesName
        let isOpen := rest.head? = some (ascii '\x7b')
        let isClosed := (behind.drop name.length).head? = some (ascii '\x7d')
        if isOpen && isClosed && Shell.isName name then
          let value := (vars.value? name.shown).getD []
          read vars bound quote? (value.foldl add split) (behind.drop (name.length + 1))
        else .error ["only $\x7bVARNAME\x7d expansion is supported, error at: ", b :: rest]
      else read vars bound quote? (split.add b) rest

end TextSplit

/-- The words of a text that is to be split. -/
def splitText (vars : Variables) (text : Bytes) : Except (List Bytes) (List Bytes) :=
  TextSplit.read vars (text.length + 1) none {} text

/-- The arguments of `env` with the text behind the option `-S` split into words. The bound is on the
number of arguments. -/
def expandSplits (vars : Variables) : Nat → List Bytes → Except (List Bytes) (List Bytes)
  | bound + 1, word :: rest =>
      let long := Bytes.ofText "--split-string"
      let letters := word.tail
      let takesValue (b : UInt8) : Bool := b = ascii 'S' || b = ascii 'u' || b = ascii 'C'
      let plain := letters.takeWhile (!takesValue ·)
      let split (earlier : List Bytes) (text : Bytes) (rest : List Bytes) :
          Except (List Bytes) (List Bytes) := do
        return earlier ++ (← expandSplits vars bound ((← splitText vars text) ++ rest))
      if word.head? ≠ some (ascii '-') || word.length < 2 || word = Bytes.ofText "--" then
        .ok (word :: rest)
      else if word = long then
        match rest with
        | text :: rest => split [] text rest
        | [] => .ok [word]
      else if (long ++ [ascii '=']).isPrefixOf word then split [] (word.drop (long.length + 1)) rest
      else if letters.head? = some (ascii '-') then
        return word :: (← expandSplits vars bound rest)
      else
        match letters.drop plain.length with
        | [] => return word :: (← expandSplits vars bound rest)
        | b :: value =>
            if b = ascii 'S' then
              let earlier := if plain.isEmpty then [] else [ascii '-' :: plain]
              if value.isEmpty then
                match rest with
                | text :: rest => split earlier text rest
                | [] => .ok [word]
              else split earlier value rest
            else if value.isEmpty then
              match rest with
              | value :: rest => return word :: value :: (← expandSplits vars bound rest)
              | [] => .ok [word]
            else return word :: (← expandSplits vars bound rest)
  | _, words => .ok words

/-- The variables with the settings in front of some words, and the other words. -/
def applySettings (vars : Variables) : List Bytes → Variables × List Bytes
  | [] => (vars, [])
  | word :: rest =>
      let name : Bytes := word.takeWhile (· ≠ ascii '=')
      match word.drop name.length with
      | _ :: value => applySettings (vars.filter (·.1 ≠ name.shown) ++ [(name.shown, value)]) rest
      | [] => (vars, word :: rest)

/-- Runs a program with other variables, or prints the variables. -/
def env : Tool := fun name arguments => do
  let given := (← get).self.vars
  let grammar : Options.Grammar :=
    { letters := "C:iS:u:v0"
      long := [("ignore-environment", 'i'), ("null", '0'), ("unset", 'u'), ("chdir", 'C'),
        ("split-string", 'S'), ("debug", 'v')]
      anywhere := false }
  let size := arguments.flatten.length + arguments.length
  match expandSplits given (2 * size + 1) arguments with
  | .error complaint => refuse (name :: ": " :: complaint) 125
  | .ok arguments =>
      withOptions grammar 125 name arguments fun options => do
        let alone := options.operands.head? = some (Bytes.ofText "-")
        let words := if alone then options.operands.tail else options.operands
        let unset := (options.given.filter (·.1 = 'u')).map (·.2)
        match unset.find? fun name => name.isEmpty || name.contains (ascii '=') with
        | some wrong => refuse [name, ": cannot unset ", quoted wrong, ": ", Errno.invalid.text] 125
        | none => do
            let start := if options.has 'i' || alone then [] else given.clear (unset.map Bytes.shown)
            let (vars, words) := applySettings start words
            let finish : Bytes := if options.has '0' then [0] else [ascii '\n']
            match words with
            | [] =>
                if options.has 'C' then
                  refuseUse name ["must specify command with --chdir (-C)"] 125
                else
                  print name (vars.flatMap fun (key, value) =>
                    Bytes.ofText key ++ ascii '=' :: value ++ finish)
            | program :: arguments =>
                if options.has '0' then
                  refuseUse name ["cannot specify --null (-0) with command"] 125
                else
                  let directory := (options.value? 'C').getD Bytes.here
                  match (← get).place directory with
                  | .error errno =>
                      refuse [name, ": cannot change directory to ", quoted directory, ": ",
                        errno.text] 125
                  | .ok place =>
                      if !(← get).tree.isDirectory place then
                        refuse [name, ": cannot change directory to ", quoted directory, ": ",
                          Errno.notDirectory.text] 125
                      else do
                        modify (·.updateSelf ({ · with directory := place }))
                        let errno ← Activity.execNamed program arguments vars
                        complain [name, ": ", quoted program, ": ", errno.text]
                        if errno = .noEntry &&
                            program.any fun b => b = ascii ' ' || (9 ≤ b && b ≤ 13) then
                          complain [name, ": use -[v]S to pass options in shebang lines"]
                        return refusedCode errno

/-! ### Programs in other circumstances -/

/-- Run the program that words name in the place of this one, or complain that it cannot be run. -/
def runWords (name : Bytes) (words : List Bytes) : Activity Nat := do
  let program := words.headD []
  let errno ← Activity.execNamed program words.tail (← get).self.vars
  refuse [name, ": failed to run command ", quoted program, ": ", errno.text] (refusedCode errno)

def nohup : Tool := fun name arguments =>
  withOptions { letters := "", anywhere := false } 125 name arguments fun options => do
    if options.operands.isEmpty then refuseUse name ["missing operand"] 125
    else
      modify (·.updateSelf fun process => { process with ignored := 1 :: process.ignored })
      runWords name options.operands

/-- Runs a program with less of a claim to the processor, of which there is enough. -/
def nice : Tool := fun name arguments =>
  withOptions { letters := "n:", long := [("adjustment", 'n')], anywhere := false } 125 name
      arguments fun options =>
    if options.operands.isEmpty then print name "0\n" else runWords name options.operands

/-- Runs a program that prints as it comes, as all do. -/
def stdbuf : Tool := fun name arguments =>
  withOptions { letters := "i:o:e:", long := [("input", 'i'), ("output", 'o'), ("error", 'e')]
                anywhere := false } 125 name arguments fun options =>
    if options.operands.isEmpty then refuseUse name ["missing operand"] 125
    else if options.given.isEmpty then
      refuseUse name ["you must specify a buffering mode option"] 125
    else runWords name options.operands

/-- Start a process that does something and ends with its exit code. The result is its number. -/
def startProcess (body : Activity Nat) : Activity Nat := do
  match ← Activity.forkForProgram with
  | .parent child => return child
  | .child => do
      let code ← body
      Activity.exit (WaitStatus.ofExit code)

/-- Runs a program in a session of its own. -/
def setsid : Tool := fun name arguments =>
  withOptions { letters := "cfw", long := [("ctty", 'c'), ("fork", 'f'), ("wait", 'w')]
                anywhere := false } 1 name arguments fun options => do
    match options.operands with
    | [] => refuseUse name ["no command specified"] 1
    | program :: arguments => do
        let run : Activity Nat := do
          let errno ← Activity.execNamed program arguments (← get).self.vars
          refuse [name, ": failed to execute ", program, ": ", errno.text] (refusedCode errno)
        if options.has 'f' then
          let child ← startProcess run
          if options.has 'w' then
            return (← Activity.waitFor child).exitCode.toNat
          else return 0
        else run

/-- The processes that a process has started, and those that these have. The bound is on the number of
generations. -/
def descendants (world : World) : Nat → Nat → List Nat
  | 0, _ => []
  | bound + 1, number =>
      let children := world.processes.filterMap fun (child, process) =>
        if process.parent = number then some child else none
      children.flatMap fun child => child :: descendants world bound child

def signalChildren (signal : Nat) : Activity Unit :=
  modify fun world =>
    (descendants world world.processes.length world.current).foldl (·.signal · signal) world

/-- Wait until a child has ended, or for a time if one is given. The result tells whether it has. -/
def awaitChild (child : Nat) (time? : Option Nat) : Activity Bool := do
  let hasEnded (world : World) : Bool := world.isOver child
  let until? := time?.map ((← get).clock + ·)
  if !hasEnded (← get) then Activity.pause { ready := hasEnded, until? }
  return hasEnded (← get)

/-- Runs a program, and sends it a signal if it takes longer than a time. -/
def timeout : Tool := fun name arguments =>
  let grammar : Options.Grammar :=
    { letters := "k:s:vfp"
      long := [("foreground", 'f'), ("kill-after", 'k'), ("preserve-status", 'p'), ("signal", 's'),
        ("verbose", 'v')]
      anywhere := false }
  withOptions grammar 125 name arguments fun options => do
    let wrongTime (word : Bytes) : Activity Nat :=
      refuseUse name ["invalid time interval ", quoted word] 125
    let signalName := (options.value? 's').getD "TERM"
    match (options.value? 'k').map fun word => (word, duration? word) with
    | some (word, none) => wrongTime word
    | killAfter? => do
        match Shell.signal? 0 signalName, options.operands with
        | none, _ => refuseUse name [quoted signalName, ": invalid signal"] 125
        | _, [] | _, [_] => refuse [hint name] 125
        | some signal, time :: words => do
            match duration? time with
            | none => wrongTime time
            | some time => do
                let child ← startProcess (runWords name words)
                let limit? := if time = 0 then none else some time
                let killTime? := killAfter?.bind (·.2)
                let isOver ← awaitChild child limit?
                if !isOver then
                  if options.has 'v' then
                    complain [name, ": sending signal ", Bytes.ofText (Shell.shortName signal),
                      " to command ", quoted (words.headD [])]
                  signalChildren signal
                  signalChildren World.continueSignal
                  if signal = 9 then
                    modify fun world => world.signal world.current 9
                    Activity.giveWay
                  let isKilled ← awaitChild child killTime?
                  if !isKilled then
                    signalChildren 9
                    modify fun world => world.signal world.current 9
                    Activity.giveWay
                let status ← Activity.waitFor child
                match status.ending with
                | .killed signal _ => do
                    if isOver then
                      modify fun world =>
                        (world.updateSelf ({ · with caught := [], ignored := [] })).signal
                          world.current signal
                      Activity.giveWay
                    return if isOver || signal = 9 || options.has 'p' then 128 + signal else 124
                | _ =>
                    return if isOver || options.has 'p' then status.exitCode.toNat else 124

/-! ### Programs with arguments that are read -/

/-- The words on the lines of an input. Blanks and ends of lines separate words, and quotes and
backslashes keep them together. -/
structure InputWords where
  /-- The words of the lines that are complete, last line first and last word first. -/
  lines : List (List Bytes) := []
  /-- The words of the line that is not complete, last one first. -/
  words : List Bytes := []
  /-- The bytes of the word that is not complete, last one first, if there is one. -/
  current? : Option Bytes := none
  /-- The quote around the next bytes. -/
  quote? : Option UInt8 := none
  /-- The next byte has no meaning of its own. -/
  isEscaped : Bool := false

namespace InputWords

def close (input : InputWords) : InputWords :=
  match input.current? with
  | some word => { input with words := word.reverse :: input.words, current? := none }
  | none => input

/-- The words when a line is complete. Empty lines do not count. -/
def closeLine (input : InputWords) : InputWords :=
  let closed := input.close
  if closed.words.isEmpty then closed
  else { closed with lines := closed.words :: closed.lines, words := [] }

/-- The words after one more byte. With `whole` a line is one word, without the blanks in front. -/
def add (whole : Bool) (input : InputWords) (b : UInt8) : InputWords :=
  let longer := { input with current? := some (b :: input.current?.getD []), isEscaped := false }
  let isBlank := b = ascii ' ' || b = ascii '\t'
  if input.isEscaped then longer
  else if input.quote?.isSome then
    if input.quote? = some b then { input with quote? := none } else longer
  else if b = ascii '\'' || b = ascii '"' then
    { input with quote? := some b, current? := some (input.current?.getD []) }
  else if b = ascii '\\' then { input with isEscaped := true }
  else if b = ascii '\n' then input.closeLine
  else if isBlank && (!whole || input.current?.isNone) then
    if whole then input else input.close
  else longer

end InputWords

/-- Parts of a list, each as long as it may be but the last. -/
def portions {α : Type} (size : Nat) (items : List α) : List (List α) :=
  go items.length items
where
  /-- The parts, no more than the bound. -/
  go : Nat → List α → List (List α)
    | 0, _ | _, [] => []
    | bound + 1, items => items.take size :: go bound (items.drop size)

def replaceAll (old new : Bytes) : Bytes → Bytes
  | [] => []
  | b :: rest =>
      if !old.isEmpty && old.isPrefixOf (b :: rest) then
        new ++ replaceAll old new (rest.drop (old.length - 1))
      else b :: replaceAll old new rest
termination_by text => text.length

/-- How the calls of `xargs` have gone: the exit code, and whether there are to be no more. -/
def callCode (name program : Bytes) (code : Nat) (status : WaitStatus) : Activity (Nat × Bool) := do
  match status.ending with
  | .killed signal _ => do
      complain [name, ": ", program, ": terminated by signal ", decimal signal]
      return (125, true)
  | _ =>
      let own := status.exitCode.toNat
      if own = 255 then
        complain [name, ": ", program, ": exited with status 255; aborting"]
        return (124, true)
      else if own = 126 || own = 127 then return (own, true)
      else if own = 0 then return (code, false)
      else return (123, false)

/-- Make the calls of `xargs` one behind the other. -/
def makeCalls (name : Bytes) (shows : Bool) : Nat → List (List Bytes) → Activity Nat
  | code, [] => return code
  | code, words :: rest => do
      let program := words.headD []
      if shows then
        let _ ← Activity.write 2 ([ascii ' '].intercalate words ++ [ascii '\n'])
      let child ← startProcess do
        let (world, file) := (← get).hold (.device .sink)
        set (world.setStream 0 (some file))
        let errno ← Activity.execNamed program words.tail (← get).self.vars
        refuse [name, ": ", program, ": ", errno.text] (refusedCode errno)
      let status ← Activity.waitFor child
      let (code, isLast) ← callCode name program code status
      if isLast then return code else makeCalls name shows code rest

/-- Runs a program with arguments that are read from the standard input. -/
def xargs : Tool := fun name arguments =>
  let grammar : Options.Grammar :=
    { letters := "0a:d:E:I:L:n:P:prs:tx"
      long := [("null", '0'), ("arg-file", 'a'), ("delimiter", 'd'), ("max-lines", 'L'),
        ("replace", 'I'), ("max-args", 'n'), ("max-procs", 'P'), ("no-run-if-empty", 'r'),
        ("verbose", 't'), ("exit", 'x')]
      anywhere := false }
  withOptions grammar 1 name arguments fun options => do
    let read ← readFile ((options.value? 'a').getD "-")
    match read with
    | .error errno =>
        refuse [name, ": Cannot open input file ", quoted ((options.value? 'a').getD []), ": ",
          errno.text] 1
    | .ok bytes => do
        let replaced? := options.value? 'I'
        let separator? : Option UInt8 :=
          if options.has '0' then some 0
          else (options.value? 'd').map fun word =>
            if word = Bytes.ofText "\\n" then ascii '\n' else if word = Bytes.ofText "\\0" then 0
            else word.headD 0
        let input := bytes.foldl (InputWords.add replaced?.isSome) {}
        let lines : List (List Bytes) :=
          match separator? with
          | some separator =>
              let pieces := bytes.splitOn separator
              let pieces := if pieces.getLast? = some [] then pieces.dropLast else pieces
              pieces.map ([·])
          | none => input.closeLine.lines.reverse.map List.reverse
        if let some quote := input.quote?.filter fun _ => separator?.isNone then
          let sort : Bytes := if quote = ascii '"' then "double" else "single"
          return ← refuse [name, ": unmatched ", sort,
            " quote; by default quotes are special to xargs unless you use the -0 option"] 1
        let command := if options.operands.isEmpty then [Bytes.ofText "echo"] else options.operands
        let number? (letter : Char) : Option Nat :=
          ((options.value? letter) >>= readDigits? 10).map fun (n, _) => max 1 n
        let calls : List (List Bytes) :=
          match replaced?, number? 'n', number? 'L' with
          | some mark, _, _ =>
              lines.flatten.map fun item => command.map (replaceAll mark item)
          | none, some count, _ => (portions count lines.flatten).map (command ++ ·)
          | none, none, some count =>
              (portions count lines).map fun lines => command ++ lines.flatten
          | none, none, none => if lines.isEmpty then [] else [command ++ lines.flatten]
        let calls :=
          if calls.isEmpty && !options.has 'r' && replaced?.isNone then [command] else calls
        makeCalls name (options.has 't') 0 calls

end Tool
end MakeLauncher.Machine
