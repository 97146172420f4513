import MakeLauncher.Machine.Condition
import MakeLauncher.Machine.Format
import MakeLauncher.Machine.Permissions
import MakeLauncher.Machine.Shell.Expansion
import MakeLauncher.Machine.Shell.InputLine
import MakeLauncher.Machine.Shell.Jobs

/-! The commands that a shell carries out itself and that run no other command. Each takes its
arguments and gives an exit code. -/

namespace MakeLauncher.Shell

open Bytes (ascii)
open Numeral (decimal readDigits?)
open Machine (Activity Limit Resource World resources)

/-! ### What several builtins share -/

def Session.print (bytes : Bytes) : Session Nat := do
  if ← Session.write stdout bytes then return 0
  else
    Session.complain [(← get).builtin?.getD [], ": I/O error"]
    return 1

def Session.printLines (lines : List Bytes) : Session Nat :=
  Session.print (lines.flatMap (· ++ [ascii '\n']))

/-- The options in front of the arguments of a builtin, each with its argument, and the other
arguments. A colon behind the letter of an option says that it has an argument. -/
def readOptions (allowed : String) : List Bytes → Session (List (Char × Bytes) × List Bytes)
  | (dash :: letters) :: rest => do
      if dash ≠ ascii '-' || letters.isEmpty then return ([], (dash :: letters) :: rest)
      else if letters = [ascii '-'] then return ([], rest)
      else
        let (found, awaiting) ← readLetters letters
        match awaiting with
        | none =>
            let (more, words) ← readOptions allowed rest
            return (found ++ more, words)
        | some option =>
            match rest with
            | value :: rest =>
                let (more, words) ← readOptions allowed rest
                return (found ++ (option, value) :: more, words)
            | [] => Session.fail ["No arg for -", Bytes.ofText option.toString, " option"]
  | words => return ([], words)
where
  /-- The options that letters name, and one that awaits its argument. -/
  readLetters : Bytes → Session (List (Char × Bytes) × Option Char)
    | [] => return ([], none)
    | b :: letters => do
        let option := Char.ofNat b.toNat
        let behind := allowed.toList.dropWhile (· ≠ option)
        if behind.isEmpty || option = ':' then Session.fail ["Illegal option -", [b]]
        else if behind[1]? = some ':' then
          if letters.isEmpty then return ([], some option)
          else return ([(option, letters)], none)
        else
          let (more, awaiting) ← readLetters letters
          return ((option, []) :: more, awaiting)

/-- A text between quotes, as a shell reads it back. Its own single quotes stand between double quotes, the
rest between single ones. -/
def quote (bytes : Bytes) : Bytes :=
  let single := ascii '\''
  let runs := bytes.splitBy fun a b => (a = single) = (b = single)
  let start : Bytes := if bytes.head?.any (· ≠ single) then [] else [single, single]
  start ++ runs.flatMap fun run =>
    let mark := if run.head? = some single then ascii '"' else single
    mark :: run ++ [mark]

/-! ### Printing and conditions -/

def runEcho (arguments : List Bytes) : Session Nat := do
  let silent := arguments.head? = some (Bytes.ofText "-n")
  let (bytes, cut) := Format.unescapeLine false (if silent then arguments.tail else arguments)
  Session.print (if silent || cut then bytes else bytes ++ [ascii '\n'])

def runPrintf (arguments : List Bytes) : Session Nat := do
  let (_, arguments) ← readOptions "" arguments
  match arguments with
  | [] => Session.fail ["usage: printf format [arg ...]"]
  | format :: arguments =>
      let printing := Format.print false format arguments
      for warning in printing.warnings do
        Session.complain [warning]
      match printing.failure? with
      | some failure => do
          let _ ← Session.write stdout printing.output
          Session.fail [failure]
      | none => do
          let status ← Session.print printing.output
          return if printing.warnings.isEmpty then status else 1

/-- Evaluate a condition. If it begins with a bracket, its last word begins with one too. -/
def runTest (bracketed : Bool) (arguments : List Bytes) : Session Nat := do
  if bracketed && arguments.getLast?.bind (·.head?) ≠ some (ascii ']') then
    Session.fail ["missing ]"]
  else
    let state ← get
    let words := if bracketed then arguments.dropLast else arguments
    match Machine.Condition.outcome state.world words with
    | .ok outcome => return if outcome then 0 else 1
    | .error complaint => Session.fail [complaint]

/-! ### Variables and arguments -/

def listing (start : Bytes) (entries : List (String × Variable)) : List Bytes :=
  let sorted := entries.mergeSort fun a b => decide (a.1 ≤ b.1)
  sorted.map fun (name, entry) =>
    start ++ Bytes.ofText name ++
      match entry.value? with
      | some value => ascii '=' :: quote value
      | none => []

def runMark (exporting : Bool) (arguments : List Bytes) : Session Nat := do
  let (options, arguments) ← readOptions "p" arguments
  if options.isEmpty && !arguments.isEmpty then
    for argument in arguments do
      let name : Bytes := argument.takeWhile (· ≠ ascii '=')
      if !isName name then Session.fail [name, ": bad variable name"]
      else
        match argument.drop name.length with
        | _ :: value => Session.assign name.shown value false
        | [] => pure ()
        let state ← get
        let entry := (state.vars.lookup name.shown).getD { value? := none }
        set (state.put name.shown
          { entry with
            exported := entry.exported || exporting
            fixed := entry.fixed || !exporting })
    return 0
  else
    let marked := (← get).vars.filter fun entry =>
      if exporting then entry.2.exported else entry.2.fixed
    Session.printLines (listing (if exporting then "export " else "readonly ") marked)

/-! ### Aliases -/

/-- The line that tells what an alias stands for. -/
def aliasLine (name text : Bytes) : Bytes := name ++ ascii '=' :: quote text

/-- The number of the place that an alias has in a listing. Those with the same number stand in the order
in which they have been set. -/
def aliasPlace (name : Bytes) : Nat :=
  (name.foldl (fun sum b => sum + b.toNat) (16 * (name.headD 0).toNat)) % 39

def runAlias (arguments : List Bytes) : Session Nat := do
  if arguments.isEmpty then
    let sorted := (← get).aliases.mergeSort fun a b => aliasPlace a.1 ≤ aliasPlace b.1
    Session.printLines (sorted.map fun (name, text) => aliasLine name text)
  else
    let mut status := 0
    for argument in arguments do
      let name := argument.take 1 ++ argument.tail.takeWhile (· ≠ ascii '=')
      let { aliases, .. } ← get
      match argument.drop name.length, aliases.lookup name with
      | _ :: text, some _ =>
          let aliases := aliases.map fun entry => if entry.1 = name then (name, text) else entry
          modify fun state => { state with aliases }
      | _ :: text, none => modify fun state => { state with aliases := aliases ++ [(name, text)] }
      | [], some text => let _ ← Session.printLines [aliasLine name text]
      | [], none =>
          let _ ← Session.write stderr (Bytes.ofText "alias: " ++ name ++ Bytes.ofText " not found\n")
          status := 1
    return status

def runUnalias (arguments : List Bytes) : Session Nat := do
  let (options, names) ← readOptions "a" arguments
  if !options.isEmpty then
    modify fun state => { state with aliases := [] }
    return 0
  else
    let mut status := 0
    for name in names do
      let { aliases, .. } ← get
      if aliases.any (·.1 = name) then
        modify fun state => { state with aliases := aliases.filter (·.1 ≠ name) }
      else
        let _ ← Session.write stderr (Bytes.ofText "unalias: " ++ name ++ Bytes.ofText " not found\n")
        status := 1
    return status

/-! ### Variables of functions, arguments and options -/

/-- Make variables the innermost function's own. -/
def runLocal (arguments : List Bytes) : Session Nat := do
  if (← get).frames.isEmpty then Session.fail ["not in a function"]
  else
    for argument in arguments do
      let name : Bytes := argument.takeWhile (· ≠ ascii '=')
      if !isName name then Session.fail [name, ": bad variable name"]
      else
        Session.keep name.shown
        match argument.drop name.length with
        | _ :: value => Session.assign name.shown value false
        | [] => pure ()
    return 0

def runUnset (arguments : List Bytes) : Session Nat := do
  let (options, arguments) ← readOptions "vf" arguments
  for name in arguments do
    if (options.getLast?.map (·.1)) = some 'f' then
      modify fun state => { state with functions := state.functions.filter (·.1 ≠ name) }
    else if !isName name then Session.fail [name, ": bad variable name"]
    else if ((← get).vars.lookup name.shown).any (·.fixed) then
      Session.fail [name, ": is read only"]
    else modify (·.drop name.shown)
  return 0

def runShift (arguments : List Bytes) : Session Nat := do
  let count ←
    match arguments with
    | [] => pure 1
    | first :: _ => Session.count first
  let state ← get
  if state.arguments.length < count then Session.fail ["can't shift that many"]
  else
    set { state with arguments := state.arguments.drop count }
    return 0

/-- The options by their long names, in the order in which they are listed. -/
def optionNames : List (String × Option Char) :=
  [("errexit", some 'e'), ("noglob", some 'f'), ("ignoreeof", some 'I'), ("interactive", some 'i'),
    ("monitor", some 'm'), ("noexec", some 'n'), ("stdin", some 's'), ("xtrace", some 'x'),
    ("verbose", some 'v'), ("vi", some 'V'), ("emacs", some 'E'), ("noclobber", some 'C'),
    ("allexport", some 'a'), ("notify", some 'b'), ("nounset", some 'u'),
    ("privileged", some 'p'), ("nolog", none), ("debug", none)]

def setOption (on : Bool) (letter : Char) : Session Unit :=
  if optionNames.any (·.2 = some letter) then
    modify fun state =>
      let others := state.options.filter (· ≠ letter)
      { state with options := if on then letter :: others else others }
  else Session.fail ["Illegal option -", [UInt8.ofNat letter.toNat]]

def setNamedOption (on : Bool) (name : Bytes) : Session Unit :=
  match optionNames.find? fun entry => Bytes.ofText entry.1 == name with
  | some (_, some letter) => setOption on letter
  | some (_, none) => return
  | none => Session.fail ["Illegal option -o ", name]

def optionLines (state : State) (on : Bool) : List Bytes :=
  if on then
    Bytes.ofText "Current option settings" :: optionNames.map fun (name, letter) =>
      Bytes.ofText (name.pushn ' ' (16 - name.length) ++
        if letter.any state.has then "on" else "off")
  else
    optionNames.map fun (name, letter) =>
      Bytes.ofText ("set " ++ (if letter.any state.has then "-o " else "+o ") ++ name)

/-- Turns the options of letters on or off. The letter `o` stands for an option whose name is the next
argument, and lists the options if there is none. The result is the arguments that are left, and
whether `-c` is among the letters, which counts if a shell is `starting`. -/
def applyLetters (starting on : Bool) : Bytes → List Bytes → Session (List Bytes × Bool)
  | [], rest => return (rest, false)
  | b :: letters, rest => do
      let letter := Char.ofNat b.toNat
      if letter = 'o' then
        match rest with
        | [] => do
            let _ ← Session.printLines (optionLines (← get) on)
            applyLetters starting on letters []
        | name :: rest => do
            setNamedOption on name
            applyLetters starting on letters rest
      else
        let isCommand := starting && letter = 'c'
        if !isCommand && !(starting && letter = 'l') then setOption on letter
        let (rest, more) ← applyLetters starting on letters rest
        return (rest, isCommand || more)

/-- What the options in front of some arguments leave. -/
structure Applied where
  words : List Bytes
  /-- The words become the arguments of the shell even if there are none. -/
  resets : Bool := false
  /-- The option `-c` was there. -/
  isCommand : Bool := false

/-- Reads options from the front of arguments and turns them on or off. With `starting` they are the
options that a shell is started with. -/
def applyOptions (starting : Bool) (arguments : List Bytes) : Session Applied :=
  go arguments.length arguments
where
  /-- Reads at most so many arguments. -/
  go : Nat → List Bytes → Session Applied
    | bound + 1, (sign :: letters) :: rest => do
        let on := sign = ascii '-'
        if !on && sign ≠ ascii '+' then return { words := (sign :: letters) :: rest }
        else if on && letters.isEmpty then
          if !starting then
            setOption false 'x'
            setOption false 'v'
          return { words := rest }
        else if on && letters = [ascii '-'] then return { words := rest, resets := true }
        else
          let (rest, isCommand) ← applyLetters starting on letters rest
          let applied ← go bound rest
          return { applied with isCommand := isCommand || applied.isCommand }
    | _, words => return { words }

def runSet (arguments : List Bytes) : Session Nat := do
  if arguments.isEmpty then
    let given := (← get).vars.filter (·.2.value?.isSome)
    Session.printLines (listing [] given)
  else
    let applied ← applyOptions false arguments
    if applied.resets || !applied.words.isEmpty then
      modify fun state => { state with arguments := applied.words }
    return 0

/-- Read a line from the standard input, behind bytes of it that have been read already. The line ends
early if the input does, or if a signal arrives for the shell to act on. -/
def readLine (asIs : Bool) : Nat → Bytes → Session InputLine
  | 0, earlier => return InputLine.ofBytes asIs earlier
  | bound + 1, earlier => do
      match (← get).world.stream? stdin with
      | none => return InputLine.ofBytes asIs earlier
      | some number => do
          let ready (world : World) : Bool :=
            world.canRead number || !world.self.pending.isEmpty
          if !ready (← get).world then Session.act (Activity.pause { ready })
          let world := (← get).world
          let portion :=
            if world.canRead number then
              ((world.available number Activity.portion).toOption).getD []
            else []
          let line := InputLine.ofBytes asIs (earlier ++ portion)
          if world.isEndless number then Session.act (Activity.delay Activity.zeroTime)
          let isLast := portion.isEmpty || line.ended
          let used := if line.ended then line.used - earlier.length else portion.length
          modify fun state => { state with world := state.world.advance number used }
          if isLast then return line else readLine asIs bound (earlier ++ portion)

/-- Read a line into variables. -/
def runRead (arguments : List Bytes) : Session Nat := do
  let (options, names) ← readOptions "p:r" arguments
  if names.isEmpty then Session.fail ["arg count"]
  else
    let line ← readLine (options.any (·.1 = 'r')) Activity.portionLimit []
    let values := line.fields (← get).separators names.length
    for (name, index) in names.zipIdx do
      Session.assignTo name (values[index]?.getD []) false
    return if line.ended then 0 else 1

def runGetopts (arguments : List Bytes) : Session Nat := do
  match arguments with
  | wanted :: name :: given =>
      let state ← get
      let words := if given.isEmpty then state.arguments else given
      let index := if words.length + 1 < state.optionIndex then 1 else state.optionIndex
      let offset := if words.length + 1 < state.optionIndex then 0 else state.optionOffset
      let current : Bytes := if 2 ≤ index then (words[index - 2]?.getD []).drop offset else []
      let finish (option : Bytes) (index offset status : Nat) : Session Nat := do
        Session.assign "OPTIND" (decimal index) false
        Session.assignTo name option false
        modify fun state => { state with optionIndex := index, optionOffset := offset }
        return status
      let fresh := offset = 0 || current.isEmpty
      let word := if fresh then words[index - 1]?.getD [] else []
      if fresh && (word.length < 2 || word.head? ≠ some (ascii '-')) then finish "?" index 0 1
      else if fresh && word = Bytes.ofText "--" then finish "?" (index + 1) 0 1
      else
        let letters := if fresh then word.tail else current
        let index := if fresh then index + 1 else index
        let start := if fresh then 1 else offset
        let silent := wanted.head? = some (ascii ':')
        let letter := letters.head?.getD 0
        let left := letters.tail
        let after := if left.isEmpty then 0 else start + 1
        let tell (text : List Bytes) : Session Unit := do
          if silent then Session.assign "OPTARG" [letter] false
          else
            let _ ← Session.write stderr text.flatten
            modify (·.drop "OPTARG")
        match wanted.dropWhile (· ≠ letter) with
        | [] => do
            tell ["Illegal option -", [letter], "\n"]
            finish "?" index after 0
        | _ :: behind => do
            if behind.head? ≠ some (ascii ':') then
              Session.assign "OPTARG" [] false
              finish [letter] index after 0
            else if !left.isEmpty then
              Session.assign "OPTARG" left false
              finish [letter] index 0 0
            else
              match words[index - 1]? with
              | some value => do
                  Session.assign "OPTARG" value false
                  finish [letter] (index + 1) 0 0
              | none => do
                  tell ["No arg for -", [letter], " option\n"]
                  finish (if silent then ":" else "?") index 0 0
  | _ => Session.fail ["Usage: getopts optstring var [arg...]"]

/-! ### The directory -/

/-- The directory that a path means as it is written, with `.` and `..` taken out and no link
followed. -/
def normalise (directory path : Bytes) : Bytes :=
  let names := (directory.join path).splitOn Bytes.slash
  let kept := names.foldl (fun (kept : List Bytes) name =>
    if name.isEmpty || name = Bytes.here then kept
    else if name = Bytes.above then kept.dropLast
    else kept ++ [name]) []
  if kept.isEmpty then [Bytes.slash] else kept.flatMap (Bytes.slash :: ·)

def runCd (arguments : List Bytes) : Session Nat := do
  let (options, rest) ← readOptions "LP" arguments
  let physical := options.getLast?.map (·.1) = some 'P'
  let state ← get
  let (target, back) :=
    match rest with
    | [] => ((state.value? "HOME").getD [], false)
    | first :: _ =>
        if first = Bytes.ofText "-" then ((state.value? "OLDPWD").getD [], true) else (first, false)
  let first := target.splitOn Bytes.slash |>.head?.getD []
  let fixed := target.isAbsolute || first = Bytes.here || first = Bytes.above
  let named := if target.isEmpty then Bytes.here else target
  let entries := if fixed then [] else ((state.value? "CDPATH").getD []).splitOn Bytes.colon
  let isDirectory (path : Bytes) : Bool :=
    match state.world.place path with
    | .ok place => state.world.tree.isDirectory place
    | .error _ => false
  let composed := entries.map fun entry => (if entry.isEmpty then named else Bytes.join entry named, entry)
  let found := composed.find? fun (path, _) => isDirectory path
  let path := (found.map (·.1)).getD target
  let shown := back || found.any fun (_, entry) => !entry.isEmpty
  let moved : Bytes := if physical then path else normalise state.shownDirectory path
  match state.world.place (if physical then path else moved) with
  | .error _ => Session.fail ["can't cd to ", target]
  | .ok place =>
      if path.isEmpty || !state.world.tree.isDirectory place then
        Session.fail ["can't cd to ", target]
      else
        let now := if physical then (state.world.tree.pathOf? place).getD moved else moved
        let world := state.world.updateSelf ({ · with directory := place })
        set { state with world, shownDirectory := now }
        Session.assign "OLDPWD" state.shownDirectory true
        Session.assign "PWD" now true
        if shown then Session.printLines [now] else return 0

def runPwd (arguments : List Bytes) : Session Nat := do
  let (options, _) ← readOptions "LP" arguments
  let state ← get
  let physical := options.getLast?.map (·.1) = some 'P'
  Session.printLines [if physical then state.directoryPath else state.shownDirectory]

/-! ### Signals -/

/-- How long it takes to send a signal, in microseconds. -/
def signalTime : Nat := 20

/-- How `kill` is used. -/
def killUsage : Bytes :=
  Bytes.ofText "Usage: kill [-s sigspec | -signum | -sigspec] [pid | job]... or\nkill -l [exitstatus]"

/-- Send a signal to processes, or tell the names of signals. -/
def runKill (arguments : List Bytes) : Session Nat := do
  let first := arguments.head?.getD []
  let direct? := if first.head? = some (ascii '-') then signal? 1 first.tail else none
  let (options, rest) ←
    if direct?.isSome || arguments.isEmpty then pure ([], arguments.tail)
    else readOptions "ls:" arguments
  let named ← options.filterMapM fun (option, name) => do
    if option = 's' then
      match signal? 1 name with
      | some signal => return some signal
      | none => Session.fail ["invalid signal number or name: ", name]
    else return none
  let list := options.any (·.1 = 'l')
  let signal? := if direct?.isSome then direct? else named.getLast?
  if list && signal?.isNone then
    match rest with
    | [] =>
        Session.printLines
          (Bytes.ofText "0" :: ((List.range signalCount).drop 1).map fun signal => shortName signal)
    | code :: _ => do
        let code' ← Session.count code
        let signal := if 128 < code' then code' - 128 else code'
        if 0 < signal && signal < signalCount then Session.printLines [shortName signal]
        else Session.fail ["invalid signal number or exit status: ", code]
  else if list || rest.isEmpty then Session.fail [killUsage]
  else
    let mut status := 0
    for target in rest do
      let number ← Session.count (if target.head? = some (ascii '-') then target.tail else target)
      if ((← get).world.process? number).isSome && target.head? ≠ some (ascii '-') then
        modify fun state =>
          { state with world := state.world.signal number (signal?.getD 15) }
        Session.act (Activity.delay signalTime)
      else
        Session.complain ["No such process\n"]
        status := 1
    return status

def runTrap (arguments : List Bytes) : Session Nat := do
  let (_, words) ← readOptions "" arguments
  match words with
  | [] =>
      let sorted := (← get).traps.mergeSort fun a b => decide (a.1 ≤ b.1)
      Session.printLines (sorted.map fun (signal, script) =>
        Bytes.ofText "trap -- " ++ quote script ++ Bytes.ofText (" " ++ shortName signal))
  | first :: rest =>
      let isNumber := (readDigits? 10 first).any fun (n, behind) =>
        behind.isEmpty && n < signalCount
      let (script?, names) :=
        if rest.isEmpty || isNumber then (none, words)
        else (if first = Bytes.ofText "-" then none else some first, rest)
      setAll script? names
where
  /-- Sets what is done at the signals of names. -/
  setAll (script? : Option Bytes) : List Bytes → Session Nat
    | [] => return 0
    | name :: names => do
        match signal? 0 name with
        | none =>
            let text : List Bytes := ["trap: ", name, ": bad trap\n"]
            let _ ← Session.write stderr text.flatten
            return 1
        | some signal =>
            modify fun state =>
              let others := state.traps.filter (·.1 ≠ signal)
              { state with traps := script?.toList.map (signal, ·) ++ others }
            Session.arrangeSignals
            setAll script? names

/-! ### The rest -/

/-- The permissions that a mask leaves, as clauses for the three kinds of users. -/
def maskClauses (mask : Nat) : Bytes :=
  let letters (users : Nat) : List Char :=
    [(4, 'r'), (2, 'w'), (1, 'x')].filterMap fun (bit, letter) =>
      if mask / users % 8 / bit % 2 = 0 then some letter else none
  let clause (letter : Char) (users : Nat) : String :=
    String.ofList (letter :: '=' :: letters users)
  Bytes.ofText (clause 'u' 64 ++ "," ++ clause 'g' 8 ++ "," ++ clause 'o' 1)

def runUmask (arguments : List Bytes) : Session Nat := do
  let (options, words) ← readOptions "S" arguments
  let mask := (← get).world.self.mask
  let setMask (mask : Nat) : Session Nat := do
    modify fun state =>
      { state with world := state.world.updateSelf ({ · with mask := mask % 512 }) }
    return 0
  match words with
  | [] =>
      let digits := Nat.toDigits 8 mask
      let zeros := List.replicate (4 - digits.length) '0'
      Session.printLines
        [if options.isEmpty then Bytes.ofText (String.ofList (zeros ++ digits)) else maskClauses mask]
  | word :: _ =>
      match readDigits? 8 word with
      | some (n, []) => setMask n
      | _ =>
          if (readDigits? 10 word).isSome then Session.fail ["Illegal number: ", word]
          else if word.isEmpty then return 0
          else
            match Machine.Permissions.change? mask word with
            | none => Session.fail ["Illegal mode: ", word]
            | some change =>
                let allowed := change { kind := .file [], mode := 511 - mask }
                setMask (511 - allowed % 512)

/-- The limit that a word gives, in so many units each of this size. There is no limit for `unlimited`. -/
def limitOf? (unit : Nat) (word : Bytes) : Option (Option Nat) :=
  if word = Bytes.ofText "unlimited" then some none
  else if word.all Numeral.isDigit then some (some (Numeral.ofDigits word * unit))
  else none

/-- Set a limit on what processes may use, or tell what the limits are. -/
def runUlimit (arguments : List Bytes) : Session Nat := do
  let (options, words) ← readOptions ("HSa" ++ String.ofList (resources.map (·.letter))) arguments
  let letters := options.map (·.1)
  let ways := letters.filter fun letter => letter = 'H' || letter = 'S'
  let isSoft := ways.getLast? ≠ some 'H'
  let isHard := ways.getLast? ≠ some 'S'
  let isAll := letters.contains 'a'
  let letter := (letters.filter fun letter => letter ≠ 'H' && letter ≠ 'S' && letter ≠ 'a').getLast?.getD 'f'
  let { limits, .. } := (← get).world.self
  let shown (resource : Resource) : Bytes :=
    let limit := limits.of resource
    match if isSoft then limit.soft? else limit.hard? with
    | some n => decimal (n / resource.unit)
    | none => "unlimited"
  match resources.find? (·.letter = letter), words with
  | none, _ => return 0
  | some resource, [] =>
      if isAll then
        Session.printLines (resources.map fun resource =>
          let gap := List.replicate (20 - resource.name.length) ' '
          Bytes.ofText (resource.name ++ String.ofList gap ++ " ") ++ shown resource)
      else Session.printLines [shown resource]
  | some resource, word :: others =>
      if isAll || !others.isEmpty then Session.fail ["too many arguments"]
      else
        match limitOf? resource.unit word with
        | none => Session.fail ["bad number"]
        | some value? =>
            let old := limits.of resource
            let limit : Limit :=
              { soft? := if isSoft then value? else old.soft?
                hard? := if isHard then value? else old.hard? }
            if limit.isSound then
              modify fun state =>
                { state with
                  world := state.world.updateSelf fun process =>
                    { process with limits := limits.set resource limit } }
              return 0
            else Session.fail ["error setting limit (Invalid argument)"]

def runWait (arguments : List Bytes) : Session Nat := do
  let (_, words) ← readOptions "" arguments
  if words.isEmpty then Session.waitForJobs else Session.waitForWords 127 words

def runJobs (arguments : List Bytes) : Session Nat := do
  let (options, words) ← readOptions "lp" arguments
  Session.reap
  let state ← get
  let jobs := state.jobs
  let chosen ←
    if words.isEmpty then pure jobs
    else words.mapM fun word => do
      let found? :=
        if word.head? = some (ascii '%') then state.jobOfSign? word
        else jobs.find? fun job =>
          (readDigits? 10 word).any fun (n, rest) => rest.isEmpty && job.processes.contains n
      match found? with
      | some job => return job
      | none => Session.refuseJob word
  let text :=
    if (options.getLast?.map (·.1)) = some 'p' then
      chosen.flatMap fun job => decimal (job.processes.headD 0) ++ [ascii '\n']
    else
      Session.describeJobs (!options.isEmpty) jobs chosen
  let status ← Session.print text
  Session.forgetTold chosen
  return status

/-- Bring a job to the front or let it go on behind it. That cannot be done with the jobs of a script. -/
def runControlOfJob (arguments : List Bytes) : Session Nat := do
  let (_, words) ← readOptions "" arguments
  let state ← get
  let word := words.headD "%+"
  let job? :=
    if word.head? = some (ascii '%') then state.jobOfSign? word
    else state.jobs.find? fun job =>
      (readDigits? 10 word).any fun (n, rest) => rest.isEmpty && job.processes.contains n
  match job? with
  | none => Session.refuseJob word
  | some _ =>
      Session.fail ["job ", words.headD "(null)", " not created under job control"]

/-- Tell how long the shell and its children have been at work, which is not counted. -/
def runTimes (_ : List Bytes) : Session Nat :=
  let line : Bytes := "0m0.000000s 0m0.000000s"
  Session.printLines [line, line]

/-- The builtins that run no other command, by their names. -/
def plainBuiltins : List (String × (List Bytes → Session Nat)) :=
  [(":", fun _ => return 0), ("true", fun _ => return 0), ("false", fun _ => return 1),
    ("echo", runEcho), ("printf", runPrintf), ("test", runTest false), ("[", runTest true),
    ("export", runMark true), ("readonly", runMark false), ("local", runLocal),
    ("unset", runUnset), ("shift", runShift), ("set", runSet), ("read", runRead),
    ("getopts", runGetopts), ("cd", runCd), ("chdir", runCd), ("pwd", runPwd),
    ("kill", runKill), ("trap", runTrap), ("umask", runUmask), ("wait", runWait),
    ("jobs", runJobs), ("fg", runControlOfJob), ("bg", runControlOfJob), ("times", runTimes),
    ("alias", runAlias), ("unalias", runUnalias), ("ulimit", runUlimit)]

end MakeLauncher.Shell
