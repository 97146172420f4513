import MakeLauncher.Machine.Tool.Basic

/-! The utilities that tell something about paths, variables and the machine: `basename`, `dirname`,
`readlink`, `realpath`, `which`, `pwd`, `printenv`, `uname`, `arch`, `id`, `whoami`, `tty` and `sleep`. -/

namespace MakeLauncher.Machine.Tool

open Bytes (ascii)
open Numeral (decimal)

/-! ### Paths -/

def trimSlashes (path : Bytes) : Bytes :=
  let trimmed := (path.reverse.dropWhile (· = Bytes.slash)).reverse
  if trimmed.isEmpty && !path.isEmpty then [Bytes.slash] else trimmed

def lastName (path : Bytes) : Bytes :=
  let trimmed := trimSlashes path
  if trimmed = [Bytes.slash] then trimmed else (trimmed.splitOn Bytes.slash).getLast?.getD []

/-- The last name of a path, without an ending. -/
def basename : Tool := fun name arguments =>
  withOptions { letters := "as:z", long := [("multiple", 'a'), ("suffix", 's'), ("zero", 'z')]
                anywhere := false } 1 name arguments fun options =>
    let bare (ending path : Bytes) : Bytes :=
      let last := lastName path
      if ending.isSuffixOf last && ending ≠ last then last.take (last.length - ending.length) else last
    let finish : Bytes := if options.has 'z' then [0] else [ascii '\n']
    let isMultiple := options.has 'a' || options.has 's'
    match options.operands with
    | [] => refuseFew name "operand"
    | paths =>
        if isMultiple then
          print name (paths.flatMap fun path => bare ((options.value? 's').getD []) path ++ finish)
        else
          match paths with
          | path :: ending :: extra :: _ => do
              let _ := (path, ending)
              refuseUse name ["extra operand ", quoted extra] 1
          | path :: rest => print name (bare (rest.headD []) path ++ finish)
          | [] => return 0

/-- A path without its last name. -/
def parentPath (path : Bytes) : Bytes :=
  let names := (trimSlashes path).splitOn Bytes.slash
  if trimSlashes path = [Bytes.slash] then [Bytes.slash]
  else if names.length ≤ 1 then Bytes.here
  else trimSlashes ([Bytes.slash].intercalate names.dropLast ++ [Bytes.slash])

def dirname : Tool := fun name arguments =>
  withOptions { letters := "z", long := [("zero", 'z')] } 1 name arguments fun options =>
    let finish : Bytes := if options.has 'z' then [0] else [ascii '\n']
    match options.operands with
    | [] => refuseFew name "operand"
    | paths => print name (paths.flatMap fun path => parentPath path ++ finish)

/-- The path of a file with all links followed. Unless it is to be there as a whole, the last name may
be missing, or any. -/
def canonicalPath? (world : World) (missing : Nat) (path : Bytes) : Except Errno Bytes := do
  FileTree.checkPath path
  let names := path.splitOn Bytes.slash |>.filter (· ≠ [])
  go names.length (FileTree.start world.self.directory path) names
where
  /-- The path of what names lead to, where all are there but so many at the end. -/
  go : Nat → Place → List Bytes → Except Errno Bytes
    | 0, start, names => known start names
    | bound + 1, start, names =>
        match known start names with
        | .ok path => .ok path
        | .error .noEntry => do
            if missing = 0 || (missing = 1 && bound + 1 < names.length) then throw .noEntry
            else
              match names.getLast? with
              | none => throw .noEntry
              | some name => return (← go bound start names.dropLast).join name
        | .error errno => .error errno
  /-- The path of what names lead to. -/
  known (start : Place) (names : List Bytes) : Except Errno Bytes := do
    let arrival ← world.tree.walk FileTree.linkLimit { place := start } names
    match world.tree.pathOfArrival? arrival with
    | some path => return path
    | none => throw .noEntry

/-- The target of a link, or with an option the path of a file with all links followed. -/
def readlink : Tool := fun name arguments =>
  let grammar : Options.Grammar :=
    { letters := "femnqsvz"
      long := [("canonicalize", 'f'), ("canonicalize-existing", 'e'), ("canonicalize-missing", 'm'),
        ("no-newline", 'n'), ("quiet", 'q'), ("silent", 's'), ("verbose", 'v'), ("zero", 'z')] }
  withOptions grammar 1 name arguments fun options => do
    if options.operands.isEmpty then return ← refuseFew name "operand"
    let finish : Bytes :=
      if options.has 'n' && options.operands.length = 1 then []
      else if options.has 'z' then [0] else [ascii '\n']
    let mut code := 0
    for path in options.operands do
      let world ← get
      let found : Except Errno Bytes :=
        if options.has 'm' then canonicalPath? world 2 path
        else if options.has 'e' then canonicalPath? world 0 path
        else if options.has 'f' then canonicalPath? world 1 path
        else
          match world.findLink path with
          | .ok { kind := .link target, .. } => .ok target
          | .ok _ => .error .invalid
          | .error errno => .error errno
      match found with
      | .ok target => put name (target ++ finish)
      | .error errno => do
          code := 1
          if options.has 'v' then complain [name, ": ", shownName path, ": ", errno.text]
    return code

/-- The paths of files with all links followed. -/
def realpath : Tool := fun name arguments =>
  let grammar : Options.Grammar :=
    { letters := "emqsz"
      long := [("canonicalize-existing", 'e'), ("canonicalize-missing", 'm'), ("quiet", 'q'),
        ("strip", 's'), ("no-symlinks", 's'), ("zero", 'z')] }
  withOptions grammar 1 name arguments fun options => do
    if options.operands.isEmpty then return ← refuseFew name "operand"
    let finish : Bytes := if options.has 'z' then [0] else [ascii '\n']
    let missing := if options.has 'm' then 2 else if options.has 'e' then 0 else 1
    let mut code := 0
    for path in options.operands do
      match canonicalPath? (← get) missing path with
      | .ok path => put name (path ++ finish)
      | .error errno => do
          code := 1
          if !options.has 'q' then complain [name, ": ", shownName path, ": ", errno.text]
    return code

def pwd : Tool := fun name arguments =>
  withOptions { letters := "LP", long := [("logical", 'L'), ("physical", 'P')] } 1 name arguments
      fun options => do
    let world ← get
    let told := (world.self.vars.value? "PWD").getD []
    let isRight := told.isAbsolute && (world.place told).toOption = some world.self.directory
    if options.has 'L' && isRight then print name (told ++ [ascii '\n'])
    else
      match world.tree.pathOf? world.self.directory with
      | some path => print name (path ++ [ascii '\n'])
      | none =>
          refuse [name, ": couldn't find directory entry in '..' with matching i-node"] 1

/-! ### The process and the machine -/

def printenv : Tool := fun name arguments =>
  withOptions { letters := "0", long := [("null", '0')], anywhere := false } 2 name arguments
      fun options => do
    let vars := (← get).self.vars
    let finish : Bytes := if options.has '0' then [0] else [ascii '\n']
    if options.operands.isEmpty then
      print name (vars.flatMap fun (key, value) =>
        Bytes.ofText key ++ ascii '=' :: value ++ finish)
    else
      let found := options.operands.filterMap fun key => vars.value? key.shown
      put name (found.flatMap (· ++ finish))
      return if found.length = options.operands.length then 0 else 1

def uname : Tool := fun name arguments =>
  let grammar : Options.Grammar :=
    { letters := "asnrvmpio"
      long := [("all", 'a'), ("kernel-name", 's'), ("nodename", 'n'), ("kernel-release", 'r'),
        ("kernel-version", 'v'), ("machine", 'm'), ("processor", 'p'), ("hardware-platform", 'i'),
        ("operating-system", 'o')] }
  withOptions grammar 1 name arguments fun options =>
    let answers : List (Char × String) :=
      [('s', "Linux"), ('m', "x86_64"), ('p', "x86_64"), ('i', "x86_64"), ('o', "GNU/Linux")]
    match options.operands with
    | extra :: _ => refuseUse name ["extra operand ", quoted extra] 1
    | [] =>
        let asks (letter : Char) : Bool :=
          if options.given.isEmpty then letter = 's' else options.has 'a' || options.has letter
        let told := answers.filterMap fun (letter, text) =>
          if asks letter then some (Bytes.ofText text) else none
        print name ([ascii ' '].intercalate told ++ [ascii '\n'])

def arch : Tool := fun name arguments =>
  withOptions { letters := "" } 1 name arguments fun options =>
    match options.operands with
    | extra :: _ => refuseUse name ["extra operand ", quoted extra] 1
    | [] => print name "x86_64\n"

/-- The paths at which programs are found along the search path: the first one of each, or all. -/
def which : Tool := fun name arguments => do
  match ({ letters := "as", anywhere := false } : Options.Grammar).readFrom arguments.length arguments with
  | .error _ =>
      let wrong := (arguments.flatMap (·.tail)).filter fun b => b ≠ ascii 'a' && b ≠ ascii 's'
      complain ["Illegal option -", wrong.take 1]
      put name "Usage: /usr/bin/which [-as] args\n"
      return 2
  | .ok options => do
      let world ← get
      let entries := ((world.self.vars.value? "PATH").getD []).splitOn Bytes.colon
      let isProgram (path : Bytes) : Bool :=
        match world.find path with
        | .ok node => node.isFile && node.isExecutable
        | .error _ => false
      let found (program : Bytes) : List Bytes :=
        let paths :=
          if program.contains Bytes.slash then [program]
          else entries.map fun entry =>
            (if entry.isEmpty then [ascii '.'] else entry) ++ Bytes.slash :: program
        let programs := paths.filter isProgram
        if options.has 'a' then programs else programs.take 1
      let answers := options.operands.map found
      if !options.has 's' then put name (unlines answers.flatten)
      return if answers.isEmpty || answers.any (·.isEmpty) then 1 else 0

def whoami : Tool := fun name _ => print name "root\n"

def id : Tool := fun name arguments =>
  withOptions { letters := "ugGnr", long := [("user", 'u'), ("group", 'g'), ("groups", 'G'),
      ("name", 'n'), ("real", 'r')] } 1 name arguments fun options =>
    if options.has 'u' || options.has 'g' || options.has 'G' then
      print name (if options.has 'n' then "root\n" else "0\n")
    else print name "uid=0(root) gid=0(root) groups=0(root)\n"

/-- The terminal of the process, which has none. -/
def tty : Tool := fun name arguments =>
  withOptions { letters := "s", long := [("silent", 's'), ("quiet", 's')] } 2 name arguments
      fun options => do
    if !options.has 's' then put name "not a tty\n"
    return 1

/-- The microseconds that a time with a unit writes. -/
def duration? (word : Bytes) : Option Nat :=
  let whole := word.takeWhile Numeral.isDigit
  let behind := word.drop whole.length
  let isPoint := behind.head? = some (ascii '.')
  let part := if isPoint then behind.tail.takeWhile Numeral.isDigit else []
  let unit := behind.drop (part.length + if isPoint then 1 else 0)
  let units : List (String × Nat) := [("", 1), ("s", 1), ("m", 60), ("h", 3600), ("d", 86400)]
  if whole.isEmpty && part.isEmpty then none
  else
    (units.find? fun entry => Bytes.ofText entry.1 == unit).map fun (_, seconds) =>
      let digits := (part ++ List.replicate 6 (ascii '0')).take 6
      (Numeral.ofDigits whole * 1000000 + Numeral.ofDigits digits) * seconds

def sleep : Tool := fun name arguments =>
  withOptions { letters := "", anywhere := false } 1 name arguments fun options => do
    match options.operands, options.operands.filter fun word => (duration? word).isNone with
    | [], _ => refuseFew name "operand"
    | _, word :: rest => do
        complain [name, ": invalid time interval ", quoted word]
        for word in rest do
          complain [name, ": invalid time interval ", quoted word]
        refuse [hint name] 1
    | words, [] => do
        Activity.delay ((words.filterMap duration?).foldl (· + ·) 0)
        return 0

end MakeLauncher.Machine.Tool
