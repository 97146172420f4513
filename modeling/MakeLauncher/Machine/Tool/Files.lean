import MakeLauncher.Machine.Naming
import MakeLauncher.Machine.Permissions
import MakeLauncher.Machine.Tool.Names

/-! The utilities that make, remove, move, copy and list files: `mkdir`, `rmdir`, `touch`, `rm`, `mv`,
`cp`, `ln`, `chmod`, `ls`, `stat` and their kind. -/

namespace MakeLauncher.Machine.Tool

open Bytes (ascii)
open Numeral (decimal)

/-- Let the system change the world. The result is its refusal, if it refuses. -/
def request (act : World → Except Errno World) : Activity (Option Errno) := do
  match act (← get) with
  | .ok world => do
      set world
      return none
  | .error errno => return some errno

/-- Let the system change the world for each of some paths, and complain of its refusals. -/
def requestAll (name verb : Bytes) (paths : List Bytes) (act : Bytes → World → Except Errno World) :
    Activity Nat := do
  let mut code := 0
  for path in paths do
    match ← request (act path) with
    | some errno => code ← refuse [name, ": ", verb, " ", quoted path, ": ", errno.text] 1
    | none => pure ()
  return code

/-- There is a directory at a path, with links followed. -/
def isDirectoryAt (world : World) (path : Bytes) : Bool :=
  match world.find path with
  | .ok node => node.isDirectory
  | .error _ => false

/-- There is a directory at a path, and not only a link to one. -/
def isDirectoryItself (world : World) (path : Bytes) : Bool :=
  match world.findLink path with
  | .ok node => node.isDirectory
  | .error _ => false

def isThere (world : World) (path : Bytes) : Bool := (world.findLink path).toOption.isSome

/-- Two places are found, and they are the same. -/
def isSamePlace (one other : Except Errno Place) : Bool :=
  match one, other with
  | .ok one, .ok other => one == other
  | _, _ => false

/-! ### Making and removing -/

/-- The paths that lead to a path, name by name, and the path itself. -/
def pathSteps (path : Bytes) : List Bytes :=
  let names := path.splitOn Bytes.slash
  (List.range names.length).filterMap fun n =>
    let part := [Bytes.slash].intercalate (names.take (n + 1))
    if part.isEmpty || names[n]? = some [] then none else some part

def mkdir : Tool := fun name arguments =>
  withOptions { letters := "pm:vZ", long := [("parents", 'p'), ("mode", 'm'), ("verbose", 'v')] } 1
      name arguments fun options => do
    if options.operands.isEmpty then return ← refuseFew name "operand"
    let mode := (((options.value? 'm') >>= fun word => Numeral.readDigits? 8 word).map (·.1)).getD 0o777
    let mut code := 0
    for path in options.operands do
      let steps := if options.has 'p' then (pathSteps path).dropLast ++ [path] else [path]
      let mut refused := false
      for step in steps do
        if !refused then
          match ← request (·.makeDirectory step mode) with
          | none =>
              if options.has 'v' then
                put name (name ++ Bytes.ofText ": created directory " ++ quoted step ++ [ascii '\n'])
          | some errno =>
              if !(options.has 'p' && isDirectoryAt (← get) step) then
                let errno := if errno = .exists && step ≠ path then .notDirectory else errno
                code ← refuse
                  [name, ": cannot create directory ", quoted step, ": ", errno.text] 1
                refused := true
    return code

def rmdir : Tool := fun name arguments =>
  withOptions { letters := "pvi", long := [("parents", 'p'), ("verbose", 'v'),
      ("ignore-fail-on-non-empty", 'i')] } 1 name arguments fun options => do
    if options.operands.isEmpty then return ← refuseFew name "operand"
    let parents (path : Bytes) : List Bytes :=
      if options.has 'p' then (pathSteps path).dropLast.reverse else []
    requestAll name "failed to remove" (options.operands.flatMap fun path => path :: parents path)
      fun path world => world.removeDirectory path

/-- Makes files that are not there, and gives those that are a new time. -/
def touch : Tool := fun name arguments =>
  withOptions { letters := "acmr:d:t:hf", long := [("no-create", 'c')] } 1 name arguments
      fun options => do
    if options.operands.isEmpty then return ← refuseFew name "file operand"
    let mut code := 0
    for path in options.operands do
      let world ← get
      match world.place path with
      | .ok place =>
          set { world with
            tree := world.tree.update place fun node => { node with changed := world.clock } }
      | .error errno =>
          if options.has 'c' && errno = .noEntry then pure ()
          else
            match world.openToWrite path { writes := true } false with
            | .ok (world, _) => set world
            | .error errno =>
                code ← refuse [name, ": cannot touch ", quoted path, ": ", errno.text] 1
    return code

/-- What is done with a directory and all that is in it, innermost first. The bound is on the depth. -/
def removeTree (name : Bytes) (verbose : Bool) : Nat → Bytes → Activity Nat
  | 0, _ => return 1
  | bound + 1, path => do
      let tell (what : Bytes) : Activity Unit :=
        if verbose then put name (what ++ quoted path ++ [ascii '\n']) else return
      let refused (errno : Errno) : Activity Nat :=
        refuse [name, ": cannot remove ", quoted path, ": ", errno.text] 1
      let world ← get
      match world.findLink path with
      | .error errno => refused errno
      | .ok node =>
          if node.isDirectory then do
            let names := (world.tree.names ((world.place path).toOption.getD FileTree.root))
            let mut code := 0
            for child in names do
              code := max code (← removeTree name verbose bound (path.join child))
            match ← request (·.removeDirectory path) with
            | none => tell "removed directory "
            | some errno => code ← refused errno
            return code
          else
            match ← request (·.unlink path) with
            | none => do
                tell "removed "
                return 0
            | some errno => refused errno

/-- The number of directories that may stand in one another. -/
def depthLimit : Nat := 1000

def rm : Tool := fun name arguments =>
  let grammar : Options.Grammar :=
    { letters := "rRfdivI"
      long := [("recursive", 'r'), ("force", 'f'), ("dir", 'd'), ("verbose", 'v')] }
  withOptions grammar 1 name arguments fun options => do
    let isForced := options.has 'f'
    let isWhole := options.has 'r' || options.has 'R'
    let mut code := 0
    if options.operands.isEmpty && !isForced then return ← refuseFew name "operand"
    for path in options.operands do
      let last := lastName path
      let world ← get
      if isWhole && (last = Bytes.here || last = Bytes.above) then
        code ← refuse
          [name, ": refusing to remove '.' or '..' directory: skipping ", quoted path] 1
      else
        match world.findLink path with
        | .error errno =>
            if !(isForced && (errno = .noEntry || errno = .notDirectory)) then
              code ← refuse [name, ": cannot remove ", quoted path, ": ", errno.text] 1
        | .ok node =>
            if node.isDirectory && !isWhole then
              if options.has 'd' then
                match ← request (·.removeDirectory path) with
                | none => pure ()
                | some errno =>
                    code ← refuse [name, ": cannot remove ", quoted path, ": ", errno.text] 1
              else
                code ← refuse
                  [name, ": cannot remove ", quoted path, ": ", Errno.isDirectory.text] 1
            else code := max code (← removeTree name (options.has 'v') depthLimit path)
    return code

def unlink : Tool := fun name arguments =>
  match arguments with
  | [path] => requestAll name "cannot unlink" [path] fun path world => world.unlink path
  | [] => refuseFew name "operand"
  | _ :: extra :: _ => refuseUse name ["extra operand ", quoted extra] 1

/-! ### Moving, copying and linking -/

/-- The sources of a call and, for each, the path that it is to have: in a directory if there is one for
target. The function is done for each, and complaints are made where the target is none. -/
def forTargets (name : Bytes) (isPlain : Bool) (directory? : Option Bytes) (operands : List Bytes)
    (act : Bytes → Bytes → Activity Nat) : Activity Nat := do
  let world ← get
  let into (directory : Bytes) (sources : List Bytes) : Activity Nat := do
    let mut code := 0
    for source in sources do
      code := max code (← act source (directory.join (lastName source)))
    return code
  match directory?, operands.reverse with
  | some directory, _ :: _ => into directory operands
  | _, [] => refuseFew name "file operand"
  | none, [only] => refuseAfter name "destination file operand" only
  | none, target :: sources =>
      if isPlain then act (operands.headD []) target
      else if isDirectoryAt world target then into target sources.reverse
      else
        match sources with
        | [source] => act source target
        | _ =>
            let why :=
              match world.find target with
              | .error errno => errno
              | .ok _ => .notDirectory
            refuse [name, ": target ", quoted target, ": ", why.text] 1

def mv : Tool := fun name arguments =>
  let grammar : Options.Grammar :=
    { letters := "finvTt:u"
      long := [("force", 'f'), ("no-clobber", 'n'), ("verbose", 'v'), ("no-target-directory", 'T'),
        ("target-directory", 't')] }
  withOptions grammar 1 name arguments fun options =>
    forTargets name (options.has 'T') (options.value? 't') options.operands fun source target => do
      let world ← get
      match world.findLink source with
      | .error errno => refuse [name, ": cannot stat ", quoted source, ": ", errno.text] 1
      | .ok old => do
          let place (path : Bytes) := world.tree.placeOfLink world.self.directory path
          let isDirectory := isDirectoryItself world target
          if options.has 'n' && isThere world target then return 0
          else if isSamePlace (place source) (place target) then
            refuse [name, ": ", quoted source, " and ", quoted target, " are the same file"] 1
          else if old.isDirectory && isThere world target && !isDirectory then
            refuse [name, ": cannot overwrite non-directory ", quoted target, " with directory ",
              quoted source] 1
          else if !old.isDirectory && isDirectory then
            refuse [name, ": cannot overwrite directory ", quoted target, " with non-directory"] 1
          else
            match ← request (·.rename source target) with
            | none => do
                if options.has 'v' then
                  put name (Bytes.ofText "renamed " ++ quoted source ++ Bytes.ofText " -> " ++
                    quoted target ++ [ascii '\n'])
                return 0
            | some .invalid =>
                refuse [name, ": cannot move ", quoted source, " to a subdirectory of itself, ",
                  quoted target] 1
            | some errno =>
                refuse [name, ": cannot move ", quoted source, " to ", quoted target, ": ",
                  errno.text] 1

/-- How files are copied. -/
structure CopyManner where
  whole : Bool := false
  keepsLinks : Bool := false
  keepsModes : Bool := false
  force : Bool := false
  keepsOld : Bool := false
  /-- The copies are further names of the same files. -/
  links : Bool := false
  /-- The copies are symbolic links to the files. -/
  symbolic : Bool := false
  verbose : Bool := false

/-- Copy a file or, with all that is in it, a directory. The bound is on the depth. -/
def copy (name : Bytes) (manner : CopyManner) : Nat → Bytes → Bytes → Activity Nat
  | 0, _, _ => return 1
  | bound + 1, source, target => do
      let world ← get
      let source? := if manner.keepsLinks then world.findLink source else world.find source
      let refused (parts : List Bytes) : Activity Nat := refuse ([name, (": " : Bytes)] ++ parts) 1
      let tell : Activity Unit :=
        if manner.verbose then
          put name (quoted source ++ Bytes.ofText " -> " ++ quoted target ++ [ascii '\n'])
        else return
      match source? with
      | .error errno => refused ["cannot stat ", quoted source, ": ", errno.text]
      | .ok node => do
          let isSame := isSamePlace (world.place source) (world.place target)
          let found := (world.find target).toOption
          let cannot (errno : Errno) : Activity Nat :=
            refused ["cannot create regular file ", quoted target, ": ", errno.text]
          match node.kind with
          | .directory _ _ =>
              if !manner.whole then
                refused ["-r not specified; omitting directory ", quoted source]
              else if found.any (!·.isDirectory) then
                refused ["cannot overwrite non-directory ", quoted target, " with directory ",
                  quoted source]
              else do
                let names := world.tree.names ((world.place source).toOption.getD FileTree.root)
                let made ←
                  if found.isSome then pure none
                  else request (·.makeDirectory target (if manner.keepsModes then 0o777 else node.mode))
                match made with
                | some errno => refused ["cannot create directory ", quoted target, ": ", errno.text]
                | none => do
                    tell
                    let mut code := 0
                    for child in names do
                      code := max code
                        (← copy name manner bound (source.join child) (target.join child))
                    if manner.keepsModes then
                      let _ ← request (·.changeMode target fun _ => node.mode)
                    return code
          | kind => do
              if manner.keepsOld && isThere world target then return 0
              else if isSame then
                refused [quoted source, " and ", quoted target, " are the same file"]
              else if found.any (·.isDirectory) then
                refused ["cannot overwrite directory ", quoted target, " with non-directory"]
              else if manner.links then
                match ← request (·.addName source target) with
                | some errno => refused ["cannot create hard link ", quoted target, " to ",
                    quoted source, ": ", errno.text]
                | none => do
                    tell
                    return 0
              else if manner.symbolic then
                match ← request (·.makeLink source target) with
                | some errno => refused ["cannot create symbolic link ", quoted target, " to ",
                    quoted source, ": ", errno.text]
                | none => do
                    tell
                    return 0
              else
                match kind with
                | .link link => do
                    let _ ← request (·.unlink target)
                    match ← request (·.makeLink link target) with
                    | some errno =>
                        refused ["cannot create symbolic link ", quoted target, ": ", errno.text]
                    | none => do
                        tell
                        return 0
                | _ => do
                    if found.isNone && isThere world target && !manner.force then
                      refused ["not writing through dangling symlink ", quoted target]
                    else
                      match ← readFile source with
                      | .error errno =>
                          refused ["error reading ", quoted source, ": ", errno.text]
                      | .ok bytes => do
                          let opened ← Activity.openToWrite target false true
                          let opened ←
                            if manner.force && !(opened matches .ok _) then do
                              let _ ← request (·.unlink target)
                              Activity.openToWrite target false true
                            else pure opened
                          match opened with
                          | .error errno => cannot errno
                          | .ok stream => do
                              let written ← Activity.write stream bytes
                              Activity.setStream stream none
                              let mask := (← get).self.mask
                              let mode :=
                                if manner.keepsModes then node.mode
                                else node.mode &&& (0o777 ^^^ mask)
                              if found.isNone || manner.keepsModes then
                                let _ ← request (·.changeMode target fun _ => mode)
                              match written with
                              | .error errno =>
                                  refused ["error writing ", quoted target, ": ", errno.text]
                              | .ok () => do
                                  tell
                                  return 0

def cp : Tool := fun name arguments =>
  let grammar : Options.Grammar :=
    { letters := "rRadpfinlsvLPHTt:ux"
      long := [("recursive", 'r'), ("archive", 'a'), ("preserve", 'P'), ("force", 'f'),
        ("no-clobber", 'n'), ("link", 'l'), ("symbolic-link", 's'), ("verbose", 'v'),
        ("dereference", 'L'), ("no-dereference", 'd'), ("no-target-directory", 'T'),
        ("target-directory", 't')] }
  withOptions grammar 1 name arguments fun options =>
    let has := options.has
    let manner : CopyManner :=
      { whole := has 'r' || has 'R' || has 'a'
        keepsLinks := (has 'a' || has 'd' || has 'P' || has 'r' || has 'R') && !has 'L'
        keepsModes := has 'a' || has 'p'
        force := has 'f', keepsOld := has 'n', links := has 'l', symbolic := has 's'
        verbose := has 'v' }
    forTargets name (has 'T') (options.value? 't') options.operands (copy name manner depthLimit)

/-- Makes links, symbolic ones with an option. -/
def ln : Tool := fun name arguments =>
  let grammar : Options.Grammar :=
    { letters := "sfinvTt:rLPb"
      long := [("symbolic", 's'), ("force", 'f'), ("no-dereference", 'n'), ("verbose", 'v'),
        ("no-target-directory", 'T'), ("target-directory", 't')] }
  withOptions grammar 1 name arguments fun options =>
    let operands :=
      match options.operands with
      | [only] => [only, Bytes.here]
      | operands => operands
    let isPlain := options.has 'T' || (options.has 'n' && operands.length = 2)
    forTargets name isPlain (options.value? 't') operands fun source target => do
      let world ← get
      let kind : Bytes := if options.has 's' then "symbolic link" else "hard link"
      match options.has 's', world.findLink source with
      | false, .error errno =>
          refuse [name, ": failed to access ", quoted source, ": ", errno.text] 1
      | isSymbolic, _ => do
          if !isSymbolic && isDirectoryItself world source then
            refuse [name, ": ", source, ": hard link not allowed for directory"] 1
          else do
            if options.has 'f' then
              let _ ← request (·.unlink target)
            match ← request fun world =>
                if isSymbolic then world.makeLink source target else world.addName source target with
            | some errno => do
                let arrow : Bytes :=
                  if isSymbolic || errno = .exists then [] else Bytes.ofText " => " ++ quoted source
                refuse [name, ": failed to create ", kind, " ", quoted target, arrow, ": ",
                  errno.text] 1
            | none => do
                if options.has 'v' then
                  let arrow : Bytes := if isSymbolic then " -> " else " => "
                  put name (quoted target ++ arrow ++ quoted source ++ [ascii '\n'])
                return 0

def link : Tool := fun name arguments =>
  match arguments with
  | [old, new] => do
      match ← request (·.addName old new) with
      | none => return 0
      | some errno =>
          refuse [name, ": cannot create link ", quoted new, " to ", quoted old, ": ", errno.text] 1
  | [] => refuseFew name "operand"
  | [old] => refuseAfter name "operand" old
  | _ :: _ :: extra :: _ => refuseUse name ["extra operand ", quoted extra] 1

/-! ### Permissions -/

/-- The paths of what is in a directory, and in the directories in it, behind its own. The bound is on
the depth. -/
def allBelow (world : World) : Nat → Bytes → List Bytes
  | 0, path => [path]
  | bound + 1, path =>
      match world.tree.placeOfLink world.self.directory path with
      | .error _ => [path]
      | .ok place =>
          path :: (world.tree.names place).flatMap fun child => allBelow world bound (path.join child)

def chmod : Tool := fun name arguments =>
  let isMode (word : Bytes) : Bool :=
    word.head? = some (ascii '-') && 1 < word.length &&
      (word.tail.head?).any fun b => [ascii 'r', ascii 'w', ascii 'x', ascii 'X', ascii 's',
        ascii 't'].contains b
  let modes := arguments.filter isMode
  let grammar : Options.Grammar :=
    { letters := "Rcfv", long := [("recursive", 'R'), ("changes", 'c'), ("silent", 'f'),
        ("quiet", 'f'), ("verbose", 'v'), ] }
  withOptions grammar 1 name (arguments.filter (!isMode ·)) fun options => do
    let (mode?, paths) :=
      match modes, options.operands with
      | mode :: _, paths => (some mode, paths)
      | [], mode :: paths => (some mode, paths)
      | [], [] => (none, [])
    match mode? with
    | none => refuseFew name "operand"
    | some word =>
        match Permissions.change? (← get).self.mask word, paths with
        | none, _ :: _ => refuseUse name ["invalid mode: ", quoted word] 1
        | _, [] => refuseAfter name "operand" word
        | some change, paths => do
            let mut code := 0
            for path in paths do
              let world ← get
              let all := if options.has 'R' then allBelow world depthLimit path else [path]
              for path in all do
                match ← request (·.changeMode path change) with
                | none => pure ()
                | some errno => do
                    code := 1
                    if !options.has 'f' then
                      complain [name, ": cannot access ", quoted path, ": ", errno.text]
            return code

/-! ### Telling about files -/

/-- Permissions as nine letters, with one in front for what the node is. -/
def modeLetters (node : Node) : Bytes :=
  let first : Char :=
    match node.kind with
    | .directory _ _ => 'd'
    | .link _ => 'l'
    | .device _ => 'c'
    | .file _ => '-'
  let bit (n : Nat) (c : Char) : Char := if node.mode.testBit n then c else '-'
  [ascii first] ++ ([(8, 'r'), (7, 'w'), (6, 'x'), (5, 'r'), (4, 'w'), (3, 'x'), (2, 'r'), (1, 'w'),
    (0, 'x')].map fun (n, c) => ascii (bit n c))

/-- Permissions as an octal number. -/
def modeDigits (mode : Nat) : Bytes := Bytes.ofText (String.ofList (Nat.toDigits 8 mode))

/-- The size of what a node holds. -/
def nodeSize (node : Node) : Nat :=
  match node.kind with
  | .file content => content.length
  | .link target => target.length
  | .directory _ _ => 4096
  | .device _ => 0

/-- The names of files in the order that options ask for. -/
def orderNames (options : Options) (world : World) (path? : Bytes → Bytes) (names : List Bytes) :
    List Bytes :=
  let node? (name : Bytes) : Option Node := (world.findLink (path? name)).toOption
  let size (name : Bytes) : Nat := ((node? name).map nodeSize).getD 0
  let time (name : Bytes) : Nat := ((node? name).map (·.changed)).getD 0
  let sorted := names.mergeSort fun a b => decide (a ≤ b)
  let ordered :=
    if options.has 'S' then sorted.mergeSort fun a b => decide (size b ≤ size a)
    else if options.has 't' then sorted.mergeSort fun a b => decide (time b ≤ time a)
    else if options.has 'U' || options.has 'f' then names
    else sorted
  if options.has 'r' then ordered.reverse else ordered

/-- The line of a file in a list. -/
def listLine (options : Options) (world : World) (path shown : Bytes) : Bytes :=
  let mark : Bytes :=
    match world.findLink path with
    | .error _ => []
    | .ok node =>
        match node.kind with
        | .directory _ _ => if options.has 'F' || options.has 'p' then [Bytes.slash] else []
        | .link _ => if options.has 'F' then [ascii '@'] else []
        | .file _ => if options.has 'F' && node.isExecutable then [ascii '*'] else []
        | .device _ => []
  shown ++ mark ++ [ascii '\n']

/-- Print the names in a directory and, with an option, those in the directories in it. The bound is on
the depth. -/
def listDirectory (name : Bytes) (options : Options) : Nat → Bool → Bytes → Activity Unit
  | 0, _, _ => return
  | bound + 1, titled, path => do
      let world ← get
      let place := (world.place path).toOption.getD FileTree.root
      let isShown (child : Bytes) : Bool :=
        options.has 'a' || options.has 'A' || child.head? ≠ some (ascii '.')
      let own := if options.has 'a' then [Bytes.here, Bytes.above] else []
      let names := orderNames options world path.join ((world.tree.entries place).map (·.1))
      let names := own ++ names.filter isShown
      if titled then put name (path ++ Bytes.ofText ":\n")
      put name (names.flatMap fun child => listLine options world (path.join child) child)
      if options.has 'R' then
        for child in names do
          let below := path.join child
          if isDirectoryItself world below && !own.contains child then
            put name [ascii '\n']
            listDirectory name options bound true below

def ls : Tool := fun name arguments =>
  let grammar : Options.Grammar :=
    { letters := "1aAdFlRrStUfpighnLCmxkqbBHX"
      long := [("all", 'a'), ("almost-all", 'A'), ("directory", 'd'), ("classify", 'F'),
        ("recursive", 'R'), ("reverse", 'r')] }
  withOptions grammar 2 name arguments fun options => do
    let world ← get
    let operands := if options.operands.isEmpty then [Bytes.here] else options.operands
    let find (path : Bytes) : Except Errno Node := do
      if options.has 'd' then world.findLink path
      else
        match world.find path with
        | .ok node => return node
        | .error _ => world.findLink path
    let mut code := 0
    for path in operands do
      match find path with
      | .ok _ => pure ()
      | .error errno => code ← refuse [name, ": cannot access ", quoted path, ": ", errno.text] 2
    let found := orderNames options world (fun path => path)
      (operands.filter fun path => (find path).toOption.isSome)
    let isDirectory (path : Bytes) : Bool :=
      !options.has 'd' && (find path).toOption.any (·.isDirectory)
    let files := found.filter (!isDirectory ·)
    put name (files.flatMap fun path => listLine options world path path)
    let titled := 1 < operands.length || options.has 'R'
    for (path, index) in (found.filter isDirectory).zipIdx do
      if 0 < index || !files.isEmpty then put name [ascii '\n']
      listDirectory name options depthLimit titled path
    return code

/-- What the letter of a format asks about a node. -/
def statField (world : World) (path : Bytes) (place : Place) (node : Node) (letter : Char) :
    Option Bytes :=
  match letter with
  | 'a' => some (modeDigits node.mode)
  | 'A' => some (modeLetters node)
  | 'n' => some path
  | 'N' =>
      match node.kind with
      | .link target => some (quoted path ++ Bytes.ofText " -> " ++ quoted target)
      | _ => some (quoted path)
  | 's' => some (decimal (nodeSize node))
  | 'h' => some (decimal (if node.isDirectory then 2 else world.tree.nameCount place))
  | 'F' =>
      match node.kind with
      | .directory _ _ => some "directory"
      | .link _ => some "symbolic link"
      | .device _ => some "character special file"
      | .file [] => some "regular empty file"
      | .file _ => some "regular file"
  | 'u' | 'g' => some "0"
  | 'U' | 'G' => some "root"
  | _ => none

def stat : Tool := fun name arguments =>
  withOptions { letters := "c:Lf", long := [("format", 'c'), ("dereference", 'L')] } 1 name arguments
      fun options => do
    if options.operands.isEmpty then return ← refuseFew name "operand"
    let mut code := 0
    for path in options.operands do
      let world ← get
      let place? :=
        if options.has 'L' then world.place path
        else world.tree.placeOfLink world.self.directory path
      match place? with
      | .error errno => code ← refuse [name, ": cannot statx ", quoted path, ": ", errno.text] 1
      | .ok place =>
          match world.tree.node? place with
          | none => pure ()
          | some node =>
              let format := (options.value? 'c').getD "%n"
              put name (fill (statField world path place node) format ++ [ascii '\n'])
    return code
where
  /-- The format with the letters behind percent signs replaced. -/
  fill (field : Char → Option Bytes) : Bytes → Bytes
    | first :: letter :: rest =>
        if first = ascii '%' then
          if letter = ascii '%' then ascii '%' :: fill field rest
          else ((field (Char.ofNat letter.toNat)).getD "?") ++ fill field rest
        else first :: fill field (letter :: rest)
    | bytes => bytes

end MakeLauncher.Machine.Tool
