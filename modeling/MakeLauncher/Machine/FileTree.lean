import MakeLauncher.Failure
import MakeLauncher.Machine.Utility
import MakeLauncher.Site

/-! A file tree with directories, files, symbolic links and devices. What stands in the tree are nodes
with numbers; a directory gives names to nodes, and a file may have several names. Paths are walked
name by name as the system does it: links are followed where they are met, the names `.` and `..` mean
the directory and the one above, and a slash at the end asks for a directory. -/

namespace MakeLauncher

inductive Device where
  /-- It forgets what is written and has nothing to be read. -/
  | sink
  /-- It forgets what is written, and zeros without an end are read from it. -/
  | zeros
  /-- It is always full, and zeros without an end are read from it. -/
  | full
  /-- The stream with this number of the process that opens it. -/
  | stream (number : Nat)
  | terminal
  deriving DecidableEq, Repr

/-- The number of a node of a tree. -/
abbrev Place := Nat

inductive Kind where
  /-- A directory with the directory above it and the names in it. -/
  | directory (parent : Place) (entries : List (Bytes × Place))
  | file (content : Bytes)
  | link (target : Bytes)
  | device (device : Device)
  deriving DecidableEq, Repr

structure Node where
  kind : Kind
  /-- The permissions, as the nine bits that stand for them. -/
  mode : Nat
  changed : Nat := 0
  deriving DecidableEq, Repr

namespace Node

def isDirectory (node : Node) : Bool := node.kind matches .directory _ _

def isFile (node : Node) : Bool := node.kind matches .file _

/-- Somebody may execute it. -/
def isExecutable (node : Node) : Bool := node.mode &&& 0o111 ≠ 0

def emptyDirectory (parent : Place) (mode : Nat) : Node := { kind := .directory parent [], mode }

def link (target : Bytes) : Node := { kind := .link target, mode := 0o777 }

def file (content : Bytes) (executable : Bool) : Node :=
  { kind := .file content, mode := if executable then 0o755 else 0o644 }

end Node

/-- A file tree. The first of its nodes is the root, which is a directory in every tree. -/
structure FileTree where
  nodes : Array Node := #[Node.emptyDirectory 0 0o755]
  deriving Repr

/-- A name in a directory, whether something has it or not. -/
structure Slot where
  directory : Place
  name : Bytes
  deriving DecidableEq, Repr

namespace FileTree

def root : Place := 0

def node? (tree : FileTree) (place : Place) : Option Node := tree.nodes[place]?

def kind? (tree : FileTree) (place : Place) : Option Kind := (tree.node? place).map (·.kind)

/-- The names in the directory at a place, in the order in which they were given. -/
def entries (tree : FileTree) (place : Place) : List (Bytes × Place) :=
  match tree.kind? place with
  | some (.directory _ entries) => entries
  | _ => []

def above (tree : FileTree) (place : Place) : Place :=
  match tree.kind? place with
  | some (.directory parent _) => parent
  | _ => root

def isDirectory (tree : FileTree) (place : Place) : Bool := (tree.node? place).any (·.isDirectory)

/-- What a directory gives a name to. -/
def child? (tree : FileTree) (slot : Slot) : Option Place :=
  (tree.entries slot.directory).lookup slot.name

def names (tree : FileTree) (place : Place) : List Bytes :=
  ((tree.entries place).map (·.1)).mergeSort fun a b => decide (a ≤ b)

def content (tree : FileTree) (place : Place) : Bytes :=
  match tree.kind? place with
  | some (.file content) => content
  | _ => []

/-! ### Changes -/

/-- The tree with one more node, which has no name yet, and its place. -/
def add (tree : FileTree) (node : Node) : FileTree × Place :=
  (⟨tree.nodes.push node⟩, tree.nodes.size)

def update (tree : FileTree) (place : Place) (change : Node → Node) : FileTree :=
  match tree.node? place with
  | some node => ⟨tree.nodes.setIfInBounds place (change node)⟩
  | none => tree

def updateEntries (tree : FileTree) (place : Place)
    (change : List (Bytes × Place) → List (Bytes × Place)) : FileTree :=
  tree.update place fun node =>
    match node.kind with
    | .directory parent entries => { node with kind := .directory parent (change entries) }
    | _ => node

/-- The tree without a name. What had it stays, as long as it is known by its number. -/
def unname (tree : FileTree) (slot : Slot) : FileTree :=
  tree.updateEntries slot.directory fun entries => entries.filter (·.1 ≠ slot.name)

/-- The tree in which a name means the node at a place. A directory comes to stand below the one that
names it. -/
def name (tree : FileTree) (slot : Slot) (place : Place) : FileTree :=
  let tree := tree.updateEntries slot.directory fun entries =>
    entries.filter (·.1 ≠ slot.name) ++ [(slot.name, place)]
  tree.update place fun node =>
    match node.kind with
    | .directory _ entries => { node with kind := .directory slot.directory entries }
    | _ => node

def addAt (tree : FileTree) (slot : Slot) (node : Node) : FileTree × Place :=
  let (tree, place) := tree.add node
  (tree.name slot place, place)

def store (tree : FileTree) (place : Place) (time : Nat) (content : Bytes) : FileTree :=
  tree.update place fun node =>
    match node.kind with
    | .file _ => { node with kind := .file content, changed := time }
    | _ => node

def nameCount (tree : FileTree) (place : Place) : Nat :=
  tree.nodes.foldl (fun count node =>
    match node.kind with
    | .directory _ entries => count + entries.countP (·.2 = place)
    | _ => count) 0

/-! ### Walks -/

/-- The number of bytes that a name may have. -/
def nameLimit : Nat := 255

/-- The number of links that are followed on one walk. -/
def linkLimit : Nat := 40

/-- The names to walk for a path. A slash at the end stands for a last `.`. -/
def steps (path : Bytes) : List Bytes :=
  path.splitOn Bytes.slash |>.filter (· ≠ []) |>.append
    (if path.getLast? = some Bytes.slash then [Bytes.here] else [])

def start (directory : Place) (path : Bytes) : Place := if path.isAbsolute then root else directory

/-- Where a walk ends: the place, and the last name that was looked up to get there unless that was a
step to the directory itself or the one above. -/
structure Arrival where
  place : Place
  slot? : Option Slot := none
  deriving DecidableEq, Repr

/-- Where names lead to from some place, with links followed, at most `links` of them. -/
def walk (tree : FileTree) (links : Nat) (source : Arrival) (names : List Bytes) :
    Except Errno Arrival :=
  match names with
  | [] => .ok source
  | name :: rest =>
      if !tree.isDirectory source.place then .error .notDirectory
      else if name = Bytes.here then tree.walk links { place := source.place } rest
      else if name = Bytes.above then tree.walk links { place := tree.above source.place } rest
      else if name.length > nameLimit then .error .nameTooLong
      else
        let slot : Slot := ⟨source.place, name⟩
        match tree.child? slot with
        | none => .error .noEntry
        | some next =>
            match tree.kind? next with
            | some (.link target) =>
                match links with
                | 0 => .error .linkLoop
                | links + 1 =>
                    tree.walk links { place := start source.place target } (steps target ++ rest)
            | _ => tree.walk links { place := next, slot? := some slot } rest
termination_by (links, names.length)

/-- A path can be looked up: it is neither empty nor too long. -/
def checkPath (path : Bytes) : Except Errno Unit :=
  if path.isEmpty then .error .noEntry
  else if path.length > Bytes.pathLimit then .error .nameTooLong
  else .ok ()

def arrive (tree : FileTree) (directory : Place) (path : Bytes) : Except Errno Arrival := do
  checkPath path
  tree.walk linkLimit { place := start directory path } (steps path)

def place (tree : FileTree) (directory : Place) (path : Bytes) : Except Errno Place :=
  (tree.arrive directory path).map (·.place)

/-- The name that the last of some names is in its directory, when a link in that name is not
followed. The names `.` and `..` are no names for this. -/
def slotOf (tree : FileTree) (place : Place) (names : List Bytes) : Except Errno (Option Slot) := do
  match names.getLast? with
  | none => return none
  | some name =>
      let { place := directory, .. } ← tree.walk linkLimit { place } names.dropLast
      if !tree.isDirectory directory then throw .notDirectory
      else if name = Bytes.here || name = Bytes.above then return none
      else if name.length > nameLimit then throw .nameTooLong
      else return some ⟨directory, name⟩

/-- The name that the last name of a path is in its directory. Slashes at the end count for
nothing. -/
def slot (tree : FileTree) (directory : Place) (path : Bytes) : Except Errno (Option Slot) := do
  checkPath path
  tree.slotOf (start directory path) (path.splitOn Bytes.slash |>.filter (· ≠ []))

/-- The place of a path, where a link in the last name is not followed unless a slash is behind it. -/
def placeOfLink (tree : FileTree) (directory : Place) (path : Bytes) : Except Errno Place := do
  if path.getLast? = some Bytes.slash then tree.place directory path
  else
    match ← tree.slot directory path with
    | none => tree.place directory path
    | some slot =>
        match tree.child? slot with
        | some place => return place
        | none => throw .noEntry

/-- The name under which a file is found or made, with links followed, at most `links` of them. A link
may lead to nothing, as long as there is a directory for the file. -/
def creation (tree : FileTree) (links : Nat) (place : Place) (names : List Bytes) :
    Except Errno (Option Slot) := do
  match ← tree.slotOf place names with
  | none => return none
  | some slot =>
      match (tree.child? slot).bind tree.kind? with
      | some (.link target) =>
          match links with
          | 0 => throw .linkLoop
          | links + 1 => tree.creation links (start slot.directory target) (steps target)
      | _ => return some slot

/-- The absolute path of a directory. One that has been removed has none. -/
def pathOf? (tree : FileTree) (directory : Place) : Option Bytes :=
  if directory = root then some [Bytes.slash]
  else (climb tree.nodes.size directory []).map fun names =>
    names.flatMap fun name => Bytes.slash :: name
where
  /-- The names on the way from the root to a directory, in front of others. The bound is on their
  number. -/
  climb : Nat → Place → List Bytes → Option (List Bytes)
    | 0, _, _ => none
    | bound + 1, place, names =>
        if place = root then some names
        else
          match (tree.entries (tree.above place)).find? (·.2 = place) with
          | some (name, _) => climb bound (tree.above place) (name :: names)
          | none => none

def pathOfArrival? (tree : FileTree) (arrival : Arrival) : Option Bytes :=
  if tree.isDirectory arrival.place then tree.pathOf? arrival.place
  else
    match arrival.slot? with
    | some slot => (tree.pathOf? slot.directory).map (·.join slot.name)
    | none => none

/-- The absolute path, with all links followed, of a path seen from a directory. -/
def locate (tree : FileTree) (directory : Place) (path : Bytes) : Except IoFailure Bytes :=
  if path.contains 0 then .error .zeroInPath
  else if path.isEmpty then .error (.refused .noEntry)
  else
    match tree.walk linkLimit { place := start directory path } (steps path) with
    | .error errno => .error (.refused errno)
    | .ok arrival =>
        match tree.pathOfArrival? arrival with
        | some path => .ok path
        | none => .error (.refused .noEntry)

def find? (tree : FileTree) (path : Bytes) : Option Node :=
  match tree.walk linkLimit { place := root } (steps path) with
  | .ok arrival => tree.node? arrival.place
  | .error _ => none

/-- The files of a tree. Directories may be executed, in the sense that they may be entered. -/
def files (tree : FileTree) : Files where
  isFile path := (tree.find? path).any (·.isFile)
  isExecutable path := (tree.find? path).any fun node => node.isDirectory || node.isExecutable

/-! ### Building a tree -/

/-- The tree with the directories of a walk made where they are missing, and the place of the last
one. -/
def makeDirectories (tree : FileTree) (place : Place) : List Bytes → FileTree × Place
  | [] => (tree, place)
  | name :: rest =>
      if name = Bytes.here then tree.makeDirectories place rest
      else if name = Bytes.above then tree.makeDirectories (tree.above place) rest
      else
        match tree.walk linkLimit { place } [name], tree.child? ⟨place, name⟩ with
        | .ok next, _ => tree.makeDirectories next.place rest
        | .error _, some next => tree.makeDirectories next rest
        | .error _, none =>
            let (tree, next) := tree.addAt ⟨place, name⟩ (Node.emptyDirectory place 0o755)
            tree.makeDirectories next rest

def addDirectory (tree : FileTree) (path : Bytes) : FileTree :=
  (tree.makeDirectories root (steps path)).1

/-- The tree with a file, a link or a device at an absolute path. A file is written through a link; a
link takes the place of nothing. -/
def addPath (tree : FileTree) (path : Bytes) (node : Node) : FileTree :=
  let names := steps path
  let (tree, parent) := tree.makeDirectories root names.dropLast
  match names.getLast? with
  | none => tree
  | some name =>
      match node.kind, tree.child? ⟨parent, name⟩ with
      | .link _, some _ => tree
      | .link _, none => (tree.addAt ⟨parent, name⟩ node).1
      | _, _ =>
          match tree.creation linkLimit parent [name] with
          | .ok (some slot) =>
              match tree.child? slot with
              | none => (tree.addAt slot node).1
              | some place => if tree.isDirectory place then tree else tree.update place fun _ => node
          | _ => tree

/-- The directories that every machine has, with no program in them. -/
def commonDirectories : List String :=
  ["/dev", "/etc", "/home", "/mnt", "/opt", "/proc", "/root", "/run", "/srv", "/sys", "/tmp",
    "/usr/bin", "/usr/lib", "/usr/local/bin", "/usr/sbin", "/usr/share", "/var/tmp"]

def commonDevices : List (String × Device) :=
  [("/dev/null", .sink), ("/dev/zero", .zeros), ("/dev/full", .full), ("/dev/stdin", .stream 0),
    ("/dev/stdout", .stream 1), ("/dev/stderr", .stream 2), ("/dev/tty", .terminal)] ++
    (List.range 10).map fun number => ("/dev/fd/" ++ toString number, .stream number)

/-- The tree of a machine to which nothing has been added: the utilities, in the directory that is
searched when there is no search path, the devices and a few directories. -/
def base : FileTree :=
  let tree := commonDirectories.foldl (fun tree path => tree.addDirectory path) ({} : FileTree)
  let tree := tree.addPath "/bin" (.link "usr/bin") |>.addPath "/sbin" (.link "usr/sbin")
  let tree := commonDevices.foldl (fun tree (path, device) =>
    tree.addPath path { kind := .device device, mode := 0o666 }) tree
  Utility.names.foldl (fun tree (name : String) =>
    tree.addPath (Bytes.join "/usr/bin" name) (.file (Utility.ofName name).content true)) tree

end FileTree
end MakeLauncher
