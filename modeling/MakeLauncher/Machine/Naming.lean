import MakeLauncher.Machine.World

/-! What the system does with names at the request of a process: it makes and removes directories, and
removes, moves and links files. Each request gives the world after it or is refused. -/

namespace MakeLauncher.Machine.World

/-- A path ends with a slash, which only a directory may. -/
def asksDirectory (path : Bytes) : Bool := path.getLast? = some Bytes.slash

def freshSlot (world : World) (path : Bytes) : Except Errno Slot := do
  match ← world.slot path with
  | none => throw .exists
  | some slot =>
      if (world.tree.child? slot).isSome then throw .exists
      else if (world.tree.pathOf? slot.directory).isNone then throw .noEntry
      else return slot

def makeDirectory (world : World) (path : Bytes) (mode : Nat) : Except Errno World := do
  let slot ← world.freshSlot path
  let node := Node.emptyDirectory slot.directory (mode &&& (0o777 ^^^ world.self.mask))
  return { world with tree := (world.tree.addAt slot node).1 }

def makeLink (world : World) (target path : Bytes) : Except Errno World := do
  if target.isEmpty then throw .noEntry
  let slot ← world.freshSlot path
  return { world with tree := (world.tree.addAt slot (Node.link target)).1 }

/-- The name of something that is there, and its place. A link in the name is not followed. -/
def usedSlot (world : World) (path : Bytes) : Except Errno (Slot × Place) := do
  match ← world.slot path with
  | none => throw .invalid
  | some slot =>
      match world.tree.child? slot with
      | none => throw .noEntry
      | some place =>
          if asksDirectory path && !world.tree.isDirectory place then throw .notDirectory
          else return (slot, place)

def unlink (world : World) (path : Bytes) : Except Errno World := do
  match ← world.slot path with
  | none => throw .isDirectory
  | some _ =>
      let (slot, place) ← world.usedSlot path
      if world.tree.isDirectory place then throw .isDirectory
      else return { world with tree := world.tree.unname slot }

def removeDirectory (world : World) (path : Bytes) : Except Errno World := do
  let (slot, place) ← world.usedSlot path
  if !world.tree.isDirectory place then throw .notDirectory
  else if !(world.tree.entries place).isEmpty then throw .notEmpty
  else return { world with tree := world.tree.unname slot }

/-- A directory is another one or stands somewhere above it. -/
def isAbove (tree : FileTree) (upper : Place) : Nat → Place → Bool
  | 0, place => place = upper
  | bound + 1, place =>
      place = upper || (place ≠ FileTree.root && isAbove tree upper bound (tree.above place))

/-- What has one name gets another. It takes the place of what has that name, unless one of them is a
directory and the other is none. -/
def rename (world : World) (old new : Bytes) : Except Errno World := do
  let (source, place) ← world.usedSlot old
  match ← world.slot new with
  | none => throw .busy
  | some target =>
      let isDirectory := world.tree.isDirectory place
      if isDirectory && isAbove world.tree place world.tree.nodes.size target.directory then
        throw .invalid
      else if asksDirectory new && !isDirectory then throw .notDirectory
      else if (world.tree.pathOf? target.directory).isNone then throw .noEntry
      else
        match world.tree.child? target with
        | none => pure ()
        | some other =>
            if other = place then return world
            else if isDirectory && !world.tree.isDirectory other then throw .notDirectory
            else if !isDirectory && world.tree.isDirectory other then throw .isDirectory
            else if isDirectory && !(world.tree.entries other).isEmpty then throw .notEmpty
        return { world with tree := (world.tree.unname source).name target place }

/-- A file gets one more name. -/
def addName (world : World) (old new : Bytes) : Except Errno World := do
  let place ← world.tree.placeOfLink world.self.directory old
  if world.tree.isDirectory place then throw .notPermitted
  let slot ← world.freshSlot new
  return { world with tree := world.tree.name slot place }

def changeMode (world : World) (path : Bytes) (change : Node → Nat) : Except Errno World := do
  let place ← world.place path
  return { world with tree := world.tree.update place fun node => { node with mode := change node } }

end MakeLauncher.Machine.World
