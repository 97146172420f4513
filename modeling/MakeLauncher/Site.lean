import MakeLauncher.Path
import MakeLauncher.Environment

/-! The search for a program by its name: along a search path, or at one place when the name is
itself a path. The entries of the search path may be relative, and then they are read from the
directory of the process, and they may start with a tilde, which is the user's home. -/

namespace MakeLauncher

/-- The files of a tree, by their absolute paths, with links followed. -/
structure Files where
  isFile : Bytes → Bool
  isExecutable : Bytes → Bool

/-- The place from which a process sees the files. -/
structure Site where
  files : Files
  /-- The directory of the process, which relative paths start from. -/
  directory : Bytes
  home : Bytes

namespace Site

/-- The absolute path that a process means, unless the path can name nothing. -/
def absolute? (site : Site) (path : Bytes) : Option Bytes :=
  if path.isEmpty || path.contains 0 || path.length > Bytes.pathLimit then none
  else some (site.directory.join path)

def isFile (site : Site) (path : Bytes) : Bool := (site.absolute? path).any site.files.isFile

def isProgram (site : Site) (path : Bytes) : Bool :=
  (site.absolute? path).any fun path => site.files.isFile path && site.files.isExecutable path

def tilde : Bytes := "~"

/-- An entry of the search path with a tilde in front replaced by the home, to which the other names
are joined one by one. -/
def expandHome (site : Site) (entry : Bytes) : Bytes :=
  match entry.components with
  | first :: rest => if first = tilde then rest.foldl Bytes.join site.home else entry
  | [] => entry

/-- The paths to try for a name, in order. A name of several components is itself a path, seen from
`directory`. -/
def candidates (site : Site) (searchPath directory name : Bytes) : List Bytes :=
  if name.components.length > 1 then [directory.join name]
  else (searchPath.splitOn Bytes.colon).map fun entry => (site.expandHome entry).join name

/-- The first candidate that is a program, as it is composed. -/
def search (site : Site) (searchPath directory name : Bytes) : Option Bytes :=
  (site.candidates searchPath directory name).find? site.isProgram

end Site
end MakeLauncher
