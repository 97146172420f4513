import MakeLauncher.Machine.Start

/-! A machine written down line by line, for a launch to be tried on. The fields of a line are
separated by tabs:

* `launcher PATH` is the executable of the launcher,
* `directory PATH` is a directory, and `start PATH` is the one that the launcher is started in,
* `set NAME VALUE` is a variable,
* `link PATH TARGET` is a symbolic link,
* `file PATH` is a file and `program PATH` an executable one. The lines behind it that start with
  `>` are its content. -/

namespace MakeLauncher

structure Listing where
  tree : FileTree := FileTree.base
  executable : Bytes := [Bytes.slash]
  directory : Bytes := [Bytes.slash]
  vars : Variables := []
  /-- The file that lines of content belong to. -/
  open? : Option (Bytes × Bool × Bytes) := none

namespace Listing

/-- The listing after one more line, if that is a line of a listing. -/
def addLine (listing : Listing) (line : Bytes) : Option Listing :=
  match line with
  | [] => some listing
  | first :: rest =>
      if first = Bytes.ascii '>' then
        match listing.open? with
        | none => none
        | some (path, executable, content) =>
            let content := content ++ rest ++ [Bytes.ascii '\n']
            some { listing with
              tree := listing.tree.addPath path (.file content executable)
              open? := some (path, executable, content) }
      else
        match (line.splitOn (Bytes.ascii '\t')).map fun field => (Bytes.shown field, field) with
        | [("launcher", _), (_, path)] =>
            some { listing with
              tree := listing.tree.addPath path (.file Utility.launcher.content true)
              executable := path, open? := none }
        | [("directory", _), (_, path)] =>
            some { listing with tree := listing.tree.addDirectory path, open? := none }
        | [("start", _), (_, path)] =>
            some { listing with
              tree := listing.tree.addDirectory path
              directory := path, open? := none }
        | [("set", _), (name, _), (_, value)] =>
            some { listing with vars := listing.vars.set name value, open? := none }
        | [("link", _), (_, path), (_, target)] =>
            some { listing with tree := listing.tree.addPath path (.link target), open? := none }
        | [("file", _), (_, path)] =>
            some { listing with
              tree := listing.tree.addPath path (.file [] false)
              open? := some (path, false, []) }
        | [("program", _), (_, path)] =>
            some { listing with
              tree := listing.tree.addPath path (.file [] true)
              open? := some (path, true, []) }
        | _ => none

/-- The machine that the lines of a listing make up. -/
def ofBytes? (bytes : Bytes) : Option Listing :=
  (bytes.splitOn (Bytes.ascii '\n')).foldlM addLine {}

/-- The run of the launcher on the machine with these arguments. -/
def run (listing : Listing) (arguments : List String) : Except IoFailure Finish :=
  let line : CommandLine := {
    executable := listing.executable
    directory := listing.directory
    arguments := arguments.map Bytes.ofText
    vars := listing.vars }
  (Machine.ofTree listing.tree).run line

end Listing
end MakeLauncher
