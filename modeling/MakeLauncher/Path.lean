import MakeLauncher.Bytes

/-! Paths as byte strings: joining, which normalises nothing, and the components that a search for a
program looks at. -/

namespace MakeLauncher.Bytes

def isAbsolute (path : Bytes) : Bool := path.head? == some slash

/-- The path that is `path` seen from `base`: `path` alone when it is absolute, and otherwise both
with one slash between them unless `base` is empty or has it. -/
def join (base path : Bytes) : Bytes :=
  if path.isAbsolute then path
  else if base.isEmpty || base.getLast? == some slash then base ++ path
  else base ++ slash :: path

/-- The number of bytes that a path may have where the system takes it. -/
def pathLimit : Nat := 4095

/-- The name of the directory itself. -/
def here : Bytes := "."

/-- The name of the directory above. -/
def above : Bytes := ".."

/-- The components of a path: a slash at the start is one, and then each name between slashes is.
Empty names are none, and neither is `.`, unless the path starts with it. -/
def components (path : Bytes) : List Bytes :=
  let names := (path.splitOn slash).filter fun name => name ≠ [] && name ≠ here
  if path.isAbsolute then [slash] :: names
  else if (path.splitOn slash).head? = some here then here :: names
  else names

/-- The directory of an absolute path that has neither empty names nor `.` or `..`: what stands
before its last slash. The root has none. -/
def parent? (path : Bytes) : Option Bytes :=
  let names := (path.splitOn slash).filter (· ≠ [])
  if names.isEmpty then none
  else some (slash :: [slash].intercalate names.dropLast)

example : parent? "/opt/ndk/launcher" = some (ofText "/opt/ndk") ∧
    parent? "/ndk" = some (ofText "/") ∧ parent? "/" = none := by decide

example : components "./make" = [here, ofText "make"] ∧ components "make/." = [ofText "make"] ∧
    components "/" = [[slash]] ∧ components "" = [] := by decide

end MakeLauncher.Bytes
