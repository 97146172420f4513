import MakeLauncher.Machine.Listing

/-! The command line: the launcher with the arguments it is given, on the machine that standard
input describes as a `Listing`. -/

namespace MakeLauncher

/-- All bytes of a stream, behind those already read. -/
partial def readAll (stream : IO.FS.Stream) (read : ByteArray) : IO ByteArray := do
  let next ← stream.read 65536
  if next.isEmpty then return read
  readAll stream (read ++ next)

end MakeLauncher

open MakeLauncher in
/-- Run the launcher, print what it prints and end as it ends. -/
def main (arguments : List String) : IO UInt32 := do
  let input ← readAll (← IO.getStdin) ByteArray.empty
  match Listing.ofBytes? input.toList with
  | none =>
      IO.eprintln "the description of the machine cannot be read"
      return 2
  | some listing =>
      match listing.run arguments with
      | .error failure =>
          IO.eprintln s!"the launcher cannot be started: {failure.message}"
          return 127
      | .ok finish =>
          (← IO.getStdout).write ⟨finish.printed.stdout.toArray⟩
          (← IO.getStderr).write ⟨finish.printed.stderr.toArray⟩
          return finish.code.toUInt32
