import MakeLauncher.Machine.Shell.Expansion

/-! Redirections: where the streams of a command go while it runs. -/

namespace MakeLauncher.Shell

open Bytes (ascii)
open Numeral (isDigit ofDigits)
open Machine (Access Activity World)

/-- A redirection whose target has been expanded. -/
structure Redirect where
  descriptor : Nat
  kind : RedirectionKind
  target : Bytes

namespace Session

/-- The least number of a stream that a script cannot name. -/
def hiddenStream : Nat := Machine.Process.hiddenStream

/-- Keep where the streams lead that redirections change. The result is their numbers, each with that
of the stream which keeps it, if it leads anywhere. -/
def saveStreams (redirects : List Redirect) : Session (List (Nat × Option Nat)) :=
  (redirects.map (·.descriptor)).eraseDups.mapM fun descriptor => do
    let world := (← get).world
    match world.stream? descriptor with
    | none => return (descriptor, none)
    | some file => do
        let kept := world.freeStream hiddenStream
        act (Activity.setStream kept (some file))
        return (descriptor, some kept)

def dropStreams (saved : List (Nat × Option Nat)) : Session Unit := do
  for (_, kept?) in saved do
    match kept? with
    | some kept => act (Activity.setStream kept none)
    | none => pure ()

def restoreStreams (saved : List (Nat × Option Nat)) : Session Unit := do
  for (descriptor, kept?) in saved do
    let file? := kept?.bind (← get).world.stream?
    act (Activity.setStream descriptor file?)
  dropStreams saved

/-- Lead a stream to a file that the world opens, or give up. -/
def openStream (descriptor : Nat) (target : Bytes) (verb absent : String)
    (opened : Except Errno (World × Nat)) : Session Unit := do
  match opened with
  | .ok (world, number) =>
      modify fun state => { state with world := world.setStream descriptor (some number) }
  | .error errno =>
      let why : Bytes :=
        match errno with
        | .noEntry | .notDirectory => absent
        | errno => errno.text
      fail ["cannot ", verb, " ", target, ": ", why]

def redirect (output : Nat → Bytes → Session Bytes) (redirect : Redirect) : Session Unit := do
  let state ← get
  let world := state.world
  let write (access : Access) (emptied : Bool) : Session Unit :=
    openStream redirect.descriptor redirect.target "create" "Directory nonexistent"
      (world.openToWrite redirect.target access emptied)
  match redirect.kind with
  | .input =>
      openStream redirect.descriptor redirect.target "open" "No such file"
        (world.openToRead redirect.target)
  | .output =>
      let isFile :=
        match world.find redirect.target with
        | .ok node => node.isFile
        | .error _ => false
      if state.has 'C' && isFile then
        openStream redirect.descriptor redirect.target "create" "" (.error .exists)
      else write { writes := true } true
  | .clobber => write { writes := true } true
  | .append => write { writes := true, appends := true } false
  | .readWrite => write { reads := true, writes := true } false
  | .duplicate =>
      if redirect.target = Bytes.ofText "-" then
        act (Activity.setStream redirect.descriptor none)
      else
        match world.stream? (ofDigits redirect.target) with
        | some file => act (Activity.setStream redirect.descriptor (some file))
        | none => fail [redirect.target, ": Bad file descriptor"]
  | .document number => do
      let text ← expandOne output .nowhere (state.documents[number]?.getD .nil)
      let (reader, _) ← act (Activity.holdPipe text)
      act (Activity.setStream redirect.descriptor (some reader))

def redirectAll (output : Nat → Bytes → Session Bytes) : List Redirect → Session Unit
  | [] => return
  | first :: rest => do
      redirect output first
      redirectAll output rest

/-- Whether bytes say where a duplicate of a stream comes from: from none, or from one with a number
of one digit. -/
def namesStream (bytes : Bytes) : Bool :=
  bytes = Bytes.ofText "-" || (bytes.length = 1 && bytes.all isDigit)

/-- Expand the targets of redirections. A duplicate of what is no stream counts as an error in the
script, which is found where the reading of the script has got to. -/
def expandTargets (output : Nat → Bytes → Session Bytes) :
    List Redirection → Session (List Redirect)
  | [] => return []
  | first :: rest => do
      let target ← expandOne output .start first.target
      if first.kind = .duplicate && !namesStream target then
        modify fun state => { state with line := state.reached }
        fail ["Syntax error: Bad fd number"]
      return ⟨first.descriptor, first.kind, target⟩ :: (← expandTargets output rest)

/-- Do redirections. The result is where the streams led before, unless a redirection cannot be done;
then the streams are as before and the status is that of a failure. -/
def tryRedirects (output : Nat → Bytes → Session Bytes) (redirects : List Redirect) :
    Session (Option (List (Nat × Option Nat))) := do
  let saved ← saveStreams redirects
  try
    redirectAll output redirects
    return some saved
  catch stop =>
    match stop with
    | .failed =>
        restoreStreams saved
        modify fun state => { state with status := 2 }
        return none
    | stop => throw stop

end Session
end MakeLauncher.Shell
