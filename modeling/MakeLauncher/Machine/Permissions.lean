import MakeLauncher.Machine.FileTree
import MakeLauncher.Machine.Numeral

/-! Changes of permissions as words write them: an octal number, or clauses such as `u+rw-x`. -/

namespace MakeLauncher.Machine.Permissions

open Bytes (ascii)

/-- One change of permissions: whom it is for, whether it is for all that are not masked, what it does
and the permissions that it names. -/
structure Change where
  whom : Nat
  masked : Bool
  sign : UInt8
  named : Nat
  /-- Execution is named for directories and for what somebody may execute. -/
  conditional : Bool
  deriving DecidableEq, Repr

/-- The bits of a letter for users. -/
def userBits (b : UInt8) : Option Nat :=
  if b = ascii 'u' then some 0o700 else if b = ascii 'g' then some 0o070
  else if b = ascii 'o' then some 0o007 else if b = ascii 'a' then some 0o777 else none

/-- The bits of a letter for permissions. -/
def permissionBits (b : UInt8) : Option Nat :=
  if b = ascii 'r' then some 0o444 else if b = ascii 'w' then some 0o222
  else if b = ascii 'x' then some 0o111
  else if b = ascii 'X' || b = ascii 's' || b = ascii 't' then some 0 else none

/-- The changes that a clause such as `u+rw-x` writes. -/
def readClause (clause : Bytes) : Option (List Change) :=
  let users := clause.takeWhile fun b => (userBits b).isSome
  let whom := users.foldl (fun bits b => bits ||| (userBits b).getD 0) 0
  go (if users.isEmpty then 0o777 else whom) users.isEmpty clause.length (clause.drop users.length)
where
  /-- Reads changes, no more than the bound. -/
  go (whom : Nat) (masked : Bool) : Nat → Bytes → Option (List Change)
    | bound + 1, sign :: rest =>
        if sign = ascii '+' || sign = ascii '-' || sign = ascii '=' then
          let letters := rest.takeWhile fun b => (permissionBits b).isSome
          let named := letters.foldl (fun bits b => bits ||| (permissionBits b).getD 0) 0
          let change : Change :=
            { whom, masked, sign, named, conditional := letters.contains (ascii 'X') }
          let behind := rest.drop letters.length
          if behind.isEmpty then some [change] else (go whom masked bound behind).map (change :: ·)
        else none
    | _, _ => none

def Change.apply (mask : Nat) (isDirectory : Bool) (mode : Nat) (change : Change) : Nat :=
  let named :=
    if change.conditional && (isDirectory || mode &&& 0o111 ≠ 0) then change.named ||| 0o111
    else change.named
  let bits := named &&& change.whom &&& (if change.masked then 0o777 ^^^ mask else 0o777)
  if change.sign = ascii '+' then mode ||| bits
  else if change.sign = ascii '-' then mode &&& (0o7777 ^^^ bits)
  else (mode &&& (0o7777 ^^^ change.whom)) ||| bits

/-- What a word does to the mode of a node: an octal number is the mode itself, and clauses change it. -/
def change? (mask : Nat) (word : Bytes) : Option (Node → Nat) :=
  match Numeral.readDigits? 8 word with
  | some (n, []) => if n < 0o10000 then some fun _ => n else none
  | _ =>
      let clauses := (word.splitOn (ascii ',')).map readClause
      if clauses.all Option.isSome then
        let changes := (clauses.filterMap fun clause => clause).flatten
        some fun node => changes.foldl (Change.apply mask node.isDirectory) node.mode
      else none

end MakeLauncher.Machine.Permissions
