import MakeLauncher.Machine.ByteKind

/-! Patterns of words and of file names. In a pattern a star stands for any bytes, a question mark for
any one byte, and brackets for one byte of those that they name; what is quoted stands for itself. -/

namespace MakeLauncher.Shell

open Bytes (ascii)
open Machine (ByteKind Member)

/-- A byte of a word, with whether it was quoted there. -/
structure Mark where
  byte : UInt8
  quoted : Bool
  deriving DecidableEq, Repr

def Mark.ofBytes (quoted : Bool) (bytes : Bytes) : List Mark := bytes.map (⟨·, quoted⟩)

inductive PatternPiece where
  | byte (b : UInt8)
  | any
  | many
  | oneOf (negated : Bool) (members : List Member)
  deriving DecidableEq, Repr

abbrev Pattern := List PatternPiece

namespace Pattern

/-- Whether a mark is this character and has its meaning in patterns. -/
def isSign (c : Char) (mark : Mark) : Bool := mark.byte = ascii c && !mark.quoted

/-- A kind between colons and brackets behind an opening bracket, and what follows. -/
def readKind? (marks : List Mark) : Option (ByteKind × List Mark) :=
  match marks with
  | colon :: rest =>
      if isSign ':' colon then
        let name := rest.takeWhile fun mark => !isSign ':' mark
        match ByteKind.ofName? (name.map (·.byte)), rest.drop name.length with
        | some kind, _ :: close :: rest => if isSign ']' close then some (kind, rest) else none
        | _, _ => none
      else none
  | [] => none

/-- A byte between brackets, and what follows. A backslash that is not quoted quotes the byte behind
it. -/
def readMember? : List Mark → Option (UInt8 × List Mark)
  | [] => none
  | first :: rest =>
      if isSign '\\' first then rest.head?.map fun next => (next.byte, rest.tail)
      else some (first.byte, rest)

/-- The members between brackets, and what follows the closing one. A closing bracket right behind
the opening one is a member. -/
def readMembers? : Nat → Bool → List Mark → Option (List Member × List Mark)
  | 0, _, _ => none
  | _ + 1, _, [] => none
  | bound + 1, isFirst, first :: rest =>
      if !isFirst && isSign ']' first then some ([], rest)
      else
        match if isSign '[' first then readKind? rest else none with
        | some (kind, rest) => do
            let (members, rest) ← readMembers? bound false rest
            return (.ofKind kind :: members, rest)
        | none => do
            let (low, rest) ← readMember? (first :: rest)
            let isRange :=
              match rest with
              | dash :: next :: _ => isSign '-' dash && !isSign ']' next
              | _ => false
            if isRange then
              let (high, rest) ← readMember? rest.tail
              let (members, rest) ← readMembers? bound false rest
              return (.range low high :: members, rest)
            else
              let (members, rest) ← readMembers? bound false rest
              return (.range low low :: members, rest)

/-- What brackets stand for behind the opening one, and what follows the closing one. -/
def readBrackets? (marks : List Mark) : Option (PatternPiece × List Mark) := do
  let negated := marks.head?.any (isSign '!')
  let inside := if negated then marks.tail else marks
  let (members, rest) ← readMembers? (marks.length + 1) true inside
  return (.oneOf negated members, rest)

/-- The pieces of a pattern. Brackets that are not closed stand for themselves. -/
def read : Nat → List Mark → Pattern
  | 0, _ => []
  | _ + 1, [] => []
  | bound + 1, first :: rest =>
      if first.quoted then .byte first.byte :: read bound rest
      else if first.byte = ascii '*' then .many :: read bound rest
      else if first.byte = ascii '?' then .any :: read bound rest
      else if first.byte = ascii '\\' then
        match rest with
        | next :: rest => .byte next.byte :: read bound rest
        | [] => [.byte first.byte]
      else
        match if first.byte = ascii '[' then readBrackets? rest else none with
        | some (piece, rest) => piece :: read bound rest
        | none => .byte first.byte :: read bound rest

def ofMarks (marks : List Mark) : Pattern := read marks.length marks

def accepts : Pattern → Bytes → Bool
  | [], bytes => bytes.isEmpty
  | .byte b :: rest, bytes => bytes.head? = some b && accepts rest bytes.tail
  | .any :: rest, bytes => !bytes.isEmpty && accepts rest bytes.tail
  | .many :: rest, bytes =>
      (List.range (bytes.length + 1)).any fun n => accepts rest (bytes.drop n)
  | .oneOf negated members :: rest, bytes =>
      bytes.head?.any (fun b => members.any (·.has b) != negated) && accepts rest bytes.tail

/-- Whether marks hold a sign that makes them a pattern. -/
def isWritten (marks : List Mark) : Bool :=
  marks.any fun mark => isSign '*' mark || isSign '?' mark || isSign '[' mark

/-- The lengths of the parts at an end of bytes that a pattern can cut off, in the order in which they
are tried. -/
def lengths (longest : Bool) (bytes : Bytes) : List Nat :=
  let all := List.range (bytes.length + 1)
  if longest then all.reverse else all

def cutStart (pattern : Pattern) (longest : Bool) (bytes : Bytes) : Bytes :=
  match (lengths longest bytes).find? fun n => pattern.accepts (bytes.take n) with
  | some n => bytes.drop n
  | none => bytes

def cutEnd (pattern : Pattern) (longest : Bool) (bytes : Bytes) : Bytes :=
  match (lengths longest bytes).find? fun n => pattern.accepts (bytes.drop (bytes.length - n)) with
  | some n => bytes.take (bytes.length - n)
  | none => bytes

end Pattern
end MakeLauncher.Shell
