import MakeLauncher.Bytes

/-! Lines of input as the command `read` takes them: where a line ends, which of its bytes can
separate fields, and its fields, of which the last one takes what is left. -/

namespace MakeLauncher.Shell

open Bytes (ascii)

/-- A byte of a line, and whether it separates fields if it is a separator. -/
structure LineByte where
  byte : UInt8
  separates : Bool
  deriving DecidableEq, Repr

/-- A line at the start of some input. -/
structure InputLine where
  bytes : List LineByte
  /-- How many bytes of the input it takes. -/
  used : Nat
  /-- The line has an end, and not only the input. -/
  ended : Bool
  deriving DecidableEq, Repr

namespace InputLine

/-- The line at the start of bytes. Unless it is taken as it is, a backslash takes the meaning of the
byte behind it, and one at the end of a line joins it to the next. -/
def ofBytes (asIs : Bool) : Bytes → InputLine
  | [] => ⟨[], 0, false⟩
  | b :: rest =>
      if b = ascii '\n' then ⟨[], 1, true⟩
      else if b = 0 then
        let line := ofBytes asIs rest
        { line with used := line.used + 1 }
      else if b = ascii '\\' && !asIs then
        match rest with
        | [] => ⟨[], 1, false⟩
        | next :: rest =>
            let line := ofBytes asIs rest
            let bytes := if next = ascii '\n' then line.bytes else ⟨next, false⟩ :: line.bytes
            { line with bytes, used := line.used + 2 }
      else
        let line := ofBytes asIs rest
        { line with bytes := ⟨b, true⟩ :: line.bytes, used := line.used + 1 }

/-- Fields on the way to be read. -/
structure Fields where
  /-- How many more fields can end at a separator. -/
  left : Nat
  /-- The fields that are complete, last one first. -/
  finished : List Bytes := []
  /-- The bytes of the field that is not complete, last one first. -/
  current : Bytes := []
  /-- White space has separated two fields, and nothing but white space has come since. -/
  behindWhite : Bool := false
  /-- In the last field behind its first separator: how many of its bytes stay if no more bytes come
  that are kept. -/
  kept? : Option Nat := none

namespace Fields

/-- The fields after one more byte. In the last one, separators are bytes of the field, but white
space at its end is left out, and so is a single separator. -/
def add (separators : Bytes) (fields : Fields) (b : LineByte) : Fields :=
  let longer := { fields with current := b.byte :: fields.current }
  let separates := b.separates && separators.contains b.byte
  let isWhite := separates && ([' ', '\t', '\n'].map ascii).contains b.byte
  if !b.separates then { longer with behindWhite := false }
  else if fields.left = 0 then
    if isWhite then { longer with kept? := fields.kept?.or (some fields.current.length) }
    else
      { longer with
        kept? := if separates && fields.behindWhite then fields.kept? else none
        behindWhite := false }
  else if !separates then { longer with behindWhite := false }
  else if fields.behindWhite then { fields with behindWhite := isWhite }
  else if isWhite && fields.current.isEmpty then fields
  else if fields.left = 1 then
    { longer with left := 0, kept? := some fields.current.length, behindWhite := isWhite }
  else
    { left := fields.left - 1
      finished := fields.current.reverse :: fields.finished
      behindWhite := isWhite }

def toList (fields : Fields) : List Bytes :=
  let last := fields.current.reverse
  ((match fields.kept? with
    | some count => last.take count
    | none => last) :: fields.finished).reverse

end Fields

/-- At most so many fields of a line. -/
def fields (line : InputLine) (separators : Bytes) (count : Nat) : List Bytes :=
  (line.bytes.foldl (Fields.add separators) { left := count }).toList

example : (ofBytes false "a  b c \n").fields " " 2 = (["a", "b c"] : List Bytes) := by decide +kernel

example : (ofBytes false "a::b:\n").fields ":" 3 = (["a", "", "b"] : List Bytes) := by decide +kernel

example : (ofBytes false "a\\ b c\n").fields " " 2 = (["a b", "c"] : List Bytes) := by decide +kernel

end InputLine
end MakeLauncher.Shell
