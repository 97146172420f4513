import MakeLauncher.Machine.Numeral

/-! Formatted text: escapes that stand for single bytes, and formats whose conversions print one
argument each. -/

namespace MakeLauncher.Format

open Bytes (ascii)
open Numeral (decimal)

/-! ### Escapes -/

/-- The letters of the escapes for one byte. -/
def letters : List (Char × UInt8) :=
  [('a', 7), ('b', 8), ('e', 27), ('f', 12), ('n', 10), ('r', 13), ('t', 9), ('v', 11), ('\\', 92)]

/-- The byte that at most so many digits of a base at the start of bytes write, if there are any, and
what follows them. -/
def readByte? (base count : Nat) (bytes : Bytes) : Option (UInt8 × Bytes) :=
  match Numeral.readDigits? base (bytes.take count) with
  | some (n, rest) => some (UInt8.ofNat n, rest ++ bytes.drop count)
  | none => none

/-- The bytes that an escape stands for, behind its backslash, and what follows it. A backslash that
begins no escape stands for itself. With `extended` there is an escape for hexadecimal digits. -/
def readEscape (extended : Bool) (input : Bytes) : Bytes × Bytes :=
  match readByte? 8 3 input, input with
  | some (b, rest), _ => ([b], rest)
  | none, [] => ([ascii '\\'], [])
  | none, b :: rest =>
      match letters.lookup (Char.ofNat b.toNat) with
      | some byte => ([byte], rest)
      | none =>
          match if extended && b = ascii 'x' then readByte? 16 2 rest else none with
          | some (byte, rest) => ([byte], rest)
          | none => ([ascii '\\'], input)

/-- A text with its escapes replaced, and whether an escape has cut it short. A zero before octal
digits is not one of them. -/
def unescape (extended : Bool) : Nat → Bytes → Bytes × Bool
  | 0, _ => ([], false)
  | _ + 1, [] => ([], false)
  | bound + 1, b :: rest =>
      if b ≠ ascii '\\' then
        let (more, cut) := unescape extended bound rest
        (b :: more, cut)
      else if rest.head? = some (ascii 'c') then ([], true)
      else
        let (bytes, after) :=
          match if rest.head? = some (ascii '0') then readByte? 8 3 rest.tail else none with
          | some (byte, after) => ([byte], after)
          | none => readEscape extended rest
        let (more, cut) := unescape extended bound after
        (bytes ++ more, cut)

/-- What is printed for arguments that stand in one line, and whether an escape has cut it short. -/
def unescapeLine (extended : Bool) (arguments : List Bytes) : Bytes × Bool :=
  let line := [ascii ' '].intercalate arguments
  unescape extended (line.length + 1) line

/-! ### Conversions -/

/-- A number in a conversion, which may be an argument. -/
inductive Measure where
  | given (n : Nat)
  | argument
  deriving DecidableEq, Repr

structure Conversion where
  /-- The conversion as it is written. -/
  text : Bytes
  flags : Bytes
  width : Measure
  precision? : Option Measure
  letter : UInt8
  deriving DecidableEq, Repr

inductive Directive where
  | bytes (bytes : Bytes)
  | conversion (conversion : Conversion)
  /-- The format ends inside a conversion. -/
  | unfinished
  deriving DecidableEq, Repr

/-- A number in a conversion, and what follows it. -/
def readMeasure (bytes : Bytes) : Measure × Bytes :=
  if bytes.head? = some (ascii '*') then (.argument, bytes.tail)
  else
    match Numeral.readDigits? 10 bytes with
    | some (n, rest) => (.given n, rest)
    | none => (.given 0, bytes)

/-- A conversion behind its percent sign, and what follows it. -/
def readConversion (bytes : Bytes) : Directive × Bytes :=
  let flags := bytes.takeWhile (['#', '-', '+', ' ', '0'].map ascii).contains
  let (width, rest) := readMeasure (bytes.drop flags.length)
  let (precision?, rest) :=
    if rest.head? = some (ascii '.') then
      let (precision, rest) := readMeasure rest.tail
      (some precision, rest)
    else (none, rest)
  match rest with
  | [] => (.unfinished, [])
  | letter :: rest =>
      let text := ascii '%' :: bytes.take (bytes.length - rest.length)
      (.conversion { text, flags, width, precision?, letter }, rest)

def read (extended : Bool) : Nat → Bytes → List Directive
  | 0, _ => []
  | _ + 1, [] => []
  | bound + 1, b :: rest =>
      if b = ascii '\\' then
        let (bytes, after) := readEscape extended rest
        .bytes bytes :: read extended bound after
      else if b = ascii '%' then
        if rest.head? = some b then .bytes [b] :: read extended bound rest.tail
        else
          let (directive, after) := readConversion rest
          directive :: read extended bound after
      else .bytes [b] :: read extended bound rest

/-- What a format has printed so far. -/
structure Printing where
  output : Bytes := []
  /-- The complaints about arguments. -/
  warnings : List Bytes := []
  /-- The complaint that has ended the printing. -/
  failure? : Option Bytes := none
  arguments : List Bytes
  /-- An escape has cut the output short. -/
  cut : Bool := false

namespace Printing

/-- The next argument, which is used up. -/
def next (printing : Printing) : Option Bytes × Printing :=
  (printing.arguments.head?, { printing with arguments := printing.arguments.tail })

/-- The next argument as a number. A quote in front of it stands for the code of the byte behind. -/
def nextNumber (printing : Printing) : Int × Printing :=
  let (argument?, printing) := printing.next
  let argument := argument?.getD []
  let warn (text : Bytes) : Printing :=
    { printing with warnings := printing.warnings ++ [argument ++ Bytes.ofText ": " ++ text] }
  match argument with
  | [] => (0, printing)
  | first :: rest =>
      if first = ascii '"' || first = ascii '\'' then ((rest.head?.getD 0).toNat, printing)
      else
        match Numeral.read? false argument with
        | none => (0, warn "expected numeric value")
        | some (n, after) =>
            let clamped := Numeral.clamp n
            if !after.isEmpty then (clamped, warn "not completely converted")
            else if clamped ≠ n then (clamped, warn "Numerical result out of range")
            else (n, printing)

def measure (printing : Printing) : Measure → Int × Printing
  | .given n => (n, printing)
  | .argument => printing.nextNumber

end Printing

/-- Bytes filled up to a width, with blanks or, behind the first `sign` bytes, with zeros. -/
def pad (leftmost zeros : Bool) (width sign : Nat) (bytes : Bytes) : Bytes :=
  let missing := width - bytes.length
  if leftmost then bytes ++ List.replicate missing (ascii ' ')
  else if zeros then bytes.take sign ++ List.replicate missing (ascii '0') ++ bytes.drop sign
  else List.replicate missing (ascii ' ') ++ bytes

/-- The digits of a number in a base, at least as many as a precision asks for. -/
def digits (base n : Nat) (precision? : Option Nat) : Bytes :=
  let bytes := if n = 0 && precision? = some 0 then [] else Bytes.ofText (String.ofList (Nat.toDigits base n))
  List.replicate (precision?.getD 1 - bytes.length) (ascii '0') ++ bytes

/-- A number as a conversion prints it: what stands in front of its digits, and these. -/
def number (flags : Bytes) (letter : UInt8) (n : Int) (precision? : Option Nat) : Bytes × Bytes :=
  let word := (n % Numeral.wordSize).toNat
  let alternate := flags.contains (ascii '#')
  if letter = ascii 'd' || letter = ascii 'i' then
    let sign : Bytes :=
      if n < 0 then "-" else if flags.contains (ascii '+') then "+"
      else if flags.contains (ascii ' ') then " " else []
    (sign, digits 10 n.natAbs precision?)
  else if letter = ascii 'o' then
    let digits := digits 8 word precision?
    ([], if alternate && digits.head? ≠ some (ascii '0') then ascii '0' :: digits else digits)
  else if letter = ascii 'u' then ([], digits 10 word precision?)
  else
    let lower := digits 16 word precision?
    let isUpper := letter = ascii 'X'
    let mark : Bytes := if alternate && word ≠ 0 then (if isUpper then "0X" else "0x") else []
    (mark, if isUpper then lower.map fun b => ascii (Char.ofNat b.toNat).toUpper else lower)

namespace Printing

/-- The printing after one more conversion. -/
def convert (extended : Bool) (printing : Printing) (conversion : Conversion) : Printing :=
  let (width, printing) := printing.measure conversion.width
  let (precision?, printing) :=
    match conversion.precision? with
    | none => (none, printing)
    | some precision =>
        let (n, printing) := printing.measure precision
        (if n < 0 then none else some n.toNat, printing)
  let letter := conversion.letter
  let leftmost := conversion.flags.contains (ascii '-') || width < 0
  let add (printing : Printing) (bytes : Bytes) : Printing :=
    { printing with output := printing.output ++ bytes }
  let addText (printing : Printing) (bytes : Bytes) : Printing :=
    let bytes := match precision? with | some n => bytes.take n | none => bytes
    add printing (pad leftmost false width.natAbs 0 bytes)
  if letter = ascii 's' then
    let (argument?, printing) := printing.next
    addText printing (argument?.getD [])
  else if letter = ascii 'b' then
    let (argument?, printing) := printing.next
    let argument := argument?.getD []
    let (bytes, cut) := unescape extended (argument.length + 1) argument
    { addText printing bytes with cut }
  else if letter = ascii 'c' then
    let (argument?, printing) := printing.next
    let first := (argument?.getD []).head?
    let bytes := if extended then first.toList else [first.getD 0]
    add printing (pad leftmost false width.natAbs 0 bytes)
  else if (['d', 'i', 'o', 'u', 'x', 'X'].map ascii).contains letter then
    let (n, printing) := printing.nextNumber
    let (sign, digits) := number conversion.flags letter n precision?
    let zeros := conversion.flags.contains (ascii '0') && precision?.isNone
    add printing (pad leftmost zeros width.natAbs sign.length (sign ++ digits))
  else { printing with failure? := some (conversion.text ++ Bytes.ofText ": invalid directive") }

def addAll (extended : Bool) (printing : Printing) : List Directive → Printing
  | [] => printing
  | .bytes bytes :: rest =>
      addAll extended { printing with output := printing.output ++ bytes } rest
  | .conversion conversion :: rest =>
      let printing := printing.convert extended conversion
      if printing.cut || printing.failure?.isSome then printing else addAll extended printing rest
  | .unfinished :: _ => { printing with failure? := some "missing format character" }

/-- The printing after a format that is used again as long as there are arguments and it uses them. -/
def repeatAll (extended : Bool) (format : List Directive) : Nat → Printing → Printing
  | 0, printing => printing
  | bound + 1, printing =>
      let after := printing.addAll extended format
      if after.cut || after.failure?.isSome || after.arguments.isEmpty ||
          after.arguments.length = printing.arguments.length then after
      else repeatAll extended format bound after

end Printing

def print (extended : Bool) (format : Bytes) (arguments : List Bytes) : Printing :=
  Printing.repeatAll extended (read extended (format.length + 1) format) (arguments.length + 1)
    { arguments }

end MakeLauncher.Format
