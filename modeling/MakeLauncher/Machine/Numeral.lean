import MakeLauncher.Bytes

/-! Numbers as bytes write them: with white space and a sign in front, in the base that their first
digits tell, and no larger than a machine word with a sign holds. -/

namespace MakeLauncher.Numeral

open Bytes (ascii)

def decimal (n : Int) : Bytes := Bytes.ofText (toString n)

def isSpace (b : UInt8) : Bool := b = 32 || (9 ≤ b && b ≤ 13)

def isDigit (b : UInt8) : Bool := ascii '0' ≤ b && b ≤ ascii '9'

def ofDigits (digits : Bytes) : Nat := digits.foldl (fun n b => n * 10 + (b.toNat - 48)) 0

/-- The value of a digit in bases up to 36. -/
def digit? (b : UInt8) : Option Nat :=
  let c := Char.ofNat b.toNat
  if c.isDigit then some (c.toNat - 48)
  else if c.isAlpha then some (c.toLower.toNat - 87)
  else none

/-- The number that the digits of a base at the start of bytes write, if there are any, and what
follows them. -/
def readDigits? (base : Nat) (bytes : Bytes) : Option (Nat × Bytes) :=
  let digits := bytes.takeWhile fun b => (digit? b).any (· < base)
  if digits.isEmpty then none
  else
    some (digits.foldl (fun n b => n * base + (digit? b).getD 0) 0, bytes.drop digits.length)

/-- The number at the start of bytes without a sign, and what follows it. A zero in front tells base
8, and a zero and an `x` tell base 16. -/
def readUnsigned? (bytes : Bytes) : Option (Nat × Bytes) :=
  let hexadecimal? : Option (Nat × Bytes) :=
    match bytes with
    | zero :: x :: rest =>
        if zero = ascii '0' && (x = ascii 'x' || x = ascii 'X') then readDigits? 16 rest else none
    | _ => none
  match hexadecimal? with
  | some found => some found
  | none => readDigits? (if bytes.head? = some (ascii '0') then 8 else 10) bytes

/-- The number at the start of bytes, behind white space and a sign or none, and what follows it. -/
def read? (base10 : Bool) (bytes : Bytes) : Option (Int × Bytes) :=
  let bytes := bytes.dropWhile isSpace
  let negative := bytes.head? = some (ascii '-')
  let digits := if negative || bytes.head? = some (ascii '+') then bytes.tail else bytes
  let unsigned? := if base10 then readDigits? 10 digits else readUnsigned? digits
  unsigned?.map fun (n, rest) => (if negative then -n else n, rest)

/-- The greatest number of a machine word with a sign. -/
def greatest : Int := 9223372036854775807

/-- The number of values of a machine word. -/
def wordSize : Int := 18446744073709551616

/-- The number of a machine word that is the same up to a multiple of the number of its values. -/
def wrap (n : Int) : Int :=
  let rest := n % wordSize
  if rest ≤ greatest then rest else rest - wordSize

/-- The number of a machine word that is nearest. -/
def clamp (n : Int) : Int :=
  if n < -greatest - 1 then -greatest - 1 else if greatest < n then greatest else n

/-- The number that bytes write, with white space around it or not, if it fits in a machine word.
White space alone is zero where the base may be told. -/
def value? (base10 : Bool) (bytes : Bytes) : Option Int :=
  match read? base10 bytes with
  | some (n, rest) => if rest.all isSpace && clamp n = n then some n else none
  | none => if !base10 && bytes.all isSpace then some 0 else none

example : value? false " 0x1F " = some 31 ∧ value? false "010" = some 8 ∧
    value? true "010" = some 10 ∧ value? true "" = none ∧ value? true "1a" = none := by decide

end MakeLauncher.Numeral
