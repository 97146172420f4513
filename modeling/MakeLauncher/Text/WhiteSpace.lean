import MakeLauncher.Text.Decoding

/-! White space, as the Unicode property `White_Space` has it. -/

namespace MakeLauncher

/-- The ranges of the property `White_Space`, ends included. -/
def whiteSpaceRanges : List (Nat × Nat) :=
  [(0x09, 0x0D), (0x20, 0x20), (0x85, 0x85), (0xA0, 0xA0), (0x1680, 0x1680), (0x2000, 0x200A),
    (0x2028, 0x2029), (0x202F, 0x202F), (0x205F, 0x205F), (0x3000, 0x3000)]

/-- A character of the property `White_Space`. -/
def isWhiteSpace (c : Char) : Bool :=
  whiteSpaceRanges.any fun range => range.1 ≤ c.toNat && c.toNat ≤ range.2

def trimChars (chars : List Char) : List Char :=
  ((chars.dropWhile isWhiteSpace).reverse.dropWhile isWhiteSpace).reverse

def trim (text : String) : String := String.ofList (trimChars text.toList)

/-- Whether a byte string, as it is shown, holds white space. -/
def Bytes.hasWhiteSpace (b : Bytes) : Bool := b.decode.any isWhiteSpace

example : isWhiteSpace '\u00A0' = true ∧ isWhiteSpace '\u200B' = false ∧
    isWhiteSpace '\uFEFF' = false := by decide

example : trim "\u3000 a b\n" = "a b" := by decide

end MakeLauncher
