import MakeLauncher.Bytes

/-! Kinds of bytes, as the notations for patterns and sets of bytes name them. -/

namespace MakeLauncher.Machine

def allBytes : Bytes := (List.range 256).map UInt8.ofNat

/-- The kinds of characters that brackets can name. -/
inductive ByteKind where
  | alphanumeric
  | alphabetic
  | blank
  | control
  | digit
  | graphic
  | lower
  | printable
  | punctuation
  | space
  | upper
  | hexadecimal
  deriving DecidableEq, Repr

namespace ByteKind

/-- The kinds by their names. -/
def all : List (String × ByteKind) :=
  [("alnum", .alphanumeric), ("alpha", .alphabetic), ("blank", .blank), ("cntrl", .control),
    ("digit", .digit), ("graph", .graphic), ("lower", .lower), ("print", .printable),
    ("punct", .punctuation), ("space", .space), ("upper", .upper), ("xdigit", .hexadecimal)]

def ofName? (name : Bytes) : Option ByteKind :=
  (all.find? fun entry => Bytes.ofText entry.1 == name).map (·.2)

def has (b : UInt8) : ByteKind → Bool
  | .alphanumeric => (Char.ofNat b.toNat).isAlphanum
  | .alphabetic => (Char.ofNat b.toNat).isAlpha
  | .blank => b = 32 || b = 9
  | .control => b < 32 || b = 127
  | .digit => (Char.ofNat b.toNat).isDigit
  | .graphic => 32 < b && b < 127
  | .lower => (Char.ofNat b.toNat).isLower
  | .printable => 31 < b && b < 127
  | .punctuation => 32 < b && b < 127 && !(Char.ofNat b.toNat).isAlphanum
  | .space => b = 32 || (9 ≤ b && b ≤ 13)
  | .upper => (Char.ofNat b.toNat).isUpper
  | .hexadecimal =>
      let c := (Char.ofNat b.toNat).toLower
      c.isDigit || ('a' ≤ c && c ≤ 'f')

def bytes (kind : ByteKind) : Bytes := allBytes.filter fun b => kind.has b

end ByteKind

/-- What stands between brackets. -/
inductive Member where
  | range (low high : UInt8)
  | ofKind (kind : ByteKind)
  deriving DecidableEq, Repr

/-- Whether a member names a byte. -/
def Member.has (b : UInt8) : Member → Bool
  | .range low high => low ≤ b && b ≤ high
  | .ofKind kind => kind.has b

end MakeLauncher.Machine
