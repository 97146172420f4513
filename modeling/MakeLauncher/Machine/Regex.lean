import MakeLauncher.Machine.ByteKind
import MakeLauncher.Machine.Numeral

/-! Regular expressions: the texts that they match, and the two notations that they are written in. Of the
matches that start at one place the longest counts. What an expression matches is given as the list of
the points in the text at which the match can end, the furthest one first. -/

namespace MakeLauncher.Machine

open Bytes (ascii)
open Numeral (isDigit ofDigits readDigits?)

/-- A place between two bytes of a text that an expression can ask for. -/
inductive Edge where
  | textStart
  | textEnd
  | wordStart
  | wordEnd
  /-- The start or the end of a word. -/
  | wordSide
  /-- Neither the start nor the end of a word. -/
  | noSide
  deriving DecidableEq, Repr

inductive Regex where
  | empty
  | any
  | oneOf (members : Bytes)
  | edge (kind : Edge)
  /-- A part whose match can be referred to by a number. -/
  | group (number : Nat) (inside : Regex)
  /-- The text that a group has matched. -/
  | again (number : Nat)
  | sequence (first second : Regex)
  | either (first second : Regex)
  | repeated (inside : Regex) (least : Nat) (most? : Option Nat)
  deriving DecidableEq, Repr

/-- A point in a text, at which a match starts or ends. -/
structure Point where
  /-- The number of bytes in front of it. -/
  position : Nat := 0
  last? : Option UInt8 := none
  rest : Bytes
  /-- What the groups have matched. -/
  groups : List (Nat × Bytes) := []
  deriving DecidableEq, Repr

namespace Point

def skip (point : Point) (count : Nat) : Point :=
  let passed := point.rest.take count
  { point with
    position := point.position + passed.length
    last? := passed.getLast?.orElse fun _ => point.last?
    rest := point.rest.drop count }

def upTo (start finish : Point) : Bytes := start.rest.take (finish.position - start.position)

/-- A byte that belongs to a word. -/
def isOfWord (b : UInt8) : Bool := ByteKind.alphanumeric.has b || b = ascii '_'

def isAt (point : Point) (edge : Edge) : Bool :=
  let before := point.last?.any isOfWord
  let behind := point.rest.head?.any isOfWord
  match edge with
  | .textStart => point.position = 0
  | .textEnd => point.rest.isEmpty
  | .wordStart => !before && behind
  | .wordEnd => before && !behind
  | .wordSide => before != behind
  | .noSide => before = behind

end Point

namespace Regex

/-! ### Matching -/

/-- Points in order, the furthest one first, and each place once. -/
def arrange (points : List Point) : List Point :=
  let sorted := points.mergeSort fun a b => b.position ≤ a.position
  (sorted.splitBy fun a b => a.position = b.position).filterMap (·.head?)

/-- The points that repetitions lead to: those that have been reached, and those that further ones reach
from the last ones. The bound is on the number of repetitions. -/
def rounds (step : Point → List Point) (least : Nat) (most? : Option Nat) :
    Nat → Nat → List Point → List Point → List Point
  | 0, _, _, reached => reached
  | bound + 1, count, frontier, reached =>
      let reached := if least ≤ count then frontier ++ reached else reached
      if most? = some count then reached
      else
        let isNew (point : Point) : Bool :=
          count < least || reached.all (·.position ≠ point.position)
        let next := (arrange (frontier.flatMap step)).filter isNew
        if next.isEmpty then reached else rounds step least most? bound (count + 1) next reached

/-- The points at which a match that starts at a point can end. -/
def ends : Regex → Point → List Point
  | .empty, point => [point]
  | .any, point => if point.rest.isEmpty then [] else [point.skip 1]
  | .oneOf members, point => if point.rest.head?.any members.contains then [point.skip 1] else []
  | .edge kind, point => if point.isAt kind then [point] else []
  | .group number inside, point =>
      (inside.ends point).map fun finish =>
        { finish with groups := (number, point.upTo finish) :: finish.groups }
  | .again number, point =>
      match point.groups.lookup number with
      | some text => if text.isPrefixOf point.rest then [point.skip text.length] else []
      | none => []
  | .sequence first second, point => arrange ((first.ends point).flatMap second.ends)
  | .either first second, point => arrange (first.ends point ++ second.ends point)
  | .repeated inside least most?, point =>
      arrange (rounds inside.ends least most? (point.rest.length + least + 2) 0 [point] [])

/-- The first match that starts at a point or behind it, of those that a test accepts: its start and its
end. The bound is on the number of places at which it can start. -/
def findFrom (regex : Regex) (accepts : Point → Point → Bool) : Nat → Point → Option (Point × Point)
  | bound, point =>
      match (regex.ends point).find? (accepts point), bound with
      | some finish, _ => some (point, finish)
      | none, 0 => none
      | none, bound + 1 =>
          if point.rest.isEmpty then none else findFrom regex accepts bound (point.skip 1)

def find? (regex : Regex) (point : Point) : Option (Point × Point) :=
  regex.findFrom (fun _ _ => true) point.rest.length { point with groups := [] }

/-! ### Notation -/

/-- A sign of an expression. -/
inductive Sign where
  | atom (regex : Regex)
  | times (least : Nat) (most? : Option Nat)
  | bar
  | opening
  | closing
  deriving DecidableEq, Repr

abbrev Outcome := Except String

def bothCases (b : UInt8) : Bytes :=
  if ByteKind.upper.has b then [b, b + 32] else if ByteKind.lower.has b then [b, b - 32] else [b]

def ofBytes (ignoresCase : Bool) (bytes : Bytes) : Regex :=
  .oneOf (if ignoresCase then bytes.flatMap bothCases else bytes)

/-- Reads what an opening bracket and a sign enclose, up to the sign and the closing bracket. -/
def readEnclosed (sign : UInt8) : Bytes → Outcome (Bytes × Bytes)
  | first :: second :: rest =>
      if first = sign && second = ascii ']' then .ok ([], rest)
      else do
        let (inside, rest) ← readEnclosed sign (second :: rest)
        return (first :: inside, rest)
  | _ => .error "Unmatched [, [^, [:, [., or [="

/-- Reads one byte of a set, which may be enclosed. -/
def readMember : Bytes → Outcome (UInt8 × Bytes)
  | bracket :: sign :: rest =>
      if bracket = ascii '[' && (sign = ascii '.' || sign = ascii '=') then do
        let (inside, rest) ← readEnclosed sign rest
        match inside with
        | [b] => return (b, rest)
        | _ => .error "Invalid collation character"
      else .ok (bracket, sign :: rest)
  | [b] => .ok (b, [])
  | [] => .error "Unmatched [, [^, [:, [., or [="

def readMembers : Nat → Bool → Bytes → Outcome (Bytes × Bytes)
  | 0, _, _ | _, _, [] => .error "Unmatched [, [^, [:, [., or [="
  | bound + 1, isFirst, first :: rest => do
      if first = ascii ']' && !isFirst then return ([], rest)
      else if first = ascii '[' && rest.head? = some (ascii ':') then
        let (name, rest) ← readEnclosed (ascii ':') rest.tail
        match ByteKind.ofName? name with
        | none => .error "Invalid character class name"
        | some kind =>
            let (members, rest) ← readMembers bound false rest
            return (kind.bytes ++ members, rest)
      else
        let (low, rest) ← readMember (first :: rest)
        match rest with
        | dash :: next :: _ =>
            if dash = ascii '-' && next ≠ ascii ']' then
              let (high, rest) ← readMember rest.tail
              if high < low then .error "Invalid range end"
              else
                let (members, rest) ← readMembers bound false rest
                return (allBytes.filter (fun b => low ≤ b && b ≤ high) ++ members, rest)
            else
              let (members, rest) ← readMembers bound false rest
              return (low :: members, rest)
        | _ =>
            let (members, rest) ← readMembers bound false rest
            return (low :: members, rest)

def readSet (ignoresCase : Bool) (bytes : Bytes) : Outcome (Regex × Bytes) := do
  let negated := bytes.head? = some (ascii '^')
  let inside := if negated then bytes.tail else bytes
  if inside.isEmpty then .error "Invalid regular expression"
  let (members, rest) ← readMembers (inside.length + 1) true inside
  let members := if ignoresCase then members.flatMap bothCases else members
  return (.oneOf (if negated then allBytes.filter (!members.contains ·) else members), rest)

/-- Reads how often something is repeated, from behind an opening brace up to the text that closes it. -/
def readTimes (close bytes : Bytes) : Outcome (Sign × Bytes) := do
  let (least?, rest) :=
    match readDigits? 10 bytes with
    | some (n, rest) => (some n, rest)
    | none => (none, bytes)
  let (most?, rest) :=
    match rest with
    | comma :: rest =>
        if comma = ascii ',' then
          match readDigits? 10 rest with
          | some (n, rest) => (some n, rest)
          | none => (none, rest)
        else (least?, comma :: rest)
    | [] => (least?, [])
  if !close.isPrefixOf rest then
    .error (if rest.isEmpty then "Unmatched \\\x7b" else "Invalid content of \\\x7b\\\x7d")
  else if most?.any (· < least?.getD 0) then .error "Invalid content of \\\x7b\\\x7d"
  else return (.times (least?.getD 0) most?, rest.drop close.length)

/-- What a backslash makes of a byte in both notations. -/
def escaped? (b : UInt8) : Option Regex :=
  let word := allBytes.filter Point.isOfWord
  let others (members : Bytes) : Bytes := allBytes.filter (!members.contains ·)
  [('w', .oneOf word), ('W', .oneOf (others word)), ('s', .oneOf ByteKind.space.bytes),
    ('S', .oneOf (others ByteKind.space.bytes)), ('b', .edge .wordSide), ('B', .edge .noSide),
    ('<', .edge .wordStart), ('>', .edge .wordEnd)].lookup (Char.ofNat b.toNat)

/-- An expression can start behind a sign, or at the start of all. -/
def startsBehind : Option Sign → Bool
  | none | some .opening | some .bar => true
  | _ => false

/-- The signs that one byte stands for: with a backslash in front of it in the basic notation, and without
one in the extended one. -/
def plainSigns : List (Char × Sign) :=
  [('(', .opening), (')', .closing), ('|', .bar), ('+', .times 1 none), ('?', .times 0 (some 1))]

/-- Reads the signs of an expression, of which the last one read is known. -/
def readSigns (extended ignoresCase : Bool) : Nat → Option Sign → Bytes → Outcome (List Sign)
  | 0, _, _ | _, _, [] => .ok []
  | bound + 1, last?, first :: rest => do
      let goOn (sign : Sign) (rest : Bytes) : Outcome (List Sign) := do
        return sign :: (← readSigns extended ignoresCase bound (some sign) rest)
      let literal (b : UInt8) (rest : Bytes) : Outcome (List Sign) :=
        goOn (.atom (.ofBytes ignoresCase [b])) rest
      let closesHere : Bool :=
        rest.isEmpty || (Bytes.ofText "\\)").isPrefixOf rest || (Bytes.ofText "\\|").isPrefixOf rest
      let repeatsNothing : Bool := startsBehind last? || last? = some (.atom (.edge .textStart))
      let starOf (rest : Bytes) : Outcome (List Sign) :=
        if !extended && repeatsNothing then literal (ascii '*') rest else goOn (.times 0 none) rest
      let brace : UInt8 := ascii '\x7b'
      let plain (b : UInt8) (rest : Bytes) : Outcome (List Sign) :=
        match plainSigns.lookup (Char.ofNat b.toNat) with
        | some sign => goOn sign rest
        | none =>
            if b = brace then
              let close : Bytes := if extended then "\x7d" else "\\\x7d"
              match readTimes close rest with
              | .ok (sign, rest) => goOn sign rest
              | .error complaint =>
                  if extended && (readDigits? 10 (rest.dropWhile (· = ascii ','))).isNone then
                    literal b rest
                  else .error complaint
            else literal b rest
      if first = ascii '\\' then
        match rest with
        | [] => .error "Trailing backslash"
        | next :: rest =>
            if isDigit next && next ≠ ascii '0' then goOn (.atom (.again (ofDigits [next]))) rest
            else
              match escaped? next with
              | some regex => goOn (.atom regex) rest
              | none => if extended then literal next rest else plain next rest
      else if first = ascii '.' then goOn (.atom .any) rest
      else if first = ascii '*' then starOf rest
      else if first = ascii '[' then
        let (regex, rest) ← readSet ignoresCase rest
        goOn (.atom regex) rest
      else if first = ascii '^' && (extended || startsBehind last?) then
        goOn (.atom (.edge .textStart)) rest
      else if first = ascii '$' && (extended || closesHere) then goOn (.atom (.edge .textEnd)) rest
      else if extended then plain first rest
      else literal first rest

/-- A part of an expression that is being put together: the choices in front of the last bar, and the
pieces behind it, last one first. -/
structure Part where
  number : Nat := 0
  choices? : Option Regex := none
  pieces : List Regex := []

namespace Part

/-- The expression of a part. -/
def regex (part : Part) : Regex :=
  let last : Regex := part.pieces.foldl (fun rest piece =>
    if rest = .empty then piece else .sequence piece rest) .empty
  match part.choices? with
  | some choices => .either choices last
  | none => last

end Part

/-- The parts that are open around a place of an expression, innermost first, and the number of groups so
far. -/
structure Parts where
  inner : Part := {}
  outer : List Part := []
  groups : Nat := 0

namespace Parts

/-- The parts with one more piece in the innermost of them. -/
def push (parts : Parts) (piece : Regex) : Parts :=
  { parts with inner := { parts.inner with pieces := piece :: parts.inner.pieces } }

def add (extended : Bool) (parts : Parts) : Sign → Outcome Parts
  | .atom (.again number) =>
      if parts.groups < number then .error "Invalid back reference"
      else .ok (parts.push (.again number))
  | .atom regex => .ok (parts.push regex)
  | .times least most? =>
      match parts.inner.pieces with
      | piece :: pieces =>
          .ok ({ parts with inner := { parts.inner with pieces } }.push (.repeated piece least most?))
      | [] => .ok parts
  | .bar => .ok { parts with inner := { parts.inner with choices? := some parts.inner.regex, pieces := [] } }
  | .opening =>
      let number := parts.groups + 1
      .ok { inner := { number }, outer := parts.inner :: parts.outer, groups := number }
  | .closing =>
      match parts.outer with
      | outer :: others =>
          .ok ({ parts with inner := outer, outer := others }.push
            (.group parts.inner.number parts.inner.regex))
      | [] =>
          if extended then .ok (parts.push (.oneOf [ascii ')'])) else .error "Unmatched ) or \\)"

end Parts

def read (extended ignoresCase : Bool) (bytes : Bytes) : Outcome Regex := do
  let signs ← readSigns extended ignoresCase bytes.length none bytes
  let parts ← signs.foldlM (Parts.add extended) {}
  if parts.outer.isEmpty then return parts.inner.regex else .error "Unmatched ( or \\("

def ofText (ignoresCase : Bool) (bytes : Bytes) : Regex :=
  bytes.foldr (fun b rest =>
    if rest = .empty then ofBytes ignoresCase [b] else .sequence (ofBytes ignoresCase [b]) rest) .empty

end Regex
end MakeLauncher.Machine
