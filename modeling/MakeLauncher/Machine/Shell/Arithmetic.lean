import MakeLauncher.Machine.Shell.State

/-! Arithmetic of a shell: expressions over the numbers that a machine word with a sign holds, with
variables that may be set on the way. The operators and their ranks are those of C. -/

namespace MakeLauncher.Shell

open Bytes (ascii)

inductive Operator where
  | multiply
  | divide
  | remainder
  | add
  | subtract
  | shiftLeft
  | shiftRight
  | less
  | lessEqual
  | greater
  | greaterEqual
  | equal
  | unequal
  | bitAnd
  | bitXor
  | bitOr
  deriving DecidableEq, Repr

namespace Operator

/-- The operators by their signs. -/
def all : List (String × Operator) :=
  [("*", .multiply), ("/", .divide), ("%", .remainder), ("+", .add), ("-", .subtract),
    ("<<", .shiftLeft), (">>", .shiftRight), ("<", .less), ("<=", .lessEqual), (">", .greater),
    (">=", .greaterEqual), ("==", .equal), ("!=", .unequal), ("&", .bitAnd), ("^", .bitXor),
    ("|", .bitOr)]

/-- The rank of an operator. One of a lower rank binds its operands first. -/
def rank : Operator → Nat
  | .multiply | .divide | .remainder => 0
  | .add | .subtract => 1
  | .shiftLeft | .shiftRight => 2
  | .less | .lessEqual | .greater | .greaterEqual => 3
  | .equal | .unequal => 4
  | .bitAnd => 5
  | .bitXor => 6
  | .bitOr => 7

/-- The operators that can stand in front of an equals sign in an assignment. -/
def assigns : Operator → Bool
  | .multiply | .divide | .remainder | .add | .subtract | .shiftLeft | .shiftRight | .bitAnd
  | .bitXor | .bitOr => true
  | _ => false

/-- A number as a machine word without a sign. -/
def word (n : Int) : Nat := (n % Numeral.wordSize).toNat

/-- The result of an operator, unless a number is divided by zero. -/
def result? (left right : Int) : Operator → Option Int
  | .multiply => some (Numeral.wrap (left * right))
  | .divide => if right = 0 then none else some (Numeral.wrap (left.tdiv right))
  | .remainder => if right = 0 then none else some (left.tmod right)
  | .add => some (Numeral.wrap (left + right))
  | .subtract => some (Numeral.wrap (left - right))
  | .shiftLeft => some (Numeral.wrap ((word left <<< (right % 64).toNat : Nat) : Int))
  | .shiftRight => some (left >>> (right % 64).toNat)
  | .less => some (if left < right then 1 else 0)
  | .lessEqual => some (if left ≤ right then 1 else 0)
  | .greater => some (if right < left then 1 else 0)
  | .greaterEqual => some (if right ≤ left then 1 else 0)
  | .equal => some (if left = right then 1 else 0)
  | .unequal => some (if left = right then 0 else 1)
  | .bitAnd => some (Numeral.wrap ((word left &&& word right : Nat) : Int))
  | .bitXor => some (Numeral.wrap ((word left ^^^ word right : Nat) : Int))
  | .bitOr => some (Numeral.wrap ((word left ||| word right : Nat) : Int))

end Operator

inductive Expression where
  | number (n : Int)
  | variable (name : String)
  | negative (e : Expression)
  /-- One if the operand is zero, and zero otherwise. -/
  | isZero (e : Expression)
  | complement (e : Expression)
  | binary (operator : Operator) (left right : Expression)
  | both (left right : Expression)
  | either (left right : Expression)
  | choice (condition yes no : Expression)
  /-- The variable becomes the operand, or what the operator makes of the variable and the operand. -/
  | assign (name : String) (operator? : Option Operator) (e : Expression)
  /-- An expression behind which its text cannot go on as it does, and why. -/
  | brokenOff (e : Expression) (problem : String)
  deriving DecidableEq, Repr

/-- A lexeme of an expression. -/
inductive Sign where
  | number (n : Int)
  | name (name : String)
  | operator (operator : Operator)
  /-- An equals sign, behind an operator or not. -/
  | assign (operator? : Option Operator)
  | not
  | complement
  | both
  | either
  | question
  | colon
  | openParen
  | closeParen
  | unknown
  deriving DecidableEq, Repr

namespace Sign

/-- The signs that are written with one or more characters of punctuation. -/
def punctuation : List (String × Sign) :=
  let assignments := Operator.all.filterMap fun (text, op) =>
    if op.assigns then some (text ++ "=", Sign.assign (some op)) else none
  assignments ++ [("&&", .both), ("||", .either)] ++
    Operator.all.map (fun (text, op) => (text, .operator op)) ++
    [("=", .assign none), ("!", .not), ("~", .complement), ("?", .question), (":", .colon),
      ("(", .openParen), (")", .closeParen)]

/-- The longest sign of punctuation at the start of bytes, and the number of its bytes. -/
def punctuation? (bytes : Bytes) : Option (Sign × Nat) :=
  let found := punctuation.filter fun entry => (Bytes.ofText entry.1).isPrefixOf bytes
  let longest := found.foldl (fun best entry =>
    match best with
    | some (_, length) =>
        if length < entry.1.length then some (entry.2, entry.1.length) else best
    | none => some (entry.2, entry.1.length)) none
  longest

/-- The signs of an expression. -/
def read : Nat → Bytes → List Sign
  | 0, _ => []
  | _ + 1, [] => []
  | bound + 1, b :: rest =>
      if b = ascii ' ' || b = ascii '\t' || b = ascii '\n' then read bound rest
      else if (Char.ofNat b.toNat).isDigit then
        match Numeral.readUnsigned? (b :: rest) with
        | some (n, after) => .number (Numeral.clamp n) :: read bound after
        | none => [.unknown]
      else if startsName b then
        let word : Bytes := (b :: rest).takeWhile continuesName
        .name word.shown :: read bound ((b :: rest).drop word.length)
      else
        match punctuation? (b :: rest) with
        | some (sign, length) => sign :: read bound ((b :: rest).drop length)
        | none => [.unknown]

end Sign

namespace Expression

/-- What is read in the place of an operand if there is none. Nothing behind it counts. -/
def noOperand : Expression × List Sign := (.brokenOff (.number 0) "expecting primary", [])

mutual

def readOperand : Nat → List Sign → Expression × List Sign
  | 0, _ => noOperand
  | bound + 1, signs =>
      match signs with
      | .number n :: rest => (.number n, rest)
      | .name name :: rest => (.variable name, rest)
      | .operator .add :: rest => readOperand bound rest
      | .operator .subtract :: rest =>
          let (e, rest) := readOperand bound rest
          (.negative e, rest)
      | .not :: rest =>
          let (e, rest) := readOperand bound rest
          (.isZero e, rest)
      | .complement :: rest =>
          let (e, rest) := readOperand bound rest
          (.complement e, rest)
      | .openParen :: rest =>
          match readWhole bound rest with
          | (e, .closeParen :: rest) => (e, rest)
          | (e, _) => (.brokenOff e "expecting ')'", [])
      | _ => noOperand

/-- Reads the operators of a rank below a bound behind an operand, with their operands. -/
def readOperators : Nat → Nat → Expression → List Sign → Expression × List Sign
  | 0, _, left, signs => (left, signs)
  | bound + 1, rank, left, signs =>
      match signs with
      | .operator operator :: rest =>
          if operator.rank < rank then
            let (right, rest) := readOperand bound rest
            let (right, rest) := readOperators bound operator.rank right rest
            readOperators bound rank (.binary operator left right) rest
          else (left, signs)
      | _ => (left, signs)

/-- Reads operands that must all be true. -/
def readBoth : Nat → List Sign → Expression × List Sign
  | 0, _ => noOperand
  | bound + 1, signs =>
      let (left, rest) := readOperand bound signs
      let (left, rest) := readOperators bound 8 left rest
      match rest with
      | .both :: rest =>
          let (right, rest) := readBoth bound rest
          (.both left right, rest)
      | _ => (left, rest)

/-- Reads operands of which one must be true. -/
def readEither : Nat → List Sign → Expression × List Sign
  | 0, _ => noOperand
  | bound + 1, signs =>
      let (left, rest) := readBoth bound signs
      match rest with
      | .either :: rest =>
          let (right, rest) := readEither bound rest
          (.either left right, rest)
      | _ => (left, rest)

/-- Reads a condition and its alternatives. -/
def readChoice : Nat → List Sign → Expression × List Sign
  | 0, _ => noOperand
  | bound + 1, signs =>
      match readEither bound signs with
      | (condition, .question :: rest) =>
          match readWhole bound rest with
          | (yes, .colon :: rest) =>
              let (no, rest) := readChoice bound rest
              (.choice condition yes no, rest)
          | (yes, _) => (.choice condition yes (.brokenOff (.number 0) "expecting ':'"), [])
      | (condition, rest) => (condition, rest)

/-- Reads an assignment or an expression without one. -/
def readWhole : Nat → List Sign → Expression × List Sign
  | 0, _ => noOperand
  | bound + 1, signs =>
      match signs with
      | .name name :: .assign operator? :: rest =>
          let (e, rest) := readWhole bound rest
          (.assign name operator? e, rest)
      | _ => readChoice bound signs

end

def ofBytes (bytes : Bytes) : Expression :=
  let signs := Sign.read bytes.length bytes
  match readWhole (8 * signs.length + 8) signs with
  | (e, []) => e
  | (e, _) => .brokenOff e "expecting EOF"

def problem? : Expression → Option String
  | .number _ | .variable _ => none
  | .negative e | .isZero e | .complement e | .assign _ _ e => e.problem?
  | .binary _ left right | .both left right | .either left right =>
      left.problem?.or right.problem?
  | .choice condition yes no => (condition.problem?.or yes.problem?).or no.problem?
  | .brokenOff e problem => e.problem?.or (some problem)

def refuse {α : Type} (text : Bytes) (problem : String) : Session α :=
  Session.fail ["arithmetic expression: ", problem, ": \"", text, "\""]

/-- The number that a variable holds. One that has no value counts as zero. -/
def lookup (name : String) : Session Int := do
  Session.number false (((← get).value? name).getD [])

/-- Pass over an expression that is written as `text` and has no value, which may break off. -/
def pass (text : Bytes) (e : Expression) : Session Unit :=
  match e.problem? with
  | some problem => refuse text problem
  | none => return

/-- The result of an operator in an expression that is written as `text`. -/
def apply (text : Bytes) (operator : Operator) (left right : Int) : Session Int :=
  match operator.result? left right with
  | some n => return n
  | none => refuse text "division by zero"

/-- The value of an expression that is written as `text`. Where it breaks off is found only when
what stands in front has its value. -/
def evaluate (text : Bytes) : Expression → Session Int
  | .number n => return n
  | .variable name => lookup name
  | .negative e => do return Numeral.wrap (-(← e.evaluate text))
  | .isZero e => do return if (← e.evaluate text) = 0 then 1 else 0
  | .complement e => do return -(← e.evaluate text) - 1
  | .binary operator left right => do
      let left ← left.evaluate text
      let right ← right.evaluate text
      apply text operator left right
  | .both left right => do
      if (← left.evaluate text) = 0 then
        right.pass text
        return 0
      return if (← right.evaluate text) = 0 then 0 else 1
  | .either left right => do
      if (← left.evaluate text) ≠ 0 then
        right.pass text
        return 1
      return if (← right.evaluate text) = 0 then 0 else 1
  | .choice condition yes no => do
      if (← condition.evaluate text) = 0 then
        yes.pass text
        no.evaluate text
      else
        let n ← yes.evaluate text
        no.pass text
        return n
  | .assign name operator? e => do
      let right ← e.evaluate text
      let n ←
        match operator? with
        | none => pure right
        | some operator => apply text operator (← lookup name) right
      Session.assign name (Numeral.decimal n) false
      return n
  | .brokenOff e problem => do
      let _ ← e.evaluate text
      refuse text problem

def value (text : Bytes) : Session Int := (ofBytes text).evaluate text

end Expression
end MakeLauncher.Shell
