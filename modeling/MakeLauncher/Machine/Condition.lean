import MakeLauncher.Machine.Numeral
import MakeLauncher.Machine.World

/-! Conditions as a list of words writes them: comparisons of texts and of numbers, questions about
files, and these joined by `-a`, `-o`, `!` and parentheses. -/

namespace MakeLauncher.Machine.Condition

open Bytes (ascii)

/-- A question about one word. -/
inductive Question where
  | isEmpty
  | isNotEmpty
  | exists
  | isFile
  | isDirectory
  | isLink
  | isDevice
  | isPipe
  | isReadable
  | isExecutable
  | hasContent
  /-- A question whose answer is always no: a kind of file that no machine here has. -/
  | never
  deriving DecidableEq, Repr

/-- A comparison of two words. -/
inductive Comparison where
  | same
  | different
  | before
  | behind
  | equal
  | unequal
  | greater
  | greaterEqual
  | less
  | lessEqual
  | sameFile
  /-- Both are there, and the first has been changed later. -/
  | newer
  /-- Both are there, and the first has been changed earlier. -/
  | older
  deriving DecidableEq, Repr

/-- What a word is in a condition. -/
inductive Token where
  | ended
  | not
  | both
  | either
  | openParen
  | closeParen
  | question (question : Question)
  | comparison (comparison : Comparison)
  | operand
  deriving DecidableEq, Repr

def meanings : List (String × Token) :=
  [("!", .not), ("-a", .both), ("-o", .either), ("(", .openParen), (")", .closeParen),
    ("-z", .question .isEmpty), ("-n", .question .isNotEmpty), ("-e", .question .exists),
    ("-f", .question .isFile), ("-d", .question .isDirectory), ("-h", .question .isLink),
    ("-L", .question .isLink), ("-c", .question .isDevice), ("-r", .question .isReadable),
    ("-w", .question .isReadable), ("-x", .question .isExecutable), ("-s", .question .hasContent),
    ("-O", .question .exists), ("-G", .question .exists), ("-b", .question .never),
    ("-p", .question .isPipe), ("-S", .question .never), ("-u", .question .never),
    ("-g", .question .never), ("-k", .question .never), ("-t", .question .never),
    ("=", .comparison .same), ("!=", .comparison .different), ("<", .comparison .before),
    (">", .comparison .behind), ("-eq", .comparison .equal), ("-ne", .comparison .unequal),
    ("-gt", .comparison .greater), ("-ge", .comparison .greaterEqual), ("-lt", .comparison .less),
    ("-le", .comparison .lessEqual), ("-ef", .comparison .sameFile), ("-nt", .comparison .newer),
    ("-ot", .comparison .older)]

/-- What a word is by itself. -/
def Token.ofWord (word : Bytes) : Token :=
  match meanings.find? fun entry => Bytes.ofText entry.1 == word with
  | some (_, token) => token
  | none => .operand

/-- What the first word is in front of the others. A question needs a word behind it, and is a word
itself in front of a comparison. -/
def Token.ofWords : List Bytes → Token
  | [] => .ended
  | word :: rest =>
      match Token.ofWord word, rest with
      | .openParen, [] => .operand
      | .question _, [] => .operand
      | .question asked, next :: _ :: _ =>
          match Token.ofWord next with
          | .comparison _ => .operand
          | _ => .question asked
      | token, _ => token

/-- What a path leads to. -/
inductive Subject where
  | node (node : Node)
  | pipe

/-- What a path leads to, if to anything. The device of a stream is what the stream leads to. -/
def subject? (world : World) (path : Bytes) : Option Subject :=
  match world.find path with
  | .error _ => none
  | .ok { kind := .device (.stream number), mode, .. } =>
      match (world.stream? number).bind (world.opened[·]?) with
      | none => none
      | some (.file place _ _) => (world.tree.node? place).map .node
      | some (.device device) => some (.node { kind := .device device, mode })
      | some _ => some .pipe
  | .ok node => some (.node node)

def Question.answer (world : World) (word : Bytes) (question : Question) : Bool :=
  let found := subject? world word
  match question with
  | .isEmpty => word.isEmpty
  | .isNotEmpty => !word.isEmpty
  | .exists | .isReadable => found.isSome
  | .isFile => found.any fun subject => (subject matches .node { kind := .file _, .. })
  | .isDirectory => found.any fun subject => (subject matches .node { kind := .directory _ _, .. })
  | .isDevice => found.any fun subject => (subject matches .node { kind := .device _, .. })
  | .isPipe => found.any fun subject => (subject matches .pipe)
  | .isExecutable =>
      found.any fun subject =>
        match subject with
        | .node node => node.isDirectory || node.isExecutable
        | .pipe => false
  | .hasContent =>
      found.any fun subject =>
        match subject with
        | .node { kind := .file content, .. } => !content.isEmpty
        | .node { kind := .directory _ _, .. } => true
        | _ => false
  | .isLink =>
      match world.findLink word with
      | .ok node => (node.kind matches .link _)
      | .error _ => false
  | .never => false

/-- The number that a word must write. -/
def number (word : Bytes) : Except Bytes Int :=
  match Numeral.value? true word with
  | some n => .ok n
  | none => .error (Bytes.ofText "Illegal number: " ++ word)

def Comparison.outcome (world : World) (left right : Bytes) (comparison : Comparison) :
    Except Bytes Bool :=
  let compare (holds : Int → Int → Bool) : Except Bytes Bool := do
    let left ← number left
    let right ← number right
    return holds left right
  let changes (holds : Nat → Nat → Bool) : Except Bytes Bool :=
    match world.find left, world.find right with
    | .ok left, .ok right => .ok (holds left.changed right.changed)
    | _, _ => .ok false
  match comparison with
  | .same => .ok (left = right)
  | .different => .ok (left ≠ right)
  | .before => .ok (left < right)
  | .behind => .ok (right < left)
  | .equal => compare fun a b => a = b
  | .unequal => compare fun a b => a ≠ b
  | .greater => compare fun a b => b < a
  | .greaterEqual => compare fun a b => b ≤ a
  | .less => compare fun a b => a < b
  | .lessEqual => compare fun a b => a ≤ b
  | .sameFile =>
      match world.place left, world.place right with
      | .ok left, .ok right => .ok (left = right)
      | _, _ => .ok false
  | .newer => changes fun left right => right < left
  | .older => changes fun left right => left < right

/-- What a reader of a condition gives: the outcome and the words from the last one that it has
read on. -/
abbrev Outcome := Except Bytes (Bool × List Bytes)

mutual

def readEither (world : World) : Nat → Token → List Bytes → Outcome
  | 0, _, words => .ok (false, words)
  | bound + 1, token, words => do
      let (left, words) ← readBoth world bound token words
      if Token.ofWords words.tail = .either then
        let behind := words.drop 2
        let (right, words) ← readEither world bound (Token.ofWords behind) behind
        return (left || right, words)
      else return (left, words)

def readBoth (world : World) : Nat → Token → List Bytes → Outcome
  | 0, _, words => .ok (false, words)
  | bound + 1, token, words => do
      let (left, words) ← readNegated world bound token words
      if Token.ofWords words.tail = .both then
        let behind := words.drop 2
        let (right, words) ← readBoth world bound (Token.ofWords behind) behind
        return (left && right, words)
      else return (left, words)

/-- The outcome of a condition that may be negated. -/
def readNegated (world : World) : Nat → Token → List Bytes → Outcome
  | 0, _, words => .ok (false, words)
  | bound + 1, token, words =>
      if token = .not then do
        let token := Token.ofWords words.tail
        let words := if token = .ended then words else words.tail
        let (outcome, words) ← readNegated world bound token words
        return (!outcome, words)
      else readPrimary world bound token words

/-- The outcome of a single condition. -/
def readPrimary (world : World) : Nat → Token → List Bytes → Outcome
  | 0, _, words => .ok (false, words)
  | bound + 1, token, words =>
      let word := words.head?.getD []
      let unanswered (word : Bytes) : Outcome :=
        .error (word ++ Bytes.ofText ": argument expected")
      match token with
      | .ended => .ok (false, words)
      | .openParen =>
          let inside := words.tail
          if Token.ofWords inside = .closeParen then .ok (false, inside)
          else do
            let (outcome, words) ← readEither world bound (Token.ofWords inside) inside
            if Token.ofWords words.tail = .closeParen then return (outcome, words.tail)
            else .error "closing paren expected"
      | .question question =>
          match words.tail with
          | [] => unanswered word
          | subject :: _ => .ok (question.answer world subject, words.tail)
      | _ =>
          match Token.ofWords words.tail, words.drop 2 with
          | .comparison _, [] => unanswered (words.tail.head?.getD [])
          | .comparison comparison, right :: _ => do
              return (← comparison.outcome world word right, words.drop 2)
          | _, _ => .ok (!word.isEmpty, words)

end

/-- The outcome of the condition that words write, or the complaint about them. -/
def outcome (world : World) (words : List Bytes) : Except Bytes Bool :=
  match words with
  | [] => .ok false
  | first :: rest =>
      let evaluate (token : Token) (words : List Bytes) : Except Bytes Bool := do
        let (outcome, left) ← readEither world (6 * words.length + 6) token words
        match left with
        | [] :: _ :: _ => .error "unexpected operator"
        | last :: _ :: _ => .error (last ++ Bytes.ofText ": unexpected operator")
        | _ => return outcome
      let isComparison :=
        match words with
        | [_, operator, _] => (Token.ofWord operator matches .comparison _)
        | _ => false
      if isComparison then evaluate .operand words
      else if words.length = 3 || words.length = 4 then
        if Token.ofWord first = .openParen && words.getLast?.map Token.ofWord = some .closeParen then
          evaluate (Token.ofWords rest.dropLast) rest.dropLast
        else if Token.ofWord first = .not then (outcome world rest).map (! ·)
        else evaluate (Token.ofWords words) words
      else evaluate (Token.ofWords words) words
termination_by words.length

end MakeLauncher.Machine.Condition
