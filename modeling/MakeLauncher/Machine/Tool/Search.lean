import MakeLauncher.Machine.Regex
import MakeLauncher.Machine.Tool.Basic

/-! The utilities that look for expressions in texts: `grep`, which selects lines of files, and `expr`,
which also counts and compares. -/

namespace MakeLauncher.Machine.Tool

open Bytes (ascii)
open Numeral (decimal isDigit)

/-! ### Selecting lines -/

/-- What is looked for in the lines of files, and what is told about those that are selected. -/
structure Search where
  regex : Regex
  isLine : Bool := false
  /-- The expression must match whole words. -/
  isWord : Bool := false
  /-- The lines are selected in which there is no match. -/
  isInverted : Bool := false
  onlyMatches : Bool := false
  /-- Nothing is printed about lines. -/
  isSilent : Bool := false
  hasNumbers : Bool := false
  hasOffsets : Bool := false
  /-- The name of the file that is printed in front of each line. -/
  file? : Option Bytes := none
  /-- The number of lines that are printed in front of a selected one. -/
  before : Nat := 0
  /-- The number of lines that are printed behind a selected one. -/
  behind : Nat := 0
  /-- The number of lines behind which the search ends. -/
  most? : Option Nat := none

/-- How far a search in a file has come. -/
structure SearchState where
  /-- The number of lines that have been looked at, and of their bytes. -/
  lines : Nat := 0
  offset : Nat := 0
  /-- The number of lines that have been selected. -/
  found : Nat := 0
  /-- The last lines that have not been printed, with their numbers and offsets, last one first. -/
  held : List (Nat × Nat × Bytes) := []
  /-- The number of lines that are still to be printed behind a selected one. -/
  due : Nat := 0
  /-- The number of the line that was printed last. -/
  printed? : Option Nat := none

namespace Search

def accepts (search : Search) (start finish : Point) : Bool :=
  if search.isLine then start.position = 0 && finish.rest.isEmpty
  else
    !search.isWord ||
      (!start.last?.any Point.isOfWord && !finish.rest.head?.any Point.isOfWord)

def find? (search : Search) (point : Point) : Option (Point × Point) :=
  search.regex.findFrom search.accepts point.rest.length { point with groups := [] }

/-- The matches in a line that are not empty, from a point on, with their offsets. -/
def matchesFrom (search : Search) : Nat → Point → List (Nat × Bytes)
  | 0, _ => []
  | bound + 1, point =>
      match search.find? point with
      | none => []
      | some (start, finish) =>
          if start.position = finish.position then
            if start.rest.isEmpty then [] else search.matchesFrom bound (start.skip 1)
          else (start.position, start.upTo finish) :: search.matchesFrom bound finish

/-- What is printed in front of a line, with a sign behind each part. -/
def label (search : Search) (sign : Char) (number offset : Nat) : Bytes :=
  let part (bytes : Bytes) : Bytes := bytes ++ [ascii sign]
  (search.file?.map part).getD [] ++ (if search.hasNumbers then part (decimal number) else []) ++
    if search.hasOffsets then part (decimal offset) else []

/-- The search has found as much as it is to find. -/
def isOver (search : Search) (state : SearchState) : Bool :=
  search.most?.any (· ≤ state.found)

/-- Looks at one more line. The result is what is printed. When the search is over, lines are printed only
as far as they belong to the last one selected. -/
def look (search : Search) (state : SearchState) (line : Bytes) : SearchState × Bytes :=
  let number := state.lines + 1
  let offset := state.offset
  let state := { state with lines := number, offset := offset + line.length + 1 }
  let isSelected :=
    !search.isOver state && (search.find? { rest := line }).isSome != search.isInverted
  let shown (sign : Char) (entry : Nat × Nat × Bytes) : Bytes :=
    search.label sign entry.1 entry.2.1 ++ entry.2.2 ++ [ascii '\n']
  if isSelected then
    let state := { state with found := state.found + 1 }
    if search.isSilent then (state, [])
    else
      let first := (state.held.getLast?.map (·.1)).getD number
      let hasContext := 0 < search.before || 0 < search.behind
      let gap : Bytes :=
        if hasContext && state.printed?.any (· + 1 < first) then "--\n" else []
      let text :=
        if !search.onlyMatches then
          state.held.reverse.flatMap (shown '-') ++ shown ':' (number, offset, line)
        else if search.isInverted then []
        else (search.matchesFrom (line.length + 1) { rest := line }).flatMap fun (position, text) =>
          shown ':' (number, offset + position, text)
      ({ state with held := [], due := search.behind, printed? := some number }, gap ++ text)
  else if 0 < state.due && !search.onlyMatches && !search.isSilent then
    ({ state with due := state.due - 1, printed? := some number }, shown '-' (number, offset, line))
  else ({ state with held := ((number, offset, line) :: state.held).take search.before }, [])

/-- Looks at more lines. -/
def lookAll (search : Search) (state : SearchState) (lines : List Bytes) : SearchState × Bytes :=
  lines.foldl (fun (state, printed) line =>
    let (state, more) := search.look state line
    (state, printed ++ more)) (state, [])

/-- Looks at the lines that a stream has, portion by portion. The bound is on the number of portions. -/
def run (search : Search) (name : Bytes) (stream : Nat) :
    Nat → Bytes → SearchState → Activity (Except Errno SearchState)
  | 0, _, state => return .ok state
  | bound + 1, earlier, state => do
      match ← Activity.read stream Activity.portion with
      | .error errno => return .error errno
      | .ok [] =>
          let (state, printed) := search.lookAll state (if earlier.isEmpty then [] else [earlier])
          put name printed
          return .ok state
      | .ok bytes => do
          let pieces := (earlier ++ bytes).splitOn (ascii '\n')
          let (state, printed) := search.lookAll state pieces.dropLast
          put name printed
          if search.isOver state && state.due = 0 then return .ok state
          else search.run name stream bound (pieces.getLastD []) state

end Search

/-- How `grep` says that it is called in a wrong way. -/
def searchUse (name : Bytes) : List Bytes :=
  ["Usage: ", name, " [OPTION]... PATTERNS [FILE]...\n", hint name]

def searchGrammar : Options.Grammar :=
  { letters := "EFGe:f:iyvwxclLqsnohHm:A:B:C:bUaZ"
    long := [("extended-regexp", 'E'), ("fixed-strings", 'F'), ("basic-regexp", 'G'),
      ("regexp", 'e'), ("file", 'f'), ("ignore-case", 'i'), ("invert-match", 'v'),
      ("word-regexp", 'w'), ("line-regexp", 'x'), ("count", 'c'), ("files-with-matches", 'l'),
      ("files-without-match", 'L'), ("quiet", 'q'), ("silent", 'q'), ("no-messages", 's'),
      ("line-number", 'n'), ("only-matching", 'o'), ("no-filename", 'h'), ("with-filename", 'H'),
      ("max-count", 'm'), ("after-context", 'A'), ("before-context", 'B'), ("context", 'C'),
      ("byte-offset", 'b'), ("binary", 'U'), ("text", 'a'), ("color", 'Z'), ("colour", 'Z')] }

/-- The number that the value of an option writes, or none if the option is not given. -/
def countOf (options : Options) (letter : Char) : Except Bytes (Option Nat) :=
  match options.value? letter with
  | none => .ok none
  | some value =>
      match Numeral.readDigits? 10 value with
      | some (n, []) => .ok (some n)
      | _ => .error value

/-- The expression that matches what one of some texts stands for. -/
def searchRegex (options : Options) (patterns : List Bytes) : Regex.Outcome Regex := do
  let ignoresCase := options.has 'i' || options.has 'y'
  let letter? := (options.given.filter fun given => ['E', 'F', 'G'].contains given.1).getLast?
  let parts ← patterns.mapM fun pattern =>
    match letter?.map (·.1) with
    | some 'F' => pure (Regex.ofText ignoresCase pattern)
    | some 'E' => Regex.read true ignoresCase pattern
    | _ => Regex.read false ignoresCase pattern
  match parts.reverse with
  | [] => return .oneOf []
  | last :: others => return others.foldl (fun rest part => .either part rest) last

/-- Search files in a way that the options ask for. The exit code tells whether a line is selected. -/
def searchFiles (name : Bytes) (options : Options) (search : Search) (files : List Bytes) :
    Activity Nat := do
  let isQuiet := options.has 'q'
  let counts := options.has 'c'
  let names := options.has 'l' || options.has 'L'
  let choice? := (options.given.filter fun given => given.1 = 'h' || given.1 = 'H').getLast?
  let hasName := (choice?.map fun choice => decide (choice.1 = 'H')).getD (decide (1 < files.length))
  let mut found := false
  let mut failed := false
  for path in if files.isEmpty then [Bytes.ofText "-"] else files do
    let shown : Bytes := if path = Bytes.ofText "-" then "(standard input)" else path
    let file? := if hasName then some shown else none
    let search :=
      { search with
        isSilent := isQuiet || counts || names
        file?
        most? := if isQuiet || names then some 1 else search.most? }
    match ← withFile path fun stream => search.run name stream Activity.portionLimit [] {} with
    | .error errno =>
        if !options.has 's' then complain [name, ": ", path, ": ", errno.text]
        failed := true
    | .ok state =>
        let hasFound := decide (0 < state.found)
        found := found || hasFound
        if isQuiet && hasFound then return 0
        if counts && !names && !isQuiet then
          let start := (file?.map (· ++ [ascii ':'])).getD []
          put name (start ++ decimal state.found ++ [ascii '\n'])
        if names && !isQuiet && hasFound = options.has 'l' then put name (shown ++ [ascii '\n'])
  return if failed then 2 else if found then 0 else 1

def grep : Tool := fun name arguments => do
  match searchGrammar.readFrom arguments.length arguments with
  | .error complaint =>
      let start : List Bytes := [name, ": "]
      refuse (start ++ complaint ++ [[ascii '\n']] ++ searchUse name) 2
  | .ok options => do
      let mut patterns := options.given.filterMap fun (letter, value) =>
        if letter = 'e' then some (value.splitOn (ascii '\n')) else none
      for (letter, path) in options.given do
        if letter = 'f' then
          match ← readFile path with
          | .ok bytes => patterns := patterns ++ [bareLines bytes]
          | .error errno => return ← refuse [name, ": ", path, ": ", errno.text] 2
      let isGiven := options.has 'e' || options.has 'f'
      match options.operands with
      | [] => if !isGiven then return ← refuse (searchUse name) 2
      | first :: _ => if !isGiven then patterns := [first.splitOn (ascii '\n')]
      let files := if isGiven then options.operands else options.operands.tail
      match countOf options 'm', ['A', 'B', 'C'].mapM (countOf options) with
      | .error _, _ => refuse [name, ": invalid max count"] 2
      | _, .error value => refuse [name, ": ", value, ": invalid context length argument"] 2
      | .ok most?, .ok context =>
          match searchRegex options patterns.flatten with
          | .error complaint => refuse [name, ": ", complaint] 2
          | .ok regex =>
              let around := (context[2]?.join).getD 0
              let search : Search :=
                { regex
                  isLine := options.has 'x'
                  isWord := options.has 'w'
                  isInverted := options.has 'v'
                  onlyMatches := options.has 'o'
                  hasNumbers := options.has 'n'
                  hasOffsets := options.has 'b'
                  before := (context[1]?.join).getD around
                  behind := (context[0]?.join).getD around
                  most? }
              searchFiles name options search files

/-- Prints the lines of files in which an expression matches whose notation is known. -/
def grepWith (option : Bytes) : Tool := fun _ arguments => grep "grep" (option :: arguments)

/-! ### Expressions with operators -/

/-- What reading an expression needs: the words that are left, and the one in front of them. -/
structure Words where
  rest : List Bytes
  last : Bytes := []

/-- Something that goes on reading words, or the complaint that ends it. -/
abbrev Evaluation := StateT Words (Except (List Bytes))

namespace Evaluation

def operators : List (List String) :=
  [["|"], ["&"], ["<", "<=", "=", "==", "!=", ">=", ">"], ["+", "-"], ["*", "/", "%"], [":"]]

/-- A value is the number zero or the empty text. -/
def isNull (value : Bytes) : Bool :=
  let digits := if value.head? = some (ascii '-') then value.tail else value
  value.isEmpty || (!digits.isEmpty && digits.all (· = ascii '0'))

/-- The whole number that a value writes. -/
def number? (value : Bytes) : Option Int :=
  let isNegative := value.head? = some (ascii '-')
  let digits := if isNegative then value.tail else value
  if digits.isEmpty || !digits.all isDigit then none
  else some (if isNegative then -Numeral.ofDigits digits else Numeral.ofDigits digits)

def refuse {α : Type} (complaint : List Bytes) : Evaluation α := throw complaint

def number (value : Bytes) : Evaluation Int :=
  match number? value with
  | some n => return n
  | none => refuse ["non-integer argument"]

def take : Evaluation Bytes := do
  let words ← get
  match words.rest with
  | [] => refuse ["syntax error: missing argument after '", words.last, "'"]
  | word :: rest => do
      set ({ rest, last := word } : Words)
      return word

/-- The next word if it is one of these. -/
def accept? (names : List String) : Evaluation (Option Bytes) := do
  match (← get).rest with
  | word :: _ => if names.any (Bytes.ofText · == word) then some <$> take else return none
  | [] => return none

/-- What an expression matches at the start of a text: the text of its group, or the length. -/
def matchStart (text pattern : Bytes) : Evaluation Bytes := do
  match Regex.read false false pattern with
  | .error complaint => refuse [complaint]
  | .ok regex =>
      let hasGroup := (pattern.zip pattern.tail).contains (ascii '\\', ascii '(')
      match (regex.ends { rest := text }).head? with
      | some finish =>
          return if hasGroup then (finish.groups.lookup 1).getD [] else decimal finish.position
      | none => return if hasGroup then [] else decimal 0

def combine (operator : String) (left right : Bytes) : Evaluation Bytes := do
  let truth (b : Bool) : Bytes := if b then "1" else "0"
  let compared : Ordering :=
    match number? left, number? right with
    | some a, some b => compare a b
    | _, _ => if left < right then .lt else if right < left then .gt else .eq
  let divide (operation : Int → Int → Int) : Evaluation Bytes := do
    let a ← number left
    let b ← number right
    if b = 0 then refuse ["division by zero"] else return decimal (operation a b)
  match operator with
  | "|" => return if !isNull left then left else if !isNull right then right else "0"
  | "&" => return if isNull left || isNull right then "0" else left
  | "<" => return truth (compared = .lt)
  | "<=" => return truth (compared ≠ .gt)
  | "=" | "==" => return truth (compared = .eq)
  | "!=" => return truth (compared ≠ .eq)
  | ">=" => return truth (compared ≠ .lt)
  | ">" => return truth (compared = .gt)
  | "+" => return decimal ((← number left) + (← number right))
  | "-" => return decimal ((← number left) - (← number right))
  | "*" => return decimal ((← number left) * (← number right))
  | "/" => divide Int.tdiv
  | "%" => divide Int.tmod
  | _ => matchStart left right

/-- The part of a text from a position on, with a length. Positions count from one. -/
def part (text : Bytes) (position length : Bytes) : Bytes :=
  match number? position, number? length with
  | some position, some length =>
      if position ≤ 0 || length ≤ 0 then []
      else (text.drop (position.toNat - 1)).take length.toNat
  | _, _ => []

mutual

/-- Evaluates operators of one tightness and of all that bind more tightly. A part that does not count is
read only. -/
def evaluate : Nat → List (List String) → Bool → Evaluation Bytes
  | 0, _, _ => refuse ["syntax error"]
  | bound + 1, [], counts => evaluatePrefix bound counts
  | bound + 1, names :: tighter, counts => do
      let left ← evaluate bound tighter counts
      evaluateBehind bound names tighter counts left

/-- Evaluates what stands behind a value. -/
def evaluateBehind : Nat → List String → List (List String) → Bool → Bytes → Evaluation Bytes
  | 0, _, _, _, _ => refuse ["syntax error"]
  | bound + 1, names, tighter, counts, left => do
      match ← accept? names with
      | none => return left
      | some operator => do
          let operator := (names.find? (Bytes.ofText · == operator)).getD ""
          let rightCounts :=
            if operator = "|" then isNull left else operator ≠ "&" || !isNull left
          let right ← evaluate bound tighter (counts && rightCounts)
          let value ← if counts && rightCounts then combine operator left right else pure left
          let value := if operator = "&" && isNull left then Bytes.ofText "0" else value
          evaluateBehind bound names tighter counts value

/-- Evaluates a word, an operator in front of words, or what parentheses enclose. -/
def evaluatePrefix : Nat → Bool → Evaluation Bytes
  | 0, _ => refuse ["syntax error"]
  | bound + 1, counts => do
      match (← accept? ["+", "length", "match", "index", "substr", "(", ")"]).map (·.shown) with
      | some "+" => take
      | some "length" => do
          return decimal (← evaluatePrefix bound counts).length
      | some "match" => do
          let text ← evaluatePrefix bound counts
          let pattern ← evaluatePrefix bound counts
          if counts then matchStart text pattern else return []
      | some "index" => do
          let text ← evaluatePrefix bound counts
          let bytes ← evaluatePrefix bound counts
          let index := text.findIdx bytes.contains
          return decimal (if index < text.length then index + 1 else 0)
      | some "substr" => do
          let text ← evaluatePrefix bound counts
          let position ← evaluatePrefix bound counts
          return part text position (← evaluatePrefix bound counts)
      | some "(" => do
          let value ← evaluate bound operators counts
          match (← get).rest with
          | [] => refuse ["syntax error: expecting ')' after '", (← get).last, "'"]
          | next :: _ =>
              if next = [ascii ')'] then
                let _ ← take
                return value
              else refuse ["syntax error: expecting ')' instead of '", next, "'"]
      | some ")" => refuse ["syntax error: unexpected ')'"]
      | _ => take

end

end Evaluation

/-- Evaluates an expression whose parts are arguments of their own. The exit code tells whether the value
is null. -/
def expr : Tool := fun name arguments => do
  let words := if arguments.head? = some (Bytes.ofText "--") then arguments.tail else arguments
  if words.isEmpty then refuseUse name ["missing operand"] 2
  else
    let bound := 20 * words.length + 20
    match (Evaluation.evaluate bound Evaluation.operators true).run { rest := words } with
    | .error complaint => refuse ([name, Bytes.ofText ": "] ++ complaint) 2
    | .ok (value, { rest := [], .. }) => do
        put name (value ++ [ascii '\n'])
        return if Evaluation.isNull value then 1 else 0
    | .ok (_, { rest := next :: _, .. }) =>
        refuse [name, ": syntax error: unexpected argument '", next, "'"] 2

end MakeLauncher.Machine.Tool
