import MakeLauncher.Machine.Format
import MakeLauncher.Machine.Tool.Basic

/-! The utilities that print files and words: `cat`, `tee`, `echo`, `printf`, `yes`, `seq`, `head`,
`tail` and `tac`. They print as they read. -/

namespace MakeLauncher.Machine.Tool

open Bytes (ascii)
open Numeral (decimal)

/-! ### Whole files -/

/-- A byte that is shown by printable ones. -/
def visible (b : UInt8) : Bytes :=
  let plain (b : UInt8) : Bytes :=
    if b < 32 then [ascii '^', b + 64] else if b = 127 then [ascii '^', ascii '?'] else [b]
  if b < 128 then plain b else [ascii 'M', ascii '-'] ++ plain (b - 128)

/-- Empty lines behind an empty line are left out. -/
def squeezeLines : List Bytes → List Bytes
  | first :: second :: rest =>
      if first = [ascii '\n'] && second = first then squeezeLines (second :: rest)
      else first :: squeezeLines (second :: rest)
  | lines => lines

/-- What stands in front of lines to number them from `number` on: all of them, or only those that are
not empty. -/
def lineNumbers (onlyFull : Bool) : Nat → List Bytes → List Bytes
  | _, [] => []
  | number, line :: rest =>
      if onlyFull && line = [ascii '\n'] then [] :: lineNumbers onlyFull number rest
      else
        let digits := decimal number
        (List.replicate (6 - digits.length) (ascii ' ') ++ digits ++ [ascii '\t']) ::
          lineNumbers onlyFull (number + 1) rest

/-- A line with its bytes made visible as the letters of options ask for. -/
def visibleLine (asks : Char → Bool) (line : Bytes) : Bytes :=
  let ended := line.getLast? = some (ascii '\n')
  let text := if ended then line.dropLast else line
  let all := ['v', 'A', 'e', 't'].any asks
  let ends := ['E', 'A', 'e'].any asks
  let tabs := ['T', 'A', 't'].any asks
  let shown (b : UInt8) : Bytes :=
    if b = ascii '\t' then if tabs then visible b else [b] else if all then visible b else [b]
  let returned := ends && !all && ended && text.getLast? = some (ascii '\r')
  let text :=
    if returned then text.dropLast.flatMap shown ++ visible (ascii '\r') else text.flatMap shown
  text ++ (if ends && ended then [ascii '$'] else []) ++ (if ended then [ascii '\n'] else [])

/-- Print what a stream has, portion by portion. The bound is on the number of portions. -/
def copyStream (name : Bytes) (stream : Nat) : Nat → Activity (Except Errno Unit)
  | 0 => return .ok ()
  | bound + 1 => do
      match ← Activity.read stream Activity.portion with
      | .error errno => return .error errno
      | .ok [] => return .ok ()
      | .ok bytes => do
          put name bytes
          copyStream name stream bound

def catGrammar : Options.Grammar where
  letters := "AbeEnstTuv"
  long := [("show-all", 'A'), ("number-nonblank", 'b'), ("show-ends", 'E'), ("number", 'n'),
    ("squeeze-blank", 's'), ("show-tabs", 'T'), ("show-nonprinting", 'v')]

def cat : Tool := fun name arguments =>
  withOptions catGrammar 1 name arguments fun options => do
    if options.given.all (·.1 = 'u') then
      forFiles name shownName options.operands fun _ _ stream =>
        copyStream name stream Activity.portionLimit
    else
      let (bytes, code) ← readFiles name shownName options.operands
      let lines := if options.has 's' then squeezeLines (lines bytes) else lines bytes
      let numbers :=
        if options.has 'b' || options.has 'n' then lineNumbers (options.has 'b') 1 lines
        else lines.map fun _ => []
      put name (List.zipWith (· ++ visibleLine options.has ·) numbers lines).flatten
      return code

def tac : Tool := fun name arguments =>
  withOptions { letters := "" } 1 name arguments fun options =>
    let blame (path : Bytes) : Bytes :=
      Bytes.ofText "failed to open " ++ quoted path ++ Bytes.ofText " for reading"
    forFiles name blame options.operands fun _ _ stream => do
      match ← Activity.readAll stream with
      | .error errno => return .error errno
      | .ok bytes => do
          put name (lines bytes).reverse.flatten
          return .ok ()

/-- Write a portion to streams. -/
def writeAll (streams : List Nat) (bytes : Bytes) : Activity Unit := do
  for stream in streams do
    let _ ← Activity.write stream bytes

/-- Write what the standard input has to streams, portion by portion. -/
def spread (streams : List Nat) : Nat → Activity Unit
  | 0 => return
  | bound + 1 => do
      match ← Activity.read 0 Activity.portion with
      | .error _ | .ok [] => return
      | .ok bytes => do
          writeAll streams bytes
          spread streams bound

/-- Prints the standard input, and writes it into files. -/
def tee : Tool := fun name arguments =>
  withOptions { letters := "aip", long := [("append", 'a'), ("ignore-interrupts", 'i')] } 1 name
      arguments fun options => do
    let mut code := 0
    let mut streams := [1]
    for path in options.operands do
      match ← Activity.openToWrite path (options.has 'a') (!options.has 'a') with
      | .ok stream => streams := streams ++ [stream]
      | .error errno => code ← refuse [name, ": ", shownName path, ": ", errno.text] 1
    spread streams Activity.portionLimit
    return code

/-! ### Words -/

def echo : Tool := fun name arguments =>
  let isOption (word : Bytes) : Bool :=
    word.head? = some (ascii '-') && 1 < word.length &&
      word.tail.all (['n', 'e', 'E'].map ascii).contains
  let letters := (arguments.takeWhile isOption).flatMap (·.tail)
  let words := arguments.dropWhile isOption
  let (bytes, cut) :=
    if letters.contains (ascii 'e') then Format.unescapeLine true words
    else ([ascii ' '].intercalate words, false)
  print name (if cut || letters.contains (ascii 'n') then bytes else bytes ++ [ascii '\n'])

def printf : Tool := fun name arguments => do
  let arguments :=
    if arguments.head? = some (Bytes.ofText "--") then arguments.tail else arguments
  match arguments with
  | [] => refuseFew name "operand"
  | format :: arguments =>
      let printing := Format.print true format arguments
      for warning in printing.warnings do
        complain [name, ": ", warning]
      put name printing.output
      match printing.failure? with
      | some failure => refuse [name, ": ", failure] 1
      | none => return if printing.warnings.isEmpty then 0 else 1

def yes : Tool := fun name arguments =>
  let words : List Bytes := if arguments.isEmpty then ["y"] else arguments
  let line := [ascii ' '].intercalate words ++ [ascii '\n']
  let block := (List.replicate (4096 / line.length + 1) line).flatten
  go name block Activity.portionLimit
where
  /-- Prints the lines so many times. -/
  go (name block : Bytes) : Nat → Activity Nat
    | 0 => return 0
    | bound + 1 => do
        put name block
        go name block bound

/-- Prints the numbers from one to another, by steps of one or of another number. -/
def seq : Tool := fun name arguments =>
  withOptions { letters := "s:f:w", long := [("separator", 's'), ("equal-width", 'w')] } 1 name
      (guard arguments) fun options =>
    let separator := (options.value? 's').getD [ascii '\n']
    let words := options.operands
    match words.find? fun word => (Numeral.value? true word).isNone with
    | some word => refuseUse name ["invalid floating point argument: '", word, "'"] 1
    | none =>
        match words.filterMap (Numeral.value? true) with
        | [] => refuseFew name "operand"
        | [last] => count name separator 1 1 last
        | [first, last] => count name separator first 1 last
        | [first, step, last] =>
            if step = 0 then
              refuseUse name ["invalid Zero increment value: '", words[1]?.getD [], "'"] 1
            else count name separator first step last
        | _ => refuseUse name ["extra operand '", words[3]?.getD [], "'"] 1
where
  /-- Prints the numbers, and an end of the line behind the last. -/
  count (name separator : Bytes) (first step last : Int) : Activity Nat := do
    let size := 1000
    let total := ((last - first) / step + 1).toNat
    for block in List.range (total / size + 1) do
      let numbers := (List.range' (block * size) (min size (total - block * size))).map
        fun (n : Nat) => decimal (first + step * (n : Int))
      let start := if 0 < block && !numbers.isEmpty then separator else []
      put name (start ++ separator.intercalate numbers)
    if total = 0 then return 0 else print name [ascii '\n']
  /-- The arguments with an end of the options in front of a negative number. -/
  guard : List Bytes → List Bytes
    | [] => []
    | word :: rest =>
        if word.head? = some (ascii '-') && (word.tail.head?).any Numeral.isDigit then
          Bytes.ofText "--" :: word :: rest
        else if word = Bytes.ofText "--" then word :: rest
        else word :: guard rest

/-! ### Parts of files -/

/-- What a count of lines or bytes asks for. -/
inductive Extent where
  /-- So many from the start or the end. -/
  | only (count : Nat)
  /-- All but so many at the other end. -/
  | allBut (count : Nat)
  deriving DecidableEq, Repr

def units : List (String × Nat) :=
  [("", 1), ("b", 512), ("K", 1024), ("k", 1024), ("KiB", 1024), ("kB", 1000), ("KB", 1000),
    ("M", 1024 * 1024), ("MiB", 1024 * 1024), ("MB", 1000 * 1000), ("G", 1024 * 1024 * 1024),
    ("GiB", 1024 * 1024 * 1024), ("GB", 1000 * 1000 * 1000)]

/-- The number that a count with a unit writes. -/
def count? (word : Bytes) : Option Nat :=
  match Numeral.readDigits? 10 word with
  | some (n, unit) => (units.find? fun entry => Bytes.ofText entry.1 == unit).map (n * ·.2)
  | none => none

/-- The extent that a word writes; one with the sign in front asks for all but so many. -/
def extent? (sign : Char) (word : Bytes) : Option Extent :=
  match word with
  | first :: rest =>
      if first = ascii sign then (count? rest).map .allBut
      else if first = ascii '-' || first = ascii '+' then (count? rest).map .only
      else (count? word).map .only
  | [] => none

/-- The arguments with a first one such as `-3` in the words of today. -/
def modernCount (arguments : List Bytes) : List Bytes :=
  match arguments with
  | (dash :: digits) :: rest =>
      if dash = ascii '-' && (digits.head?).any Numeral.isDigit then
        let count := digits.takeWhile Numeral.isDigit
        let unit := digits.drop count.length
        let option : Bytes := if unit.contains (ascii 'c') then "-c" else "-n"
        option :: count :: rest
      else arguments
  | _ => arguments

def partGrammar : Options.Grammar where
  letters := "c:n:qvzfFs:"
  long := [("bytes", 'c'), ("lines", 'n'), ("quiet", 'q'), ("silent", 'q'), ("verbose", 'v')]

/-- Prints parts of files, with a title in front of each if that is asked for or there are several. -/
def printParts (name : Bytes) (options : Options)
    (act : Nat → Activity (Except Errno Unit)) : Activity Nat :=
  let blame (path : Bytes) : Bytes :=
    Bytes.ofText "cannot open " ++ quoted path ++ Bytes.ofText " for reading"
  let isTitled := options.has 'v' || (1 < options.operands.length && !options.has 'q')
  forFiles name blame options.operands fun index path stream => do
    if isTitled then
      let gap : Bytes := if index = 0 then [] else [ascii '\n']
      let shown : Bytes := if path = Bytes.ofText "-" then "standard input" else path
      let title : List Bytes := [gap, "==> ", shown, " <==\n"]
      put name title.flatten
    act stream

/-- What a call of `head` or `tail` asks for: bytes or lines, and how many. -/
def extentOf (sign : Char) (name : Bytes) (options : Options)
    (act : Bool → Extent → Activity Nat) : Activity Nat :=
  match options.given.reverse.find? fun (option, _) => option = 'c' || option = 'n' with
  | none => act false (.only 10)
  | some (option, word) =>
      match extent? sign word with
      | some extent => act (option = 'c') extent
      | none =>
          let what : Bytes := if option = 'c' then "bytes" else "lines"
          refuse [name, ": invalid number of ", what, ": ", quoted word] 1

/-- Print the first bytes or lines of a stream, without reading more than is needed. -/
def printFirst (name : Bytes) (stream : Nat) (bytewise : Bool) :
    Nat → Nat → Activity (Except Errno Unit)
  | 0, _ | _ + 1, 0 => return .ok ()
  | bound + 1, left + 1 => do
      let limit := if bytewise then left + 1 else Activity.portion
      match ← Activity.read stream limit with
      | .error errno => return .error errno
      | .ok [] => return .ok ()
      | .ok bytes => do
          if bytewise then
            put name bytes
            printFirst name stream bytewise bound (left + 1 - bytes.length)
          else
            let first := (lines bytes).take (left + 1)
            put name first.flatten
            Activity.unread stream (bytes.length - first.flatten.length)
            let ended := first.countP fun line => line.getLast? = some (ascii '\n')
            printFirst name stream bytewise bound (left + 1 - ended)

def head : Tool := fun name arguments =>
  withOptions partGrammar 1 name (modernCount arguments) fun options =>
    extentOf '-' name options fun bytewise extent =>
      printParts name options fun stream => do
        match extent with
        | .only count => printFirst name stream bytewise Activity.portionLimit count
        | .allBut count => do
            match ← Activity.readAll stream with
            | .error errno => return .error errno
            | .ok bytes => do
                let parts := if bytewise then bytes.map ([·]) else lines bytes
                put name (parts.take (parts.length - count)).flatten
                return .ok ()

def tail : Tool := fun name arguments =>
  withOptions partGrammar 1 name (modernTail arguments) fun options =>
    extentOf '+' name options fun bytewise extent =>
      printParts name options fun stream => do
        match ← Activity.readAll stream with
        | .error errno => return .error errno
        | .ok bytes => do
            let parts := if bytewise then bytes.map ([·]) else lines bytes
            let dropped :=
              match extent with
              | .only count => parts.length - count
              | .allBut count => count - 1
            put name (parts.drop dropped).flatten
            return .ok ()
where
  /-- The arguments with a first one such as `+3` in the words of today. -/
  modernTail (arguments : List Bytes) : List Bytes :=
    match arguments with
    | (sign :: digits) :: rest =>
        if sign = ascii '+' && !digits.isEmpty && digits.all Numeral.isDigit then
          Bytes.ofText "-n" :: (sign :: digits) :: rest
        else modernCount arguments
    | _ => arguments

end MakeLauncher.Machine.Tool
