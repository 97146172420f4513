import MakeLauncher.Machine.Shell.Arithmetic
import MakeLauncher.Machine.Shell.Pattern

/-! The expansion of words: parameters, the output of commands and arithmetic put in their places, the
result split into words, and patterns replaced by the names of the files that they match. -/

namespace MakeLauncher.Shell

open Bytes (ascii)
open Numeral (decimal)

/-- A part of an expanded word. -/
inductive Part where
  /-- Bytes that stay together. A quoted part makes a word even if it is empty. -/
  | fixed (quoted : Bool) (bytes : Bytes)
  /-- Bytes that are split at separators. -/
  | loose (bytes : Bytes)
  | border
  /-- Here end arguments that are words of their own. Each separator in the next bytes that are split
  ends a word. -/
  | listEnd
  deriving DecidableEq, Repr

/-- Where a tilde stands for a home. -/
inductive TildePlace where
  | nowhere
  | start
  /-- At the start of a value and behind each of its colons. -/
  | value
  /-- In the value behind the first equals sign. -/
  | assignment
  deriving DecidableEq, Repr

/-- How a word is expanded. -/
structure Manner where
  /-- The word can become several words. -/
  splits : Bool
  tilde : TildePlace
  /-- The text of the word is split like the values in it. -/
  isOperand : Bool := false

namespace State

/-! ### Tildes -/

/-- The home that a name behind a tilde stands for. -/
def home? (state : State) (name : Bytes) : Option Bytes :=
  if name.isEmpty then state.value? "HOME"
  else if name = Bytes.ofText "root" then some "/root"
  else none

/-- The parts of a text that starts with a tilde or not. What stands behind the tilde up to a slash or
the end is a name; `ended` says that nothing stands behind the text. -/
def expandTilde (state : State) (ended : Bool) (bytes : Bytes) : List Part :=
  match bytes with
  | [] => []
  | first :: rest =>
      let name := rest.takeWhile (· ≠ Bytes.slash)
      let behind := rest.drop name.length
      let home? :=
        if first = ascii '~' && (ended || !behind.isEmpty) then state.home? name else none
      match home? with
      | some home => [.fixed true home, .fixed false behind]
      | none => [.fixed false bytes]

/-- The parts of a text in which tildes stand for homes. `first` says that nothing stands in front of
the text, and `ended` that nothing stands behind it. -/
def expandTildes (state : State) (place : TildePlace) (first ended : Bool) (bytes : Bytes) :
    List Part :=
  match place with
  | .nowhere => [.fixed false bytes]
  | .start => if first then state.expandTilde ended bytes else [.fixed false bytes]
  | .value => values first bytes
  | .assignment =>
      let name := bytes.takeWhile (· ≠ ascii '=')
      match bytes.drop name.length with
      | equals :: value => .fixed false (name ++ [equals]) :: values true value
      | [] => [.fixed false bytes]
where
  /-- The parts of values between colons. -/
  values (first : Bool) (bytes : Bytes) : List Part :=
    let pieces := bytes.splitOn Bytes.colon
    let expand (index : Nat) (piece : Bytes) : List Part :=
      let isLast := index + 1 = pieces.length
      let parts :=
        if first || 0 < index then state.expandTilde (ended || !isLast) piece
        else [.fixed false piece]
      if isLast then parts else parts ++ [.fixed false [Bytes.colon]]
    (pieces.mapIdx expand).flatten

/-! ### Parameters -/

/-- The byte that separates arguments which are to be words of their own. -/
def border : UInt8 := 0

/-- What stands between arguments that are put together. -/
def argumentSeparator (state : State) (splits quoted each : Bool) : Bytes :=
  if quoted && splits && each then [border]
  else
    match state.value? "IFS" with
    | none => [ascii ' ']
    | some separators => if splits && !quoted then [border] else separators.take 1

/-- The letters of the options that are on, in the order in which the shell tells them. -/
def shownOptions (state : State) : Bytes :=
  (['u', 'b', 'a', 'C', 'E', 'V', 'v', 'x', 's', 'n', 'm', 'i', 'I', 'f', 'e'].filter state.has).map
    ascii

/-- What a parameter stands for, if it is set. -/
def parameter? (state : State) (splits quoted : Bool) : Parameter → Option Bytes
  | .variable name => state.value? name
  | .argument 0 => some state.name
  | .argument (n + 1) => state.arguments[n]?
  | .arguments => some ((state.argumentSeparator splits quoted true).intercalate state.arguments)
  | .joined => some ((state.argumentSeparator splits quoted false).intercalate state.arguments)
  | .count => some (decimal state.arguments.length)
  | .status => some (decimal state.status)
  | .process => some (decimal state.mainNumber)
  | .background => state.lastJob?.map fun (number : Nat) => decimal number
  | .options => some state.shownOptions

end State

def Parameter.text : Parameter → Bytes
  | .variable name => name
  | .argument n => decimal n
  | .arguments => "@"
  | .joined => "*"
  | .count => "#"
  | .status => "?"
  | .process => "$"
  | .background => "!"
  | .options => "-"

/-- The parts of a value. Arguments that are quoted one by one are words of their own. -/
def Part.ofValue (quoted : Bool) (parameter : Parameter) (arguments : Nat) (bytes : Bytes) :
    List Part :=
  if !quoted then [.loose bytes]
  else if parameter = .arguments && 0 < arguments then
    let words := (bytes.splitOn State.border).map fun word => [Part.fixed true word]
    [Part.border].intercalate words ++ [.listEnd]
  else if bytes.isEmpty then []
  else [.fixed true bytes]

/-- The bytes of parts that are one word whatever they hold. -/
def Part.join (parts : List Part) : Bytes :=
  parts.flatMap fun part =>
    match part with
    | .fixed _ bytes | .loose bytes => bytes
    | .border => [ascii ' ']
    | .listEnd => []

/-- The marks of parts that are one word whatever they hold. -/
def Part.marks (parts : List Part) : List Mark :=
  parts.flatMap fun part =>
    match part with
    | .fixed quoted bytes => Mark.ofBytes quoted bytes
    | .loose bytes => Mark.ofBytes false bytes
    | .border => Mark.ofBytes false [ascii ' ']
    | .listEnd => []

/-- The complaint about a parameter that is not set. -/
def refuseUnset {α : Type} (parameter : Parameter) (why : Bytes) : Session α :=
  Session.fail [parameter.text, ": ", why]

/-- The parts of a word. Scripts whose output is a part of it are run by `output`, from the lines on
which they begin. -/
def expand (output : Nat → Bytes → Session Bytes) (manner : Manner) (first : Bool) :
    Word → Session (List Part)
  | .nil => return []
  | .text true bytes rest => do
      return .fixed true bytes :: (← expand output manner false rest)
  | .text false bytes rest => do
      let state ← get
      let parts := state.expandTildes manner.tilde first (rest = .nil) bytes
      let loosen : Part → Part
        | .fixed false bytes => if manner.isOperand then .loose bytes else .fixed false bytes
        | part => part
      return parts.map loosen ++ (← expand output manner false rest)
  | .command quoted line script rest => do
      let bytes ← output line script
      let part := if quoted then Part.fixed true bytes else .loose bytes
      return part :: (← expand output manner false rest)
  | .arithmetic quoted expression rest => do
      let text := Part.join (← expand output ⟨false, .nowhere, false⟩ false expression)
      let bytes := decimal (← Expression.value text)
      let part := if quoted then Part.fixed true bytes else .loose bytes
      return part :: (← expand output manner false rest)
  | .parameter quoted p action operand rest => do
      let state ← get
      let value? := state.parameter? manner.splits quoted p
      let isUnset (emptyIsUnset : Bool) : Bool :=
        value?.isNone || (emptyIsUnset && value? = some [])
      let parts (bytes : Bytes) : List Part :=
        if manner.splits then Part.ofValue quoted p state.arguments.length bytes
        else [if quoted then .fixed true bytes else .loose bytes]
      let checked : Session Bytes :=
        match value? with
        | some bytes => return bytes
        | none => if state.has 'u' then refuseUnset p "parameter not set" else return []
      let own ←
        match action with
        | .unknown => Session.fail ["Bad substitution"]
        | .value => do
            let bytes ← checked
            pure (if value?.isSome then parts bytes else [])
        | .length => do pure (parts (decimal (← checked).length))
        | .default emptyIsUnset =>
            if isUnset emptyIsUnset then
              expand output { manner with isOperand := true, tilde := .start } true operand
            else pure (parts (value?.getD []))
        | .alternative emptyIsUnset =>
            if isUnset emptyIsUnset then pure []
            else expand output { manner with isOperand := true, tilde := .start } true operand
        | .assign emptyIsUnset =>
            if isUnset emptyIsUnset then do
              let bytes := Part.join (← expand output ⟨false, .start, true⟩ true operand)
              Session.assignTo p.text bytes false
              pure (parts bytes)
            else pure (parts (value?.getD []))
        | .require emptyIsUnset =>
            if isUnset emptyIsUnset then
              if operand = .nil then
                refuseUnset p
                  (if emptyIsUnset then "parameter not set or null" else "parameter not set")
              else do
                refuseUnset p (Part.join (← expand output ⟨false, .start, true⟩ true operand))
            else pure (parts (value?.getD []))
        | .trim atEnd longest => do
            let bytes ← checked
            if value?.isNone then pure []
            else
              let pattern :=
                Pattern.ofMarks (Part.marks (← expand output ⟨false, .start, false⟩ true operand))
              let cut := if atEnd then pattern.cutEnd else pattern.cutStart
              pure (parts (cut longest bytes))
      return own ++ (← expand output manner false rest)

/-! ### Splitting -/

/-- Words on the way to be split. -/
structure Splitting where
  /-- The words that are complete, last one first. -/
  finished : List (List Mark) := []
  /-- The marks of the word that is not complete, last one first. -/
  current : List Mark := []
  /-- There is a word even if it has no marks. -/
  present : Bool := false
  /-- Each separator in the next bytes ends a word. -/
  isStrict : Bool := false

namespace Splitting

def close (splitting : Splitting) : Splitting :=
  { finished := splitting.current.reverse :: splitting.finished }

/-- The splitting after bytes that are split at separators. `behind` says that a separator has just
ended a word, and then whether all since were white space: further white space belongs to it, and so
does one other separator. -/
def addLoose (separators : Bytes) (splitting : Splitting) (behind : Option Bool) :
    Bytes → Splitting
  | [] => splitting
  | b :: rest =>
      let isWhite := b = State.border || b = ascii ' ' || b = ascii '\t' || b = ascii '\n'
      let separates := b = State.border || separators.contains b
      if !separates then
        addLoose separators { splitting with current := ⟨b, false⟩ :: splitting.current } none rest
      else if behind.isSome && isWhite then addLoose separators splitting behind rest
      else if behind = some true then addLoose separators splitting (some false) rest
      else if splitting.current.isEmpty && !splitting.present && isWhite then
        addLoose separators splitting none rest
      else addLoose separators splitting.close (some isWhite) rest

/-- The splitting after bytes in which each separator ends a word. -/
def addStrict (separators : Bytes) (splitting : Splitting) (bytes : Bytes) : Splitting :=
  bytes.foldl (fun splitting b =>
    if b = State.border || separators.contains b then splitting.close
    else { splitting with current := ⟨b, false⟩ :: splitting.current }) splitting

/-- The splitting after one more part. -/
def add (separators : Bytes) (splitting : Splitting) : Part → Splitting
  | .fixed quoted bytes =>
      { splitting with
        current := (Mark.ofBytes quoted bytes).reverse ++ splitting.current
        present := splitting.present || quoted }
  | .loose bytes =>
      if splitting.isStrict then
        { splitting.addStrict separators bytes with isStrict := false }
      else splitting.addLoose separators none bytes
  | .border => { splitting.close with present := true }
  | .listEnd => { splitting with isStrict := true }

def words (separators : Bytes) (parts : List Part) : List (List Mark) :=
  let splitting := parts.foldl (add separators) {}
  let splitting :=
    if splitting.current.isEmpty && !splitting.present then splitting else splitting.close
  splitting.finished.reverse

end Splitting

/-! ### File names -/

/-- The bytes of marks, without the backslashes that quote a byte. -/
def Mark.literal : List Mark → Bytes
  | [] => []
  | mark :: rest =>
      if Pattern.isSign '\\' mark then
        match rest with
        | next :: rest => next.byte :: Mark.literal rest
        | [] => [mark.byte]
      else mark.byte :: Mark.literal rest

/-- The names in the directory at a path that a pattern matches. Names with a dot in front are matched
only if the pattern has it too. -/
def matchingNames (world : Machine.World) (path : Bytes) (pattern : List Mark) : List Bytes :=
  let dot := ascii '.'
  let startsWithDot := (Mark.literal pattern).head? = some dot
  match world.place (if path.isEmpty then Bytes.here else path) with
  | .error _ => []
  | .ok place =>
      if !world.tree.isDirectory place then []
      else
        ([Bytes.here, Bytes.above] ++ world.tree.names place).filter fun name =>
          (startsWithDot || name.head? ≠ some dot) && (Pattern.ofMarks pattern).accepts name

/-- The paths that the names of a path match, behind a path that is known. -/
def matchingPaths (world : Machine.World) : Bytes → List (List Mark) → List Bytes
  | path, [] => if (world.findLink path).toOption.isSome then [path] else []
  | path, name :: rest =>
      let slash : Bytes := if rest.isEmpty then [] else [Bytes.slash]
      if Pattern.isWritten name then
        (matchingNames world path name).flatMap fun found =>
          matchingPaths world (path ++ found ++ slash) rest
      else matchingPaths world (path ++ Mark.literal name ++ slash) rest

/-- The words that a word stands for when it is a pattern of file names: the names of the files, or
the word itself if there are none. -/
def expandNames (state : State) (word : List Mark) : List Bytes :=
  let self := [word.map (·.byte)]
  if state.has 'f' || !Pattern.isWritten word then self
  else
    let names := splitNames word
    let found := matchingPaths state.world [] names
    if found.isEmpty then self else found.mergeSort fun a b => decide (a ≤ b)
where
  /-- The names of a path. -/
  splitNames (word : List Mark) : List (List Mark) := word.splitOnP fun mark => mark.byte = Bytes.slash

def expandWords (output : Nat → Bytes → Session Bytes) : List Word → Session (List Bytes)
  | [] => return []
  | word :: rest => do
      let parts ← expand output ⟨true, .start, false⟩ true word
      let state ← get
      let words := (Splitting.words state.separators parts).flatMap (expandNames state)
      return words ++ (← expandWords output rest)

/-- The bytes that a word becomes where it cannot be split. -/
def expandOne (output : Nat → Bytes → Session Bytes) (tilde : TildePlace) (word : Word) :
    Session Bytes := do
  return Part.join (← expand output ⟨false, tilde, false⟩ true word)

def expandPattern (output : Nat → Bytes → Session Bytes) (word : Word) : Session Pattern := do
  return Pattern.ofMarks (Part.marks (← expand output ⟨false, .start, false⟩ true word))

end MakeLauncher.Shell
