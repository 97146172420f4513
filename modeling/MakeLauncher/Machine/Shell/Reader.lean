import MakeLauncher.Machine.Shell.Source

/-! The reading of a script, one list of commands at a time. A number that is larger than what is left
of the script bounds each recursion. -/

namespace MakeLauncher.Shell

open Bytes (ascii)
open Numeral (isDigit ofDigits)

/-- What closes a part of a word and may be missing where the script ends. -/
inductive Absence where
  | quote
  | brace
  | parentheses
  deriving DecidableEq, Repr

/-- Give up at the end. In a text that lines of the script hold, quotes are quotes only inside braces:
there it is the brace that is missed, and only behind the text. -/
def Absence.refuse {α : Type} (absence : Absence) : Reader α := do
  let source ← get
  let text :=
    match absence, source.linesBehind? with
    | .parentheses, _ => "Missing '))'"
    | .quote, none => "Unterminated quoted string"
    | _, _ => "Missing '\x7d'"
  throw ⟨source.line + source.linesBehind?.getD 0, "Syntax error: " ++ text⟩

/-- Where a word stands, which says what ends it and what is special in it. -/
inductive Mode where
  | plain
  /-- Between double quotes. -/
  | quoted
  /-- Inside the braces of a parameter, which may stand between double quotes; a pattern is read as if
  it did not. -/
  | braced (inQuotes isPattern : Bool)
  /-- Inside so many parentheses of an arithmetic expression. -/
  | arithmetic (depth : Nat)
  /-- In a text that the lines of the script hold. -/
  | document
  /-- The line that ends such a text, which has no expansions. -/
  | delimiter
  deriving DecidableEq

namespace Mode

/-- Whether pieces of the word and the expansions in it are quoted as they stand. -/
def isQuoted : Mode → Bool
  | .plain | .delimiter => false
  | .quoted | .document | .arithmetic _ => true
  | .braced inQuotes isPattern => inQuotes && !isPattern

def endsAt : Mode → UInt8 → Bool
  | .plain, b | .delimiter, b =>
      isBlank b || (['\n', ';', '&', '|', '(', ')', '<', '>'].map ascii).contains b
  | .quoted, b => b = ascii '"'
  | .braced _ _, b => b = ascii '\x7d'
  | .arithmetic _, _ | .document, _ => false

/-- What is missing where a script ends in the word. -/
def unfinished : Mode → Option Absence
  | .plain | .document | .delimiter => none
  | .quoted | .braced true false => some .quote
  | .braced _ _ => some .brace
  | .arithmetic _ => some .parentheses

/-- The bytes that a backslash takes the meaning from. -/
def escapes : Mode → UInt8 → Bool
  | .plain, _ | .delimiter, _ => true
  | .quoted, b => (['$', '"', '\\'].map ascii).contains b || b = backquote
  | .braced inQuotes isPattern, b =>
      !inQuotes || isPattern || (['$', '"', '\\', '\x7d'].map ascii).contains b || b = backquote
  | .arithmetic _, b => (['$', '"', '\\'].map ascii).contains b || b = backquote
  | .document, b => (['$', '\\'].map ascii).contains b || b = backquote

/-- Whether quotes are quotes in the word. -/
def hasQuotes : Mode → Char → Bool
  | .plain, _ | .delimiter, _ => true
  | .quoted, _ | .document, _ | .arithmetic _, _ => false
  | .braced inQuotes isPattern, c => c = '"' || !inQuotes || isPattern

/-- Whether expansions are done in the word. -/
def expands : Mode → Bool
  | .delimiter => false
  | _ => true

/-- Whether a byte stands for itself in the word. -/
def isOrdinary (mode : Mode) (b : UInt8) : Bool :=
  !(mode.endsAt b || b = ascii '\\' || (mode.expands && (b = ascii '$' || b = backquote)) ||
    (b = ascii '\'' && mode.hasQuotes '\'') || (b = ascii '"' && mode.hasQuotes '"') ||
    (match mode with
      | .arithmetic _ => b = ascii '(' || b = ascii ')'
      | _ => false))

end Mode

/-- A place where a lexeme can stand. -/
inductive Place where
  | word
  /-- Where the name of a simple command is still to come. -/
  | first
  /-- At the start of a command. -/
  | command
  /-- At the start of a command, with new lines in front of it. -/
  | commandLine
  /-- At the start of an option of a choice, with new lines in front of it. -/
  | option
  deriving DecidableEq

namespace Place

/-- New lines are passed over. -/
def hasNewlines (place : Place) : Bool := place = .commandLine || place = .option

/-- Reserved words have their meaning. -/
def hasReserved (place : Place) : Bool := place ≠ .word && place ≠ .first

/-- Aliases stand for their texts. -/
def hasAliases (place : Place) : Bool := place ≠ .word && place ≠ .option

/-- The place where the text of an alias begins that stands at a place. -/
def beginsAlias (place : Place) : Place := if place = .word then .first else place

end Place

/-- The parameter that a single byte names. -/
def Parameter.ofByte? (b : UInt8) : Option Parameter :=
  if b = ascii '@' then some .arguments
  else if b = ascii '*' then some .joined
  else if b = ascii '#' then some .count
  else if b = ascii '?' then some .status
  else if b = ascii '$' then some .process
  else if b = ascii '!' then some .background
  else if b = ascii '-' then some .options
  else if isDigit b then some (.argument (ofDigits [b]))
  else none

/-- The parameter that a name or a number names. -/
def Parameter.ofName (name : Bytes) : Parameter :=
  if name.all isDigit then .argument (ofDigits name) else .variable name.shown

/-- The action that a byte names. A closing brace names one only behind a colon. -/
def Action.ofByte (emptyIsUnset : Bool) (b : UInt8) : Action :=
  if b = ascii '-' then .default emptyIsUnset
  else if b = ascii '=' then .assign emptyIsUnset
  else if b = ascii '+' then .alternative emptyIsUnset
  else if b = ascii '?' then .require emptyIsUnset
  else if emptyIsUnset && b = ascii '\x7d' then .value
  else .unknown

namespace Reader

/-- Reads the bytes between backquotes, without the backslashes that are for the backquotes. -/
def readBackquoted (inQuotes : Bool) : Nat → Reader Bytes
  | 0 => refuse "EOF in backquote substitution"
  | bound + 1 => do
      match ← take with
      | none => refuse "EOF in backquote substitution"
      | some b =>
          if b = backquote then return []
          else if b = ascii '\\' then
            match ← take with
            | none => refuse "EOF in backquote substitution"
            | some next =>
                let taken := next = ascii '\\' || next = ascii '$' || next = backquote ||
                  (inQuotes && next = ascii '"')
                let rest ← readBackquoted inQuotes bound
                return if taken then next :: rest else b :: next :: rest
          else return b :: (← readBackquoted inQuotes bound)

/-- The lines up to one that is the delimiter, and the bytes behind that. A line that a backslash
joins to the one in front is no delimiter. -/
def splitDocument (awaited : AwaitedDocument) : Nat → Bool → Bytes → Bytes × Bytes
  | 0, _, bytes => (bytes, [])
  | bound + 1, joined, bytes =>
      if bytes.isEmpty then ([], [])
      else
        let bytes :=
          if awaited.stripped && !joined then bytes.dropWhile (· = ascii '\t') else bytes
        let line := bytes.takeWhile (· ≠ ascii '\n')
        let rest := bytes.drop (line.length + 1)
        if line = awaited.delimiter && !joined then ([], rest)
        else
          let backslashes := line.reverse.takeWhile (· = ascii '\\')
          let joins := !awaited.quoted && backslashes.length % 2 = 1
          let (more, behind) := splitDocument awaited bound joins rest
          (bytes.take (line.length + 1) ++ more, behind)

def skipInLine : Reader Unit := modify fun source => { source with rest := source.rest.tail }

/-- Reads the action that the byte behind a parameter in braces names. The byte belongs to the action
even if it names none, and then it is in no line. -/
def readAction : Reader Action := do
  match ← peek with
  | none => return .unknown
  | some b =>
      if b = ascii '#' || b = ascii '%' then
        skip 1
        return .trim (b = ascii '%') (← accept b)
      else
        let emptyIsUnset ← accept (ascii ':')
        match ← peek with
        | none => return .unknown
        | some b =>
            skipInLine
            return .ofByte emptyIsUnset b

def readName : Reader (Option Parameter) := do
  match ← peek with
  | none => return none
  | some b =>
      if startsName b then
        return some (.ofName (← takeRun continuesName ((← length) + 1)))
      else if isDigit b then
        return some (.ofName (← takeRun isDigit ((← length) + 1)))
      else
        match Parameter.ofByte? b with
        | some parameter =>
            skip 1
            return some parameter
        | none => return none

/-- Reads a parameter in braces and what is done with it, up to the word behind that. -/
def readBraced : Reader (Parameter × Action) := do
  let close := ascii '\x7d'
  if ← accept (ascii '#') then
    match ← peek with
    | none => return (.count, .unknown)
    | some b =>
        if b = close then return (.count, .value)
        else if startsName b || isDigit b then
          let parameter ← readName
          return (parameter.getD .count, if (← peek) = some close then .length else .unknown)
        else
          let source ← get
          match Parameter.ofByte? b, source.rest[1]? with
          | some parameter, some next =>
              if next = close then
                skip 1
                return (parameter, .length)
              else return (.count, ← readAction)
          | _, _ => return (.count, ← readAction)
  else
    match ← readName with
    | none =>
        if (← peek) ≠ some close then skipInLine
        return (.count, .unknown)
    | some parameter =>
        if (← peek) = some close then return (parameter, .value)
        else return (parameter, ← readAction)

mutual

/-- Reads a word up to the byte that ends it. Where the word is plain, that byte is left in place. -/
def readWord : Nat → Mode → Reader Word
  | 0, _ => refuse "script too long"
  | bound + 1, mode => do
      match ← peek with
      | none =>
          match mode.unfinished with
          | none => return .nil
          | some absence => absence.refuse
      | some b =>
          if mode.endsAt b then
            if mode ≠ .plain && mode ≠ .delimiter then skip 1
            return .nil
          else if b = ascii '\\' then readEscaped bound mode
          else if b = ascii '\'' && mode.hasQuotes '\'' then
            skip 1
            let inside := (← get).rest.takeWhile (· ≠ ascii '\'')
            skip inside.length
            if (← get).rest.isEmpty then Absence.quote.refuse
            else
              skip 1
              return .text true inside (← readWord bound mode)
          else if b = ascii '"' && mode.hasQuotes '"' then
            skip 1
            let inside ← readWord bound .quoted
            let rest ← readWord bound mode
            let each : Word := .parameter true .arguments .value .nil .nil
            return if inside = each then inside.append rest else .text true [] (inside.append rest)
          else if b = backquote && mode.expands then
            skip 1
            let script ← readBackquoted mode.isQuoted ((← length) + 1)
            checkScript bound script
            return .command mode.isQuoted 1 script (← readWord bound mode)
          else if b = ascii '$' && mode.expands then
            skip 1
            readDollar bound mode
          else
            match mode with
            | .arithmetic depth =>
                if b = ascii '(' then
                  skip 1
                  return .text true [b] (← readWord bound (.arithmetic (depth + 1)))
                else if b = ascii ')' then
                  skip 1
                  match depth with
                  | 0 =>
                      if ← accept (ascii ')') then return .nil
                      else return .text true [b] (← readWord bound mode)
                  | depth + 1 => return .text true [b] (← readWord bound (.arithmetic depth))
                else
                  let run ← takeRun mode.isOrdinary ((← length) + 1)
                  return .text true run (← readWord bound mode)
            | _ =>
                let run ← takeRun mode.isOrdinary ((← length) + 1)
                return .text mode.isQuoted run (← readWord bound mode)

/-- Reads a word from a backslash on. -/
def readEscaped : Nat → Mode → Reader Word
  | 0, _ => refuse "script too long"
  | bound + 1, mode => do
      skip 1
      match (← get).rest with
      | [] => return .text true [ascii '\\'] (← readWord bound mode)
      | next :: _ =>
          skip 1
          if mode.escapes next then return .text true [next] (← readWord bound mode)
          else return .text true [ascii '\\', next] (← readWord bound mode)

/-- Reads a word from behind a dollar sign on. -/
def readDollar : Nat → Mode → Reader Word
  | 0, _ => refuse "script too long"
  | bound + 1, mode => do
      let quoted := mode.isQuoted
      match ← peek with
      | none => return .text mode.isQuoted [ascii '$'] (← readWord bound mode)
      | some b =>
          if b = ascii '\x7b' then
            skip 1
            let (parameter, action) ← readBraced
            let isPattern := match action with | .trim _ _ => true | _ => false
            let operand ← readWord bound (.braced quoted isPattern)
            return .parameter quoted parameter action operand (← readWord bound mode)
          else if b = ascii '(' then
            skip 1
            if ← accept (ascii '(') then
              let expression ← readWord bound (.arithmetic 0)
              return .arithmetic quoted expression (← readWord bound mode)
            else
              let start ← get
              set { start with awaited := [], documents := #[], linesBehind? := none }
              let (_, lexeme) ← readList bound false true
              if lexeme ≠ .closeParen then expected lexeme .closeParen
              else
                let finish ← get
                let length := start.rest.length - finish.rest.length - 1
                set { finish with
                  returned := start.returned
                  awaited := start.awaited
                  documents := start.documents
                  linesBehind? := start.linesBehind? }
                return .command quoted start.line (start.rest.take length) (← readWord bound mode)
          else if startsName b then
            let name ← takeRun continuesName ((← length) + 1)
            return .parameter quoted (.ofName name) .value .nil (← readWord bound mode)
          else
            match Parameter.ofByte? b with
            | some parameter =>
                skip 1
                return .parameter quoted parameter .value .nil (← readWord bound mode)
            | none => return .text mode.isQuoted [ascii '$'] (← readWord bound mode)

/-- Refuses a script between backquotes that cannot be read. -/
def checkScript : Nat → Bytes → Reader Unit
  | 0, _ => refuse "script too long"
  | bound + 1, script => do
      let outer ← get
      set ({ rest := script, aliases := outer.aliases } : Source)
      let _ ← readList bound false true
      set outer

/-- Reads the texts that are awaited, which begin on the current line. -/
def readDocuments : Nat → List AwaitedDocument → Reader Unit
  | 0, _ => refuse "script too long"
  | _ + 1, [] => modify fun source => { source with awaited := [] }
  | bound + 1, awaited :: more => do
      let source ← get
      let (text, behind) := splitDocument awaited (source.rest.length + 1) false source.rest
      let line := source.line +
        (source.rest.take (source.rest.length - behind.length)).count (ascii '\n')
      let word ←
        if awaited.quoted then pure (Word.text true text .nil)
        else do
          let inside := text.count (ascii '\n')
          let linesBehind? := some (line - source.line - inside)
          let { aliases, .. } := source
          set ({ rest := text, line := source.line, linesBehind?, aliases } : Source)
          readWord bound .document
      set { source with rest := behind, line := line, documents := source.documents.push word }
      readDocuments bound more

/-- Reads the next lexeme. At the end of a line the texts that are awaited follow. -/
def readLexeme : Nat → Reader Lexeme
  | 0 => refuse "script too long"
  | bound + 1 => do
      match (← get).returned with
      | some lexeme =>
          modify fun source => { source with returned := none }
          return lexeme
      | none =>
          match ← peek with
          | none => return .endOfFile
          | some b =>
              if isBlank b then
                skipBlank
                readLexeme bound
              else if b = ascii '#' then
                skip ((← get).rest.takeWhile (· ≠ ascii '\n')).length
                readLexeme bound
              else if b = ascii '\n' then
                skip 1
                readDocuments bound (← get).awaited
                return .newline
              else if b = ascii '&' then
                skip 1
                return if ← accept b then .both else .ampersand
              else if b = ascii '|' then
                skip 1
                return if ← accept b then .either else .pipe
              else if b = ascii ';' then
                skip 1
                return if ← accept b then .doubleSemicolon else .semicolon
              else if b = ascii '(' then
                skip 1
                return .openParen
              else if b = ascii ')' then
                skip 1
                return .closeParen
              else
                let next := ((← get).rest.tail).head?
                let isSign (b : UInt8) : Bool := b = ascii '<' || b = ascii '>'
                if isSign b then readRedirection bound none
                else if isDigit b && next.any isSign then
                  skip 1
                  readRedirection bound (some (ofDigits [b]))
                else return .word (← readWord bound .plain)

def readRedirection : Nat → Option Nat → Reader Lexeme
  | 0, _ => refuse "script too long"
  | _ + 1, descriptor => do
      if ← accept (ascii '>') then
        let redirect (kind : RedirectionKind) : Lexeme := .redirection (descriptor.getD 1) kind
        if ← accept (ascii '>') then return redirect .append
        else if ← accept (ascii '|') then return redirect .clobber
        else if ← accept (ascii '&') then return redirect .duplicate
        else return redirect .output
      else
        skip 1
        let redirect (kind : RedirectionKind) : Lexeme := .redirection (descriptor.getD 0) kind
        if ← accept (ascii '<') then
          return .document (descriptor.getD 0) (← accept (ascii '-'))
        else if ← accept (ascii '&') then return redirect .duplicate
        else if ← accept (ascii '>') then return redirect .readWrite
        else return redirect .input

/-- Reads the next lexeme, which stands at a place of that sort. -/
def next : Nat → Place → Reader Lexeme
  | 0, _ => refuse "script too long"
  | bound + 1, place => do
      let lexeme ← readLexeme bound
      let { followsBlank, .. } ← get
      modify fun source => { source with followsBlank := false }
      if place.hasNewlines && lexeme = .newline then next bound place
      else
        match if place.hasReserved then lexeme.reserve else lexeme with
        | .word word =>
            match if place.hasAliases || followsBlank then word.plain? else none with
            | some name =>
                if ← expandAlias name then next bound place.beginsAlias else return .word word
            | none => return .word word
        | lexeme => return lexeme

/-- Reads commands. At the `top` they end with their line; inside another command they go on over
lines, and may be none if `empty` says so. The lexeme behind them is the second result. -/
def readList : Nat → Bool → Bool → Reader (Command × Lexeme)
  | 0, _, _ => refuse "script too long"
  | bound + 1, top, empty => do
      let lexeme ← next bound (if top then .command else .commandLine)
      if lexeme = .newline || lexeme = .endOfFile then return (.nothing, lexeme)
      else if !top && empty && lexeme.endsList then return (.nothing, lexeme)
      else
        giveBack lexeme
        let command ← readChain bound
        let lexeme ← next bound .word
        let (command, lexeme) ←
          match lexeme with
          | .ampersand => pure (Command.background command, lexeme)
          | .newline | .semicolon | .endOfFile => pure (command, lexeme)
          | other => if top then unexpected other else pure (command, other)
        match lexeme with
        | .newline =>
            if top then return (command, lexeme)
            else readMore bound top command
        | .ampersand | .semicolon => readMore bound top command
        | other => return (command, other)

def readMore : Nat → Bool → Command → Reader (Command × Lexeme)
  | 0, _, _ => refuse "script too long"
  | bound + 1, top, command => do
      let (more, lexeme) ← readList bound top true
      return (if more = .nothing then command else .sequence command more, lexeme)

/-- Reads commands that depend on how the ones before them end. -/
def readChain : Nat → Reader Command
  | 0 => refuse "script too long"
  | bound + 1 => do
      let first ← readPipeline bound
      readChainTail bound first

/-- Reads what depends on how a command ends. -/
def readChainTail : Nat → Command → Reader Command
  | 0, _ => refuse "script too long"
  | bound + 1, first => do
      match ← next bound .word with
      | .both =>
          giveBack (← next bound .commandLine)
          readChainTail bound (.both first (← readPipeline bound))
      | .either =>
          giveBack (← next bound .commandLine)
          readChainTail bound (.either first (← readPipeline bound))
      | other =>
          giveBack other
          return first

/-- Reads commands whose output is the input of the next, which may be negated. -/
def readPipeline : Nat → Reader Command
  | 0 => refuse "script too long"
  | bound + 1 => do
      let lexeme ← next bound .word
      if lexeme = .reserved "!" then
        giveBack (← next bound .command)
        let command ← readCommand bound (← get).line
        return .negated (← readPipes bound command)
      else
        giveBack lexeme
        let command ← readCommand bound (← get).line
        readPipes bound command

/-- Reads the commands that a command is followed by in a pipeline. -/
def readPipes : Nat → Command → Reader Command
  | 0, _ => refuse "script too long"
  | bound + 1, first => do
      match ← next bound .word with
      | .pipe =>
          let line := (← get).line
          giveBack (← next bound .commandLine)
          let second ← readCommand bound line
          return .pipe first (← readPipes bound second)
      | other =>
          giveBack other
          return first

def readCommand : Nat → Nat → Reader Command
  | 0, _ => refuse "script too long"
  | bound + 1, line => do
      match ← next bound .word with
      | .reserved "if" =>
          let command ← readBranch bound
          readRedirected bound line command
      | .reserved "while" =>
          let command ← readLoop bound false
          readRedirected bound line command
      | .reserved "until" =>
          let command ← readLoop bound true
          readRedirected bound line command
      | .reserved "for" =>
          let command ← readEach bound line
          readRedirected bound line command
      | .reserved "case" =>
          match ← next bound .word with
          | .word subject =>
              let lexeme ← next bound .commandLine
              if lexeme ≠ .reserved "in" then expected lexeme (.reserved "in")
              else
                let options ← readOptions bound
                readRedirected bound line (.choice line subject options)
          | lexeme => expected lexeme (.word .nil)
      | .reserved "\x7b" =>
          let (command, lexeme) ← readList bound false false
          if lexeme ≠ .reserved "\x7d" then expected lexeme (.reserved "\x7d")
          else readRedirected bound line command
      | .openParen =>
          let (command, lexeme) ← readList bound false false
          if lexeme ≠ .closeParen then expected lexeme .closeParen
          else
            let redirections ← readRedirections bound []
            return .subshell line command redirections
      | .word word =>
          giveBack (.word word)
          readSimple bound (← get).line [] [] []
      | .redirection descriptor kind =>
          giveBack (.redirection descriptor kind)
          readSimple bound (← get).line [] [] []
      | .document descriptor stripped =>
          giveBack (.document descriptor stripped)
          readSimple bound (← get).line [] [] []
      | lexeme => unexpected lexeme

/-- Reads the redirections behind a command. -/
def readRedirected : Nat → Nat → Command → Reader Command
  | 0, _, _ => refuse "script too long"
  | bound + 1, line, command => do
      let redirections ← readRedirections bound []
      return if redirections.isEmpty then command else .redirected line command redirections

def readRedirections : Nat → List Redirection → Reader (List Redirection)
  | 0, _ => refuse "script too long"
  | bound + 1, earlier => do
      match ← next bound .command with
      | .redirection descriptor kind =>
          let redirection ← readTarget bound descriptor kind
          readRedirections bound (earlier ++ [redirection])
      | .document descriptor stripped =>
          let redirection ← readDelimiter bound descriptor stripped
          readRedirections bound (earlier ++ [redirection])
      | other =>
          giveBack other
          return earlier

def readTarget : Nat → Nat → RedirectionKind → Reader Redirection
  | 0, _, _ => refuse "script too long"
  | bound + 1, descriptor, kind => do
      match ← next bound .word with
      | .word target => return ⟨descriptor, kind, target⟩
      | lexeme => unexpected lexeme

/-- Reads the delimiter of a text, which is awaited from then on. -/
def readDelimiter : Nat → Nat → Bool → Reader Redirection
  | 0, _, _ => refuse "script too long"
  | bound + 1, descriptor, stripped => do
      match ← readDelimiterWord bound with
      | .word word =>
          let source ← get
          let awaited : AwaitedDocument := ⟨word.bare, word.hasQuotes, stripped⟩
          let number := source.documents.size + source.awaited.length
          set { source with awaited := source.awaited ++ [awaited] }
          return ⟨descriptor, .document number, .nil⟩
      | lexeme => unexpected lexeme

/-- Reads the lexeme that stands where a delimiter must. -/
def readDelimiterWord : Nat → Reader Lexeme
  | 0 => refuse "script too long"
  | bound + 1 => do
      let _ ← takeRun isBlank ((← length) + 1)
      match ← peek with
      | none => next bound .word
      | some b =>
          if Mode.delimiter.endsAt b || b = ascii '#' then next bound .word
          else return .word (← readWord bound .delimiter)

/-- Reads the words and redirections of a simple command, or the definition of a function. -/
def readSimple : Nat → Nat → List (Bytes × Word) → List Word → List Redirection → Reader Command
  | 0, _, _, _, _ => refuse "script too long"
  | bound + 1, line, assignments, words, redirections => do
      match ← next bound (if words.isEmpty then .first else .word) with
      | .word word =>
          match words, word.assignment? with
          | [], some assignment =>
              readSimple bound line (assignments ++ [assignment]) words redirections
          | _, _ => readSimple bound line assignments (words ++ [word]) redirections
      | .redirection descriptor kind =>
          let redirection ← readTarget bound descriptor kind
          readSimple bound line assignments words (redirections ++ [redirection])
      | .document descriptor stripped =>
          let redirection ← readDelimiter bound descriptor stripped
          readSimple bound line assignments words (redirections ++ [redirection])
      | .openParen =>
          match words with
          | [word] =>
              if assignments.isEmpty && redirections.isEmpty then
                let lexeme ← next bound .word
                if lexeme ≠ .closeParen then expected lexeme .closeParen
                else readFunction bound word
              else
                giveBack .openParen
                return .simple line assignments words redirections
          | _ =>
              giveBack .openParen
              return .simple line assignments words redirections
      | other =>
          giveBack other
          return .simple line assignments words redirections

def readFunction : Nat → Word → Reader Command
  | 0, _ => refuse "script too long"
  | bound + 1, word => do
      let name := word.bare
      if word.plain?.isNone || !isName name || specialBuiltins.contains name.shown then
        refuse "Bad function name"
      else
        giveBack (← next bound .commandLine)
        return .function name (← readCommand bound (← get).line)

def readBranch : Nat → Reader Command
  | 0 => refuse "script too long"
  | bound + 1 => do
      let (condition, lexeme) ← readList bound false false
      if lexeme ≠ .reserved "then" then expected lexeme (.reserved "then")
      else
        let (yes, lexeme) ← readList bound false false
        match lexeme with
        | .reserved "elif" => return .branch condition yes (← readBranch bound)
        | .reserved "else" =>
            let (no, lexeme) ← readList bound false false
            if lexeme ≠ .reserved "fi" then expected lexeme (.reserved "fi")
            else return .branch condition yes no
        | .reserved "fi" => return .branch condition yes .nothing
        | other => expected other (.reserved "fi")

/-- Reads the commands between `do` and `done`. -/
def readBody : Nat → Reader Command
  | 0 => refuse "script too long"
  | bound + 1 => do
      let (body, lexeme) ← readList bound false false
      if lexeme ≠ .reserved "done" then expected lexeme (.reserved "done") else return body

def readLoop : Nat → Bool → Reader Command
  | 0, _ => refuse "script too long"
  | bound + 1, stop => do
      let (condition, lexeme) ← readList bound false false
      if lexeme ≠ .reserved "do" then expected lexeme (.reserved "do")
      else return .loop stop condition (← readBody bound)

/-- Reads a loop over words behind its first word. -/
def readEach : Nat → Nat → Reader Command
  | 0, _ => refuse "script too long"
  | bound + 1, line => do
      match ← next bound .word with
      | .word word =>
          if word.plain?.isNone || !isName word.bare then refuse "Bad for loop variable"
          else
            let words ← readEachWords bound
            let lexeme ← next bound .commandLine
            if lexeme ≠ .reserved "do" then expected lexeme (.reserved "do")
            else return .each line word.bare words (← readBody bound)
      | _ => refuse "Bad for loop variable"

/-- Reads the words that a loop goes over, which are the arguments if there are none. -/
def readEachWords : Nat → Reader (List Word)
  | 0 => refuse "script too long"
  | bound + 1 => do
      match ← next bound .commandLine with
      | .reserved "in" =>
          let (words, lexeme) ← readWords bound
          if lexeme = .newline || lexeme = .semicolon then return words
          else unexpected lexeme
      | lexeme =>
          if lexeme ≠ .semicolon then giveBack lexeme
          return [.parameter true .arguments .value .nil .nil]

def readWords : Nat → Reader (List Word × Lexeme)
  | 0 => refuse "script too long"
  | bound + 1 => do
      match ← next bound .word with
      | .word word =>
          let (words, lexeme) ← readWords bound
          return (word :: words, lexeme)
      | other => return ([], other)

def readOptions : Nat → Reader Command
  | 0 => refuse "script too long"
  | bound + 1 => do
      let lexeme ← next bound .option
      if lexeme = .reserved "esac" then return .nothing
      else
        let lexeme ← if lexeme = .openParen then next bound .word else pure lexeme
        let (patterns, lexeme) ← readPatterns bound lexeme
        if lexeme ≠ .closeParen then expected lexeme .closeParen
        else
          let (body, lexeme) ← readList bound false true
          match lexeme with
          | .reserved "esac" => return .option patterns body .nothing
          | .doubleSemicolon => return .option patterns body (← readOptions bound)
          | other => expected other .doubleSemicolon

/-- Reads the patterns of an option, the first of which is a lexeme that is known. -/
def readPatterns : Nat → Lexeme → Reader (List Word × Lexeme)
  | 0, _ => refuse "script too long"
  | bound + 1, lexeme => do
      let pattern : Word :=
        match lexeme with
        | .word word => word
        | .reserved name => .text false (Bytes.ofText name) .nil
        | _ => .nil
      match ← next bound .word with
      | .pipe =>
          let lexeme ← next bound .word
          let (patterns, lexeme) ← readPatterns bound lexeme
          return (pattern :: patterns, lexeme)
      | other => return ([pattern], other)

end

end Reader

/-- What is read of a script at a time: a list of commands up to the end of a line. -/
inductive Portion where
  /-- A command and the script behind it; `ended` says that the script ended with the command. -/
  | command (command : Command) (source : Source) (ended : Bool)
  | finished
  | complaint (complaint : Complaint)

namespace Source

/-- A number that no reading of the script needs more steps than. Aliases make it longer. -/
def bound (source : Source) : Nat :=
  let aliasLength := (source.aliases.flatMap (·.2)).length
  (20 * source.rest.length + 100) * ((aliasLength + 1) * (aliasLength + 1))

def nextPortion (source : Source) : Portion :=
  match Reader.readList source.bound true false source with
  | .error complaint => .complaint complaint
  | .ok ((command, lexeme), source) =>
      let ended := lexeme = .endOfFile
      if command = .nothing && ended then .finished else .command command source ended

/-- A line that is put behind what has been read of a script, to see whether that is enough. -/
def probe : Bytes := "x\n"

/-- Reads the next list of commands of a script that may go on behind its bytes, unless that takes more
than these. -/
def earlyPortion? (source : Source) : Option Portion :=
  match { source with rest := source.rest ++ probe }.nextPortion with
  | .command command after _ =>
      if probe.length ≤ after.rest.length then
        let rest := after.rest.take (after.rest.length - probe.length)
        some (.command command { after with rest } false)
      else none
  | _ => none

def wholeCommand (source : Source) : Except Complaint (Command × Array Word) :=
  match Reader.readList source.bound false true source with
  | .error complaint => .error complaint
  | .ok ((command, _), source) => .ok (command, source.documents)

end Source
end MakeLauncher.Shell
