import MakeLauncher.Machine.Tool.Names

/-! The utility `make` as far as a machine has it: it reads its arguments, goes to its directory and
looks for its makefiles and goals. It knows no rules, so that it makes nothing. -/

namespace MakeLauncher.Machine.Tool

open Bytes (ascii)

structure MakeRun where
  /-- The directories to go to, one after the other. -/
  directories : List Bytes := []
  makefiles : List Bytes := []
  goals : List Bytes := []
  /-- A goal that fails does not keep it from the others. -/
  keepsGoing : Bool := false
  /-- It says which directory it works in, or does not. Otherwise it does so if it goes to one. -/
  tellsDirectory? : Option Bool := none
  /-- The output of each step is kept together. -/
  syncs : Bool := false

namespace MakeRun

def grammar : Options.Grammar where
  letters := "bBC:def:hiI:jklmno:OpqrRsStvwW:DE:xNT"
  long := [("always-make", 'B'), ("directory", 'C'), ("debug", 'D'), ("environment-overrides", 'e'),
    ("eval", 'E'), ("file", 'f'), ("makefile", 'f'), ("help", 'h'), ("ignore-errors", 'i'),
    ("include-dir", 'I'), ("jobs", 'D'), ("keep-going", 'k'), ("load-average", 'D'),
    ("max-load", 'D'), ("dry-run", 'n'), ("just-print", 'n'), ("recon", 'n'), ("old-file", 'o'),
    ("assume-old", 'o'), ("output-sync", 'D'), ("print-data-base", 'p'), ("question", 'q'),
    ("no-builtin-rules", 'r'), ("no-builtin-variables", 'R'), ("silent", 's'), ("quiet", 's'),
    ("no-keep-going", 'S'), ("stop", 'S'), ("touch", 't'), ("trace", 'T'), ("version", 'v'),
    ("print-directory", 'w'), ("no-print-directory", 'N'), ("what-if", 'W'), ("new-file", 'W'),
    ("assume-new", 'W'), ("warn-undefined-variables", 'x')]

/-- An argument sets a variable: it has an equals sign behind a name, with a colon, a plus sign, a
question mark or an exclamation mark in front of it or nothing. -/
def isSetting (word : Bytes) : Bool :=
  let isBlank (b : UInt8) : Bool := b = ascii ' ' || b = ascii '\t'
  let signs := [':', '+', '?', '!', '='].map ascii
  let word := word.dropWhile isBlank
  let name : Bytes := word.takeWhile fun b => !isBlank b && !signs.contains b
  let behind := (word.drop name.length).dropWhile isBlank
  ["=", ":=", "::=", "+=", "?=", "!="].any fun (sign : String) =>
    (Bytes.ofText sign).isPrefixOf behind

/-- The arguments without the values that may stand right behind the letters `j`, `l` and `O`. The first
two take a number from the next argument too. -/
def withoutCounts : List Bytes → List Bytes
  | [] => []
  | word :: rest =>
      let isNumber (word : Bytes) : Bool := !word.isEmpty && word.all Numeral.isDigit
      let letter := word.take 2
      let counts := letter = Bytes.ofText "-j" || letter = Bytes.ofText "-l"
      if word = Bytes.ofText "--" then word :: rest
      else if letter = Bytes.ofText "-O" || (counts && isNumber (word.drop 2)) then
        letter :: withoutCounts rest
      else if counts && word.length = 2 && rest.head?.any isNumber then
        word :: withoutCounts rest.tail
      else word :: withoutCounts rest
termination_by words => words.length

/-- The run that options ask for. -/
def ofOptions (options : Options) : MakeRun :=
  let values (letter : Char) : List Bytes := (options.given.filter (·.1 = letter)).map (·.2)
  let telling := options.given.filterMap fun (letter, _) =>
    if letter = 'w' then some true else if letter = 'N' then some false else none
  { directories := values 'C'
    makefiles := values 'f'
    goals := options.operands.filter fun word => word ≠ Bytes.ofText "-" && !isSetting word
    keepsGoing := options.has 'k'
    tellsDirectory? := if options.has 's' then some false else telling.getLast?
    syncs := options.has 'O' }

def stop (name : Bytes) (parts : List Bytes) : Activity Nat :=
  let start : List Bytes := [name, ": *** "]
  refuse (start ++ parts ++ [Bytes.ofText ".  Stop."]) 2

/-- Go to directories, one after the other, until one cannot be gone to. -/
def enter (name : Bytes) : List Bytes → Activity (Option Nat)
  | [] => return none
  | directory :: rest => do
      let world ← get
      match world.place directory with
      | .error errno => return some (← stop name [directory, ": ", errno.text])
      | .ok place =>
          if !world.tree.isDirectory place then
            return some (← stop name [directory, ": ", Errno.notDirectory.text])
          else do
            modify (·.updateSelf ({ · with directory := place }))
            enter name rest

end MakeRun

/-- The names that a makefile has if no other is given. -/
def usualMakefiles : List Bytes := ["GNUmakefile", "makefile", "Makefile"]

/-- Looks for its makefiles and goals. -/
def make : Tool := fun called arguments => do
  let name := lastName called
  match MakeRun.grammar.readFrom arguments.length (MakeRun.withoutCounts arguments) with
  | .error complaint => refuse (name :: ": " :: complaint) 2
  | .ok options =>
      let run := MakeRun.ofOptions options
      if options.operands.contains [] then
        MakeRun.stop name ["empty string invalid as file name"]
      else
        match ← MakeRun.enter name run.directories with
        | some code => return code
        | none => do
            let world ← get
            let directory := (world.tree.pathOf? world.self.directory).getD []
            let tells := run.tellsDirectory?.getD !run.directories.isEmpty
            let tell (verb : Bytes) : Activity Unit :=
              if tells then put name ([name, ": ", verb, " directory '", directory, "'\n"] :
                List Bytes).flatten
              else return
            let around (isOwn : Bool) (act : Activity Nat) : Activity Nat := do
              if isOwn then tell "Entering"
              let code ← act
              if isOwn then tell "Leaving"
              return code
            let missing := run.makefiles.filter fun path => (world.find path).toOption.isNone
            around (!run.syncs) do
              for path in missing do
                let _ ← around run.syncs (refuse [name, ": ", path, ": ", Errno.noEntry.text] 2)
              match missing.getLast?, run.makefiles ++ usualMakefiles, run.goals with
              | some path, _, _ =>
                  around run.syncs (MakeRun.stop name ["No rule to make target '", path, "'"])
              | none, _, [] =>
                  around run.syncs
                    (MakeRun.stop name ["No targets specified and no makefile found"])
              | none, _, goals => do
                  for goal in goals do
                    if (world.find goal).toOption.isSome then
                      put name ([name, ": Nothing to be done for '", goal, "'.\n"] :
                        List Bytes).flatten
                    else
                      return ← around run.syncs
                        (MakeRun.stop name ["No rule to make target '", goal, "'"])
                  return 0

end MakeLauncher.Machine.Tool
