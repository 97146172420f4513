import MakeLauncher.Machine.ByteKind
import MakeLauncher.Machine.Format
import MakeLauncher.Machine.Tool.Print

/-! The utilities that read a whole text and print another one: `wc`, `cmp`, `tr`, `cut`, `sort`, `uniq`,
`paste`, `nl`, `rev` and `fold`. -/

namespace MakeLauncher.Machine.Tool

open Bytes (ascii)
open Numeral (decimal)

/-- What is done with the text of all files. -/
def withText (name : Bytes) (files : List Bytes) (act : Bytes → Bytes) : Activity Nat := do
  let (bytes, code) ← readFiles name shownName files
  put name (act bytes)
  return code

/-! ### Counting -/

def longestLine (bytes : Bytes) : Nat :=
  (bareLines bytes).foldl (fun longest line => max longest line.length) 0

def wc : Tool := fun name arguments =>
  let grammar : Options.Grammar :=
    { letters := "clmLw"
      long := [("bytes", 'c'), ("chars", 'm'), ("lines", 'l'), ("max-line-length", 'L'),
        ("words", 'w')] }
  withOptions grammar 1 name arguments fun options => do
    let files := options.operands
    let asks (letter : Char) : Bool :=
      if options.given.isEmpty then ['l', 'w', 'c'].contains letter else options.has letter
    let counts (bytes : Bytes) : List Nat :=
      let words := (bytes.splitOnP Numeral.isSpace).filter (· ≠ [])
      [('l', bytes.count (ascii '\n')), ('w', words.length), ('m', bytes.length),
        ('c', bytes.length), ('L', longestLine bytes)].filterMap
          fun (letter, n) => if asks letter then some n else none
    let mut rows : List (List Nat × Bytes) := []
    let mut size := 0
    let mut code := 0
    for path in if files.isEmpty then [Bytes.ofText "-"] else files do
      match ← readFile path with
      | .ok bytes =>
          rows := rows ++ [(counts bytes, path)]
          size := size + bytes.length
      | .error errno => code ← refuse [name, ": ", shownName path, ": ", errno.text] 1
    let total := rows.foldl (fun total row => List.zipWith (· + ·) total row.1) (counts [])
    if 1 < files.length then rows := rows ++ [(total, Bytes.ofText "total")]
    let width :=
      if (counts []).length = 1 && files.length ≤ 1 then 1
      else if files.isEmpty then 7 else (decimal size).length
    let shown (row : List Nat × Bytes) : Bytes :=
      let padded := row.1.map fun (n : Nat) =>
        List.replicate (width - (decimal n).length) (ascii ' ') ++ decimal n
      let named : List Bytes := if files.isEmpty then [] else [row.2]
      [ascii ' '].intercalate (padded ++ named) ++ [ascii '\n']
    put name (rows.flatMap shown)
    return code

def cmp : Tool := fun name arguments => do
  let grammar : Options.Grammar :=
    { letters := "slb", long := [("silent", 's'), ("quiet", 's'), ("verbose", 'l')] }
  let hinted (complaint : List Bytes) : Activity Nat :=
    refuse ([name, Bytes.ofText ": "] ++ complaint ++ [Bytes.ofText "\n" ++ name, ": ", hint name]) 2
  match grammar.readFrom arguments.length arguments with
  | .error complaint => hinted complaint
  | .ok options => do
      match options.operands with
      | [] => hinted ["missing operand after '", name, "'"]
      | first :: others => do
          let second : Bytes := others.headD "-"
          let say (parts : List Bytes) : Activity Nat := do
            if !options.has 's' then complain ([name, Bytes.ofText ": "] ++ parts)
            return 1
          match ← readFile first, ← readFile second with
          | .error errno, _ => return (← say [first, ": ", errno.text]) + 1
          | _, .error errno => return (← say [second, ": ", errno.text]) + 1
          | .ok one, .ok other => do
              let same := ((one.zip other).takeWhile fun (a, b) => a = b).length
              let lines := (one.take same).count (ascii '\n')
              let place : List Bytes := ["char ", decimal (same + 1), ", line ", decimal (lines + 1)]
              if same = one.length && same = other.length then return 0
              else if same < one.length && same < other.length then
                if !options.has 's' then
                  put name (first ++ [ascii ' '] ++ second ++ Bytes.ofText " differ: " ++ place.flatten ++
                    [ascii '\n'])
                return 1
              else
                let shorter := if same = one.length then first else second
                let ended := (one.take same).getLast? = some (ascii '\n')
                let line := decimal (if ended then lines else lines + 1)
                if same = 0 then say ["EOF on ", shorter, " which is empty"]
                else say ["EOF on ", shorter, " after byte ", decimal same,
                  if ended then ", line " else ", in line ", line]

/-! ### Single bytes -/

def byteRange (low high : UInt8) : Bytes :=
  (List.range' low.toNat (high.toNat + 1 - low.toNat)).map UInt8.ofNat

/-- The bytes that a set of `tr` names: ranges, classes and escapes are written out. -/
def byteSet : Nat → Bytes → Bytes
  | 0, _ => []
  | _ + 1, [] => []
  | bound + 1, first :: rest =>
      let named (name : String) (kind : ByteKind) : Option (Bytes × Bytes) :=
        let text := Bytes.ofText ("[:" ++ name ++ ":]")
        if text.isPrefixOf (first :: rest) then some (kind.bytes, (first :: rest).drop text.length)
        else none
      match ByteKind.all.findSome? fun (name, kind) => named name kind with
      | some (bytes, rest) => bytes ++ byteSet bound rest
      | none =>
          let unescape (first : UInt8) (rest : Bytes) : UInt8 × Bytes :=
            if first = ascii '\\' then
              match Format.readEscape false rest with
              | (b :: _, after) => (b, if after.length < rest.length then after else rest.tail)
              | ([], after) => (first, after)
            else (first, rest)
          let (low, rest) := unescape first rest
          match rest with
          | dash :: high :: after =>
              if dash = ascii '-' then
                let (high, after) := unescape high after
                byteRange low high ++ byteSet bound after
              else low :: byteSet bound rest
          | _ => low :: byteSet bound rest

/-- Bytes without those that repeat the one before them, as far as they are in a set. -/
def squeeze (set : Bytes) : Bytes → Bytes
  | first :: second :: rest =>
      if first = second && set.contains first then squeeze set (second :: rest)
      else first :: squeeze set (second :: rest)
  | bytes => bytes

/-- Replaces, deletes or squeezes bytes of the standard input. -/
def tr : Tool := fun name arguments =>
  let grammar : Options.Grammar :=
    { letters := "cCdst"
      long := [("complement", 'c'), ("delete", 'd'), ("squeeze-repeats", 's'),
        ("truncate-set1", 't')]
      anywhere := false }
  withOptions grammar 1 name arguments fun options => do
    let isComplement := options.has 'c' || options.has 'C'
    let deletes := options.has 'd'
    let squeezes := options.has 's'
    let sets := options.operands.map fun text => byteSet (text.length + 1) text
    let first := sets.headD []
    let second := (sets[1]?).getD []
    let needed := if deletes = squeezes then 2 else 1
    let last := options.operands.getLast?.getD []
    if sets.isEmpty then refuseFew name "operand"
    else if sets.length < needed then
      let why : Bytes :=
        if deletes then "Two strings must be given when both deleting and squeezing repeats."
        else "Two strings must be given when translating."
      refuseUse name ["missing operand after ", quoted last, "\n", why] 1
    else if 2 < sets.length || (sets.length = 2 && deletes && !squeezes) then
      let why : Bytes :=
        if 2 < sets.length then [] else
          "\nOnly one string may be given when deleting without squeezing repeats."
      refuseUse name ["extra operand ", quoted (options.operands[needed]?.getD last), why] 1
    else
      let inFirst (b : UInt8) : Bool := first.contains b != isComplement
      match ← Activity.readAll 0 with
      | .error errno => refuse [name, ": read error: ", errno.text] 1
      | .ok bytes => do
          let replace (b : UInt8) : UInt8 :=
            if !inFirst b then b
            else if isComplement then second.getLast?.getD b
            else
              match second[(first.length - 1 - first.reverse.idxOf b)]? with
              | some new => new
              | none => if options.has 't' then b else second.getLast?.getD b
          let bytes :=
            if deletes then bytes.filter (!inFirst ·)
            else if second.isEmpty then bytes else bytes.map replace
          let squeezed :=
            if second.isEmpty then allBytes.filter inFirst else second
          print name (if squeezes then squeeze squeezed bytes else bytes)

/-! ### Columns -/

/-- A number is chosen by a list of numbers and ranges. -/
def isChosen (list : Bytes) (n : Nat) : Bool :=
  (list.splitOn (ascii ',')).any fun range =>
    let low := range.takeWhile (· ≠ ascii '-')
    let number (bytes : Bytes) (other : Nat) : Nat :=
      ((Numeral.readDigits? 10 bytes).map (·.1)).getD other
    match range.drop low.length with
    | [] => number low 0 = n
    | _ :: high => number low 1 ≤ n && n ≤ number high n

/-- The fields or bytes of each line that a list of numbers and ranges names. -/
def cut : Tool := fun name arguments =>
  let grammar : Options.Grammar :=
    { letters := "b:c:d:f:nsO:i"
      long := [("bytes", 'b'), ("characters", 'c'), ("delimiter", 'd'), ("fields", 'f'),
        ("only-delimited", 's'), ("output-delimiter", 'O'), ("complement", 'i')] }
  withOptions grammar 1 name arguments fun options => do
    let pick {α : Type} (list : Bytes) (items : List α) : List α :=
      items.zipIdx.filterMap fun (item, index) =>
        if isChosen list (index + 1) != options.has 'i' then some item else none
    let delimiter := (options.value? 'd').getD [9]
    let between := (options.value? 'O').getD delimiter
    let line (bytes : Bytes) : Option Bytes :=
      match options.value? 'f' with
      | some list =>
          let fields := bytes.splitOn (delimiter.headD 9)
          if fields.length = 1 then if options.has 's' then none else some bytes
          else some (between.intercalate (pick list fields))
      | none =>
          some (pick (((options.value? 'c').orElse fun _ => options.value? 'b').getD []) bytes)
    if !(options.has 'f' || options.has 'c' || options.has 'b') then
      refuseUse name ["you must specify a list of bytes, characters, or fields"] 1
    else withText name options.operands fun bytes => unlines ((bareLines bytes).filterMap line)

/-- Puts the lines of files side by side, or with an option those of each file in a line. -/
def paste : Tool := fun name arguments =>
  withOptions { letters := "d:s", long := [("delimiters", 'd'), ("serial", 's')] } 1 name arguments
      fun options => do
    let files : List Bytes := if options.operands.isEmpty then ["-"] else options.operands
    let mut texts : List (List Bytes) := []
    let mut code := 0
    for path in files do
      match ← readFile path with
      | .ok bytes => texts := texts ++ [bareLines bytes]
      | .error errno => code ← refuse [name, ": ", shownName path, ": ", errno.text] 1
    let delimiters := ((options.value? 'd').map fun text => byteSet (text.length + 1) text).getD [9]
    let join (fields : List Bytes) : Bytes :=
      (fields.zipIdx.map fun (field, index) =>
        if index + 1 = fields.length then field
        else field ++ (delimiters[index % delimiters.length]?).toList).flatten
    let rows := texts.foldl (fun rows lines => max rows lines.length) 0
    let lines :=
      if options.has 's' then texts.map join
      else (List.range rows).map fun row => join (texts.map fun lines => lines[row]?.getD [])
    put name (unlines lines)
    return code

/-- Numbers the lines that are not empty, or all of them. -/
def nl : Tool := fun name arguments =>
  withOptions { letters := "b:w:s:n:v:i:" } 1 name arguments fun options =>
    withText name options.operands fun bytes =>
      let isAll := options.value? 'b' = some (Bytes.ofText "a")
      let separator := (options.value? 's').getD [9]
      let width := ((options.value? 'w') >>= count?).getD 6
      let gap := List.replicate (width + separator.length) (ascii ' ')
      let number (n : Nat) : Bytes :=
        List.replicate (width - (decimal n).length) (ascii ' ') ++ decimal n ++ separator
      let (shown, _) := (bareLines bytes).foldl (fun (shown, n) line =>
        if isAll || !line.isEmpty then (shown ++ [number n ++ line], n + 1)
        else (shown ++ [gap ++ line], n)) (([] : List Bytes), (1 : Nat))
      unlines shown

def rev : Tool := fun name arguments =>
  withOptions { letters := "" } 1 name arguments fun options =>
    withText name options.operands fun bytes =>
      (lines bytes).flatMap fun line =>
        if line.getLast? = some (ascii '\n') then line.dropLast.reverse ++ [ascii '\n']
        else line.reverse

/-- Breaks lines that are too long. -/
def fold : Tool := fun name arguments =>
  withOptions { letters := "w:sb", long := [("width", 'w')] } 1 name (modern arguments) fun options =>
    let width := max 1 (((options.value? 'w') >>= count?).getD 80)
    withText name options.operands fun bytes =>
      (lines bytes).flatMap fun line =>
        let ended := line.getLast? = some (ascii '\n')
        let text := if ended then line.dropLast else line
        [ascii '\n'].intercalate (pieces width text.length text) ++
          if ended then [ascii '\n'] else []
where
  /-- The arguments with a first one such as `-20` in the words of today. -/
  modern (arguments : List Bytes) : List Bytes :=
    match arguments with
    | (dash :: digits) :: rest =>
        if dash = ascii '-' && !digits.isEmpty && digits.all Numeral.isDigit then
          Bytes.ofText "-w" :: digits :: rest
        else arguments
    | _ => arguments
  /-- The pieces of a text that are no longer than the width. -/
  pieces (width : Nat) : Nat → Bytes → List Bytes
    | bound + 1, text =>
        if text.length ≤ width then [text]
        else text.take width :: pieces width bound (text.drop width)
    | 0, text => [text]

/-! ### Order -/

/-- The field of a line from one number to another, where fields are divided by a separator or begin
with white space. -/
def keyOf (separator? : Option UInt8) (key line : Bytes) : Bytes :=
  let first := key.takeWhile (· ≠ ascii ',')
  let number (bytes : Bytes) (other : Nat) : Nat :=
    ((Numeral.readDigits? 10 bytes).map (·.1)).getD other
  let low := number first 1
  let high? := (key.drop first.length).tail?.map fun last => number last 0
  let fields : List Bytes :=
    match separator? with
    | some separator => line.splitOn separator
    | none => blankFields line.length line
  let chosen := fields.drop (low - 1)
  let chosen :=
    match high? with
    | some high => chosen.take (high + 1 - low)
    | none => chosen
  (separator?.toList).intercalate chosen
where
  /-- The fields of a line that each begin with the white space in front of them. -/
  blankFields : Nat → Bytes → List Bytes
    | _, [] => []
    | 0, line => [line]
    | bound + 1, line =>
        let isBlank (b : UInt8) : Bool := b = 32 || b = 9
        let blank := line.takeWhile isBlank
        let word := (line.drop blank.length).takeWhile (!isBlank ·)
        (blank ++ word) :: blankFields bound (line.drop (blank.length + word.length))

def sort : Tool := fun name arguments =>
  let grammar : Options.Grammar :=
    { letters := "nrufbdisk:t:o:cVhM"
      long := [("numeric-sort", 'n'), ("reverse", 'r'), ("unique", 'u'), ("ignore-case", 'f'),
        ("key", 'k'), ("field-separator", 't'), ("output", 'o'), ("check", 'c'), ("stable", 's')] }
  withOptions grammar 2 name arguments fun options => do
    let blame (path : Bytes) : Bytes := "cannot read: " ++ shownName path
    let (input, code) ← readFiles name blame options.operands
    let key? := options.value? 'k'
    let isNumeric := options.has 'n' || key?.any (·.contains (ascii 'n'))
    let isReverse := options.has 'r' || key?.any (·.contains (ascii 'r'))
    let separator? := (options.value? 't').bind (·.head?)
    let upper (bytes : Bytes) : Bytes :=
      if options.has 'f' then bytes.map fun b => if 97 ≤ b && b ≤ 122 then b - 32 else b else bytes
    let trimmed (bytes : Bytes) : Bytes :=
      if options.has 'b' then bytes.dropWhile (fun b => b = 32 || b = 9) else bytes
    let keyed (line : Bytes) : Bytes :=
      trimmed (upper (match key? with
        | some key => keyOf separator? key line
        | none => line))
    let number (line : Bytes) : Int := ((Numeral.read? true line).map (·.1)).getD 0
    let compare (a b : Bytes) : Ordering :=
      let order :=
        if isNumeric then Ord.compare (number (keyed a)) (number (keyed b))
        else if keyed a < keyed b then .lt else if keyed b < keyed a then .gt else .eq
      if isReverse then order.swap else order
    let last (a b : Bytes) : Ordering :=
      let order := if a < b then Ordering.lt else if b < a then .gt else .eq
      if options.has 'r' then order.swap else order
    let precedes (a b : Bytes) : Bool :=
      match compare a b with
      | .lt => true
      | .gt => false
      | .eq => options.has 's' || options.has 'u' || last a b ≠ .gt
    let all := bareLines input
    if options.has 'c' then
      match (all.zip all.tail).zipIdx.find? fun ((a, b), _) => compare a b = .gt with
      | some ((_, b), index) =>
          let file : Bytes := options.operands.headD "-"
          refuse [name, ": ", file, ":", decimal (index + 2), ": disorder: ", b] 1
      | none => return 0
    else
      let sorted := all.mergeSort precedes
      let sorted := if options.has 'u' then dropEqual compare sorted else sorted
      match options.value? 'o' with
      | none => put name (unlines sorted)
      | some path =>
          match ← Activity.openToWrite path false true with
          | .error errno => do
              complain [name, ": open failed: ", shownName path, ": ", errno.text]
              Activity.exit (WaitStatus.ofExit 2)
          | .ok stream => do
              let _ ← Activity.write stream (unlines sorted)
      return if code = 0 then 0 else 2
where
  /-- The lines without those that are equal to the one before. -/
  dropEqual (compare : Bytes → Bytes → Ordering) : List Bytes → List Bytes
    | first :: second :: rest =>
        if compare first second = .eq then
          dropEqual compare (first :: rest)
        else first :: dropEqual compare (second :: rest)
    | lines => lines
  termination_by lines => lines.length

/-- Prints lines that follow one another and are equal once. -/
def uniq : Tool := fun name arguments =>
  let grammar : Options.Grammar :=
    { letters := "cdui", long := [("count", 'c'), ("repeated", 'd'), ("unique", 'u'),
        ("ignore-case", 'i')] }
  withOptions grammar 1 name arguments fun options =>
    withText name (options.operands.take 1) fun bytes =>
      let lower (bytes : Bytes) : Bytes :=
        if options.has 'i' then bytes.map fun b => if 65 ≤ b && b ≤ 90 then b + 32 else b else bytes
      let groups := (bareLines bytes).splitBy fun a b => lower a = lower b
      let kept := groups.filter fun group =>
        (!options.has 'd' || 1 < group.length) && (!options.has 'u' || group.length = 1)
      unlines (kept.map fun group =>
        let counted : Bytes :=
          if options.has 'c' then
            let digits := decimal group.length
            List.replicate (7 - digits.length) (ascii ' ') ++ digits ++ [ascii ' ']
          else []
        counted ++ group.headD [])

end MakeLauncher.Machine.Tool
