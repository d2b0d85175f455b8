import FuzzCampaign.Shell.Printing
set_option autoImplicit false

/-! # Programs on text

Programs of the system that read text and write text. A program is an action on the words it is given; it
reads files or, without any, its standard input. -/

namespace FuzzCampaign.Shell

/-! ## What programs share -/

/-- Write a message of a program. -/
def note (program : String) (text : Str) : Sh Unit := Sh.putError (program.toList ++ ": ".toList ++ text ++ ['\n'])

/-- Options and other words. Options whose letters are given take a value, in the same word or the next
one. Long options keep their names. -/
def splitOptions (valued : List Char) : List Str → List (Str × Str) × List Str
  | [] => ([], [])
  | ['-', '-'] :: rest => ([], rest)
  | ('-' :: '-' :: c :: more) :: rest =>
    let (options, words) := splitOptions valued rest
    let text := c :: more
    let name := text.takeWhile (· != '=')
    ((name, text.drop (name.length + 1)) :: options, words)
  | ('-' :: c :: more) :: rest => short valued (c :: more) rest
  | w :: rest =>
    let (options, words) := splitOptions valued rest
    (options, w :: words)
where
  /-- The options that letters stand for. -/
  short (valued : List Char) : Str → List Str → List (Str × Str) × List Str
    | [], rest => splitOptions valued rest
    | c :: more, rest =>
      if valued.contains c then
        if more.isEmpty then
          match rest with
          | value :: rest =>
            let (options, words) := splitOptions valued rest
            (([c], value) :: options, words)
          | [] => ([([c], [])], [])
        else
          let (options, words) := splitOptions valued rest
          (([c], more) :: options, words)
      else
        let (options, words) := short valued more rest
        (([c], []) :: options, words)

/-- Whether an option is given by a letter or a name. -/
def hasOption (options : List (Str × Str)) (names : List String) : Bool :=
  options.any fun (n, _) => names.any fun m => m.toList == n

/-- The value of the last of some options. -/
def optionValue? (options : List (Str × Str)) (names : List String) : Option Str :=
  ((options.filter fun (n, _) => names.any fun m => m.toList == n).getLast?).map (·.2)

/-- How much of an input is wanted. -/
inductive Extent where
  | all
  | lines (count : Nat)
  | characters (count : Nat)

/-- What is still wanted after some text. -/
def Extent.after (text : Str) : Extent → Extent
  | .all => .all
  | .lines n => .lines (n - text.count '\n')
  | .characters n => .characters (n - text.length)

/-- Whether nothing is wanted any more. -/
def Extent.isOver : Extent → Bool
  | .all => false
  | .lines n => n == 0
  | .characters n => n == 0

/-- How much is read at once. -/
def Extent.block : Extent → Nat
  | .all => 65536
  | _ => 8192

/-- Read a descriptor as far as its text is wanted, or to its end; what is read last may go further. -/
def readExtent (fd : Nat) : Nat → Extent → List Str → Sh (Except Errno Str)
  | 0, _, found => return .ok found.reverse.flatten
  | fuel + 1, extent, found => do
    if extent.isOver then return .ok found.reverse.flatten
    else
      match ← Sh.ask (.read fd extent.block) with
      | .text t => readExtent fd fuel (extent.after t) (t :: found)
      | .refused why => return if found.isEmpty then .error why else .ok found.reverse.flatten
      | _ => return .ok found.reverse.flatten

/-- Read the file of a path as far as its text is wanted. -/
def readPathTo (extent : Extent) (path : Str) : Sh (Except Errno Str) := do
  let s ← Sh.getState
  match ← Sh.ask (.openFile (Files.absolute s.directory path) .read) with
  | .number fd =>
    let found ← readExtent fd Sh.manyReads extent []
    Sh.tell (.close fd)
    return found
  | .refused why => return .error why
  | _ => return .error .noEntry

/-- Read the file of a path. -/
def readPath (path : Str) : Sh (Except Errno Str) := readPathTo .all path

/-- Read files as far as their texts are wanted, or the standard input when there are none; what cannot be
read is told. -/
def readFilesTo (extent : Extent) (refusal : Str → Errno → Sh Unit) (paths : List Str) :
    Sh (List (Str × Str) × Bool) := do
  let found ← Sh.mapList (fun path => do
    let text ← if path == ['-'] then readExtent 0 Sh.manyReads extent [] else readPathTo extent path
    match text with
    | .ok text => return some (path, text)
    | .error why => refusal path why; return none) (if paths.isEmpty then [['-']] else paths)
  return (found.filterMap id, found.all Option.isSome)

/-- Read files, or the standard input when there are none; what cannot be read is told. -/
def readFiles (refusal : Str → Errno → Sh Unit) (paths : List Str) : Sh (List (Str × Str) × Bool) :=
  readFilesTo .all refusal paths

/-- The usual message about a file that cannot be read. -/
def refusedFile (program : String) (path : Str) (why : Errno) : Sh Unit :=
  note program (path ++ ": ".toList ++ why.message)

/-- The lines of a text, whether or not the last one is complete. -/
def linesOf (text : Str) : List Str :=
  let pieces := Text.splitAll '\n' text
  if pieces.getLast? == some [] then pieces.dropLast else pieces

/-- Lines as a text. -/
def unlines (lines : List Str) : Str := lines.flatMap fun l => l ++ ['\n']

/-! ## Whole texts -/

/-- Write what is read to some descriptors, as it comes. -/
def passOn (targets : List Nat) : Nat → Sh Unit
  | 0 => return ()
  | fuel + 1 => do
    match ← Sh.ask (.read 0 65536) with
    | .text t =>
      let answers ← Sh.mapList (fun fd => Sh.ask (.write fd t)) targets
      let left := (targets.zip answers).filterMap fun (fd, a) => match a with
        | .refused _ => none
        | _ => some fd
      if left.isEmpty then return () else passOn left fuel
    | _ => return ()

/-- Write files one after the other. -/
def cat (words : List Str) : Sh Nat := do
  let (options, paths) := splitOptions [] words
  if (paths.isEmpty || paths == [['-']]) && options.isEmpty then
    passOn [1] Sh.manyReads
    return 0
  else
    let (files, complete) ← readFiles (refusedFile "cat") paths
    let text := files.flatMap (·.2)
    let text := if hasOption options ["n"] then
        ((linesOf text).zipIdx.flatMap fun (l, i) =>
          let n := showNat (i + 1)
          List.replicate (6 - n.length) ' ' ++ n ++ '\t' :: l ++ ['\n'])
      else text
    Sh.write 1 text
    return if complete then 0 else 1

/-- Copy the standard input to files and to the standard output. -/
def tee (words : List Str) : Sh Nat := do
  let (options, paths) := splitOptions [] words
  let s ← Sh.getState
  let mode : OpenMode := if hasOption options ["a", "append"] then .append else .write
  let opened ← Sh.mapList (fun path => do
    match ← Sh.ask (.openFile (Files.absolute s.directory path) mode) with
    | .number fd => return some fd
    | .refused why => refusedFile "tee" path why; return none
    | _ => return none) paths
  passOn (1 :: opened.filterMap id) Sh.manyReads
  return if opened.all Option.isSome then 0 else 1

/-- Lines from the first to the last, or characters. -/
def takeFront (byChars : Bool) (count : Int) (text : Str) : Str :=
  let take {α : Type} (items : List α) : List α :=
    if count < 0 then items.take (items.length - count.natAbs) else items.take count.toNat
  if byChars then take text
  else
    let pieces := Text.splitAll '\n' text
    let lines := pieces.dropLast.map (fun l => l ++ ['\n']) ++
      (match pieces.getLast? with
      | some last => if last.isEmpty then [] else [last]
      | none => [])
    (take lines).flatten

/-- The last lines or characters; with a plus sign, those from a number on. -/
def takeBack (byChars fromStart : Bool) (count : Nat) (text : Str) : Str :=
  let take {α : Type} (items : List α) : List α :=
    if fromStart then items.drop (count - 1) else items.drop (items.length - count)
  if byChars then take text
  else
    let pieces := Text.splitAll '\n' text
    let lines := pieces.dropLast.map (fun l => l ++ ['\n']) ++
      (match pieces.getLast? with
      | some last => if last.isEmpty then [] else [last]
      | none => [])
    (take lines).flatten

/-- Words of which the first may be a number of lines. -/
def numberOption (words : List Str) : List Str :=
  match words with
  | ('-' :: c :: more) :: rest =>
    if (c :: more).all Char.isDigit then "-n".toList :: (c :: more) :: rest else words
  | _ => words

/-- Write the beginnings or the ends of files. -/
def frontOrBack (program : String) (words : List Str) : Sh Nat := do
  let (options, paths) := splitOptions ['n', 'c', 's'] (numberOption words)
  let byChars := hasOption options ["c", "bytes"]
  let value := (optionValue? options ["n", "lines", "c", "bytes"]).getD "10".toList
  match readInt? value with
  | none =>
    note program ("invalid number of ".toList ++ (if byChars then "bytes" else "lines").toList ++ ": '".toList ++
      value ++ ['\x27'])
    return 1
  | some n =>
    let refusal (path : Str) (why : Errno) : Sh Unit :=
      note program (if why = .isDirectory then "error reading '".toList ++ path ++ "': ".toList ++ why.message
        else "cannot open '".toList ++ path ++ "' for reading: ".toList ++ why.message)
    let extent : Extent := if program != "head" ∨ n < 0 then .all
      else if byChars then .characters n.toNat
      else .lines n.toNat
    let (files, complete) ← readFilesTo extent refusal paths
    let cut (text : Str) : Str :=
      if program == "head" then takeFront byChars n text
      else takeBack byChars (value.head? == some '+') n.natAbs text
    let titles := paths.length > 1 && !hasOption options ["q", "quiet", "silent"]
    let pieces := files.zipIdx.map fun ((path, text), i) =>
      if titles then (if i = 0 then [] else ['\n']) ++ "==> ".toList ++ path ++ " <==\n".toList ++ cut text
      else cut text
    Sh.write 1 pieces.flatten
    return if complete then 0 else 1

/-- The numbers of lines, words and characters. -/
def countText (text : Str) : List (String × Nat) :=
  let blanks (c : Char) : Bool := c == ' ' || ('\t' ≤ c && c ≤ '\r')
  let words := (text.foldl (fun (n, inside) c =>
    if blanks c then (n, false) else (if inside then n else n + 1, true)) ((0 : Nat), false)).1
  [("l", (text.filter (· == '\n')).length), ("w", words), ("c", text.length)]

/-- Count lines, words and characters. -/
def wc (words : List Str) : Sh Nat := do
  let (options, paths) := splitOptions [] words
  let (files, complete) ← readFiles (refusedFile "wc") paths
  let wanted (kind : String) : Bool :=
    options.isEmpty || hasOption options [kind] || (kind == "c" && hasOption options ["m", "bytes", "chars"]) ||
      (kind == "l" && hasOption options ["lines"]) || (kind == "w" && hasOption options ["words"])
  let rows := files.map fun (path, text) => (path, ((countText text).filter fun (k, _) => wanted k).map (·.2))
  let rows := if rows.length > 1 then
      rows ++ [("total".toList, rows.foldl (fun sums (_, ns) =>
        if sums.isEmpty then ns else (sums.zip ns).map fun (a, b) => a + b) [])]
    else rows
  let single := paths.length ≤ 1 && (rows.map fun (_, ns) => ns.length).all (· ≤ 1)
  let width := if single then 1
    else if paths.isEmpty then 7
    else (rows.flatMap fun (_, ns) => ns.map fun n => (showNat n).length).foldl max 1
  let lines := rows.map fun (path, ns) =>
    let numbers := ns.map fun n => List.replicate (width - (showNat n).length) ' ' ++ showNat n
    [' '].intercalate numbers ++ (if paths.isEmpty then [] else ' ' :: path)
  Sh.write 1 (unlines lines)
  return if complete then 0 else 1

/-- Write lines from the last to the first, or each of them backwards. -/
def backwards (program : String) (words : List Str) : Sh Nat := do
  let (files, complete) ← readFiles (refusedFile program) (splitOptions [] words).2
  let lines := files.flatMap fun (_, text) => linesOf text
  Sh.write 1 (unlines (if program == "tac" then lines.reverse else lines.map List.reverse))
  return if complete then 0 else 1

/-! ## Lines -/

/-- The number at the front of a line. -/
def leadingNumber (l : Str) : Int :=
  let l := l.dropWhile fun c => c == ' ' || c == '\t'
  match l with
  | '-' :: rest => -(Decimal.valueFrom 0 (rest.takeWhile Char.isDigit) : Int)
  | _ => Decimal.valueFrom 0 (l.takeWhile Char.isDigit)

/-- The part of a line by which it is sorted. -/
def sortKey (separator : Option Char) (key : Option Nat) (l : Str) : Str :=
  match key with
  | none => l
  | some n =>
    let fields := match separator with
      | some c => Text.splitAll c l
      | none => (Text.splitAll ' ' l).filter fun f => !f.isEmpty
    [' '].intercalate (fields.drop (n - 1))

/-- Sort lines. -/
def sortLines (words : List Str) : Sh Nat := do
  let (options, paths) := splitOptions ['k', 't', 'o', 'S', 'T'] words
  let refusal (path : Str) (why : Errno) : Sh Unit :=
    note "sort" ("cannot read: ".toList ++ path ++ ": ".toList ++ why.message)
  let (files, complete) ← readFiles refusal paths
  if !complete then return 2
  else
    let lines := files.flatMap fun (_, text) => linesOf text
    let separator := (optionValue? options ["t", "field-separator"]).bind List.head?
    let key := (optionValue? options ["k", "key"]).map fun k => Decimal.valueFrom 0 (k.takeWhile Char.isDigit)
    let part := sortKey separator key
    let flagged (c : Char) : Bool := hasOption options [String.singleton c] ||
      (optionValue? options ["k", "key"]).any fun k => k.contains c
    let numeric := flagged 'n'
    let le (a b : Str) : Bool :=
      let x := part a
      let y := part b
      if numeric then
        let m := leadingNumber x
        let n := leadingNumber y
        m < n || (m == n && textLe a b)
      else
        let x' := if flagged 'f' then x.map Char.toUpper else x
        let y' := if flagged 'f' then y.map Char.toUpper else y
        if x' == y' then textLe a b else textLe x' y'
    let sorted := lines.mergeSort fun a b => if flagged 'r' then le b a else le a b
    let same (a b : Str) : Bool := if numeric then leadingNumber (part a) == leadingNumber (part b) else part a == part b
    let kept := if flagged 'u' then
        (sorted.foldl (fun kept l =>
          match kept with
          | last :: _ => if same last l then kept else l :: kept
          | [] => [l]) []).reverse
      else sorted
    match optionValue? options ["o", "output"] with
    | some path =>
      let s ← Sh.getState
      match ← Sh.ask (.openFile (Files.absolute s.directory path) .write) with
      | .number fd =>
        Sh.write fd (unlines kept)
        return 0
      | _ => return 2
    | none =>
      Sh.write 1 (unlines kept)
      return 0

/-- Equal lines that follow one another, as one line and their number. -/
def groupLines (same : Str → Str → Bool) (lines : List Str) : List (Str × Nat) :=
  (lines.foldl (fun groups l =>
    match groups with
    | (first, n) :: rest => if same first l then (first, n + 1) :: rest else (l, 1) :: groups
    | [] => [(l, 1)]) []).reverse

/-- Leave out lines that are repeated. -/
def uniqueLines (words : List Str) : Sh Nat := do
  let (options, paths) := splitOptions ['f', 's', 'w'] words
  let (files, complete) ← readFiles (refusedFile "uniq") (paths.take 1)
  let fold (l : Str) : Str := if hasOption options ["i"] then l.map Char.toUpper else l
  let groups := groupLines (fun a b => fold a == fold b) (files.flatMap fun (_, text) => linesOf text)
  let groups := groups.filter fun (_, n) =>
    (!hasOption options ["d"] || 1 < n) && (!hasOption options ["u"] || n = 1)
  let shown (l : Str) (n : Nat) : Str :=
    if hasOption options ["c"] then List.replicate (7 - (showNat n).length) ' ' ++ showNat n ++ ' ' :: l else l
  Sh.write 1 (unlines (groups.map fun (l, n) => shown l n))
  return if complete then 0 else 1

/-- Ranges such as `1,3-5`. -/
def ranges (s : Str) : List (Nat × Option Nat) :=
  (Text.splitAll ',' s).map fun piece =>
    let first := piece.takeWhile Char.isDigit
    match piece.drop first.length with
    | '-' :: last =>
      (if first.isEmpty then 1 else Decimal.valueFrom 0 first,
        if last.isEmpty then none else some (Decimal.valueFrom 0 last))
    | _ => (Decimal.valueFrom 0 first, some (Decimal.valueFrom 0 first))

/-- The items whose numbers are in some ranges. -/
def pick {α : Type} (rs : List (Nat × Option Nat)) (items : List α) : List α :=
  (items.zipIdx.filter fun (_, i) => rs.any fun (lo, hi) => lo ≤ i + 1 && hi.all fun h => i + 1 ≤ h).map (·.1)

/-- Cut fields or characters out of lines. -/
def cutLines (words : List Str) : Sh Nat := do
  let (options, paths) := splitOptions ['d', 'f', 'c', 'b'] words
  let (files, complete) ← readFiles (refusedFile "cut") paths
  let delimiter := ((optionValue? options ["d", "delimiter"]).bind List.head?).getD '\t'
  let cut (l : Str) : Option Str :=
    match optionValue? options ["f", "fields"] with
    | some fields =>
      if l.contains delimiter then some ([delimiter].intercalate (pick (ranges fields) (Text.splitAll delimiter l)))
      else if hasOption options ["s", "only-delimited"] then none
      else some l
    | none => some (pick (ranges ((optionValue? options ["c", "b", "characters", "bytes"]).getD [])) l)
  Sh.write 1 (unlines ((files.flatMap fun (_, text) => linesOf text).filterMap cut))
  return if complete then 0 else 1

/-- The characters that a set of `tr` stands for. -/
def characterSet : Nat → Str → Str
  | 0, _ => []
  | fuel + 1, s =>
    match s with
    | [] => []
    | '[' :: ':' :: rest =>
      let name := rest.takeWhile (· != ':')
      let members := (classRanges name).flatMap fun (lo, hi) =>
        (List.range (hi.toNat - lo.toNat + 1)).map fun (i : Nat) => Char.ofNat (lo.toNat + i)
      members ++ characterSet fuel (rest.drop (name.length + 2))
    | '\\' :: rest =>
      let (text, size) := escapeText rest
      let text := if text.head? == some '\\' && size = 1 then (rest.take 1) else text
      text ++ characterSet fuel (rest.drop size)
    | c :: '-' :: d :: rest =>
      ((List.range (d.toNat + 1 - c.toNat)).map fun (i : Nat) => Char.ofNat (c.toNat + i)) ++ characterSet fuel rest
    | c :: rest => c :: characterSet fuel rest

/-- Leave one of equal characters of a set that follow one another. -/
def squeeze (isMember : Char → Bool) : Option Char → Str → Str
  | _, [] => []
  | last, c :: rest =>
    if isMember c && last == some c then squeeze isMember last rest else c :: squeeze isMember (some c) rest

/-- Replace, delete or squeeze characters. -/
def translate (words : List Str) : Sh Nat := do
  let (options, sets) := splitOptions [] words
  let has (c : String) : Bool := hasOption options [c]
  let set (i : Nat) : Str := characterSet ((sets.getD i []).length + 1) (sets.getD i [])
  let first := set 0
  let second := set 1
  let complement := has "c" || has "C" || has "complement"
  let inFirst (c : Char) : Bool := first.contains c != complement
  let replaced (c : Char) : Char :=
    if !inFirst c then c
    else
      let last := second.getLast?.getD c
      if complement then last
      else
        match first.findIdx? (· == c) with
        | some i => second.getD i last
        | none => c
  let deletes := has "d" || has "delete"
  let squeezes := has "s" || has "squeeze-repeats"
  let onlySqueezes := squeezes && !deletes && second.isEmpty
  let change (text : Str) : Str :=
    if deletes then text.filter fun c => !inFirst c
    else if onlySqueezes then text
    else text.map replaced
  let isSqueezed (c : Char) : Bool := squeezes && (if onlySqueezes then inFirst c else second.contains c)
  translateInput change isSqueezed none Sh.manyReads
  return 0
where
  /-- Change what is read, as it comes. -/
  translateInput (change : Str → Str) (isSqueezed : Char → Bool) (last : Option Char) : Nat → Sh Unit
    | 0 => return ()
    | fuel + 1 => do
      match ← Sh.ask (.read 0 65536) with
      | .text t =>
        let text := squeeze isSqueezed last (change t)
        if text.isEmpty then translateInput change isSqueezed last fuel
        else
          match ← Sh.ask (.write 1 text) with
          | .refused _ => return ()
          | _ => translateInput change isSqueezed text.getLast? fuel
      | _ => return ()

/-! ## Numbers -/

/-- The options of `seq` at the front of words: whether numbers are equally wide, and what separates them. -/
def sequenceOptions : Bool → Str → List Str → Bool × Str × List Str
  | wide, separator, ['-', 'w'] :: rest =>
    let (_, separator, rest) := sequenceOptions wide separator rest
    (true, separator, rest)
  | wide, _, ['-', 's'] :: s :: rest => sequenceOptions wide s rest
  | wide, separator, ['-', '-'] :: rest => (wide, separator, rest)
  | wide, _, ('-' :: 's' :: s) :: rest => sequenceOptions wide s rest
  | wide, separator, words => (wide, separator, words)

/-- Write numbers from one to another. -/
def sequence (words : List Str) : Sh Nat := do
  let (wide, separator, numbers) := sequenceOptions false ['\n'] words
  match numbers.mapM readInt? with
  | none =>
    let bad := (numbers.find? fun w => (readInt? w).isNone).getD []
    note "seq" ("invalid floating point argument: '".toList ++ bad ++ ['\x27'])
    Sh.putError "Try 'seq --help' for more information.\n".toList
    return 1
  | some given =>
    let bounds : Option (Int × Int × Int) := match given with
      | [last] => some (1, 1, last)
      | [first, last] => some (first, 1, last)
      | [first, step, last] => some (first, step, last)
      | _ => none
    match bounds with
    | none =>
      note "seq" (if given.isEmpty then "missing operand".toList
        else "extra operand '".toList ++ numbers.getD 3 [] ++ ['\x27'])
      Sh.putError "Try 'seq --help' for more information.\n".toList
      return 1
    | some (first, step, last) =>
      if step = 0 then
        note "seq" ("invalid Zero increment value: '0'".toList)
        Sh.putError "Try 'seq --help' for more information.\n".toList
        return 1
      else
        let count : Nat := if 0 < step then
            (if last < first then 0 else ((last - first) / step).toNat + 1)
          else if first < last then 0 else ((first - last) / (-step)).toNat + 1
        let items := (List.range count).map fun (i : Nat) => first + step * (i : Int)
        let width := (items.map fun n => (showInt n).length).foldl max 0
        let texts := items.map fun n =>
          if wide then paddedInt width n else showInt n
        if texts.isEmpty then return 0
        else
          Sh.write 1 (separator.intercalate texts ++ ['\n'])
          return 0

/-! ## Lines that match -/

/-- Whether a match is one of a whole word. -/
def isWholeWord (text : Array Char) (start stop : Nat) : Bool :=
  !(start ≠ 0 && Regex.inWord text (start - 1)) && !Regex.inWord text stop

/-- The matches in a line from a place on, as places where they begin and end. -/
def matchesFrom (r : Regex) (wholeWords : Bool) (text : Array Char) : Nat → Nat → List (Nat × Nat)
  | 0, _ => []
  | fuel + 1, start =>
    match r.find? text start with
    | none => []
    | some (first, p) =>
      let more := matchesFrom r wholeWords text fuel (if p.place = first then first + 1 else p.place)
      if wholeWords && !isWholeWord text first p.place then matchesFrom r wholeWords text fuel (first + 1)
      else (first, p.place) :: more

/-- The regular expression that one of some patterns matches. -/
def anyPattern (kind : Char) (patterns : List Str) : Option Regex := do
  let parts ← patterns.mapM fun p =>
    if kind == 'F' then
      some (p.foldr (fun c r => Regex.sequence (Regex.char c) r) Regex.nothing)
    else Regex.read? (kind == 'E') p
  match parts with
  | [] => none
  | first :: rest => return rest.foldl Regex.either first

/-- Write the lines that match a pattern; `kind` is the usual kind of patterns. -/
def grep (kind : Char) (words : List Str) : Sh Nat := do
  let (options, rest) := splitOptions ['e', 'f', 'm', 'A', 'B', 'C'] words
  let has (names : List String) : Bool := hasOption options names
  let given := (options.filter fun (n, _) => n == ['e'] || n == "regexp".toList).map (·.2)
  let (patterns, paths) := if given.isEmpty then (rest.take 1, rest.drop 1) else (given, rest)
  let patterns := patterns.flatMap (Text.splitAll '\n')
  if patterns.isEmpty then
    Sh.putError "Usage: grep [OPTION]... PATTERNS [FILE]...\nTry 'grep --help' for more information.\n".toList
    return 2
  else
    let kind := if has ["F", "fixed-strings"] then 'F' else if has ["E", "extended-regexp", "P"] then 'E' else kind
    let ignoreCase := has ["i", "ignore-case", "y"]
    let fold (s : Str) : Str := if ignoreCase then s.map Char.toLower else s
    match anyPattern kind (patterns.map fold) with
    | none =>
      note "grep" "Invalid regular expression".toList
      return 2
    | some r =>
      let silent := has ["q", "quiet", "silent"]
      let refusal (path : Str) (why : Errno) : Sh Unit :=
        if has ["s", "no-messages"] then pure () else refusedFile "grep" path why
      let (files, complete) ← readFiles refusal paths
      let wholeWords := has ["w", "word-regexp"]
      let found (l : Str) : List (Nat × Nat) :=
        let text := (fold l).toArray
        let all := matchesFrom r wholeWords text (text.size + 2) 0
        if has ["x", "line-regexp"] then
          if (Regex.longestAt r text 0).any fun p => p.place = text.size then [(0, text.size)] else []
        else all
      let wanted (l : Str) : Bool := (found l).isEmpty == has ["v", "invert-match"]
      let limit := (optionValue? options ["m", "max-count"]).map fun n => Decimal.valueFrom 0 n
      let results : List (Str × List (Str × Nat)) := files.map fun (path, text) =>
        let hits := (linesOf text).zipIdx.filter fun (l, _) => wanted l
        (path, match limit with
          | some n => hits.take n
          | none => hits)
      let names := (paths.length > 1 || has ["H"]) && !has ["h", "no-filename"]
      let front (path : Str) : Str :=
        if names then (if path == ['-'] then "(standard input)".toList else path) ++ [':'] else []
      let output := results.flatMap fun (path, hits) =>
        if has ["c", "count"] then front path ++ showNat hits.length ++ ['\n']
        else if has ["l", "files-with-matches"] then if hits.isEmpty then [] else path ++ ['\n']
        else if has ["L", "files-without-match"] then if hits.isEmpty then path ++ ['\n'] else []
        else hits.flatMap fun (l, i) =>
          let front := front path ++ (if has ["n", "line-number"] then showNat (i + 1) ++ [':'] else [])
          if has ["o", "only-matching"] then
            ((found l).filter fun (a, b) => a < b).flatMap fun (a, b) => front ++ (l.drop a).take (b - a) ++ ['\n']
          else front ++ l ++ ['\n']
      if !silent then Sh.write 1 output
      let any := results.any fun (_, hits) => !hits.isEmpty
      return if !complete && !(silent && any) then 2 else if any then 0 else 1

end FuzzCampaign.Shell
