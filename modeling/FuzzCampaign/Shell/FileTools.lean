import FuzzCampaign.Shell.TextTools
set_option autoImplicit false

/-! # Programs on files

Programs of the system that make, list, copy, move and remove files. -/

namespace FuzzCampaign.Shell

/-- An absolute path for a word. -/
def pathOf (w : Str) : Sh Str := return Files.absolute (← Sh.getState).directory w

/-- A word between single quotes, as messages show it. -/
def quotedName (w : Str) : Str := ['\x27'] ++ w ++ ['\x27']

/-- Make a request about files for a path; a refusal is told after some text. -/
def request (program : String) (what : Str) (r : FileRequest) : Sh Bool := do
  match ← Sh.ask (.files r) with
  | .refused why =>
    note program (what ++ ": ".toList ++ why.message)
    return false
  | _ => return true

/-- Do something with every word; the status tells whether all went well. -/
def forWords (act : Str → Sh Bool) (words : List Str) : Sh Nat := do
  let results ← Sh.mapList act words
  return if results.all id then 0 else 1

/-- Say that a word is missing. -/
def missingOperand (program : String) (what : String) : Sh Nat := do
  note program ("missing " ++ what).toList
  Sh.putError ("Try '" ++ program ++ " --help' for more information.\n").toList
  return 1

/-! ## Making -/

/-- Note the time of files, which are made when they are not there. -/
def touch (words : List Str) : Sh Nat := do
  let (options, paths) := splitOptions ['d', 'r', 't'] words
  if paths.isEmpty then missingOperand "touch" "file operand"
  else
    forWords (fun w => do
      if hasOption options ["c", "no-create"] && (← fileInfo? w true).isNone then return true
      else request "touch" ("cannot touch ".toList ++ quotedName w) (.touch (← pathOf w))) paths

/-- Make a directory with those above it. -/
def makeAll : List Str → Str → Sh Bool
  | [], _ => return true
  | p :: rest, above => do
    let path := Files.absolute above p
    match ← Sh.ask (.files (.info path true)) with
    | .info i => if i.kind == .directory then makeAll rest path else
        note "mkdir" ("cannot create directory ".toList ++ quotedName path ++ ": Not a directory".toList)
        return false
    | _ =>
      if ← request "mkdir" ("cannot create directory ".toList ++ quotedName path) (.makeDirectory path) then
        makeAll rest path
      else return false

/-- Make directories. -/
def makeDirectories (words : List Str) : Sh Nat := do
  let (options, paths) := splitOptions ['m'] words
  if paths.isEmpty then missingOperand "mkdir" "operand"
  else
    forWords (fun w => do
      let path ← pathOf w
      if hasOption options ["p", "parents"] then
        match ← fileInfo? w true with
        | some i =>
          if i.kind == .directory then return true
          else
            note "mkdir" ("cannot create directory ".toList ++ quotedName w ++ ": File exists".toList)
            return false
        | none => makeAll (Files.parts path) ['/']
      else request "mkdir" ("cannot create directory ".toList ++ quotedName w) (.makeDirectory path)) paths

/-- A name with its last capital letters X replaced by letters that depend on a number. -/
def uniqueName (template : Str) (n : Nat) : Str :=
  let marks := (template.reverse.takeWhile (· == 'X')).length
  let letters := (List.range marks).map fun i => Char.ofNat ('a'.toNat + (n / 26 ^ i) % 26)
  template.take (template.length - marks) ++ letters

/-- Make a temporary file or directory and write its name. -/
def makeTemporary (words : List Str) : Sh Nat := do
  let (options, rest) := splitOptions ['p'] words
  let template := rest.headD "tmp.XXXXXXXXXX".toList
  let dir := (optionValue? options ["p", "tmpdir"]).getD "/tmp".toList
  let path := if template.contains '/' || (!rest.isEmpty && !hasOption options ["p", "t", "tmpdir"]) then template
    else dir ++ '/' :: template
  let pid ← match ← Sh.ask .identity with
    | .numbers pid _ => pure pid
    | _ => pure 0
  let name := uniqueName path (pid * 7919 + 104729)
  let full ← pathOf name
  let made ← request "mktemp" ("failed to create file via template ".toList ++ quotedName path)
    (if hasOption options ["d", "directory"] then .makeDirectory full else .touch full)
  if made then
    Sh.write 1 (name ++ ['\n'])
    return 0
  else return 1

/-! ## Removing -/

/-- Remove a path with everything below it, at most so deep. -/
def removeAll : Nat → Str → Sh Bool
  | 0, _ => return false
  | fuel + 1, path => do
    match ← Sh.ask (.files (.info path false)) with
    | .info i =>
      if i.kind == .directory then
        match ← Sh.ask (.files (.list path)) with
        | .names names =>
          let results ← Sh.mapList (fun n => removeAll fuel (Files.absolute path n)) names
          if results.all id then request "rm" ("cannot remove ".toList ++ quotedName path) (.removeDirectory path)
          else return false
        | _ => return false
      else request "rm" ("cannot remove ".toList ++ quotedName path) (.remove path)
    | _ => return true

/-- How deep directories are looked through. -/
def maxDirectoryDepth : Nat := 1000

/-- Remove files. -/
def removeFiles (words : List Str) : Sh Nat := do
  let (options, paths) := splitOptions [] words
  let force := hasOption options ["f", "force"]
  if paths.isEmpty then if force then return 0 else missingOperand "rm" "operand"
  else
    forWords (fun w => do
      let path ← pathOf w
      match ← Sh.ask (.files (.info path false)) with
      | .info i =>
        if i.kind == .directory then
          if hasOption options ["r", "R", "recursive"] then removeAll maxDirectoryDepth path
          else
            note "rm" ("cannot remove ".toList ++ quotedName w ++ ": Is a directory".toList)
            return false
        else request "rm" ("cannot remove ".toList ++ quotedName w) (.remove path)
      | .refused why =>
        if force then return true
        else
          note "rm" ("cannot remove ".toList ++ quotedName w ++ ": ".toList ++ why.message)
          return false
      | _ => return true) paths

/-- Remove directories that are empty. -/
def removeDirectories (words : List Str) : Sh Nat := do
  let (_, paths) := splitOptions [] words
  if paths.isEmpty then missingOperand "rmdir" "operand"
  else
    forWords (fun w => do
      request "rmdir" ("failed to remove ".toList ++ quotedName w) (.removeDirectory (← pathOf w))) paths

/-! ## Copying and moving -/

/-- Copy a file, or a directory with everything below it. -/
def copyTree (recursive : Bool) : Nat → Str → Str → Str → Sh Bool
  | 0, _, _, _ => return false
  | fuel + 1, shown, source, target => do
    match ← Sh.ask (.files (.info source true)) with
    | .info i =>
      if i.kind == .directory then
        if !recursive then
          note "cp" ("-r not specified; omitting directory ".toList ++ quotedName shown)
          return false
        else
          match ← Sh.ask (.files (.info target true)) with
          | .info _ => pure ()
          | _ => Sh.tell (.files (.makeDirectory target))
          match ← Sh.ask (.files (.list source)) with
          | .names names =>
            let results ← Sh.mapList (fun n =>
              copyTree recursive fuel (shown ++ '/' :: n) (Files.absolute source n) (Files.absolute target n)) names
            return results.all id
          | _ => return false
      else
        match ← readPath source with
        | .error why =>
          note "cp" ("cannot open ".toList ++ quotedName shown ++ " for reading: ".toList ++ why.message)
          return false
        | .ok text =>
          match ← Sh.ask (.openFile target .write) with
          | .number fd =>
            Sh.write fd text
            Sh.tell (.close fd)
            Sh.tell (.files (.setMode target i.mode))
            return true
          | .refused why =>
            note "cp" ("cannot create regular file ".toList ++ quotedName target ++ ": ".toList ++ why.message)
            return false
          | _ => return false
    | .refused why =>
      note "cp" ("cannot stat ".toList ++ quotedName shown ++ ": ".toList ++ why.message)
      return false
    | _ => return false

/-- Do something from sources to a target, which may be a directory that takes them in. -/
def toTarget (program : String) (act : Str → Str → Str → Sh Bool) (words : List Str) : Sh Nat := do
  match words.reverse with
  | [] => missingOperand program "file operand"
  | [only] =>
    note program ("missing destination file operand after ".toList ++ quotedName only)
    Sh.putError ("Try '" ++ program ++ " --help' for more information.\n").toList
    return 1
  | target :: sources =>
    let isDirectory := (← fileInfo? target true).any fun i => i.kind == .directory
    let full ← pathOf target
    if 1 < sources.length && !isDirectory then
      note program ("target ".toList ++ quotedName target ++ ": ".toList ++
        (if (← fileInfo? target true).isNone then "No such file or directory" else "Not a directory").toList)
      return 1
    else
      forWords (fun w => do
        let source ← pathOf w
        act w source (if isDirectory then Files.absolute full (Files.lastPart source) else full)) sources.reverse

/-- Copy files. -/
def copyFiles (words : List Str) : Sh Nat := do
  let (options, paths) := splitOptions [] words
  let recursive := hasOption options ["r", "R", "a", "recursive", "archive"]
  toTarget "cp" (copyTree recursive maxDirectoryDepth) paths

/-- Move files. -/
def moveFiles (words : List Str) : Sh Nat := do
  toTarget "mv" (fun shown source target => do
    match ← Sh.ask (.files (.info source false)) with
    | .refused why =>
      note "mv" ("cannot stat ".toList ++ quotedName shown ++ ": ".toList ++ why.message)
      return false
    | _ =>
      request "mv" ("cannot move ".toList ++ quotedName shown ++ " to ".toList ++ quotedName target)
        (.rename source target)) (splitOptions [] words).2

/-- Make links. -/
def linkFiles (words : List Str) : Sh Nat := do
  let (options, paths) := splitOptions [] words
  let symbolic := hasOption options ["s", "symbolic"]
  let paths := match paths with
    | [only] => [only, ['.']]
    | _ => paths
  toTarget "ln" (fun shown source target => do
    if hasOption options ["f", "force"] then Sh.tell (.files (.remove target))
    request "ln" ("failed to create ".toList ++ (if symbolic then "symbolic" else "hard").toList ++ " link ".toList ++
        quotedName target) (if symbolic then .symlink shown target else .hardLink source target)) paths

/-! ## Looking at files -/

/-- The letters of permissions. -/
def modeLetters (i : FileInfo) : Str :=
  let kind := match i.kind with
    | .directory => 'd'
    | .link => 'l'
    | .device => 'c'
    | .pipe => 'p'
    | .file => '-'
  let letters := ['r', 'w', 'x', 'r', 'w', 'x', 'r', 'w', 'x']
  kind :: letters.zipIdx.map fun (c, n) => if i.mode &&& (2 ^ (8 - n)) != 0 then c else '-'

/-- List directories and files. -/
def listFiles (words : List Str) : Sh Nat := do
  let (options, paths) := splitOptions [] words
  let paths := if paths.isEmpty then [['.']] else paths
  let long := hasOption options ["l"]
  let all := hasOption options ["a", "all"]
  let line (dir name : Str) : Sh Str := do
    if long then
      match ← fileInfo? (Files.absolute dir name) false with
      | some i => return modeLetters i ++ " 1 root root ".toList ++ showNat i.size ++ " Jan  2 03:04 ".toList ++ name
      | none => return name
    else return name
  let found ← Sh.mapList (fun w => do
    match ← fileInfo? w true with
    | none =>
      note "ls" ("cannot access ".toList ++ quotedName w ++ ": No such file or directory".toList)
      return (w, none)
    | some i => return (w, some (i.kind == .directory && !hasOption options ["d", "directory"]))) paths
  let files := found.filter fun (_, d) => d == some false
  let dirs := found.filter fun (_, d) => d == some true
  let fileLines ← Sh.mapList (fun (w, _) => do line (← Sh.getState).directory w) files
  let order := fun (ns : List Str) =>
    let sorted := ns.mergeSort textLe
    if hasOption options ["r", "reverse"] then sorted.reverse else sorted
  let blocks ← Sh.mapList (fun (w, _) => do
    let path ← pathOf w
    match ← Sh.ask (.files (.list path)) with
    | .names names =>
      let shown := order (names.filter fun n => all || hasOption options ["A"] || n.head? != some '.')
      let shown := if all then ['.'] :: "..".toList :: shown else shown
      let lines ← Sh.mapList (line path) shown
      let title := if 1 < paths.length then w ++ ":\n".toList else []
      return title ++ (if long then "total 0\n".toList else []) ++ unlines lines
    | _ => return []) dirs
  let files := unlines (order fileLines)
  Sh.write 1 (['\n'].intercalate ((if files.isEmpty then [] else [files]) ++ blocks))
  return if found.all fun (_, d) => d.isSome then 0 else 2

/-- Permissions with a change such as `u+x` carried out. -/
def changedMode (w : Str) (mode : Nat) : Nat :=
  if w.all fun c => '0' ≤ c && c ≤ '7' then (digitsValue 8 w.length w).1
  else
    (Text.splitAll ',' w).foldl (fun mode piece =>
      let who := piece.takeWhile fun c => ['u', 'g', 'o', 'a'].contains c
      let who := if who.isEmpty || who.contains 'a' then ['u', 'g', 'o'] else who
      let shifts := who.map fun c => if c == 'u' then 6 else if c == 'g' then 3 else 0
      match (piece.dropWhile fun c => ['u', 'g', 'o', 'a'].contains c) with
      | op :: letters =>
        let bits := (if letters.contains 'r' then 4 else 0) + (if letters.contains 'w' then 2 else 0) +
          (if letters.contains 'x' || letters.contains 'X' then 1 else 0)
        shifts.foldl (fun mode shift =>
          let own := mode / 2 ^ shift % 8
          let new := if op == '+' then own ||| bits else if op == '-' then own - (own &&& bits) else bits
          mode - own * 2 ^ shift + new * 2 ^ shift) mode
      | [] => mode) mode

/-- Change permissions. -/
def changeModes (words : List Str) : Sh Nat := do
  let isMode (w : Str) : Bool := w.head? != some '-' || (w.drop 1).all fun c => ['r', 'w', 'x'].contains c
  match words.filter isMode with
  | mode :: paths =>
    forWords (fun w => do
      let path ← pathOf w
      match ← Sh.ask (.files (.info path true)) with
      | .info i => request "chmod" ("changing permissions of ".toList ++ quotedName w) (.setMode path (changedMode mode i.mode))
      | .refused why =>
        note "chmod" ("cannot access ".toList ++ quotedName w ++ ": ".toList ++ why.message)
        return false
      | _ => return false) paths
  | [] => missingOperand "chmod" "operand"

/-- The last part of a path without an ending. -/
def baseName (words : List Str) : Sh Nat := do
  match (splitOptions [] words).2 with
  | [] => missingOperand "basename" "operand"
  | w :: rest =>
    let name := if (Files.parts w).isEmpty && !w.isEmpty then ['/'] else Files.lastPart w
    let suffix := rest.headD []
    let name := if suffix.isSuffixOf name && suffix.length < name.length then name.take (name.length - suffix.length)
      else name
    Sh.write 1 (name ++ ['\n'])
    return 0

/-- The path of the directory that a path is in. -/
def directoryName (words : List Str) : Sh Nat := do
  match (splitOptions [] words).2 with
  | [] => missingOperand "dirname" "operand"
  | paths =>
    let parentOf (w : Str) : Str :=
      let trimmed := (w.reverse.dropWhile (· == '/')).reverse
      if trimmed.isEmpty then (if w.isEmpty then ['.'] else ['/'])
      else if !trimmed.contains '/' then ['.']
      else
        let dir := ((trimmed.reverse.dropWhile (· != '/')).dropWhile (· == '/')).reverse
        if dir.isEmpty then ['/'] else dir
    Sh.write 1 (unlines (paths.map parentOf))
    return 0

/-- The path that a link or a path with dots leads to. -/
def resolvePaths (program : String) (words : List Str) : Sh Nat := do
  let (options, paths) := splitOptions [] words
  forWords (fun w => do
    let path ← pathOf w
    if program == "readlink" && options.isEmpty then
      match ← Sh.ask (.files (.readLink path)) with
      | .text t => Sh.write 1 (t ++ ['\n']); return true
      | _ => return false
    else
      let tidy := Files.tidy path
      match ← Sh.ask (.files (.readLink tidy)) with
      | .text t => Sh.write 1 (Files.tidy (Files.absolute (Files.parent tidy) t) ++ ['\n']); return true
      | _ => Sh.write 1 (tidy ++ ['\n']); return true) paths

/-- Everything below a path that fits. -/
def findBelow (fits : Str → FileInfo → Bool) : Nat → Str → Str → Sh (List Str)
  | 0, _, _ => return []
  | fuel + 1, shown, path => do
    match ← Sh.ask (.files (.info path false)) with
    | .info i =>
      let own := if fits shown i then [shown] else []
      if i.kind == .directory then
        match ← Sh.ask (.files (.list path)) with
        | .names names =>
          let below ← Sh.mapList (fun n =>
            let front := if shown == ['/'] then ['/'] else shown ++ ['/']
            findBelow fits fuel (front ++ n) (Files.absolute path n)) names
          return own ++ below.flatten
        | _ => return own
      else return own
    | _ => return []

/-- Write the paths of files below others. -/
def findFiles (words : List Str) : Sh Nat := do
  let starts := words.takeWhile fun w => w.head? != some '-'
  let tests := words.drop starts.length
  let value (name : String) : Option Str := (tests.dropWhile fun t => t != name.toList).tail?.bind List.head?
  let fits (path : Str) (i : FileInfo) : Bool :=
    ((value "-name").all fun p => matchGlobs (globs (mark false p)) (Files.lastPart path)) &&
    ((value "-type").all fun t =>
      (t == ['f'] && i.kind == .file) || (t == ['d'] && i.kind == .directory) || (t == ['l'] && i.kind == .link))
  let starts := if starts.isEmpty then [['.']] else starts
  forWords (fun w => do
    match ← fileInfo? w false with
    | none =>
      note "find" (quotedName w ++ ": No such file or directory".toList)
      return false
    | some _ =>
      Sh.write 1 (unlines (← findBelow fits maxDirectoryDepth w (← pathOf w)))
      return true) starts

/-- Compare two files. -/
def compareContents (program : String) (words : List Str) : Sh Nat := do
  let (options, paths) := splitOptions [] words
  match paths with
  | [a, b] =>
    match ← readPath a, ← readPath b with
    | .ok x, .ok y =>
      if x == y then return 0
      else
        if program == "cmp" then
          if !hasOption options ["s"] then
            let same := (x.zip y).takeWhile fun (c, d) => c == d
            let line := (same.filter fun (c, _) => c == '\n').length + 1
            Sh.write 1 (a ++ ' ' :: b ++ " differ: char ".toList ++ showNat (same.length + 1) ++ ", line ".toList ++
              showNat line ++ ['\n'])
        else if hasOption options ["q", "brief"] then
          Sh.write 1 ("Files ".toList ++ a ++ " and ".toList ++ b ++ " differ\n".toList)
        else
          let removed := (linesOf x).flatMap fun l => "< ".toList ++ l ++ ['\n']
          let added := (linesOf y).flatMap fun l => "> ".toList ++ l ++ ['\n']
          Sh.write 1 (removed ++ "---\n".toList ++ added)
        return 1
    | .error why, _ => refusedFile program a why; return 2
    | _, .error why => refusedFile program b why; return 2
  | _ => let _ ← missingOperand program "operand"; return 2

end FuzzCampaign.Shell
