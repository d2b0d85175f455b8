import FuzzCampaign.Shell.Arith
import FuzzCampaign.Shell.Fields
import FuzzCampaign.Shell.Quoting
set_option autoImplicit false

/-! # Expansion

What words stand for when they are used: parameters, the output of commands and the values of expressions
take the place of the pieces that name them, then what came out of them is cut into fields, and fields that
are patterns give way to the names of the files that match. Running commands is left to a runner. -/

namespace FuzzCampaign.Shell

/-- What a runner of commands is asked to do. -/
inductive Job where
  /-- Run commands. -/
  | commands (body : List Command)
  /-- Run commands in a process that is a copy of the shell, possibly for its output, up to its end. -/
  | copy (body : List Command) (forOutput : Bool)
  /-- Run text, the first line of which has a number; messages about the text name the command that it was
  given to. -/
  | text (body : Str) (line : Nat) (givenTo : String)
  /-- Run the command that words call, which may be a program or not. -/
  | words (words : List Str) (mayBeProgram : Bool)
  /-- Run a program, given its path and what it is called with, up to its end. -/
  | program (path : Str) (words : List Str)

/-- Runs commands, and answers their status. -/
abbrev Runner : Type := Job → Sh Nat

/-! ## Evaluating -/

/-- The value of an expression; a failure ends the shell, after a message that begins with a given text. -/
def evaluateOrDie (front : String) (expr : Str) : Sh Int := do
  let s ← Sh.getState
  match s.evaluate expr with
  | .ok (n, s) => Sh.change fun _ => s; return n
  | .error (.wrong message) => die 1 (front.toList ++ message)
  | .error (.unbound name) => die 1 (name.toList ++ ": unbound variable".toList)
  | .error (.fixed name) => die 1 (fixedMessage name)

/-- Give a variable, or an element of one, a text. Numbers are evaluated when the variable wants them. -/
def assignText (name : String) (key : Option Key) (append : Bool) (text : Str) : Sh Unit := do
  let s ← Sh.getState
  if s.isFixed name then die 1 (fixedMessage name)
  else
    let v := s.variableOrNew name
    let old := match key with
      | none => v.value.text?.getD []
      | some k => (v.value.element? k).getD []
    let text ← if v.integer then do
        let n ← evaluateOrDie "" text
        let m ← if append then evaluateOrDie "" old else pure 0
        pure (showInt (wrap (m + n)))
      else pure (if append then old ++ text else text)
    Sh.change fun s => s.assign name key text

/-- Wait for the end of a child, and answer its status. -/
def waitStatus (pid : Nat) : Sh Nat := do
  match ← Sh.ask (.wait (some pid) false) with
  | .ending _ how => return how.status
  | _ => return 127

/-- The output of a job that a child does, without the ends of lines at its end. -/
def captureOutput (run : Runner) (start : Nat) (job : Job) : Sh Str := do
  match ← Sh.ask .pipe with
  | .numbers r w =>
    let pid ← Sh.spawn do
      Sh.tell (.close r)
      if w != 1 then
        Sh.tell (.copy w 1)
        Sh.tell (.close w)
      Sh.change fun s => { s with lineShift := (s.line : Int) - start }
      run job
    Sh.tell (.close w)
    let text ← Sh.readAll r Sh.manyReads []
    Sh.tell (.close r)
    let status ← waitStatus pid
    Sh.change fun s => { s with outputStatus := some status }
    let kept := text.filter fun c => c.toNat != 0
    if kept.length < text.length then
      complain "warning: command substitution: ignored null byte in input".toList
    return (kept.reverse.dropWhile (· == '\n')).reverse
  | _ => return []

/-! ## Parameters -/

/-- What a parameter stands for. -/
inductive Found where
  | one (value : Option Str)
  /-- Several values, which are joined by the first separator between quotes. -/
  | several (values : List Str) (together : Bool)

namespace Found

/-- Whether there is nothing. -/
def isUnset : Found → Bool
  | .one v => v.isNone
  | .several vs _ => vs.isEmpty

/-- Whether there is nothing but empty text. -/
def isNull : Found → Bool
  | .one v => (v.getD []).isEmpty
  | .several vs _ => vs.all List.isEmpty && vs.length ≤ 1

/-- With something done to every value. -/
def map (f : Str → Str) : Found → Found
  | .one v => .one (v.map f)
  | .several vs together => .several (vs.map f) together

end Found

/-- What is put between fields that are joined. -/
def ShellState.joint (s : ShellState) : Str :=
  match s.entry? "IFS" with
  | none => [' ']
  | some v => (v.value.text?.getD [' ']).take 1

/-- The fragments that a parameter leaves. -/
def fragmentsOf (joint : Str) (inQuotes : Bool) : Found → List Fragment
  | .one v => [if inQuotes then .quoted (v.getD []) else .loose (v.getD [])]
  | .several vs together =>
    if inQuotes && together then [.quoted (joint.intercalate vs)]
    else
      let fragments := vs.map fun v => if inQuotes then Fragment.quoted v else Fragment.loose v
      fragments.intersperse (.cut (if together then joint else [' ']))

section

variable (run : Runner)

/-- The part of a path up to a slash that stands for a home directory. -/
def homeOf (s : ShellState) (login : Str) : Option Str :=
  match String.ofList login with
  | "~" => s.text? "HOME"
  | "~+" => some s.directory
  | "~-" => s.text? "OLDPWD"
  | "~root" => some "/root".toList
  | _ => none

/-- The tilde at the front of a piece, expanded; the piece is followed by others or not. -/
def tildeFront (s : ShellState) (stops : Str) (isLast : Bool) (text : Str) : List Fragment :=
  let login := text.takeWhile fun c => !stops.contains c
  if text.head? == some '~' && (login.length < text.length || isLast) then
    match homeOf s login with
    | some home => [.quoted home, .plain (text.drop login.length)]
    | none => [.plain text]
  else [.plain text]

/-- The tildes of a value, which also follow colons. -/
def tildeValue (s : ShellState) (isLast : Bool) (text : Str) : List Fragment :=
  let pieces := Text.splitAll ':' text
  let count := pieces.length
  (pieces.zipIdx.flatMap fun (piece, i) =>
    let front : List Fragment := if i = 0 then [] else [.plain [':']]
    front ++ tildeFront s ['/'] (i + 1 < count || isLast) piece)

/-- How tildes are expanded. -/
inductive Tildes where
  | none
  | front
  /-- After an equals sign of a word that looks like an assignment. -/
  | argument
  | value
deriving DecidableEq

/-- The first piece of a word with its tildes expanded. -/
def firstPiece (s : ShellState) (how : Tildes) (isLast : Bool) (text : Str) : List Fragment :=
  match how with
  | .none => [.plain text]
  | .front => tildeFront s ['/'] isLast text
  | .value => tildeValue s isLast text
  | .argument =>
    let name := text.takeWhile isNameChar
    match text.drop name.length with
    | '=' :: rest => if isName name then .plain (name ++ ['=']) :: tildeValue s isLast rest
        else tildeFront s ['/'] isLast text
    | _ => tildeFront s ['/'] isLast text

/-- The message about a parameter that stands for nothing. -/
def unboundMessage (name : String) : Str :=
  match name.toList with
  | c :: _ => (if isNameStart c then name.toList else '$' :: name.toList) ++ ": unbound variable".toList
  | [] => ": unbound variable".toList

/-- What is known of a name and a subscript whose text is expanded already. -/
def lookUp (name : String) (index : Subscript) (key : Str) : Sh (String × Found) := do
  let s ← Sh.getState
  if name == "@" || name == "*" then return (name, .several s.params (name == "*"))
  else
    let value := s.value name
    Sh.change fun s => s.looked name
    match index with
    | .absent => return (name, .one value.text?)
    | .each => return (name, .several value.texts false)
    | .joined => return (name, .several value.texts true)
    | .at _ =>
      let k ← match value with
        | .keyed _ => pure (Key.name key)
        | _ => do pure (Key.index (← evaluateOrDie "" key))
      return (name ++ "[" ++ String.ofList key ++ "]", .one (value.element? k))

/-- The parameter that a text names. -/
def namedParam (text : Str) : String × Subscript × Str :=
  let name := text.takeWhile fun c => c != '['
  match text.drop name.length with
  | '[' :: rest =>
    let key := rest.dropLast
    let index : Subscript :=
      if key == ['@'] then .each else if key == ['*'] then .joined else .at [.quoted key]
    (String.ofList name, index, key)
  | _ => (String.ofList name, .absent, [])

/-- Some of several values, from an offset on. -/
def sliceList (values : List Str) (offset : Int) (length : Option Int) : List Str :=
  let start := if offset < 0 then (values.length : Int) + offset else offset
  if start < 0 then []
  else
    let rest := values.drop start.toNat
    match length with
    | none => rest
    | some n => rest.take n.toNat

/-- The text from an offset on; a length below zero counts from the end. -/
def sliceText (text : Str) (offset : Int) (length : Option Int) : Option Str :=
  let size : Int := text.length
  let start := if offset < 0 then size + offset else offset
  if start < 0 ∨ size < start then some []
  else
    match length with
    | none => some (text.drop start.toNat)
    | some n =>
      let stop := if n < 0 then size + n else min size (start + n)
      if stop < start then none else some ((text.drop start.toNat).take (stop - start).toNat)

/-- A text with the case of letters that match a pattern changed. -/
def recased (upper all : Bool) (p : List Glob) (s : Str) : Str :=
  let change (c : Char) : Char :=
    if p.isEmpty || matchGlobs p [c] then (if upper then c.toUpper else c.toLower) else c
  match s with
  | [] => []
  | c :: rest => change c :: (if all then rest.map change else rest)

/-- A text with its escapes replaced by what they mean. -/
def unescape : Nat → Str → Str
  | 0, s => s
  | fuel + 1, s =>
    match s with
    | [] => []
    | '\\' :: rest =>
      let (text, size) := escapeText rest
      text ++ unescape fuel (rest.drop size)
    | c :: rest => c :: unescape fuel rest

/-- The letters of the attributes of a variable. -/
def Variable.flags (v : Variable) : Str :=
  let letters : List (Char × Bool) := [('a', (match v.value with
      | .indexed _ => true
      | _ => false)), ('A', v.value.isKeyed), ('i', v.integer), ('l', v.letters == .lower), ('r', v.fixed),
    ('u', v.letters == .upper), ('x', v.exported)]
  (letters.filter (·.2)).map (·.1)

/-- The elements of an array, as they are declared. -/
def declaredItems (v : Value) : Str :=
  let item (key text : Str) : Str := ['['] ++ key ++ "]=".toList ++ declaredValue text
  match v with
  | .indexed items => ['('] ++ [' '].intercalate (items.map fun (i, t) => item (showInt i) t) ++ [')']
  | .keyed items =>
    let name (k : Str) : Str :=
      if hasUnprintable k then dollarQuote k else if hasSpecials k then doubleQuote k else k
    ['('] ++ items.flatMap (fun (k, t) => item (name k) t ++ [' ']) ++ [')']
  | v => (v.text?.map declaredValue).getD []

/-- The declaration of a variable. -/
def declaration (name : String) (v : Variable) : Str :=
  let flags := v.flags
  let front := "declare -".toList ++ (if flags.isEmpty then ['-'] else flags) ++ ' ' :: name.toList
  match v.value with
  | .absent => front
  | value => front ++ '=' :: declaredItems value

/-- What the transformation of a value gives. -/
def transformed (kind : Char) (s : Str) : Str :=
  match kind with
  | 'Q' => reusableValue s
  | 'U' => s.map Char.toUpper
  | 'L' => s.map Char.toLower
  | 'u' => recased true false [] s
  | 'E' => unescape (s.length + 1) s
  | _ => s

/-- The names of variables. -/
def namesWith (s : ShellState) (front : String) : List Str :=
  let names := (s.bindings.map (·.1)).filter fun n => front.toList.isPrefixOf n.toList
  (names.mergeSort fun a b => a ≤ b).map String.toList

mutual

/-- The fragments that pieces leave. -/
def expandParts : List Part → Sh (List Fragment)
  | [] => return []
  | p :: rest => do
    let front ← expandPart p
    return front ++ (← expandParts rest)

/-- The fragments that a piece leaves. -/
def expandPart : Part → Sh (List Fragment)
  | .plain s => return [.plain s]
  | .quoted s => return [.quoted s]
  | .param p inQuotes => expandParam inQuotes p
  | .output start body inQuotes => do
    let text ← match body with
      | [.simple _ [] [] [.mk none .input target]] => readFile target
      | body => captureOutput run start (.copy body true)
    return fragmentsOf [' '] inQuotes (.one (some text))
  | .arith expr inQuotes => do
    let text := Fragment.joined (← expandParts expr)
    let n ← evaluateOrDie "" text
    return fragmentsOf [' '] inQuotes (.one (some (showInt n)))
  | .elements _ => return []

/-- The content of the file that a word names. -/
def readFile : Word → Sh Str
  | .mk _ parts => do
    let path := Fragment.joined (← expandParts parts)
    let s ← Sh.getState
    match ← Sh.ask (.openFile (Files.absolute s.directory path) .read) with
    | .number fd =>
      let text ← Sh.readAll fd Sh.manyReads []
      Sh.tell (.close fd)
      Sh.change fun s => { s with outputStatus := some 0 }
      return ((text.filter fun c => c.toNat != 0).reverse.dropWhile (· == '\n')).reverse
    | .refused why =>
      complain (path ++ ": ".toList ++ why.message)
      Sh.change fun s => { s with outputStatus := some 1 }
      return []
    | _ => return []

/-- The text of a subscript. -/
def expandKey : Subscript → Sh Str
  | .at expr => return Fragment.joined (← expandParts expr)
  | _ => return []

/-- The fragments that a parameter leaves. -/
def expandParam (inQuotes : Bool) : Param → Sh (List Fragment)
  | .mk name index indirect op => do
    let key ← expandKey index
    let (shown, found) ← lookUp name index key
    let (name, index, key, shown, found) ← if indirect then
        match found with
        | .one (some text) => do
          let (name, index, key) := namedParam text
          let (shown, found) ← lookUp name index key
          pure (name, index, key, shown, found)
        | _ => do
          if (← Sh.getState).options.nounset then die 1 (unboundMessage name)
          else die 1 (name.toList ++ ": invalid indirect expansion".toList)
      else pure (name, index, key, shown, found)
    applyOp inQuotes name index key shown found op

/-- What an operation makes of what a parameter stands for. -/
def applyOp (inQuotes : Bool) (name : String) (index : Subscript) (key : Str) (shown : String)
    (found : Found) : ParamOp → Sh (List Fragment)
  | .value => do
    let found ← bound found
    return fragmentsOf (← Sh.getState).joint inQuotes found
  | .length => do
    match found with
    | .several vs _ =>
      let s ← Sh.getState
      if vs.isEmpty && s.options.nounset && name != "@" && name != "*" && (s.entry? name).isNone then
        die 1 (unboundMessage name)
      else return fragmentsOf [' '] inQuotes (.one (some (showNat vs.length)))
    | found =>
      match ← bound found with
      | .one v => return fragmentsOf [' '] inQuotes (.one (some (showNat (v.getD []).length)))
      | .several _ _ => return []
  | .fallback colon kind other => do
    let joint := (← Sh.getState).joint
    let absent := if colon then found.isNull else found.isUnset
    if kind = '+' then
      if absent then return if inQuotes then [.quoted []] else []
      else if inQuotes then return quotedEmpty (← expandParts other)
      else return (← expandParts other).map Fragment.loosen
    else if !absent then return fragmentsOf joint inQuotes found
    else if kind = '-' then
      if inQuotes then return quotedEmpty (← expandParts other)
      else return (← expandParts other).map Fragment.loosen
    else
      let text := Fragment.joined (← expandParts other)
      if kind = '=' then
        let k ← match index with
          | .at _ => do
            match (← Sh.getState).value name with
            | .keyed _ => pure (some (Key.name key))
            | _ => do pure (some (Key.index (← evaluateOrDie "" key)))
          | _ => pure none
        assignText name k false text
        return fragmentsOf joint inQuotes (.one (some text))
      else
        let usual := if colon then "parameter null or not set" else "parameter not set"
        die 1 (name.toList ++ ": ".toList ++ (if text.isEmpty then usual.toList else text))
  | .trim atEnd longest pattern => do
    let found ← bound found
    let p := globs (Fragment.marked (← expandParts pattern))
    let f := if atEnd then trimBack longest p else trimFront longest p
    return fragmentsOf (← Sh.getState).joint inQuotes (found.map f)
  | .dropTo offset => do
    let found ← bound found
    let start ← evaluateOrDie "" (Fragment.joined (← expandParts offset))
    slice found start none
  | .slice offset length => do
    let found ← bound found
    let start ← evaluateOrDie "" (Fragment.joined (← expandParts offset))
    let size ← evaluateOrDie "" (Fragment.joined (← expandParts length))
    slice found start (some size)
  | .replace which pattern replacement => do
    let found ← bound found
    let p := globs (Fragment.marked (← expandParts pattern))
    let new := Fragment.marked (← expandParts replacement)
    let put (matched : Str) : Str := new.flatMap fun (c, isQuoted) =>
      if c == '&' && !isQuoted then matched else [c]
    let done := if p.isEmpty && which != '#' && which != '%' then found else found.map (replaceIn which p put)
    return fragmentsOf (← Sh.getState).joint inQuotes done
  | .recase upper all pattern => do
    let found ← bound found
    let p := globs (Fragment.marked (← expandParts pattern))
    return fragmentsOf (← Sh.getState).joint inQuotes (found.map (recased upper all p))
  | .transform kind => do
    let found ← bound found
    let s ← Sh.getState
    if kind = 'a' then
      let flags := ((s.entry? name).map Variable.flags).getD []
      return fragmentsOf s.joint inQuotes (.one (some flags))
    else if kind = 'A' then
      let text := match s.entry? name with
        | some v => if v.flags.isEmpty then
            name.toList ++ '=' :: reusableValue (v.value.text?.getD []) else declaration name v
        | none => []
      return fragmentsOf s.joint inQuotes (.one (some text))
    else return fragmentsOf s.joint inQuotes (found.map (transformed kind))
  | .names together => do
    let s ← Sh.getState
    let names := match index with
      | .absent => namesWith s name
      | _ => (s.value name).keys
    return fragmentsOf s.joint inQuotes (.several names together)
  | .malformed raw => die 1 (raw ++ ": bad substitution".toList)
where
  /-- What a parameter stands for, which must be something where that is asked for. -/
  bound (found : Found) : Sh Found := do
    match found with
    | .one none =>
      if (← Sh.getState).options.nounset then die 1 (unboundMessage shown) else return found
    | found => return found
  /-- Quoted text is there even when it is empty. -/
  quotedEmpty (fragments : List Fragment) : List Fragment :=
    if fragments.isEmpty then [.quoted []] else fragments
  /-- Some of what a parameter stands for. -/
  slice (found : Found) (start : Int) (length : Option Int) : Sh (List Fragment) := do
    let s ← Sh.getState
    match found with
    | .several vs together =>
      let isParams := name == "@" || name == "*"
      let values := if isParams && start ≤ 0 && 0 ≤ start then s.name :: vs else vs
      let start := if isParams && 0 < start then start - 1 else start
      if length.any fun n => n < 0 then
        die 1 (showInt (length.getD 0) ++ ": substring expression < 0".toList)
      else return fragmentsOf s.joint inQuotes (.several (sliceList values start length) together)
    | .one v =>
      match sliceText (v.getD []) start length with
      | some text => return fragmentsOf s.joint inQuotes (.one (some text))
      | none => die 1 (showInt (length.getD 0) ++ ": substring expression < 0".toList)

end

/-- The fragments that a word leaves, with tildes expanded. -/
def expandWith (tildes : Tildes) : List Part → Sh (List Fragment)
  | .plain s :: rest => do
    let front := firstPiece (← Sh.getState) tildes rest.isEmpty s
    return front ++ (← expandParts run rest)
  | parts => expandParts run parts

/-- The text that pieces stand for where they are not cut into fields. -/
def expandText (tildes : Tildes) (parts : List Part) : Sh Str := do
  return Fragment.joined (← expandWith run tildes parts)

/-- The pattern that pieces stand for. -/
def expandPattern (parts : List Part) : Sh (List Marked) := do
  return Fragment.marked (← expandWith run .front parts)

/-! ## Names of files -/

/-- A pattern cut at slashes. -/
def cutAtSlashes (p : List Marked) : List (List Marked) :=
  p.foldr (fun m groups =>
    if m.1 == '/' then [] :: groups
    else
      match groups with
      | g :: rest => (m :: g) :: rest
      | [] => [[m]]) [[]]

/-- The names in a directory that match a pattern. Names that begin with a dot must be asked for. -/
def matchingNames (dotsToo : Bool) (p : List Glob) (names : List Str) : List Str :=
  names.filter fun n =>
    (n.head? != some '.' || dotsToo || p.head? == some (.char '.')) && matchGlobs p n

/-- The paths that match a pattern whose parts are left, below paths that do. -/
def matchingPaths : List (List Marked) → List Str → Sh (List Str)
  | [], paths => return paths
  | part :: rest, paths => do
    let s ← Sh.getState
    let p := globs part
    let next ← Sh.mapList (fun front => do
      let dir := Files.absolute s.directory (if front.isEmpty then ['.'] else front)
      if part.isEmpty then return if rest.isEmpty then [front] else [front ++ ['/']]
      else if isGlob p then
        match ← Sh.ask (.files (.list dir)) with
        | .names names =>
          let found := matchingNames (s.extras.contains "dotglob") p names
          let found ← if rest.isEmpty then pure found
            else keepDirectories dir found
          return found.map fun n => front ++ n ++ (if rest.isEmpty then [] else ['/'])
        | _ => return []
      else
        let path := front ++ p.filterMap fun g =>
          match g with
          | .char c => some c
          | _ => none
        match ← Sh.ask (.files (.info (Files.absolute s.directory path) true)) with
        | .info _ => return [path ++ (if rest.isEmpty then [] else ['/'])]
        | _ => return []) paths
    matchingPaths rest next.flatten
where
  /-- The names that stand for directories. -/
  keepDirectories (dir : Str) (names : List Str) : Sh (List Str) := do
    let kept ← Sh.mapList (fun n => do
      match ← Sh.ask (.files (.info (Files.absolute dir n) true)) with
      | .info i => return if i.kind == .directory then [n] else []
      | _ => return []) names
    return kept.flatten

/-- Whether one text comes before another or is the same. -/
def textLe : Str → Str → Bool
  | [], _ => true
  | _ :: _, [] => false
  | a :: as, b :: bs => if a == b then textLe as bs else a.toNat < b.toNat

/-- The words that a field stands for. -/
def expandPaths (field : List Marked) : Sh (List Str) := do
  let s ← Sh.getState
  let word := unmark field
  if s.options.noglob || !isGlob (globs field) then return [word]
  else
    let found ← matchingPaths (cutAtSlashes field) [[]]
    if !found.isEmpty then return found.mergeSort textLe
    else if s.extras.contains "failglob" then die 1 ("no match: ".toList ++ word)
    else if s.extras.contains "nullglob" then return []
    else return [word]

/-! ## Words -/

/-- The words that pieces stand for. -/
def expandPieces (parts : List Part) : Sh (List Str) := do
  let words ← Sh.mapList (fun parts => do
    let fragments ← expandWith run .argument parts
    let fields := fieldsOf (← Sh.getState).separators fragments
    return (← Sh.mapList expandPaths fields).flatten) (expandBraces parts)
  return words.flatten

/-- The words that words stand for. -/
def expandWords (words : List Word) : Sh (List Str) := do
  return (← Sh.mapList (fun w => expandPieces run w.parts) words).flatten

/-! ## Assignments -/

/-- The element that a subscript means. -/
def expandSubscript (name : String) (index : Subscript) : Sh (Option Key) := do
  match index with
  | .absent => return none
  | .each => return some (.name ['@'])
  | .joined => return some (.name ['*'])
  | .at _ =>
    let key ← expandKey run index
    match (← Sh.getState).value name with
    | .keyed _ => return some (.name key)
    | _ => return some (.index (← evaluateOrDie "" key))

/-- Give a variable the elements of an array. -/
def assignElements (name : String) (append : Bool) (items : List Assign) : Sh Unit := do
  let s ← Sh.getState
  if s.isFixed name then die 1 (fixedMessage name)
  else
    let v := s.variableOrNew name
    let isKeyed := v.value.isKeyed
    let start : Value := if append then
        (match v.value with
        | .text t => .indexed [(0, t)]
        | .absent => .indexed []
        | value => value)
      else if isKeyed then .keyed [] else .indexed []
    let given ← Sh.mapList (expandItem isKeyed) items
    Sh.change fun s => s.setVariable name { v with value := start }
    if isKeyed then Sh.forEach putPair (pairs given.flatten)
    else putItems start.bound given.flatten
where
  /-- The elements that one of those written stands for. -/
  expandItem (isKeyed : Bool) : Assign → Sh (List (Option (List Part) × Bool × Str))
    | .mk _ (.at key) add parts => do
      let text ← expandText run .value parts
      return [(some key, add, text)]
    | .mk _ _ _ parts => do
      if isKeyed then return [(none, false, ← expandText run .value parts)]
      else return (← expandPieces run parts).map fun w => (none, false, w)
  /-- Keys and values that are written one after the other. -/
  pairs : List (Option (List Part) × Bool × Str) → List (Option (List Part) × Bool × Str)
    | (none, _, key) :: (none, _, text) :: rest => (some [.quoted key], false, text) :: pairs rest
    | (none, _, key) :: rest => (some [.quoted key], false, []) :: pairs rest
    | item :: rest => item :: pairs rest
    | [] => []
  /-- Put an element by name. -/
  putPair : Option (List Part) × Bool × Str → Sh Unit
    | (some key, add, text) => do
      let k ← expandText run .none key
      assignText name (some (.name k)) add text
    | (none, _, _) => return ()
  /-- Put elements by number; those without one follow the last. -/
  putItems (next : Int) : List (Option (List Part) × Bool × Str) → Sh Unit
    | [] => return ()
    | (key, add, text) :: rest => do
      let i ← match key with
        | some key => do evaluateOrDie "" (← expandText run .none key)
        | none => pure next
      assignText name (some (.index i)) add text
      putItems (i + 1) rest

end

end FuzzCampaign.Shell
