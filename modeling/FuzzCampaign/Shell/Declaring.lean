import FuzzCampaign.Shell.Tests
set_option autoImplicit false

/-! # Declaring

The commands that declare variables, give them attributes and values, and remove them. -/

namespace FuzzCampaign.Shell

/-! ## Arguments -/

/-- A word cut at the sign of an assignment: the name, the subscript, whether it appends, and the value. -/
structure AssignmentWord where
  name : String
  key : Option Str := none
  append : Bool := false
  value : Option Str := none

/-- The assignment that a word is, or the name; none when it is neither. -/
def assignmentWord? (w : Str) : Option AssignmentWord :=
  let name := w.takeWhile isNameChar
  if !isName name then none
  else
    let rest := w.drop name.length
    let (key, rest) : Option Str × Str := match rest with
      | '[' :: inner =>
        match subscriptText (inner.length + 1) 0 [] inner with
        | some (key, after) => (some key, after)
        | none => (none, rest)
      | _ => (none, rest)
    match rest with
    | [] => some { name := String.ofList name, key }
    | '=' :: value => some { name := String.ofList name, key, value := some value }
    | '+' :: '=' :: value => some { name := String.ofList name, key, append := true, value := some value }
    | _ => none

/-- The options at the front of words, each with its sign, and the words after them. -/
def signedOptions : List Str → List (Bool × Char) × List Str
  | [] => ([], [])
  | w :: rest =>
    match w with
    | ['-', '-'] => ([], rest)
    | '-' :: c :: more =>
      let (options, words) := signedOptions rest
      (((c :: more).map fun c => (true, c)) ++ options, words)
    | '+' :: c :: more =>
      let (options, words) := signedOptions rest
      (((c :: more).map fun c => (false, c)) ++ options, words)
    | _ => ([], w :: rest)

/-- Say that something is no name. -/
def notIdentifier (command : String) (w : Str) : Sh Unit :=
  complainAs command (['\x60'] ++ w ++ "': not a valid identifier".toList)

/-- Say that there is no such option, and how a command is used. -/
def invalidOption (command : String) (option : Str) (usage : String) : Sh Nat := do
  complainAs command (option ++ ": invalid option".toList)
  Sh.putError (command.toList ++ ": usage: ".toList ++ usage.toList ++ ['\n'])
  return 2

/-! ## Local variables -/

/-- Hide a variable until the function that runs ends. -/
def hideVariable (name : String) : Sh Unit :=
  Sh.change fun s =>
    match s.hidden with
    | [] => s
    | top :: rest =>
      if top.any fun (n, _) => n == name then s
      else
        let old := s.entry? name
        { s.dropVariable name with hidden := ((name, old) :: top) :: rest }

/-- Variables hidden by a function show again. -/
def showHidden (top : List (String × Option Variable)) (s : ShellState) : ShellState :=
  top.foldl (fun s (name, old) =>
    match old with
    | some v => s.setVariable name v
    | none => s.dropVariable name) s

/-! ## Attributes -/

/-- An attribute given or taken by an option. -/
def Variable.withFlag (v : Variable) (on : Bool) (flag : Char) : Variable :=
  match flag with
  | 'x' => { v with exported := on }
  | 'r' => { v with fixed := v.fixed || on }
  | 'i' => { v with integer := on }
  | 'l' => { v with letters := if on then .lower else .kept }
  | 'u' => { v with letters := if on then .upper else .kept }
  | 'a' =>
    match v.value with
    | .text s => { v with value := .indexed [(0, s)] }
    | .absent => { v with value := .indexed [] }
    | _ => v
  | 'A' =>
    match v.value with
    | .text s => { v with value := .keyed [(['0'], s)] }
    | .absent => { v with value := .keyed [] }
    | _ => v
  | _ => v

/-- Give a variable the value of an assignment; whether that is allowed. -/
def assignFrom (a : AssignmentWord) : Sh Unit := do
  match a.value with
  | none => return ()
  | some text =>
    let s ← Sh.getState
    let key ← match a.key with
      | none => pure none
      | some k =>
        match s.value a.name with
        | .keyed _ => pure (some (Key.name k))
        | _ => do pure (some (Key.index (← evaluateOrDie "" k)))
    assignText a.name key a.append text

/-- The variables that the shell alone gives values to, without a message. -/
def ownedNames : List String := ["BASH_SOURCE", "FUNCNAME", "GROUPS"]

/-- Whether a variable belongs to no function that runs. -/
def ShellState.isGlobal (s : ShellState) (name : String) : Bool :=
  s.hidden.all fun top => top.all fun (n, _) => n != name

/-- Declare a variable: attributes first, then the value, and only then that it may not be changed. -/
def declareOne (command : String) (options : List (Bool × Char)) (isLocal : Bool) (w : Str) : Sh Bool := do
  let exports := command == "export" || command == "readonly"
  match assignmentWord? w with
  | none => notIdentifier command w; return false
  | some { name, key := some key, .. } =>
    if exports then
      notIdentifier command (name.toList ++ ['['] ++ key ++ [']'])
      return false
    else declare exports ((assignmentWord? w).getD { name })
  | some a => declare exports a
where
  /-- Declare what a word says. -/
  declare (exports : Bool) (a : AssignmentWord) : Sh Bool := do
    let s ← Sh.getState
    let isClosed := isLocal && s.isFixed a.name && s.isGlobal a.name
    if isLocal && !isClosed then hideVariable a.name
    let s ← Sh.getState
    if isClosed then
      complainAs command (fixedMessage a.name)
      return false
    else if ownedNames.contains a.name && a.value.isSome then return false
    else if s.isFixed a.name && (a.value.isSome || options.contains (false, 'r')) then
      let front := if exports then "" else command ++ ": "
      complain (front.toList ++ fixedMessage a.name)
      return false
    else
      let (last, first) := options.partition fun (_, c) => c == 'r'
      let give (options : List (Bool × Char)) : Sh Unit :=
        Sh.change fun s => s.setVariable a.name
          (options.foldl (fun v (on, c) => v.withFlag on c) (s.variableOrNew a.name))
      give first
      assignFrom a
      give last
      return true

/-- Declare variables; the status tells whether all could be. -/
def declareAll (command : String) (options : List (Bool × Char)) (isLocal : Bool) (words : List Str) : Sh Nat := do
  let results ← Sh.mapList (declareOne command options isLocal) words
  return if results.all id then 0 else 1

/-! ## Lists -/

/-- The names of variables in order. -/
def sortedNames (s : ShellState) (keep : Variable → Bool) : List (String × Variable) :=
  (s.bindings.filter fun (_, v) => keep v).mergeSort fun a b => textLe a.1.toList b.1.toList

/-- Write the declarations of variables. -/
def listDeclarations (keep : Variable → Bool) : Sh Nat := do
  let s ← Sh.getState
  let lines := (sortedNames s keep).flatMap fun (name, v) => declaration name v ++ ['\n']
  Sh.write 1 lines
  return 0

/-- Write the variables that have values, as assignments. -/
def listVariables : Sh Nat := do
  let s ← Sh.getState
  let lines := (sortedNames s fun v => v.value.text?.isSome || v.value.isArray).flatMap fun (name, v) =>
    let value := if v.value.isArray then declaredItems v.value else listedValue (v.value.text?.getD [])
    name.toList ++ '=' :: value ++ ['\n']
  Sh.write 1 lines
  return 0

/-- Write the declarations of variables by name. -/
def listNamed (command : String) (words : List Str) : Sh Nat := do
  let results ← Sh.mapList (fun w => do
    let s ← Sh.getState
    match s.entry? (String.ofList w), s.special? (String.ofList w) with
    | some v, _ => Sh.write 1 (declaration (String.ofList w) v ++ ['\n']); return true
    | none, some value =>
      Sh.write 1 (declaration (String.ofList w) { value } ++ ['\n'])
      return true
    | none, none => complainAs command (w ++ ": not found".toList); return false) words
  return if results.all id then 0 else 1

/-! ## Commands -/

/-- Declare variables that programs inherit. -/
def runExport (words : List Str) : Sh Nat := do
  let (options, rest) := signedOptions words
  match options.find? fun (on, c) => !on || !(['n', 'p', 'f'].contains c) with
  | some (_, c) => invalidOption "export" ['-', c] "export [-fn] [name[=value] ...] or export -p"
  | none =>
    let has (c : Char) : Bool := options.contains (true, c)
    if rest.isEmpty then listDeclarations Variable.exported
    else if has 'f' then
      let s ← Sh.getState
      let results ← Sh.mapList (fun w => do
        if s.functions.any fun (n, _) => n.toList == w then return true
        else
          complainAs "export" (w ++ ": not a function".toList)
          return false) rest
      return if results.all id then 0 else 1
    else declareAll "export" [(!has 'n', 'x')] false rest

/-- Declare variables that may not be changed. -/
def runReadonly (words : List Str) : Sh Nat := do
  let (options, rest) := signedOptions words
  match options.find? fun (on, c) => !on || !(['a', 'A', 'p', 'f'].contains c) with
  | some (_, c) => invalidOption "readonly" ['-', c] "readonly [-aAf] [name[=value] ...] or readonly -p"
  | none =>
    if rest.isEmpty then listDeclarations Variable.fixed
    else
      declareAll "readonly" ((true, 'r') :: options.filter fun (_, c) => c == 'a' || c == 'A') false rest

/-- Declare variables with attributes. -/
def runDeclare (command : String) (words : List Str) : Sh Nat := do
  let (options, rest) := signedOptions words
  let known := ['a', 'A', 'f', 'F', 'g', 'i', 'I', 'l', 'n', 'r', 't', 'u', 'x', 'p']
  let s ← Sh.getState
  match options.find? fun (_, c) => !known.contains c with
  | some (on, c) =>
    let usage := if command == "local" then "local [option] name[=value] ..."
      else command ++ " [-aAfFgiIlnrtux] [name[=value] ...] or " ++ command ++ " -p [-aAfFilnrtux] [name ...]"
    invalidOption command [if on then '-' else '+', c] usage
  | none =>
    let has (c : Char) : Bool := options.any fun (_, d) => d == c
    if command == "local" && s.hidden.isEmpty then
      complainAs "local" "can only be used in a function".toList
      return 1
    else if has 'f' || has 'F' then
      let names := if rest.isEmpty then s.functions.map fun (n, _) => n.toList else rest
      let results ← Sh.mapList (fun w => do
        if s.functions.any fun (n, _) => n.toList == w then
          Sh.write 1 ((if rest.isEmpty then "declare -f ".toList else []) ++ w ++ ['\n'])
          return true
        else return false) names
      return if results.all id then 0 else 1
    else if has 'p' then
      if rest.isEmpty then listDeclarations (fun _ => true) else listNamed command rest
    else if rest.isEmpty then
      let wanted := options.filter fun (on, c) => on && c != 'g'
      if wanted.isEmpty then listVariables
      else listDeclarations fun v => wanted.all fun (_, c) => v.flags.contains c
    else declareAll command options (!s.hidden.isEmpty && !has 'g') rest

/-- Remove variables or functions. -/
def runUnset (words : List Str) : Sh Nat := do
  let (options, rest) := signedOptions words
  match options.find? fun (on, c) => !on || !(['f', 'v', 'n'].contains c) with
  | some (_, c) => invalidOption "unset" ['-', c] "unset [-f] [-v] [-n] [name ...]"
  | none =>
    let results ← Sh.mapList (removeOne (options.contains (true, 'f')) (options.contains (true, 'v'))) rest
    return if results.all id then 0 else 1
where
  /-- Remove a function. -/
  removeFunction (w : Str) : Sh Unit :=
    Sh.change fun s => { s with functions := s.functions.filter fun (n, _) => n.toList != w }
  /-- Remove one of them. -/
  removeOne (isFunction isVariable : Bool) (w : Str) : Sh Bool := do
    let s ← Sh.getState
    if isFunction then removeFunction w; return true
    else
      match assignmentWord? w with
      | some { name, key, append := false, value := none } =>
        match key with
        | some k =>
          let whole := k == ['@'] || k == ['*']
          if s.isFixed name then
            complainAs "unset" (name.toList ++ ": cannot unset: readonly variable".toList)
            return false
          else if whole then Sh.change fun s => s.assignValue name (.indexed []); return true
          else
            let element ← match s.value name with
              | .keyed _ => pure (Key.name k)
              | _ => do pure (Key.index (← evaluateOrDie "" k))
            Sh.change fun s => s.assignValue name ((s.value name).dropElement element)
            return true
        | none =>
          if (s.entry? name).isSome then
            if s.isFixed name then
              complainAs "unset" (name.toList ++ ": cannot unset: readonly variable".toList)
              return false
            else Sh.change fun s => s.dropVariable name; return true
          else
            if !isVariable then removeFunction w
            return true
      | _ =>
        if isVariable || !(s.functions.any fun (n, _) => n.toList == w) then
          notIdentifier "unset" w
          return false
        else removeFunction w; return true

/-! ## Options of the shell -/

/-- The options that a letter or a name stands for. -/
def setOption? (matchesKey : String → Option Char → Bool) (on : Bool) (o : Options) : Option Options :=
  (optionTable.find? fun (name, letter, _, _) => matchesKey name letter).map fun (_, _, _, put) => put on o

/-- Names and letters of options that are known and change nothing here. -/
def idleOptions : List String :=
  ["braceexpand", "emacs", "hashall", "histexpand", "history", "ignoreeof", "interactive-comments",
    "keyword", "monitor", "nolog", "notify", "onecmd", "physical", "posix", "privileged", "vi"]

/-- Write the options by name. -/
def listOptions (asCommands : Bool) : Sh Nat := do
  let s ← Sh.getState
  let isOn (name : String) : Bool := (optionNames s.options).contains name
  let names := ((optionTable.map (·.1)) ++ idleOptions).mergeSort fun a b => a ≤ b
  let lines := names.flatMap fun name =>
    if asCommands then
      (if isOn name then "set -o " else "set +o ").toList ++ name.toList ++ ['\n']
    else
      name.toList ++ List.replicate (15 - name.length) ' ' ++ '\t' :: (if isOn name then "on\n" else "off\n").toList
  Sh.write 1 lines
  return 0

/-- Set options and positional parameters. -/
def setWords : Nat → List Str → Sh Nat
  | 0, _ => return 0
  | fuel + 1, words => do
    match words with
    | [] => return 0
    | w :: rest =>
      match w with
      | ['-', '-'] => Sh.change fun s => { s with params := rest }; return 0
      | ['-'] =>
        Sh.change fun s =>
          let options := { s.options with xtrace := false, verbose := false }
          { s with options, params := if rest.isEmpty then s.params else rest }
        return 0
      | sign :: c :: more =>
        if sign == '-' || sign == '+' then letters fuel (sign == '-') (c :: more) rest
        else Sh.change fun s => { s with params := words }; return 0
      | _ => Sh.change fun s => { s with params := words }; return 0
where
  /-- Set the options that letters stand for. -/
  letters (fuel : Nat) (on : Bool) : Str → List Str → Sh Nat
    | [], rest => setWords fuel rest
    | 'o' :: more, rest => do
      match rest with
      | [] => listOptions (!on)
      | name :: rest =>
        let key := String.ofList name
        let s ← Sh.getState
        match setOption? (fun n _ => n == key) on s.options with
        | some options => Sh.change fun s => { s with options }; letters fuel on more rest
        | none =>
          if idleOptions.contains key then letters fuel on more rest
          else
            complainAs "set" (name ++ ": invalid option name".toList)
            return 2
    | c :: more, rest => do
      let s ← Sh.getState
      match setOption? (fun _ l => l == some c) on s.options with
      | some options => Sh.change fun s => { s with options }; letters fuel on more rest
      | none =>
        if ['b', 'h', 'k', 'm', 'p', 't', 'B', 'H', 'P'].contains c then letters fuel on more rest
        else
          invalidOption "set" [if on then '-' else '+', c]
            "set [-abefhkmnptuvxBCEHPT] [-o option-name] [--] [-] [arg ...]"

/-- Set options and positional parameters, or write the variables. -/
def runSet (words : List Str) : Sh Nat := if words.isEmpty then listVariables else setWords (words.length + 1) words

/-- The options of the second kind. -/
def extraOptions : List String :=
  ["autocd", "assoc_expand_once", "cdable_vars", "cdspell", "checkhash", "checkjobs", "checkwinsize", "cmdhist",
    "compat31", "dirspell", "dotglob", "execfail", "expand_aliases", "extdebug", "extglob", "extquote",
    "failglob", "force_fignore", "globasciiranges", "globskipdots", "globstar", "histappend", "histreedit",
    "histverify", "hostcomplete", "huponexit", "inherit_errexit", "interactive_comments", "lastpipe", "lithist",
    "localvar_inherit", "localvar_unset", "login_shell", "mailwarn", "nocaseglob", "nocasematch", "nullglob",
    "patsub_replacement", "progcomp", "promptvars", "restricted_shell", "shift_verbose", "sourcepath",
    "varredir_close", "xpg_echo"]

/-- Set options of the second kind. -/
def runShopt (words : List Str) : Sh Nat := do
  let (options, names) := signedOptions words
  let has (c : Char) : Bool := options.contains (true, c)
  let results ← Sh.mapList (fun w => do
    let name := String.ofList w
    if !extraOptions.contains name then
      complainAs "shopt" (w ++ ": invalid shell option name".toList)
      return false
    else
      let s ← Sh.getState
      let isOn := s.extras.contains name
      if has 's' then
        Sh.change fun s => { s with extras := if isOn then s.extras else s.extras ++ [name] }
        return true
      else if has 'u' then
        Sh.change fun s => { s with extras := s.extras.filter (· != name) }
        return true
      else
        if !has 'q' then
          Sh.write 1 (w ++ List.replicate (15 - w.length) ' ' ++ '\t' :: (if isOn then "on\n" else "off\n").toList)
        return isOn) names
  return if results.all id then 0 else 1

/-- Drop positional parameters. -/
def runShift (words : List Str) : Sh Nat := do
  let s ← Sh.getState
  match words with
  | [] =>
    if s.params.isEmpty then return 1
    else Sh.change fun s => { s with params := s.params.drop 1 }; return 0
  | w :: _ =>
    match readInt? w with
    | none => complainAs "shift" (w ++ ": numeric argument required".toList); return 1
    | some n =>
      if n < 0 then complainAs "shift" (w ++ ": shift count out of range".toList); return 1
      else if (s.params.length : Int) < n then return 1
      else Sh.change fun s => { s with params := s.params.drop n.toNat }; return 0

/-! ## Reading input -/

/-- How input is read. -/
structure ReadOptions where
  raw : Bool := false
  array : Option String := none
  stop : Char := '\n'
  /-- How many characters to read at most, and whether the end of a line counts as one of them. -/
  count : Option Nat := none
  exact : Bool := false
  fd : Nat := 0
  prompt : Str := []

/-- The options at the front of words. -/
def readOptions : Nat → ReadOptions → List Str → Except Char (ReadOptions × List Str)
  | 0, o, words => .ok (o, words)
  | fuel + 1, o, words =>
    match words with
    | ['-', '-'] :: rest => .ok (o, rest)
    | ('-' :: c :: more) :: rest => letters fuel o (c :: more) rest
    | _ => .ok (o, words)
where
  /-- The options that letters stand for; some take what follows them. -/
  letters (fuel : Nat) (o : ReadOptions) : Str → List Str → Except Char (ReadOptions × List Str)
    | [], rest => readOptions fuel o rest
    | c :: more, rest =>
      if c == 'r' then letters fuel { o with raw := true } more rest
      else if c == 's' || c == 'e' then letters fuel o more rest
      else if ['a', 'd', 'n', 'N', 'p', 't', 'u', 'i'].contains c then
        let (value, rest) := if more.isEmpty then (rest.headD [], rest.drop 1) else (more, rest)
        let number := Decimal.valueFrom 0 (value.takeWhile Char.isDigit)
        let o := match c with
          | 'a' => { o with array := some (String.ofList value) }
          | 'd' => { o with stop := value.headD (Char.ofNat 0) }
          | 'n' => { o with count := some number }
          | 'N' => { o with count := some number, exact := true }
          | 'p' => { o with prompt := value }
          | 'u' => { o with fd := number }
          | _ => o
        readOptions fuel o rest
      else .error c

/-- Read up to a character: the characters with marks on those behind a backslash, and whether the stop
was found. -/
def readMarked (o : ReadOptions) : Nat → List Marked → Sh (List Marked × Bool)
  | 0, found => return (found, false)
  | fuel + 1, found => do
    match ← Sh.ask (.readTo o.fd o.stop) with
    | .text t =>
      let ended := t.getLast? == some o.stop
      let body := if ended then t.dropLast else t
      if o.raw then return (found ++ mark false (body.filter fun c => c.toNat != 0), ended)
      else
        let (text, joins) := unescaped body
        let found := found ++ text
        if joins && ended then
          if o.stop == '\n' then readMarked o fuel found
          else readMarked o fuel (found ++ [(o.stop, true)])
        else return (found, ended)
    | _ => return (found, false)
where
  /-- Characters behind backslashes are marked; whether the text ends with a backslash of its own. -/
  unescaped : Str → List Marked × Bool
    | [] => ([], false)
    | ['\\'] => ([], true)
    | '\\' :: c :: rest =>
      let (more, joins) := unescaped rest
      (if c == '\n' then more else (c, true) :: more, joins)
    | c :: rest =>
      let (more, joins) := unescaped rest
      ((c, false) :: more, joins)

/-- Read some characters. -/
def readCount (o : ReadOptions) : Nat → Str → Sh (Str × Bool)
  | 0, found => return (found, true)
  | n + 1, found => do
    match ← Sh.ask (.read o.fd 1) with
    | .text [c] => if c == o.stop && !o.exact then return (found, true) else readCount o n (found ++ [c])
    | _ => return (found, false)

/-- Whether a marked character separates fields as a blank. -/
def isFieldBlank (separators : Str) (m : Marked) : Bool :=
  !m.2 && separators.contains m.1 && (m.1 == ' ' || m.1 == '\t' || m.1 == '\n')

/-- Text without blanks that separate fields at its end. -/
def dropFieldBlanks (separators : Str) (s : List Marked) : List Marked :=
  (s.reverse.dropWhile (isFieldBlank separators)).reverse

/-- The first field of a text, and what is left. -/
def takeField (separators : Str) (s : List Marked) : List Marked × List Marked :=
  let isSeparator (m : Marked) : Bool := !m.2 && separators.contains m.1
  let field := s.takeWhile fun m => !isSeparator m
  let rest := (s.drop field.length).dropWhile (isFieldBlank separators)
  match rest with
  | m :: more =>
    if isSeparator m then (field, more.dropWhile (isFieldBlank separators)) else (field, rest)
  | [] => (field, [])

/-- The texts for so many variables; the last one gets all that is left. -/
def readFields (separators : Str) : Nat → List Marked → List Str
  | 0, _ => []
  | 1, s =>
    let (field, rest) := takeField separators s
    if rest.isEmpty then [unmark field] else [unmark (dropFieldBlanks separators s)]
  | n + 1, s =>
    let (field, rest) := takeField separators s
    unmark field :: readFields separators n rest

/-- All fields of a text. -/
def allFields (separators : Str) : Nat → List Marked → List Str
  | 0, _ => []
  | fuel + 1, s =>
    if s.isEmpty then []
    else
      let (field, rest) := takeField separators s
      unmark field :: allFields separators fuel rest

/-- Read a line into variables. -/
def runRead (words : List Str) : Sh Nat := do
  match readOptions (words.length + 1) {} words with
  | .error c =>
    invalidOption "read" ['-', c]
      ("read [-ers] [-a array] [-d delim] [-i text] [-n nchars] [-N nchars] [-p prompt] [-t timeout] " ++
        "[-u fd] [name ...]")
  | .ok (o, names) =>
    match names.find? fun n => (assignmentWord? n).all fun a => a.value.isSome with
    | some bad => notIdentifier "read" bad; return 1
    | none =>
      let (text, ended) ← match o.count with
        | some n => do
          let (t, ended) ← readCount o n []
          pure (mark false t, ended)
        | none => readMarked o Sh.manyReads []
      let separators := (← Sh.getState).separators
      match o.array, names with
      | some name, _ =>
        let front := text.dropWhile (isFieldBlank separators)
        let items := allFields separators (front.length + 1) front
        Sh.change fun s => s.assignValue name (Value.ofList items)
      | none, [] => assignText "REPLY" none false (unmark text)
      | none, names =>
        let front := dropFieldBlanks separators (text.dropWhile (isFieldBlank separators))
        let values := if o.exact then unmark text :: names.map fun _ => []
          else readFields separators names.length front
        Sh.forEach (fun (n, v) =>
          match assignmentWord? n with
          | some a => assignFrom { a with value := some v }
          | none => pure ()) (names.zip values)
      return if ended then 0 else 1

/-- Read lines into an array. -/
def runMapfile (words : List Str) : Sh Nat := do
  let text ← Sh.readInput
  let strips := words.contains "-t".toList
  let name := ((words.filter fun w => w.head? != some '-').getLast?.getD "MAPFILE".toList)
  let pieces := Text.splitAll '\n' text
  let full := pieces.dropLast.map fun l => if strips then l else l ++ ['\n']
  let last := (pieces.getLast?).getD []
  let lines := if last.isEmpty then full else full ++ [last]
  Sh.change fun s => s.assignValue (String.ofList name) (Value.ofList lines)
  return 0

/-! ## Reading options of scripts -/

/-- Look at the next option of a script. -/
def runGetopts (words : List Str) : Sh Nat := do
  match words with
  | known :: name :: given =>
    let s ← Sh.getState
    let name := String.ofList name
    let args := if given.isEmpty then s.params else given
    let index := (((s.text? "OPTIND").bind readInt?).getD 1).toNat
    let place := s.optionPlace
    let silent := known.head? == some ':'
    let finish : Sh Nat := do
      assignText name none false ['?']
      Sh.change fun s => s.dropVariable "OPTARG"
      return 1
    match args[index - 1]? with
    | none => finish
    | some word =>
      if place = 0 && (word.head? != some '-' || word.length < 2) then finish
      else if place = 0 && word == "--".toList then
        assignText "OPTIND" none false (showNat (index + 1))
        finish
      else
        let place := if place = 0 then 1 else place
        let c := word.getD place '?'
        let isLast := word.length ≤ place + 1
        let goTo (index place : Nat) : Sh Unit := do
          assignText "OPTIND" none false (showNat index)
          Sh.change fun s => { s with optionPlace := place }
        let step : Sh Unit := if isLast then goTo (index + 1) 0 else goTo index (place + 1)
        let front := s.name ++ ": ".toList
        match known.dropWhile (· != c) with
        | ':' :: _ => unknown step silent front name c
        | [] => unknown step silent front name c
        | _ :: ':' :: _ =>
          if !isLast then
            assignText "OPTARG" none false (word.drop (place + 1))
            goTo (index + 1) 0
            assignText name none false [c]
            return 0
          else
            match args[index]? with
            | some value =>
              assignText "OPTARG" none false value
              goTo (index + 2) 0
              assignText name none false [c]
              return 0
            | none =>
              goTo (index + 1) 0
              if silent then
                assignText "OPTARG" none false [c]
                assignText name none false [':']
              else
                Sh.putError (front ++ "option requires an argument -- ".toList ++ [c, '\n'])
                Sh.change fun s => s.dropVariable "OPTARG"
                assignText name none false ['?']
              return 0
        | _ =>
          step
          Sh.change fun s => s.dropVariable "OPTARG"
          assignText name none false [c]
          return 0
  | _ =>
    Sh.putError "getopts: usage: getopts optstring name [arg ...]\n".toList
    return 2
where
  /-- An option that is not known. -/
  unknown (step : Sh Unit) (silent : Bool) (front : Str) (name : String) (c : Char) : Sh Nat := do
    step
    if silent then assignText "OPTARG" none false [c]
    else
      Sh.putError (front ++ "illegal option -- ".toList ++ [c, '\n'])
      Sh.change fun s => s.dropVariable "OPTARG"
    assignText name none false ['?']
    return 0

end FuzzCampaign.Shell
