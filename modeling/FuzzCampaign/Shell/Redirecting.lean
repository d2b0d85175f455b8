import FuzzCampaign.Shell.Signals
set_option autoImplicit false

/-! # Redirecting

Redirections give descriptors another meaning, for one command or for good. What a descriptor meant before
is kept under a number that programs do not inherit, so that it can be put back. -/

namespace FuzzCampaign.Shell

/-- A descriptor and where its old meaning is kept, if it had one. -/
abbrev Kept : Type := Nat × Option Nat

/-- Keep the meaning of a descriptor. -/
def keepDescriptor (fd : Nat) : Sh Kept := do
  match ← Sh.ask (.keep fd 10) with
  | .number n => return (fd, some n)
  | _ => return (fd, none)

/-- Put the old meanings of descriptors back, the last one first. -/
def putBack : List Kept → Sh Unit
  | [] => return ()
  | (fd, some n) :: rest => do
    Sh.tell (.copy n fd)
    Sh.tell (.close n)
    putBack rest
  | (fd, none) :: rest => do
    Sh.tell (.close fd)
    putBack rest

/-- Forget the old meanings of descriptors. -/
def forgetKept (kept : List Kept) : Sh Unit :=
  Sh.forEach (fun (_, n) =>
    match n with
    | some n => Sh.tell (.close n)
    | none => pure ()) kept

/-- Give a descriptor the meaning of another one, which is closed. -/
def moveDescriptor (source target : Nat) : Sh Unit := do
  if source = target then return ()
  else
    Sh.tell (.copy source target)
    Sh.tell (.close source)

section

variable (run : Runner)

/-- The one word that a target stands for; anything else is an error that is told. -/
def targetWord (w : Word) : Sh (Option Str) := do
  match ← expandPieces run w.parts with
  | [path] => return some path
  | _ => complain (w.raw ++ ": ambiguous redirect".toList); return none

/-- Open a file for a descriptor; whether that was possible. -/
def openFor (fd : Nat) (path : Str) (mode : OpenMode) : Sh Bool := do
  let s ← Sh.getState
  if path.isEmpty then
    complain ": No such file or directory".toList
    return false
  else
    match ← Sh.ask (.openFile (Files.absolute s.directory path) mode) with
    | .number opened => moveDescriptor opened fd; return true
    | .refused .exists => complain (path ++ ": cannot overwrite existing file".toList); return false
    | .refused why => complain (path ++ ": ".toList ++ why.message); return false
    | _ => return false

/-- Give a descriptor text to read. -/
def feedText (fd : Nat) (text : Str) : Sh Bool := do
  match ← Sh.ask .pipe with
  | .numbers r w =>
    Sh.write w text
    Sh.tell (.close w)
    moveDescriptor r fd
    return true
  | _ => return false

/-- Give a descriptor the meaning of the one that a word names, or none. -/
def copyNamed (fd : Nat) (name : Str) : Sh Bool := do
  if name == ['-'] then
    Sh.tell (.close fd)
    return true
  else
    let moves := name.getLast? == some '-'
    let digits := if moves then name.dropLast else name
    let source := Decimal.valueFrom 0 digits
    match ← Sh.ask (.copy source fd) with
    | .refused _ => complain (digits ++ ": Bad file descriptor".toList); return false
    | _ =>
      if moves && source != fd then Sh.tell (.close source)
      return true

/-- Whether a word names a descriptor. -/
def namesDescriptor (name : Str) : Bool :=
  name == ['-'] || (!name.isEmpty && (name.takeWhile Char.isDigit).length + 1 ≥ name.length &&
    name.head?.any Char.isDigit && (name.getLast?.any fun c => c.isDigit || c == '-'))

/-- The descriptor of a kind of redirection. -/
def ownDescriptor : RedirectKind → Nat
  | .input => 0
  | .readWrite => 0
  | .copyInput => 0
  | .hereText => 0
  | .hereString => 0
  | _ => 1

/-- Open a file for both outputs. -/
def openBoth (path : Str) (mode : OpenMode) : Sh (Bool × List Kept) := do
  let out ← keepDescriptor 1
  let err ← keepDescriptor 2
  let opened ← openFor 1 path mode
  if opened then Sh.tell (.copy 1 2)
  return (opened, [err, out])

/-- Open the file that a target names for a descriptor. -/
def toFile (fd : Nat) (target : Word) (mode : OpenMode) : Sh (Bool × List Kept) := do
  match ← targetWord run target with
  | none => return (false, [])
  | some path =>
    let kept ← keepDescriptor fd
    return (← openFor fd path mode, [kept])

/-- Open the file that a target names for a descriptor, but do not overwrite a file. -/
def toNewFile (fd : Nat) (target : Word) : Sh (Bool × List Kept) := do
  match ← targetWord run target with
  | none => return (false, [])
  | some path =>
    let kept ← keepDescriptor fd
    let s ← Sh.getState
    let mode ← match ← Sh.ask (.files (.info (Files.absolute s.directory path) true)) with
      | .info i => pure (if i.kind == .file then OpenMode.create else .write)
      | _ => pure OpenMode.create
    return (← openFor fd path mode, [kept])

/-- Give a descriptor the meaning of another one; a target that names none is a file for both outputs,
where that is allowed. -/
def toDescriptor (fd : Nat) (target : Word) (mayBeFile : Bool) : Sh (Bool × List Kept) := do
  match ← targetWord run target with
  | none => return (false, [])
  | some name =>
    if namesDescriptor name then
      let kept ← keepDescriptor fd
      return (← copyNamed fd name, [kept])
    else if mayBeFile then openBoth name .write
    else
      complain (target.raw ++ ": ambiguous redirect".toList)
      return (false, [])

/-- Open the file that a target names for both outputs. -/
def toBoth (target : Word) (mode : OpenMode) : Sh (Bool × List Kept) := do
  match ← targetWord run target with
  | none => return (false, [])
  | some path => openBoth path mode

/-- Carry out a redirection: whether that was possible, and what descriptors meant before. -/
def redirect : Redirect → Sh (Bool × List Kept)
  | .mk given kind target => do
    let fd := given.getD (ownDescriptor kind)
    match kind with
    | .input => toFile run fd target .read
    | .readWrite => toFile run fd target .readWrite
    | .append => toFile run fd target .append
    | .clobber => toFile run fd target .write
    | .output =>
      if (← Sh.getState).options.noclobber then toNewFile run fd target else toFile run fd target .write
    | .both => toBoth run target .write
    | .bothAppend => toBoth run target .append
    | .copyInput => toDescriptor run fd target false
    | .copyOutput => toDescriptor run fd target (given.all fun fd => fd == 1)
    | .hereText =>
      let text ← expandText run .none target.parts
      let kept ← keepDescriptor fd
      return (← feedText fd text, [kept])
    | .hereString =>
      let text ← expandText run .front target.parts
      let kept ← keepDescriptor fd
      return (← feedText fd (text ++ ['\n']), [kept])

/-- Carry out redirections up to one that is not possible: whether all were, and what descriptors meant
before, the last one first. -/
def redirectAll : List Redirect → List Kept → Sh (Bool × List Kept)
  | [], kept => return (true, kept)
  | r :: rest, kept => do
    let (done, more) ← redirect run r
    if done then redirectAll rest (more ++ kept) else return (false, more ++ kept)

/-- Do something with redirections in force. -/
def redirecting (rs : List Redirect) (act : Sh Nat) : Sh Nat := do
  if rs.isEmpty then act
  else
    let (done, kept) ← redirectAll run rs []
    if done then Sh.ensuring act (putBack kept)
    else
      putBack kept
      return 1

end

end FuzzCampaign.Shell
