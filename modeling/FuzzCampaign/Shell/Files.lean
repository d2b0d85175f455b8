import FuzzCampaign.Shell.Process
import FuzzCampaign.Text.Blank
set_option autoImplicit false

/-! # Files

The files of a machine: names in a tree of directories, each of which stands for a node. A node lives as
long as a name or an open file refers to it. -/

namespace FuzzCampaign.Shell

/-- What a node is. -/
inductive NodeContent where
  | file (text : Str)
  | directory
  | link (target : Str)
  /-- Reading ends at once, writing does nothing. -/
  | null
  /-- Reading never ends. -/
  | zero
  /-- One of the descriptors of the process that opens it. -/
  | descriptor (fd : Nat)
  /-- A program of the system. -/
  | program (name : String)

/-- A node. -/
structure FileNode where
  content : NodeContent
  mode : Nat
  modified : Nat := 0

/-- The files of a machine. -/
structure Files where
  /-- Absolute paths without links and dots, and their nodes. -/
  names : List (Str × Nat)
  nodes : List (Nat × FileNode)
  next : Nat

namespace Files

/-! ## Paths -/

/-- The parts of a path. -/
def parts (path : Str) : List Str := (Text.splitAll '/' path).filter fun p => !p.isEmpty

/-- The path of parts. -/
def ofParts (ps : List Str) : Str := if ps.isEmpty then ['/'] else ps.flatMap fun p => '/' :: p

/-- A path without dots, by its text alone. -/
def tidy (path : Str) : Str :=
  ofParts ((parts path).foldl (fun found p =>
    if p == ['.'] then found else if p == ['.', '.'] then found.dropLast else found ++ [p]) [])

/-- A path relative to a directory, made absolute. -/
def absolute (dir path : Str) : Str :=
  match path with
  | '/' :: _ => path
  | _ => if dir == ['/'] then '/' :: path else dir ++ '/' :: path

/-- The directory that a path is in. -/
def parent (path : Str) : Str := ofParts (parts path).dropLast

/-- The last part of a path. -/
def lastPart (path : Str) : Str := ((parts path).getLast?).getD []

/-! ## Looking up -/

/-- The node of a number. -/
def node? (fs : Files) (id : Nat) : Option FileNode := fs.nodes.lookup id

/-- The number of the node of a path without links and dots. -/
def id? (fs : Files) (path : Str) : Option Nat := fs.names.lookup path

/-- The node of a path without links and dots. -/
def at? (fs : Files) (path : Str) : Option FileNode := (fs.id? path).bind fs.node?

/-- Follow a path: the path without links and dots, of something that need not exist itself. -/
def resolve (fs : Files) (followLast : Bool) : Nat → Str → List Str → Except Errno Str
  | 0, _, _ => .error .tooManyLinks
  | _ + 1, here, [] => .ok here
  | fuel + 1, here, p :: rest =>
    if p == ['.'] then resolve fs followLast fuel here rest
    else if p == ['.', '.'] then resolve fs followLast fuel (parent here) rest
    else
      let there := absolute here p
      match (fs.at? there).map FileNode.content with
      | some (.link target) =>
        if rest.isEmpty && !followLast then .ok there
        else
          let start : Str := if target.head? == some '/' then ['/'] else here
          resolve fs followLast fuel start (parts target ++ rest)
      | some .directory => resolve fs followLast fuel there rest
      | some _ => if rest.isEmpty then .ok there else .error .notDirectory
      | none => if rest.isEmpty then .ok there else .error .noEntry

/-- Follow an absolute path. -/
def find (fs : Files) (followLast : Bool) (path : Str) : Except Errno Str :=
  let ps := parts path
  match fs.resolve followLast (ps.length + 40) ['/'] ps with
  | .error e => .error e
  | .ok there =>
    let needsDirectory := path.getLast? == some '/'
    match needsDirectory, (fs.at? there).map FileNode.content with
    | true, some .directory => .ok there
    | true, some _ => .error .notDirectory
    | _, _ => .ok there

/-- What is known of a node. -/
def infoOf (id : Nat) (n : FileNode) : FileInfo :=
  let base : FileInfo := { kind := .device, size := 0, mode := n.mode, modified := n.modified, id }
  match n.content with
  | .file text => { base with kind := .file, size := text.length }
  | .directory => { base with kind := .directory, size := 4096 }
  | .link target => { base with kind := .link, size := target.length }
  | .program name => { base with kind := .file, size := 100000, program := some name }
  | .null => base
  | .zero => base
  | .descriptor _ => base

/-- What is known of a path. -/
def info (fs : Files) (followLink : Bool) (path : Str) : Except Errno FileInfo := do
  let there ← fs.find followLink path
  match fs.id? there with
  | none => .error .noEntry
  | some id =>
    match fs.node? id with
    | some n => .ok (infoOf id n)
    | none => .error .noEntry

/-! ## Changing -/

/-- The node of a number with another value. -/
def setNode (fs : Files) (id : Nat) (n : FileNode) : Files :=
  { fs with nodes := fs.nodes.map fun (i, old) => if i == id then (i, n) else (i, old) }

/-- A new node under a path, in place of what was there. -/
def put (fs : Files) (path : Str) (n : FileNode) : Files :=
  { names := fs.names.filter (·.1 != path) ++ [(path, fs.next)],
    nodes := fs.nodes ++ [(fs.next, n)], next := fs.next + 1 }

/-- Whether the directory of a path exists. -/
def parentExists (fs : Files) (path : Str) : Bool :=
  match (fs.at? (parent path)).map FileNode.content with
  | some .directory => true
  | _ => false

/-- A new node under a path that has none. -/
def putNew (fs : Files) (path : Str) (n : FileNode) : Except Errno Files :=
  if (fs.id? path).isSome then .error .exists
  else if fs.parentExists path then .ok (fs.put path n)
  else .error .noEntry

/-- Without a name. -/
def unname (fs : Files) (path : Str) : Files := { fs with names := fs.names.filter (·.1 != path) }

/-- Whether one path is another or leads through it. -/
def isBelow (dir path : Str) : Bool := path == dir || (dir ++ ['/']).isPrefixOf path

/-- The names in a directory. -/
def namesIn (fs : Files) (dir : Str) : List Str :=
  (fs.names.filter fun (path, _) => path != ['/'] && parent path == dir).map fun (path, _) => lastPart path

/-- Remove everything under a path. -/
def removeTree (fs : Files) (dir : Str) : Files :=
  { fs with names := fs.names.filter fun (path, _) => !isBelow dir path }

/-- Carry out a request about names at a time. -/
def carryOut (fs : Files) (now : Nat) : FileRequest → Except Errno (Answer × Files)
  | .info path followLink => do return (.info (← fs.info followLink path), fs)
  | .makeDirectory path => do
    let there ← fs.find true path
    return (.done, ← fs.putNew there { content := .directory, mode := 0o755, modified := now })
  | .removeDirectory path => do
    let there ← fs.find false path
    match (fs.at? there).map FileNode.content with
    | none => .error .noEntry
    | some .directory =>
      if (fs.namesIn there).isEmpty then return (.done, fs.unname there) else .error .notEmpty
    | some _ => .error .notDirectory
  | .remove path => do
    let there ← fs.find false path
    match (fs.at? there).map FileNode.content with
    | none => .error .noEntry
    | some .directory => .error .isDirectory
    | some _ => return (.done, fs.unname there)
  | .rename source target => do
    let old ← fs.find false source
    let new ← fs.find false target
    match fs.id? old with
    | none => .error .noEntry
    | some _ =>
      if old == new then return (.done, fs)
      else if !fs.parentExists new then .error .noEntry
      else if isBelow old new then .error .invalid
      else
        match (fs.at? old).map FileNode.content, (fs.at? new).map FileNode.content with
        | some .directory, some .directory =>
          if !(fs.namesIn new).isEmpty then .error .notEmpty
          else return (.done, move fs old new)
        | some .directory, some _ => .error .notDirectory
        | _, some .directory => .error .isDirectory
        | _, _ => return (.done, move fs old new)
  | .symlink target path => do
    let there ← fs.find false path
    return (.done, ← fs.putNew there { content := .link target, mode := 0o777, modified := now })
  | .hardLink source path => do
    let old ← fs.find false source
    let there ← fs.find false path
    match fs.id? old, fs.id? there with
    | none, _ => .error .noEntry
    | _, some _ => .error .exists
    | some id, none =>
      if fs.parentExists there then return (.done, { fs with names := fs.names ++ [(there, id)] })
      else .error .noEntry
  | .readLink path => do
    match (fs.at? (← fs.find false path)).map FileNode.content with
    | some (.link target) => return (.text target, fs)
    | some _ => .error .invalid
    | none => .error .noEntry
  | .list path => do
    let there ← fs.find true path
    match (fs.at? there).map FileNode.content with
    | some .directory => return (.names (fs.namesIn there), fs)
    | some _ => .error .notDirectory
    | none => .error .noEntry
  | .setMode path mode => do
    let there ← fs.find true path
    match fs.id? there, fs.at? there with
    | some id, some n => return (.done, fs.setNode id { n with mode })
    | _, _ => .error .noEntry
  | .touch path => do
    let there ← fs.find true path
    match fs.id? there, fs.at? there with
    | some id, some n => return (.done, fs.setNode id { n with modified := now })
    | _, _ => return (.done, ← fs.putNew there { content := .file [], mode := 0o644, modified := now })
  | .truncate path size => do
    let there ← fs.find true path
    match fs.id? there, fs.at? there with
    | some id, some n =>
      match n.content with
      | .file text =>
        let cut := text.take size ++ List.replicate (size - text.length) (Char.ofNat 0)
        return (.done, fs.setNode id { n with content := .file cut, modified := now })
      | _ => .error .invalid
    | _, _ => .error .noEntry
where
  /-- Everything under one path goes to another. -/
  move (fs : Files) (old new : Str) : Files :=
    let kept := fs.names.filter fun (path, _) => path != new
    { fs with names := kept.map fun (path, id) =>
        if isBelow old path then (new ++ path.drop old.length, id) else (path, id) }

/-! ## The files of a new machine -/

/-- The directories of a new machine. -/
def directories : List String :=
  ["/", "/dev", "/dev/fd", "/etc", "/home", "/opt", "/proc", "/root", "/run", "/srv", "/tmp",
    "/usr", "/usr/bin", "/usr/lib", "/usr/local", "/usr/local/bin", "/usr/local/sbin", "/usr/sbin",
    "/var", "/var/log", "/var/tmp"]

/-- The devices of a new machine. -/
def devices : List (String × NodeContent) :=
  [("/dev/null", .null), ("/dev/zero", .zero), ("/dev/stdin", .descriptor 0),
    ("/dev/stdout", .descriptor 1), ("/dev/stderr", .descriptor 2), ("/dev/fd/0", .descriptor 0),
    ("/dev/fd/1", .descriptor 1), ("/dev/fd/2", .descriptor 2)]

/-- The links of a new machine. -/
def links : List (String × String) := [("/bin", "usr/bin"), ("/sbin", "usr/sbin"), ("/lib", "usr/lib")]

/-- The files of a new machine with these programs. -/
def fresh (programs : List String) : Files :=
  let empty : Files := ⟨[], [], 0⟩
  let fs := directories.foldl (fun fs d =>
    fs.put d.toList { content := .directory, mode := 0o755 }) empty
  let fs := devices.foldl (fun fs (path, content) => fs.put path.toList { content, mode := 0o666 }) fs
  let fs := links.foldl (fun fs (path, target) =>
    fs.put path.toList { content := .link target.toList, mode := 0o777 }) fs
  programs.foldl (fun fs name =>
    fs.put ("/usr/bin/" ++ name).toList { content := .program name, mode := 0o755 }) fs

end Files

end FuzzCampaign.Shell
