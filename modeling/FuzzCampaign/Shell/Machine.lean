import FuzzCampaign.Shell.Files
set_option autoImplicit false

/-! # Machines

A machine carries out the requests of its processes. Every process has its own time: whoever is ready
first goes first, and a request takes a little time, so what happens does not depend on anything outside.
One process may be attached: someone outside writes to its input and reads what comes out of the pipes of
its standard output and standard error. -/

namespace FuzzCampaign.Shell

/-! ## State -/

/-- What an open file refers to. -/
inductive OpenThing where
  | node (id : Nat)
  | null
  | zero
  | readEnd (pipe : Nat)
  | writeEnd (pipe : Nat)
deriving DecidableEq

/-- An open file. Processes share it with its offset. -/
structure OpenFile where
  thing : OpenThing
  offset : Nat := 0
  readable : Bool := true
  writable : Bool := true
  append : Bool := false

/-- What a process is doing. -/
inductive Activity where
  /-- It goes on at a time; of those with one time, the one with the lowest turn goes first. -/
  | ready (time turn : Nat) (go : Unit → Process)
  /-- Its request cannot be answered yet. -/
  | blocked (request : Request) (next : Answer → Process)
  | ended (how : Ending)

/-- An entry of a table of descriptors. -/
structure Descriptor where
  fd : Nat
  /-- The open file. -/
  file : Nat
  /-- Whether programs do not inherit it. -/
  hidden : Bool := false

/-- A process of a machine. -/
structure Task where
  pid : Nat
  parent : Nat
  descriptors : List Descriptor
  activity : Activity
  dispositions : List (Nat × Disposition) := []
  /-- Signals that were caught and not yet asked for. -/
  caught : List Nat := []
  stopped : Bool := false

/-- The attached process, and the outer ends of its pipes. -/
structure Attachment where
  pid : Nat
  input : Nat
  output : Nat
  errors : Nat
  /-- Whether the outer end of the input is still open. -/
  inputOpen : Bool := true
  /-- Whether the outer ends of the outputs are still open. -/
  outputOpen : Bool := true
  /-- What arrived of unfinished lines. -/
  outputRest : Str := []
  errorsRest : Str := []
  /-- Lines that arrived; those of standard error are marked. -/
  arrived : List (Bool × Str) := []

/-- A machine. -/
structure Machine where
  clock : Nat := 0
  files : Files
  opened : List (Nat × OpenFile) := []
  pipes : List (Nat × Str) := []
  tasks : List Task := []
  attached : Option Attachment := none
  /-- The next number of a process, an open file, a pipe or a turn. -/
  next : Nat := 300

namespace Machine

/-- How much an unread pipe holds. -/
def pipeRoom : Nat := 65536

/-- How long requests take. -/
def requestTime : Nat := 1500

/-- How long it takes to start a process. -/
def forkTime : Nat := 200000

/-- How long it takes to become another program. -/
def becomeTime : Nat := 600000

/-- A fresh number. -/
def fresh (m : Machine) : Nat × Machine := (m.next, { m with next := m.next + 1 })

/-! ## Descriptors and pipes -/

/-- The process of a number. -/
def task? (m : Machine) (pid : Nat) : Option Task := m.tasks.find? (·.pid == pid)

/-- A process with another state. -/
def setTask (m : Machine) (t : Task) : Machine :=
  { m with tasks := m.tasks.map fun old => if old.pid == t.pid then t else old }

/-- The open file of a descriptor. -/
def opened? (m : Machine) (t : Task) (fd : Nat) : Option (Nat × OpenFile) :=
  match t.descriptors.find? (·.fd == fd) with
  | none => none
  | some d => (m.opened.lookup d.file).map fun f => (d.file, f)

/-- An open file with another state. -/
def setOpened (m : Machine) (id : Nat) (f : OpenFile) : Machine :=
  { m with opened := m.opened.map fun (i, old) => if i == id then (i, f) else (i, old) }

/-- What a pipe holds. -/
def held (m : Machine) (pipe : Nat) : Str := (m.pipes.lookup pipe).getD []

/-- A pipe that holds something else. -/
def setHeld (m : Machine) (pipe : Nat) (text : Str) : Machine :=
  { m with pipes := m.pipes.map fun (i, old) => if i == pipe then (i, text) else (i, old) }

/-- Whether some process has something open. -/
def isOpen (m : Machine) (thing : OpenThing) : Bool :=
  m.tasks.any fun t => t.descriptors.any fun d =>
    match m.opened.lookup d.file with
    | some f => f.thing == thing
    | none => false

/-- Whether anyone can still write to a pipe. -/
def hasWriter (m : Machine) (pipe : Nat) : Bool :=
  m.isOpen (.writeEnd pipe) || m.attached.any fun a => a.inputOpen && a.input == pipe

/-- Whether a pipe is read from outside. -/
def readOutside (m : Machine) (pipe : Nat) : Bool :=
  m.attached.any fun a => a.outputOpen && (a.output == pipe || a.errors == pipe)

/-- Whether anyone can still read from a pipe. -/
def hasReader (m : Machine) (pipe : Nat) : Bool := m.isOpen (.readEnd pipe) || m.readOutside pipe

/-- The lowest free descriptor of a process from a number on. -/
def freeDescriptor (t : Task) : Nat → Nat → Nat
  | 0, lowest => lowest
  | fuel + 1, lowest =>
    if t.descriptors.any (·.fd == lowest) then freeDescriptor t fuel (lowest + 1) else lowest

/-- Give a descriptor of a process a meaning. -/
def Task.setDescriptor (t : Task) (d : Descriptor) : Task :=
  { t with descriptors := t.descriptors.filter (·.fd != d.fd) ++ [d] }

/-- Open something for a process. -/
def openFor (m : Machine) (t : Task) (f : OpenFile) : Nat × Machine :=
  let (id, m) := m.fresh
  let fd := freeDescriptor t (t.descriptors.length + 1) 0
  (fd, { m with opened := m.opened ++ [(id, f)] }.setTask (Task.setDescriptor t { fd, file := id }))

/-! ## The ends of processes -/

/-- Without open files and pipes that nothing refers to any more. -/
def prune (m : Machine) : Machine :=
  let opened := m.opened.filter fun (id, _) => m.tasks.any fun t => t.descriptors.any fun d => d.file == id
  let isUsed (pipe : Nat) : Bool :=
    opened.any (fun (_, f) => f.thing == .readEnd pipe || f.thing == .writeEnd pipe) ||
      m.attached.any fun a => a.input == pipe || a.output == pipe || a.errors == pipe
  { m with opened, pipes := m.pipes.filter fun (pipe, _) => isUsed pipe }

/-- A process ends. Its children have no parent any more, and those that ended are forgotten, as it is
itself when nobody waits for it. -/
def finish (m : Machine) (pid : Nat) (how : Ending) : Machine :=
  let parentLives (parent : Nat) : Bool := parent == 0 || m.tasks.any fun t =>
    t.pid == parent && t.pid != pid && (match t.activity with
      | .ended _ => false
      | _ => true)
  let tasks := m.tasks.map fun t =>
    if t.pid == pid then { t with descriptors := [], activity := .ended how, caught := [] }
    else if t.parent == pid then { t with parent := 1 }
    else t
  let left := tasks.filter fun t =>
    match t.activity with
    | .ended _ => parentLives t.parent
    | _ => true
  { m with tasks := left }.prune

/-- Signals that do nothing when they are handled in the standard way. -/
def harmless : List Nat := [17, 18, 23, 28]

/-- Signals that stop a process. -/
def stopping : List Nat := [19, 20, 21, 22]

/-- A process gets a signal. -/
def deliver (m : Machine) (t : Task) (signal : Nat) : Machine :=
  let how := (t.dispositions.lookup signal).getD .standard
  if signal = 0 then m
  else if signal = 9 then m.finish t.pid (.killed 9)
  else if signal = 18 then m.setTask { t with stopped := false }
  else if signal = 19 then m.setTask { t with stopped := true }
  else
    match how with
    | .ignored => m
    | .caught => m.setTask { t with caught := t.caught ++ [signal] }
    | .standard =>
      if harmless.contains signal then m
      else if stopping.contains signal then m.setTask { t with stopped := true }
      else m.finish t.pid (.killed signal)

/-! ## Requests -/

/-- What comes of a request. -/
inductive Result where
  /-- It is answered, after some time. -/
  | answer (a : Answer) (time : Nat) (m : Machine)
  /-- It cannot be answered yet. -/
  | later
  /-- The process came to its end. -/
  | gone (m : Machine)

/-- An answer after the usual time. -/
def reply (a : Answer) (m : Machine) : Result := .answer a requestTime m

/-- A refusal. -/
def refuse (why : Errno) (m : Machine) : Result := .answer (.refused why) requestTime m

/-- Read from a pipe; `cut` says how much of what it holds. -/
def readPipe (m : Machine) (pipe : Nat) (cut : Str → Bool → Option Nat) : Result :=
  let text := m.held pipe
  let final := !m.hasWriter pipe
  match cut text final with
  | some n =>
    if n = 0 ∧ final then reply .ended m
    else reply (.text (text.take n)) (m.setHeld pipe (text.drop n))
  | none => .later

/-- Read from a descriptor; `cut` says how much of what is there, given whether more may come. -/
def readFrom (m : Machine) (t : Task) (fd : Nat) (cut : Str → Bool → Option Nat) : Result :=
  match m.opened? t fd with
  | none => refuse .badDescriptor m
  | some (id, f) =>
    if !f.readable then refuse .badDescriptor m
    else
      match f.thing with
      | .null => reply .ended m
      | .zero => reply (.text (List.replicate 4096 (Char.ofNat 0))) m
      | .readEnd pipe => m.readPipe pipe cut
      | .writeEnd _ => refuse .badDescriptor m
      | .node node =>
        match (m.files.node? node).map FileNode.content with
        | some (.file text) =>
          let there := text.drop f.offset
          match cut there true with
          | some n =>
            if n = 0 then reply .ended m
            else reply (.text (there.take n)) (m.setOpened id { f with offset := f.offset + n })
          | none => reply .ended m
        | some .directory => refuse .isDirectory m
        | _ => reply .ended m

/-- How much to read up to and with a character. -/
def cutTo (stop : Char) (text : Str) (final : Bool) : Option Nat :=
  let front := text.takeWhile (· != stop)
  if front.length < text.length then some (front.length + 1)
  else if final then some text.length
  else none

/-- How much to read of at most some bytes. -/
def cutMax (max : Nat) (text : Str) (final : Bool) : Option Nat :=
  if text.isEmpty && !final then none else some (min max text.length)

/-- Write to a descriptor. -/
def writeTo (m : Machine) (t : Task) (fd : Nat) (text : Str) : Result :=
  match m.opened? t fd with
  | none => refuse .badDescriptor m
  | some (id, f) =>
    if !f.writable then refuse .badDescriptor m
    else
      match f.thing with
      | .null => reply .done m
      | .zero => reply .done m
      | .readEnd _ => refuse .badDescriptor m
      | .writeEnd pipe =>
        if !m.hasReader pipe then
          match (t.dispositions.lookup 13).getD .standard with
          | .standard => .gone (m.finish t.pid (.killed 13))
          | _ => refuse .brokenPipe m
        else if !m.readOutside pipe && pipeRoom ≤ (m.held pipe).length then .later
        else reply .done (m.setHeld pipe (m.held pipe ++ text))
      | .node node =>
        match m.files.node? node with
        | some n =>
          match n.content with
          | .file old =>
            let offset := if f.append then old.length else f.offset
            let front := old.take offset ++ List.replicate (offset - old.length) (Char.ofNat 0)
            let new := front ++ text ++ old.drop (offset + text.length)
            let files := m.files.setNode node { n with content := .file new, modified := m.clock }
            reply .done ({ m with files }.setOpened id { f with offset := offset + text.length })
          | _ => refuse .invalid m
        | none => refuse .invalid m

/-- Open a path. -/
def openPath (m : Machine) (t : Task) (path : Str) (mode : OpenMode) : Result :=
  let writes := mode ≠ .read
  let make (there : Str) : Result :=
    match m.files.putNew there { content := .file [], mode := 0o644, modified := m.clock } with
    | .error why => refuse why m
    | .ok files =>
      match files.id? there with
      | none => refuse .noEntry m
      | some node =>
        let file : OpenFile := {
          thing := .node node, readable := decide (mode = .readWrite), append := decide (mode = .append) }
        let (fd, m) := { m with files }.openFor t file
        reply (.number fd) m
  match m.files.find true path with
  | .error why => refuse why m
  | .ok there =>
    match m.files.id? there with
    | none => if writes then make there else refuse .noEntry m
    | some node =>
      match (m.files.node? node).map FileNode.content with
      | none => refuse .noEntry m
      | some .directory => if writes then refuse .isDirectory m else opened (.node node) false m
      | some .null => opened .null writes m
      | some .zero => opened .zero writes m
      | some (.descriptor fd) =>
        match t.descriptors.find? (·.fd == fd) with
        | none => refuse .noEntry m
        | some d =>
          let new := freeDescriptor t (t.descriptors.length + 1) 0
          reply (.number new) (m.setTask (Task.setDescriptor t { fd := new, file := d.file }))
      | some (.link _) => refuse .tooManyLinks m
      | some (.program _) => if writes then refuse .denied m else opened (.node node) false m
      | some (.file _) =>
        if mode = .create then refuse .exists m
        else
          opened (.node node) writes (if mode = .write then cleared m node else m)
where
  /-- A file loses its content. -/
  cleared (m : Machine) (node : Nat) : Machine :=
    match m.files.node? node with
    | none => m
    | some n =>
      { m with files := m.files.setNode node { n with content := .file [], modified := m.clock } }
  /-- Something that exists is opened. -/
  opened (thing : OpenThing) (writes : Bool) (m : Machine) : Result :=
    let file : OpenFile := {
      thing, writable := writes, append := decide (mode = .append)
      readable := decide (mode = .read ∨ mode = .readWrite) }
    let (fd, m) := m.openFor t file
    reply (.number fd) m

/-- What is known of what a descriptor stands for. -/
def describe (m : Machine) (f : OpenFile) : FileInfo :=
  match f.thing with
  | .node id =>
    match m.files.node? id with
    | some n => Files.infoOf id n
    | none => { kind := .file, size := 0, mode := 0, modified := 0, id }
  | .readEnd pipe => { kind := .pipe, size := 0, mode := 0o600, modified := 0, id := pipe }
  | .writeEnd pipe => { kind := .pipe, size := 0, mode := 0o600, modified := 0, id := pipe }
  | .null => { kind := .device, size := 0, mode := 0o666, modified := 0, id := 1 }
  | .zero => { kind := .device, size := 0, mode := 0o666, modified := 0, id := 2 }

/-- Wait for a child. -/
def waitFor (m : Machine) (t : Task) (pid : Option Nat) (untilSignal : Bool) : Result :=
  let children := m.tasks.filter fun c => c.parent == t.pid && (pid.isNone || pid == some c.pid)
  let ending (c : Task) : Option (Nat × Ending) := match c.activity with
    | .ended how => some (c.pid, how)
    | _ => none
  match children.findSome? ending with
  | some (child, how) =>
    reply (.ending child how) { m with tasks := m.tasks.filter (·.pid != child) }
  | none =>
    if children.isEmpty then refuse .noChild m
    else if untilSignal && !t.caught.isEmpty then reply (.signals t.caught) m
    else .later

/-- Carry out a request of a process. -/
def perform (m : Machine) (t : Task) : Request → Result
  | .yield => reply (.signals t.caught) (m.setTask { t with caught := [] })
  | .clock => reply (.number m.clock) m
  | .sleep nanos => .answer .done (nanos + requestTime) m
  | .identity => reply (.numbers t.pid t.parent) m
  | .read fd max => m.readFrom t fd (cutMax max)
  | .readTo fd stop => m.readFrom t fd (cutTo stop)
  | .write fd text => m.writeTo t fd text
  | .openFile path mode => m.openPath t path mode
  | .pipe =>
    let (id, m) := m.fresh
    let m := { m with pipes := m.pipes ++ [(id, [])] }
    let (r, m) := m.openFor t { thing := .readEnd id, writable := false }
    match m.task? t.pid with
    | none => .gone m
    | some t =>
      let (w, m) := m.openFor t { thing := .writeEnd id, readable := false }
      reply (.numbers r w) m
  | .copy source target =>
    match t.descriptors.find? (·.fd == source) with
    | none => refuse .badDescriptor m
    | some d => reply .done (m.setTask (Task.setDescriptor t { fd := target, file := d.file }))
  | .keep source lowest =>
    match t.descriptors.find? (·.fd == source) with
    | none => refuse .badDescriptor m
    | some d =>
      let fd := freeDescriptor t (t.descriptors.length + 1) lowest
      reply (.number fd) (m.setTask (Task.setDescriptor t { fd, file := d.file, hidden := true }))
  | .close fd =>
    if t.descriptors.any (·.fd == fd) then
      reply .done (m.setTask { t with descriptors := t.descriptors.filter (·.fd != fd) })
    else refuse .badDescriptor m
  | .describe fd =>
    match m.opened? t fd with
    | none => refuse .badDescriptor m
    | some (_, f) => reply (.info (m.describe f)) m
  | .wait pid untilSignal => m.waitFor t pid untilSignal
  | .signal pid signal =>
    match m.task? pid with
    | none => refuse .noProcess m
    | some target =>
      match target.activity with
      | .ended _ => refuse .noProcess m
      | _ =>
        let m := m.deliver target signal
        match m.task? t.pid with
        | some t =>
          match t.activity with
          | .ended _ => .gone m
          | _ => reply .done m
        | none => .gone m
  | .handle signal how =>
    reply .done (m.setTask { t with dispositions := (signal, how) :: t.dispositions.filter (·.1 != signal) })
  | .become =>
    .answer .done becomeTime (m.setTask { t with
      descriptors := t.descriptors.filter fun d => !d.hidden
      dispositions := t.dispositions.filter fun (_, how) => how == .ignored
      caught := [] })
  | .files request =>
    match m.files.carryOut m.clock request with
    | .ok (a, files) => reply a { m with files }
    | .error why => refuse why m
  | .running pid =>
    match m.task? pid with
    | none => reply (.number 0) m
    | some target =>
      match target.activity with
      | .ended _ => reply (.number 0) m
      | _ => reply (.number 1) m

/-! ## Going on -/

/-- A process goes on after some time. -/
def goOn (m : Machine) (pid : Nat) (time : Nat) (go : Unit → Process) : Machine :=
  match m.task? pid with
  | none => m
  | some t =>
    let (turn, m) := m.fresh
    m.setTask { t with activity := .ready (m.clock + time) turn go }

/-- A process makes a request. -/
def ask (m : Machine) (pid : Nat) (request : Request) (next : Answer → Process) : Machine :=
  match m.task? pid with
  | none => m
  | some t =>
    match m.perform t request with
    | .answer a time m => m.goOn pid time fun _ => next a
    | .later => m.setTask { t with activity := .blocked request next }
    | .gone m => m

/-- Requests that could not be answered are made again. -/
def retry (m : Machine) : Machine :=
  m.tasks.foldl (fun m t =>
    match t.activity with
    | .blocked request next => if t.stopped then m else m.ask t.pid request next
    | _ => m) m

/-- A process goes on. -/
def run (m : Machine) (pid : Nat) : Process → Machine
  | .exit code => m.finish pid (.exited (code % 256))
  | .ask request next => m.ask pid request next
  | .fork child next =>
    match m.task? pid with
    | none => m
    | some t =>
      let (new, m) := m.fresh
      let (turn, m) := m.fresh
      let started : Task := {
        pid := new, parent := pid, descriptors := t.descriptors, dispositions := t.dispositions
        activity := .ready (m.clock + 2 * forkTime) turn fun _ => child }
      let m := { m with tasks := m.tasks ++ [started] }
      m.goOn pid forkTime fun _ => next new

/-- The process that goes on next, and when. -/
def first? (m : Machine) : Option (Nat × Nat × (Unit → Process)) :=
  (m.tasks.foldl (fun (best : Option (Nat × Nat × Nat × (Unit → Process))) t =>
    match t.activity with
    | .ready time turn go =>
      if t.stopped then best
      else
        match best with
        | none => some (time, turn, t.pid, go)
        | some (time', turn', _, _) =>
          if time < time' || (time == time' && turn < turn') then some (time, turn, t.pid, go) else best
    | _ => best) none).map fun (time, _, pid, go) => (time, pid, go)

/-- The lines of a text that are complete, and the rest. -/
def completeLines (text : Str) : List Str × Str :=
  let pieces := Text.splitAll '\n' text
  (pieces.dropLast, (pieces.getLast?).getD [])

/-- Read the pipes of the attached process from outside. The unfinished line of a pipe that nobody can
write to any more is complete. -/
def readOut (m : Machine) : Machine :=
  match m.attached with
  | none => m
  | some a =>
    if !a.outputOpen then m
    else
      let out := m.held a.output
      let err := m.held a.errors
      let outEnds := !a.outputRest.isEmpty && !m.hasWriter a.output
      let errEnds := !a.errorsRest.isEmpty && !m.hasWriter a.errors
      if out.isEmpty && err.isEmpty && !outEnds && !errEnds then m
      else
        let (outLines, outRest) := completeLines (a.outputRest ++ out)
        let (errLines, errRest) := completeLines (a.errorsRest ++ err)
        let outDone := !outRest.isEmpty && !m.hasWriter a.output
        let errDone := !errRest.isEmpty && !m.hasWriter a.errors
        let outLines := if outDone then outLines ++ [outRest] else outLines
        let errLines := if errDone then errLines ++ [errRest] else errLines
        let m := (m.setHeld a.output []).setHeld a.errors []
        { m with attached := some { a with
            outputRest := if outDone then [] else outRest
            errorsRest := if errDone then [] else errRest
            arrived := a.arrived ++ outLines.map (fun l => (false, l)) ++ errLines.map (fun l => (true, l)) } }

/-- One process goes on, if one does before a time. -/
def step? (m : Machine) (limit : Nat) : Option Machine :=
  match m.first? with
  | none => none
  | some (time, pid, go) =>
    if limit < time then none
    else some (({ m with clock := max m.clock time }.run pid (go ())).retry.readOut)

/-- Processes go on up to a time, at most so many steps, or until something is found. -/
def runUntil (found : Machine → Bool) (limit : Nat) : Nat → Machine → Machine
  | 0, m => { m with clock := max m.clock limit }
  | fuel + 1, m =>
    if found m then m
    else
      match m.step? limit with
      | some m => runUntil found limit fuel m
      | none => { m with clock := max m.clock limit }

/-- More steps than any run of scripts takes. -/
def patience : Nat := 100000000

/-- Time passes until an instant. -/
def passUntil (time : Nat) (m : Machine) : Machine := runUntil (fun _ => false) time patience m

/-! ## The attached process -/

/-- Whether the attached process runs. -/
def isRunning (m : Machine) : Bool :=
  match m.attached with
  | none => false
  | some a =>
    match m.task? a.pid with
    | none => false
    | some t =>
      match t.activity with
      | .ended _ => false
      | _ => true

/-- Whether nobody writes to the standard output of the attached process any more. -/
def outputEnded (m : Machine) : Bool :=
  match m.attached with
  | none => true
  | some a => !m.hasWriter a.output

/-- Start a process and attach it. -/
def attach (m : Machine) (p : Process) : Machine :=
  let (pid, m) := m.fresh
  let (input, m) := m.fresh
  let (output, m) := m.fresh
  let (errors, m) := m.fresh
  let (f0, m) := m.fresh
  let (f1, m) := m.fresh
  let (f2, m) := m.fresh
  let (turn, m) := m.fresh
  let left := m.tasks.filter fun t => t.parent != 0 || (match t.activity with
    | .ended _ => false
    | _ => true)
  let task : Task := {
    pid, parent := 0
    descriptors := [{ fd := 0, file := f0 }, { fd := 1, file := f1 }, { fd := 2, file := f2 }]
    activity := .ready (m.clock + becomeTime) turn fun _ => p }
  { m with
    pipes := m.pipes ++ [(input, []), (output, []), (errors, [])]
    opened := m.opened ++ [(f0, { thing := .readEnd input, writable := false }),
      (f1, { thing := .writeEnd output, readable := false }),
      (f2, { thing := .writeEnd errors, readable := false })]
    tasks := left ++ [task]
    attached := some { pid, input, output, errors } }

/-- A process gets a signal, if it runs. -/
def signal (m : Machine) (pid signal : Nat) : Machine :=
  match m.task? pid with
  | none => m
  | some t =>
    match t.activity with
    | .ended _ => m
    | _ => (m.deliver t signal).retry.readOut

/-- The attached process gets a signal. -/
def signalAttached (m : Machine) (signal : Nat) : Machine :=
  match m.attached with
  | none => m
  | some a => m.signal a.pid signal

/-- Write to the input of the attached process. -/
def feed (m : Machine) (text : Str) : Except Errno Machine :=
  match m.attached with
  | none => .error .brokenPipe
  | some a =>
    if a.inputOpen && m.isOpen (.readEnd a.input) then
      .ok (m.setHeld a.input (m.held a.input ++ text)).retry
    else .error .brokenPipe

/-- Close the input of the attached process. -/
def closeInput (m : Machine) : Machine :=
  match m.attached with
  | none => m
  | some a => ({ m with attached := some { a with inputOpen := false } }).retry

/-- Take the lines that arrived. -/
def takeArrived (m : Machine) : List (Bool × Str) × Machine :=
  match m.attached with
  | none => ([], m)
  | some a => (a.arrived, { m with attached := some { a with arrived := [] } })

/-- Start a process and attach it. One that was attached is detached and killed. -/
def replaceAttached (m : Machine) (p : Process) : Machine :=
  match m.attached with
  | none => m.attach p
  | some before => ((m.attach p).signal before.pid 9).retry

/-- Detach the attached process, which is killed. -/
def detach (m : Machine) : Machine :=
  let m := m.signalAttached 9
  { m with attached := none }.retry

end Machine

end FuzzCampaign.Shell
