import FuzzCampaign.Shell.Syntax
set_option autoImplicit false

/-! # Processes

A process is known by what it asks of the system: it computes up to its next request, and the answer
decides how it goes on. This module lists the requests and their answers; `Machine` carries them out.
Times are in nanoseconds. -/

namespace FuzzCampaign.Shell

/-- Why a request is refused. -/
inductive Errno where
  | noEntry
  | isDirectory
  | notDirectory
  | exists
  | notEmpty
  | denied
  | badDescriptor
  | invalid
  | brokenPipe
  | noChild
  | noProcess
  | tooManyLinks
  | noExec
deriving DecidableEq

/-- The text of a refusal. -/
def Errno.message : Errno → Str
  | .noEntry => "No such file or directory".toList
  | .isDirectory => "Is a directory".toList
  | .notDirectory => "Not a directory".toList
  | .exists => "File exists".toList
  | .notEmpty => "Directory not empty".toList
  | .denied => "Permission denied".toList
  | .badDescriptor => "Bad file descriptor".toList
  | .invalid => "Invalid argument".toList
  | .brokenPipe => "Broken pipe".toList
  | .noChild => "No child processes".toList
  | .noProcess => "No such process".toList
  | .tooManyLinks => "Too many levels of symbolic links".toList
  | .noExec => "Exec format error".toList

/-- How a process ended. -/
inductive Ending where
  | exited (code : Nat)
  | killed (signal : Nat)
deriving DecidableEq

/-- The status by which a shell knows an ending. -/
def Ending.status : Ending → Nat
  | .exited code => code
  | .killed signal => 128 + signal

/-- What a process does about a signal. -/
inductive Disposition where
  | standard
  | ignored
  | caught
deriving DecidableEq

/-- How a file is opened. -/
inductive OpenMode where
  | read
  | write
  | append
  | readWrite
  /-- Like `write`, but only when there is no such file. -/
  | create
deriving DecidableEq

/-- The kinds of files. -/
inductive FileKind where
  | file
  | directory
  | link
  | device
  | pipe
deriving DecidableEq

/-- What is known of a file. -/
structure FileInfo where
  kind : FileKind
  size : Nat
  /-- The permission bits. -/
  mode : Nat
  /-- When it was last written. -/
  modified : Nat
  /-- What tells it from every other file. -/
  id : Nat
  /-- The program that it is, when it is one of the system's own. -/
  program : Option String := none

/-- Requests about names of files. Paths are absolute. -/
inductive FileRequest where
  | info (path : Str) (followLink : Bool)
  | makeDirectory (path : Str)
  | removeDirectory (path : Str)
  | remove (path : Str)
  | rename (source target : Str)
  | symlink (target path : Str)
  | hardLink (source path : Str)
  | readLink (path : Str)
  | list (path : Str)
  | setMode (path : Str) (mode : Nat)
  /-- Makes an empty file when there is none, and notes the time. -/
  | touch (path : Str)
  | truncate (path : Str) (size : Nat)

/-- Requests. -/
inductive Request where
  /-- Lets others go on, and asks for the signals that were caught since. -/
  | yield
  | clock
  | sleep (nanos : Nat)
  /-- The numbers of the process and its parent. -/
  | identity
  | read (fd max : Nat)
  /-- Reads up to and with a character. -/
  | readTo (fd : Nat) (stop : Char)
  | write (fd : Nat) (text : Str)
  | openFile (path : Str) (mode : OpenMode)
  /-- A pipe: the descriptor to read from and the one to write to. -/
  | pipe
  /-- Makes the second descriptor mean what the first one means. -/
  | copy (source target : Nat)
  /-- A new descriptor for the same thing, from a number on; programs do not inherit it. -/
  | keep (source lowest : Nat)
  | close (fd : Nat)
  /-- What a descriptor stands for. -/
  | describe (fd : Nat)
  /-- Waits for the end of a child, or of any; possibly only until a signal is caught. -/
  | wait (pid : Option Nat) (untilSignal : Bool)
  | signal (pid : Nat) (signal : Nat)
  | handle (signal : Nat) (how : Disposition)
  /-- Becomes another program: descriptors that programs do not inherit are closed, caught signals are
  handled in the standard way again. -/
  | become
  | files (request : FileRequest)
  /-- Whether a process runs. -/
  | running (pid : Nat)

/-- Answers. -/
inductive Answer where
  | done
  | number (n : Nat)
  | numbers (a b : Nat)
  | text (text : Str)
  /-- There is nothing more to read. -/
  | ended
  | names (names : List Str)
  | info (info : FileInfo)
  | ending (pid : Nat) (ending : Ending)
  /-- The signals that were caught, oldest first. -/
  | signals (signals : List Nat)
  | refused (why : Errno)

/-- A process. -/
inductive Process where
  | exit (code : Nat)
  | ask (request : Request) (next : Answer → Process)
  /-- Starts a child, whose number is the answer. -/
  | fork (child : Process) (next : Nat → Process)

end FuzzCampaign.Shell
