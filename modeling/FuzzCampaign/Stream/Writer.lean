import FuzzCampaign.Campaign.Message
import FuzzCampaign.Text.Utf8
set_option autoImplicit false

/-! # The writing side of the session stream

Queued messages are written one line each, every line flushed, until the queue is closed and empty; then
the stream is shut down. A stream takes bytes in pieces and may fail. -/

namespace FuzzCampaign.Stream

/-- The line of a message. -/
def encodeMessage (m : ClientMessage) : List UInt8 := Text.encode (m.toJson.render ++ "\n")

/-- A stream that is written to. -/
structure Pipe where
  /-- How many bytes it still takes; without bound when absent. -/
  room : Option Nat := none
  /-- The most bytes it takes at once, one piece after the other; a piece of at least one byte. -/
  pieces : List Nat := []
  /-- Whether each flush fails, one after the other. -/
  flushFailures : List Bool := []
  /-- The error of a write without room. -/
  writeError : String := "broken pipe"
  /-- The error of a flush that fails. -/
  flushError : String := "broken pipe"
  /-- The bytes taken so far. -/
  written : List UInt8 := []
  /-- Whether the stream was shut down. -/
  shut : Bool := false
deriving DecidableEq, Repr, Inhabited

namespace Pipe

/-- How many of `count` waiting bytes the next write takes, and the pieces left after it. -/
def accepts (p : Pipe) (count : Nat) : Nat × List Nat :=
  let (most, pieces) := match p.pieces with
    | [] => (count, [])
    | piece :: rest => (max piece 1, rest)
  let most := min most count
  (match p.room with
    | some room => min most room
    | none => most, pieces)

/-- Write all the bytes; `fuel` is their number. -/
def writeAll : Nat → Pipe → List UInt8 → Except CampaignError Unit × Pipe
  | _, p, [] => (.ok (), p)
  | 0, p, _ :: _ => (.ok (), p)
  | fuel + 1, p, bytes@(_ :: _) =>
    let (count, pieces) := p.accepts bytes.length
    if count = 0 then (.error (.transport ("write failed: " ++ p.writeError)), p)
    else
      writeAll fuel
        { p with room := p.room.map (· - count), pieces, written := p.written ++ bytes.take count }
        (bytes.drop count)

/-- Flush what was written. -/
def flush (p : Pipe) : Except CampaignError Unit × Pipe :=
  match p.flushFailures with
  | true :: rest =>
    (.error (.transport ("flush failed: " ++ p.flushError)), { p with flushFailures := rest })
  | _ :: rest => (.ok (), { p with flushFailures := rest })
  | [] => (.ok (), p)

/-- Write and flush one message. -/
def send (p : Pipe) (m : ClientMessage) : Except CampaignError Unit × Pipe :=
  let bytes := encodeMessage m
  match p.writeAll bytes.length bytes with
  | (.error e, p) => (.error e, p)
  | (.ok (), p) => p.flush

end Pipe

/-- Write the queued messages and shut the stream down. The writing stops early when the session is
cancelled, which is noticed before a message is taken: `cancelAfter` is the number of messages taken
before that. -/
def write (cancelAfter : Option Nat) : List ClientMessage → Pipe → Except CampaignError Unit × Pipe
  | [], p => (.ok (), { p with shut := true })
  | m :: rest, p =>
    if cancelAfter = some 0 then (.ok (), { p with shut := true })
    else
      match p.send m with
      | (.error e, p) => (.error e, p)
      | (.ok (), p) => write (cancelAfter.map (· - 1)) rest p

end FuzzCampaign.Stream
