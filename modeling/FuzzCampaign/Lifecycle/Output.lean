import FuzzCampaign.Lifecycle.Markers
import FuzzCampaign.Text.Utf8
import FuzzCampaign.World
set_option autoImplicit false

/-! # Output of the dispatcher

The dispatcher's output arrives as bytes on two streams. Each line is decoded, carriage returns at its end
are dropped, and it goes where it belongs: exit codes to whoever waits for them, script output to the
display and to a bounded tail that failure reports show, the rest nowhere. -/

namespace FuzzCampaign

/-! ## The tail -/

/-- How many lines of script output are kept for failure reports. -/
def tailLines : Nat := 20

/-- The last lines of script output, oldest first. -/
structure OutputTail where
  lines : List String := []
deriving DecidableEq, Repr, Inhabited

/-- Keep a line; the oldest one gives way when there are `tailLines` already. -/
def OutputTail.push (tail : OutputTail) (line : String) : OutputTail :=
  ⟨(if tail.lines.length = tailLines then tail.lines.drop 1 else tail.lines) ++ [line]⟩

/-! ## Lines -/

/-- The two streams of the dispatcher. -/
inductive OutputStream where
  | standard
  | errors
deriving DecidableEq, Repr

/-- What was read from the dispatcher. -/
structure Demux where
  /-- Exit codes that nobody has taken yet, in order. -/
  exitCodes : List Int := []
  /-- What was shown, in order. -/
  shown : List SinkEvent := []
  tail : OutputTail := {}
deriving DecidableEq, Repr, Inhabited

namespace Demux

/-- The pieces of a stream that line feeds end, and what follows the last one unless it is empty. -/
def segments (bytes : List UInt8) : List (List UInt8) :=
  let all := Text.splitAll (10 : UInt8) bytes
  if (all.getLast?).getD [] = [] then all.dropLast else all

/-- The text of a line. -/
def lineText (bytes : List UInt8) : String := String.ofList (Text.dropReturns (Text.decodeLossy bytes))

/-- A line was read from a stream. -/
def line (markers : ControlMarkers) (d : Demux) (stream : OutputStream) (text : String) : Demux :=
  match markers.classify text with
  | .exitCode code =>
    match stream with
    | .standard => { d with exitCodes := d.exitCodes ++ [code] }
    | .errors => d
  | .trace _ | .unexpected _ => d
  | .output text =>
    { d with
      shown := d.shown ++ [match stream with
        | .standard => .printf text
        | .errors => .errorf text]
      tail := d.tail.push text }

/-- Read whole lines, in the order in which they were written. -/
def lines (markers : ControlMarkers) (d : Demux) (written : List (OutputStream × String)) : Demux :=
  written.foldl (fun d (stream, text) => d.line markers stream text) d

/-- Read one stream to its end. -/
def readAll (markers : ControlMarkers) (d : Demux) (stream : OutputStream) (bytes : List UInt8) : Demux :=
  d.lines markers ((segments bytes).map fun piece => (stream, lineText piece))

end Demux

end FuzzCampaign
