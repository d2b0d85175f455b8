import FuzzCampaign.Error
import FuzzCampaign.Text.Utf8
set_option autoImplicit false

/-! # Line framing

The session stream is cut into lines as its bytes arrive. A line ends at a line feed, and one carriage
return before it is dropped; at the end of the stream what is left is a line unless it is a lone carriage
return. A line longer than the limit, its carriage return counted, is an error, and the bytes up to its
end are discarded.

`Framer.next` and `Framer.last` do this piece by piece and remember how far they searched; `cut` is the
same for a whole stream at once. -/

namespace FuzzCampaign.Stream

/-- The longest line accepted on the session stream: 4 MiB. -/
def maxLineBytes : Nat := 4 * 1048576

/-- The error of a line above the limit. -/
def lineTooLong : CampaignError :=
  .transport ("line too long: exceeded " ++ toString maxLineBytes ++ " bytes")

/-- The error of a line that is not UTF-8. -/
def notUtf8 : CampaignError := .io "Unable to decode input as UTF8"

/-- A line feed. -/
def lineFeed : UInt8 := 10

/-- A carriage return. -/
def carriageReturn : UInt8 := 13

/-- Without one carriage return at the end. -/
def dropReturn (line : List UInt8) : List UInt8 :=
  if line.getLast? = some carriageReturn then line.dropLast else line

/-- The text of a line whose line feed is already removed. -/
def lineText (line : List UInt8) : Except CampaignError String :=
  match Text.decode? (dropReturn line) with
  | some text => .ok text
  | none => .error notUtf8

/-! ## Piece by piece -/

/-- Bytes that arrived and were not yet cut into lines. -/
structure Framer where
  /-- The bytes, in order. -/
  buffer : List UInt8 := []
  /-- How many bytes at the front were searched without finding a line feed. -/
  searched : Nat := 0
  /-- Whether the rest of an overlong line is being discarded. -/
  discarding : Bool := false
deriving DecidableEq, Repr, Inhabited

namespace Framer

/-- More bytes arrived. -/
def feed (f : Framer) (bytes : List UInt8) : Framer := { f with buffer := f.buffer ++ bytes }

/-- What a step of the framer found. -/
inductive Found where
  /-- No whole line. -/
  | nothing
  | line (text : String)
  | failure (error : CampaignError)
deriving DecidableEq, Repr

/-- A decoded line, or why it is none. -/
def Found.ofText : Except CampaignError String → Found
  | .ok text => .line text
  | .error e => .failure e

/-- The position of the first line feed among the first `limit` bytes; `passed` bytes come before them. -/
def feedPosition? : List UInt8 → Nat → Nat → Option Nat
  | [], _, _ => none
  | _ :: _, 0, _ => none
  | b :: rest, limit + 1, passed =>
    if b = lineFeed then some passed else feedPosition? rest limit (passed + 1)

/-- Where the current line ends, as far as the limit allows to look. -/
def lineEnd? (f : Framer) : Option Nat :=
  feedPosition? (f.buffer.drop f.searched) (maxLineBytes + 1 - f.searched) f.searched

/-- Whether more bytes are waiting than a line may have. -/
def overlong (f : Framer) : Bool := !(f.buffer.drop maxLineBytes).isEmpty

/-- The next line of the buffer, nothing of which is to be discarded. -/
def nextLine (f : Framer) : Found × Framer :=
  match f.lineEnd? with
  | some ending =>
    (.ofText (lineText (f.buffer.take ending)), { buffer := f.buffer.drop (ending + 1) })
  | none =>
    if f.overlong then (.failure lineTooLong, { f with discarding := true })
    else (.nothing, { f with searched := f.buffer.length })

/-- Discard up to the next line feed, as many bytes at a time as a line may have and one more. -/
def discard (f : Framer) : Framer :=
  match f.lineEnd? with
  | some ending => { buffer := f.buffer.drop (ending + 1) }
  | none =>
    match h : f.buffer with
    | [] => { buffer := [], discarding := true }
    | b :: rest =>
      have shorter : ((b :: rest).drop (maxLineBytes + 1)).length < f.buffer.length := by
        rw [h, List.length_drop, List.length_cons]; omega
      discard { buffer := (b :: rest).drop (maxLineBytes + 1), discarding := true }
termination_by f.buffer.length
decreasing_by exact shorter

/-- Cut the next line from the bytes that arrived. -/
def next (f : Framer) : Found × Framer :=
  if f.discarding then
    let f := f.discard
    if f.discarding then (.nothing, f) else f.nextLine
  else f.nextLine

/-- Cut the next line when no more bytes will arrive. -/
def last (f : Framer) : Found × Framer :=
  match f.next with
  | (.nothing, f) =>
    if f.buffer = [] ∨ f.buffer = [carriageReturn] then (.nothing, { f with searched := 0 })
    else (.ofText (lineText f.buffer), { f with buffer := [], searched := 0 })
  | found => found

end Framer

/-! ## All at once -/

/-- The bytes of each line of a stream: the pieces that a line feed ends, and the piece after the last
one unless it is empty or a lone carriage return. -/
def pieces (stream : List UInt8) : List (List UInt8) :=
  let all := Text.splitAll lineFeed stream
  let rest := (all.getLast?).getD []
  if rest = [] ∨ rest = [carriageReturn] then all.dropLast else all

/-- The text of a piece, which has its limit. -/
def pieceText (piece : List UInt8) : Except CampaignError String :=
  if maxLineBytes < piece.length then .error lineTooLong else lineText piece

/-- The lines of a stream. -/
def cut (stream : List UInt8) : List (Except CampaignError String) := (pieces stream).map pieceText

end FuzzCampaign.Stream
