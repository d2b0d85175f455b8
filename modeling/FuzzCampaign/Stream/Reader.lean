import FuzzCampaign.Campaign.Message
import FuzzCampaign.Stream.Framing
set_option autoImplicit false

/-! # The reading side of the session stream

Bytes arrive in chunks of any size and become messages. The first line that is not a message ends the
reading, because the session cannot resynchronise after a message it did not understand; so does a
receiver that goes away. `received` follows the arrival of the chunks, `itemsOfLines` says what is read
from lines already cut. -/

namespace FuzzCampaign.Stream

/-- What the reading side hands on: messages, and at most one error after them. -/
abbrev Item := Except CampaignError ServerMessage

/-- Messages up to the first error, and whether the reading ended. -/
structure Reading where
  /-- Items in reverse. -/
  items : List Item := []
  /-- How many more items the receiver takes before it goes away; without bound when absent. -/
  wanted : Option Nat := none
  stopped : Bool := false

namespace Reading

/-- Hand an item on. The reading ends when nobody receives it. -/
def forward (r : Reading) (item : Item) : Reading :=
  match r.wanted with
  | none => { r with items := item :: r.items }
  | some 0 => { r with stopped := true }
  | some (left + 1) => { r with items := item :: r.items, wanted := some left }

/-- The framing failed. -/
def failure (r : Reading) (error : CampaignError) : Reading :=
  { r.forward (.error error) with stopped := true }

/-- One line was cut. -/
def line (r : Reading) (text : String) : Reading :=
  match ServerMessage.ofLine text with
  | .ok none => r
  | .ok (some m) => r.forward (.ok m)
  | .error e => r.failure e

end Reading

/-- Cut and read lines with `step` until it finds none. Each line that is found takes a byte off the
buffer, so as many steps as there are bytes, and one, are enough. -/
def drain (step : Framer → Framer.Found × Framer) : Nat → Framer → Reading → Framer × Reading
  | 0, f, r => (f, r)
  | fuel + 1, f, r =>
    match step f with
    | (.nothing, f) => (f, r)
    | (.failure e, f) => (f, r.failure e)
    | (.line text, f) =>
      let r := r.line text
      if r.stopped then (f, r) else drain step fuel f r

/-- A chunk arrives. -/
def arrive (state : Framer × Reading) (chunk : List UInt8) : Framer × Reading :=
  let (f, r) := state
  if r.stopped then (f, r)
  else
    let f := f.feed chunk
    drain Framer.next (f.buffer.length + 1) f r

/-- What a receiver that takes `wanted` items and then goes away gets of a stream that delivers these
chunks and then ends. -/
def received (wanted : Option Nat) (chunks : List (List UInt8)) : List Item :=
  let (f, r) := chunks.foldl arrive ({}, { wanted })
  let (_, r) := if r.stopped then (f, r) else drain Framer.last (f.buffer.length + 1) f r
  r.items.reverse

/-- The items of a stream that delivers these chunks and then ends. -/
def items (chunks : List (List UInt8)) : List Item := received none chunks

/-- The items of lines already cut. -/
def itemsOfLines : List (Except CampaignError String) → List Item
  | [] => []
  | .error e :: _ => [.error e]
  | .ok text :: rest =>
    match ServerMessage.ofLine text with
    | .ok none => itemsOfLines rest
    | .ok (some m) => .ok m :: itemsOfLines rest
    | .error e => [.error e]

end FuzzCampaign.Stream
