import FuzzCampaign.Stream.Framing
import FuzzCampaign.Proofs.Campaign.Messages
import FuzzCampaign.Proofs.Stream.Ending
import FuzzCampaign.Proofs.Text.Pieces
import FuzzCampaign.Proofs.Text.Utf8
set_option autoImplicit false

/-! # Written lines are read back

A stream that takes everything gets every message whole, in whatever pieces it takes the bytes
(`write_of_open`). A message is printed without line feeds, so that the line feeds written are those that end
the messages: cut at them, the stream gives each message back, in order (`written_lines`). -/

namespace FuzzCampaign.Stream

open Text (splitAll splitAll_flatMap)

/-! ## Streams that take everything -/

/-- A stream that takes every byte and never fails to flush; it may take bytes in pieces of any size. -/
structure Pipe.Open (p : Pipe) : Prop where
  room : p.room = none
  flushes : ∀ failed ∈ p.flushFailures, failed = false

theorem Pipe.Open.delivers {p : Pipe} (h : p.Open) (messages : List ClientMessage) (count : Nat) :
    p.Delivers messages count where
  room := fun room hroom => by simp [h.room] at hroom
  flushes i _ hfails := by simpa using h.flushes true (List.mem_of_getElem? hfails)

/-- Messages are written one after the other. -/
theorem write_of_open {p : Pipe} (h : p.Open) (messages : List ClientMessage) :
    ∃ after, write none messages p = (.ok (), after) ∧
      after.written = p.written ++ messages.flatMap encodeMessage := by
  obtain ⟨bytes, hwritten, hending⟩ := write_ending p messages
  have hok := hending.ok_iff.2 (h.delivers messages messages.length)
  rw [hok] at hending
  obtain ⟨-, rfl⟩ := hending.of_ok
  exact ⟨_, Prod.ext hok rfl, hwritten⟩

/-! ## Lines -/

/-- The bytes of a message without the line feed that ends it. -/
def lineBytes (m : ClientMessage) : List UInt8 := Text.encode m.toJson.render

theorem encodeMessage_eq (m : ClientMessage) : encodeMessage m = lineBytes m ++ [lineFeed] := by
  rw [encodeMessage, Text.encode_append]
  rfl

/-- A message has no line feed inside. -/
theorem lineFeed_notMem_lineBytes (m : ClientMessage) : lineFeed ∉ lineBytes m := by
  intro hmem
  have hchar := Text.mem_of_ascii_mem_encode (by decide) hmem
  rw [Json.render, String.toList_ofList] at hchar
  exact absurd (Json.plain_print m.toJson _ hchar) (by decide)

/-- A line of the stream as a message of the client. -/
def readLine? (line : List UInt8) : Option (Except CampaignError ClientMessage) :=
  (Text.decode? line).map ClientMessage.parse

theorem readLine?_lineBytes {m : ClientMessage} (hfree : ∀ v ∈ m.free, v.Exact)
    (hinstants : ∀ t ∈ m.instants, Timestamp.ofText? t.toText = some t) (hdepth : m.toJson.depth ≤ Json.maxDepth) :
    readLine? (lineBytes m) = some (.ok m) := by
  rw [readLine?, lineBytes, Text.decode?_encode, Option.map_some, ClientMessage.parse_render hfree hinstants hdepth]

/-- Messages are written as lines, one for each with one line feed at its end, and the lines are read as
the messages in their order. -/
theorem written_lines {p : Pipe} (hopen : p.Open) {messages : List ClientMessage}
    (hfree : ∀ m ∈ messages, ∀ v ∈ m.free, v.Exact) (hdepth : ∀ m ∈ messages, m.toJson.depth ≤ 127)
    (hinstants : ∀ m ∈ messages, ∀ t ∈ m.instants, Timestamp.ofText? t.toText = some t) :
    ∃ after bytes lines, write none messages p = (.ok (), after) ∧ after.written = p.written ++ bytes ∧
      bytes = lines.flatMap (· ++ [lineFeed]) ∧ (∀ line ∈ lines, lineFeed ∉ line) ∧
      splitAll lineFeed bytes = lines ++ [[]] ∧ lines.map readLine? = messages.map fun m => some (.ok m) := by
  obtain ⟨after, hwrite, hwritten⟩ := write_of_open hopen messages
  have hlines : ∀ line ∈ messages.map lineBytes, lineFeed ∉ line := by
    intro line hline
    obtain ⟨m, -, rfl⟩ := List.mem_map.1 hline
    exact lineFeed_notMem_lineBytes m
  have hbytes : messages.flatMap encodeMessage = (messages.map lineBytes).flatMap (· ++ [lineFeed]) := by
    rw [List.flatMap_map]
    exact congrArg (messages.flatMap ·) (funext encodeMessage_eq)
  have hread : (messages.map lineBytes).map readLine? = messages.map fun m => some (.ok m) := by
    rw [List.map_map]
    exact List.map_congr_left fun m hm => readLine?_lineBytes (hfree m hm) (hinstants m hm) (hdepth m hm)
  refine ⟨after, _, messages.map lineBytes, hwrite, hwritten, hbytes, hlines, ?_, hread⟩
  rw [hbytes, splitAll_flatMap hlines]

/-- A campaign that starts in a leap second and a response with a line feed, to a stream that takes one byte
and then two at first. -/
theorem written_lines_two :
    let p : Pipe := { pieces := [0, 2], flushFailures := [false] }
    let d : CampaignDescriptor := {
      endpoints := [7], env := .ofList [("HOME", "/root")], model := .obj [("a", .null), ("b", .arr [.bool true])],
      resetter := .shell "up\n" "" "down", seed := [0, 255], tags := .ofList ["x"],
      invocation := ⟨⟨5⟩, ⟨2016, 12, 31, 23, 59, 59, 1500000000, by decide⟩, "0.3.0", []⟩ }
    let messages : List ClientMessage := [.campaign d, .callResponseRaw (.str "a\r\nb")]
    ∃ after bytes lines, write none messages p = (.ok (), after) ∧ after.written = p.written ++ bytes ∧
      bytes = lines.flatMap (· ++ [lineFeed]) ∧ (∀ line ∈ lines, lineFeed ∉ line) ∧
      splitAll lineFeed bytes = lines ++ [[]] ∧ lines.map readLine? = messages.map fun m => some (.ok m) := by
  intro p d messages
  have hopen : p.Open := ⟨rfl, by decide⟩
  have hfree : ∀ m ∈ messages, ∀ v ∈ m.free, v.Exact := by
    have hmodel : d.model.Exact := ⟨by decide, by decide⟩
    have hraw : (Json.str "a\r\nb").Exact := ⟨by decide, by decide⟩
    simpa [messages, ClientMessage.free] using And.intro hmodel hraw
  have hinstants : ∀ m ∈ messages, ∀ t ∈ m.instants, Timestamp.ofText? t.toText = some t := by
    have hstart := (Timestamp.ofText?_toText_iff d.invocation.startedAt).2 (.inr rfl)
    simpa [messages, ClientMessage.instants] using hstart
  exact written_lines hopen hfree (by decide) hinstants

end FuzzCampaign.Stream
