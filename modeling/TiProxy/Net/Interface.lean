import TiProxy.Net.Packet

/-!
# The packet interface the command and authentication code is written against

`pkg/proxy/backend` talks to both ends through the `PacketIO` interface
(`pkg/proxy/net/packetio.go`), not through `packetIO` itself: the same code runs in
traffic replay over another implementation.  `PacketIOMethods` records the two
methods the relays call, over the state of one end.

Two implementations: `packetIO` itself, and `PacketQueue`, an end that reads whole
logical packets from a queue and appends what is written to another.  The queue is
what the byte-level end looks like once the framing round trip of `Net.Packet` is
applied: `readPackets_queue` reads a series of messages from both alike.

The first bytes of the packets the relays tell apart (`pkg/proxy/net/header.go`) are
here too.

**Results.**
* `readPacket_queue_cons`, `writePacket_queue`: the queue end's two methods.
* `readPackets_queue`: on the frames of a series of messages, reading them from
  `packetIO` returns the messages a queue holding them returns.
-/

namespace TiProxy
namespace Net

/-- `OKHeader`. -/
def OKHeader : UInt8 := 0x00

/-- `ErrHeader`. -/
def ErrHeader : UInt8 := 0xff

/-- `EOFHeader`. -/
def EOFHeader : UInt8 := 0xfe

/-- `AuthSwitchHeader`, the same byte as `EOFHeader`. -/
def AuthSwitchHeader : UInt8 := 0xfe

/-- `LocalInFileHeader`. -/
def LocalInFileHeader : UInt8 := 0xfb

/-- The bytes of an ASCII string, as Go's `[]byte(s)` gives them. -/
def asciiBytes
    (s : String) : List UInt8 :=
  s.toList.map (fun c => UInt8.ofNat c.toNat)

/-- The methods of the `PacketIO` interface the relays call.  `WritePacket` is
never flushed lazily in the model, so its `flush` argument is dropped. -/
structure PacketIOMethods (σ : Type) where
  ReadPacket : σ → Except PacketError (List UInt8 × σ)
  WritePacket : σ → List UInt8 → σ

/-- `*packetIO` as an implementation of the interface. -/
def packetIOMethods : PacketIOMethods PacketIO :=
  ⟨Net.ReadPacket, Net.WritePacket⟩

/-- An end of a connection seen a logical packet at a time: the packets the peer
sends, in order, and the packets written to it. -/
structure PacketQueue where
  input : List (List UInt8)
  output : List (List UInt8)
deriving DecidableEq, Repr

/-- The queue end: reading takes the next packet, and a peer that sends no more
packets is a read error. -/
def queueMethods : PacketIOMethods PacketQueue where
  ReadPacket q :=
    match q.input with
    | [] => .error .errReadConn
    | m :: ms => .ok (m, { q with input := ms })
  WritePacket q m := { q with output := q.output ++ [m] }

@[simp] theorem readPacket_queue_cons
    (q : PacketQueue)
    {m : List UInt8}
    {ms : List (List UInt8)}
    (h : q.input = m :: ms) :
    queueMethods.ReadPacket q = .ok (m, { q with input := ms }) := by
  simp [queueMethods, h]

@[simp] theorem readPacket_queue_nil
    (q : PacketQueue)
    (h : q.input = []) :
    queueMethods.ReadPacket q = .error .errReadConn := by
  simp [queueMethods, h]

@[simp] theorem writePacket_queue
    (q : PacketQueue)
    (m : List UInt8) :
    queueMethods.WritePacket q m = { q with output := q.output ++ [m] } := by
  rfl

/-- `readPackets` over the queue end. -/
def readQueue : Nat → PacketQueue → Except PacketError (List (List UInt8) × PacketQueue)
  | 0, q => .ok ([], q)
  | n + 1, q =>
      match queueMethods.ReadPacket q with
      | .error err => .error err
      | .ok (m, q) =>
          match readQueue n q with
          | .error err => .error err
          | .ok (ms, q) => .ok (m :: ms, q)

/-- A queue holding a series of messages returns them. -/
theorem readQueue_append
    (ms : List (List UInt8)) :
    ∀ q : PacketQueue, ∀ rest, q.input = ms ++ rest →
      readQueue ms.length q = .ok (ms, { q with input := rest }) := by
  induction ms with
  | nil =>
      intro q rest h
      simp only [List.nil_append] at h
      simp [readQueue, ← h]
  | cons m ms ih =>
      intro q rest h
      rw [List.cons_append] at h
      have hrest := ih { q with input := ms ++ rest } rest rfl
      simp [readQueue, readPacket_queue_cons q h, hrest]

/-- `packetIO` on the frames of a series of messages, with both ends in step, reads the
messages a queue holding them reads. -/
theorem readPackets_queue
    (ms : List (List UInt8))
    (rest : List UInt8)
    (w r : PacketIO)
    (q : PacketQueue)
    (hseq : r.sequence = w.sequence)
    (hin : r.input = messageBytes w.sequence ms ++ rest)
    (hq : q.input = ms) :
    (readPackets ms.length r).map Prod.fst = (readQueue ms.length q).map Prod.fst := by
  rw [readPackets_messageBytes rest ms w r hseq hin,
    readQueue_append ms q [] (by rw [hq, List.append_nil])]
  rfl

end Net
end TiProxy
