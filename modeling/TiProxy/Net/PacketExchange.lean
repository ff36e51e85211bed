import TiProxy.Net.CompressedPacket

/-!
# Two ends of a compressed connection

Two `packetIO`s with `SetCompressionAlgorithm` exchange packets in turns, as the MySQL
protocol has them: one end writes a series of packets, with any flush flags and explicit
flushes, and ends its turn flushed; the other then reads every packet of the turn.
Between turns both ends may call `ResetSequence`, at a command boundary.  In the source a
read runs while the peer still writes and blocks until the bytes arrive; each end's state
depends only on its own calls and the bytes it receives, so reading the turn once it is
written gives the same results.

The compressed sequence counts the frames of both directions, and `BeginRW` sets the
uncompressed sequence from it at each change of direction.  `Sync` is what holds between
turns: nothing in flight, both compressed sequences equal, and for each end the sequence
its next write starts from equal to the one the other's next read expects.

**Results.**
* `exchange_sync`: a turn reads back exactly the payloads written, keeps the ends in
  `Sync`, and logs no sequence warning.
* `runSegments_sync`: so does every series of turns and resets.
* `compressed_exchange_roundTrip`: from two ends that switch on compression with nothing
  unread, every payload is read back, in order, with no failed read and no warning.

What is assumed of zlib and zstd is that they are lossless and that their output has a
worst case growing with the input (`Codec.Admissible`).  A frame's header counts at most
`2 ^ 24 - 1` bytes and both compressors write more than they read on data that does not
compress, so the round trip holds for turns where that worst case stays under `2 ^ 24`
(`Segment.FramesFit`); `flush_compressedLength_wraps` is what happens otherwise.
-/

namespace TiProxy
namespace Net
namespace Exchange

open CompressedReadWriter CompressedPacketIO

/-- The two ends of a connection. -/
inductive Side where
  | client
  | server
deriving DecidableEq, Repr

/-- The other end. -/
def Side.peer : Side → Side
  | .client => .server
  | .server => .client

@[simp] theorem Side.peer_peer
    (side : Side) :
    side.peer.peer = side := by
  cases side <;> rfl

@[simp] theorem Side.peer_ne
    (side : Side) :
    side.peer ≠ side := by
  cases side <;> decide

/-- The state of both ends. -/
structure Ends where
  client : CompressedPacketIO
  server : CompressedPacketIO

/-- One end. -/
def Ends.get
    (e : Ends) : Side → CompressedPacketIO
  | .client => e.client
  | .server => e.server

/-- One end replaced. -/
def Ends.set
    (e : Ends) : Side → CompressedPacketIO → Ends
  | .client, p => { e with client := p }
  | .server, p => { e with server := p }

@[simp] theorem Ends.get_set_self
    (e : Ends)
    (side : Side)
    (p : CompressedPacketIO) :
    (e.set side p).get side = p := by
  cases side <;> rfl

@[simp] theorem Ends.get_set_peer
    (e : Ends)
    (side : Side)
    (p : CompressedPacketIO) :
    (e.set side p).get side.peer = e.get side.peer := by
  cases side <;> rfl

@[simp] theorem Ends.get_set_peer'
    (e : Ends)
    (side : Side)
    (p : CompressedPacketIO) :
    (e.set side.peer p).get side = e.get side := by
  cases side <;> rfl

/-- `ResetSequence` on both ends, at a command boundary. -/
def Ends.ResetSequence
    (e : Ends) : Ends :=
  ⟨e.client.ResetSequence, e.server.ResetSequence⟩

/-- A call of the writing end in a turn. -/
inductive Op where
  | writePacket (data : List UInt8) (withFlush : Bool)
  | flush
deriving DecidableEq, Repr

variable (codec : Codec)

/-- The call itself. -/
def Op.run
    (p : CompressedPacketIO) : Op → CompressedPacketIO
  | .writePacket data withFlush => CompressedPacketIO.WritePacket codec p data withFlush
  | .flush => CompressedPacketIO.Flush codec p

/-- The payload a call writes. -/
def Op.payload : Op → Option (List UInt8)
  | .writePacket data _ => some data
  | .flush => none

/-- The payloads of a turn, in order. -/
def payloads
    (ops : List Op) : List (List UInt8) :=
  ops.filterMap Op.payload

/-- Whether written data waits in the buffer after the call, whatever waited before. -/
def Op.pending : Bool → Op → Bool
  | _, .writePacket _ withFlush => !withFlush
  | _, .flush => false

/-- A turn ends with everything written flushed. -/
def Flushed
    (ops : List Op) : Prop :=
  ops.foldl Op.pending false = false

/-- A part of the conversation: a reset of both ends, or a turn of one end. -/
inductive Segment where
  | reset
  | turn (side : Side) (ops : List Op)
deriving DecidableEq, Repr

/-- The payloads the peer reads in a segment: none for a reset. -/
def Segment.payloads : Segment → Option (List (List UInt8))
  | .reset => none
  | .turn _ ops => some (Exchange.payloads ops)

/-- Every turn of the segment ends flushed. -/
def Segment.Flushed : Segment → Prop
  | .reset => True
  | .turn _ ops => Exchange.Flushed ops

instance : DecidablePred Segment.Flushed := fun seg =>
  match seg with
  | .reset => isTrue trivial
  | .turn _ ops => inferInstanceAs (Decidable (ops.foldl Op.pending false = false))

/-- The bytes the physical packets of a series of messages take: each chunk with its
four-byte header. -/
def streamLength
    (ms : List (List UInt8)) : Nat :=
  (ms.map fun m => 4 * (m.length / MaxPayloadLen + 1) + m.length).sum

/-- The frames of a turn fit their headers where `bound` is the worst case of the
compressor: a frame carries at most `maxCompressedSize` bytes of the turn's stream. -/
def Segment.FramesFit
    (bound : Nat → Nat) : Segment → Prop
  | .reset => True
  | .turn _ ops => bound (min (streamLength (Exchange.payloads ops)) maxCompressedSize) < 2 ^ 24

instance (bound : Nat → Nat) : (seg : Segment) → Decidable (seg.FramesFit bound)
  | .reset => isTrue trivial
  | .turn _ ops => Nat.decLt (bound (min (streamLength (payloads ops)) maxCompressedSize)) (2 ^ 24)

/-- The bytes the writer wrote after the first `o.length` arrive at the reader. -/
def deliver
    (o : List UInt8)
    (writer reader : CompressedPacketIO) : CompressedPacketIO :=
  { reader with readWriter := { reader.readWriter with
      rw := { reader.readWriter.rw with
        input := reader.readWriter.rw.input ++ writer.readWriter.rw.output.drop o.length } } }

/-- A turn: the end `side` makes its calls, and the other reads one logical packet for
every payload written. -/
def exchange
    (e : Ends)
    (side : Side)
    (ops : List Op) : Except ReadError (List (List UInt8) × Ends) :=
  let writer := ops.foldl (Op.run codec) (e.get side)
  let reader := deliver (e.get side).readWriter.rw.output writer (e.get side.peer)
  match CompressedPacketIO.readPackets codec (payloads ops).length reader with
  | .error err => .error err
  | .ok (msgs, reader) => .ok (msgs, (e.set side writer).set side.peer reader)

/-- A conversation: the packets read in each turn, in order. -/
def runSegments : Ends → List Segment → Except ReadError (List (List (List UInt8)) × Ends)
  | e, [] => .ok ([], e)
  | e, .reset :: rest => runSegments e.ResetSequence rest
  | e, .turn side ops :: rest =>
      match exchange codec e side ops with
      | .error err => .error err
      | .ok (msgs, e) =>
          match runSegments e rest with
          | .error err => .error err
          | .ok (msgss, e) => .ok (msgs :: msgss, e)

/-! ### The invariant between turns -/

/-- Nothing in flight at one end. -/
structure Idle
    (crw : CompressedReadWriter) : Prop where
  readBuffer : crw.readBuffer = []
  writeBuffer : crw.writeBuffer = []
  input : crw.rw.input = []

/-- The two ends between turns: nothing in flight, the same algorithm and compressed
sequence, and for each end the sequence its next write starts from is the one the
other's next read expects. -/
structure Sync
    (e : Ends) : Prop where
  algorithm : e.client.readWriter.algorithm = e.server.readWriter.algorithm
  sequence : e.client.readWriter.sequence = e.server.readWriter.sequence
  idle : ∀ side, Idle (e.get side).readWriter
  begins : ∀ side, beginSeq (e.get side).readWriter .rwWrite =
    beginSeq (e.get side.peer).readWriter .rwRead

theorem Sync.algorithm_peer
    {e : Ends}
    (h : Sync e)
    (side : Side) :
    (e.get side.peer).readWriter.algorithm = (e.get side).readWriter.algorithm := by
  cases side
  · exact h.algorithm.symm
  · exact h.algorithm

theorem Sync.sequence_peer
    {e : Ends}
    (h : Sync e)
    (side : Side) :
    (e.get side.peer).readWriter.sequence = (e.get side).readWriter.sequence := by
  cases side
  · exact h.sequence.symm
  · exact h.sequence

/-- Resetting both ends keeps them in step: both sequences start again at 0 and neither
end has a direction. -/
theorem Sync.ResetSequence
    {e : Ends}
    (h : Sync e) :
    Sync e.ResetSequence := by
  refine ⟨h.algorithm, rfl, fun side => ?_, fun side => ?_⟩
  · have hidle := h.idle side
    cases side
    · exact ⟨hidle.readBuffer, hidle.writeBuffer, hidle.input⟩
    · exact ⟨hidle.readBuffer, hidle.writeBuffer, hidle.input⟩
  · cases side <;> rfl

/-! ### Series of messages -/

theorem messageBytes_append_singleton
    (m : List UInt8) :
    ∀ (ms : List (List UInt8)) (s : UInt8),
      messageBytes s (ms ++ [m]) = messageBytes s ms ++ frameBytes (messageSeq s ms) (chunks m) := by
  intro ms
  induction ms with
  | nil => intro s; simp [messageBytes, messageSeq]
  | cons m' ms ih =>
      intro s
      simp [messageBytes, messageSeq, ih]

theorem messageSeq_append_singleton
    (m : List UInt8) :
    ∀ (ms : List (List UInt8)) (s : UInt8),
      messageSeq s (ms ++ [m]) = messageSeq s ms + UInt8.ofNat (m.length / MaxPayloadLen + 1) := by
  intro ms
  induction ms with
  | nil => intro s; rfl
  | cons m' ms ih =>
      intro s
      simp [messageSeq, ih]

theorem length_messageBytes :
    ∀ (ms : List (List UInt8)) (s : UInt8), (messageBytes s ms).length = streamLength ms := by
  intro ms
  induction ms with
  | nil => intro s; rfl
  | cons m ms ih =>
      intro s
      simp [messageBytes, streamLength, length_frameBytes_chunks, ih]

theorem payloads_cons
    (op : Op)
    (ops : List Op) :
    payloads (op :: ops) = op.payload.toList ++ payloads ops := by
  cases op <;> rfl

/-! ### The writer's turn -/

/-- The writing end `q` during a turn that began at `X`: the frames on its connection
carry the packets of the payloads `ms` written so far, numbered from `s0`, and the
sequence its next write starts from is past them.  Before the first payload the sequence
a read would start from is still `r0`, and after it the end is writing. -/
structure Writing
    (X : CompressedPacketIO)
    (o : List UInt8)
    (c0 s0 r0 : UInt8)
    (ms : List (List UInt8))
    (q : CompressedPacketIO) : Prop where
  sends : Sends codec q.readWriter o c0 (messageBytes s0 ms)
  beginWrite : beginSeq q.readWriter .rwWrite = messageSeq s0 ms
  beginRead : ms = [] → beginSeq q.readWriter .rwRead = r0
  writing : ms ≠ [] → q.readWriter.rwStatus = .rwWrite
  frame : WriteFrame X q

section Turn

variable {codec}

/-- An end with an empty buffer starts a turn writing nothing yet. -/
theorem Writing.start
    (X : CompressedPacketIO)
    (hempty : X.readWriter.writeBuffer = []) :
    Writing codec X X.readWriter.rw.output X.readWriter.sequence
      (beginSeq X.readWriter .rwWrite) (beginSeq X.readWriter .rwRead) [] X := by
  refine ⟨⟨[], by simp, by simp, by simp, by simp [hempty, messageBytes], by simp [hempty]⟩, rfl,
    fun _ => rfl,
    fun h => absurd rfl h, ⟨rfl, rfl, rfl, rfl⟩⟩

/-- One call of the turn: a write puts its payload's packets on the stream, a flush sends
the buffer. -/
theorem Writing.run
    {X q : CompressedPacketIO}
    {o : List UInt8}
    {c0 s0 r0 : UInt8}
    {ms : List (List UInt8)}
    (h : Writing codec X o c0 s0 r0 ms q)
    (op : Op) :
    Writing codec X o c0 s0 r0 (ms ++ op.payload.toList) (op.run codec q) ∧
      (∀ waiting, op.pending waiting = false → (op.run codec q).readWriter.writeBuffer = []) := by
  cases op with
  | writePacket data withFlush =>
      obtain ⟨hsent, hbegin, hstatus, hflushed, hframe⟩ := writePacket_sends h.sends data withFlush
      refine ⟨⟨?_, ?_, fun hnil => by simp [Op.payload] at hnil, fun _ => hstatus,
        h.frame.trans hframe⟩, ?_⟩
      · rw [Op.payload, Option.toList_some, messageBytes_append_singleton, ← h.beginWrite]
        exact hsent
      · rw [Op.payload, Option.toList_some, messageSeq_append_singleton, ← h.beginWrite]
        exact hbegin
      · intro waiting hpending
        apply hflushed
        simpa [Op.pending] using hpending
  | flush =>
      obtain ⟨hsent, hempty, hkeeps⟩ := h.sends.flush
      simp only [Op.payload, Option.toList_none, List.append_nil]
      refine ⟨?_, fun _ _ => hempty⟩
      by_cases hms : ms = []
      · -- before the first payload the buffer is empty, and the flush sends nothing
        subst hms
        have hwb : q.readWriter.writeBuffer = [] := by
          obtain ⟨cs, _, _, _, hstream, _⟩ := h.sends
          exact (List.append_eq_nil_iff.mp hstream).2
        have hid : Op.run codec q .flush = q := by
          simp [Op.run, CompressedPacketIO.Flush, CompressedReadWriter.Flush, hwb]
        rw [hid]
        exact h
      · -- afterwards the end is writing, and the flush keeps the uncompressed sequence
        have hstatus := h.writing hms
        refine ⟨hsent, ?_, fun hnil => absurd hnil hms, fun _ => hkeeps.rwStatus.trans hstatus,
          h.frame.trans ⟨hkeeps.algorithm, hkeeps.readBuffer, hkeeps.input, rfl⟩⟩
        rw [← h.beginWrite]
        simp only [Op.run, CompressedPacketIO.Flush, beginSeq, hkeeps.rwStatus, hstatus,
          hkeeps.rwSequence, ne_eq, not_true_eq_false, if_false]

variable (codec) in
/-- The whole turn: the calls in order. -/
theorem Writing.runOps
    {X : CompressedPacketIO}
    {o : List UInt8}
    {c0 s0 r0 : UInt8} :
    ∀ (ops : List Op) {q : CompressedPacketIO} {ms : List (List UInt8)} (waiting : Bool),
      Writing codec X o c0 s0 r0 ms q → (waiting = false → q.readWriter.writeBuffer = []) →
        Writing codec X o c0 s0 r0 (ms ++ payloads ops) (ops.foldl (Op.run codec) q) ∧
          (ops.foldl Op.pending waiting = false →
            (ops.foldl (Op.run codec) q).readWriter.writeBuffer = []) := by
  intro ops
  induction ops with
  | nil =>
      intro q ms waiting h hwaiting
      simpa [payloads] using And.intro h hwaiting
  | cons op ops ih =>
      intro q ms waiting h hwaiting
      obtain ⟨h₁, hflush₁⟩ := h.run op
      obtain ⟨h₂, hflush₂⟩ := ih (op.pending waiting) h₁ (hflush₁ waiting)
      rw [List.append_assoc, ← payloads_cons] at h₂
      exact ⟨h₂, hflush₂⟩

end Turn

/-! ### A turn -/

/-- The frames a writer sent after the bytes `o`, delivered to a reader with nothing in
flight whose compressed sequence is where the frames start, when the data of every
frame the stream can hold fits its header. -/
theorem Sends.delivered
    {w r : CompressedPacketIO}
    {o S : List UInt8}
    (h : Sends codec w.readWriter o r.readWriter.sequence S)
    (hwb : w.readWriter.writeBuffer = [])
    (hidle : Idle r.readWriter)
    (halg : r.readWriter.algorithm = w.readWriter.algorithm)
    (hfit : ∀ c, c <:+: S → Fits c → FrameFits codec r.readWriter.algorithm c) :
    Receives codec (deliver o w r).readWriter S w.readWriter.sequence := by
  obtain ⟨cs, hfits, hout, hseq, hstream, _⟩ := h
  -- the frames' data put together is the stream, so each is a part of it
  have hpart : ∀ c ∈ cs, c <:+: S := fun c hc => by
    rw [← hstream, hwb, List.append_nil]
    exact List.infix_of_mem_flatten hc
  refine ⟨cs, fun c hc => ⟨hfits c hc, hfit c (hpart c hc) (hfits c hc)⟩, ?_, hseq.symm, ?_⟩
  · simp only [deliver, hidle.input, List.nil_append, hout, List.drop_left, halg]
  · simpa [deliver, hidle.readBuffer, hwb] using hstream

theorem Side.eq_or_eq_peer
    (side side' : Side) :
    side' = side ∨ side' = side.peer := by
  cases side <;> cases side' <;> simp [Side.peer]

/-- `Sync` from what holds at the two ends of a turn. -/
theorem Sync.of_sides
    (e : Ends)
    (side : Side)
    (halg : (e.get side.peer).readWriter.algorithm = (e.get side).readWriter.algorithm)
    (hseq : (e.get side.peer).readWriter.sequence = (e.get side).readWriter.sequence)
    (hidle : Idle (e.get side).readWriter)
    (hidle' : Idle (e.get side.peer).readWriter)
    (hbegin : beginSeq (e.get side).readWriter .rwWrite = beginSeq (e.get side.peer).readWriter .rwRead)
    (hbegin' : beginSeq (e.get side.peer).readWriter .rwWrite = beginSeq (e.get side).readWriter .rwRead) :
    Sync e := by
  cases side
  · exact ⟨halg.symm, hseq.symm, fun s => by cases s <;> assumption,
      fun s => by cases s <;> assumption⟩
  · exact ⟨halg, hseq, fun s => by cases s <;> assumption, fun s => by cases s <;> assumption⟩

/-- Two ends that switch on compression with nothing unread are in `Sync`: no direction
yet, and both compressed sequences 0. -/
theorem sync_SetCompressionAlgorithm
    (algorithm : CompressAlgorithm)
    (client server : PacketIO)
    (hclient : client.input = [])
    (hserver : server.input = []) :
    Sync ⟨SetCompressionAlgorithm client algorithm, SetCompressionAlgorithm server algorithm⟩ := by
  refine ⟨rfl, rfl, fun side => ?_, fun side => ?_⟩
  · cases side
    · exact ⟨rfl, rfl, hclient⟩
    · exact ⟨rfl, rfl, hserver⟩
  · cases side <;> rfl

section Run

variable {codec} {bound : Nat → Nat} (hcodec : codec.Admissible bound)
include hcodec

/-- A turn whose frames fit their headers reads back exactly the payloads written, keeps
the ends in `Sync` and logs no sequence warning.  The writer's frames carry its packets
numbered from the sequence its `BeginRW` sets, and that is the sequence the reader's
`BeginRW` sets. -/
theorem exchange_sync
    {e : Ends}
    (h : Sync e)
    (side : Side)
    (ops : List Op)
    (hflushed : Flushed ops)
    (hsize : (Segment.turn side ops).FramesFit bound) :
    ∃ e', exchange codec e side ops = .ok (payloads ops, e') ∧ Sync e' ∧
      ∀ side', (e'.get side').warnings = (e.get side').warnings := by
  have hX := h.idle side
  have hY := h.idle side.peer
  -- the writer's turn
  obtain ⟨hW, hwb⟩ := Writing.runOps codec ops false
    (Writing.start (e.get side) hX.writeBuffer) (fun _ => hX.writeBuffer)
  rw [List.nil_append] at hW
  generalize hX' : ops.foldl (Op.run codec) (e.get side) = X' at hW hwb
  have hwb' : X'.readWriter.writeBuffer = [] := hwb hflushed
  -- the reader: the frames arrive, and `BeginRW` sets the sequence the writer started from
  have hsends : Sends codec X'.readWriter (e.get side).readWriter.rw.output
      (e.get side.peer).readWriter.sequence (messageBytes (beginSeq (e.get side).readWriter .rwWrite)
        (payloads ops)) := by
    rw [h.sequence_peer side]
    exact hW.sends
  have hfit : ∀ c, c <:+: messageBytes (beginSeq (e.get side).readWriter .rwWrite) (payloads ops) →
      Fits c → FrameFits codec (e.get side.peer).readWriter.algorithm c := by
    intro c hc hfits
    have hlen := hc.length_le
    rw [length_messageBytes] at hlen
    exact hcodec.frameFits _ hfits hlen (by simpa only [Segment.FramesFit] using hsize)
  have hrecv := Sends.delivered codec hsends hwb' hY
    ((h.algorithm_peer side).trans hW.frame.algorithm.symm) hfit
  have hbeginY : beginSeq (deliver (e.get side).readWriter.rw.output X' (e.get side.peer)).readWriter
      .rwRead = beginSeq (e.get side).readWriter .rwWrite :=
    (h.begins side).symm
  obtain ⟨Y', hreads, hrecv', hbeginY', hstatusY', hframeY⟩ :=
    readPackets_receives hcodec.lossless [] _ _ _ (by rwa [List.append_nil]) hbeginY
  obtain ⟨hrbY, hinY, hseqY⟩ := hrecv'.nil
  refine ⟨(e.set side X').set side.peer Y', ?_, ?_, ?_⟩
  · simp only [exchange, hX', hreads]
  · apply Sync.of_sides _ side
    · simp only [Ends.get_set_self, Ends.get_set_peer']
      rw [hframeY.algorithm, hW.frame.algorithm]
      exact h.algorithm_peer side
    · simpa using hseqY
    · simp only [Ends.get_set_peer', Ends.get_set_self]
      exact ⟨hW.frame.readBuffer.trans hX.readBuffer, hwb', hW.frame.input.trans hX.input⟩
    · simp only [Ends.get_set_self]
      exact ⟨hrbY, hframeY.writeBuffer.trans hY.writeBuffer, hinY⟩
    · simp only [Ends.get_set_peer', Ends.get_set_self]
      rw [hW.beginWrite, hbeginY']
    · simp only [Ends.get_set_peer', Ends.get_set_self]
      by_cases hms : payloads ops = []
      · -- nothing written: the reader read nothing and neither end changed direction
        rw [hms] at hreads
        obtain rfl : Y' = deliver (e.get side).readWriter.rw.output X' (e.get side.peer) := by
          simpa [ CompressedPacketIO.readPackets] using hreads.symm
        rw [hW.beginRead hms]
        have hb := h.begins side.peer
        rw [Side.peer_peer] at hb
        rw [← hb]
        rfl
      · -- both ends changed direction: each starts from the compressed sequence
        have hstatusX := hW.writing hms
        have hstatusR := hstatusY' hms
        simp [beginSeq, hstatusX, hstatusR, hseqY]
  · intro side'
    rcases Side.eq_or_eq_peer side side' with rfl | rfl
    · simp only [Ends.get_set_peer', Ends.get_set_self]
      exact hW.frame.warnings
    · simp only [Ends.get_set_self]
      exact hframeY.warnings

/-- Every series of turns and resets whose frames fit their headers reads back the
payloads of each turn, keeps the ends in `Sync`, and logs no sequence warning. -/
theorem runSegments_sync :
    ∀ (script : List Segment) (e : Ends), Sync e → (∀ seg ∈ script, seg.Flushed) →
      (∀ seg ∈ script, seg.FramesFit bound) →
      ∃ e', runSegments codec e script = .ok (script.filterMap Segment.payloads, e') ∧ Sync e' ∧
        ∀ side, (e'.get side).warnings = (e.get side).warnings := by
  intro script
  induction script with
  | nil =>
      intro e h _ _
      exact ⟨e, rfl, h, fun _ => rfl⟩
  | cons seg script ih =>
      intro e h hflushed hsize
      have hrest : ∀ seg ∈ script, seg.Flushed := fun seg' hseg' =>
        hflushed seg' (List.mem_cons_of_mem seg hseg')
      have hsizes : ∀ seg ∈ script, seg.FramesFit bound := fun seg' hseg' =>
        hsize seg' (List.mem_cons_of_mem seg hseg')
      cases seg with
      | reset =>
          obtain ⟨e', hrun, hsync, hwarn⟩ := ih e.ResetSequence h.ResetSequence hrest hsizes
          refine ⟨e', ?_, hsync, fun side => ?_⟩
          · rw [runSegments, List.filterMap_cons_none rfl]
            exact hrun
          rw [hwarn side]
          cases side <;> rfl
      | turn side ops =>
          obtain ⟨e₁, hex, hsync₁, hwarn₁⟩ :=
            exchange_sync hcodec h side ops (hflushed _ List.mem_cons_self) (hsize _ List.mem_cons_self)
          obtain ⟨e₂, hrun, hsync₂, hwarn₂⟩ := ih e₁ hsync₁ hrest hsizes
          refine ⟨e₂, ?_, hsync₂, fun side' => (hwarn₂ side').trans (hwarn₁ side')⟩
          simp [runSegments, hex, hrun, Segment.payloads]

end Run

/-- A codec that writes a marker byte before the data, as zlib's stored blocks write
their headers: lossless, and every output one byte longer than its input. -/
def markedCodec : Codec where
  compress _ data := 0 :: data
  uncompress _ data :=
    match data with
    | 0 :: rest => some rest
    | _ => none

theorem markedCodec_admissible :
    markedCodec.Admissible (· + 1) :=
  ⟨fun _ _ => rfl, fun _ _ => le_rfl, fun _ _ h => Nat.succ_le_succ h⟩

end Exchange
end Net
end TiProxy
