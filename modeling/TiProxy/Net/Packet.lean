import Mathlib.Data.List.Basic
import TiProxy.Lib.LittleEndian

/-!
# Packet framing of the MySQL protocol

A model of `packetIO` (`pkg/proxy/net/packetio.go`) on a plain connection: no
compression, no TLS, no proxy protocol.  A logical packet travels as physical
packets of at most `MaxPayloadLen` bytes, each behind a four-byte header: the
payload length in three little-endian bytes and a sequence number.

**State.**  `PacketIO` is one end of a connection: the bytes the peer sent that it
has not read yet, the bytes it has written, its sequence counter (`uint8`, so it
wraps at 256) and its byte and packet counters.  The buffered writer is folded into
`output`: the bytes there are what the peer reads once the end flushes.

**Operations.**  `readOnePacket`, `ReadPacket`, `writeOnePacket` and
`WritePacket` as in the source.  The loops `for more := true; more;` run on fuel:
every iteration reads or writes at least one header, so the fuel the entry points
give is never used up.

**Results.**
* `writePacket_eq`: `WritePacket` emits the frames of `chunks data`, with
  sequence numbers counted on from the writer's counter.
* `readPacket_frameBytes`: `ReadPacket` on those frames returns the payload and
  consumes exactly them.
* `writePacket_readPacket`: the round trip, with the shape of the frames and the
  final counters of both ends, also for a series of messages.
-/

namespace TiProxy
namespace Net

open LittleEndian

/-- `MaxPayloadLen`: the longest payload of one physical packet, `1<<24 - 1`. -/
def MaxPayloadLen : Nat := 2 ^ 24 - 1

/-- The errors of the packet layer, as `ErrReadConn`, `ErrWriteConn` and
`ErrRelayConn` wrap them. -/
inductive PacketError where
  | errReadConn
  | errWriteConn
  | errRelayConn
deriving DecidableEq, Repr

/-- One end of a connection: `packetIO` with its `basicReadWriter`. -/
structure PacketIO where
  input : List UInt8
  output : List UInt8
  sequence : UInt8
  inBytes : Nat
  outBytes : Nat
  inPackets : Nat
  outPackets : Nat
deriving DecidableEq, Repr

/-- `ReadFull`: the next `n` bytes, or the error of a connection that ends
first. -/
def ReadFull
    (p : PacketIO)
    (n : Nat) : Option (List UInt8 × PacketIO) :=
  if n ≤ p.input.length then
    some (p.input.take n, { p with input := p.input.drop n, inBytes := p.inBytes + n })
  else
    none

/-- `readOnePacket`: the payload of the next physical packet and whether another
one follows.  A sequence number other than the expected one is only logged; the
counter continues from the header's number. -/
def readOnePacket
    (p : PacketIO) : Except PacketError (List UInt8 × Bool × PacketIO) :=
  match ReadFull p 4 with
  | none => .error .errReadConn
  | some ([h0, h1, h2, sequence], p) =>
      let p := { p with sequence := sequence + 1 }
      let length := decode24 h0 h1 h2
      match ReadFull p length with
      | none => .error .errReadConn
      | some (data, p) => .ok (data, length == MaxPayloadLen, { p with inPackets := p.inPackets + 1 })
  | some _ => .error .errReadConn

/-- The loop of `ReadPacket`: read physical packets while they are full. -/
def readPacketLoop : Nat → List UInt8 → PacketIO → Except PacketError (List UInt8 × PacketIO)
  | 0, _, _ => .error .errReadConn
  | fuel + 1, data, p =>
      match readOnePacket p with
      | .error err => .error err
      | .ok (buf, more, p) =>
          if more then readPacketLoop fuel (data ++ buf) p else .ok (data ++ buf, p)

/-- `ReadPacket`: read one logical packet. -/
def ReadPacket
    (p : PacketIO) : Except PacketError (List UInt8 × PacketIO) :=
  readPacketLoop (p.input.length + 1) [] p

/-- `writeOnePacket`: write the header and at most `MaxPayloadLen` bytes; another
packet follows when the payload is at least that long, so a payload of exactly
that length is followed by an empty packet. -/
def writeOnePacket
    (p : PacketIO)
    (data : List UInt8) : Nat × Bool × PacketIO :=
  let (length, more) :=
    if data.length ≥ MaxPayloadLen then (MaxPayloadLen, true) else (data.length, false)
  let sequence := p.sequence
  let p := { p with sequence := sequence + 1 }
  let p := { p with output := p.output ++ (encode24 length ++ [sequence]), outBytes := p.outBytes + 4 }
  let p := { p with output := p.output ++ data.take length, outBytes := p.outBytes + length }
  (length, more, { p with outPackets := p.outPackets + 1 })

/-- The loop of `WritePacket`. -/
def writePacketLoop : Nat → List UInt8 → PacketIO → PacketIO
  | 0, _, p => p
  | fuel + 1, data, p =>
      let (n, more, p) := writeOnePacket p data
      if more then writePacketLoop fuel (data.drop n) p else p

/-- `WritePacket`: write one logical packet. -/
def WritePacket
    (p : PacketIO)
    (data : List UInt8) : PacketIO :=
  writePacketLoop (data.length + 1) data p

/-! ### The frames of a payload -/

/-- `k` chunks of `MaxPayloadLen` bytes, then the rest of the payload. -/
def chunksAux : Nat → List UInt8 → List (List UInt8)
  | 0, data => [data]
  | k + 1, data => data.take MaxPayloadLen :: chunksAux k (data.drop MaxPayloadLen)

/-- The payloads of the physical packets that carry `data`. -/
def chunks (data : List UInt8) : List (List UInt8) :=
  chunksAux (data.length / MaxPayloadLen) data

/-- The bytes of physical packets carrying `cs`, numbered on from `s`. -/
def frameBytes : UInt8 → List (List UInt8) → List UInt8
  | _, [] => []
  | s, c :: cs => encode24 c.length ++ [s] ++ c ++ frameBytes (s + 1) cs

theorem maxPayloadLen_pos : 0 < MaxPayloadLen := by
  decide

theorem maxPayloadLen_lt : MaxPayloadLen < 2 ^ 24 := by
  decide

/-- No full chunk: the payload is shorter than one packet. -/
theorem lt_of_div_maxPayloadLen_eq_zero
    {n : Nat}
    (h : n / MaxPayloadLen = 0) :
    n < MaxPayloadLen := by
  unfold MaxPayloadLen at *
  omega

/-- One full chunk more: the payload fills a packet, and the rest has one full chunk
less. -/
theorem div_maxPayloadLen_sub
    {n k : Nat}
    (h : n / MaxPayloadLen = k + 1) :
    MaxPayloadLen ≤ n ∧ (n - MaxPayloadLen) / MaxPayloadLen = k := by
  unfold MaxPayloadLen at *
  omega

/-- Counting one packet on from `s + 1` is counting on from `s`. -/
theorem seq_succ_add
    (s : UInt8)
    (i : Nat) :
    s + 1 + UInt8.ofNat i = s + UInt8.ofNat (i + 1) := by
  rw [UInt8.ofNat_add]
  grind

@[simp] theorem frameBytes_nil
    (s : UInt8) :
    frameBytes s [] = [] := by
  rfl

@[simp] theorem frameBytes_cons
    (s : UInt8)
    (c : List UInt8)
    (cs : List (List UInt8)) :
    frameBytes s (c :: cs) = encode24 c.length ++ [s] ++ c ++ frameBytes (s + 1) cs := by
  rfl

/-- The header of the `i`-th frame carries the sequence number `s + i`. -/
theorem frameBytes_eq_flatMap
    (cs : List (List UInt8))
    (s : UInt8) :
    frameBytes s cs =
      (cs.zipIdx).flatMap (fun ci => encode24 ci.1.length ++ [s + UInt8.ofNat ci.2] ++ ci.1) := by
  induction cs generalizing s with
  | nil =>
      rfl
  | cons c cs ih =>
      rw [frameBytes_cons, ih, List.zipIdx_cons, List.zipIdx_succ, List.flatMap_cons,
        List.flatMap_map]
      simp [seq_succ_add]

/-- The number of chunks. -/
theorem length_chunksAux
    (k : Nat)
    (data : List UInt8) :
    (chunksAux k data).length = k + 1 := by
  induction k generalizing data with
  | zero =>
      rfl
  | succ k ih =>
      simp [chunksAux, ih]

/-- The chunks put together are the payload. -/
theorem flatten_chunksAux
    (k : Nat)
    (data : List UInt8) :
    (chunksAux k data).flatten = data := by
  induction k generalizing data with
  | zero =>
      simp [chunksAux]
  | succ k ih =>
      simp [chunksAux, ih]

/-- Every chunk but the last is full, and the last is shorter, when `k` is the
number of full chunks. -/
theorem chunksAux_lengths
    (k : Nat)
    (data : List UInt8)
    (hk : data.length / MaxPayloadLen = k) :
    (∀ c ∈ (chunksAux k data).dropLast, c.length = MaxPayloadLen) ∧
      ∀ c ∈ (chunksAux k data).getLast?, c.length < MaxPayloadLen := by
  induction k generalizing data with
  | zero =>
      simp [chunksAux, lt_of_div_maxPayloadLen_eq_zero hk]
  | succ k ih =>
      obtain ⟨hge, hk'⟩ := div_maxPayloadLen_sub hk
      rw [← List.length_drop] at hk'
      obtain ⟨hfull, hlast⟩ := ih (data.drop MaxPayloadLen) hk'
      have hne : chunksAux k (data.drop MaxPayloadLen) ≠ [] := by
        intro h
        have := length_chunksAux k (data.drop MaxPayloadLen)
        rw [h] at this
        simp at this
      refine ⟨?_, ?_⟩
      · intro c hc
        rw [chunksAux, List.dropLast_cons_of_ne_nil hne, List.mem_cons] at hc
        rcases hc with rfl | hc
        · simp [hge]
        · exact hfull c hc
      · intro c hc
        rw [chunksAux, List.getLast?_cons, Option.mem_def] at hc
        apply hlast c
        rw [Option.mem_def]
        cases hl : (chunksAux k (data.drop MaxPayloadLen)).getLast? with
        | none =>
            simp [List.getLast?_eq_none_iff.mp hl] at hne
        | some l =>
            simpa [hl] using hc

/-! ### The writer -/

section Writer

variable (p : PacketIO) (data : List UInt8)

/-- A payload of at least `MaxPayloadLen` bytes: a full packet, and more to come. -/
theorem writeOnePacket_of_le
    (h : MaxPayloadLen ≤ data.length) :
    writeOnePacket p data =
      (MaxPayloadLen, true,
        { p with
          sequence := p.sequence + 1
          output := p.output ++ (encode24 MaxPayloadLen ++ [p.sequence]) ++ data.take MaxPayloadLen
          outBytes := p.outBytes + 4 + MaxPayloadLen
          outPackets := p.outPackets + 1 }) := by
  simp [writeOnePacket, h]

/-- A shorter payload: the last packet. -/
theorem writeOnePacket_of_lt
    (h : data.length < MaxPayloadLen) :
    writeOnePacket p data =
      (data.length, false,
        { p with
          sequence := p.sequence + 1
          output := p.output ++ (encode24 data.length ++ [p.sequence]) ++ data
          outBytes := p.outBytes + 4 + data.length
          outPackets := p.outPackets + 1 }) := by
  simp [writeOnePacket, Nat.not_le_of_lt h]

end Writer

/-- The writer's loop emits the frames of the chunks, given more fuel than full
chunks. -/
theorem writePacketLoop_eq
    (k : Nat) :
    ∀ (fuel : Nat) (data : List UInt8) (p : PacketIO),
      data.length / MaxPayloadLen = k → k < fuel →
        writePacketLoop fuel data p =
          { p with
            sequence := p.sequence + UInt8.ofNat (k + 1)
            output := p.output ++ frameBytes p.sequence (chunksAux k data)
            outBytes := p.outBytes + 4 * (k + 1) + data.length
            outPackets := p.outPackets + (k + 1) } := by
  induction k with
  | zero =>
      intro fuel data p hk hfuel
      obtain ⟨fuel, rfl⟩ : ∃ f, fuel = f + 1 := ⟨fuel - 1, by omega⟩
      have hlt := lt_of_div_maxPayloadLen_eq_zero hk
      simp [writePacketLoop, writeOnePacket_of_lt p data hlt, chunksAux]
  | succ k ih =>
      intro fuel data p hk hfuel
      obtain ⟨fuel, rfl⟩ : ∃ f, fuel = f + 1 := ⟨fuel - 1, by omega⟩
      obtain ⟨hge, hk'⟩ := div_maxPayloadLen_sub hk
      rw [← List.length_drop] at hk'
      have hlen : (data.take MaxPayloadLen).length = MaxPayloadLen := by
        simp [hge]
      have hseq := seq_succ_add p.sequence (k + 1)
      simp only [writePacketLoop, writeOnePacket_of_le p data hge, if_true]
      rw [ih fuel (data.drop MaxPayloadLen) _ hk' (by omega)]
      simp only [chunksAux, frameBytes_cons, hlen, hseq, List.append_assoc, PacketIO.mk.injEq,
        true_and, List.length_drop]
      omega

/-- `WritePacket` emits the frames of `chunks data`, numbered on from the writer's
counter. -/
theorem writePacket_eq
    (p : PacketIO)
    (data : List UInt8) :
    WritePacket p data =
      { p with
        sequence := p.sequence + UInt8.ofNat (data.length / MaxPayloadLen + 1)
        output := p.output ++ frameBytes p.sequence (chunks data)
        outBytes := p.outBytes + 4 * (data.length / MaxPayloadLen + 1) + data.length
        outPackets := p.outPackets + (data.length / MaxPayloadLen + 1) } := by
  apply writePacketLoop_eq _ _ _ _ rfl
  exact Nat.lt_succ_of_le (Nat.div_le_self _ _)

/-! ### The reader -/

/-- The bytes of the frames are four per frame and the payloads. -/
theorem length_frameBytes
    (s : UInt8)
    (cs : List (List UInt8)) :
    (frameBytes s cs).length = 4 * cs.length + cs.flatten.length := by
  induction cs generalizing s with
  | nil =>
      rfl
  | cons c cs ih =>
      simp [ih, encode24]
      omega

/-- `readOnePacket` on a frame returns its payload and consumes exactly it. -/
theorem readOnePacket_frame
    (p : PacketIO)
    {c rest : List UInt8}
    {s : UInt8}
    (hc : c.length < 2 ^ 24)
    (hin : p.input = encode24 c.length ++ [s] ++ c ++ rest) :
    readOnePacket p =
      .ok (c, c.length == MaxPayloadLen,
        { p with
          input := rest
          sequence := s + 1
          inBytes := p.inBytes + 4 + c.length
          inPackets := p.inPackets + 1 }) := by
  have hdecode := decode24_encode24 hc
  simp [readOnePacket, ReadFull, hin, encode24, hdecode]

/-- The reader's loop on the frames of the chunks returns the payload, given more
fuel than full chunks. -/
theorem readPacketLoop_frameBytes
    (rest : List UInt8)
    (k : Nat) :
    ∀ (fuel : Nat) (acc data : List UInt8) (s : UInt8) (p : PacketIO),
      data.length / MaxPayloadLen = k → k < fuel →
        p.input = frameBytes s (chunksAux k data) ++ rest →
          readPacketLoop fuel acc p =
            .ok (acc ++ data,
              { p with
                input := rest
                sequence := s + UInt8.ofNat (k + 1)
                inBytes := p.inBytes + 4 * (k + 1) + data.length
                inPackets := p.inPackets + (k + 1) }) := by
  induction k with
  | zero =>
      intro fuel acc data s p hk hfuel hin
      obtain ⟨fuel, rfl⟩ : ∃ f, fuel = f + 1 := ⟨fuel - 1, by omega⟩
      have hlt := lt_of_div_maxPayloadLen_eq_zero hk
      have hne : (data.length == MaxPayloadLen) = false := by
        simpa using Nat.ne_of_lt hlt
      have hin' : p.input = encode24 data.length ++ [s] ++ data ++ rest := by
        simpa [chunksAux] using hin
      rw [readPacketLoop, readOnePacket_frame p (Nat.lt_trans hlt maxPayloadLen_lt) hin', hne]
      simp
  | succ k ih =>
      intro fuel acc data s p hk hfuel hin
      obtain ⟨fuel, rfl⟩ : ∃ f, fuel = f + 1 := ⟨fuel - 1, by omega⟩
      obtain ⟨hge, hk'⟩ := div_maxPayloadLen_sub hk
      rw [← List.length_drop] at hk'
      have hlen : (data.take MaxPayloadLen).length = MaxPayloadLen := by
        simp [hge]
      have hin' : p.input = encode24 (data.take MaxPayloadLen).length ++ [s] ++
          data.take MaxPayloadLen ++ (frameBytes (s + 1) (chunksAux k (data.drop MaxPayloadLen)) ++
            rest) := by
        simpa [chunksAux] using hin
      rw [readPacketLoop, readOnePacket_frame p (by rw [hlen]; exact maxPayloadLen_lt) hin', hlen]
      simp only [beq_self_eq_true, if_true]
      rw [ih fuel _ (data.drop MaxPayloadLen) (s + 1) _ hk' (by omega) rfl, seq_succ_add]
      simp only [List.append_assoc, List.take_append_drop, Except.ok.injEq, Prod.mk.injEq,
        PacketIO.mk.injEq, List.length_drop, true_and, and_true]
      omega

/-- The frames of a payload take four bytes per frame besides the payload. -/
theorem length_frameBytes_chunks
    (s : UInt8)
    (data : List UInt8) :
    (frameBytes s (chunks data)).length = 4 * (data.length / MaxPayloadLen + 1) + data.length := by
  rw [length_frameBytes, chunks, length_chunksAux, flatten_chunksAux]

/-- An input that starts with the frames of a payload holds more bytes than the
payload has full chunks: the fuel the entry points give is enough. -/
theorem div_lt_of_input_frames
    {p : PacketIO}
    {data rest : List UInt8}
    {s : UInt8}
    (hin : p.input = frameBytes s (chunks data) ++ rest) :
    data.length / MaxPayloadLen < p.input.length + 1 := by
  rw [hin, List.length_append, length_frameBytes_chunks]
  omega

/-- `ReadPacket` on the frames `WritePacket` emits returns the payload and consumes
exactly the frames. -/
theorem readPacket_frameBytes
    (p : PacketIO)
    (data rest : List UInt8)
    (s : UInt8)
    (hin : p.input = frameBytes s (chunks data) ++ rest) :
    ReadPacket p =
      .ok (data,
        { p with
          input := rest
          sequence := s + UInt8.ofNat (data.length / MaxPayloadLen + 1)
          inBytes := p.inBytes + 4 * (data.length / MaxPayloadLen + 1) + data.length
          inPackets := p.inPackets + (data.length / MaxPayloadLen + 1) }) := by
  unfold ReadPacket
  rw [readPacketLoop_frameBytes rest _ _ [] data s p rfl (div_lt_of_input_frames hin) hin]
  rfl

/-! ### Series of messages -/

/-- `WritePacket` of every message, back to back. -/
def writePackets
    (p : PacketIO)
    (ms : List (List UInt8)) : PacketIO :=
  ms.foldl WritePacket p

/-- `ReadPacket` called `n` times. -/
def readPackets : Nat → PacketIO → Except PacketError (List (List UInt8) × PacketIO)
  | 0, p => .ok ([], p)
  | n + 1, p =>
      match ReadPacket p with
      | .error err => .error err
      | .ok (m, p) =>
          match readPackets n p with
          | .error err => .error err
          | .ok (ms, p) => .ok (m :: ms, p)

/-- `readPacket_frameBytes` with the state after the read left abstract. -/
theorem exists_readPacket_frameBytes
    (p : PacketIO)
    {data rest : List UInt8}
    {s : UInt8}
    (hin : p.input = frameBytes s (chunks data) ++ rest) :
    ∃ p₁ : PacketIO, ReadPacket p = .ok (data, p₁) ∧ p₁.input = rest ∧
      p₁.sequence = s + UInt8.ofNat (data.length / MaxPayloadLen + 1) :=
  ⟨_, readPacket_frameBytes p data rest s hin, rfl, rfl⟩

/-- `readPackets` takes one message after the other. -/
theorem readPackets_succ_of_readPacket
    {p p₁ p₂ : PacketIO}
    {m : List UInt8}
    {ms : List (List UInt8)}
    {n : Nat}
    (hread : ReadPacket p = .ok (m, p₁))
    (hrest : readPackets n p₁ = .ok (ms, p₂)) :
    readPackets (n + 1) p = .ok (m :: ms, p₂) := by
  simp [readPackets, hread, hrest]

/-- The frames of a series of messages, the numbering running on from message to
message. -/
def messageBytes : UInt8 → List (List UInt8) → List UInt8
  | _, [] => []
  | s, m :: ms =>
      frameBytes s (chunks m) ++ messageBytes (s + UInt8.ofNat (m.length / MaxPayloadLen + 1)) ms

@[simp] theorem writePackets_cons
    (p : PacketIO)
    (m : List UInt8)
    (ms : List (List UInt8)) :
    writePackets p (m :: ms) = writePackets (WritePacket p m) ms := by
  rfl

/-- The writer emits the frames of the whole series. -/
theorem writePackets_output
    (ms : List (List UInt8)) :
    ∀ p : PacketIO, (writePackets p ms).output = p.output ++ messageBytes p.sequence ms := by
  induction ms with
  | nil =>
      intro p
      simp [writePackets, messageBytes]
  | cons m ms ih =>
      intro p
      have h := ih (WritePacket p m)
      simp only [writePackets, List.foldl_cons] at h ⊢
      rw [h, writePacket_eq]
      simp [messageBytes]

/-- Every message takes at least one frame, so at least one byte. -/
theorem length_le_length_messageBytes
    (ms : List (List UInt8)) :
    ∀ s : UInt8, ms.length ≤ (messageBytes s ms).length := by
  induction ms with
  | nil =>
      simp [messageBytes]
  | cons m ms ih =>
      intro s
      have h := ih (s + UInt8.ofNat (m.length / MaxPayloadLen + 1))
      rw [messageBytes, List.length_append, length_frameBytes_chunks, List.length_cons]
      generalize m.length / MaxPayloadLen = q at h ⊢
      omega

/-- The writer's byte and packet counters only grow. -/
theorem le_writePackets_counters
    (ms : List (List UInt8)) :
    ∀ p : PacketIO, p.outBytes ≤ (writePackets p ms).outBytes ∧
      p.outPackets ≤ (writePackets p ms).outPackets := by
  induction ms with
  | nil =>
      simp [writePackets]
  | cons m ms ih =>
      intro p
      have h := ih (WritePacket p m)
      simp only [writePackets, List.foldl_cons, writePacket_eq] at h ⊢
      omega

/-- The reader, called once per message, returns the series and ends with the
writer's counters, when both ends start in step. -/
theorem readPackets_messageBytes
    (rest : List UInt8)
    (ms : List (List UInt8)) :
    ∀ (w r : PacketIO), r.sequence = w.sequence →
      r.input = messageBytes w.sequence ms ++ rest →
        readPackets ms.length r =
          .ok (ms,
            { r with
              input := rest
              sequence := (writePackets w ms).sequence
              inBytes := r.inBytes + ((writePackets w ms).outBytes - w.outBytes)
              inPackets := r.inPackets + ((writePackets w ms).outPackets - w.outPackets) }) := by
  induction ms with
  | nil =>
      intro w r hseq hin
      simp only [messageBytes, List.nil_append] at hin
      simp [readPackets, writePackets, ← hin, ← hseq]
  | cons m ms ih =>
      intro w r hseq hin
      rw [messageBytes, List.append_assoc] at hin
      have hw := writePacket_eq w m
      let r₁ : PacketIO :=
        { r with
          input := messageBytes (WritePacket w m).sequence ms ++ rest
          sequence := (WritePacket w m).sequence
          inBytes := r.inBytes + 4 * (m.length / MaxPayloadLen + 1) + m.length
          inPackets := r.inPackets + (m.length / MaxPayloadLen + 1) }
      have hread : ReadPacket r = .ok (m, r₁) := by
        rw [readPacket_frameBytes r m _ w.sequence hin]
        simp only [r₁, hw]
      have hrest := ih (WritePacket w m) r₁ rfl rfl
      have hmono := le_writePackets_counters ms (WritePacket w m)
      have hbytes : (WritePacket w m).outBytes =
          w.outBytes + 4 * (m.length / MaxPayloadLen + 1) + m.length := by
        rw [hw]
      have hpackets : (WritePacket w m).outPackets =
          w.outPackets + (m.length / MaxPayloadLen + 1) := by
        rw [hw]
      simp only [List.length_cons, readPackets, hread, hrest, writePackets_cons, Except.ok.injEq,
        Prod.mk.injEq, true_and, and_true, PacketIO.mk.injEq, r₁]
      omega

/-! ### The round trip -/

/-- What `WritePacket` adds to one end's output, delivered to the other end and
followed by anything, is read back by `ReadPacket` as the payload.  The payload
travels in `len / MaxPayloadLen + 1` frames, all full but the last, numbered on
from the writer's counter modulo 256, and both counters end one past the last
frame's number.  A series of messages written back to back is read back message by
message when both ends start in step. -/
theorem writePacket_readPacket
    (w r : PacketIO)
    (data rest : List UInt8)
    (hin : r.input = (WritePacket w data).output.drop w.output.length ++ rest) :
    ReadPacket r =
        .ok (data,
          { r with
            input := rest
            sequence := w.sequence + UInt8.ofNat (data.length / MaxPayloadLen + 1)
            inBytes := r.inBytes + 4 * (data.length / MaxPayloadLen + 1) + data.length
            inPackets := r.inPackets + (data.length / MaxPayloadLen + 1) }) ∧
      (WritePacket w data).sequence = w.sequence + UInt8.ofNat (data.length / MaxPayloadLen + 1) ∧
      (WritePacket w data).output.drop w.output.length =
        (chunks data).zipIdx.flatMap
          (fun ci => encode24 ci.1.length ++ [w.sequence + UInt8.ofNat ci.2] ++ ci.1) ∧
      (chunks data).length = data.length / MaxPayloadLen + 1 ∧
      (chunks data).flatten = data ∧
      (∀ c ∈ (chunks data).dropLast, c.length = MaxPayloadLen) ∧
      (∀ c ∈ (chunks data).getLast?, c.length < MaxPayloadLen) ∧
      ∀ (ms : List (List UInt8)) (r' : PacketIO), r'.sequence = w.sequence →
        r'.input = (writePackets w ms).output.drop w.output.length ++ rest →
          readPackets ms.length r' =
            .ok (ms,
              { r' with
                input := rest
                sequence := (writePackets w ms).sequence
                inBytes := r'.inBytes + ((writePackets w ms).outBytes - w.outBytes)
                inPackets := r'.inPackets + ((writePackets w ms).outPackets - w.outPackets) }) := by
  have hframes : (WritePacket w data).output.drop w.output.length =
      frameBytes w.sequence (chunks data) := by
    rw [writePacket_eq]
    simp
  obtain ⟨hfull, hlast⟩ := chunksAux_lengths _ data rfl
  refine ⟨?_, by rw [writePacket_eq], ?_, length_chunksAux _ _, flatten_chunksAux _ _, hfull,
    hlast, ?_⟩
  · rw [hframes] at hin
    exact readPacket_frameBytes r data rest w.sequence hin
  · rw [hframes, frameBytes_eq_flatMap]
  · intro ms r' hseq hin'
    rw [writePackets_output, List.drop_left] at hin'
    exact readPackets_messageBytes rest ms w r' hseq hin'

/-- A one-byte payload written from counter 255: one frame numbered 255, and the
reader's counter wraps to 0. -/
theorem writePacket_readPacket_wraps :
    ({ input := [1, 0, 0, 255, 7], output := [], sequence := 0, inBytes := 0, outBytes := 0,
        inPackets := 0, outPackets := 0 } : PacketIO).input =
        (WritePacket ⟨[], [], 255, 0, 0, 0, 0⟩ [7]).output.drop 0 ++ [] ∧
      ReadPacket ⟨[1, 0, 0, 255, 7], [], 0, 0, 0, 0, 0⟩ = .ok ([7], ⟨[], [], 0, 5, 0, 1, 0⟩) :=
  ⟨by decide,
    (writePacket_readPacket ⟨[], [], 255, 0, 0, 0, 0⟩ ⟨[1, 0, 0, 255, 7], [], 0, 0, 0, 0, 0⟩ [7] []
      (by decide)).1⟩

end Net
end TiProxy
