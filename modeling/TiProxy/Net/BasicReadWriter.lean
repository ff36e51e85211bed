import TiProxy.Util.BufioWriter
import TiProxy.Net.ForwardUntil

/-!
# A plain connection with its buffers, under the packet layer

A model of `basicReadWriter` and `ReadFull` (`pkg/proxy/net/packetio.go`): a
connection read through a `bufio.Reader` and written through a `bufio.Writer`, with
the byte counters and the sequence number of `packetIO`.  The connection is two
parameters, `read` for the side the peer writes and `write` for the side it reads;
`basicReadWriter` wraps every error it passes on with `errors.WithStack`.

The packet layer is modelled over `PacketIO` (`Net.Packet`): one end of a connection
as the bytes still to read and the bytes written.  `packetView` maps a
`basicReadWriter` to it, the bytes still to read being the reader's window and the
rest of the connection's stream, and the bytes written those the connection took and
those still buffered.

**Results.**
* `ReadFull_packetView`, `Peek_packetView`: over a connection that ends, `ReadFull`
  and `Peek` are `Net.ReadFull` and `Net.Peek` of the packet layer's model.
* `relay_packetView`: `ReadFrom` over a `LimitedReader` of the source, the fast path
  of `ForwardUntil`, moves what `Net.relayBytes` moves, and fails exactly when the
  source ends first: its `EOF` reaches `ReadFrom` wrapped, so it is not taken for the
  end of the limit.
* `Write_packetView`: over a connection that takes everything, `Write` appends `p` to
  the bytes written.
-/

namespace TiProxy
namespace Net
namespace Buffered

open GoIO Bufio

/-- `DefaultConnBufferSize` -/
def DefaultConnBufferSize : Nat := 32 * 1024

/-- `basicReadWriter`: the buffered reader and writer of the connection, the byte
counters and the sequence number. -/
structure BasicReadWriter (σ τ : Type) where
  reader : Reader σ
  writer : Writer τ
  inBytes : Nat
  outBytes : Nat
  sequence : UInt8

/-- `errors.WithStack`: nil stays nil, an error is wrapped. -/
def WithStack
    (err : Option IOError) : Option IOError :=
  err.map .wrapped

variable {σ τ : Type}

/-- `newBasicReadWriter`, over the two sides of the connection. -/
def newBasicReadWriter
    (rd : σ)
    (wr : τ)
    (bufferSize : Int) : BasicReadWriter σ τ :=
  let bufferSize := if bufferSize = 0 then (DefaultConnBufferSize : Int) else bufferSize
  ⟨Reader.NewReaderSize rd bufferSize, Writer.NewWriterSize wr bufferSize, 0, 0, 0⟩

namespace BasicReadWriter

variable (read : σ → (k : Nat) → Chunk k × σ) (write : τ → (p : List UInt8) → Written p × τ)

/-- `Read`: through the buffered reader, counted in `inBytes`. -/
def Read
    (brw : BasicReadWriter σ τ)
    (k : Nat) : (List UInt8 × Option IOError) × BasicReadWriter σ τ :=
  (((brw.reader.Read read k).1.1, WithStack (brw.reader.Read read k).1.2),
    { brw with
      reader := (brw.reader.Read read k).2
      inBytes := brw.inBytes + (brw.reader.Read read k).1.1.length })

/-- `Write`: through the buffered writer, counted in `outBytes`. -/
def Write
    (brw : BasicReadWriter σ τ)
    (p : List UInt8) : (Nat × Option IOError) × BasicReadWriter σ τ :=
  (((brw.writer.Write write p).1.1, WithStack (brw.writer.Write write p).1.2),
    { brw with
      writer := (brw.writer.Write write p).2
      outBytes := brw.outBytes + (brw.writer.Write write p).1.1 })

/-- `DirectWrite`: straight to the connection, past the buffer. -/
def DirectWrite
    (brw : BasicReadWriter σ τ)
    (p : List UInt8) : (Nat × Option IOError) × BasicReadWriter σ τ :=
  (((write brw.writer.wr p).1.n, WithStack (write brw.writer.wr p).1.err),
    { brw with
      writer := { brw.writer with wr := (write brw.writer.wr p).2 }
      outBytes := brw.outBytes + (write brw.writer.wr p).1.n })

/-- `Peek`, of the buffered reader. -/
def Peek
    (brw : BasicReadWriter σ τ)
    (n : Int) : (List UInt8 × Option IOError) × BasicReadWriter σ τ :=
  ((brw.reader.Peek read n).1, { brw with reader := (brw.reader.Peek read n).2 })

/-- `Discard`, of the buffered reader. -/
def Discard
    (brw : BasicReadWriter σ τ)
    (n : Int) : (Nat × Option IOError) × BasicReadWriter σ τ :=
  ((brw.reader.Discard read n).1, { brw with reader := (brw.reader.Discard read n).2 })

/-- `Flush`, of the buffered writer. -/
def Flush
    (brw : BasicReadWriter σ τ) : Option IOError × BasicReadWriter σ τ :=
  ((brw.writer.Flush write).1, { brw with writer := (brw.writer.Flush write).2 })

/-- `ReadFrom`: the buffered writer's copy from `r`, counted in `outBytes`. -/
def ReadFrom
    {ρ : Type}
    (src : ρ → (k : Nat) → Chunk k × ρ)
    (brw : BasicReadWriter σ τ)
    (r : ρ)
    (fuel : Nat) : (Nat × Option IOError) × BasicReadWriter σ τ × ρ :=
  let res := brw.writer.ReadFrom write src r fuel
  ((res.1.1, WithStack res.1.2), { brw with writer := res.2.1, outBytes := brw.outBytes + res.1.1 },
    res.2.2)

/-- `Read` as the `io.Reader` that a `LimitedReader` wraps. -/
def asReader
    (brw : BasicReadWriter σ τ)
    (k : Nat) : Chunk k × BasicReadWriter σ τ :=
  (⟨(brw.Read read k).1.1, (brw.Read read k).1.2, Reader.length_Read_le read brw.reader k⟩,
    (brw.Read read k).2)

end BasicReadWriter

/-! ### `ReadFull` -/

section ReadFull

variable {ρ : Type} (rd : ρ → (k : Nat) → Chunk k × ρ)

/-- The loop of `ReadFull` into `b` of length `m`, with the bytes `data` read so far:
read into the rest of `b` until it is full; the first error ends it.  Over a
connection that ends every read returns a byte or fails, so `m + 1` rounds are enough. -/
def readFullLoop
    (m : Nat) : Nat → ρ → List UInt8 → Option IOError × List UInt8 × ρ
  | 0, r, data => (none, data, r)
  | fuel + 1, r, data =>
      if data.length < m then
        match (rd r (m - data.length)).1.err with
        | some err => (some err, data ++ (rd r (m - data.length)).1.bytes, (rd r (m - data.length)).2)
        | none => readFullLoop m fuel (rd r (m - data.length)).2 (data ++ (rd r (m - data.length)).1.bytes)
      else
        (none, data, r)

/-- `ReadFull`: fill `b` of length `m` from the reader `prw`; the bytes it read, and
the error that stopped it. -/
def ReadFull
    (prw : ρ)
    (m : Nat) : Option IOError × List UInt8 × ρ :=
  readFullLoop rd m (m + 1) prw []

end ReadFull

section ReadFullLaws

variable {ρ ρ' : Type} {rd : ρ → (k : Nat) → Chunk k × ρ}

theorem readFullLoop_map
    {rd' : ρ' → (k : Nat) → Chunk k × ρ'}
    {f : ρ → ρ'}
    (h : Simulates rd' rd f)
    (m fuel : Nat)
    (r : ρ)
    (data : List UInt8) :
    readFullLoop rd' m fuel (f r) data =
      ((readFullLoop rd m fuel r data).1, (readFullLoop rd m fuel r data).2.1,
        f (readFullLoop rd m fuel r data).2.2) := by
  induction fuel generalizing r data with
  | zero => rfl
  | succ fuel ih =>
    rw [readFullLoop, readFullLoop, h r]
    split
    · dsimp only
      split
      · rfl
      · exact ih _ _
    · rfl

theorem readFullLoop_keeps
    {P : ρ → Prop}
    (h : Keeps rd P)
    (m fuel : Nat)
    (r : ρ)
    (data : List UInt8)
    (hP : P r) :
    P (readFullLoop rd m fuel r data).2.2 := by
  induction fuel generalizing r data with
  | zero => exact hP
  | succ fuel ih =>
    rw [readFullLoop]
    split
    · split
      · exact h r _ hP
      · exact ih _ _ (h r _ hP)
    · exact hP

/-- `ReadFull` over a reader that ends, with more rounds than bytes still to read:
it fails exactly when the stream ends first, and otherwise reads the next bytes of the
stream. -/
theorem readFullLoop_ends
    {rest : ρ → List UInt8}
    (he : Ends rd rest)
    (m fuel : Nat)
    (r : ρ)
    (data : List UInt8)
    (hdata : data.length ≤ m)
    (hfuel : m - data.length < fuel) :
    ((readFullLoop rd m fuel r data).1 = none ↔ m - data.length ≤ (rest r).length) ∧
      ((readFullLoop rd m fuel r data).1 = none →
        (readFullLoop rd m fuel r data).2.1 = data ++ (rest r).take (m - data.length) ∧
        rest (readFullLoop rd m fuel r data).2.2 = (rest r).drop (m - data.length)) := by
  induction fuel generalizing r data with
  | zero => omega
  | succ fuel ih =>
    rw [readFullLoop]
    split
    · rename_i hshort
      have hk : 0 < m - data.length := by omega
      by_cases hnil : rest r = []
      · -- the stream is over: the read fails
        obtain ⟨-, herr, -⟩ := he.read_of_rest_eq_nil hk hnil
        split
        · rw [hnil, List.length_nil]
          exact ⟨⟨(fun h => by cases h), fun h => by omega⟩, fun h => by cases h⟩
        · rename_i hnone
          exact absurd hnone herr
      · obtain ⟨herr, hbytes⟩ := he.read_of_rest_ne_nil hk hnil
        have hstream := he.streams r (m - data.length)
        have hle := (rd r (m - data.length)).1.length_le
        have hpos := List.length_pos_iff.2 hbytes
        split
        · rename_i e hsome
          rw [herr] at hsome
          cases hsome
        · -- the read returned some of the bytes still missing
          obtain ⟨hiff, hdone⟩ := ih (rd r (m - data.length)).2
            (data ++ (rd r (m - data.length)).1.bytes) (by rw [List.length_append]; omega)
            (by rw [List.length_append]; omega)
          rw [List.length_append] at hiff hdone
          have hsplit : m - (data.length + (rd r (m - data.length)).1.bytes.length) =
              m - data.length - (rd r (m - data.length)).1.bytes.length := by omega
          rw [hsplit] at hiff hdone
          refine ⟨by rw [hiff, hstream, List.length_append]; omega, fun hok => ?_⟩
          obtain ⟨hread, hrest⟩ := hdone hok
          rw [hread, hrest, hstream, List.append_assoc, List.take_append, List.drop_append,
            List.take_of_length_le hle, List.drop_eq_nil_of_le hle, List.nil_append]
          exact ⟨rfl, rfl⟩
    · rename_i hfull
      have hzero : m - data.length = 0 := by omega
      rw [hzero, List.take_zero, List.append_nil, List.drop_zero]
      exact ⟨⟨fun _ => Nat.zero_le _, fun _ => rfl⟩, fun _ => ⟨rfl, rfl⟩⟩

end ReadFullLaws

/-! ### The relay of `ForwardUntil` -/

section Relay

variable {σ' τ' : Type} (read : σ → (k : Nat) → Chunk k × σ)
  (write : τ' → (p : List UInt8) → Written p × τ')

/-- `dest.readWriter.ReadFrom(&p.limitReader)` with `p.limitReader` set to the source
and `n`: the error, and the source and the destination after it.  Each round of the copy
takes a byte of the source or ends it, so `n + 1` rounds are enough (`relay_packetView`). -/
def relay
    (src : BasicReadWriter σ τ)
    (dest : BasicReadWriter σ' τ')
    (n : Nat) : Option IOError × BasicReadWriter σ τ × BasicReadWriter σ' τ' :=
  let res := dest.ReadFrom write (LimitedReader.Read (BasicReadWriter.asReader read)) ⟨src, n⟩
    (n + 1)
  (res.1.2, res.2.2.R, res.2.1)

variable {read write}

/-- The relay keeps every invariant of the source that each of its reads keeps. -/
theorem keeps_relay
    {P : BasicReadWriter σ τ → Prop}
    (h : Keeps (BasicReadWriter.asReader read) P)
    (src : BasicReadWriter σ τ)
    (dest : BasicReadWriter σ' τ')
    (n : Nat)
    (hP : P src) :
    P (relay read write src dest n).2.1 := by
  unfold relay BasicReadWriter.ReadFrom Writer.ReadFrom
  split
  · exact hP
  · exact Writer.readFromLoop_keeps write (LimitedReader.keeps h) (n + 1) dest.writer ⟨src, n⟩ 0 hP

/-- Over a destination that never fails, the relay records no error in its writer. -/
theorem err_relay
    (hacc : Accepts write)
    (src : BasicReadWriter σ τ)
    (dest : BasicReadWriter σ' τ')
    (hdest : dest.writer.err = none)
    (n : Nat) :
    (relay read write src dest n).2.2.writer.err = none := by
  unfold relay BasicReadWriter.ReadFrom Writer.ReadFrom
  rw [if_neg (fun h => h hdest)]
  exact Writer.err_readFromLoop_of_accepts hacc (n + 1) dest.writer hdest _ 0

end Relay

/-! ### The packet layer's view -/

section View

variable {read : σ → (k : Nat) → Chunk k × σ} {rest : σ → List UInt8}

/-- What the packet layer's model sees of one end: the bytes still to read, the bytes
written, and the counters, with the packet counters of `packetIO` beside them. -/
def packetView
    (rest : σ → List UInt8)
    (sent : τ → List UInt8)
    (brw : BasicReadWriter σ τ)
    (inPackets outPackets : Nat) : PacketIO :=
  ⟨brw.reader.pending rest, brw.writer.out sent, brw.sequence, brw.inBytes, brw.outBytes,
    inPackets, outPackets⟩

@[simp] theorem packetView_sequence
    (rest : σ → List UInt8)
    (sent : τ → List UInt8)
    (brw : BasicReadWriter σ τ)
    (sequence : UInt8)
    (inPackets outPackets : Nat) :
    packetView rest sent { brw with sequence := sequence } inPackets outPackets =
      { packetView rest sent brw inPackets outPackets with sequence := sequence } :=
  rfl

/-- `Read` on a connection whose reader is settled, with the invariant carried along. -/
def settledReader
    (he : Ends read rest)
    (b : {brw : BasicReadWriter σ τ // Reader.Settled rest brw.reader})
    (k : Nat) : Chunk k × {brw : BasicReadWriter σ τ // Reader.Settled rest brw.reader} :=
  ((b.1.asReader read k).1, ⟨(b.1.asReader read k).2, Reader.settled_Read he b.1.reader k b.2⟩)

theorem simulates_settledReader
    (he : Ends read rest) :
    Simulates (BasicReadWriter.asReader (τ := τ) read) (settledReader he) Subtype.val :=
  fun _ _ => rfl

theorem withStack_eq_none
    (err : Option IOError) :
    WithStack err = none ↔ err = none :=
  Option.map_eq_none_iff

/-- Over a connection that ends, a settled `basicReadWriter` is a reader that ends, its
stream the bytes still to be read. -/
theorem ends_settledReader
    (he : Ends read rest) :
    Ends (settledReader (τ := τ) he) (fun b => b.1.reader.pending rest) where
  streams := fun b k => Reader.pending_Read he.streams b.1.reader k
  progress := by
    intro b k hk hnil h
    exact (Reader.ends_readSettled he).progress ⟨b.1.reader, b.2⟩ k hk hnil
      ((withStack_eq_none _).1 h)
  bytes_of_err := by
    intro b k herr
    exact (Reader.ends_readSettled he).bytes_of_err ⟨b.1.reader, b.2⟩ k
      fun h => herr ((withStack_eq_none _).2 h)
  rest_of_err := by
    intro b k herr
    exact (Reader.ends_readSettled he).rest_of_err ⟨b.1.reader, b.2⟩ k
      fun h => herr ((withStack_eq_none _).2 h)

/-- `basicReadWriter` wraps the errors it passes on, so it never returns `io.EOF`
itself. -/
theorem neverEOF_settledReader
    (he : Ends read rest) :
    NeverEOF (settledReader (τ := τ) he) := by
  intro b k heof
  change WithStack _ = some .eof at heof
  rw [WithStack] at heof
  cases hres : (b.1.reader.Read read k).1.2 with
  | none => rw [hres] at heof; cases heof
  | some e => rw [hres] at heof; cases heof

/-- A read moves bytes from what is still to be read into `inBytes`, and leaves the
writer and the sequence. -/
theorem keeps_settledReader
    (he : Ends read rest)
    (total outBytes : Nat)
    (writer : Writer τ)
    (sequence : UInt8) :
    Keeps (settledReader he) fun b => b.1.inBytes + (b.1.reader.pending rest).length = total ∧
      b.1.writer = writer ∧ b.1.outBytes = outBytes ∧ b.1.sequence = sequence := by
  rintro b k ⟨htotal, hwriter, hout, hseq⟩
  refine ⟨?_, hwriter, hout, hseq⟩
  rw [← htotal, Reader.pending_Read he.streams b.1.reader k, List.length_append]
  show b.1.inBytes + (b.1.reader.Read read k).1.1.length +
      ((b.1.reader.Read read k).2.pending rest).length = _
  omega

/-- A read keeps every invariant of the buffered reader that its `Read` keeps. -/
theorem keeps_asReader
    {P : Reader σ → Prop}
    (h : ∀ b k, P b → P (b.Read read k).2) :
    Keeps (BasicReadWriter.asReader (τ := τ) read) fun brw => P brw.reader :=
  fun brw k hP => h brw.reader k hP

end View

section Refines

variable {read : σ → (k : Nat) → Chunk k × σ} {rest : σ → List UInt8} (he : Ends read rest)
include he

theorem ReadFull_eq_packetView
    (sent : τ → List UInt8)
    (brw : BasicReadWriter σ τ)
    (hset : Reader.Settled rest brw.reader)
    (m inPackets outPackets : Nat) :
    Net.ReadFull (packetView rest sent brw inPackets outPackets) m =
      match ReadFull (BasicReadWriter.asReader read) brw m with
      | (none, data, brw') => some (data, packetView rest sent brw' inPackets outPackets)
      | (some _, _, _) => none := by
  -- the same run, with the invariant carried along
  have hmap := readFullLoop_map (simulates_settledReader he) m (m + 1) ⟨brw, hset⟩ []
  obtain ⟨hiff, hok⟩ := readFullLoop_ends (ends_settledReader he) m (m + 1) ⟨brw, hset⟩ []
    (Nat.zero_le _) (by omega)
  have hkeep := readFullLoop_keeps (keeps_settledReader he _ brw.outBytes brw.writer brw.sequence)
    m (m + 1) ⟨brw, hset⟩ [] ⟨rfl, rfl, rfl, rfl⟩
  rw [ReadFull, hmap]
  generalize readFullLoop (settledReader he) m (m + 1) ⟨brw, hset⟩ [] = res at hiff hok hkeep ⊢
  obtain ⟨err, data, b'⟩ := res
  obtain ⟨htotal, hwriter, hout, hseq⟩ := hkeep
  simp only [List.length_nil, Nat.sub_zero, List.nil_append] at hiff hok
  dsimp only at htotal hwriter hout hseq ⊢
  cases err with
  | none =>
    obtain ⟨hdata, hrest⟩ := hok rfl
    have hle := hiff.1 rfl
    -- what was read is counted in inBytes
    have hin : b'.1.inBytes = brw.inBytes + m := by
      rw [hrest, List.length_drop] at htotal
      omega
    simp only [Net.ReadFull, packetView, hle, ↓reduceIte, hdata, hrest, hwriter, hout, hseq, hin]
  | some e =>
    have hshort : ¬ m ≤ (brw.reader.pending rest).length := fun h => by
      cases hiff.2 h
    simp only [Net.ReadFull, packetView, hshort, ↓reduceIte]

/-- `ReadFull` of a connection that ends is the packet layer's `Net.ReadFull`: the
next `m` bytes still to be read, counted in `inBytes`, or a failure when fewer are left. -/
theorem ReadFull_packetView
    (sent : τ → List UInt8)
    (brw : BasicReadWriter σ τ)
    (hset : Reader.Settled rest brw.reader)
    (m inPackets outPackets : Nat) :
    Net.ReadFull (packetView rest sent brw inPackets outPackets) m =
      match ReadFull (BasicReadWriter.asReader read) brw m with
      | (none, data, brw') => some (data, packetView rest sent brw' inPackets outPackets)
      | (some _, _, _) => none :=
  ReadFull_eq_packetView he sent brw hset m inPackets outPackets

omit he in
theorem ReadFull_packetView_bytes :
    let brw := newBasicReadWriter ([1, 2, 3, 4, 5] : List UInt8) ([] : List UInt8) 16
    Ends bytesRead id ∧ Reader.Settled id brw.reader ∧
      Net.ReadFull (packetView id id brw 0 0) 4 =
        match ReadFull (BasicReadWriter.asReader bytesRead) brw 4 with
        | (none, data, brw') => some (data, packetView id id brw' 0 0)
        | (some _, _, _) => none := by
  intro brw
  exact ⟨ends_bytesRead, Reader.settled_NewReaderSize _ _,
    ReadFull_packetView ends_bytesRead id brw (Reader.settled_NewReaderSize _ _) 4 0 0⟩

/-- `ReadFull` keeps the reader settled. -/
theorem settled_ReadFull
    (brw : BasicReadWriter σ τ)
    (hset : Reader.Settled rest brw.reader)
    (m : Nat) :
    Reader.Settled rest (ReadFull (BasicReadWriter.asReader read) brw m).2.2.reader := by
  have hmap := readFullLoop_map (simulates_settledReader he) m (m + 1) ⟨brw, hset⟩ []
  rw [ReadFull, hmap]
  exact (readFullLoop (settledReader he) m (m + 1) ⟨brw, hset⟩ []).2.2.2

/-- `Peek` of a connection that ends is the packet layer's `Net.Peek` for any count the
buffer holds, and leaves what the packet layer sees as it was: it only moves bytes of the
connection into the buffer. -/
theorem Peek_packetView
    (sent : τ → List UInt8)
    (brw : BasicReadWriter σ τ)
    (hset : Reader.Settled rest brw.reader)
    (n : Nat)
    (hn : n ≤ brw.reader.buf.length)
    (inPackets outPackets : Nat) :
    Net.Peek (packetView rest sent brw inPackets outPackets) n =
        (match (brw.Peek read n).1 with
          | (data, none) => some data
          | (_, some _) => none) ∧
      packetView rest sent (brw.Peek read n).2 inPackets outPackets =
        packetView rest sent brw inPackets outPackets ∧
      Reader.Settled rest (brw.Peek read n).2.reader := by
  obtain ⟨hbytes, hiff, hset'⟩ := Reader.Peek_ends he brw.reader n (Int.natCast_nonneg n)
    (by rw [Int.toNat_natCast]; exact hn) hset
  have hpending := (Reader.pending_Peek he.streams brw.reader n).1
  rw [Int.toNat_natCast] at hbytes hiff
  refine ⟨?_, by simp only [packetView, BasicReadWriter.Peek, hpending], hset'⟩
  unfold BasicReadWriter.Peek
  generalize (brw.reader.Peek read n).1 = res at hbytes hiff
  obtain ⟨data, err⟩ := res
  dsimp only at hbytes hiff
  cases err with
  | none => simp only [Net.Peek, packetView, hiff.1 rfl, ↓reduceIte, hbytes]
  | some e =>
    have hshort : ¬ n ≤ (brw.reader.pending rest).length := fun h => by
      cases hiff.2 h
    simp only [Net.Peek, packetView, hshort, ↓reduceIte]

theorem relay_eq_relayBytes
    {σ' τ' : Type}
    {write : τ' → (p : List UInt8) → Written p × τ'}
    {sent : τ' → List UInt8}
    (hw : Sinks write sent)
    (hacc : Accepts write)
    (srcSent : τ → List UInt8)
    (destRest : σ' → List UInt8)
    (src : BasicReadWriter σ τ)
    (hset : Reader.Settled rest src.reader)
    (dest : BasicReadWriter σ' τ')
    (hdest : dest.writer.err = none)
    (n inPackets outPackets inPackets' outPackets' : Nat) :
    relayBytes (packetView rest srcSent src inPackets outPackets)
        (packetView destRest sent dest inPackets' outPackets') n =
      (packetView rest srcSent (relay read write src dest n).2.1 inPackets outPackets,
        packetView destRest sent (relay read write src dest n).2.2 inPackets' outPackets') ∧
      ((relay read write src dest n).1 = none ↔ n ≤ (src.reader.pending rest).length) := by
  -- the copy from the settled source, with its invariant carried along
  have hmap : Writer.readFromLoop write (LimitedReader.Read (BasicReadWriter.asReader read)) (n + 1)
      dest.writer ⟨src, n⟩ 0 = _ :=
    Writer.readFromLoop_map write (LimitedReader.simulates (simulates_settledReader he)) (n + 1) dest.writer
      ⟨⟨src, hset⟩, n⟩ 0
  have hlim := Writer.readFromLoop_limited hw hacc (ends_settledReader he) (neverEOF_settledReader he)
    (n + 1) dest.writer hdest ⟨⟨src, hset⟩, n⟩ 0 (Nat.lt_succ_self n)
  have hkeep := Writer.readFromLoop_keeps write
    (LimitedReader.keeps (keeps_settledReader he _ src.outBytes src.writer src.sequence))
    (n + 1) dest.writer ⟨⟨src, hset⟩, n⟩ 0 ⟨rfl, rfl, rfl, rfl⟩
  simp only [relay, BasicReadWriter.ReadFrom, Writer.ReadFrom, hdest, ne_eq, not_true_eq_false,
    if_false, hmap]
  generalize Writer.readFromLoop write (LimitedReader.Read (settledReader he)) (n + 1) dest.writer
    ⟨⟨src, hset⟩, n⟩ 0 = res at hlim hkeep ⊢
  obtain ⟨⟨count, err⟩, w', l'⟩ := res
  obtain ⟨hcount, hiff, hout, hrest⟩ := hlim
  obtain ⟨htotal, hwriter, houtBytes, hseq⟩ := hkeep
  dsimp only at hcount hiff hout hrest htotal hwriter houtBytes hseq ⊢
  refine ⟨?_, (withStack_eq_none err).trans hiff⟩
  -- the source's counter takes what left its stream
  have hin : l'.R.1.inBytes = src.inBytes + min n (src.reader.pending rest).length := by
    rw [hrest, List.length_drop] at htotal
    omega
  simp only [relayBytes, packetView, LimitedReader.map, hrest, hwriter, houtBytes, hseq, hin, hout,
    hcount,
    Nat.zero_add, ← List.take_eq_take_min, ← List.drop_eq_drop_min]

/-- The relay of `ForwardUntil`'s fast path moves what `Net.relayBytes` moves: the next
`n` bytes of the source, or all it has left, from what the source still has to read to
what the destination wrote, with both counters.  It fails exactly when the source ends
first: the source's `EOF` reaches the copy wrapped, so it is no end of the limit. -/
theorem relay_packetView
    {σ' τ' : Type}
    {write : τ' → (p : List UInt8) → Written p × τ'}
    {sent : τ' → List UInt8}
    (hw : Sinks write sent)
    (hacc : Accepts write)
    (srcSent : τ → List UInt8)
    (destRest : σ' → List UInt8)
    (src : BasicReadWriter σ τ)
    (hset : Reader.Settled rest src.reader)
    (dest : BasicReadWriter σ' τ')
    (hdest : dest.writer.err = none)
    (n inPackets outPackets inPackets' outPackets' : Nat) :
    relayBytes (packetView rest srcSent src inPackets outPackets)
        (packetView destRest sent dest inPackets' outPackets') n =
      (packetView rest srcSent (relay read write src dest n).2.1 inPackets outPackets,
        packetView destRest sent (relay read write src dest n).2.2 inPackets' outPackets') ∧
      ((relay read write src dest n).1 = none ↔ n ≤ (src.reader.pending rest).length) :=
  relay_eq_relayBytes he hw hacc srcSent destRest src hset dest hdest n inPackets outPackets
    inPackets' outPackets'

omit he in
theorem relay_packetView_bytes :
    let src := newBasicReadWriter ([1, 2, 3, 4, 5] : List UInt8) ([] : List UInt8) 16
    let dest := newBasicReadWriter ([] : List UInt8) ([] : List UInt8) 16
    Ends bytesRead id ∧ Sinks bufferWrite id ∧ Accepts bufferWrite ∧
      Reader.Settled id src.reader ∧ dest.writer.err = none ∧
      relayBytes (packetView id id src 0 0) (packetView id id dest 0 0) 7 =
        (packetView id id (relay bytesRead bufferWrite src dest 7).2.1 0 0,
          packetView id id (relay bytesRead bufferWrite src dest 7).2.2 0 0) ∧
      ((relay bytesRead bufferWrite src dest 7).1 = none ↔ 7 ≤ (src.reader.pending id).length) := by
  intro src dest
  exact ⟨ends_bytesRead, sinks_bufferWrite, accepts_bufferWrite,
    Reader.settled_NewReaderSize _ _, rfl,
    relay_packetView ends_bytesRead sinks_bufferWrite accepts_bufferWrite id id src
      (Reader.settled_NewReaderSize _ _) dest rfl 7 0 0 0 0⟩

end Refines

section Writes

variable {write : τ → (p : List UInt8) → Written p × τ} {sent : τ → List UInt8}

/-- Over a connection that takes everything, `Write` is the packet layer's write of `p`:
it takes all of `p`, appends it to the bytes written and counts it in `outBytes`. -/
theorem Write_packetView
    (hw : Sinks write sent)
    (hacc : Accepts write)
    (rest : σ → List UInt8)
    (brw : BasicReadWriter σ τ)
    (hb : brw.writer.err = none)
    (p : List UInt8)
    (inPackets outPackets : Nat) :
    (brw.Write write p).1 = (p.length, none) ∧
      packetView rest sent (brw.Write write p).2 inPackets outPackets =
        { packetView rest sent brw inPackets outPackets with
          output := (packetView rest sent brw inPackets outPackets).output ++ p
          outBytes := brw.outBytes + p.length } ∧
      (brw.Write write p).2.writer.err = none := by
  obtain ⟨hres, herr, hout⟩ := Writer.Write_of_accepts hw hacc brw.writer p hb
  refine ⟨?_, ?_, herr⟩
  · rw [BasicReadWriter.Write, hres]
    rfl
  · simp only [packetView, BasicReadWriter.Write, hout, hres]

end Writes

end Buffered
end Net
end TiProxy
