import TiProxy.Net.Compress
import TiProxy.Net.Packet

/-!
# Packets over the compressed protocol

A model of `packetIO` (`pkg/proxy/net/packetio.go`) once `SetCompressionAlgorithm` has
put a `compressedReadWriter` (`pkg/proxy/net/compress.go`) between it and the
connection.  The packet code is that of `Net.Packet`; what changes is the
`packetReadWriter` below it.  `ReadFull` reads through `compressedReadWriter.Read`, which
takes a frame from the connection whenever its read buffer is empty, and the headers
and payloads written collect in the write buffer, which `Flush` sends as frames.
`readOnePacket` logs a sequence number other than the expected one; the model keeps
those warnings.

The two halves of the round trip meet at one description of a connection: frames
numbered on from a compressed sequence, whose data put together is a byte stream
(`frames`).  The writer keeps its connection in that shape (`Sends`), and the reader
reads the stream back from it (`Receives`).

**Results.**
* `Sends.write`, `Sends.flush`: `Write` and `Flush` extend the stream the frames carry.
* `Receives.readFull`: `ReadFull` reads the stream back across frames.
* `writePacket_sends`: `WritePacket` puts the physical packets of a payload on the stream,
  numbered from the sequence `BeginRW` sets.
* `readPackets_receives`: `ReadPacket` reads a series of messages back from the stream,
  with no sequence warning when their numbering starts at the sequence `BeginRW` sets.
-/

namespace TiProxy
namespace Net

open LittleEndian

/-- How a read through the compressed layer fails: `readFromConn` fails, or a frame
holds no data and `bytes.Buffer.Read` returns `io.EOF`. -/
inductive ReadError where
  | compress (e : CompressError)
  | eof
deriving DecidableEq, Repr

/-- `newCompressedReadWriter`: empty buffers, no direction yet, compressed sequence 0. -/
def newCompressedReadWriter
    (rw : BasicReadWriter)
    (algorithm : CompressAlgorithm) : CompressedReadWriter :=
  ⟨rw, [], [], algorithm, .rwNone, 0⟩

/-- Decompression inverts compression. -/
def Codec.Lossless
    (codec : Codec) : Prop :=
  ∀ algorithm data, codec.uncompress algorithm (codec.compress algorithm data) = some data

/-- What the round trip assumes of the third-party codecs: they are lossless, and the
length of what they write has a worst case `bound` that grows with the length of the
input, as zlib's `compressBound` and zstd's `ZSTD_compressBound` are.  Both write more
than they read on data that does not compress. -/
structure Codec.Admissible
    (codec : Codec)
    (bound : Nat → Nat) : Prop where
  lossless : codec.Lossless
  compress_le : ∀ algorithm data, (codec.compress algorithm data).length ≤ bound data.length
  bound_mono : Monotone bound

/-- The data of one frame: nonempty, and no longer than `Write` lets the buffer grow. -/
def Fits (c : List UInt8) : Prop :=
  c ≠ [] ∧ c.length ≤ maxCompressedSize

/-- The payload `Flush` writes for the data of a frame fits the three-byte length of
the frame's header. -/
def FrameFits
    (codec : Codec)
    (algorithm : CompressAlgorithm)
    (c : List UInt8) : Prop :=
  (CompressedReadWriter.framePayload codec algorithm c).1.length < 2 ^ 24

/-- A frame's payload fits its header when the worst case of the compressor does, for
data as long as the frame's: data sent as it is fits already. -/
theorem Codec.Admissible.frameFits
    {codec : Codec}
    {bound : Nat → Nat}
    (hcodec : codec.Admissible bound)
    (algorithm : CompressAlgorithm)
    {c : List UInt8}
    (hc : Fits c)
    {n : Nat}
    (hn : c.length ≤ n)
    (hbound : bound (min n maxCompressedSize) < 2 ^ 24) :
    FrameFits codec algorithm c := by
  unfold FrameFits CompressedReadWriter.framePayload
  split_ifs
  · calc (codec.compress algorithm c).length
        ≤ bound c.length := hcodec.compress_le algorithm c
      _ ≤ bound (min n maxCompressedSize) := hcodec.bound_mono (le_min hn hc.2)
      _ < 2 ^ 24 := hbound
  · exact Nat.lt_of_le_of_lt hc.2 (by decide)

namespace CompressedReadWriter

variable (codec : Codec)

/-- `Read` into a slice of `n` bytes: a frame from the connection when the read buffer
is empty, then as much of the buffer as fits. -/
def Read
    (crw : CompressedReadWriter)
    (n : Nat) : Except ReadError (List UInt8 × CompressedReadWriter) :=
  match (if crw.readBuffer = [] then readFromConn codec crw else .ok crw) with
  | .error e => .error (.compress e)
  | .ok crw =>
      -- `bytes.Buffer.Read` of an empty buffer into a nonempty slice
      if crw.readBuffer = [] ∧ 0 < n then .error .eof
      else .ok (crw.readBuffer.take n, { crw with readBuffer := crw.readBuffer.drop n })

/-- The loop of `ReadFull`: read until `n` bytes have come.  Every read returns a byte
or fails, so `n` iterations are enough and the fuel is never used up. -/
def readFullLoop : Nat → Nat → CompressedReadWriter →
    Except ReadError (List UInt8 × CompressedReadWriter)
  | _, 0, crw => .ok ([], crw)
  | 0, _ + 1, _ => .error .eof
  | fuel + 1, n + 1, crw =>
      match Read codec crw (n + 1) with
      | .error e => .error e
      | .ok (b, crw) =>
          match readFullLoop fuel (n + 1 - b.length) crw with
          | .error e => .error e
          | .ok (rest, crw) => .ok (b ++ rest, crw)

/-- `ReadFull` on the compressed layer. -/
def ReadFull
    (crw : CompressedReadWriter)
    (n : Nat) : Except ReadError (List UInt8 × CompressedReadWriter) :=
  readFullLoop codec n n crw

/-- The sequence `BeginRW` leaves for the packets of the direction `status`. -/
def beginSeq
    (crw : CompressedReadWriter)
    (status : RWStatus) : UInt8 :=
  if crw.rwStatus ≠ status then crw.sequence else crw.rw.sequence

/-- The frame `Flush` sends for the data `c` with compressed sequence `s`. -/
def frame
    (algorithm : CompressAlgorithm)
    (s : UInt8)
    (c : List UInt8) : List UInt8 :=
  frameHeader (framePayload codec algorithm c).1.length s (framePayload codec algorithm c).2 ++
    (framePayload codec algorithm c).1

/-- The frames of the data `cs`, numbered on from `s`. -/
def frames
    (algorithm : CompressAlgorithm) : UInt8 → List (List UInt8) → List UInt8
  | _, [] => []
  | s, c :: cs => frame codec algorithm s c ++ frames algorithm (s + 1) cs

/-- The writer's side of a connection during a turn: after the bytes `o` written before
it, the frames of the data `cs` numbered from `c0`, with the compressed sequence past
them; that data and the write buffer put together are the stream `S` of the turn. -/
def Sends
    (crw : CompressedReadWriter)
    (o : List UInt8)
    (c0 : UInt8)
    (S : List UInt8) : Prop :=
  ∃ cs : List (List UInt8), (∀ c ∈ cs, Fits c) ∧
    crw.rw.output = o ++ frames codec crw.algorithm c0 cs ∧
    crw.sequence = c0 + UInt8.ofNat cs.length ∧ cs.flatten ++ crw.writeBuffer = S ∧
    crw.writeBuffer.length ≤ maxCompressedSize

/-- The reader's side: the connection holds the frames of the data `cs` numbered from
the compressed sequence on to `cEnd`, each with a payload that fits its header; the read
buffer and that data put together are the stream `A` still to be read. -/
def Receives
    (crw : CompressedReadWriter)
    (A : List UInt8)
    (cEnd : UInt8) : Prop :=
  ∃ cs : List (List UInt8), (∀ c ∈ cs, Fits c ∧ FrameFits codec crw.algorithm c) ∧
    crw.rw.input = frames codec crw.algorithm crw.sequence cs ∧
    crw.sequence + UInt8.ofNat cs.length = cEnd ∧ crw.readBuffer ++ cs.flatten = A

/-- What reading leaves alone. -/
structure ReadKeeps
    (crw crw' : CompressedReadWriter) : Prop where
  algorithm : crw'.algorithm = crw.algorithm
  rwStatus : crw'.rwStatus = crw.rwStatus
  rwSequence : crw'.rw.sequence = crw.rw.sequence
  writeBuffer : crw'.writeBuffer = crw.writeBuffer

/-- What writing leaves alone. -/
structure WriteKeeps
    (crw crw' : CompressedReadWriter) : Prop where
  algorithm : crw'.algorithm = crw.algorithm
  rwStatus : crw'.rwStatus = crw.rwStatus
  rwSequence : crw'.rw.sequence = crw.rw.sequence
  readBuffer : crw'.readBuffer = crw.readBuffer
  input : crw'.rw.input = crw.rw.input

theorem ReadKeeps.refl
    (crw : CompressedReadWriter) :
    ReadKeeps crw crw :=
  ⟨rfl, rfl, rfl, rfl⟩

theorem ReadKeeps.trans
    {crw₁ crw₂ crw₃ : CompressedReadWriter}
    (h₁ : ReadKeeps crw₁ crw₂)
    (h₂ : ReadKeeps crw₂ crw₃) :
    ReadKeeps crw₁ crw₃ :=
  ⟨h₂.algorithm.trans h₁.algorithm, h₂.rwStatus.trans h₁.rwStatus,
    h₂.rwSequence.trans h₁.rwSequence, h₂.writeBuffer.trans h₁.writeBuffer⟩

theorem WriteKeeps.refl
    (crw : CompressedReadWriter) :
    WriteKeeps crw crw :=
  ⟨rfl, rfl, rfl, rfl, rfl⟩

theorem WriteKeeps.trans
    {crw₁ crw₂ crw₃ : CompressedReadWriter}
    (h₁ : WriteKeeps crw₁ crw₂)
    (h₂ : WriteKeeps crw₂ crw₃) :
    WriteKeeps crw₁ crw₃ :=
  ⟨h₂.algorithm.trans h₁.algorithm, h₂.rwStatus.trans h₁.rwStatus,
    h₂.rwSequence.trans h₁.rwSequence, h₂.readBuffer.trans h₁.readBuffer, h₂.input.trans h₁.input⟩

/-! ### Frames -/

/-- One frame more is one more on the compressed sequence. -/
theorem add_ofNat_succ
    (s : UInt8)
    (n : Nat) :
    s + UInt8.ofNat n + 1 = s + UInt8.ofNat (n + 1) := by
  rw [UInt8.ofNat_add]
  grind

@[simp] theorem frames_nil
    (algorithm : CompressAlgorithm)
    (s : UInt8) :
    frames codec algorithm s [] = [] :=
  rfl

@[simp] theorem frames_cons
    (algorithm : CompressAlgorithm)
    (s : UInt8)
    (c : List UInt8)
    (cs : List (List UInt8)) :
    frames codec algorithm s (c :: cs) = frame codec algorithm s c ++ frames codec algorithm (s + 1) cs :=
  rfl

/-- One more frame at the end, numbered past the others. -/
theorem frames_append_singleton
    (algorithm : CompressAlgorithm)
    (c : List UInt8)
    (cs : List (List UInt8)) :
    ∀ s : UInt8, frames codec algorithm s (cs ++ [c]) =
      frames codec algorithm s cs ++ frame codec algorithm (s + UInt8.ofNat cs.length) c := by
  induction cs with
  | nil =>
      intro s
      simp
  | cons c' cs ih =>
      intro s
      rw [List.cons_append, frames_cons, frames_cons, ih, List.append_assoc, List.length_cons,
        Net.seq_succ_add]

/-- `BeginRW` sets the direction and the uncompressed sequence, nothing else. -/
theorem BeginRW_eq
    (crw : CompressedReadWriter)
    (status : RWStatus) :
    BeginRW crw status =
      { crw with rw := { crw.rw with sequence := beginSeq crw status }, rwStatus := status } := by
  unfold BeginRW beginSeq
  by_cases h : crw.rwStatus ≠ status
  · rw [if_pos h, if_pos h]
  · have hs : crw.rwStatus = status := not_not.mp h
    rw [if_neg h, if_neg h]
    subst hs
    rfl

/-! ### The writer's side -/

section Writer

variable {codec}

theorem Sends.append
    {crw : CompressedReadWriter}
    {o : List UInt8}
    {c0 : UInt8}
    {S : List UInt8}
    (h : Sends codec crw o c0 S)
    (x : List UInt8)
    (hfit : crw.writeBuffer.length + x.length ≤ maxCompressedSize) :
    Sends codec { crw with writeBuffer := crw.writeBuffer ++ x } o c0 (S ++ x) := by
  obtain ⟨cs, hfits, hout, hseq, hstream, _⟩ := h
  refine ⟨cs, hfits, hout, hseq, ?_, ?_⟩
  · rw [← hstream, List.append_assoc]
  · simpa using hfit

/-- `Flush` sends the buffer as the next frame, and the stream stays what it was. -/
theorem Sends.flush
    {crw : CompressedReadWriter}
    {o : List UInt8}
    {c0 : UInt8}
    {S : List UInt8}
    (h : Sends codec crw o c0 S) :
    Sends codec (Flush codec crw) o c0 S ∧ (Flush codec crw).writeBuffer = [] ∧
      WriteKeeps crw (Flush codec crw) := by
  by_cases hne : crw.writeBuffer = []
  · -- an empty buffer sends nothing
    have hflush : Flush codec crw = crw := by
      simp [Flush, hne]
    rw [hflush]
    exact ⟨h, hne, WriteKeeps.refl crw⟩
  · obtain ⟨cs, hfits, hout, hseq, hstream, hlen⟩ := h
    rw [flush_eq codec crw hne]
    refine ⟨⟨cs ++ [crw.writeBuffer], ?_, ?_, ?_, ?_, ?_⟩, rfl, ⟨rfl, rfl, rfl, rfl, rfl⟩⟩
    · intro c hc
      rw [List.mem_append, List.mem_singleton] at hc
      rcases hc with hc | rfl
      · exact hfits c hc
      · exact ⟨hne, hlen⟩
    · simp only
      rw [hout, frames_append_singleton, ← hseq, frame, List.append_assoc, List.append_assoc]
    · simp only
      rw [hseq, List.length_append, List.length_singleton, add_ofNat_succ]
    · simpa using hstream
    · simp

/-- The loop of `Write` puts all of the data on the stream, given one iteration per byte
and one more, or two more when the buffer starts full: an iteration that flushes a
full buffer takes no byte, and the buffer after a flush is empty. -/
theorem Sends.writeLoop :
    ∀ (fuel : Nat) (data : List UInt8) (crw : CompressedReadWriter) (S : List UInt8)
      {o : List UInt8} {c0 : UInt8},
      Sends codec crw o c0 S →
      data.length + (if crw.writeBuffer.length < maxCompressedSize then 1 else 2) ≤ fuel →
      Sends codec (writeLoop codec fuel data crw) o c0 (S ++ data) ∧
        WriteKeeps crw (writeLoop codec fuel data crw) := by
  intro fuel
  induction fuel with
  | zero =>
      intro data crw S o c0 _ hfuel
      split at hfuel <;> omega
  | succ fuel ih =>
      intro data crw S o c0 h hfuel
      have hlen : crw.writeBuffer.length ≤ maxCompressedSize := h.choose_spec.2.2.2.2
      simp only [CompressedReadWriter.writeLoop]
      by_cases hfit : data.length ≤ maxCompressedSize - crw.writeBuffer.length
      · -- the data fits: it joins the buffer
        rw [if_pos hfit]
        exact ⟨h.append data (by omega), ⟨rfl, rfl, rfl, rfl, rfl⟩⟩
      · -- the buffer is filled up and flushed, and the loop goes on with the rest
        rw [if_neg hfit]
        obtain ⟨r, hr⟩ : ∃ r, r = maxCompressedSize - crw.writeBuffer.length := ⟨_, rfl⟩
        rw [← hr] at hfit ⊢
        have htake : (data.take r).length = r := by
          rw [List.length_take]
          omega
        have hfull := h.append (data.take r) (by omega)
        have hkeeps₀ : WriteKeeps crw { crw with writeBuffer := crw.writeBuffer ++ data.take r } :=
          ⟨rfl, rfl, rfl, rfl, rfl⟩
        generalize ({ crw with writeBuffer := crw.writeBuffer ++ data.take r } :
          CompressedReadWriter) = crw₁ at hfull hkeeps₀ ⊢
        obtain ⟨hsent, hempty, hkeeps⟩ := hfull.flush
        have hnext : (data.drop r).length +
            (if (Flush codec crw₁).writeBuffer.length < maxCompressedSize then 1 else 2) ≤ fuel := by
          rw [hempty, List.length_drop]
          have hmax : (0 : Nat) < maxCompressedSize := by decide
          simp only [List.length_nil, hmax, if_true]
          split at hfuel <;> omega
        obtain ⟨hrest, hkeeps'⟩ := ih _ _ _ hsent hnext
        rw [List.append_assoc, List.take_append_drop] at hrest
        exact ⟨hrest, (hkeeps₀.trans hkeeps).trans hkeeps'⟩

/-- `Write` puts the data on the stream the frames carry. -/
theorem Sends.write
    {crw : CompressedReadWriter}
    {o : List UInt8}
    {c0 : UInt8}
    {S : List UInt8}
    (h : Sends codec crw o c0 S)
    (data : List UInt8) :
    Sends codec (Write codec crw data) o c0 (S ++ data) ∧ WriteKeeps crw (Write codec crw data) :=
  Sends.writeLoop _ data crw S h (by split <;> omega)

end Writer

/-! ### The reader's side -/

/-- The first `k` bytes of `X ++ Y`, where `k` is the length of `X.take n`. -/
theorem take_append_length_take
    (X Y : List UInt8)
    (n : Nat) :
    (X ++ Y).take (X.take n).length = X.take n ∧
      (X ++ Y).drop (X.take n).length = X.drop n ++ Y := by
  have hle : (X.take n).length ≤ X.length := List.length_take_le' _ _
  rw [List.take_append_of_le_length hle, List.drop_append_of_le_length hle, List.length_take]
  by_cases hn : n ≤ X.length
  · rw [Nat.min_eq_left hn]
    exact ⟨rfl, rfl⟩
  · rw [Nat.min_eq_right (by omega), List.take_length, List.take_of_length_le (by omega),
      List.drop_length, List.drop_of_length_le (by omega)]
    exact ⟨rfl, rfl⟩


section Reader

variable {codec}

/-- A stream read to its end leaves nothing: no buffered byte, no frame on the
connection, and the compressed sequence at the end. -/
theorem Receives.nil
    {crw : CompressedReadWriter}
    {cEnd : UInt8}
    (h : Receives codec crw [] cEnd) :
    crw.readBuffer = [] ∧ crw.rw.input = [] ∧ crw.sequence = cEnd := by
  obtain ⟨cs, hfits, hin, hend, hstream⟩ := h
  obtain ⟨hrb, hflat⟩ := List.append_eq_nil_iff.mp hstream
  -- every frame carries data, so there is none left
  have hcs : cs = [] := by
    cases cs with
    | nil => rfl
    | cons c cs =>
        rw [List.flatten_cons, List.append_eq_nil_iff] at hflat
        exact absurd hflat.1 (hfits c List.mem_cons_self).1.1
  subst hcs
  exact ⟨hrb, by simpa using hin, by simpa using hend⟩

variable (hcodec : codec.Lossless)
include hcodec

/-- `readFromConn` takes the next frame into the read buffer. -/
theorem readFromConn_frame
    {crw : CompressedReadWriter}
    {c rest : List UInt8}
    (hc : Fits c)
    (hframe : FrameFits codec crw.algorithm c)
    (hin : crw.rw.input = frame codec crw.algorithm crw.sequence c ++ rest) :
    ∃ crw', readFromConn codec crw = .ok crw' ∧ crw'.readBuffer = crw.readBuffer ++ c ∧
      crw'.rw.input = rest ∧ crw'.sequence = crw.sequence + 1 ∧ ReadKeeps crw crw' := by
  obtain ⟨hne, hlen⟩ := hc
  have hmax : c.length < 2 ^ 24 := Nat.lt_of_le_of_lt hlen (by decide)
  unfold frame framePayload at hin
  unfold readFromConn
  split_ifs at hin with hcomp
  · -- a compressed frame: the second length is the data's
    have hpos : c.length ≠ 0 := fun h => hne (List.length_eq_zero_iff.mp h)
    have hfits : (codec.compress crw.algorithm c).length < 2 ^ 24 := by
      simpa [FrameFits, framePayload, hcomp] using hframe
    simp [readConn, hin, frameHeader, encode24, decode24_encode24 hfits, decode24_encode24 hmax, hpos,
      hcodec crw.algorithm c]
    exact ⟨rfl, rfl, rfl, rfl⟩
  · -- a frame sent as it is, with 0 as its second length
    have hzero : decode24 0 0 0 = 0 := rfl
    simp [readConn, hin, frameHeader, encode24, decode24_encode24 hmax, hzero]
    exact ⟨rfl, rfl, rfl, rfl⟩

/-- One `Read` of at most `n` bytes from a nonempty stream returns at least one byte. -/
theorem Receives.read
    {crw : CompressedReadWriter}
    {A : List UInt8}
    {cEnd : UInt8}
    (h : Receives codec crw A cEnd)
    {n : Nat}
    (hn : 0 < n)
    (hA : n ≤ A.length) :
    ∃ k crw', 0 < k ∧ k ≤ n ∧ Read codec crw n = .ok (A.take k, crw') ∧
      Receives codec crw' (A.drop k) cEnd ∧ ReadKeeps crw crw' := by
  obtain ⟨cs, hfits, hin, hend, hstream⟩ := h
  by_cases hrb : crw.readBuffer = []
  · -- an empty buffer: the next frame comes first
    cases cs with
    | nil =>
        simp [hrb] at hstream
        subst hstream
        simp at hA
        omega
    | cons c cs =>
        have hc := hfits c List.mem_cons_self
        rw [frames_cons] at hin
        obtain ⟨crw₁, hread, hrb₁, hin₁, hseq₁, hkeeps₁⟩ := readFromConn_frame hcodec hc.1 hc.2 hin
        rw [hrb, List.nil_append] at hrb₁
        have hne : crw₁.readBuffer ≠ [] := by
          rw [hrb₁]
          exact hc.1.1
        rw [hrb, List.nil_append, List.flatten_cons] at hstream
        obtain ⟨htake, hdrop⟩ := take_append_length_take c cs.flatten n
        refine ⟨(c.take n).length, { crw₁ with readBuffer := c.drop n }, ?_, ?_, ?_, ?_, ?_⟩
        · simp only [List.length_take]
          have := List.length_pos_of_ne_nil hc.1.1
          omega
        · exact List.length_take_le _ _
        · rw [Read, if_pos hrb, hread, ← hstream, htake]
          simp [hrb₁, hc.1.1]
        · refine ⟨cs, fun c' hc' => hkeeps₁.algorithm ▸ hfits c' (List.mem_cons_of_mem c hc'), ?_, ?_, ?_⟩
          · simpa [hseq₁, hkeeps₁.algorithm] using hin₁
          · rw [← hend, hseq₁, List.length_cons, Net.seq_succ_add]
          · rw [← hstream, hdrop]
        · exact hkeeps₁.trans ⟨rfl, rfl, rfl, rfl⟩
  · -- bytes left in the buffer: they come first
    rw [← hstream]
    obtain ⟨htake, hdrop⟩ := take_append_length_take crw.readBuffer cs.flatten n
    refine ⟨(crw.readBuffer.take n).length, { crw with readBuffer := crw.readBuffer.drop n },
      ?_, ?_, ?_, ?_, ⟨rfl, rfl, rfl, rfl⟩⟩
    · simp only [List.length_take]
      have := List.length_pos_of_ne_nil hrb
      omega
    · exact List.length_take_le _ _
    · rw [Read, if_neg hrb, htake]
      simp only [hrb, false_and, if_false]
    · exact ⟨cs, hfits, hin, hend, by rw [hdrop]⟩

/-- `ReadFull` reads the next `n` bytes of the stream, across as many frames as they
take, given fuel for one read per byte. -/
theorem Receives.readFullLoop :
    ∀ (fuel n : Nat) (crw : CompressedReadWriter) (A : List UInt8) {cEnd : UInt8},
      Receives codec crw A cEnd → n ≤ fuel → n ≤ A.length →
      ∃ crw', readFullLoop codec fuel n crw = .ok (A.take n, crw') ∧
        Receives codec crw' (A.drop n) cEnd ∧ ReadKeeps crw crw' := by
  intro fuel
  induction fuel with
  | zero =>
      intro n crw A cEnd h hfuel _
      obtain rfl : n = 0 := by omega
      exact ⟨crw, by simp [CompressedReadWriter.readFullLoop], by simpa using h, ReadKeeps.refl crw⟩
  | succ fuel ih =>
      intro n crw A cEnd h hfuel hA
      cases n with
      | zero =>
          exact ⟨crw, by simp [CompressedReadWriter.readFullLoop], by simpa using h,
            ReadKeeps.refl crw⟩
      | succ n =>
          obtain ⟨k, crw₁, hk, hkn, hread, hrecv, hkeeps⟩ := h.read hcodec (Nat.succ_pos n) hA
          have hlenTake : (A.take k).length = k := by
            rw [List.length_take]
            omega
          obtain ⟨crw₂, hloop, hrecv₂, hkeeps₂⟩ :=
            ih (n + 1 - k) crw₁ (A.drop k) hrecv (by omega) (by rw [List.length_drop]; omega)
          refine ⟨crw₂, ?_, ?_, hkeeps.trans hkeeps₂⟩
          · rw [CompressedReadWriter.readFullLoop, hread]
            simp only [hlenTake, hloop]
            rw [← List.take_add, Nat.add_sub_cancel' (by omega)]
          · rwa [List.drop_drop, Nat.add_sub_cancel' (by omega)] at hrecv₂

/-- `ReadFull` reads the next `n` bytes of the stream. -/
theorem Receives.readFull
    {crw : CompressedReadWriter}
    {A : List UInt8}
    {cEnd : UInt8}
    (h : Receives codec crw A cEnd)
    {n : Nat}
    (hA : n ≤ A.length) :
    ∃ crw', ReadFull codec crw n = .ok (A.take n, crw') ∧
      Receives codec crw' (A.drop n) cEnd ∧ ReadKeeps crw crw' :=
  Receives.readFullLoop hcodec n n crw A h le_rfl hA

end Reader

end CompressedReadWriter

/-! ### `packetIO` over the compressed layer -/

/-- `packetIO` over a `compressedReadWriter`, with the sequence mismatches that
`readOnePacket` logs: the expected sequence, then the one in the header. -/
structure CompressedPacketIO where
  readWriter : CompressedReadWriter
  inPackets : Nat
  outPackets : Nat
  warnings : List (UInt8 × UInt8)
deriving DecidableEq, Repr

namespace CompressedPacketIO

open CompressedReadWriter

variable (codec : Codec)

/-- `SetCompressionAlgorithm` with zlib or zstd: the plain end of `Net.Packet` gets a
`compressedReadWriter` over its connection.  `CompressionNone` keeps the plain end. -/
def SetCompressionAlgorithm
    (p : PacketIO)
    (algorithm : CompressAlgorithm) : CompressedPacketIO :=
  ⟨newCompressedReadWriter ⟨p.input, p.output, p.inBytes, p.outBytes, p.sequence⟩ algorithm,
    p.inPackets, p.outPackets, []⟩

/-- `ResetSequence`. -/
def ResetSequence
    (p : CompressedPacketIO) : CompressedPacketIO :=
  { p with readWriter := CompressedReadWriter.ResetSequence p.readWriter }

/-- `readOnePacket`: the payload of the next physical packet and whether another one
follows.  A sequence number other than the expected one is logged, and the counter
continues from the header's number. -/
def readOnePacket
    (p : CompressedPacketIO) : Except ReadError (List UInt8 × Bool × CompressedPacketIO) :=
  match CompressedReadWriter.ReadFull codec p.readWriter 4 with
  | .error e => .error e
  | .ok (header, crw) =>
      let sequence := header.getD 3 0
      let pktSequence := crw.rw.sequence
      let warnings :=
        if sequence ≠ pktSequence then p.warnings ++ [(pktSequence, sequence)] else p.warnings
      let crw := { crw with rw := { crw.rw with sequence := sequence + 1 } }
      let length := decode24 (header.getD 0 0) (header.getD 1 0) (header.getD 2 0)
      match CompressedReadWriter.ReadFull codec crw length with
      | .error e => .error e
      | .ok (data, crw) =>
          .ok (data, length == MaxPayloadLen,
            { p with readWriter := crw, inPackets := p.inPackets + 1, warnings := warnings })

/-- The loop of `ReadPacket`: read physical packets while they are full. -/
def readPacketLoop : Nat → List UInt8 → CompressedPacketIO →
    Except ReadError (List UInt8 × CompressedPacketIO)
  | 0, _, _ => .error .eof
  | fuel + 1, data, p =>
      match readOnePacket codec p with
      | .error err => .error err
      | .ok (buf, more, p) =>
          if more then readPacketLoop fuel (data ++ buf) p else .ok (data ++ buf, p)

/-- `ReadPacket`.  A frame on the connection takes at least seven bytes and carries at
most `2 ^ 24 - 1`, and every physical packet takes four bytes of the stream, so the fuel
is more than the packets there are. -/
def ReadPacket
    (p : CompressedPacketIO) : Except ReadError (List UInt8 × CompressedPacketIO) :=
  let p := { p with readWriter := BeginRW p.readWriter .rwRead }
  readPacketLoop codec (p.readWriter.readBuffer.length + 2 ^ 24 * p.readWriter.rw.input.length + 1)
    [] p

/-- `writeOnePacket`: the header and at most `MaxPayloadLen` bytes go into the compressed
layer; a payload of exactly that length is followed by an empty packet. -/
def writeOnePacket
    (p : CompressedPacketIO)
    (data : List UInt8) : Nat × Bool × CompressedPacketIO :=
  let (length, more) :=
    if data.length ≥ MaxPayloadLen then (MaxPayloadLen, true) else (data.length, false)
  let sequence := p.readWriter.rw.sequence
  let crw := { p.readWriter with rw := { p.readWriter.rw with sequence := sequence + 1 } }
  let crw := Write codec crw (encode24 length ++ [sequence])
  let crw := Write codec crw (data.take length)
  (length, more, { p with readWriter := crw, outPackets := p.outPackets + 1 })

/-- The loop of `WritePacket`. -/
def writePacketLoop : Nat → List UInt8 → CompressedPacketIO → CompressedPacketIO
  | 0, _, p => p
  | fuel + 1, data, p =>
      let (n, more, p) := writeOnePacket codec p data
      if more then writePacketLoop fuel (data.drop n) p else p

/-- `Flush`. -/
def Flush
    (p : CompressedPacketIO) : CompressedPacketIO :=
  { p with readWriter := CompressedReadWriter.Flush codec p.readWriter }

/-- `WritePacket`: one logical packet, then a flush if asked for. -/
def WritePacket
    (p : CompressedPacketIO)
    (data : List UInt8)
    (flush : Bool) : CompressedPacketIO :=
  let p := { p with readWriter := BeginRW p.readWriter .rwWrite }
  let p := writePacketLoop codec (data.length + 1) data p
  if flush then Flush codec p else p

/-- `ReadPacket` called `n` times. -/
def readPackets : Nat → CompressedPacketIO → Except ReadError (List (List UInt8) × CompressedPacketIO)
  | 0, p => .ok ([], p)
  | n + 1, p =>
      match ReadPacket codec p with
      | .error err => .error err
      | .ok (m, p) =>
          match readPackets n p with
          | .error err => .error err
          | .ok (ms, p) => .ok (m :: ms, p)

/-- The sequence after the frames of a series of messages numbered from `s`, as
`messageBytes` numbers them. -/
def messageSeq : UInt8 → List (List UInt8) → UInt8
  | s, [] => s
  | s, m :: ms => messageSeq (s + UInt8.ofNat (m.length / MaxPayloadLen + 1)) ms

/-- What the reader keeps while it reads. -/
structure ReadFrame
    (p p' : CompressedPacketIO) : Prop where
  algorithm : p'.readWriter.algorithm = p.readWriter.algorithm
  writeBuffer : p'.readWriter.writeBuffer = p.readWriter.writeBuffer
  warnings : p'.warnings = p.warnings

theorem ReadFrame.trans
    {p₁ p₂ p₃ : CompressedPacketIO}
    (h₁ : ReadFrame p₁ p₂)
    (h₂ : ReadFrame p₂ p₃) :
    ReadFrame p₁ p₃ :=
  ⟨h₂.algorithm.trans h₁.algorithm, h₂.writeBuffer.trans h₁.writeBuffer,
    h₂.warnings.trans h₁.warnings⟩

/-! ### The reader -/

/-- A stream of frames takes at most `2 ^ 24` bytes of data per byte on the connection. -/
theorem length_flatten_le_frames
    (algorithm : CompressAlgorithm) :
    ∀ (cs : List (List UInt8)) (s : UInt8), (∀ c ∈ cs, Fits c) →
      cs.flatten.length ≤ 2 ^ 24 * (frames codec algorithm s cs).length := by
  intro cs
  induction cs with
  | nil => intro s _; simp
  | cons c cs ih =>
      intro s hfits
      have hc := (hfits c List.mem_cons_self).2
      have hrest := ih (s + 1) (fun c' hc' => hfits c' (List.mem_cons_of_mem c hc'))
      have hheader : 7 ≤ (frame codec algorithm s c).length := by
        simp [frame, frameHeader, encode24]
      have hmax : maxCompressedSize < 2 ^ 24 := by decide
      rw [List.flatten_cons, frames_cons, List.length_append, List.length_append]
      omega

section Reader

variable {codec} (hcodec : codec.Lossless)
include hcodec

/-- `readOnePacket` on the stream of a physical packet returns its payload, with no
warning when its sequence is the expected one. -/
theorem readOnePacket_frame
    {p : CompressedPacketIO}
    {c rest : List UInt8}
    {s cEnd : UInt8}
    (h : Receives codec p.readWriter (encode24 c.length ++ [s] ++ c ++ rest) cEnd)
    (hc : c.length < 2 ^ 24)
    (hs : p.readWriter.rw.sequence = s) :
    ∃ p', readOnePacket codec p = .ok (c, c.length == MaxPayloadLen, p') ∧
      Receives codec p'.readWriter rest cEnd ∧ p'.readWriter.rw.sequence = s + 1 ∧
      p'.readWriter.rwStatus = p.readWriter.rwStatus ∧ ReadFrame p p' := by
  obtain ⟨crw₁, hheader, hrecv₁, hkeeps₁⟩ := h.readFull hcodec (n := 4) (by simp [encode24])
  have htake : (encode24 c.length ++ [s] ++ c ++ rest).take 4 =
      [UInt8.ofNat c.length, UInt8.ofNat (c.length >>> 8), UInt8.ofNat (c.length >>> 16), s] := by
    simp [encode24]
  have hdrop : (encode24 c.length ++ [s] ++ c ++ rest).drop 4 = c ++ rest := by
    simp [encode24]
  rw [htake] at hheader
  rw [hdrop] at hrecv₁
  -- the sequence is not part of what the reader of the stream looks at
  have hrecv₂ : Receives codec { crw₁ with rw := { crw₁.rw with sequence := s + 1 } } (c ++ rest)
      cEnd := hrecv₁
  obtain ⟨crw₃, hdata, hrecv₃, hkeeps₃⟩ := hrecv₂.readFull hcodec (n := c.length) (by simp)
  rw [List.take_left' rfl, List.drop_left' rfl] at *
  have hexpected : crw₁.rw.sequence = s := hkeeps₁.rwSequence.trans hs
  refine ⟨{ p with readWriter := crw₃, inPackets := p.inPackets + 1 }, ?_, hrecv₃,
    hkeeps₃.rwSequence, hkeeps₃.rwStatus.trans hkeeps₁.rwStatus,
    ⟨hkeeps₃.algorithm.trans hkeeps₁.algorithm, hkeeps₃.writeBuffer.trans hkeeps₁.writeBuffer, rfl⟩⟩
  simp only [readOnePacket, hheader, List.getD_cons_succ, List.getD_cons_zero,
    decode24_encode24 hc, hexpected, hdata]
  simp

/-- The reader's loop on the stream of the chunks of a payload returns the payload, given
more fuel than full chunks. -/
theorem readPacketLoop_frameBytes
    (rest : List UInt8)
    {cEnd : UInt8}
    (k : Nat) :
    ∀ (fuel : Nat) (acc data : List UInt8) (s : UInt8) (p : CompressedPacketIO),
      data.length / MaxPayloadLen = k → k < fuel →
        Receives codec p.readWriter (frameBytes s (chunksAux k data) ++ rest) cEnd →
        p.readWriter.rw.sequence = s →
          ∃ p', readPacketLoop codec fuel acc p = .ok (acc ++ data, p') ∧
            Receives codec p'.readWriter rest cEnd ∧
            p'.readWriter.rw.sequence = s + UInt8.ofNat (k + 1) ∧
            p'.readWriter.rwStatus = p.readWriter.rwStatus ∧ ReadFrame p p' := by
  induction k with
  | zero =>
      intro fuel acc data s p hk hfuel h hs
      obtain ⟨fuel, rfl⟩ : ∃ f, fuel = f + 1 := ⟨fuel - 1, by omega⟩
      have hlt := lt_of_div_maxPayloadLen_eq_zero hk
      have hne : (data.length == MaxPayloadLen) = false := by
        simpa using Nat.ne_of_lt hlt
      have h' : Receives codec p.readWriter (encode24 data.length ++ [s] ++ data ++ rest) cEnd := by
        simpa [chunksAux] using h
      obtain ⟨p₁, hread, hrecv, hseq, hstatus, hframe⟩ :=
        readOnePacket_frame hcodec h' (Nat.lt_trans hlt maxPayloadLen_lt) hs
      refine ⟨p₁, ?_, hrecv, by simpa using hseq, hstatus, hframe⟩
      rw [readPacketLoop, hread, hne]
      rfl
  | succ k ih =>
      intro fuel acc data s p hk hfuel h hs
      obtain ⟨fuel, rfl⟩ : ∃ f, fuel = f + 1 := ⟨fuel - 1, by omega⟩
      obtain ⟨hge, hk'⟩ := div_maxPayloadLen_sub hk
      rw [← List.length_drop] at hk'
      have hlen : (data.take MaxPayloadLen).length = MaxPayloadLen := by
        simp [hge]
      -- a full chunk first: another packet follows
      have h' : Receives codec p.readWriter (encode24 (data.take MaxPayloadLen).length ++ [s] ++
          data.take MaxPayloadLen ++ (frameBytes (s + 1) (chunksAux k (data.drop MaxPayloadLen)) ++
            rest)) cEnd := by
        simpa [chunksAux] using h
      obtain ⟨p₁, hread, hrecv, hseq, hstatus, hframe⟩ :=
        readOnePacket_frame hcodec h' (by rw [hlen]; exact maxPayloadLen_lt) hs
      obtain ⟨p₂, hloop, hrecv₂, hseq₂, hstatus₂, hframe₂⟩ :=
        ih fuel (acc ++ data.take MaxPayloadLen) (data.drop MaxPayloadLen) (s + 1) p₁ hk'
          (by omega) hrecv hseq
      refine ⟨p₂, ?_, hrecv₂, by rw [hseq₂, seq_succ_add], hstatus₂.trans hstatus,
        hframe.trans hframe₂⟩
      rw [readPacketLoop, hread, hlen]
      simp only [beq_self_eq_true, if_true]
      rw [hloop, List.append_assoc, List.take_append_drop]

/-- `ReadPacket` on the stream of a payload's physical packets returns the payload, with
no warning when their numbering starts at the sequence `BeginRW` sets. -/
theorem ReadPacket_frameBytes
    {p : CompressedPacketIO}
    {data rest : List UInt8}
    {s cEnd : UInt8}
    (h : Receives codec p.readWriter (frameBytes s (chunks data) ++ rest) cEnd)
    (hs : beginSeq p.readWriter .rwRead = s) :
    ∃ p', ReadPacket codec p = .ok (data, p') ∧ Receives codec p'.readWriter rest cEnd ∧
      p'.readWriter.rw.sequence = s + UInt8.ofNat (data.length / MaxPayloadLen + 1) ∧
      p'.readWriter.rwStatus = .rwRead ∧ ReadFrame p p' := by
  -- `BeginRW` touches neither the stream nor the connection
  have hbegin : Receives codec (BeginRW p.readWriter .rwRead) (frameBytes s (chunks data) ++ rest)
      cEnd := by
    rw [BeginRW_eq]
    exact h
  -- the fuel: the payload is part of the stream, which the connection bounds
  have hfuel : data.length / MaxPayloadLen < (BeginRW p.readWriter .rwRead).readBuffer.length +
      2 ^ 24 * (BeginRW p.readWriter .rwRead).rw.input.length + 1 := by
    obtain ⟨cs, hfits, hin, _, hstream⟩ := hbegin
    have hbound := length_flatten_le_frames codec (BeginRW p.readWriter .rwRead).algorithm cs
      (BeginRW p.readWriter .rwRead).sequence (fun c hc => (hfits c hc).1)
    have hlen := congrArg List.length hstream
    rw [List.length_append, List.length_append, length_frameBytes_chunks] at hlen
    rw [hin]
    have := Nat.div_le_self data.length MaxPayloadLen
    omega
  obtain ⟨p', hloop, hrecv, hseq, hstatus, hframe⟩ :=
    readPacketLoop_frameBytes hcodec rest _ _ [] data s
      { p with readWriter := BeginRW p.readWriter .rwRead } rfl hfuel hbegin
      (by rw [BeginRW_eq]; exact hs)
  refine ⟨p', hloop, hrecv, hseq, by rw [hstatus, BeginRW_eq], ?_⟩
  exact ⟨hframe.algorithm.trans (by rw [BeginRW_eq]), hframe.writeBuffer.trans (by rw [BeginRW_eq]),
    hframe.warnings⟩

/-- `ReadPacket` reads a series of messages back from their stream, with no sequence
warning when the numbering starts at the sequence `BeginRW` sets; it ends at the
sequence past the messages' packets. -/
theorem readPackets_receives
    (rest : List UInt8)
    {cEnd : UInt8} :
    ∀ (ms : List (List UInt8)) (s : UInt8) (p : CompressedPacketIO),
      Receives codec p.readWriter (messageBytes s ms ++ rest) cEnd →
      beginSeq p.readWriter .rwRead = s →
        ∃ p', readPackets codec ms.length p = .ok (ms, p') ∧ Receives codec p'.readWriter rest cEnd ∧
          beginSeq p'.readWriter .rwRead = messageSeq s ms ∧
          (ms ≠ [] → p'.readWriter.rwStatus = .rwRead) ∧ ReadFrame p p' := by
  intro ms
  induction ms with
  | nil =>
      intro s p h hs
      exact ⟨p, rfl, by simpa [messageBytes] using h, hs, fun hne => absurd rfl hne, ⟨rfl, rfl, rfl⟩⟩
  | cons m ms ih =>
      intro s p h hs
      rw [messageBytes, List.append_assoc] at h
      obtain ⟨p₁, hread, hrecv, hseq, hstatus, hframe⟩ := ReadPacket_frameBytes hcodec h hs
      have hs₁ : beginSeq p₁.readWriter .rwRead = s + UInt8.ofNat (m.length / MaxPayloadLen + 1) := by
        simp [beginSeq, hstatus, hseq]
      obtain ⟨p₂, hreads, hrecv₂, hseq₂, hstatus₂, hframe₂⟩ := ih _ p₁ hrecv hs₁
      refine ⟨p₂, ?_, hrecv₂, hseq₂, fun _ => ?_, hframe.trans hframe₂⟩
      · simp [readPackets, hread, hreads]
      · -- after the first message the direction is reading
        by_cases hms : ms = []
        · subst hms
          obtain ⟨rfl⟩ : p₂ = p₁ := by
            simpa [readPackets] using hreads.symm
          exact hstatus
        · exact hstatus₂ hms

end Reader

/-! ### The writer -/

/-- What the writer keeps while it writes. -/
structure WriteFrame
    (p p' : CompressedPacketIO) : Prop where
  algorithm : p'.readWriter.algorithm = p.readWriter.algorithm
  readBuffer : p'.readWriter.readBuffer = p.readWriter.readBuffer
  input : p'.readWriter.rw.input = p.readWriter.rw.input
  warnings : p'.warnings = p.warnings

theorem WriteFrame.trans
    {p₁ p₂ p₃ : CompressedPacketIO}
    (h₁ : WriteFrame p₁ p₂)
    (h₂ : WriteFrame p₂ p₃) :
    WriteFrame p₁ p₃ :=
  ⟨h₂.algorithm.trans h₁.algorithm, h₂.readBuffer.trans h₁.readBuffer, h₂.input.trans h₁.input,
    h₂.warnings.trans h₁.warnings⟩

section Writer

variable {codec}

/-- `writeOnePacket` puts a header and the chunk of the length it returns on the
stream, and counts the uncompressed sequence on. -/
theorem Sends.writeOnePacket
    {p : CompressedPacketIO}
    {o : List UInt8}
    {c0 : UInt8}
    {S : List UInt8}
    (h : Sends codec p.readWriter o c0 S)
    (data : List UInt8) :
    Sends codec (writeOnePacket codec p data).2.2.readWriter o c0
        (S ++ (encode24 (writeOnePacket codec p data).1 ++ [p.readWriter.rw.sequence]) ++
          data.take (writeOnePacket codec p data).1) ∧
      (writeOnePacket codec p data).2.2.readWriter.rw.sequence = p.readWriter.rw.sequence + 1 ∧
      (writeOnePacket codec p data).2.2.readWriter.rwStatus = p.readWriter.rwStatus ∧
      WriteFrame p (writeOnePacket codec p data).2.2 := by
  obtain ⟨len, more, hlm⟩ : ∃ len more, (if data.length ≥ MaxPayloadLen then (MaxPayloadLen, true)
      else (data.length, false)) = (len, more) := ⟨_, _, rfl⟩
  simp only [ CompressedPacketIO.writeOnePacket, hlm]
  -- the sequence is not part of what the stream looks at
  have h₁ : Sends codec { p.readWriter with
      rw := { p.readWriter.rw with sequence := p.readWriter.rw.sequence + 1 } } o c0 S := h
  obtain ⟨h₂, hkeeps₂⟩ := h₁.write (encode24 len ++ [p.readWriter.rw.sequence])
  obtain ⟨h₃, hkeeps₃⟩ := h₂.write (data.take len)
  have hkeeps := hkeeps₂.trans hkeeps₃
  exact ⟨h₃, hkeeps.rwSequence, hkeeps.rwStatus,
    ⟨hkeeps.algorithm, hkeeps.readBuffer, hkeeps.input, rfl⟩⟩

variable (codec) in
theorem writeOnePacket_of_le
    (p : CompressedPacketIO)
    {data : List UInt8}
    (h : MaxPayloadLen ≤ data.length) :
    (writeOnePacket codec p data).1 = MaxPayloadLen ∧ (writeOnePacket codec p data).2.1 = true := by
  simp [ CompressedPacketIO.writeOnePacket, h]

variable (codec) in
theorem writeOnePacket_of_lt
    (p : CompressedPacketIO)
    {data : List UInt8}
    (h : data.length < MaxPayloadLen) :
    (writeOnePacket codec p data).1 = data.length ∧ (writeOnePacket codec p data).2.1 = false := by
  simp [ CompressedPacketIO.writeOnePacket, Nat.not_le_of_lt h]

/-- The writer's loop puts the physical packets of the chunks on the stream, given more
fuel than full chunks. -/
theorem Sends.writePacketLoop
    {o : List UInt8}
    {c0 : UInt8}
    (k : Nat) :
    ∀ (fuel : Nat) (data : List UInt8) (p : CompressedPacketIO) (S : List UInt8),
      data.length / MaxPayloadLen = k → k < fuel → Sends codec p.readWriter o c0 S →
        Sends codec (writePacketLoop codec fuel data p).readWriter o c0
            (S ++ frameBytes p.readWriter.rw.sequence (chunksAux k data)) ∧
          (writePacketLoop codec fuel data p).readWriter.rw.sequence =
            p.readWriter.rw.sequence + UInt8.ofNat (k + 1) ∧
          (writePacketLoop codec fuel data p).readWriter.rwStatus = p.readWriter.rwStatus ∧
          WriteFrame p (writePacketLoop codec fuel data p) := by
  induction k with
  | zero =>
      intro fuel data p S hk hfuel h
      obtain ⟨fuel, rfl⟩ : ∃ f, fuel = f + 1 := ⟨fuel - 1, by omega⟩
      have hlt := lt_of_div_maxPayloadLen_eq_zero hk
      obtain ⟨hlen, hmore⟩ := writeOnePacket_of_lt codec p hlt
      obtain ⟨hsent, hseq, hstatus, hframe⟩ := Sends.writeOnePacket h data
      rw [hlen] at hsent
      simp only [ CompressedPacketIO.writePacketLoop, hmore]
      refine ⟨?_, by simpa using hseq, hstatus, hframe⟩
      simpa [chunksAux, List.append_assoc] using hsent
  | succ k ih =>
      intro fuel data p S hk hfuel h
      obtain ⟨fuel, rfl⟩ : ∃ f, fuel = f + 1 := ⟨fuel - 1, by omega⟩
      obtain ⟨hge, hk'⟩ := div_maxPayloadLen_sub hk
      rw [← List.length_drop] at hk'
      have htake : (data.take MaxPayloadLen).length = MaxPayloadLen := by
        simp [hge]
      obtain ⟨hlen, hmore⟩ := writeOnePacket_of_le codec p hge
      obtain ⟨hsent, hseq, hstatus, hframe⟩ := Sends.writeOnePacket h data
      rw [hlen] at hsent
      -- a full chunk first, then the loop goes on with the rest
      obtain ⟨hsent₂, hseq₂, hstatus₂, hframe₂⟩ :=
        ih fuel (data.drop MaxPayloadLen) _ _ hk' (by omega) hsent
      simp only [ CompressedPacketIO.writePacketLoop, hmore, if_true, hlen]
      refine ⟨?_, by rw [hseq₂, hseq, seq_succ_add], hstatus₂.trans hstatus, hframe.trans hframe₂⟩
      rw [hseq] at hsent₂
      simpa [chunksAux, frameBytes_cons, htake, List.append_assoc] using hsent₂

/-- `WritePacket` puts the physical packets of the payload on the stream, numbered from
the sequence `BeginRW` sets, and with a flush leaves the buffer empty. -/
theorem writePacket_sends
    {p : CompressedPacketIO}
    {o : List UInt8}
    {c0 : UInt8}
    {S : List UInt8}
    (h : Sends codec p.readWriter o c0 S)
    (data : List UInt8)
    (flush : Bool) :
    Sends codec (WritePacket codec p data flush).readWriter o c0
        (S ++ frameBytes (beginSeq p.readWriter .rwWrite) (chunks data)) ∧
      beginSeq (WritePacket codec p data flush).readWriter .rwWrite =
        beginSeq p.readWriter .rwWrite + UInt8.ofNat (data.length / MaxPayloadLen + 1) ∧
      (WritePacket codec p data flush).readWriter.rwStatus = .rwWrite ∧
      (flush = true → (WritePacket codec p data flush).readWriter.writeBuffer = []) ∧
      WriteFrame p (WritePacket codec p data flush) := by
  -- `BeginRW` touches neither the stream nor the connection
  have hbegin : Sends codec (BeginRW p.readWriter .rwWrite) o c0 S := by
    rw [BeginRW_eq]
    exact h
  obtain ⟨hsent, hseq, hstatus, hframe⟩ := Sends.writePacketLoop _ (data.length + 1) data
    { p with readWriter := BeginRW p.readWriter .rwWrite } S rfl
    (Nat.lt_succ_of_le (Nat.div_le_self _ _)) hbegin
  simp only [BeginRW_eq] at hsent hseq hstatus hframe
  have hframe' : WriteFrame p (writePacketLoop codec (data.length + 1) data
      { p with readWriter := BeginRW p.readWriter .rwWrite }) := by
    rw [BeginRW_eq]
    exact ⟨hframe.algorithm, hframe.readBuffer, hframe.input, hframe.warnings⟩
  rw [BeginRW_eq] at hframe'
  -- after the loop the direction is writing, so `beginSeq` is the uncompressed sequence
  have hbeginSeq : ∀ crw : CompressedReadWriter, crw.rwStatus = .rwWrite →
      beginSeq crw .rwWrite = crw.rw.sequence := by
    intro crw hcrw
    simp [beginSeq, hcrw]
  cases flush with
  | false =>
      simp only [ CompressedPacketIO.WritePacket, Bool.false_eq_true, if_false, BeginRW_eq]
      exact ⟨hsent, by rw [hbeginSeq _ hstatus, hseq], hstatus, fun h => absurd h (by decide),
        hframe'⟩
  | true =>
      simp only [ CompressedPacketIO.WritePacket, if_true, CompressedPacketIO.Flush, BeginRW_eq]
      obtain ⟨hflushed, hempty, hkeeps⟩ := hsent.flush
      exact ⟨hflushed, by rw [hbeginSeq _ (hkeeps.rwStatus.trans hstatus), hkeeps.rwSequence, hseq],
        hkeeps.rwStatus.trans hstatus, fun _ => hempty,
        hframe'.trans ⟨hkeeps.algorithm, hkeeps.readBuffer, hkeeps.input, rfl⟩⟩

end Writer

end CompressedPacketIO

end Net
end TiProxy
