import Mathlib.Data.FinEnum
import TiProxy.Lib.Codes
import TiProxy.Lib.LittleEndian

/-!
# The compressed protocol

A model of `compressedReadWriter` (`pkg/proxy/net/compress.go`), the layer that
`packetIO` reads and writes through once compression is negotiated.  Written
packets collect in `writeBuffer`; `Flush` sends them as one frame behind a
seven-byte header: the length of the payload that follows, the compressed sequence
number and the length before compression, or 0 when the payload is sent as it is
(below `minCompressSize` bytes).  `readFromConn` reads one frame into
`readBuffer`.

The compressor and decompressor are those of zlib or zstd; the model takes them as
functions of the algorithm.  Writing a frame to the buffered connection does not
fail in the model.

**Results.**
* `flush_eq`: the frame `Flush` writes, and `write_eq_of_le`: `Write` only
  buffers data that fits.
* `readFromConn_flush`: the peer reads back a frame whose compressed payload is
  shorter than `2 ^ 24` bytes.
* `flush_compressedLength_wraps`: a lossless compressor whose output starts with a
  fixed magic makes some buffer of `maxCompressedSize` bytes compress to at least
  `2 ^ 24` bytes, and `Flush` then writes its length modulo `2 ^ 24`.
-/

namespace TiProxy
namespace Net

open LittleEndian

/-- `CompressAlgorithm`. -/
inductive CompressAlgorithm where
  | CompressionNone
  | CompressionZlib
  | CompressionZstd
deriving DecidableEq, Repr

/-- `maxCompressedSize`: the most bytes one frame carries before compression. -/
def maxCompressedSize : Nat := 2 ^ 24 - 1

/-- `minCompressSize`: shorter buffers are sent uncompressed. -/
def minCompressSize : Nat := 50

/-- `rwStatus`: whether the end last read or wrote. -/
inductive RWStatus where
  | rwNone
  | rwRead
  | rwWrite
deriving DecidableEq, Repr

/-- The third-party codecs: `compress` writes a whole zlib or zstd stream, and
`uncompress` reads one back, `none` where it reports an error. -/
structure Codec where
  compress : CompressAlgorithm → List UInt8 → List UInt8
  uncompress : CompressAlgorithm → List UInt8 → Option (List UInt8)

/-- The `basicReadWriter` below the compressed layer: the bytes the peer sent and
not yet read, the bytes written, the byte counters and the uncompressed
sequence that `packetIO` numbers its packets with. -/
structure BasicReadWriter where
  input : List UInt8
  output : List UInt8
  inBytes : Nat
  outBytes : Nat
  sequence : UInt8
deriving DecidableEq, Repr

/-- `compressedReadWriter`. -/
structure CompressedReadWriter where
  rw : BasicReadWriter
  readBuffer : List UInt8
  writeBuffer : List UInt8
  algorithm : CompressAlgorithm
  rwStatus : RWStatus
  sequence : UInt8
deriving DecidableEq, Repr

/-- The errors of `readFromConn`: the connection ends inside a frame, a frame with
another compressed sequence number (`ErrInvalidSequence`), or a payload that does
not decompress to the announced length. -/
inductive CompressError where
  | errReadConn
  | errInvalidSequence (expected actual : UInt8)
  | errUncompress
deriving DecidableEq, Repr

namespace CompressedReadWriter

variable (codec : Codec)

/-- `ResetSequence`: before a command both sequences start again at 0. -/
def ResetSequence
    (crw : CompressedReadWriter) : CompressedReadWriter :=
  { crw with rw := { crw.rw with sequence := 0 }, sequence := 0, rwStatus := .rwNone }

/-- `BeginRW`: when the direction changes, the uncompressed sequence continues
from the compressed one. -/
def BeginRW
    (crw : CompressedReadWriter)
    (status : RWStatus) : CompressedReadWriter :=
  if crw.rwStatus ≠ status then
    { crw with rw := { crw.rw with sequence := crw.sequence }, rwStatus := status }
  else
    crw

/-- The seven-byte frame header: payload length, compressed sequence, length before
compression. -/
def frameHeader
    (compressedLength : Nat)
    (sequence : UInt8)
    (uncompressedLength : Nat) : List UInt8 :=
  encode24 compressedLength ++ sequence :: encode24 uncompressedLength

/-- `Flush`: send the buffered data as one frame, compressed when it has at least
`minCompressSize` bytes. -/
def Flush
    (crw : CompressedReadWriter) : CompressedReadWriter :=
  let data := crw.writeBuffer
  if data = [] then
    crw
  else
    let (uncompressedLength, data) :=
      if minCompressSize ≤ data.length then (data.length, codec.compress crw.algorithm data)
      else (0, data)
    let header := frameHeader data.length crw.sequence uncompressedLength
    { crw with
      writeBuffer := []
      sequence := crw.sequence + 1
      rw := { crw.rw with
        output := crw.rw.output ++ header ++ data
        outBytes := crw.rw.outBytes + header.length + data.length } }

/-- The loop of `Write`: fill the buffer up to `maxCompressedSize` bytes, flushing
each time it is full. -/
def writeLoop : Nat → List UInt8 → CompressedReadWriter → CompressedReadWriter
  | 0, _, crw => crw
  | fuel + 1, data, crw =>
      let remainingLen := maxCompressedSize - crw.writeBuffer.length
      if data.length ≤ remainingLen then
        { crw with writeBuffer := crw.writeBuffer ++ data }
      else
        writeLoop fuel (data.drop remainingLen)
          (Flush codec { crw with writeBuffer := crw.writeBuffer ++ data.take remainingLen })

/-- `Write`.  An iteration either ends the loop or flushes, and after a flush the
next one takes at least one byte, so `data.length + 2` iterations suffice. -/
def Write
    (crw : CompressedReadWriter)
    (data : List UInt8) : CompressedReadWriter :=
  writeLoop codec (data.length + 2) data crw

/-- `ReadFull` on the connection: the next `n` bytes, or `none` when it ends first. -/
def readConn
    (rw : BasicReadWriter)
    (n : Nat) : Option (List UInt8 × BasicReadWriter) :=
  if n ≤ rw.input.length then
    some (rw.input.take n, { rw with input := rw.input.drop n, inBytes := rw.inBytes + n })
  else
    none

/-- `readFromConn`: read one frame and append its data to `readBuffer`. -/
def readFromConn
    (crw : CompressedReadWriter) : Except CompressError CompressedReadWriter :=
  match readConn crw.rw 7 with
  | none => .error .errReadConn
  | some (header, rw) =>
      let compressedSequence := header.getD 3 0
      if compressedSequence ≠ crw.sequence then
        .error (.errInvalidSequence crw.sequence compressedSequence)
      else
        let crw := { crw with rw := rw, sequence := crw.sequence + 1 }
        let compressedLength := decode24 (header.getD 0 0) (header.getD 1 0) (header.getD 2 0)
        let uncompressedLength := decode24 (header.getD 4 0) (header.getD 5 0) (header.getD 6 0)
        match readConn crw.rw compressedLength with
        | none => .error .errReadConn
        | some (data, rw) =>
            if uncompressedLength = 0 then
              .ok { crw with rw := rw, readBuffer := crw.readBuffer ++ data }
            else
              -- `io.CopyN` of `uncompressedLength` bytes from the decompressed stream
              match codec.uncompress crw.algorithm data with
              | none => .error .errUncompress
              | some plain =>
                  if uncompressedLength ≤ plain.length then
                    .ok { crw with rw := rw, readBuffer := crw.readBuffer ++ plain.take uncompressedLength }
                  else
                    .error .errUncompress

/-! ### The frame a flush writes -/

/-- The payload of the frame for `data`, and the length field after the sequence. -/
def framePayload
    (algorithm : CompressAlgorithm)
    (data : List UInt8) : List UInt8 × Nat :=
  if minCompressSize ≤ data.length then (codec.compress algorithm data, data.length) else (data, 0)

/-- `Flush` of a nonempty buffer writes one header and the payload, and bumps the
compressed sequence. -/
theorem flush_eq
    (crw : CompressedReadWriter)
    (hne : crw.writeBuffer ≠ []) :
    Flush codec crw =
      { crw with
        writeBuffer := []
        sequence := crw.sequence + 1
        rw := { crw.rw with
          output := crw.rw.output ++
            frameHeader (framePayload codec crw.algorithm crw.writeBuffer).1.length crw.sequence
              (framePayload codec crw.algorithm crw.writeBuffer).2 ++
            (framePayload codec crw.algorithm crw.writeBuffer).1
          outBytes := crw.rw.outBytes + 7 + (framePayload codec crw.algorithm crw.writeBuffer).1.length } } := by
  unfold Flush framePayload
  rw [if_neg hne]
  by_cases hcomp : minCompressSize ≤ crw.writeBuffer.length
  · simp only [hcomp, if_true]
    simp [frameHeader, encode24]
  · simp only [hcomp, if_false]
    simp [frameHeader, encode24]

/-- `Write` of data that fits in the buffer only appends it. -/
theorem write_eq_of_le
    (crw : CompressedReadWriter)
    (data : List UInt8)
    (hle : crw.writeBuffer.length + data.length ≤ maxCompressedSize) :
    Write codec crw data = { crw with writeBuffer := crw.writeBuffer ++ data } := by
  have hfit : data.length ≤ maxCompressedSize - crw.writeBuffer.length := by
    omega
  simp only [Write, writeLoop, hfit, if_true]

/-- The peer reads back a frame whose payload is shorter than `2 ^ 24` bytes, when
its compressed sequence is the writer's and decompression inverts compression. -/
theorem readFromConn_flush
    (hinv : ∀ algorithm data, codec.uncompress algorithm (codec.compress algorithm data) = some data)
    (crw peer : CompressedReadWriter)
    (hne : crw.writeBuffer ≠ [])
    (hlen : crw.writeBuffer.length ≤ maxCompressedSize)
    (hfits : (framePayload codec crw.algorithm crw.writeBuffer).1.length < 2 ^ 24)
    (halg : peer.algorithm = crw.algorithm)
    (hseq : peer.sequence = crw.sequence)
    (rest : List UInt8)
    (hin : peer.rw.input =
      ((Flush codec crw).rw.output.drop crw.rw.output.length) ++ rest) :
    ∃ rw, readFromConn codec peer =
      .ok { peer with
        rw := rw
        sequence := peer.sequence + 1
        readBuffer := peer.readBuffer ++ crw.writeBuffer } ∧ rw.input = rest := by
  rw [flush_eq codec crw hne] at hin
  simp only [List.append_assoc, List.drop_left] at hin
  have hmax : maxCompressedSize < 2 ^ 24 := by
    unfold maxCompressedSize
    omega
  unfold framePayload at hin hfits
  unfold readFromConn
  split_ifs at hin hfits with hcomp
  · -- a compressed frame: the second length is the buffer's
    have hpos : crw.writeBuffer.length ≠ 0 := by
      intro h
      exact hne (List.length_eq_zero_iff.mp h)
    simp [readConn, hin, frameHeader, encode24, decode24_encode24 hfits,
      decode24_encode24 (Nat.lt_of_le_of_lt hlen hmax), hseq, hpos, halg, hinv]
  · -- a frame sent as it is, with 0 as its second length
    have hzero : decode24 0 0 0 = 0 := rfl
    simp [readConn, hin, frameHeader, encode24, decode24_encode24 hfits, hseq, hzero]

/-! ### Incompressible buffers -/

/-- A lossless compressor whose streams start with a fixed nonempty magic, as zlib's
`0x78 0x9c` and zstd's `28 b5 2f fd` do, makes some buffer of `maxCompressedSize`
bytes compress to `2 ^ 24` bytes or more.  `Write` buffers it as it is, and
`Flush` writes its compressed length modulo `2 ^ 24` into the three-byte field:
the frame announces fewer bytes than follow it. -/
theorem flush_compressedLength_wraps
    (hinv : ∀ algorithm data, codec.uncompress algorithm (codec.compress algorithm data) = some data)
    (crw : CompressedReadWriter)
    (hempty : crw.writeBuffer = [])
    (magic : List UInt8)
    (hmagic : magic ≠ [])
    (hstart : ∀ data, magic <+: codec.compress crw.algorithm data) :
    ∃ data : List UInt8, data.length = maxCompressedSize ∧
      2 ^ 24 ≤ (codec.compress crw.algorithm data).length ∧
      (Flush codec (Write codec crw data)).rw.output =
        crw.rw.output ++ frameHeader (codec.compress crw.algorithm data).length crw.sequence
          maxCompressedSize ++ codec.compress crw.algorithm data ∧
      decode24 (UInt8.ofNat (codec.compress crw.algorithm data).length)
          (UInt8.ofNat ((codec.compress crw.algorithm data).length >>> 8))
          (UInt8.ofNat ((codec.compress crw.algorithm data).length >>> 16)) ≠
        (codec.compress crw.algorithm data).length := by
  have hinj : Function.Injective (codec.compress crw.algorithm) := by
    intro x y hxy
    have hx := hinv crw.algorithm x
    rw [hxy, hinv crw.algorithm y] at hx
    exact (Option.some.inj hx).symm
  have hcard : 2 ≤ Fintype.card UInt8 := Fintype.one_lt_card_iff.mpr ⟨0, 1, by decide⟩
  obtain ⟨data, hlen, hlong⟩ :=
    Codes.exists_length_lt_of_injective hcard hinj hmagic hstart maxCompressedSize
  have hbig : 2 ^ 24 ≤ (codec.compress crw.algorithm data).length := by
    unfold maxCompressedSize at hlong
    omega
  have hwrite : Write codec crw data = { crw with writeBuffer := data } := by
    rw [write_eq_of_le codec crw data (by rw [hempty, hlen]; simp), hempty, List.nil_append]
  have hne : data ≠ [] := by
    intro h
    rw [h] at hlen
    unfold maxCompressedSize at hlen
    simp at hlen
  have hcomp : minCompressSize ≤ data.length := by
    rw [hlen]
    unfold minCompressSize maxCompressedSize
    omega
  refine ⟨data, hlen, hbig, ?_, ?_⟩
  · rw [hwrite, flush_eq codec _ hne]
    simp only [framePayload, if_pos hcomp]
    simp [hlen, List.append_assoc]
  · rw [decode24_encode24_mod]
    intro heq
    have := Nat.mod_lt (codec.compress crw.algorithm data).length (Nat.two_pow_pos 24)
    omega

/-- A codec that writes a one-byte magic and then the data as it is: lossless, with
a fixed magic, so the result above applies to it. -/
def storedCodec : Codec where
  compress _ data := 0x78 :: data
  uncompress _ out := if out.head? = some 0x78 then some out.tail else none

theorem flush_compressedLength_wraps_stored :
    ∃ data : List UInt8, data.length = maxCompressedSize ∧
      2 ^ 24 ≤ (storedCodec.compress .CompressionZlib data).length ∧
      (Flush storedCodec (Write storedCodec ⟨⟨[], [], 0, 0, 0⟩, [], [], .CompressionZlib, .rwNone, 0⟩
          data)).rw.output =
        [] ++ frameHeader (storedCodec.compress .CompressionZlib data).length 0
          maxCompressedSize ++ storedCodec.compress .CompressionZlib data ∧
      decode24 (UInt8.ofNat (storedCodec.compress .CompressionZlib data).length)
          (UInt8.ofNat ((storedCodec.compress .CompressionZlib data).length >>> 8))
          (UInt8.ofNat ((storedCodec.compress .CompressionZlib data).length >>> 16)) ≠
        (storedCodec.compress .CompressionZlib data).length :=
  flush_compressedLength_wraps storedCodec (fun _ _ => rfl)
    ⟨⟨[], [], 0, 0, 0⟩, [], [], .CompressionZlib, .rwNone, 0⟩ rfl [0x78] (by simp)
    (fun data => ⟨data, rfl⟩)

end CompressedReadWriter

end Net
end TiProxy
