import TiProxy.Net.Packet

/-!
# Forwarding a response packet by packet

A model of `packetIO.ForwardUntil` (`pkg/proxy/net/packetio.go`): the relay of a
backend response to the client up to the first logical packet that `isEnd` marks as
the last one.  `isEnd` sees the first payload byte and the length of the first
physical packet, peeked from the source's buffer.

Two paths forward a logical packet.  The slow one reads it with `ReadPacket` and
writes it with `WritePacket`; it is taken for the last packet when the caller needs
its data, and always when the destination is not a `packetIO` (`direct` false).  The
fast one copies each physical packet, header included, through `ReadFrom` over a
`LimitedReader` of `length + 4` bytes, and advances both sequence counters by hand.

`ForwardUntil` returns what `process` receives: the payload of the last packet, or
`none` for Go's `nil`.  The caller's `process` then runs on it.

**Results.**
* `relayPackets_frameBytes`: the fast path on the frames of a payload copies them
  and leaves the source where `ReadPacket` leaves it.
* `forwardPacket_frames`: one iteration of `ForwardUntil` on a nonempty message
  framed from the destination's counter does what reading and writing it does.
* `forwardUntil_eq_forwardByPackets`: `ForwardUntil` is the plain loop of
  `ReadPacket` and `WritePacket` on such a stream, and both end as a reader and a
  writer of the messages end.
* `forwardUntil_emptyPacket`: on a stream that ends with an empty packet the peek
  of five bytes fails where the plain loop forwards the packet.
-/

namespace TiProxy
namespace Net

open LittleEndian

/-- `Peek`: the next `n` bytes, not consumed; an error when fewer are left. -/
def Peek
    (p : PacketIO)
    (n : Nat) : Option (List UInt8) :=
  if n ≤ p.input.length then some (p.input.take n) else none

/-- The length field of a peeked header. -/
def headerLength
    (header : List UInt8) : Nat :=
  decode24 (header.getD 0 0) (header.getD 1 0) (header.getD 2 0)

/-- `dest.readWriter.ReadFrom(&p.limitReader)` with `N = n`: copy up to `n` bytes of
the source; running out of source bytes ends the copy without an error. -/
def relayBytes
    (src dest : PacketIO)
    (n : Nat) : PacketIO × PacketIO :=
  let k := min n src.input.length
  ({ src with input := src.input.drop k, inBytes := src.inBytes + k },
    { dest with output := dest.output ++ src.input.take k, outBytes := dest.outBytes + k })

/-- The inner loop of the fast path: relay physical packets as they are, and peek at
the next header while they are full. -/
def relayPackets :
    Nat → List UInt8 → Nat → PacketIO → PacketIO → Except PacketError (Prod PacketIO PacketIO)
  | 0, _, _, _, _ => .error .errReadConn
  | fuel + 1, header, length, src, dest =>
      let src := { src with sequence := header.getD 3 0 + 1 }
      let dest := { dest with sequence := dest.sequence + 1 }
      let (src, dest) := relayBytes src dest (length + 4)
      let src := { src with inPackets := src.inPackets + 1 }
      let dest := { dest with outPackets := dest.outPackets + 1 }
      if length < MaxPayloadLen then
        .ok (src, dest)
      else
        match Peek src 4 with
        | none => .error .errReadConn
        | some header => relayPackets fuel header (headerLength header) src dest

/-- One iteration of the loop of `ForwardUntil`: whether the packet is the last, what
`process` would receive, and both ends after forwarding it. -/
def forwardPacket
    (direct : Bool)
    (isEnd : UInt8 → Nat → Bool × Bool)
    (src dest : PacketIO) : Except PacketError (Bool × Option (List UInt8) × PacketIO × PacketIO) :=
  match Peek src 5 with
  | none => .error .errReadConn
  | some header =>
      let length := headerLength header
      let («end», needData) := isEnd (header.getD 4 0) length
      if («end» && needData) || !direct then
        match ReadPacket src with
        | .error err => .error err
        | .ok (data, src) => .ok («end», some data, src, WritePacket dest data)
      else
        match relayPackets (src.input.length + 1) header length src dest with
        | .error err => .error err
        | .ok (src, dest) => .ok («end», none, src, dest)

/-- The loop of `ForwardUntil`. -/
def forwardLoop
    (direct : Bool)
    (isEnd : UInt8 → Nat → Bool × Bool) :
    Nat → PacketIO → PacketIO → Except PacketError (Option (List UInt8) × PacketIO × PacketIO)
  | 0, _, _ => .error .errReadConn
  | fuel + 1, src, dest =>
      match forwardPacket direct isEnd src dest with
      | .error err => .error err
      | .ok («end», data, src, dest) =>
          if «end» then .ok (data, src, dest) else forwardLoop direct isEnd fuel src dest

/-- `ForwardUntil`: forward logical packets from `p` to `dest` up to the first one
`isEnd` marks; `direct` says that `dest` is a `packetIO`. -/
def ForwardUntil
    (p dest : PacketIO)
    (direct : Bool)
    (isEnd : UInt8 → Nat → Bool × Bool) :
    Except PacketError (Option (List UInt8) × PacketIO × PacketIO) :=
  forwardLoop direct isEnd (p.input.length + 1) p dest

/-! ### The plain loop -/

/-- `data := src.ReadPacket(); dest.WritePacket(data)`, with `isEnd` asked about the
first byte and the first physical packet's length of `data`. -/
def copyPacket
    (isEnd : UInt8 → Nat → Bool × Bool)
    (src dest : PacketIO) : Except PacketError (Bool × Option (List UInt8) × PacketIO × PacketIO) :=
  match ReadPacket src with
  | .error err => .error err
  | .ok (data, src) =>
      let («end», needData) := isEnd (data.headD 0) (min data.length MaxPayloadLen)
      .ok («end», if needData then some data else none, src, WritePacket dest data)

/-- The plain loop, up to and including the first packet `isEnd` marks. -/
def forwardByPackets
    (isEnd : UInt8 → Nat → Bool × Bool) :
    Nat → PacketIO → PacketIO → Except PacketError (Option (List UInt8) × PacketIO × PacketIO)
  | 0, _, _ => .error .errReadConn
  | fuel + 1, src, dest =>
      match copyPacket isEnd src dest with
      | .error err => .error err
      | .ok («end», data, src, dest) =>
          if «end» then .ok (data, src, dest) else forwardByPackets isEnd fuel src dest

/-- The plain loop with the fuel `ForwardUntil` gets. -/
def forwardUntilSpec
    (p dest : PacketIO)
    (isEnd : UInt8 → Nat → Bool × Bool) :
    Except PacketError (Option (List UInt8) × PacketIO × PacketIO) :=
  forwardByPackets isEnd (p.input.length + 1) p dest

/-! ### Peeking at frames -/

theorem peek_of_le
    {p : PacketIO}
    {n : Nat}
    (h : n ≤ p.input.length) :
    Peek p n = some (p.input.take n) := by
  simp [Peek, h]

/-- `ReadFrom` with enough source bytes copies exactly `n` of them. -/
theorem relayBytes_append
    (src dest : PacketIO)
    {xs more : List UInt8}
    (hin : src.input = xs ++ more) :
    relayBytes src dest xs.length =
      ({ src with input := more, inBytes := src.inBytes + xs.length },
        { dest with output := dest.output ++ xs, outBytes := dest.outBytes + xs.length }) := by
  simp [relayBytes, hin]

/-- The length field of a header is the length it encodes. -/
theorem headerLength_encode24
    {n : Nat}
    (hn : n < 2 ^ 24)
    (xs : List UInt8) :
    headerLength (encode24 n ++ xs) = n := by
  simp [headerLength, encode24, decode24_encode24 hn]

/-- The length of the first physical packet of a payload. -/
theorem min_maxPayloadLen_lt
    (data : List UInt8) :
    min data.length MaxPayloadLen < 2 ^ 24 :=
  Nat.lt_of_le_of_lt (Nat.min_le_right _ _) maxPayloadLen_lt

/-- The first frame of a payload carries `min len MaxPayloadLen` bytes of it. -/
theorem frameBytes_chunksAux_head
    (s : UInt8)
    (data : List UInt8)
    {k : Nat}
    (hk : data.length / MaxPayloadLen = k) :
    frameBytes s (chunksAux k data) =
      encode24 (min data.length MaxPayloadLen) ++ [s] ++
        data.take (min data.length MaxPayloadLen) ++ frameBytes (s + 1) (chunksAux k data).tail := by
  cases k with
  | zero =>
      have hlt := lt_of_div_maxPayloadLen_eq_zero hk
      simp [chunksAux, Nat.min_eq_left (Nat.le_of_lt hlt)]
  | succ k =>
      obtain ⟨hge, _⟩ := div_maxPayloadLen_sub hk
      simp [chunksAux, hge]

/-- At the frames of a payload, the four header bytes are there to peek. -/
theorem peek_frames
    (src : PacketIO)
    {data rest : List UInt8}
    {s : UInt8}
    {k : Nat}
    (hk : data.length / MaxPayloadLen = k)
    (hin : src.input = frameBytes s (chunksAux k data) ++ rest) :
    Peek src 4 = some (encode24 (min data.length MaxPayloadLen) ++ [s]) := by
  rw [frameBytes_chunksAux_head s data hk] at hin
  rw [peek_of_le (by simp [hin, encode24])]
  simp [hin, encode24]

/-- At the frames of a nonempty payload, the five bytes `isEnd` needs are there to
peek, the fifth being the payload's first byte. -/
theorem peek_five_frames
    (src : PacketIO)
    {data rest : List UInt8}
    {s : UInt8}
    {k : Nat}
    (hne : data ≠ [])
    (hk : data.length / MaxPayloadLen = k)
    (hin : src.input = frameBytes s (chunksAux k data) ++ rest) :
    Peek src 5 = some (encode24 (min data.length MaxPayloadLen) ++ [s, data.headD 0]) := by
  obtain ⟨b, bs, rfl⟩ := List.exists_cons_of_ne_nil hne
  have hpos : 0 < min (b :: bs).length MaxPayloadLen :=
    Nat.lt_min.mpr ⟨by simp, maxPayloadLen_pos⟩
  rw [frameBytes_chunksAux_head s _ hk] at hin
  generalize min (b :: bs).length MaxPayloadLen = L at hin hpos ⊢
  obtain ⟨l, rfl⟩ : ∃ l, L = l + 1 := ⟨L - 1, by omega⟩
  rw [peek_of_le (by simp [hin, encode24])]
  simp [hin, encode24]

/-! ### The fast path -/

/-- The fast path on the frames of a payload copies them to the destination and
leaves the source where `ReadPacket` leaves it; the destination's counter advances
once per frame. -/
theorem relayPackets_frameBytes
    (rest : List UInt8)
    (k : Nat) :
    ∀ (fuel : Nat) (header data : List UInt8) (s : UInt8) (src dest : PacketIO),
      data.length / MaxPayloadLen = k → k < fuel → header.getD 3 0 = s →
        src.input = frameBytes s (chunksAux k data) ++ rest →
          relayPackets fuel header (min data.length MaxPayloadLen) src dest =
            .ok ({ src with
                  input := rest
                  sequence := s + UInt8.ofNat (k + 1)
                  inBytes := src.inBytes + 4 * (k + 1) + data.length
                  inPackets := src.inPackets + (k + 1) },
              { dest with
                sequence := dest.sequence + UInt8.ofNat (k + 1)
                output := dest.output ++ frameBytes s (chunksAux k data)
                outBytes := dest.outBytes + 4 * (k + 1) + data.length
                outPackets := dest.outPackets + (k + 1) }) := by
  induction k with
  | zero =>
      intro fuel header data s src dest hk hfuel hseq hin
      obtain ⟨fuel, rfl⟩ : ∃ f, fuel = f + 1 := ⟨fuel - 1, by omega⟩
      have hlt := lt_of_div_maxPayloadLen_eq_zero hk
      have hmin : min data.length MaxPayloadLen = data.length := Nat.min_eq_left (Nat.le_of_lt hlt)
      have hframe : (encode24 data.length ++ [s] ++ data).length = data.length + 4 := by
        simp [encode24]
      have hin' : src.input = (encode24 data.length ++ [s] ++ data) ++ rest := by
        simpa [chunksAux] using hin
      simp only [relayPackets, hmin, hseq]
      rw [← hframe, relayBytes_append { src with sequence := s + 1 } _ hin', hframe]
      simp [hlt, chunksAux]
      omega
  | succ k ih =>
      intro fuel header data s src dest hk hfuel hseq hin
      obtain ⟨fuel, rfl⟩ : ∃ f, fuel = f + 1 := ⟨fuel - 1, by omega⟩
      obtain ⟨hge, hk'⟩ := div_maxPayloadLen_sub hk
      rw [← List.length_drop] at hk'
      have hmin : min data.length MaxPayloadLen = MaxPayloadLen := Nat.min_eq_right hge
      have hlen : (data.take MaxPayloadLen).length = MaxPayloadLen := by
        simp [hge]
      have hframe : (encode24 MaxPayloadLen ++ [s] ++ data.take MaxPayloadLen).length =
          MaxPayloadLen + 4 := by
        simp [encode24, hge]
      have hin' : src.input = (encode24 MaxPayloadLen ++ [s] ++ data.take MaxPayloadLen) ++
          (frameBytes (s + 1) (chunksAux k (data.drop MaxPayloadLen)) ++ rest) := by
        simpa [chunksAux, hlen] using hin
      -- after the full frame the source is at the frames of the rest of the payload
      let src₁ : PacketIO :=
        { src with
          input := frameBytes (s + 1) (chunksAux k (data.drop MaxPayloadLen)) ++ rest
          sequence := s + 1
          inBytes := src.inBytes + (MaxPayloadLen + 4)
          inPackets := src.inPackets + 1 }
      have hpeek := peek_frames src₁ hk' rfl
      simp only [relayPackets, hmin, hseq]
      rw [← hframe, relayBytes_append { src with sequence := s + 1 } _ hin', hframe]
      simp only [Nat.lt_irrefl, if_false]
      rw [show Peek _ 4 = Peek src₁ 4 from rfl, hpeek]
      dsimp only
      rw [headerLength_encode24 (min_maxPayloadLen_lt _)]
      rw [ih fuel _ (data.drop MaxPayloadLen) (s + 1) src₁ _ hk' (by omega) (by simp [encode24]) rfl]
      simp only [src₁, chunksAux, frameBytes_cons, hlen, seq_succ_add, List.append_assoc,
        Except.ok.injEq, Prod.mk.injEq, PacketIO.mk.injEq, List.length_drop, true_and, and_true]
      omega

/-! ### One logical packet -/

section Step

variable (isEnd : UInt8 → Nat → Bool × Bool)

/-- The plain loop's step on the packet `ReadPacket` returns. -/
theorem copyPacket_of_readPacket
    {src src₁ : PacketIO}
    (dest : PacketIO)
    {data : List UInt8}
    (hread : ReadPacket src = .ok (data, src₁)) :
    copyPacket isEnd src dest =
      .ok ((isEnd (data.headD 0) (min data.length MaxPayloadLen)).1,
        (if (isEnd (data.headD 0) (min data.length MaxPayloadLen)).2 then some data else none),
        src₁, WritePacket dest data) := by
  simp [copyPacket, hread]

/-- One iteration of `ForwardUntil` on a nonempty message whose frames are numbered
from the destination's counter reads and writes it as the plain loop does, on
whichever path `isEnd` chooses; `process` gets the data only on the slow path. -/
theorem forwardPacket_frames
    {src src₁ : PacketIO}
    (dest : PacketIO)
    {m rest : List UInt8}
    (hne : m ≠ [])
    (hin : src.input = frameBytes dest.sequence (chunks m) ++ rest)
    (hread : ReadPacket src = .ok (m, src₁)) :
    forwardPacket true isEnd src dest =
      .ok ((isEnd (m.headD 0) (min m.length MaxPayloadLen)).1,
        (if (isEnd (m.headD 0) (min m.length MaxPayloadLen)).1 &&
            (isEnd (m.headD 0) (min m.length MaxPayloadLen)).2 then some m else none),
        src₁, WritePacket dest m) := by
  have hpeek := peek_five_frames src hne rfl hin
  -- the fast path leaves the source where reading leaves it
  have hrelay := relayPackets_frameBytes rest _ (src.input.length + 1)
    (encode24 (min m.length MaxPayloadLen) ++ [dest.sequence, m.headD 0]) m dest.sequence src dest
    rfl (div_lt_of_input_frames hin) (by simp [encode24]) hin
  have hsrc₁ := hread.symm.trans (readPacket_frameBytes src m rest dest.sequence hin)
  simp only [Except.ok.injEq, Prod.mk.injEq, true_and] at hsrc₁
  unfold forwardPacket
  rw [hpeek]
  dsimp only
  rw [headerLength_encode24 (min_maxPayloadLen_lt m)]
  have hfirst : (encode24 (min m.length MaxPayloadLen) ++ [dest.sequence, m.headD 0]).getD 4 0 =
      m.headD 0 := by
    simp [encode24]
  rw [hfirst]
  rcases isEnd (m.headD 0) (min m.length MaxPayloadLen) with ⟨e, needData⟩
  cases e <;> cases needData
  case true.true =>
    simp [hread]
  all_goals
    simp only [Bool.and_true, Bool.and_false, Bool.not_true, Bool.or_false, Bool.false_eq_true,
      if_false, hrelay, hsrc₁, writePacket_eq]
    rfl

end Step

/-! ### Whole responses -/

section Run

variable (isEnd : UInt8 → Nat → Bool × Bool)

/-- The hypotheses of the run lemmas: every message before the last is nonempty and
not an end. -/
def PrefixMessages
    (pre : List (List UInt8)) : Prop :=
  ∀ m ∈ pre, m ≠ [] ∧ (isEnd (m.headD 0) (min m.length MaxPayloadLen)).1 = false

section

variable {isEnd}
variable {last rest : List UInt8}

theorem PrefixMessages.tail
    {m : List UInt8}
    {pre : List (List UInt8)}
    (h : PrefixMessages isEnd (m :: pre)) :
    PrefixMessages isEnd pre :=
  fun m' hm' => h m' (List.mem_cons_of_mem _ hm')

/-- `ForwardUntil`'s loop on a stream of messages framed from the destination's
counter, up to the first end: the source ends as a reader of the messages does, the
destination as a writer of them. -/
theorem forwardLoop_messages
    (hlast : last ≠ [])
    (hend : (isEnd (last.headD 0) (min last.length MaxPayloadLen)).1 = true)
    (pre : List (List UInt8)) :
    ∀ (fuel : Nat) (src dest : PacketIO), pre.length < fuel → PrefixMessages isEnd pre →
      src.input = messageBytes dest.sequence (pre ++ [last]) ++ rest →
        ∃ src', readPackets (pre.length + 1) src = .ok (pre ++ [last], src') ∧
          forwardLoop true isEnd fuel src dest =
            .ok ((if (isEnd (last.headD 0) (min last.length MaxPayloadLen)).2 then some last
                else none), src', writePackets dest (pre ++ [last])) := by
  induction pre with
  | nil =>
      intro fuel src dest hfuel _ hin
      obtain ⟨fuel, rfl⟩ : ∃ f, fuel = f + 1 := ⟨fuel - 1, by omega⟩
      simp only [List.nil_append, messageBytes, List.append_nil] at hin
      obtain ⟨src₁, hread, -, -⟩ := exists_readPacket_frameBytes src hin
      refine ⟨src₁, readPackets_succ_of_readPacket hread rfl, ?_⟩
      rw [forwardLoop, forwardPacket_frames isEnd dest hlast hin hread, hend]
      simp [writePackets]
  | cons m pre ih =>
      intro fuel src dest hfuel hpre hin
      obtain ⟨fuel, rfl⟩ : ∃ f, fuel = f + 1 := ⟨fuel - 1, by omega⟩
      obtain ⟨hne, hnot⟩ := hpre m List.mem_cons_self
      rw [List.cons_append, messageBytes, List.append_assoc] at hin
      obtain ⟨src₁, hread, hinput, -⟩ := exists_readPacket_frameBytes src hin
      obtain ⟨src', hreads, hloop⟩ := ih fuel src₁ (WritePacket dest m) (by simpa using hfuel)
        hpre.tail (by rw [hinput, writePacket_eq])
      refine ⟨src', readPackets_succ_of_readPacket hread hreads, ?_⟩
      rw [forwardLoop, forwardPacket_frames isEnd dest hne hin hread, hnot]
      simpa using hloop

/-- The plain loop on the same stream ends in the same states. -/
theorem forwardByPackets_messages
    (hend : (isEnd (last.headD 0) (min last.length MaxPayloadLen)).1 = true)
    (pre : List (List UInt8)) :
    ∀ (fuel : Nat) (src dest : PacketIO), pre.length < fuel → PrefixMessages isEnd pre →
      src.input = messageBytes dest.sequence (pre ++ [last]) ++ rest →
        ∃ src', readPackets (pre.length + 1) src = .ok (pre ++ [last], src') ∧
          forwardByPackets isEnd fuel src dest =
            .ok ((if (isEnd (last.headD 0) (min last.length MaxPayloadLen)).2 then some last
                else none), src', writePackets dest (pre ++ [last])) := by
  induction pre with
  | nil =>
      intro fuel src dest hfuel _ hin
      obtain ⟨fuel, rfl⟩ : ∃ f, fuel = f + 1 := ⟨fuel - 1, by omega⟩
      simp only [List.nil_append, messageBytes, List.append_nil] at hin
      obtain ⟨src₁, hread, -, -⟩ := exists_readPacket_frameBytes src hin
      refine ⟨src₁, readPackets_succ_of_readPacket hread rfl, ?_⟩
      rw [forwardByPackets, copyPacket_of_readPacket isEnd dest hread, hend]
      simp [writePackets]
  | cons m pre ih =>
      intro fuel src dest hfuel hpre hin
      obtain ⟨fuel, rfl⟩ : ∃ f, fuel = f + 1 := ⟨fuel - 1, by omega⟩
      have hnot := (hpre m List.mem_cons_self).2
      rw [List.cons_append, messageBytes, List.append_assoc] at hin
      obtain ⟨src₁, hread, hinput, -⟩ := exists_readPacket_frameBytes src hin
      obtain ⟨src', hreads, hloop⟩ := ih fuel src₁ (WritePacket dest m) (by simpa using hfuel)
        hpre.tail (by rw [hinput, writePacket_eq])
      refine ⟨src', readPackets_succ_of_readPacket hread hreads, ?_⟩
      rw [forwardByPackets, copyPacket_of_readPacket isEnd dest hread, hnot]
      simpa using hloop

end

end Run

/-! ### ForwardUntil and the plain loop -/

/-- On a stream of nonempty messages framed as `WritePacket` frames them, numbered on
from the destination's counter, whose last message is the first that `isEnd` marks,
`ForwardUntil` to a `packetIO` gives what the plain loop gives: the same argument
for `process`, the source at the rest of the stream with a reader's counters, and
the destination with a writer's bytes and counters. -/
theorem forwardUntil_eq_forwardByPackets
    (isEnd : UInt8 → Nat → Bool × Bool)
    (src dest : PacketIO)
    (pre : List (List UInt8))
    (last rest : List UInt8)
    (hpre : ∀ m ∈ pre, m ≠ [] ∧ (isEnd (m.headD 0) (min m.length MaxPayloadLen)).1 = false)
    (hlast : last ≠ [])
    (hend : (isEnd (last.headD 0) (min last.length MaxPayloadLen)).1 = true)
    (hin : src.input = messageBytes dest.sequence (pre ++ [last]) ++ rest) :
    ForwardUntil src dest true isEnd = forwardUntilSpec src dest isEnd ∧
      ∃ src', readPackets (pre.length + 1) src = .ok (pre ++ [last], src') ∧
        forwardUntilSpec src dest isEnd =
          .ok ((if (isEnd (last.headD 0) (min last.length MaxPayloadLen)).2 then some last
              else none), src', writePackets dest (pre ++ [last])) := by
  have hfuel : pre.length < src.input.length + 1 := by
    have hlen := length_le_length_messageBytes (pre ++ [last]) dest.sequence
    rw [hin, List.length_append]
    simp only [List.length_append, List.length_singleton] at hlen
    omega
  obtain ⟨src', hreads, hloop⟩ := forwardLoop_messages hlast hend pre _ src dest hfuel hpre hin
  obtain ⟨src'', hreads', hplain⟩ := forwardByPackets_messages hend pre _ src dest hfuel hpre hin
  -- both loops end where the reader of the messages ends
  have hsame : src'' = src' := by
    rw [hreads] at hreads'
    simp only [Except.ok.injEq, Prod.mk.injEq, true_and] at hreads'
    exact hreads'.symm
  subst hsame
  exact ⟨hloop.trans hplain.symm, src'', hreads', hplain⟩

/-- A one-byte reply followed by an EOF packet, forwarded with counters in step. -/
theorem forwardUntil_eq_forwardByPackets_eof :
    (∀ m ∈ [[(3 : UInt8)]], m ≠ [] ∧ ((fun b (_ : Nat) => (b == 254, true)) (m.headD 0)
        (min m.length MaxPayloadLen)).1 = false) ∧
      [(254 : UInt8)] ≠ [] ∧
      ((fun b (_ : Nat) => (b == 254, true)) ([(254 : UInt8)].headD 0)
        (min [(254 : UInt8)].length MaxPayloadLen)).1 = true ∧
      ({ input := [1, 0, 0, 1, 3, 1, 0, 0, 2, 254], output := [], sequence := 1, inBytes := 0,
          outBytes := 0, inPackets := 0, outPackets := 0 } : PacketIO).input =
        messageBytes 1 ([[3]] ++ [[254]]) ++ [] ∧
      ForwardUntil ⟨[1, 0, 0, 1, 3, 1, 0, 0, 2, 254], [], 1, 0, 0, 0, 0⟩ ⟨[], [], 1, 0, 0, 0, 0⟩ true
          (fun b _ => (b == 254, true)) =
        forwardUntilSpec ⟨[1, 0, 0, 1, 3, 1, 0, 0, 2, 254], [], 1, 0, 0, 0, 0⟩
          ⟨[], [], 1, 0, 0, 0, 0⟩ (fun b _ => (b == 254, true)) :=
  ⟨by decide, by decide, by decide, by decide,
    (forwardUntil_eq_forwardByPackets (fun b _ => (b == 254, true))
      ⟨[1, 0, 0, 1, 3, 1, 0, 0, 2, 254], [], 1, 0, 0, 0, 0⟩ ⟨[], [], 1, 0, 0, 0, 0⟩ [[3]] [254] []
      (by decide) (by decide) (by decide) (by decide)).1⟩

/-- A stream of one empty packet, framed as `WritePacket` frames the empty message
with both counters at 0: the peek of five bytes fails, while the plain loop forwards
the packet. -/
theorem forwardUntil_emptyPacket :
    messageBytes 0 [[]] = [0, 0, 0, 0] ∧
      ForwardUntil ⟨[0, 0, 0, 0], [], 0, 0, 0, 0, 0⟩ ⟨[], [], 0, 0, 0, 0, 0⟩ true
          (fun _ _ => (true, false)) = .error .errReadConn ∧
      forwardUntilSpec ⟨[0, 0, 0, 0], [], 0, 0, 0, 0, 0⟩ ⟨[], [], 0, 0, 0, 0, 0⟩
          (fun _ _ => (true, false)) =
        .ok (none, ⟨[], [], 1, 4, 0, 1, 0⟩, ⟨[], [0, 0, 0, 0], 1, 0, 4, 0, 1⟩) := by
  decide

end Net
end TiProxy
