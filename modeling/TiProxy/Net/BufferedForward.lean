import TiProxy.Net.BufferedPacket

/-!
# `ForwardUntil` over buffered connections

`packetIO.ForwardUntil` (`pkg/proxy/net/packetio.go`) on two `packetIO`s over
`basicReadWriter`s: the five-byte peek, the slow path through `ReadPacket` and
`WritePacket`, and the fast path that relays each physical packet by `ReadFrom` over a
`LimitedReader` of the source.

The packet layer's model of it, `Net.ForwardUntil`, runs its loops on fuel it takes from
the bytes still to be read.  The first section shows that this fuel is never used up: any
more gives the same result.  The code's loops here take one fuel for all of them.

**Results.**
* `readPacketLoop_fuel_stable`, `relayPackets_fuel_stable`: more fuel than bytes to read
  changes nothing in the model's loops.
* `relayPackets_view`, `forwardPacket_view`, `forwardLoop_view`: each loop of the code
  either fails with `ErrRelayConn`, which the relay does exactly when the source ends inside
  a packet, or is the model's.
* `ForwardUntil_view`: so is `ForwardUntil`.
* `relayPackets_whole`, `forwardPacket_whole`: over a source from which the model reads the
  next logical packet whole, the relay never fails.
* `ForwardUntil_messages`: on a stream of framed messages, `ForwardUntil` over buffered
  connections forwards them as reading and writing them one by one does.
-/

namespace TiProxy
namespace Net

open GoIO Bufio LittleEndian

/-! ### The model's fuel -/

section Fuel

/-- The length field of a header is in its first three bytes. -/
theorem headerLength_take
    (xs : List UInt8)
    {n : Nat}
    (hn : 3 ≤ n) :
    headerLength (xs.take n) = headerLength xs := by
  simp only [headerLength, List.getD_eq_getElem?_getD, List.getElem?_take,
    show 0 < n by omega, show 1 < n by omega, show 2 < n by omega, ↓reduceIte]

/-- What a physical packet that is read takes: the header, whose length field says how
many bytes follow it, and those bytes, all of them there; the packet is full when the field
is `MaxPayloadLen`. -/
theorem readOnePacket_ok
    (p : PacketIO)
    (r : List UInt8 × Bool × PacketIO)
    (h : readOnePacket p = .ok r) :
    headerLength p.input + 4 ≤ p.input.length ∧
      r.2.2.input = p.input.drop (headerLength p.input + 4) ∧
      r.2.1 = (headerLength p.input == MaxPayloadLen) := by
  obtain ⟨input, output, sequence, inBytes, outBytes, inPackets, outPackets⟩ := p
  rcases input with _ | ⟨h0, _ | ⟨h1, _ | ⟨h2, _ | ⟨s, more⟩⟩⟩⟩
  case cons.cons.cons.cons =>
    have hlen : headerLength (h0 :: h1 :: h2 :: s :: more) = decode24 h0 h1 h2 := rfl
    simp only [readOnePacket, ReadFull, List.length_cons, List.take_succ_cons, List.take_zero,
      List.drop_succ_cons, List.drop_zero, show 4 ≤ more.length + 1 + 1 + 1 + 1 by omega,
      ↓reduceIte] at h
    dsimp only
    rw [hlen]
    by_cases hle : decode24 h0 h1 h2 ≤ more.length
    · simp only [hle, ↓reduceIte] at h
      cases h
      refine ⟨?_, rfl, rfl⟩
      simp only [List.length_cons]
      omega
    · simp only [hle, ↓reduceIte] at h
      cases h
  -- a stream of fewer than four bytes has no header
  all_goals simp [readOnePacket, ReadFull] at h

/-- A physical packet takes its header and its payload from what is still to be read. -/
theorem length_readOnePacket
    (p : PacketIO)
    (r : List UInt8 × Bool × PacketIO)
    (h : readOnePacket p = .ok r) :
    r.2.2.input.length + 4 ≤ p.input.length := by
  obtain ⟨hlen, hin, -⟩ := readOnePacket_ok p r h
  rw [hin, List.length_drop]
  omega

/-- More rounds than bytes still to be read are never used up by `ReadPacket`'s loop. -/
theorem readPacketLoop_fuel_stable
    (fuel extra : Nat)
    (data : List UInt8)
    (p : PacketIO)
    (hfuel : p.input.length < fuel) :
    readPacketLoop (fuel + extra) data p = readPacketLoop fuel data p := by
  -- induction on the fuel: each round reads a header, so the bound stays below the fuel
  induction fuel generalizing data p with
  | zero => omega
  | succ fuel ih =>
    rw [Nat.succ_add, readPacketLoop, readPacketLoop]
    cases h : readOnePacket p with
    | error err => rfl
    | ok r =>
      obtain ⟨buf, more, p'⟩ := r
      have hlen := length_readOnePacket p _ h
      dsimp only at hlen ⊢
      cases more with
      | false => rfl
      | true => exact ih _ _ (by omega)

theorem Peek_input
    (p : PacketIO)
    (n : Nat)
    (header : List UInt8)
    (h : Peek p n = some header) :
    n ≤ p.input.length ∧ header = p.input.take n := by
  unfold Peek at h
  split at h
  · cases h
    exact ⟨by assumption, rfl⟩
  · cases h

/-- More rounds than bytes still to be read are never used up by the fast path's loop:
a round goes on only after a whole packet was relayed and the next header peeked. -/
theorem relayPackets_fuel_stable
    (fuel extra : Nat)
    (header : List UInt8)
    (length : Nat)
    (src dest : PacketIO)
    (hfuel : src.input.length < fuel) :
    relayPackets (fuel + extra) header length src dest =
      relayPackets fuel header length src dest := by
  induction fuel generalizing header length src dest with
  | zero => omega
  | succ fuel ih =>
    rw [Nat.succ_add, relayPackets, relayPackets]
    simp only [relayBytes]
    split
    · rfl
    · split
      · rfl
      · rename_i header' hpeek
        have hle := (Peek_input _ 4 header' hpeek).1
        simp only [List.length_drop] at hle
        exact ih _ _ _ _ (by simp only [List.length_drop]; omega)

end Fuel


/-! ### The code -/

namespace Buffered
namespace PacketConn

variable {σ τ σ' τ' : Type}

section Forward

variable (read : σ → (k : Nat) → Chunk k × σ) (write : τ' → (p : List UInt8) → Written p × τ')

/-- The inner loop of the fast path: set both sequence counters by hand, relay the physical
packet whole, header included, by `dest.readWriter.ReadFrom(&p.limitReader)` with
`N = length + 4`, and peek at the next header while the packets are full. -/
def relayPackets :
    Nat → List UInt8 → Nat → PacketConn σ τ → PacketConn σ' τ' →
      Except PacketError (PacketConn σ τ × PacketConn σ' τ')
  | 0, _, _, _, _ => .error .errReadConn
  | fuel + 1, header, length, src, dest =>
      let src := { src with readWriter := { src.readWriter with sequence := header.getD 3 0 + 1 } }
      let dest :=
        { dest with readWriter := { dest.readWriter with sequence := dest.readWriter.sequence + 1 } }
      match relay read write src.readWriter dest.readWriter (length + 4) with
      | (some _, _, _) => .error .errRelayConn
      | (none, srw, drw) =>
          let src := { src with readWriter := srw, inPackets := src.inPackets + 1 }
          let dest := { dest with readWriter := drw, outPackets := dest.outPackets + 1 }
          if length < MaxPayloadLen then
            .ok (src, dest)
          else
            match src.readWriter.Peek read 4 with
            | ((_, some _), _) => .error .errReadConn
            | ((header, none), srw) =>
                relayPackets fuel header (headerLength header) { src with readWriter := srw } dest

/-- One iteration of the loop of `ForwardUntil` to a `packetIO`: peek at the next header,
then take the slow path when `isEnd` says the packet is the last and its data is needed,
and the fast path otherwise.  The destination being a `packetIO`, the code's `dest == nil`
never holds here. -/
def forwardPacket
    (fuel : Nat)
    (isEnd : UInt8 → Nat → Bool × Bool)
    (src : PacketConn σ τ)
    (dest : PacketConn σ' τ') :
    Except PacketError (Bool × Option (List UInt8) × PacketConn σ τ × PacketConn σ' τ') :=
  match src.readWriter.Peek read 5 with
  | ((_, some _), _) => .error .errReadConn
  | ((header, none), srw) =>
      let src := { src with readWriter := srw }
      let length := headerLength header
      let («end», needData) := isEnd (header.getD 4 0) length
      if «end» && needData then
        match ReadPacket read src fuel with
        | .error err => .error err
        | .ok (data, src) =>
            match WritePacket write dest data false with
            | .error _ => .error .errWriteConn
            | .ok dest => .ok («end», some data, src, dest)
      else
        match relayPackets read write fuel header length src dest with
        | .error err => .error err
        | .ok (src, dest) => .ok («end», none, src, dest)

/-- The loop of `ForwardUntil`, for `rounds` logical packets at most, each of whose own
loops runs for `fuel` rounds at most. -/
def forwardLoop
    (fuel : Nat)
    (isEnd : UInt8 → Nat → Bool × Bool) :
    Nat → PacketConn σ τ → PacketConn σ' τ' →
      Except PacketError (Option (List UInt8) × PacketConn σ τ × PacketConn σ' τ')
  | 0, _, _ => .error .errReadConn
  | rounds + 1, src, dest =>
      match forwardPacket read write fuel isEnd src dest with
      | .error err => .error err
      | .ok («end», data, src, dest) =>
          if «end» then .ok (data, src, dest) else forwardLoop fuel isEnd rounds src dest

/-- `ForwardUntil` from `src` to the `packetIO` `dest`, with `fuel` rounds for each loop:
what `process` receives, and both ends after it. -/
def ForwardUntil
    (src : PacketConn σ τ)
    (dest : PacketConn σ' τ')
    (isEnd : UInt8 → Nat → Bool × Bool)
    (fuel : Nat) :
    Except PacketError (Option (List UInt8) × PacketConn σ τ × PacketConn σ' τ') :=
  forwardLoop read write fuel isEnd fuel src dest

end Forward

/-- The source as the proofs need it: a settled reader whose buffer holds the five bytes
`ForwardUntil` peeks at.  Every buffer that `NewReaderSize` makes holds sixteen. -/
def Peekable
    (rest : σ → List UInt8)
    (c : PacketConn σ τ) : Prop :=
  Settled rest c ∧ 5 ≤ c.readWriter.reader.buf.length

/-! ### What the loops keep -/

section Keeps

variable {read : σ → (k : Nat) → Chunk k × σ} {write : τ' → (p : List UInt8) → Written p × τ'}
  {Q : Reader σ → Prop}
  (hread : ∀ b k, Q b → Q (b.Read read k).2) (hpeek : ∀ b n, Q b → Q (b.Peek read n).2)
  (hacc : Accepts write)
include hread hpeek hacc

/-- The fast path keeps every invariant of the source's reader that its `Read` and `Peek`
keep, and leaves no error in the destination's writer. -/
theorem keeps_relayPackets
    (fuel : Nat)
    (header : List UInt8)
    (length : Nat)
    (src : PacketConn σ τ)
    (dest : PacketConn σ' τ')
    (hQ : Q src.readWriter.reader)
    (hdest : dest.readWriter.writer.err = none)
    (r : PacketConn σ τ × PacketConn σ' τ')
    (h : relayPackets read write fuel header length src dest = .ok r) :
    Q r.1.readWriter.reader ∧ r.2.readWriter.writer.err = none := by
  induction fuel generalizing header length src dest with
  | zero => cases h
  | succ fuel ih =>
    have hkeep := @keeps_relay _ _ _ _ read write _ (keeps_asReader (τ := τ) hread)
      { src.readWriter with sequence := header.getD 3 0 + 1 }
      { dest.readWriter with sequence := dest.readWriter.sequence + 1 } (length + 4) hQ
    have herr := @err_relay _ _ _ _ read write hacc { src.readWriter with sequence := header.getD 3 0 + 1 }
      { dest.readWriter with sequence := dest.readWriter.sequence + 1 } hdest (length + 4)
    rw [relayPackets] at h
    generalize relay read write { src.readWriter with sequence := header.getD 3 0 + 1 }
      { dest.readWriter with sequence := dest.readWriter.sequence + 1 } (length + 4) = res
      at hkeep herr h
    obtain ⟨err, srw, drw⟩ := res
    cases err with
    | some e => cases h
    | none =>
      dsimp only at h hkeep herr
      split at h
      · cases h
        exact ⟨hkeep, herr⟩
      · have hQ' : Q (srw.Peek read 4).2.reader := hpeek srw.reader 4 hkeep
        generalize srw.Peek read 4 = pk at h hQ'
        obtain ⟨⟨header', perr⟩, srw'⟩ := pk
        cases perr with
        | some e => cases h
        | none => exact ih _ _ _ ⟨drw, dest.inPackets, dest.outPackets + 1⟩ hQ' herr h

/-- So does one iteration of `ForwardUntil`, over a destination that takes everything. -/
theorem keeps_forwardPacket
    {sent : τ' → List UInt8}
    (hw : Sinks write sent)
    (fuel : Nat)
    (isEnd : UInt8 → Nat → Bool × Bool)
    (src : PacketConn σ τ)
    (dest : PacketConn σ' τ')
    (hQ : Q src.readWriter.reader)
    (hdest : dest.readWriter.writer.err = none)
    (r : Bool × Option (List UInt8) × PacketConn σ τ × PacketConn σ' τ')
    (h : forwardPacket read write fuel isEnd src dest = .ok r) :
    Q r.2.2.1.readWriter.reader ∧ r.2.2.2.readWriter.writer.err = none := by
  have hQ5 : Q (src.readWriter.Peek read 5).2.reader := hpeek src.readWriter.reader 5 hQ
  unfold forwardPacket at h
  generalize src.readWriter.Peek read 5 = pk at h hQ5
  obtain ⟨⟨header, perr⟩, srw⟩ := pk
  cases perr with
  | some e => cases h
  | none =>
    dsimp only at h hQ5
    generalize isEnd (header.getD 4 0) (headerLength header) = ed at h
    obtain ⟨e, nd⟩ := ed
    dsimp only at h
    split at h
    · -- the slow path: `ReadPacket`, then `WritePacket`
      cases hread' : ReadPacket read ⟨srw, src.inPackets, src.outPackets⟩ fuel with
      | error err =>
        rw [hread'] at h
        cases h
      | ok res =>
        have hQ' := keeps_readPacketLoop hread fuel [] _ hQ5 res hread'
        obtain ⟨c', hwrite, -, herr'⟩ := WritePacket_eq_view hw hacc (fun _ => []) dest hdest res.1 false
        rw [hread'] at h
        dsimp only at h
        rw [hwrite] at h
        cases h
        exact ⟨hQ', herr'⟩
    · -- the fast path
      cases hrelay : relayPackets read write fuel header (headerLength header)
          ⟨srw, src.inPackets, src.outPackets⟩ dest with
      | error err =>
        rw [hrelay] at h
        cases h
      | ok res =>
        rw [hrelay] at h
        cases h
        exact keeps_relayPackets hread hpeek hacc fuel _ _ _ dest hQ5 hdest res hrelay

end Keeps

/-- The invariant of the source's reader that the loops carry: settled, with room for
the five bytes `ForwardUntil` peeks at, and at most `L` bytes still to be read. -/
def Source
    (rest : σ → List UInt8)
    (L : Nat)
    (b : Reader σ) : Prop :=
  Reader.Settled rest b ∧ 5 ≤ b.buf.length ∧ (b.pending rest).length ≤ L

section Source

variable {read : σ → (k : Nat) → Chunk k × σ} {rest : σ → List UInt8} (he : Ends read rest)
include he

theorem source_Read
    (L : Nat)
    (b : Reader σ)
    (k : Nat)
    (hb : Source rest L b) :
    Source rest L (b.Read read k).2 := by
  obtain ⟨hset, hbuf, hlen⟩ := hb
  have hpend := Reader.pending_Read he.streams b k
  refine ⟨Reader.settled_Read he b k hset, by rw [Reader.length_Read]; exact hbuf, ?_⟩
  rw [hpend, List.length_append] at hlen
  omega

theorem source_Peek
    (L : Nat)
    (b : Reader σ)
    (n : Int)
    (hb : Source rest L b) :
    Source rest L (b.Peek read n).2 := by
  obtain ⟨hset, hbuf, hlen⟩ := hb
  refine ⟨Reader.settled_Peek he b n hset, by rw [Reader.length_Peek]; exact hbuf, ?_⟩
  rw [(Reader.pending_Peek he.streams b n).1]
  exact hlen

end Source

/-! ### The code is the model, but for a failed relay -/

section Views

variable {read : σ → (k : Nat) → Chunk k × σ} {rest : σ → List UInt8} (he : Ends read rest)
  {write : τ' → (p : List UInt8) → Written p × τ'} {sent : τ' → List UInt8}
  (hw : Sinks write sent) (hacc : Accepts write)
  (srcSent : τ → List UInt8) (destRest : σ' → List UInt8)

theorem keeps_peekable
    (he : Ends read rest) :
    Keeps (BasicReadWriter.asReader (τ := τ) read)
      fun brw => Reader.Settled rest brw.reader ∧ 5 ≤ brw.reader.buf.length :=
  keeps_asReader (P := fun b => Reader.Settled rest b ∧ 5 ≤ b.buf.length)
    fun b k h => ⟨Reader.settled_Read he b k h.1, by rw [Reader.length_Read]; exact h.2⟩

include he hw hacc

theorem relayPackets_view
    (fuel : Nat)
    (header : List UInt8)
    (length : Nat)
    (src : PacketConn σ τ)
    (dest : PacketConn σ' τ')
    (hsrc : Peekable rest src)
    (hdest : dest.readWriter.writer.err = none) :
    relayPackets read write fuel header length src dest = .error .errRelayConn ∨
      ((relayPackets read write fuel header length src dest).map fun r =>
          (view rest srcSent r.1, view destRest sent r.2)) =
        Net.relayPackets fuel header length (view rest srcSent src) (view destRest sent dest) := by
  induction fuel generalizing header length src dest with
  | zero => exact .inr rfl
  | succ fuel ih =>
    have hrelay := relay_eq_relayBytes he hw hacc srcSent destRest
      { src.readWriter with sequence := header.getD 3 0 + 1 } hsrc.1
      { dest.readWriter with sequence := dest.readWriter.sequence + 1 } hdest (length + 4)
      src.inPackets src.outPackets dest.inPackets dest.outPackets
    have hkeep := @keeps_relay _ _ _ _ read write _ (keeps_peekable he)
      { src.readWriter with sequence := header.getD 3 0 + 1 }
      { dest.readWriter with sequence := dest.readWriter.sequence + 1 } (length + 4) hsrc
    have herr := @err_relay _ _ _ _ read write hacc { src.readWriter with sequence := header.getD 3 0 + 1 }
      { dest.readWriter with sequence := dest.readWriter.sequence + 1 } hdest (length + 4)
    -- the model's ends as states of their own
    generalize hvs : view rest srcSent src = vs
    generalize hvd : view destRest sent dest = vd
    rw [relayPackets, Net.relayPackets]
    generalize relay read write { src.readWriter with sequence := header.getD 3 0 + 1 }
      { dest.readWriter with sequence := dest.readWriter.sequence + 1 } (length + 4) = res
      at hrelay hkeep herr
    obtain ⟨err, srw, drw⟩ := res
    have hbytes : relayBytes { vs with sequence := header.getD 3 0 + 1 }
        { vd with sequence := vd.sequence + 1 } (length + 4) =
        (packetView rest srcSent srw src.inPackets src.outPackets,
          packetView destRest sent drw dest.inPackets dest.outPackets) := by
      subst hvs hvd
      exact hrelay.1
    rw [hbytes]
    cases err with
    | some e => exact .inl rfl
    | none =>
      dsimp only at hkeep herr ⊢
      by_cases hlen : length < MaxPayloadLen
      · simp only [hlen, ↓reduceIte]
        exact .inr rfl
      · simp only [hlen, ↓reduceIte]
        -- the next header, peeked from the source after the relay
        obtain ⟨hpeek, hview, hset'⟩ := Peek_packetView he srcSent srw hkeep.1 4 (by omega)
          (src.inPackets + 1) src.outPackets
        erw [hpeek]
        have hbuf : 5 ≤ (srw.Peek read 4).2.reader.buf.length := by
          rw [BasicReadWriter.Peek, Reader.length_Peek]
          exact hkeep.2
        generalize srw.Peek read 4 = pk at hview hset' hbuf
        obtain ⟨⟨header', perr⟩, srw'⟩ := pk
        cases perr with
        | some e => exact .inr rfl
        | none =>
          have hnext := ih header' (headerLength header') ⟨srw', src.inPackets + 1, src.outPackets⟩
            ⟨drw, dest.inPackets, dest.outPackets + 1⟩ ⟨hset', hbuf⟩ herr
          rw [show view rest srcSent ⟨srw', src.inPackets + 1, src.outPackets⟩ =
            packetView rest srcSent srw (src.inPackets + 1) src.outPackets from hview] at hnext
          exact hnext

/-- One iteration of `ForwardUntil` over buffered connections, given more fuel than bytes
still to be read, either fails with `ErrRelayConn` or is the model's. -/
theorem forwardPacket_view
    (fuel : Nat)
    (isEnd : UInt8 → Nat → Bool × Bool)
    (src : PacketConn σ τ)
    (dest : PacketConn σ' τ')
    (hsrc : Peekable rest src)
    (hdest : dest.readWriter.writer.err = none)
    (hfuel : (src.readWriter.reader.pending rest).length < fuel) :
    forwardPacket read write fuel isEnd src dest = .error .errRelayConn ∨
      ((forwardPacket read write fuel isEnd src dest).map fun r =>
          (r.1, r.2.1, view rest srcSent r.2.2.1, view destRest sent r.2.2.2)) =
        Net.forwardPacket true isEnd (view rest srcSent src) (view destRest sent dest) := by
  -- the model's loops run on the code's fuel
  have hmore : (view rest srcSent src).input.length + 1 +
      (fuel - ((view rest srcSent src).input.length + 1)) = fuel := by
    have : (view rest srcSent src).input.length = (src.readWriter.reader.pending rest).length := rfl
    omega
  have hreadFuel := readPacketLoop_fuel_stable _ (fuel - ((view rest srcSent src).input.length + 1))
    [] (view rest srcSent src) (Nat.lt_succ_self _)
  rw [hmore] at hreadFuel
  -- the five-byte peek
  obtain ⟨hpeek, hview, hset'⟩ := Peek_packetView he srcSent src.readWriter hsrc.1 5 hsrc.2
    src.inPackets src.outPackets
  have hbuf : 5 ≤ (src.readWriter.Peek read 5).2.reader.buf.length := by
    rw [BasicReadWriter.Peek, Reader.length_Peek]
    exact hsrc.2
  unfold forwardPacket Net.forwardPacket
  erw [hpeek]
  generalize src.readWriter.Peek read 5 = pk at hview hset' hbuf
  obtain ⟨⟨header, perr⟩, srw⟩ := pk
  cases perr with
  | some e => exact .inr rfl
  | none =>
    have hsrcView : view rest srcSent ⟨srw, src.inPackets, src.outPackets⟩ = view rest srcSent src :=
      hview
    dsimp only
    generalize isEnd (header.getD 4 0) (headerLength header) = ed
    obtain ⟨e, nd⟩ := ed
    dsimp only
    simp only [Bool.not_true, Bool.or_false]
    by_cases hslow : (e && nd) = true
    · -- the slow path: `ReadPacket`, then `WritePacket`
      simp only [hslow, ↓reduceIte]
      have hloop := readPacketLoop_eq_view he srcSent fuel [] ⟨srw, src.inPackets, src.outPackets⟩ hset'
      rw [hsrcView] at hloop
      rw [ReadPacket, Net.ReadPacket, ← hreadFuel, hloop]
      generalize readPacketLoop read fuel [] ⟨srw, src.inPackets, src.outPackets⟩ = res
      rcases res with err | ⟨data, src'⟩
      · exact .inr rfl
      · obtain ⟨c', hwrite, hviewd, -⟩ := WritePacket_eq_view hw hacc destRest dest hdest data false
        dsimp only
        rw [hwrite]
        right
        simp only [Except.map, hviewd]
    · -- the fast path
      simp only [hslow]
      have hrelayFuel := relayPackets_fuel_stable _ (fuel - ((view rest srcSent src).input.length + 1))
        header (headerLength header) (view rest srcSent src) (view destRest sent dest)
        (Nat.lt_succ_self _)
      rw [hmore] at hrelayFuel
      rw [← hrelayFuel]
      rcases relayPackets_view he hw hacc srcSent destRest fuel header (headerLength header)
          ⟨srw, src.inPackets, src.outPackets⟩ dest ⟨hset', hbuf⟩ hdest with hfail | hsame
      · left
        rw [hfail]
        rfl
      · right
        rw [hsrcView] at hsame
        rw [← hsame]
        generalize relayPackets read write fuel header (headerLength header)
          ⟨srw, src.inPackets, src.outPackets⟩ dest = res
        rcases res with err | ⟨src', dest'⟩
        · rfl
        · rfl

/-- The loop of `ForwardUntil` over buffered connections, given more fuel than bytes still
to be read, either fails with `ErrRelayConn` or is the model's, for every number of
rounds. -/
theorem forwardLoop_view
    (fuel : Nat)
    (isEnd : UInt8 → Nat → Bool × Bool)
    (rounds : Nat)
    (src : PacketConn σ τ)
    (dest : PacketConn σ' τ')
    (hsrc : Peekable rest src)
    (hdest : dest.readWriter.writer.err = none)
    (hfuel : (src.readWriter.reader.pending rest).length < fuel) :
    forwardLoop read write fuel isEnd rounds src dest = .error .errRelayConn ∨
      ((forwardLoop read write fuel isEnd rounds src dest).map fun r =>
          (r.1, view rest srcSent r.2.1, view destRest sent r.2.2)) =
        Net.forwardLoop true isEnd rounds (view rest srcSent src) (view destRest sent dest) := by
  -- induction on the rounds: each is `forwardPacket_view`, and keeps the source's invariant
  induction rounds generalizing src dest with
  | zero => exact .inr rfl
  | succ rounds ih =>
    have hkeep := keeps_forwardPacket (source_Read he _) (source_Peek he _) hacc hw fuel isEnd
      src dest ⟨hsrc.1, hsrc.2, Nat.le_refl _⟩ hdest
    rw [forwardLoop, Net.forwardLoop]
    rcases forwardPacket_view he hw hacc srcSent destRest fuel isEnd src dest hsrc hdest hfuel with
      hfail | hsame
    · left
      rw [hfail]
    · rw [← hsame]
      generalize forwardPacket read write fuel isEnd src dest = res at hkeep
      rcases res with err | ⟨e, data, src', dest'⟩
      · exact .inr rfl
      · obtain ⟨⟨hset', hbuf', hlen'⟩, herr'⟩ := hkeep _ rfl
        dsimp only at hset' hbuf' hlen' herr'
        cases e with
        | true => exact .inr rfl
        | false => exact ih src' dest' ⟨hset', hbuf'⟩ herr' (by omega)

/-- `ForwardUntil` over buffered connections either fails with `ErrRelayConn`, which the
relay of a packet does exactly when the source ends inside it, or returns what the model's
`ForwardUntil` returns: the same data for `process`, and the same two ends. -/
theorem ForwardUntil_view
    (isEnd : UInt8 → Nat → Bool × Bool)
    (src : PacketConn σ τ)
    (dest : PacketConn σ' τ')
    (hsrc : Peekable rest src)
    (hdest : dest.readWriter.writer.err = none) :
    ForwardUntil read write src dest isEnd ((src.readWriter.reader.pending rest).length + 1) =
        .error .errRelayConn ∨
      ((ForwardUntil read write src dest isEnd ((src.readWriter.reader.pending rest).length + 1)).map
          fun r => (r.1, view rest srcSent r.2.1, view destRest sent r.2.2)) =
        Net.ForwardUntil (view rest srcSent src) (view destRest sent dest) true isEnd :=
  forwardLoop_view he hw hacc srcSent destRest _ isEnd _ src dest hsrc hdest (Nat.lt_succ_self _)

/-! ### Streams of whole packets -/

/-- The fast path relays the physical packets of one logical packet, so over a source from
which the model reads that packet whole, the relay of each finds all its bytes and never fails
with `ErrRelayConn`. -/
theorem relayPackets_whole
    (fuel : Nat)
    (header : List UInt8)
    (src : PacketConn σ τ)
    (dest : PacketConn σ' τ')
    (hsrc : Peekable rest src)
    (hdest : dest.readWriter.writer.err = none)
    (hheader : headerLength header = headerLength (src.readWriter.reader.pending rest))
    (p : PacketIO)
    (hp : p.input = src.readWriter.reader.pending rest)
    (fuel' : Nat)
    (data : List UInt8)
    (r : List UInt8 × PacketIO)
    (hread : Net.readPacketLoop fuel' data p = .ok r) :
    relayPackets read write fuel header (headerLength header) src dest ≠ .error .errRelayConn := by
  induction fuel generalizing header src dest p fuel' data with
  | zero => exact fun h => by cases h
  | succ fuel ih =>
    -- the model reads the first physical packet whole
    obtain ⟨fuel', rfl⟩ : ∃ f, fuel' = f + 1 := by
      cases fuel' with
      | zero => cases hread
      | succ f => exact ⟨f, rfl⟩
    rw [Net.readPacketLoop] at hread
    cases hone : Net.readOnePacket p with
    | error e =>
      rw [hone] at hread
      cases hread
    | ok one =>
      rw [hone] at hread
      obtain ⟨buf, more, p1⟩ := one
      obtain ⟨hlen, hin1, hmore⟩ := readOnePacket_ok p _ hone
      rw [hp, ← hheader] at hlen hin1 hmore
      dsimp only at hin1 hmore hread
      have hrelay := relay_eq_relayBytes he hw hacc (fun _ => []) (fun _ => [])
        { src.readWriter with sequence := header.getD 3 0 + 1 } hsrc.1
        { dest.readWriter with sequence := dest.readWriter.sequence + 1 } hdest
        (headerLength header + 4) src.inPackets src.outPackets dest.inPackets dest.outPackets
      have hkeep := @keeps_relay _ _ _ _ read write _ (keeps_peekable he)
        { src.readWriter with sequence := header.getD 3 0 + 1 }
        { dest.readWriter with sequence := dest.readWriter.sequence + 1 } (headerLength header + 4) hsrc
      have herr := @err_relay _ _ _ _ read write hacc
        { src.readWriter with sequence := header.getD 3 0 + 1 }
        { dest.readWriter with sequence := dest.readWriter.sequence + 1 } hdest (headerLength header + 4)
      rw [relayPackets]
      generalize relay read write { src.readWriter with sequence := header.getD 3 0 + 1 }
        { dest.readWriter with sequence := dest.readWriter.sequence + 1 } (headerLength header + 4) = res
        at hrelay hkeep herr
      obtain ⟨err, srw, drw⟩ := res
      -- the source holds the whole packet, so the relay takes it without an error
      have hnone : err = none := hrelay.2.mpr hlen
      subst hnone
      have hpend : (src.readWriter.reader.pending rest).drop
          (min (headerLength header + 4) (src.readWriter.reader.pending rest).length) =
          srw.reader.pending rest :=
        congrArg (fun x => x.1.input) hrelay.1
      rw [Nat.min_eq_left hlen] at hpend
      dsimp only at hkeep herr ⊢
      by_cases hlt : headerLength header < MaxPayloadLen
      · simp only [hlt, ↓reduceIte]
        exact fun h => by cases h
      · simp only [hlt, ↓reduceIte]
        -- a full packet: the model reads the next one too
        have hfull : more = true := by
          have hbound : headerLength header < 2 ^ 24 := decode24_lt _ _ _
          have hmax : MaxPayloadLen = 2 ^ 24 - 1 := rfl
          rw [hmore, beq_iff_eq]
          omega
        rw [hfull, if_pos rfl] at hread
        obtain ⟨hpeek, hview, hset'⟩ := Peek_packetView he (fun _ => []) srw hkeep.1 4 (by omega)
          (src.inPackets + 1) src.outPackets
        have hbuf : 5 ≤ (srw.Peek read 4).2.reader.buf.length := by
          rw [BasicReadWriter.Peek, Reader.length_Peek]
          exact hkeep.2
        generalize srw.Peek read 4 = pk at hpeek hview hset' hbuf
        obtain ⟨⟨header', perr⟩, srw'⟩ := pk
        cases perr with
        | some e => exact fun h => by cases h
        | none =>
          have hpend' : srw'.reader.pending rest = srw.reader.pending rest :=
            congrArg PacketIO.input hview
          obtain ⟨-, htake⟩ := Peek_input _ 4 header' hpeek
          have hheader' : headerLength header' = headerLength (srw'.reader.pending rest) := by
            rw [htake, headerLength_take _ (by omega), hpend']
            rfl
          exact ih header' ⟨srw', src.inPackets + 1, src.outPackets⟩
            ⟨drw, dest.inPackets, dest.outPackets + 1⟩ ⟨hset', hbuf⟩ herr hheader' p1
            (by rw [hin1, hpend, ← hpend']) fuel' (data ++ buf) hread

/-- Nor does an iteration of `ForwardUntil`: its slow path reads the packet as the model does,
and its fast path relays it whole. -/
theorem forwardPacket_whole
    (fuel : Nat)
    (isEnd : UInt8 → Nat → Bool × Bool)
    (src : PacketConn σ τ)
    (dest : PacketConn σ' τ')
    (hsrc : Peekable rest src)
    (hdest : dest.readWriter.writer.err = none)
    (hfuel : (src.readWriter.reader.pending rest).length < fuel)
    (r : List UInt8 × PacketIO)
    (hwhole : Net.ReadPacket (view rest srcSent src) = .ok r) :
    forwardPacket read write fuel isEnd src dest ≠ .error .errRelayConn := by
  -- the model's `ReadPacket` on the code's fuel
  have hmore : (view rest srcSent src).input.length + 1 +
      (fuel - ((view rest srcSent src).input.length + 1)) = fuel := by
    have : (view rest srcSent src).input.length = (src.readWriter.reader.pending rest).length := rfl
    omega
  have hreadFuel := readPacketLoop_fuel_stable _ (fuel - ((view rest srcSent src).input.length + 1))
    [] (view rest srcSent src) (Nat.lt_succ_self _)
  rw [hmore] at hreadFuel
  have hwhole' : Net.readPacketLoop ((view rest srcSent src).input.length + 1) []
      (view rest srcSent src) = .ok r := hwhole
  obtain ⟨hpeek, hview, hset'⟩ := Peek_packetView he srcSent src.readWriter hsrc.1 5 hsrc.2
    src.inPackets src.outPackets
  have hbuf : 5 ≤ (src.readWriter.Peek read 5).2.reader.buf.length := by
    rw [BasicReadWriter.Peek, Reader.length_Peek]
    exact hsrc.2
  unfold forwardPacket
  generalize src.readWriter.Peek read 5 = pk at hpeek hview hset' hbuf
  obtain ⟨⟨header, perr⟩, srw⟩ := pk
  cases perr with
  | some e => exact fun h => by cases h
  | none =>
    have hsrcView : view rest srcSent ⟨srw, src.inPackets, src.outPackets⟩ = view rest srcSent src :=
      hview
    dsimp only
    generalize isEnd (header.getD 4 0) (headerLength header) = ed
    obtain ⟨e, nd⟩ := ed
    dsimp only
    split
    · -- the slow path reads the packet the model reads
      have hloop := readPacketLoop_eq_view he srcSent fuel [] ⟨srw, src.inPackets, src.outPackets⟩ hset'
      rw [hsrcView, hreadFuel, hwhole'] at hloop
      rw [ReadPacket]
      generalize readPacketLoop read fuel [] ⟨srw, src.inPackets, src.outPackets⟩ = res at hloop
      rcases res with err | ⟨data, src'⟩
      · cases hloop
      · dsimp only
        split <;> exact fun h => by cases h
    · -- the fast path relays what the model reads
      obtain ⟨-, htake⟩ := Peek_input _ 5 header hpeek
      have hpend : srw.reader.pending rest = src.readWriter.reader.pending rest :=
        congrArg PacketIO.input hview
      have hheader : headerLength header = headerLength (srw.reader.pending rest) := by
        rw [htake, headerLength_take _ (by omega), hpend]
        rfl
      have hrelay := relayPackets_whole he hw hacc fuel header ⟨srw, src.inPackets, src.outPackets⟩
        dest ⟨hset', hbuf⟩ hdest hheader (view rest srcSent src) hpend.symm _ [] r hwhole'
      generalize relayPackets read write fuel header (headerLength header)
        ⟨srw, src.inPackets, src.outPackets⟩ dest = res at hrelay
      rcases res with err | _
      · rintro ⟨⟩
        exact hrelay rfl
      · exact fun h => by cases h

theorem forwardPacket_view_whole
    (fuel : Nat)
    (isEnd : UInt8 → Nat → Bool × Bool)
    (src : PacketConn σ τ)
    (dest : PacketConn σ' τ')
    (hsrc : Peekable rest src)
    (hdest : dest.readWriter.writer.err = none)
    (hfuel : (src.readWriter.reader.pending rest).length < fuel)
    (r : List UInt8 × PacketIO)
    (hwhole : Net.ReadPacket (view rest srcSent src) = .ok r) :
    ((forwardPacket read write fuel isEnd src dest).map fun r =>
        (r.1, r.2.1, view rest srcSent r.2.2.1, view destRest sent r.2.2.2)) =
      Net.forwardPacket true isEnd (view rest srcSent src) (view destRest sent dest) :=
  (forwardPacket_view he hw hacc srcSent destRest fuel isEnd src dest hsrc hdest hfuel).resolve_left
    (forwardPacket_whole he hw hacc srcSent fuel isEnd src dest hsrc hdest hfuel r hwhole)

/-- One round on the frames of a nonempty message: the code forwards it as the model does. -/
theorem forwardPacket_message
    (fuel : Nat)
    (isEnd : UInt8 → Nat → Bool × Bool)
    (src : PacketConn σ τ)
    (dest : PacketConn σ' τ')
    (hsrc : Peekable rest src)
    (hdest : dest.readWriter.writer.err = none)
    (hfuel : (src.readWriter.reader.pending rest).length < fuel)
    {m tail : List UInt8}
    {src₁ : PacketIO}
    (hne : m ≠ [])
    (hin : src.readWriter.reader.pending rest =
      frameBytes dest.readWriter.sequence (chunks m) ++ tail)
    (hread : Net.ReadPacket (view rest srcSent src) = .ok (m, src₁)) :
    ∃ src' dest', forwardPacket read write fuel isEnd src dest =
        .ok ((isEnd (m.headD 0) (min m.length MaxPayloadLen)).1,
          (if (isEnd (m.headD 0) (min m.length MaxPayloadLen)).1 &&
              (isEnd (m.headD 0) (min m.length MaxPayloadLen)).2 then some m else none),
          src', dest') ∧
      view rest srcSent src' = src₁ ∧
      view destRest sent dest' = Net.WritePacket (view destRest sent dest) m := by
  have hsame := forwardPacket_view_whole he hw hacc srcSent destRest fuel isEnd src dest hsrc hdest
    hfuel _ hread
  rw [forwardPacket_frames isEnd (view destRest sent dest) hne hin hread] at hsame
  generalize forwardPacket read write fuel isEnd src dest = res at hsame
  rcases res with err | ⟨e, d, src', dest'⟩
  · cases hsame
  · simp only [Except.map, Except.ok.injEq, Prod.mk.injEq] at hsame
    obtain ⟨rfl, rfl, hsrc', hdest'⟩ := hsame
    exact ⟨src', dest', rfl, hsrc', hdest'⟩

/-- On a stream of nonempty messages framed as `WritePacket` frames them, numbered on from
the destination's counter, the loop of `ForwardUntil` over buffered connections is the
model's up to the first message `isEnd` marks. -/
theorem forwardLoop_messages_view
    {isEnd : UInt8 → Nat → Bool × Bool}
    {last more : List UInt8}
    (hlast : last ≠ [])
    (hend : (isEnd (last.headD 0) (min last.length MaxPayloadLen)).1 = true)
    (fuel : Nat)
    (pre : List (List UInt8)) :
    ∀ (rounds : Nat) (src : PacketConn σ τ) (dest : PacketConn σ' τ'),
      Peekable rest src → dest.readWriter.writer.err = none →
      (src.readWriter.reader.pending rest).length < fuel → pre.length < rounds →
      PrefixMessages isEnd pre →
      src.readWriter.reader.pending rest =
        messageBytes dest.readWriter.sequence (pre ++ [last]) ++ more →
      ((forwardLoop read write fuel isEnd rounds src dest).map fun r =>
          (r.1, view rest srcSent r.2.1, view destRest sent r.2.2)) =
        Net.forwardLoop true isEnd rounds (view rest srcSent src) (view destRest sent dest) := by
  -- induction on the messages before the last, as in the model's own run lemma
  induction pre with
  | nil =>
    intro rounds src dest hsrc hdest hfuel hrounds _ hin
    obtain ⟨rounds, rfl⟩ : ∃ r, rounds = r + 1 :=
      ⟨rounds - 1, by rw [List.length_nil] at hrounds; omega⟩
    rw [List.nil_append, messageBytes, messageBytes, List.append_nil] at hin
    obtain ⟨src₁, hread, -, -⟩ := exists_readPacket_frameBytes (view rest srcSent src) hin
    obtain ⟨src', dest', hcode, hsrc', hdest'⟩ := forwardPacket_message he hw hacc srcSent destRest
      fuel isEnd src dest hsrc hdest hfuel hlast hin hread
    rw [forwardLoop, Net.forwardLoop, hcode, forwardPacket_frames isEnd _ hlast hin hread, hend]
    simp only [↓reduceIte, Except.map, hsrc', hdest']
  | cons m pre ih =>
    intro rounds src dest hsrc hdest hfuel hrounds hpre hin
    rw [List.length_cons] at hrounds
    obtain ⟨rounds, rfl⟩ : ∃ r, rounds = r + 1 := ⟨rounds - 1, by omega⟩
    obtain ⟨hne, hnot⟩ := hpre m List.mem_cons_self
    rw [List.cons_append, messageBytes, List.append_assoc] at hin
    obtain ⟨src₁, hread, hinput, -⟩ := exists_readPacket_frameBytes (view rest srcSent src) hin
    obtain ⟨src', dest', hcode, hsrc', hdest'⟩ := forwardPacket_message he hw hacc srcSent destRest
      fuel isEnd src dest hsrc hdest hfuel hne hin hread
    obtain ⟨⟨hset', hbuf', hlen'⟩, herr'⟩ := keeps_forwardPacket (source_Read he _) (source_Peek he _)
      hacc hw fuel isEnd src dest ⟨hsrc.1, hsrc.2, Nat.le_refl _⟩ hdest _ hcode
    dsimp only at hset' hbuf' hlen' herr'
    -- the next message is framed from the destination's counter after this one
    have hseq : dest'.readWriter.sequence =
        dest.readWriter.sequence + UInt8.ofNat (m.length / MaxPayloadLen + 1) := by
      have h := congrArg PacketIO.sequence hdest'
      rw [writePacket_eq] at h
      exact h
    have hpend : src'.readWriter.reader.pending rest = src₁.input := congrArg PacketIO.input hsrc'
    rw [forwardLoop, Net.forwardLoop, hcode, forwardPacket_frames isEnd _ hne hin hread, hnot]
    simp only [Bool.false_eq_true, ↓reduceIte]
    rw [← hsrc', ← hdest']
    exact ih rounds src' dest' ⟨hset', hbuf'⟩ herr' (by omega)
      (by omega) hpre.tail
      (by rw [hpend, hinput, hseq])

/-- `ForwardUntil` over buffered connections, on such a stream, forwards the messages: it
returns what `process` receives for the last, and leaves the source where reading the
messages one by one leaves it and the destination as writing them leaves it. -/
theorem ForwardUntil_messages
    (isEnd : UInt8 → Nat → Bool × Bool)
    (src : PacketConn σ τ)
    (dest : PacketConn σ' τ')
    (pre : List (List UInt8))
    (last more : List UInt8)
    (hpre : ∀ m ∈ pre, m ≠ [] ∧ (isEnd (m.headD 0) (min m.length MaxPayloadLen)).1 = false)
    (hlast : last ≠ [])
    (hend : (isEnd (last.headD 0) (min last.length MaxPayloadLen)).1 = true)
    (hsrc : Peekable rest src)
    (hdest : dest.readWriter.writer.err = none)
    (hin : src.readWriter.reader.pending rest =
      messageBytes dest.readWriter.sequence (pre ++ [last]) ++ more) :
    ∃ src' dest', ForwardUntil read write src dest isEnd
          ((src.readWriter.reader.pending rest).length + 1) =
        .ok ((if (isEnd (last.headD 0) (min last.length MaxPayloadLen)).2 then some last else none),
          src', dest') ∧
      readPackets (pre.length + 1) (view rest srcSent src) = .ok (pre ++ [last], view rest srcSent src') ∧
      view destRest sent dest' = writePackets (view destRest sent dest) (pre ++ [last]) := by
  have hfuel : pre.length < (src.readWriter.reader.pending rest).length + 1 := by
    have hlen := length_le_length_messageBytes (pre ++ [last]) dest.readWriter.sequence
    rw [hin, List.length_append]
    rw [List.length_append, List.length_singleton] at hlen
    omega
  -- the code's loop is the model's, and the model's forwards the messages
  have hloop := forwardLoop_messages_view he hw hacc srcSent destRest hlast hend
    ((src.readWriter.reader.pending rest).length + 1) pre _ src dest hsrc hdest
    (Nat.lt_succ_self _) hfuel hpre hin
  obtain ⟨src₁, hreads, hnet⟩ := forwardLoop_messages hlast hend pre _ (view rest srcSent src)
    (view destRest sent dest) hfuel hpre hin
  rw [hnet] at hloop
  unfold ForwardUntil
  generalize forwardLoop read write _ isEnd _ src dest = res at hloop
  rcases res with err | ⟨data, src', dest'⟩
  · cases hloop
  · simp only [Except.map, Except.ok.injEq, Prod.mk.injEq] at hloop
    obtain ⟨rfl, hsrc', hdest'⟩ := hloop
    exact ⟨src', dest', rfl, hsrc' ▸ hreads, hdest'⟩

omit he hw hacc in
theorem ForwardUntil_messages_reply :
    let src := PacketConn.mk
      (newBasicReadWriter ([1, 0, 0, 0, 3, 1, 0, 0, 1, 254] : List UInt8) ([] : List UInt8) 16) 0 0
    let dest := PacketConn.mk (newBasicReadWriter ([] : List UInt8) ([] : List UInt8) 16) 0 0
    let isEnd : UInt8 → Nat → Bool × Bool := fun b _ => (b == 254, true)
    Ends bytesRead id ∧ Sinks bufferWrite id ∧ Accepts bufferWrite ∧
      (∀ m ∈ [[(3 : UInt8)]], m ≠ [] ∧ (isEnd (m.headD 0) (min m.length MaxPayloadLen)).1 = false) ∧
      [(254 : UInt8)] ≠ [] ∧
      (isEnd ([(254 : UInt8)].headD 0) (min [(254 : UInt8)].length MaxPayloadLen)).1 = true ∧
      Peekable id src ∧ dest.readWriter.writer.err = none ∧
      src.readWriter.reader.pending id =
        messageBytes dest.readWriter.sequence ([[3]] ++ [[254]]) ++ [] ∧
      ∃ src' dest', ForwardUntil bytesRead bufferWrite src dest isEnd
            ((src.readWriter.reader.pending id).length + 1) =
          .ok ((if (isEnd ([(254 : UInt8)].headD 0)
              (min [(254 : UInt8)].length MaxPayloadLen)).2 then some [254] else none), src', dest') ∧
        readPackets ([[(3 : UInt8)]].length + 1) (view id id src) =
          .ok ([[3]] ++ [[254]], view id id src') ∧
        view id id dest' = writePackets (view id id dest) ([[3]] ++ [[254]]) := by
  intro src dest isEnd
  have hsrc : Peekable id src := ⟨Reader.settled_NewReaderSize _ _, by decide⟩
  have hpre : ∀ m ∈ [[(3 : UInt8)]], m ≠ [] ∧
      (isEnd (m.headD 0) (min m.length MaxPayloadLen)).1 = false := by decide
  have hend : (isEnd ([(254 : UInt8)].headD 0)
      (min [(254 : UInt8)].length MaxPayloadLen)).1 = true := by decide
  have hin : src.readWriter.reader.pending id =
      messageBytes dest.readWriter.sequence ([[3]] ++ [[254]]) ++ [] := by decide
  exact ⟨ends_bytesRead, sinks_bufferWrite, accepts_bufferWrite, hpre, by decide, hend, hsrc, rfl, hin,
    ForwardUntil_messages ends_bytesRead sinks_bufferWrite accepts_bufferWrite id id isEnd src dest
      [[3]] [254] [] hpre (by decide) hend hsrc rfl hin⟩

end Views

end PacketConn
end Buffered

end Net
end TiProxy
