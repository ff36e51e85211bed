import TiProxy.Net.BasicReadWriter

/-!
# `packetIO` over a buffered connection

`readOnePacket`, `ReadPacket`, `writeOnePacket` and `WritePacket` of `packetIO`
(`pkg/proxy/net/packetio.go`) on a `basicReadWriter`, as the code runs them: the header
and the payload read by `ReadFull`, and written by the buffered `Write`.  `PacketConn`
keeps the fields of `packetIO` that these methods use.

The packet layer's model, `Net.PacketIO`, folds the buffers into two byte lists, and
`PacketConn.view` maps a `PacketConn` to it through `packetView`.  The results say that
the model is what the code does, over a connection that ends on the side it reads and one
that takes everything on the side it writes.

**Results.**
* `readOnePacket_view`, `readPacketLoop_view`: a read of one physical packet, and the loop
  of `ReadPacket` with any fuel, are the model's, and the reader stays settled.
* `ReadPacket_view`: so is `ReadPacket` with the fuel the model gives it, one round more
  than the bytes still to be read.
* `writeOnePacket_view`, `writePacketLoop_view`: the writes never fail and are the
  model's.
* `WritePacket_view`: `WritePacket` is the model's `WritePacket`, with a flush or without.
-/

namespace TiProxy
namespace Net
namespace Buffered

open GoIO Bufio LittleEndian

/-- `packetIO`, with the fields its packet methods use: the connection and the packet
counters.  `header` is scratch space that each method fills before it reads it. -/
structure PacketConn (σ τ : Type) where
  readWriter : BasicReadWriter σ τ
  inPackets : Nat
  outPackets : Nat

/-- The errors of `WritePacket`: the packet layer's, and `ErrFlushConn` when the flush
after the packet fails. -/
inductive WriteError where
  | packet (err : PacketError)
  | errFlushConn
deriving DecidableEq, Repr

namespace PacketConn

variable {σ τ : Type}

/-- What the packet layer's model sees of a `packetIO`. -/
def view
    (rest : σ → List UInt8)
    (sent : τ → List UInt8)
    (c : PacketConn σ τ) : PacketIO :=
  packetView rest sent c.readWriter c.inPackets c.outPackets

/-- The reader of the connection is settled: an error it has kept comes after the end. -/
def Settled
    (rest : σ → List UInt8)
    (c : PacketConn σ τ) : Prop :=
  Reader.Settled rest c.readWriter.reader

/-! ### Reading -/

section Read

variable (read : σ → (k : Nat) → Chunk k × σ)

/-- `readOnePacket`: the header by `ReadFull`, the sequence counter set from it, then the
payload by `ReadFull`.  When `ReadFull` reports no error the header is full; the last case
is the model's fuel running out, which a connection that ends never reaches. -/
def readOnePacket
    (c : PacketConn σ τ) : Except PacketError (List UInt8 × Bool × PacketConn σ τ) :=
  match ReadFull (BasicReadWriter.asReader read) c.readWriter 4 with
  | (some _, _, _) => .error .errReadConn
  | (none, [h0, h1, h2, sequence], brw) =>
      let brw := { brw with sequence := sequence + 1 }
      let length := decode24 h0 h1 h2
      match ReadFull (BasicReadWriter.asReader read) brw length with
      | (some _, _, _) => .error .errReadConn
      | (none, data, brw) =>
          .ok (data, length == MaxPayloadLen,
            { c with readWriter := brw, inPackets := c.inPackets + 1 })
  | (none, _, _) => .error .errReadConn

/-- The loop of `ReadPacket`: read physical packets while they are full. -/
def readPacketLoop :
    Nat → List UInt8 → PacketConn σ τ → Except PacketError (List UInt8 × PacketConn σ τ)
  | 0, _, _ => .error .errReadConn
  | fuel + 1, data, c =>
      match readOnePacket read c with
      | .error err => .error err
      | .ok (buf, more, c) => if more then readPacketLoop fuel (data ++ buf) c else .ok (data ++ buf, c)

/-- `ReadPacket`: read one logical packet, in `fuel` physical packets at most. -/
def ReadPacket
    (c : PacketConn σ τ)
    (fuel : Nat) : Except PacketError (List UInt8 × PacketConn σ τ) :=
  readPacketLoop read fuel [] c

end Read

/-! ### Writing -/

section Write

variable (write : τ → (p : List UInt8) → Written p × τ)

/-- `writeOnePacket`: the header, then at most `MaxPayloadLen` bytes of `data`, each by
the buffered `Write`; another packet follows when the payload is at least that long. -/
def writeOnePacket
    (c : PacketConn σ τ)
    (data : List UInt8) : Except PacketError (Nat × Bool × PacketConn σ τ) :=
  let (length, more) :=
    if data.length ≥ MaxPayloadLen then (MaxPayloadLen, true) else (data.length, false)
  let sequence := c.readWriter.sequence
  let brw := { c.readWriter with sequence := sequence + 1 }
  match brw.Write write (encode24 length ++ [sequence]) with
  | ((_, some _), _) => .error .errWriteConn
  | ((_, none), brw) =>
      match brw.Write write (data.take length) with
      | ((_, some _), _) => .error .errWriteConn
      | ((_, none), brw) => .ok (length, more, { c with readWriter := brw, outPackets := c.outPackets + 1 })

/-- The loop of `WritePacket`. -/
def writePacketLoop : Nat → List UInt8 → PacketConn σ τ → Except PacketError (PacketConn σ τ)
  | 0, _, c => .ok c
  | fuel + 1, data, c =>
      match writeOnePacket write c data with
      | .error err => .error err
      | .ok (n, more, c) => if more then writePacketLoop fuel (data.drop n) c else .ok c

/-- `Flush`: the buffered writer's. -/
def Flush
    (c : PacketConn σ τ) : Except WriteError (PacketConn σ τ) :=
  match c.readWriter.Flush write with
  | (some _, _) => .error .errFlushConn
  | (none, brw) => .ok { c with readWriter := brw }

/-- `WritePacket`: write one logical packet, and flush when asked to. -/
def WritePacket
    (c : PacketConn σ τ)
    (data : List UInt8)
    (flush : Bool) : Except WriteError (PacketConn σ τ) :=
  match writePacketLoop write (data.length + 1) data c with
  | .error err => .error (.packet err)
  | .ok c => if flush then c.Flush write else .ok c

end Write

/-! ### What the reads keep -/

section Keeps

variable {read : σ → (k : Nat) → Chunk k × σ} {Q : Reader σ → Prop}
  (hread : ∀ b k, Q b → Q (b.Read read k).2)
include hread

/-- A read of one physical packet keeps every invariant of the buffered reader that its
`Read` keeps. -/
theorem keeps_readOnePacket
    (c : PacketConn σ τ)
    (hQ : Q c.readWriter.reader)
    (r : List UInt8 × Bool × PacketConn σ τ)
    (h : readOnePacket read c = .ok r) :
    Q r.2.2.readWriter.reader := by
  have hk := keeps_asReader (τ := τ) hread
  have h4 : Q (ReadFull (BasicReadWriter.asReader read) c.readWriter 4).2.2.reader :=
    readFullLoop_keeps hk 4 (4 + 1) c.readWriter [] hQ
  unfold readOnePacket at h
  generalize ReadFull (BasicReadWriter.asReader read) c.readWriter 4 = r4 at h4 h
  -- only a full header and a payload read without an error give a result
  split at h
  · cases h
  · rename_i h0 h1 h2 sequence brw
    have hl : Q (ReadFull (BasicReadWriter.asReader read) { brw with sequence := sequence + 1 }
        (decode24 h0 h1 h2)).2.2.reader :=
      readFullLoop_keeps hk _ _ { brw with sequence := sequence + 1 } [] h4
    dsimp only at h
    generalize ReadFull (BasicReadWriter.asReader read) { brw with sequence := sequence + 1 }
      (decode24 h0 h1 h2) = rl at hl h
    split at h
    · cases h
    · cases h
      exact hl
  · cases h

/-- So does the loop of `ReadPacket`. -/
theorem keeps_readPacketLoop
    (fuel : Nat)
    (data : List UInt8)
    (c : PacketConn σ τ)
    (hQ : Q c.readWriter.reader)
    (r : List UInt8 × PacketConn σ τ)
    (h : readPacketLoop read fuel data c = .ok r) :
    Q r.2.readWriter.reader := by
  induction fuel generalizing data c with
  | zero => cases h
  | succ fuel ih =>
    rw [readPacketLoop] at h
    cases hone : readOnePacket read c with
    | error err =>
      rw [hone] at h
      cases h
    | ok res =>
      have hQ' := keeps_readOnePacket hread c hQ res hone
      obtain ⟨buf, more, c'⟩ := res
      rw [hone] at h
      dsimp only at h
      cases more with
      | false =>
        cases h
        exact hQ'
      | true => exact ih _ c' hQ' h

end Keeps

/-! ### The model's reads -/

section ReadView

variable {read : σ → (k : Nat) → Chunk k × σ} {rest : σ → List UInt8} (he : Ends read rest)
include he

/-- A read of one physical packet keeps the reader settled. -/
theorem settled_readOnePacket
    (c : PacketConn σ τ)
    (hset : Settled rest c)
    (r : List UInt8 × Bool × PacketConn σ τ)
    (h : readOnePacket read c = .ok r) :
    Settled rest r.2.2 :=
  keeps_readOnePacket (fun b k hb => Reader.settled_Read he b k hb) c hset r h

/-- A read of one physical packet over a connection that ends is the model's
`readOnePacket` of what it sees. -/
theorem readOnePacket_view
    (sent : τ → List UInt8)
    (c : PacketConn σ τ)
    (hset : Settled rest c) :
    Net.readOnePacket (view rest sent c) =
      (readOnePacket read c).map fun r => (r.1, r.2.1, view rest sent r.2.2) := by
  have h4 := ReadFull_eq_packetView he sent c.readWriter hset 4 c.inPackets c.outPackets
  have hs4 := settled_ReadFull he c.readWriter hset 4
  unfold Net.readOnePacket readOnePacket
  rw [view, h4]
  generalize ReadFull (BasicReadWriter.asReader read) c.readWriter 4 = r4 at hs4
  obtain ⟨err, header, brw⟩ := r4
  cases err with
  | some e => rfl
  | none =>
    -- every header but a full one is an error on both sides
    rcases header with _ | ⟨h0, _ | ⟨h1, _ | ⟨h2, _ | ⟨sequence, _ | ⟨x, tl⟩⟩⟩⟩⟩
    · rfl
    · rfl
    · rfl
    · rfl
    · have hl := ReadFull_eq_packetView he sent { brw with sequence := sequence + 1 } hs4
        (decode24 h0 h1 h2) c.inPackets c.outPackets
      dsimp only
      rw [← packetView_sequence, hl]
      generalize ReadFull (BasicReadWriter.asReader read) { brw with sequence := sequence + 1 }
        (decode24 h0 h1 h2) = rl
      obtain ⟨err', data, brw'⟩ := rl
      cases err' with
      | some e => rfl
      | none => rfl
    · rfl

theorem readPacketLoop_eq_view
    (sent : τ → List UInt8)
    (fuel : Nat)
    (data : List UInt8)
    (c : PacketConn σ τ)
    (hset : Settled rest c) :
    Net.readPacketLoop fuel data (view rest sent c) =
      (readPacketLoop read fuel data c).map fun r => (r.1, view rest sent r.2) := by
  -- induction on the fuel: each round is `readOnePacket_view`, and keeps the reader settled
  induction fuel generalizing data c with
  | zero => rfl
  | succ fuel ih =>
    have hs := settled_readOnePacket he c hset
    rw [Net.readPacketLoop, readPacketLoop, readOnePacket_view he sent c hset]
    generalize readOnePacket read c = r at hs
    rcases r with err | ⟨buf, more, c'⟩
    · rfl
    · cases more with
      | false => rfl
      | true => exact ih (data ++ buf) c' (hs _ rfl)

/-- The loop of `ReadPacket` over a connection that ends is the model's for every fuel:
the same payload or the same error, and the model's view of the connection after it. -/
theorem readPacketLoop_view
    (sent : τ → List UInt8)
    (fuel : Nat)
    (data : List UInt8)
    (c : PacketConn σ τ)
    (hset : Settled rest c) :
    Net.readPacketLoop fuel data (view rest sent c) =
      (readPacketLoop read fuel data c).map fun r => (r.1, view rest sent r.2) :=
  readPacketLoop_eq_view he sent fuel data c hset

omit he in
theorem readPacketLoop_view_bytes :
    let c := PacketConn.mk (newBasicReadWriter ([1, 0, 0, 0, 7] : List UInt8) ([] : List UInt8) 16)
      0 0
    Ends bytesRead id ∧ Settled id c ∧
      Net.readPacketLoop 6 [] (view id id c) =
        (readPacketLoop bytesRead 6 [] c).map fun r => (r.1, view id id r.2) := by
  intro c
  exact ⟨ends_bytesRead, Reader.settled_NewReaderSize _ _,
    readPacketLoop_view ends_bytesRead id 6 [] c (Reader.settled_NewReaderSize _ _)⟩

/-- `ReadPacket` over a connection that ends is the model's `ReadPacket`, with the fuel
the model gives it: one round more than the bytes still to be read. -/
theorem ReadPacket_view
    (sent : τ → List UInt8)
    (c : PacketConn σ τ)
    (hset : Settled rest c) :
    Net.ReadPacket (view rest sent c) =
      (ReadPacket read c ((c.readWriter.reader.pending rest).length + 1)).map
        fun r => (r.1, view rest sent r.2) :=
  readPacketLoop_eq_view he sent _ [] c hset

end ReadView

/-! ### The model's writes -/

section WriteView

variable {write : τ → (p : List UInt8) → Written p × τ} {sent : τ → List UInt8}
  (hw : Sinks write sent) (hacc : Accepts write)
include hw hacc

/-- Over a connection that takes everything, a write of one physical packet never fails,
is the model's `writeOnePacket`, and leaves no error in the writer. -/
theorem writeOnePacket_view
    (rest : σ → List UInt8)
    (c : PacketConn σ τ)
    (hb : c.readWriter.writer.err = none)
    (data : List UInt8) :
    ∃ c', writeOnePacket write c data =
        .ok ((Net.writeOnePacket (view rest sent c) data).1,
          (Net.writeOnePacket (view rest sent c) data).2.1, c') ∧
      view rest sent c' = (Net.writeOnePacket (view rest sent c) data).2.2 ∧
      c'.readWriter.writer.err = none := by
  unfold writeOnePacket Net.writeOnePacket
  generalize hlm : (if data.length ≥ MaxPayloadLen then (MaxPayloadLen, true)
    else (data.length, false)) = lm
  obtain ⟨length, more⟩ := lm
  have hlen : length ≤ data.length := by
    split at hlm <;> cases hlm <;> omega
  dsimp only
  -- the header, then the payload, each taken whole
  obtain ⟨h1, hv1, he1⟩ := Write_packetView hw hacc rest
    { c.readWriter with sequence := c.readWriter.sequence + 1 } hb
    (encode24 length ++ [c.readWriter.sequence]) c.inPackets (c.outPackets + 1)
  generalize ({ c.readWriter with sequence := c.readWriter.sequence + 1 } : BasicReadWriter σ τ).Write
    write (encode24 length ++ [c.readWriter.sequence]) = r1 at h1 hv1 he1
  obtain ⟨⟨n1, e1⟩, brw1⟩ := r1
  obtain ⟨-, rfl⟩ := Prod.mk.inj h1
  dsimp only
  obtain ⟨h2, hv2, he2⟩ := Write_packetView hw hacc rest brw1 he1 (data.take length)
    c.inPackets (c.outPackets + 1)
  generalize brw1.Write write (data.take length) = r2 at h2 hv2 he2
  obtain ⟨⟨n2, e2⟩, brw2⟩ := r2
  obtain ⟨-, rfl⟩ := Prod.mk.inj h2
  dsimp only at hv1 hv2 he2 ⊢
  refine ⟨{ c with readWriter := brw2, outPackets := c.outPackets + 1 }, rfl, ?_, he2⟩
  -- the counter after the header: four bytes more
  have hout1 : brw1.outBytes = c.readWriter.outBytes + 4 := by
    have h := congrArg PacketIO.outBytes hv1
    simp only [packetView, encode24, List.length_append, List.length_cons, List.length_nil] at h
    exact h
  rw [view, view, hv2, hv1, packetView_sequence]
  simp only [packetView, encode24, List.length_take, Nat.min_eq_left hlen, List.append_assoc,
    hout1]

/-- The loop of `WritePacket` over a connection that takes everything never fails and is
the model's, for every fuel. -/
theorem writePacketLoop_view
    (rest : σ → List UInt8)
    (fuel : Nat)
    (data : List UInt8)
    (c : PacketConn σ τ)
    (hb : c.readWriter.writer.err = none) :
    ∃ c', writePacketLoop write fuel data c = .ok c' ∧
      view rest sent c' = Net.writePacketLoop fuel data (view rest sent c) ∧
      c'.readWriter.writer.err = none := by
  -- induction on the fuel, each round being `writeOnePacket_view`
  induction fuel generalizing data c with
  | zero => exact ⟨c, rfl, rfl, hb⟩
  | succ fuel ih =>
    obtain ⟨c1, hstep, hview, herr⟩ := writeOnePacket_view hw hacc rest c hb data
    rw [writePacketLoop, hstep, Net.writePacketLoop]
    generalize Net.writeOnePacket (view rest sent c) data = res at hview
    obtain ⟨n, more, p⟩ := res
    dsimp only at hview ⊢
    cases more with
    | false => exact ⟨c1, rfl, hview, herr⟩
    | true =>
      rw [← hview]
      exact ih (data.drop n) c1 herr

theorem WritePacket_eq_view
    (rest : σ → List UInt8)
    (c : PacketConn σ τ)
    (hb : c.readWriter.writer.err = none)
    (data : List UInt8)
    (flush : Bool) :
    ∃ c', WritePacket write c data flush = .ok c' ∧
      view rest sent c' = Net.WritePacket (view rest sent c) data ∧
      c'.readWriter.writer.err = none := by
  obtain ⟨c1, hloop, hview, herr⟩ := writePacketLoop_view hw hacc rest (data.length + 1) data c hb
  rw [WritePacket, hloop]
  cases flush with
  | false => exact ⟨c1, rfl, hview, herr⟩
  | true =>
    -- the flush takes the buffer whole
    have hok := Writer.Flush_of_accepts hacc c1.readWriter.writer herr
    refine ⟨{ c1 with readWriter := (c1.readWriter.Flush write).2 }, ?_, ?_, ?_⟩
    · simp only [Flush, BasicReadWriter.Flush, hok, if_true]
    · rw [Net.WritePacket, ← hview]
      simp only [view, packetView, BasicReadWriter.Flush, Writer.out_Flush hw]
    · rw [BasicReadWriter.Flush, Writer.err_Flush write _ herr, hok]

/-- `WritePacket` over a connection that takes everything never fails and is the model's
`WritePacket`, with a flush or without: a flush only moves bytes from the buffer to the
connection, and the model counts both as written. -/
theorem WritePacket_view
    (rest : σ → List UInt8)
    (c : PacketConn σ τ)
    (hb : c.readWriter.writer.err = none)
    (data : List UInt8)
    (flush : Bool) :
    ∃ c', WritePacket write c data flush = .ok c' ∧
      view rest sent c' = Net.WritePacket (view rest sent c) data ∧
      c'.readWriter.writer.err = none :=
  WritePacket_eq_view hw hacc rest c hb data flush

omit hw hacc in
theorem WritePacket_view_bytes :
    let c := PacketConn.mk (newBasicReadWriter ([] : List UInt8) ([] : List UInt8) 16) 0 0
    Sinks bufferWrite id ∧ Accepts bufferWrite ∧ c.readWriter.writer.err = none ∧
      ∃ c', WritePacket bufferWrite c [7] true = .ok c' ∧
        view id id c' = Net.WritePacket (view id id c) [7] ∧ c'.readWriter.writer.err = none := by
  intro c
  exact ⟨sinks_bufferWrite, accepts_bufferWrite, rfl,
    WritePacket_view sinks_bufferWrite accepts_bufferWrite id c rfl [7] true⟩

end WriteView

end PacketConn

end Buffered
end Net
end TiProxy
