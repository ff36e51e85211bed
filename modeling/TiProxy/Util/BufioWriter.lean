import TiProxy.Util.BufioReader

/-!
# The buffered writer of `pkg/util/bufio`

A model of `bufio.Writer` (`pkg/util/bufio/bufio.go`): `packetIO` writes its packets
into one and flushes it, and `ForwardUntil` relays packets into one with `ReadFrom`.

**State.**  `Writer` keeps the error that stops it, the buffer with its count `n` of
unflushed bytes, and the writer below, a parameter `write` (`io.Writer`).

**Algorithm.**  `Flush` writes `buf[0:n]` below; a short write keeps the bytes it did
not write, moved to the front, and records the error, after which the writer takes no
more data.  `Write` copies into the buffer; while `p` does not fit it either writes
`p` straight below, when nothing is buffered, or fills the buffer and flushes it.
`ReadFrom` reads from a source into the free part of the buffer, flushing it when it
is full, until the source fails; its `EOF` ends the copy without an error.

The loop of `Write` runs at most twice, since a flush that succeeds empties the buffer
and a write below that reports no error wrote everything; it runs on fuel 2.  The loop
of `ReadFrom` runs while the source gives bytes, so its caller gives the fuel: one
round more than the source can give bytes.

**Results.**
* `out_Flush`, `out_Write`: against the bytes the writer below has taken followed by
  the unflushed ones, a flush moves bytes without losing any, and a write appends a
  prefix of `p`, all of it unless the writer has failed.
* `Flush_of_accepts`: over a writer below that does not fail, a flush does not fail.
* `readFromLoop_limited`: `ReadFrom` on a limited reader copies the first `N` bytes
  of the source, or all of it when it is shorter, and reports an error exactly then.
-/

namespace TiProxy
namespace Bufio

open GoIO

/-- `Writer`: the error that stops it, the buffer with the count of its unflushed
bytes, and the writer below. -/
structure Writer (τ : Type) where
  err : Option IOError
  buf : List UInt8
  n : Nat
  wr : τ
  n_le_length : n ≤ buf.length
  length_pos : 0 < buf.length

namespace Writer

variable {τ : Type}

/-- `Available`: the unused bytes of the buffer. -/
def Available
    (b : Writer τ) : Nat :=
  b.buf.length - b.n

/-- The unflushed bytes, `buf[0:n]`. -/
def unflushed
    (b : Writer τ) : List UInt8 :=
  b.buf.take b.n

theorem length_unflushed
    (b : Writer τ) :
    b.unflushed.length = b.n := by
  rw [unflushed, List.length_take]
  exact Nat.min_eq_left b.n_le_length

/-- `NewWriterSize`, for a writer below that is not a `*Writer` itself. -/
def NewWriterSize
    (wr : τ)
    (size : Int) : Writer τ where
  err := none
  buf := List.replicate (if size ≤ 0 then defaultBufSize else size.toNat) 0
  n := 0
  wr := wr
  n_le_length := Nat.zero_le _
  length_pos := by
    rw [List.length_replicate]
    by_cases h : size ≤ 0
    · rw [if_pos h]
      decide
    · rw [if_neg h]
      omega

/-- `NewWriter` -/
def NewWriter
    (wr : τ) : Writer τ :=
  NewWriterSize wr defaultBufSize

/-- `copy(b.buf[b.n:], p); b.n += n`: as much of `p` as fits, appended to the
unflushed bytes. -/
def append
    (b : Writer τ)
    (p : List UInt8) : Writer τ :=
  { b with
    buf := (copyInto b.buf b.n p).1
    n := b.n + (copyInto b.buf b.n p).2
    n_le_length := by
      have hn := b.n_le_length
      simp only [copyInto, List.length_take]
      rw [length_readInto (by simp only [List.length_take]; omega)]
      omega
    length_pos := by
      have hn := b.n_le_length
      simp only [copyInto]
      rw [length_readInto (by simp only [List.length_take]; omega)]
      exact b.length_pos }

/-- The count `append` copies: `min(Available, len(p))`. -/
theorem copied_eq
    (b : Writer τ)
    (p : List UInt8) :
    (copyInto b.buf b.n p).2 = min b.Available p.length := by
  simp only [copyInto, List.length_take, Available, Nat.min_comm]

/-- The end of a failed `Flush`: after `m` of the `n` bytes were written,
`copy(b.buf[0:b.n-n], b.buf[n:b.n])` when some but not all were, and `b.n -= n`. -/
def keepUnwritten
    (b : Writer τ)
    (m : Nat)
    (err : IOError)
    (wr : τ) : Writer τ where
  err := some err
  buf := if 0 < m ∧ m < b.n then readInto b.buf 0 (sub b.buf m b.n) else b.buf
  n := b.n - m
  wr := wr
  n_le_length := by
    have hn := b.n_le_length
    split
    · rw [length_readInto (by rw [Nat.zero_add, length_sub hn]; omega)]
      omega
    · omega
  length_pos := by
    have hn := b.n_le_length
    split
    · rw [length_readInto (by rw [Nat.zero_add, length_sub hn]; omega)]
      exact b.length_pos
    · exact b.length_pos

/-- `b.n += m` after a read into `b.buf[b.n:]` returned `c`. -/
def received
    (b : Writer τ)
    (c : Chunk (b.buf.length - b.n)) : Writer τ :=
  { b with
    buf := readInto b.buf b.n c.bytes
    n := b.n + c.bytes.length
    n_le_length := by
      have hroom := c.length_le
      have hn := b.n_le_length
      rw [length_readInto (by omega)]
      omega
    length_pos := by
      have hroom := c.length_le
      have hn := b.n_le_length
      rw [length_readInto (by omega)]
      exact b.length_pos }

/-! ### What the helpers do to the unflushed bytes -/

@[simp] theorem unflushed_append
    (b : Writer τ)
    (p : List UInt8) :
    (b.append p).unflushed = b.unflushed ++ p.take b.Available := by
  have hn := b.n_le_length
  have hroom : b.n + (p.take (b.buf.length - b.n)).length ≤ b.buf.length := by
    rw [List.length_take]
    omega
  have hsub := @sub_readInto UInt8 b.buf (p.take (b.buf.length - b.n)) 0 b.n (Nat.zero_le _) hroom
  simp only [sub, List.drop_zero, Nat.sub_zero] at hsub
  exact hsub

@[simp] theorem wr_append
    (b : Writer τ)
    (p : List UInt8) :
    (b.append p).wr = b.wr := by
  rfl

@[simp] theorem err_append
    (b : Writer τ)
    (p : List UInt8) :
    (b.append p).err = b.err := by
  rfl

@[simp] theorem unflushed_keepUnwritten
    (b : Writer τ)
    (m : Nat)
    (err : IOError)
    (wr : τ)
    (hm : m ≤ b.n) :
    (b.keepUnwritten m err wr).unflushed = b.unflushed.drop m := by
  have hn := b.n_le_length
  unfold keepUnwritten unflushed
  dsimp only
  split
  · -- the unwritten bytes moved to the front
    have hsub := @sub_readInto UInt8 b.buf (sub b.buf m b.n) 0 0 (Nat.le_refl 0)
      (by rw [Nat.zero_add, length_sub hn]; omega)
    simp only [sub_self, List.nil_append, Nat.zero_add, length_sub hn] at hsub
    have htake : ∀ l : List UInt8, sub l 0 (b.n - m) = l.take (b.n - m) := fun l => by
      rw [sub, List.drop_zero, Nat.sub_zero]
    rw [htake] at hsub
    rw [hsub, sub, List.drop_take]
  · rename_i hcase
    rcases Nat.eq_zero_or_pos m with hzero | hpos
    · rw [hzero, List.drop_zero, Nat.sub_zero]
    · have hall : m = b.n := by omega
      rw [hall, Nat.sub_self, List.take_zero, List.drop_eq_nil_of_le (by rw [List.length_take]; omega)]

@[simp] theorem unflushed_received
    (b : Writer τ)
    (c : Chunk (b.buf.length - b.n)) :
    (b.received c).unflushed = b.unflushed ++ c.bytes := by
  have hroom := c.length_le
  have hn := b.n_le_length
  have hsub := @sub_readInto UInt8 b.buf c.bytes 0 b.n (Nat.zero_le _) (by omega)
  simp only [sub, List.drop_zero, Nat.sub_zero] at hsub
  exact hsub

@[simp] theorem wr_received
    (b : Writer τ)
    (c : Chunk (b.buf.length - b.n)) :
    (b.received c).wr = b.wr := by
  rfl

@[simp] theorem err_received
    (b : Writer τ)
    (c : Chunk (b.buf.length - b.n)) :
    (b.received c).err = b.err := by
  rfl

variable (write : τ → (p : List UInt8) → Written p × τ)

/-- `Flush`: write the unflushed bytes below.  A write of fewer bytes than asked with no
error counts as `io.ErrShortWrite`. -/
def Flush
    (b : Writer τ) : Option IOError × Writer τ :=
  if b.err ≠ none then
    (b.err, b)
  else if b.n = 0 then
    (none, b)
  else
    let res := write b.wr b.unflushed
    let err := if res.1.n < b.n ∧ res.1.err = none then some .shortWrite else res.1.err
    match err with
    | some e => (some e, b.keepUnwritten res.1.n e res.2)
    | none => (none, { b with n := 0, wr := res.2, n_le_length := Nat.zero_le _ })

/-- The loop of `Write`, with what is left of `p` and the count `nn` written so far:
while `p` does not fit and no error is recorded, write it straight below when
nothing is buffered, and otherwise fill the buffer and flush it; a failed flush
breaks the loop before the copied bytes are counted. -/
def writeLoop : Nat → Writer τ → List UInt8 → Nat → (List UInt8 × Nat) × Writer τ
  | 0, b, p, nn => ((p, nn), b)
  | fuel + 1, b, p, nn =>
      if b.Available < p.length ∧ b.err = none then
        if b.n = 0 then
          let res := write b.wr p
          writeLoop fuel { b with wr := res.2, err := res.1.err } (p.drop res.1.n) (nn + res.1.n)
        else
          let b' := b.append p
          let flushed := b'.Flush write
          -- `b.err = b.Flush()`
          let b'' := { flushed.2 with err := flushed.1 }
          if b''.err ≠ none then ((p, nn), b'')
          else writeLoop fuel b'' (p.drop (copyInto b.buf b.n p).2) (nn + (copyInto b.buf b.n p).2)
      else ((p, nn), b)

/-- `Write`: the count of the bytes of `p` taken, and the error that stopped it. -/
def Write
    (b : Writer τ)
    (p : List UInt8) : (Nat × Option IOError) × Writer τ :=
  let r := writeLoop write 2 b p 0
  if r.2.err ≠ none then
    ((r.1.2, r.2.err), r.2)
  else
    ((r.1.2 + (copyInto r.2.buf r.2.n r.1.1).2, none), r.2.append r.1.1)

/-! ### What a flush leaves -/

/-- A flush that reports no error leaves nothing unflushed. -/
theorem n_Flush_of_ok
    (b : Writer τ)
    (h : (b.Flush write).1 = none) :
    (b.Flush write).2.n = 0 := by
  unfold Flush at h ⊢
  split
  · rename_i herr
    rw [if_pos herr] at h
    exact absurd h herr
  · rw [if_neg (by assumption)] at h
    split
    · assumption
    · rename_i hn
      rw [if_neg hn] at h
      dsimp only at h ⊢
      split
      · rename_i e he
        rw [he] at h
        cases h
      · rfl

/-- `b.err = b.Flush()` changes nothing: a flush records the error it returns. -/
theorem err_Flush
    (b : Writer τ)
    (h : b.err = none) :
    (b.Flush write).2.err = (b.Flush write).1 := by
  unfold Flush
  rw [if_neg (fun h' => h' h)]
  split
  · exact h
  · dsimp only
    split
    · rfl
    · exact h

/-- After a write straight below, the loop of `Write` is done: the write reported an
error, or it wrote all of `p`. -/
theorem large_done
    (b : Writer τ)
    (p : List UInt8) :
    ¬ (({ b with wr := (write b.wr p).2, err := (write b.wr p).1.err } : Writer τ).Available <
        (p.drop (write b.wr p).1.n).length ∧ (write b.wr p).1.err = none) := by
  rintro ⟨hlt, hnone⟩
  rw [(write b.wr p).1.n_eq_of_err_eq_none hnone, List.drop_length, List.length_nil] at hlt
  exact Nat.not_lt_zero _ hlt

theorem writeLoop_of_done
    (fuel : Nat)
    (b : Writer τ)
    (p : List UInt8)
    (nn : Nat)
    (hdone : ¬ (b.Available < p.length ∧ b.err = none)) :
    writeLoop write fuel b p nn = ((p, nn), b) := by
  cases fuel with
  | zero => rfl
  | succ fuel => rw [writeLoop, if_neg hdone]

theorem writeLoop_stops
    (b : Writer τ)
    (p : List UInt8)
    (nn : Nat) :
    ¬ ((writeLoop write 2 b p nn).2.Available < (writeLoop write 2 b p nn).1.1.length ∧
      (writeLoop write 2 b p nn).2.err = none) := by
  rw [writeLoop]
  split
  · split
    · -- a write straight below ends the loop
      rw [writeLoop_of_done write 1 _ _ _ (large_done write b p)]
      exact large_done write b p
    · dsimp only
      split
      · rename_i herr
        exact fun h => herr h.2
      · rename_i hok
        -- the flush emptied the buffer, so the next round writes straight below
        have hok' : (((b.append p).Flush write).1) = none := not_not.1 hok
        have hn := n_Flush_of_ok write (b.append p) hok'
        rw [writeLoop]
        split
        · dsimp only
          rw [writeLoop_of_done write 0 _ _ _ (large_done write _ _)]
          exact large_done write _ _
        · assumption
  · assumption

/-- Two rounds are enough for the loop of `Write`: it stops by its own condition. -/
theorem writeLoop_done
    (b : Writer τ)
    (p : List UInt8)
    (nn : Nat) :
    ¬ ((writeLoop write 2 b p nn).2.Available < (writeLoop write 2 b p nn).1.1.length ∧
      (writeLoop write 2 b p nn).2.err = none) :=
  writeLoop_stops write b p nn

/-! ### The bytes passed on -/

section Out

variable (sent : τ → List UInt8)

/-- What the writer has passed on or holds: the bytes the writer below has taken, then
the unflushed ones. -/
def out
    (b : Writer τ) : List UInt8 :=
  sent b.wr ++ b.unflushed

variable {write sent}

@[simp] theorem out_append
    (b : Writer τ)
    (p : List UInt8) :
    out sent (b.append p) = out sent b ++ p.take b.Available := by
  rw [out, out, unflushed_append, wr_append, List.append_assoc]

@[simp] theorem out_received
    (b : Writer τ)
    (c : Chunk (b.buf.length - b.n)) :
    out sent (b.received c) = out sent b ++ c.bytes := by
  rw [out, out, unflushed_received, wr_received, List.append_assoc]

variable (hw : Sinks write sent)
include hw

/-- A flush moves bytes from the buffer to the writer below, in order, losing none. -/
theorem out_Flush
    (b : Writer τ) :
    out sent (b.Flush write).2 = out sent b := by
  unfold Flush
  split
  · rfl
  · split
    · rfl
    · rename_i hn
      dsimp only
      have hsink := hw b.wr b.unflushed
      have hle : (write b.wr b.unflushed).1.n ≤ b.n := by
        have := (write b.wr b.unflushed).1.n_le
        rwa [length_unflushed] at this
      split
      · rename_i e he
        show sent (write b.wr b.unflushed).2 ++ (b.keepUnwritten _ e _).unflushed =
          sent b.wr ++ b.unflushed
        rw [unflushed_keepUnwritten _ _ _ _ hle, hsink, List.append_assoc, List.take_append_drop]
      · rename_i hnone
        -- no error: the write below took all the unflushed bytes
        have herr : (write b.wr b.unflushed).1.err = none := by
          split at hnone
          · cases hnone
          · exact hnone
        have hall := (write b.wr b.unflushed).1.n_eq_of_err_eq_none herr
        show sent (write b.wr b.unflushed).2 ++ b.buf.take 0 = sent b.wr ++ b.unflushed
        rw [hsink, hall, List.take_length, List.take_zero, List.append_nil]

/-- The loop of `Write` counts a prefix `k` of `p`, leaves the rest, and passes on a
prefix `m` of `p` at least as long, exactly `k` unless it has recorded an error. -/
theorem out_writeLoop
    (fuel : Nat)
    (b : Writer τ)
    (p : List UInt8)
    (nn : Nat) :
    ∃ k m, (writeLoop write fuel b p nn).1.2 = nn + k ∧
      (writeLoop write fuel b p nn).1.1 = p.drop k ∧ k ≤ m ∧ m ≤ p.length ∧
      out sent (writeLoop write fuel b p nn).2 = out sent b ++ p.take m ∧
      ((writeLoop write fuel b p nn).2.err = none → m = k) := by
  induction fuel generalizing b p nn with
  | zero =>
    refine ⟨0, 0, rfl, rfl, Nat.le_refl 0, Nat.zero_le _, ?_, fun _ => rfl⟩
    show out sent b = out sent b ++ p.take 0
    rw [List.take_zero, List.append_nil]
  | succ fuel ih =>
    rw [writeLoop]
    split
    · split
      · rename_i hcond hn
        -- straight below: what it wrote is a prefix of `p`, and nothing was buffered
        have hempty : b.unflushed = [] := List.length_eq_zero_iff.1 (by rw [length_unflushed, hn])
        have hout : out sent { b with wr := (write b.wr p).2, err := (write b.wr p).1.err } =
            out sent b ++ p.take (write b.wr p).1.n := by
          show sent (write b.wr p).2 ++ b.unflushed = sent b.wr ++ b.unflushed ++ _
          rw [hw b.wr p, hempty, List.append_nil, List.append_nil]
        obtain ⟨k, m, hcount, hrest, hkm, hm, hout', herr⟩ := ih _ (p.drop (write b.wr p).1.n)
          (nn + (write b.wr p).1.n)
        have hle := (write b.wr p).1.n_le
        rw [List.length_drop] at hm
        refine ⟨(write b.wr p).1.n + k, (write b.wr p).1.n + m, by rw [hcount]; omega,
          by rw [hrest, List.drop_drop], by omega, by omega, ?_,
          fun h => by rw [herr h]⟩
        rw [hout', hout, List.append_assoc, ← List.take_add]
      · rename_i hcond hn
        dsimp only
        -- the copy fills the buffer, and the flush passes it on
        have hc : (copyInto b.buf b.n p).2 = b.Available := by
          rw [copied_eq]
          omega
        have hout : out sent { ((b.append p).Flush write).2 with
            err := ((b.append p).Flush write).1 } = out sent b ++ p.take b.Available := by
          show out sent ((b.append p).Flush write).2 = _
          rw [out_Flush hw, out_append]
        split
        · exact ⟨0, b.Available, rfl, rfl, Nat.zero_le _, by omega, hout, fun h => absurd h ‹_›⟩
        · obtain ⟨k, m, hcount, hrest, hkm, hm, hout', herr⟩ := ih _
            (p.drop (copyInto b.buf b.n p).2) (nn + (copyInto b.buf b.n p).2)
          rw [List.length_drop] at hm
          refine ⟨(copyInto b.buf b.n p).2 + k, (copyInto b.buf b.n p).2 + m,
            by rw [hcount]; omega, by rw [hrest, List.drop_drop], by omega, by omega, ?_,
            fun h => by rw [herr h]⟩
          rw [hout', hout, List.append_assoc, hc, ← List.take_add]
    · refine ⟨0, 0, rfl, rfl, Nat.le_refl 0, Nat.zero_le _, ?_, fun _ => rfl⟩
      show out sent b = out sent b ++ p.take 0
      rw [List.take_zero, List.append_nil]

theorem Write_out_prefix
    (b : Writer τ)
    (p : List UInt8) :
    ∃ m, (b.Write write p).1.1 ≤ m ∧ m ≤ p.length ∧
      out sent (b.Write write p).2 = out sent b ++ p.take m ∧
      ((b.Write write p).1.2 = none → m = p.length ∧ (b.Write write p).1.1 = p.length) := by
  obtain ⟨k, m, hcount, hrest, hkm, hm, hout, herr⟩ := out_writeLoop hw 2 b p 0
  have hdone := writeLoop_stops write b p 0
  unfold Write
  dsimp only
  split
  · rename_i hfail
    refine ⟨m, ?_, hm, hout, fun h => absurd h hfail⟩
    show (writeLoop write 2 b p 0).1.2 ≤ m
    omega
  · rename_i hok
    have hok' := not_not.1 hok
    -- the loop stopped with room for the rest of `p`
    have hfit : (p.drop k).length ≤ (writeLoop write 2 b p 0).2.Available := by
      rw [← hrest]
      exact Nat.le_of_not_lt fun hlt => hdone ⟨hlt, hok'⟩
    have hmk := herr hok'
    have hcopied : (writeLoop write 2 b p 0).1.2 + (copyInto (writeLoop write 2 b p 0).2.buf
        (writeLoop write 2 b p 0).2.n (writeLoop write 2 b p 0).1.1).2 = p.length := by
      rw [copied_eq, hcount, hrest, Nat.min_eq_right hfit, List.length_drop]
      omega
    refine ⟨p.length, Nat.le_of_eq hcopied, Nat.le_refl _, ?_, fun _ => ⟨rfl, hcopied⟩⟩
    rw [out_append, hout, hrest, hmk, List.take_of_length_le hfit, List.append_assoc,
      List.take_append_drop, List.take_length]

/-- `Write` passes on a prefix of `p` at least as long as the count it returns, and,
when it returns no error, all of `p`. -/
theorem out_Write
    (b : Writer τ)
    (p : List UInt8) :
    ∃ m, (b.Write write p).1.1 ≤ m ∧ m ≤ p.length ∧
      out sent (b.Write write p).2 = out sent b ++ p.take m ∧
      ((b.Write write p).1.2 = none → m = p.length ∧ (b.Write write p).1.1 = p.length) :=
  Write_out_prefix hw b p

omit hw in
theorem out_Write_bytes :
    Sinks bufferWrite id ∧
      ∃ m, ((NewWriterSize ([] : List UInt8) 16).Write bufferWrite [1, 2, 3]).1.1 ≤ m ∧
        m ≤ [(1 : UInt8), 2, 3].length ∧
        out id ((NewWriterSize ([] : List UInt8) 16).Write bufferWrite [1, 2, 3]).2 =
          out id (NewWriterSize ([] : List UInt8) 16) ++ [(1 : UInt8), 2, 3].take m ∧
        (((NewWriterSize ([] : List UInt8) 16).Write bufferWrite [1, 2, 3]).1.2 = none →
          m = [(1 : UInt8), 2, 3].length ∧
            ((NewWriterSize ([] : List UInt8) 16).Write bufferWrite [1, 2, 3]).1.1 =
              [(1 : UInt8), 2, 3].length) :=
  ⟨sinks_bufferWrite, out_Write sinks_bufferWrite _ _⟩

end Out

section ReadFrom

variable {ρ : Type} (src : ρ → (k : Nat) → Chunk k × ρ)

/-- The reads of `ReadFrom` into a free part of `k` bytes: at most `i` of them while the
source returns nothing and no error; `none` when they all did. -/
def readSome
    (k : Nat) : Nat → ρ → Option (Chunk k) × ρ
  | 0, r => (none, r)
  | i + 1, r =>
      if (src r k).1.bytes.length ≠ 0 ∨ (src r k).1.err ≠ none then
        (some (src r k).1, (src r k).2)
      else
        readSome k i (src r k).2

/-- The end of `ReadFrom` after the source failed with `err`: its `EOF` is no error,
and a buffer it filled exactly is flushed at once. -/
def readFromEnd
    (b : Writer τ)
    (r : ρ)
    (n : Nat)
    (err : IOError) : (Nat × Option IOError) × Writer τ × ρ :=
  if err = .eof then
    if b.Available = 0 then ((n, (b.Flush write).1), (b.Flush write).2, r)
    else ((n, none), b, r)
  else
    ((n, some err), b, r)

/-- The start of a round of `ReadFrom`: `if b.Available() == 0 { b.Flush() }`. -/
def flushFull
    (b : Writer τ) : Option IOError × Writer τ :=
  if b.Available = 0 then b.Flush write else (none, b)

/-- One round of the loop of `ReadFrom`, with the count `n` copied so far: flush a full
buffer, then read into its free part.  The copy either ends, with its result, or goes
on from a new writer, source and count. -/
def readFromStep
    (b : Writer τ)
    (r : ρ)
    (n : Nat) : ((Nat × Option IOError) × Writer τ × ρ) ⊕ (Writer τ × ρ × Nat) :=
  match (b.flushFull write).1 with
  | some e => .inl ((n, some e), (b.flushFull write).2, r)
  | none =>
      let b := (b.flushFull write).2
      let got := readSome src (b.buf.length - b.n) maxConsecutiveEmptyReads r
      match got.1 with
      | none => .inl ((n, some .noProgress), b, got.2)
      | some c =>
          match c.err with
          | some e => .inl (readFromEnd write (b.received c) got.2 (n + c.bytes.length) e)
          | none => .inr (b.received c, got.2, n + c.bytes.length)

/-- The loop of `ReadFrom`: rounds until the copy ends. -/
def readFromLoop : Nat → Writer τ → ρ → Nat → (Nat × Option IOError) × Writer τ × ρ
  | 0, b, r, n => ((n, none), b, r)
  | fuel + 1, b, r, n =>
      match readFromStep write src b r n with
      | .inl res => res
      | .inr (b, r, n) => readFromLoop fuel b r n

/-- `ReadFrom`: copy from the source `r` until it fails, with `fuel` rounds at most. -/
def ReadFrom
    (b : Writer τ)
    (r : ρ)
    (fuel : Nat) : (Nat × Option IOError) × Writer τ × ρ :=
  if b.err ≠ none then ((0, b.err), b, r)
  else readFromLoop write src fuel b r 0

end ReadFrom

/-! ### The copy over a simulated source -/

section Map

variable {ρ ρ' : Type} {src : ρ → (k : Nat) → Chunk k × ρ} {src' : ρ' → (k : Nat) → Chunk k × ρ'}

theorem readSome_map
    {f : ρ → ρ'}
    (h : Simulates src' src f)
    (k i : Nat)
    (r : ρ) :
    readSome src' k i (f r) = ((readSome src k i r).1, f (readSome src k i r).2) := by
  induction i generalizing r with
  | zero => rfl
  | succ i ih =>
    rw [readSome, readSome, h r k]
    split
    · rfl
    · exact ih _

theorem readFromEnd_map
    (f : ρ → ρ')
    (b : Writer τ)
    (r : ρ)
    (n : Nat)
    (e : IOError) :
    readFromEnd write b (f r) n e =
      ((readFromEnd write b r n e).1, (readFromEnd write b r n e).2.1,
        f (readFromEnd write b r n e).2.2) := by
  unfold readFromEnd
  split
  · split <;> rfl
  · rfl

/-- The end of the copy leaves the source where the last read left it. -/
@[simp] theorem source_readFromEnd
    (b : Writer τ)
    (r : ρ)
    (n : Nat)
    (e : IOError) :
    (readFromEnd write b r n e).2.2 = r := by
  unfold readFromEnd
  split
  · split <;> rfl
  · rfl

/-- A round of the copy over a source that simulates another does what the round over
that one does. -/
theorem readFromStep_map
    {f : ρ → ρ'}
    (h : Simulates src' src f)
    (b : Writer τ)
    (r : ρ)
    (n : Nat) :
    readFromStep write src' b (f r) n =
      (readFromStep write src b r n).map (fun res => (res.1, res.2.1, f res.2.2))
        (fun s => (s.1, f s.2.1, s.2.2)) := by
  unfold readFromStep
  split
  · rfl
  · dsimp only
    rw [readSome_map h]
    dsimp only
    split
    · rfl
    · split
      · rw [readFromEnd_map write f]
        rfl
      · rfl

theorem readFromLoop_map
    {f : ρ → ρ'}
    (h : Simulates src' src f)
    (fuel : Nat)
    (b : Writer τ)
    (r : ρ)
    (n : Nat) :
    readFromLoop write src' fuel b (f r) n =
      ((readFromLoop write src fuel b r n).1, (readFromLoop write src fuel b r n).2.1,
        f (readFromLoop write src fuel b r n).2.2) := by
  induction fuel generalizing b r n with
  | zero => rfl
  | succ fuel ih =>
    rw [readFromLoop, readFromLoop, readFromStep_map write h]
    cases readFromStep write src b r n with
    | inl res => rfl
    | inr s => exact ih _ _ _

theorem readSome_keeps
    {P : ρ → Prop}
    (h : Keeps src P)
    (k i : Nat)
    (r : ρ)
    (hP : P r) :
    P (readSome src k i r).2 := by
  induction i generalizing r with
  | zero => exact hP
  | succ i ih =>
    rw [readSome]
    split
    · exact h r k hP
    · exact ih _ (h r k hP)

/-- A round of the copy keeps every invariant of the source that each read keeps. -/
theorem readFromStep_keeps
    {P : ρ → Prop}
    (h : Keeps src P)
    (b : Writer τ)
    (r : ρ)
    (n : Nat)
    (hP : P r) :
    (readFromStep write src b r n).elim (fun res => P res.2.2) (fun s => P s.2.1) := by
  unfold readFromStep
  split
  · exact hP
  · dsimp only
    split
    · exact readSome_keeps h _ _ r hP
    · split
      · rw [Sum.elim_inl, source_readFromEnd]
        exact readSome_keeps h _ _ r hP
      · exact readSome_keeps h _ _ r hP

/-- The copy keeps every invariant of the source that each of its reads keeps. -/
theorem readFromLoop_keeps
    {P : ρ → Prop}
    (h : Keeps src P)
    (fuel : Nat)
    (b : Writer τ)
    (r : ρ)
    (n : Nat)
    (hP : P r) :
    P (readFromLoop write src fuel b r n).2.2 := by
  induction fuel generalizing b r n with
  | zero => exact hP
  | succ fuel ih =>
    have hstep := readFromStep_keeps write h b r n hP
    rw [readFromLoop]
    cases hres : readFromStep write src b r n with
    | inl res =>
      rw [hres] at hstep
      exact hstep
    | inr s =>
      rw [hres] at hstep
      exact ih _ _ _ hstep

end Map

/-! ### Copying from a limited source -/

section Copy

variable {write}

/-- Over a writer below that never fails, a flush does not fail either. -/
theorem Flush_of_accepts
    (hacc : Accepts write)
    (b : Writer τ)
    (h : b.err = none) :
    (b.Flush write).1 = none := by
  unfold Flush
  rw [if_neg (fun h' => h' h)]
  split
  · rfl
  · dsimp only
    have herr := hacc b.wr b.unflushed
    have hall := (write b.wr b.unflushed).1.n_eq_of_err_eq_none herr
    rw [length_unflushed] at hall
    split
    · rename_i e he
      rw [if_neg (by omega), herr] at he
      cases he
    · rfl

theorem flushFull_of_accepts
    (hacc : Accepts write)
    (b : Writer τ)
    (h : b.err = none) :
    (b.flushFull write).1 = none ∧ (b.flushFull write).2.err = none ∧
      0 < (b.flushFull write).2.Available := by
  unfold flushFull
  split
  · rename_i hfull
    have hok := Flush_of_accepts hacc b h
    refine ⟨hok, by rw [err_Flush write b h, hok], ?_⟩
    rw [Available, n_Flush_of_ok write b hok, Nat.sub_zero]
    exact (b.Flush write).2.length_pos
  · rename_i hroom
    exact ⟨rfl, h, Nat.pos_of_ne_zero hroom⟩

theorem out_flushFull
    {sent : τ → List UInt8}
    (hw : Sinks write sent)
    (b : Writer τ) :
    out sent (b.flushFull write).2 = out sent b := by
  unfold flushFull
  split
  · exact out_Flush hw b
  · rfl

/-- Over a writer below that never fails, the loop of `Write` records no error. -/
theorem err_writeLoop_of_accepts
    (hacc : Accepts write)
    (fuel : Nat)
    (b : Writer τ)
    (p : List UInt8)
    (nn : Nat)
    (h : b.err = none) :
    (writeLoop write fuel b p nn).2.err = none := by
  induction fuel generalizing b p nn with
  | zero => exact h
  | succ fuel ih =>
    unfold writeLoop
    split
    · split
      · -- straight below: the error recorded is the write's
        exact ih _ _ _ (hacc b.wr p)
      · -- through the buffer: the error recorded is the flush's
        have hflush := Flush_of_accepts hacc (b.append p) (by rw [err_append]; exact h)
        dsimp only
        rw [if_neg (fun h' => h' hflush)]
        exact ih _ _ _ hflush
    · exact h

/-- Over a writer below that takes everything, `Write` takes all of `p` and records no
error. -/
theorem Write_of_accepts
    {sent : τ → List UInt8}
    (hw : Sinks write sent)
    (hacc : Accepts write)
    (b : Writer τ)
    (p : List UInt8)
    (h : b.err = none) :
    (b.Write write p).1 = (p.length, none) ∧ (b.Write write p).2.err = none ∧
      out sent (b.Write write p).2 = out sent b ++ p := by
  have hloop := err_writeLoop_of_accepts hacc 2 b p 0 h
  have herr : (b.Write write p).1.2 = none ∧ (b.Write write p).2.err = none := by
    unfold Write
    dsimp only
    rw [if_neg (fun h' => h' hloop)]
    exact ⟨rfl, by rw [err_append]; exact hloop⟩
  obtain ⟨m, -, -, hout, hall⟩ := Write_out_prefix hw b p
  obtain ⟨hm, hcount⟩ := hall herr.1
  refine ⟨Prod.ext hcount herr.1, herr.2, ?_⟩
  rw [hout, hm, List.take_length]

variable {ρ : Type} {src : ρ → (k : Nat) → Chunk k × ρ}

/-- Over a source that ends, the first read of `ReadFrom` asked for bytes already returns
some or an error. -/
theorem readSome_of_ends
    {rest : ρ → List UInt8}
    (he : Ends src rest)
    {k : Nat}
    (hk : 0 < k)
    (i : Nat)
    (r : ρ) :
    readSome src k (i + 1) r = (some (src r k).1, (src r k).2) := by
  rw [readSome, if_pos]
  by_cases hnil : (src r k).1.bytes = []
  · exact Or.inr (he.progress r k hk hnil)
  · exact Or.inl fun h => hnil (List.length_eq_zero_iff.1 h)

theorem readSome_max_of_ends
    {rest : ρ → List UInt8}
    (he : Ends src rest)
    {k : Nat}
    (hk : 0 < k)
    (r : ρ) :
    readSome src k maxConsecutiveEmptyReads r = (some (src r k).1, (src r k).2) :=
  readSome_of_ends he hk (maxConsecutiveEmptyReads - 1) r

@[simp] theorem available_received
    (b : Writer τ)
    (c : Chunk (b.buf.length - b.n)) :
    (b.received c).Available = b.Available - c.bytes.length := by
  have hroom := c.length_le
  have hn := b.n_le_length
  simp only [Available, received]
  rw [length_readInto (by omega)]
  omega

/-- Over a writer below that never fails, the end of a copy records no error in the
writer: the only flush it makes succeeds. -/
theorem err_readFromEnd_of_accepts
    (hacc : Accepts write)
    (b : Writer τ)
    (hb : b.err = none)
    (r : ρ)
    (n : Nat)
    (e : IOError) :
    (readFromEnd write b r n e).2.1.err = none := by
  unfold readFromEnd
  split
  · split
    · rw [err_Flush write b hb, Flush_of_accepts hacc b hb]
    · exact hb
  · exact hb

/-- Over a writer below that never fails, a round of the copy records no error in the
writer. -/
theorem err_readFromStep_of_accepts
    (hacc : Accepts write)
    (b : Writer τ)
    (hb : b.err = none)
    (r : ρ)
    (n : Nat) :
    (readFromStep write src b r n).elim (fun res => res.2.1.err = none)
      (fun s => s.1.err = none) := by
  obtain ⟨hflush, hferr, -⟩ := flushFull_of_accepts hacc b hb
  unfold readFromStep
  rw [hflush]
  dsimp only
  split
  · exact hferr
  · split
    · exact err_readFromEnd_of_accepts hacc _ (by rw [err_received]; exact hferr) _ _ _
    · rw [Sum.elim_inr, err_received]
      exact hferr

/-- Over a writer below that never fails, the copy of `ReadFrom` records no error in the
writer. -/
theorem err_readFromLoop_of_accepts
    (hacc : Accepts write)
    (fuel : Nat)
    (b : Writer τ)
    (hb : b.err = none)
    (r : ρ)
    (n : Nat) :
    (readFromLoop write src fuel b r n).2.1.err = none := by
  induction fuel generalizing b r n with
  | zero => exact hb
  | succ fuel ih =>
    have hstep : (readFromStep write src b r n).elim (fun res => res.2.1.err = none)
        (fun s => s.1.err = none) :=
      err_readFromStep_of_accepts hacc b hb r n
    rw [readFromLoop]
    cases hres : readFromStep write src b r n with
    | inl res =>
      rw [hres] at hstep
      exact hstep
    | inr s =>
      rw [hres] at hstep
      exact ih _ hstep _ _

section Limited

variable {below : ρ → (k : Nat) → Chunk k × ρ} {rest : ρ → List UInt8} {sent : τ → List UInt8}
variable (hw : Sinks write sent) (hacc : Accepts write) (he : Ends below rest)
include hw hacc he

/-- A round of `ReadFrom` on a limited reader that has given all it may: its `EOF` ends
the copy without an error. -/
theorem readFromStep_of_used
    (b : Writer τ)
    (hb : b.err = none)
    (l : LimitedReader ρ)
    (hN : l.N = 0)
    (n : Nat) :
    ∃ b', readFromStep write (LimitedReader.Read below) b l n = .inl ((n, none), b', l) ∧
      out sent b' = out sent b := by
  obtain ⟨hfl, -, hroom⟩ := flushFull_of_accepts hacc b hb
  unfold readFromStep
  split
  · rename_i e hsome
    rw [hfl] at hsome
    cases hsome
  · have hroom' : 0 < (b.flushFull write).2.buf.length - (b.flushFull write).2.n := hroom
    dsimp only
    rw [readSome_max_of_ends (LimitedReader.ends he) hroom']
    dsimp only
    simp only [LimitedReader.Read, hN, if_true]
    refine ⟨(b.flushFull write).2.received ⟨[], some .eof, Nat.zero_le _⟩, ?_, ?_⟩
    · rw [readFromEnd, if_pos rfl, if_neg (by rw [available_received, List.length_nil]; omega)]
      rfl
    · rw [out_received, List.append_nil, out_flushFull hw]

/-- A round of `ReadFrom` on a limited reader whose reader below has ended: its error,
which is not `EOF` itself, ends the copy. -/
theorem readFromStep_of_ended
    (hne : NeverEOF below)
    (b : Writer τ)
    (hb : b.err = none)
    (l : LimitedReader ρ)
    (hN : 0 < l.N)
    (hnil : rest l.R = [])
    (n : Nat) :
    ∃ e b' l', readFromStep write (LimitedReader.Read below) b l n = .inl ((n, some e), b', l') ∧
      out sent b' = out sent b ∧ rest l'.R = [] := by
  obtain ⟨hfl, -, hroom⟩ := flushFull_of_accepts hacc b hb
  have hroom' : 0 < (b.flushFull write).2.buf.length - (b.flushFull write).2.n := hroom
  obtain ⟨hbytes, herr, hrest⟩ := he.read_of_rest_eq_nil
    (Nat.lt_min.2 ⟨hroom', hN⟩) hnil
  unfold readFromStep
  split
  · rename_i e hsome
    rw [hfl] at hsome
    cases hsome
  · dsimp only
    rw [readSome_max_of_ends (LimitedReader.ends he) hroom']
    dsimp only
    simp only [LimitedReader.Read, Nat.pos_iff_ne_zero.1 hN, if_false]
    split
    · rename_i e hsome
      rw [readFromEnd, if_neg (fun heof => hne _ _ (by rw [hsome, heof]))]
      simp only [hbytes, List.length_nil, Nat.add_zero]
      refine ⟨e, _, _, rfl, ?_, hrest⟩
      simp only [out_received, List.append_nil, out_flushFull hw]
    · rename_i hnone
      exact absurd hnone herr

/-- A round of `ReadFrom` on a limited reader that may give more, over a reader below
with bytes left: it copies some of them, no more than the limit. -/
theorem readFromStep_of_more
    (b : Writer τ)
    (hb : b.err = none)
    (l : LimitedReader ρ)
    (hN : 0 < l.N)
    (hmore : rest l.R ≠ [])
    (n : Nat) :
    ∃ b' l' m, readFromStep write (LimitedReader.Read below) b l n = .inr (b', l', n + m) ∧
      0 < m ∧ m ≤ l.N ∧ m ≤ (rest l.R).length ∧ l'.N = l.N - m ∧ b'.err = none ∧
      out sent b' = out sent b ++ (rest l.R).take m ∧ rest l'.R = (rest l.R).drop m := by
  obtain ⟨hfl, hflerr, hroom⟩ := flushFull_of_accepts hacc b hb
  have hroom' : 0 < (b.flushFull write).2.buf.length - (b.flushFull write).2.n := hroom
  have hk : 0 < min ((b.flushFull write).2.buf.length - (b.flushFull write).2.n) l.N :=
    Nat.lt_min.2 ⟨hroom', hN⟩
  obtain ⟨herr, hbytes⟩ := he.read_of_rest_ne_nil hk hmore
  have hstream := he.streams l.R (min ((b.flushFull write).2.buf.length -
    (b.flushFull write).2.n) l.N)
  have hle : (below l.R (min ((b.flushFull write).2.buf.length - (b.flushFull write).2.n)
      l.N)).1.bytes.length ≤ l.N :=
    Nat.le_trans (below l.R _).1.length_le (Nat.min_le_right _ l.N)
  have hlen : (below l.R (min ((b.flushFull write).2.buf.length - (b.flushFull write).2.n)
      l.N)).1.bytes.length ≤ (rest l.R).length := by
    rw [hstream, List.length_append]
    omega
  unfold readFromStep
  split
  · rename_i e hsome
    rw [hfl] at hsome
    cases hsome
  · dsimp only
    rw [readSome_max_of_ends (LimitedReader.ends he) hroom']
    dsimp only
    simp only [LimitedReader.Read, Nat.pos_iff_ne_zero.1 hN, if_false]
    split
    · rename_i e hsome
      rw [herr] at hsome
      cases hsome
    · refine ⟨_, _, _, rfl, List.length_pos_iff.2 hbytes, hle, hlen, rfl, hflerr, ?_, ?_⟩
      · rw [out_received, out_flushFull hw, hstream, List.take_left' rfl]
      · rw [hstream, List.drop_left' rfl]

/-- `ReadFrom` on a limited reader of `N` bytes over a reader that ends and never returns
`EOF` itself, into a writer over one that does not fail: it copies the first `N` bytes
of the stream, or all of it when it is shorter, and reports an error exactly then. -/
theorem readFromLoop_limited
    (hne : NeverEOF below)
    (fuel : Nat)
    (b : Writer τ)
    (hb : b.err = none)
    (l : LimitedReader ρ)
    (n : Nat)
    (hfuel : l.N < fuel) :
    (readFromLoop write (LimitedReader.Read below) fuel b l n).1.1 =
        n + min l.N (rest l.R).length ∧
      ((readFromLoop write (LimitedReader.Read below) fuel b l n).1.2 = none ↔
        l.N ≤ (rest l.R).length) ∧
      out sent (readFromLoop write (LimitedReader.Read below) fuel b l n).2.1 =
        out sent b ++ (rest l.R).take l.N ∧
      rest (readFromLoop write (LimitedReader.Read below) fuel b l n).2.2.R =
        (rest l.R).drop l.N := by
  induction fuel generalizing b l n with
  | zero => omega
  | succ fuel ih =>
    rw [readFromLoop]
    by_cases hN : l.N = 0
    · obtain ⟨b', hstep, hout⟩ := readFromStep_of_used hw hacc he b hb l hN n
      rw [hstep]
      dsimp only
      rw [hN, Nat.zero_min, Nat.add_zero, List.take_zero, List.append_nil, List.drop_zero]
      exact ⟨rfl, ⟨fun _ => Nat.zero_le _, fun _ => rfl⟩, hout, rfl⟩
    · by_cases hnil : rest l.R = []
      · obtain ⟨e, b', l', hstep, hout, hrest⟩ :=
          readFromStep_of_ended hw hacc he hne b hb l (Nat.pos_of_ne_zero hN) hnil n
        rw [hstep]
        dsimp only
        rw [hnil, List.length_nil, Nat.min_zero, Nat.add_zero, List.take_nil, List.append_nil,
          List.drop_nil]
        exact ⟨rfl, ⟨(fun h => by cases h), fun h => absurd (Nat.le_zero.1 h) hN⟩, hout, hrest⟩
      · obtain ⟨b', l', m, hstep, hm, hmN, hmlen, hl'N, hb', hout, hrest⟩ :=
          readFromStep_of_more hw hacc he b hb l (Nat.pos_of_ne_zero hN) hnil n
        rw [hstep]
        dsimp only
        obtain ⟨hcount, herr, hout', hrest'⟩ := ih b' hb' l' (n + m) (by omega)
        rw [hrest, hl'N, List.length_drop] at hcount herr
        rw [hrest, hl'N] at hout' hrest'
        refine ⟨by rw [hcount]; omega, by rw [herr]; omega, ?_, ?_⟩
        · rw [hout', hout, List.append_assoc, ← List.take_add, Nat.add_sub_cancel' hmN]
        · rw [hrest', List.drop_drop, Nat.add_sub_cancel' hmN]

end Limited

end Copy

end Writer

end Bufio
end TiProxy
