import Mathlib.Data.List.Basic

/-!
# Go's readers and writers as state machines

The contracts of Go's `io.Reader` and `io.Writer` (`src/io/io.go`), for code that is
generic in them.  A reader is a state `σ` and a function `read s k`: what one call
`Read(p)` with `len(p) = k` returns, and the state after it.  A writer is a state `τ`
and a function `write t p`: one call `Write(p)`.  The part of the contracts that
every caller relies on is in the result types: a read returns at most `k` bytes
(`Chunk`), a write writes at most `len(p)` bytes and reports an error when it writes
fewer (`Written`).

What a reader will still deliver and what a writer has passed on are not part of
their state; they are functions given beside it, with laws that tie them to the steps:

* `Streams read rest`: each read returns the head of `rest s` and leaves its tail.
* `Ends read rest`: besides, a read asked for bytes returns some or an error, an error
  comes with no bytes and only once the stream is over: a connection the peer closed.
* `Sinks write sent`: each write appends what it wrote to `sent t`.

A read fills `buf[pos:]` from its front (`readInto`); `sub buf lo hi` is the slice
`buf[lo:hi]` of an index pair in range.  `LimitedReader` is `io.LimitedReader`, which
keeps both reader laws, its stream being the first `N` bytes of the one below.

**Results.**
* `sub_readInto`: a read into `buf[hi:]` extends the slice that ends at `hi`.
* `Ends.read_of_rest_ne_nil`, `Ends.read_of_rest_eq_nil`: a read of an ending reader.
* `LimitedReader.streams`, `LimitedReader.ends`: the laws carry over.
-/

namespace GoIO

/-- Error values as the io code compares them, by `==`.  `wrapped` is an error that
wraps another one, such as `errors.WithStack` returns: a value of its own, equal to no
error it wraps. -/
inductive IOError where
  /-- `io.EOF` -/
  | eof
  /-- `io.ErrNoProgress` -/
  | noProgress
  /-- `io.ErrShortWrite` -/
  | shortWrite
  /-- `bufio.ErrBufferFull` -/
  | bufferFull
  /-- `bufio.ErrNegativeCount` -/
  | negativeCount
  /-- an error of the connection itself: a reset, a deadline -/
  | conn (code : Nat)
  | wrapped (err : IOError)
deriving DecidableEq, Repr

/-- What one call `Read(p)` with `len(p) = k` returns: at most `k` bytes, written to
the front of `p`, and an error or none. -/
structure Chunk (k : Nat) where
  bytes : List UInt8
  err : Option IOError
  length_le : bytes.length ≤ k

/-- What one call `Write(p)` returns: the count of the bytes of `p` it wrote, at most
`len(p)`, and an error, which a short write always has. -/
structure Written (p : List UInt8) where
  n : Nat
  err : Option IOError
  n_le : n ≤ p.length
  short : n < p.length → err ≠ none

/-! ### Slices of a buffer -/

section Slices

variable {α : Type*}

/-- `buf[lo:hi]`, for `lo ≤ hi ≤ len(buf)`. -/
def sub (buf : List α) (lo hi : Nat) : List α :=
  (buf.drop lo).take (hi - lo)

/-- `buf` after a read into `buf[pos:]` returned `bs`. -/
def readInto (buf : List α) (pos : Nat) (bs : List α) : List α :=
  buf.take pos ++ bs ++ buf.drop (pos + bs.length)

theorem length_sub
    {buf : List α}
    {lo hi : Nat}
    (hhi : hi ≤ buf.length) :
    (sub buf lo hi).length = hi - lo := by
  simp only [sub, List.length_take, List.length_drop]
  omega

@[simp] theorem sub_self
    (buf : List α)
    (lo : Nat) :
    sub buf lo lo = [] := by
  simp [sub]

theorem length_readInto
    {buf bs : List α}
    {pos : Nat}
    (h : pos + bs.length ≤ buf.length) :
    (readInto buf pos bs).length = buf.length := by
  simp only [readInto, List.length_append, List.length_take, List.length_drop]
  omega

theorem take_sub
    {buf : List α}
    {lo hi k : Nat}
    (hk : k ≤ hi - lo) :
    (sub buf lo hi).take k = sub buf lo (lo + k) := by
  rw [sub, sub, List.take_take, Nat.min_eq_left hk, Nat.add_sub_cancel_left]

theorem drop_sub
    {buf : List α}
    {lo hi k : Nat} :
    (sub buf lo hi).drop k = sub buf (lo + k) hi := by
  rw [sub, sub, List.drop_take, List.drop_drop, Nat.sub_sub]

/-- A read into `buf[hi:]` extends every slice that ends at `hi` by what it read. -/
theorem sub_readInto
    {buf bs : List α}
    {lo hi : Nat}
    (hlo : lo ≤ hi)
    (hroom : hi + bs.length ≤ buf.length) :
    sub (readInto buf hi bs) lo (hi + bs.length) = sub buf lo hi ++ bs := by
  have hpre : ((buf.take hi).drop lo).length = hi - lo := by
    simp only [List.length_drop, List.length_take]
    omega
  rw [sub, readInto, List.append_assoc, List.drop_append_of_le_length (by rw [List.length_take]; omega),
    List.take_append, hpre, List.take_of_length_le (by omega),
    show hi + bs.length - lo - (hi - lo) = bs.length by omega,
    List.take_left' rfl, List.drop_take, sub]

/-- `copy(buf[pos:], src)`: the buffer after it, and the count it returns. -/
def copyInto (buf : List α) (pos : Nat) (src : List α) : List α × Nat :=
  (readInto buf pos (src.take (buf.length - pos)), (src.take (buf.length - pos)).length)

end Slices

/-- A write that reports no error wrote all of `p`. -/
theorem Written.n_eq_of_err_eq_none
    {p : List UInt8}
    (res : Written p)
    (h : res.err = none) :
    res.n = p.length := by
  by_contra hne
  exact res.short (Nat.lt_of_le_of_ne res.n_le hne) h

/-! ### Readers -/

section Readers

variable {σ : Type}

/-- Each read returns the head of what the reader will still deliver, `rest s`, and
leaves its tail. -/
def Streams
    (read : σ → (k : Nat) → Chunk k × σ)
    (rest : σ → List UInt8) : Prop :=
  ∀ s k, rest s = (read s k).1.bytes ++ rest (read s k).2

/-- A reader whose stream ends, as a connection the peer has closed: every read asked
for bytes returns some or an error, and an error comes alone and only at the end. -/
structure Ends
    (read : σ → (k : Nat) → Chunk k × σ)
    (rest : σ → List UInt8) : Prop where
  streams : Streams read rest
  progress : ∀ s k, 0 < k → (read s k).1.bytes = [] → (read s k).1.err ≠ none
  bytes_of_err : ∀ s k, (read s k).1.err ≠ none → (read s k).1.bytes = []
  rest_of_err : ∀ s k, (read s k).1.err ≠ none → rest s = []

variable {read : σ → (k : Nat) → Chunk k × σ} {rest : σ → List UInt8}

theorem Streams.length_le
    (h : Streams read rest)
    (s : σ)
    (k : Nat) :
    (read s k).1.bytes.length ≤ (rest s).length := by
  rw [h s k, List.length_append]
  omega

/-- While the stream lasts, a read asked for bytes returns some and no error. -/
theorem Ends.read_of_rest_ne_nil
    (h : Ends read rest)
    {s : σ}
    {k : Nat}
    (hk : 0 < k)
    (hs : rest s ≠ []) :
    (read s k).1.err = none ∧ (read s k).1.bytes ≠ [] := by
  have herr : (read s k).1.err = none := by
    by_contra hne
    exact hs (h.rest_of_err s k hne)
  exact ⟨herr, fun hnil => h.progress s k hk hnil herr⟩

/-- Once the stream is over, every read asked for bytes fails, and it stays over. -/
theorem Ends.read_of_rest_eq_nil
    (h : Ends read rest)
    {s : σ}
    {k : Nat}
    (hk : 0 < k)
    (hs : rest s = []) :
    (read s k).1.bytes = [] ∧ (read s k).1.err ≠ none ∧ rest (read s k).2 = [] := by
  have hstream := h.streams s k
  rw [hs] at hstream
  obtain ⟨hbytes, hrest⟩ := List.append_eq_nil_iff.1 hstream.symm
  exact ⟨hbytes, h.progress s k hk hbytes, hrest⟩

end Readers

/-- A reader whose errors are never `io.EOF` itself, as one that wraps every error it
passes on. -/
def NeverEOF
    {σ : Type}
    (read : σ → (k : Nat) → Chunk k × σ) : Prop :=
  ∀ s k, (read s k).1.err ≠ some .eof

/-- `read'` on `f s` does what `read` does on `s`: the same result, and the state after
it mapped by `f`.  A reader that carries an invariant beside its state simulates the
one without it. -/
def Simulates
    {σ σ' : Type}
    (read' : σ' → (k : Nat) → Chunk k × σ')
    (read : σ → (k : Nat) → Chunk k × σ)
    (f : σ → σ') : Prop :=
  ∀ s k, read' (f s) k = ((read s k).1, f (read s k).2)

/-- Every read keeps `P`. -/
def Keeps
    {σ : Type}
    (read : σ → (k : Nat) → Chunk k × σ)
    (P : σ → Prop) : Prop :=
  ∀ s k, P s → P (read s k).2

/-! ### `io.LimitedReader` -/

/-- `io.LimitedReader`: the reader `R` and the count `N` it may still give.  `N` is an
`int64`; the code only ever lowers it by what a read returned, so it stays a natural. -/
structure LimitedReader (σ : Type) where
  R : σ
  N : Nat

namespace LimitedReader

variable {σ : Type}

/-- `LimitedReader.Read`: `EOF` once `N` is used up, and otherwise one read of the
reader below for at most `N` bytes. -/
def Read
    (read : σ → (k : Nat) → Chunk k × σ)
    (l : LimitedReader σ)
    (k : Nat) : Chunk k × LimitedReader σ :=
  if l.N = 0 then
    (⟨[], some .eof, Nat.zero_le k⟩, l)
  else
    let res := read l.R (min k l.N)
    (⟨res.1.bytes, res.1.err, Nat.le_trans res.1.length_le (Nat.min_le_left k l.N)⟩,
      ⟨res.2, l.N - res.1.bytes.length⟩)

/-- The stream of a limited reader: the first `N` bytes of the one below. -/
def rest
    (rest : σ → List UInt8)
    (l : LimitedReader σ) : List UInt8 :=
  (rest l.R).take l.N

variable {read : σ → (k : Nat) → Chunk k × σ} {rest' : σ → List UInt8}

theorem streams
    (h : Streams read rest') :
    Streams (Read read) (rest rest') := by
  intro l k
  by_cases hN : l.N = 0
  · simp [Read, rest, hN]
  · have hle : (read l.R (min k l.N)).1.bytes.length ≤ l.N :=
      Nat.le_trans (read l.R (min k l.N)).1.length_le (Nat.min_le_right k l.N)
    simp only [Read, rest, hN, if_false]
    rw [h l.R (min k l.N), List.take_append, List.take_of_length_le hle]

theorem ends
    (h : Ends read rest') :
    Ends (Read read) (rest rest') where
  streams := streams h.streams
  progress := by
    intro l k hk
    by_cases hN : l.N = 0
    · simp [Read, hN]
    · simp only [Read, hN, if_false]
      exact h.progress l.R (min k l.N) (by omega)
  bytes_of_err := by
    intro l k
    by_cases hN : l.N = 0
    · simp [Read, hN]
    · simp only [Read, hN, if_false]
      exact h.bytes_of_err l.R (min k l.N)
  rest_of_err := by
    intro l k
    by_cases hN : l.N = 0
    · simp [Read, rest, hN]
    · simp only [Read, rest, hN, if_false]
      intro herr
      rw [h.rest_of_err l.R (min k l.N) herr, List.take_nil]

/-- A limited reader over `f` of the reader below. -/
def map
    {σ' : Type}
    (f : σ → σ')
    (l : LimitedReader σ) : LimitedReader σ' :=
  ⟨f l.R, l.N⟩

theorem simulates
    {σ' : Type}
    {read' : σ' → (k : Nat) → Chunk k × σ'}
    {f : σ → σ'}
    (h : Simulates read' read f) :
    Simulates (Read read') (Read read) (map f) := by
  intro l k
  by_cases hN : l.N = 0
  · simp [Read, map, hN]
  · simp only [Read, map, hN, if_false, h l.R (min k l.N)]

theorem keeps
    {P : σ → Prop}
    (h : Keeps read P) :
    Keeps (Read read) (fun l => P l.R) := by
  intro l k hP
  by_cases hN : l.N = 0
  · simp only [Read, hN, if_true]
    exact hP
  · simp only [Read, hN, if_false]
    exact h l.R (min k l.N) hP

end LimitedReader

/-! ### Writers -/

/-- Each write appends to what the writer has passed on, `sent t`, the bytes of `p` it
wrote. -/
def Sinks
    {τ : Type}
    (write : τ → (p : List UInt8) → Written p × τ)
    (sent : τ → List UInt8) : Prop :=
  ∀ t p, sent (write t p).2 = sent t ++ p.take (write t p).1.n

/-- A writer that never fails, such as a connection to a peer that keeps reading. -/
def Accepts
    {τ : Type}
    (write : τ → (p : List UInt8) → Written p × τ) : Prop :=
  ∀ t p, (write t p).1.err = none

/-! ### Byte slices as the two sides of a connection -/

section Bytes

/-- `bytes.Reader.Read` on the unread bytes `s`: as many as asked, and `io.EOF` once
none are left. -/
def bytesRead
    (s : List UInt8)
    (k : Nat) : Chunk k × List UInt8 :=
  if s = [] then (⟨[], some .eof, Nat.zero_le k⟩, s)
  else (⟨s.take k, none, List.length_take_le k s⟩, s.drop k)

/-- `bytes.Buffer.Write` on the bytes `t` written so far: it takes all of `p`. -/
def bufferWrite
    (t : List UInt8)
    (p : List UInt8) : Written p × List UInt8 :=
  (⟨p.length, none, Nat.le_refl _, fun h => absurd h (Nat.lt_irrefl _)⟩, t ++ p)

/-- A byte slice read to its end is a reader that ends, its stream the unread bytes. -/
theorem ends_bytesRead :
    Ends bytesRead id where
  streams := by
    intro s k
    by_cases hs : s = []
    · simp only [bytesRead, hs, if_true, id, List.nil_append]
    · simp only [bytesRead, hs, if_false, id, List.take_append_drop]
  progress := by
    intro s k hk hnil
    by_cases hs : s = []
    · simp only [bytesRead, hs, if_true, ne_eq, reduceCtorEq, not_false_eq_true]
    · simp only [bytesRead, hs, if_false] at hnil
      rcases List.take_eq_nil_iff.1 hnil with hk0 | hs0
      · omega
      · exact absurd hs0 hs
  bytes_of_err := by
    intro s k herr
    by_cases hs : s = []
    · simp only [bytesRead, hs, if_true]
    · simp only [bytesRead, hs, if_false, ne_eq, not_true_eq_false] at herr
  rest_of_err := by
    intro s k herr
    by_cases hs : s = []
    · exact hs
    · simp only [bytesRead, hs, if_false, ne_eq, not_true_eq_false] at herr

theorem sinks_bufferWrite :
    Sinks bufferWrite id := by
  intro t p
  simp only [bufferWrite, id, List.take_length]

theorem accepts_bufferWrite :
    Accepts bufferWrite := fun _ _ => rfl

end Bytes

end GoIO
