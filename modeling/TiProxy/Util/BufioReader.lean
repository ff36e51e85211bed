import TiProxy.Lib.GoIO

/-!
# The buffered reader of `pkg/util/bufio`

A model of `bufio.Reader` (`pkg/util/bufio/bufio.go`), the buffer that every
`packetIO` reads its connection through: `basicReadWriter` and `tlsReadWriter` wrap
their connection in one, and `Peek`, `Discard` and `Read` are what the packet layer
calls.

**State.**  `Reader` keeps the buffer as the code has it, bytes outside the window
included, the reader below, the positions `r ≤ w` and the error of the last fill.
The reader below is a parameter `read` (`io.Reader`), whose reads return at most what
they were asked for.  The unread bytes are the window `buf[r:w]`.

**Algorithm.**  `fill` slides the window to the front and reads once into the room
after it, up to `maxConsecutiveEmptyReads` times while the reader below returns
nothing.  `Peek` fills until `n` bytes are buffered, the buffer is full or a fill
fails; `Discard` skips what is buffered and fills when nothing is; `Read` copies from
the window, and with an empty window reads once, straight into `p` when `p` is at
least as large as the buffer.  The loops run on fuel: every round of `Peek` buffers
more or ends it, and every round of `Discard` skips a byte or ends it, so the fuel
they are given is never used up.

The panic of `fill` on a full buffer is not modelled: `fill` takes the proof that the
window leaves room, and each caller gives it from its own guard.

**Results.**
* `fill_progress`: a fill buffers more, or records an error.
* `peekLoop_done`: the loop of `Peek` ends by its own condition, and
  `discardLoop_ends`: over a connection that ends, the loop of `Discard` skips what is
  left of the bytes to skip.
* `pending_Peek`, `pending_Discard`, `pending_Read`: against the bytes still to be
  read, the window and the stream of the reader below, a peek looks at a prefix, a
  discard drops what it counts and a read removes what it returns.
-/

namespace TiProxy
namespace Bufio

open GoIO

/-- `defaultBufSize` -/
def defaultBufSize : Nat := 4096

/-- `minReadBufferSize` -/
def minReadBufferSize : Nat := 16

/-- `maxConsecutiveEmptyReads` -/
def maxConsecutiveEmptyReads : Nat := 100

/-- `Reader`: the buffer, the reader below, the read and write positions and the
error of the last fill, within the bounds that every method keeps. -/
structure Reader (σ : Type) where
  buf : List UInt8
  rd : σ
  r : Nat
  w : Nat
  err : Option IOError
  r_le_w : r ≤ w
  w_le_length : w ≤ buf.length
  length_pos : 0 < buf.length

namespace Reader

variable {σ : Type}

/-- `Buffered`: the number of bytes that can be read from the buffer. -/
def Buffered
    (b : Reader σ) : Nat :=
  b.w - b.r

/-- The unread bytes of the buffer, `buf[r:w]`. -/
def window
    (b : Reader σ) : List UInt8 :=
  sub b.buf b.r b.w

theorem length_window
    (b : Reader σ) :
    b.window.length = b.Buffered :=
  length_sub b.w_le_length

theorem buffered_le
    (b : Reader σ) :
    b.Buffered ≤ b.buf.length :=
  Nat.le_trans (Nat.sub_le _ _) b.w_le_length

/-- The slide of the window to the front keeps the length of the buffer. -/
theorem length_readInto_window
    (b : Reader σ) :
    (readInto b.buf 0 b.window).length = b.buf.length :=
  length_readInto (by rw [Nat.zero_add, length_window]; exact b.buffered_le)

/-- `NewReaderSize`, for a reader below that is not a `*Reader` itself: a buffer of at
least `minReadBufferSize` bytes. -/
def NewReaderSize
    (rd : σ)
    (size : Int) : Reader σ where
  buf := List.replicate (if size < minReadBufferSize then minReadBufferSize else size.toNat) 0
  rd := rd
  r := 0
  w := 0
  err := none
  r_le_w := Nat.le_refl 0
  w_le_length := Nat.zero_le _
  length_pos := by
    rw [List.length_replicate]
    by_cases h : size < (minReadBufferSize : Int)
    · rw [if_pos h]
      decide
    · rw [if_neg h]
      simp only [minReadBufferSize] at h
      omega

/-- `NewReader` -/
def NewReader
    (rd : σ) : Reader σ :=
  NewReaderSize rd defaultBufSize

/-- `readErr`: the recorded error, which it clears. -/
def readErr
    (b : Reader σ) : Option IOError × Reader σ :=
  (b.err, { b with err := none })

/-- The start of `fill`: `copy(b.buf, b.buf[b.r:b.w])`, which slides the window to the
front of the buffer. -/
def slide
    (b : Reader σ) : Reader σ :=
  if 0 < b.r then
    { b with
      buf := readInto b.buf 0 b.window
      w := b.w - b.r
      r := 0
      r_le_w := Nat.zero_le _
      w_le_length := by
        rw [length_readInto_window]
        exact b.buffered_le
      length_pos := by
        rw [length_readInto_window]
        exact b.length_pos }
  else b

/-- `b.w += n` after a read into `b.buf[b.w:]` returned `c`, from the reader below
now in state `rd`. -/
def received
    (b : Reader σ)
    (c : Chunk (b.buf.length - b.w))
    (rd : σ) : Reader σ where
  buf := readInto b.buf b.w c.bytes
  rd := rd
  r := b.r
  w := b.w + c.bytes.length
  err := b.err
  r_le_w := Nat.le_trans b.r_le_w (Nat.le_add_right _ _)
  w_le_length := by
    have hroom := c.length_le
    have hw := b.w_le_length
    rw [length_readInto (by omega)]
    omega
  length_pos := by
    have hroom := c.length_le
    have hw := b.w_le_length
    rw [length_readInto (by omega)]
    exact b.length_pos

/-- `b.r += n`, for `n` at most what is buffered. -/
def skip
    (b : Reader σ)
    (n : Nat)
    (h : n ≤ b.Buffered) : Reader σ :=
  { b with
    r := b.r + n
    r_le_w := by
      unfold Buffered at h
      have := b.r_le_w
      omega }

/-! ### What the helpers do to the window -/

@[simp] theorem window_slide
    (b : Reader σ) :
    b.slide.window = b.window := by
  unfold slide
  split
  · -- the window is written at the front of the buffer, as a read into `buf[0:]`
    have hslide := @sub_readInto UInt8 b.buf b.window 0 0 (Nat.le_refl 0)
      (by rw [Nat.zero_add, length_window]; exact b.buffered_le)
    rw [Nat.zero_add, sub_self, List.nil_append, length_window] at hslide
    exact hslide
  · rfl

@[simp] theorem rd_slide
    (b : Reader σ) :
    b.slide.rd = b.rd := by
  unfold slide
  split <;> rfl

@[simp] theorem err_slide
    (b : Reader σ) :
    b.slide.err = b.err := by
  unfold slide
  split <;> rfl

@[simp] theorem length_slide
    (b : Reader σ) :
    b.slide.buf.length = b.buf.length := by
  unfold slide
  split
  · exact b.length_readInto_window
  · rfl

@[simp] theorem buffered_slide
    (b : Reader σ) :
    b.slide.Buffered = b.Buffered := by
  rw [← length_window, ← length_window, window_slide]

@[simp] theorem window_received
    (b : Reader σ)
    (c : Chunk (b.buf.length - b.w))
    (rd : σ) :
    (b.received c rd).window = b.window ++ c.bytes := by
  have hroom := c.length_le
  have hw := b.w_le_length
  exact sub_readInto b.r_le_w (by omega)

@[simp] theorem length_received
    (b : Reader σ)
    (c : Chunk (b.buf.length - b.w))
    (rd : σ) :
    (b.received c rd).buf.length = b.buf.length := by
  have hroom := c.length_le
  have hw := b.w_le_length
  exact length_readInto (by omega)

@[simp] theorem rd_received
    (b : Reader σ)
    (c : Chunk (b.buf.length - b.w))
    (rd : σ) :
    (b.received c rd).rd = rd := by
  rfl

@[simp] theorem err_received
    (b : Reader σ)
    (c : Chunk (b.buf.length - b.w))
    (rd : σ) :
    (b.received c rd).err = b.err := by
  rfl

@[simp] theorem buffered_received
    (b : Reader σ)
    (c : Chunk (b.buf.length - b.w))
    (rd : σ) :
    (b.received c rd).Buffered = b.Buffered + c.bytes.length := by
  rw [← length_window, ← length_window, window_received, List.length_append]

@[simp] theorem window_skip
    (b : Reader σ)
    (n : Nat)
    (h : n ≤ b.Buffered) :
    (b.skip n h).window = b.window.drop n := by
  rw [window, window, drop_sub]
  rfl

@[simp] theorem rd_skip
    (b : Reader σ)
    (n : Nat)
    (h : n ≤ b.Buffered) :
    (b.skip n h).rd = b.rd := by
  rfl

@[simp] theorem err_skip
    (b : Reader σ)
    (n : Nat)
    (h : n ≤ b.Buffered) :
    (b.skip n h).err = b.err := by
  rfl

@[simp] theorem buffered_skip
    (b : Reader σ)
    (n : Nat)
    (h : n ≤ b.Buffered) :
    (b.skip n h).Buffered = b.Buffered - n := by
  rw [← length_window, ← length_window, window_skip, List.length_drop]

@[simp] theorem window_readErr
    (b : Reader σ) :
    b.readErr.2.window = b.window := by
  rfl

@[simp] theorem rd_readErr
    (b : Reader σ) :
    b.readErr.2.rd = b.rd := by
  rfl

@[simp] theorem err_readErr
    (b : Reader σ) :
    b.readErr.2.err = none := by
  rfl

variable (read : σ → (k : Nat) → Chunk k × σ)

/-- The reads of `fill`: read into `buf[w:]`, at most `i` more times while the reader
below returns nothing and no error; `io.ErrNoProgress` when they run out. -/
def fillLoop : Nat → Reader σ → Reader σ
  | 0, b => { b with err := some .noProgress }
  | i + 1, b =>
      let res := read b.rd (b.buf.length - b.w)
      let b' := b.received res.1 res.2
      match res.1.err with
      | some err => { b' with err := some err }
      | none => if 0 < res.1.bytes.length then b' else fillLoop i b'

/-- `fill`: read a new chunk into the buffer.  The caller shows that the window leaves
room, where the code would otherwise panic. -/
def fill
    (b : Reader σ)
    (_hroom : b.Buffered < b.buf.length) : Reader σ :=
  fillLoop read maxConsecutiveEmptyReads b.slide

/-- The loop of `Peek`: fill while fewer than `n` bytes are buffered, the buffer is not
full and no error is recorded. -/
def peekLoop
    (n : Nat) : Nat → Reader σ → Reader σ
  | 0, b => b
  | fuel + 1, b =>
      if h : b.Buffered < n ∧ b.Buffered < b.buf.length ∧ b.err = none then
        peekLoop n fuel (b.fill read h.2.1)
      else b

/-- `Peek`: the next `n` bytes without advancing the reader.  Fewer come with an
error: `ErrBufferFull` when `n` is larger than the buffer, and otherwise the error of
the fill that failed, or `ErrBufferFull` when the buffer filled up first. -/
def Peek
    (b : Reader σ)
    (n : Int) : (List UInt8 × Option IOError) × Reader σ :=
  if n < 0 then
    (([], some .negativeCount), b)
  else
    let b := peekLoop read n.toNat (b.buf.length + 1) b
    if b.buf.length < n.toNat then
      ((b.window, some .bufferFull), b)
    else if b.Buffered < n.toNat then
      let res := b.readErr
      ((b.window, some (res.1.getD .bufferFull)), res.2)
    else
      ((sub b.buf b.r (b.r + n.toNat), none), b)

/-- The start of a round of `Discard`: `if skip == 0 { b.fill() }`, a fill when nothing
is buffered. -/
def fillIfEmpty
    (b : Reader σ) : Reader σ :=
  if h : b.Buffered = 0 then b.fill read (by rw [h]; exact b.length_pos) else b

/-- The loop of `Discard`, with `remain` bytes still to skip: skip what is buffered,
after a fill when nothing is, until none remain or a fill has failed. -/
def discardLoop
    (n : Nat) : Nat → Nat → Reader σ → (Nat × Option IOError) × Reader σ
  | 0, remain, b => ((n - remain, none), b)
  | fuel + 1, remain, b =>
      let b := b.fillIfEmpty read
      let skip := min b.Buffered remain
      let b' := b.skip skip (Nat.min_le_left _ _)
      if remain - skip = 0 then
        ((n, none), b')
      else if b'.err ≠ none then
        ((n - (remain - skip), b'.readErr.1), b'.readErr.2)
      else
        discardLoop n fuel (remain - skip) b'

/-- `Discard`: skip the next `n` bytes, with the number skipped and, when it is fewer,
the error of the fill that failed. -/
def Discard
    (b : Reader σ)
    (n : Int) : (Nat × Option IOError) × Reader σ :=
  if n < 0 then
    ((0, some .negativeCount), b)
  else if n = 0 then
    ((0, none), b)
  else
    discardLoop read n.toNat (n.toNat + 1) n.toNat b

/-- The end of `Read`: `n = copy(p, b.buf[b.r:b.w]); b.r += n`. -/
def copyOut
    (b : Reader σ)
    (k : Nat) : (List UInt8 × Option IOError) × Reader σ :=
  ((b.window.take k, none), b.skip (min k b.Buffered) (Nat.min_le_right _ _))

/-- The one read of `Read` into the emptied buffer: `b.r = 0; b.w = 0` and
`n, b.err = b.rd.Read(b.buf)`. -/
def readAll
    (b : Reader σ) : Reader σ :=
  let res := read b.rd b.buf.length
  { buf := readInto b.buf 0 res.1.bytes
    rd := res.2
    r := 0
    w := res.1.bytes.length
    err := res.1.err
    r_le_w := Nat.zero_le _
    w_le_length := by
      rw [length_readInto (by rw [Nat.zero_add]; exact res.1.length_le)]
      exact res.1.length_le
    length_pos := by
      rw [length_readInto (by rw [Nat.zero_add]; exact res.1.length_le)]
      exact b.length_pos }

/-- `Read`: the bytes read into `p` of length `k`, from at most one read of the reader
below. -/
def Read
    (b : Reader σ)
    (k : Nat) : (List UInt8 × Option IOError) × Reader σ :=
  if k = 0 then
    if 0 < b.Buffered then (([], none), b)
    else (([], b.readErr.1), b.readErr.2)
  else if b.r = b.w then
    if b.err ≠ none then
      (([], b.readErr.1), b.readErr.2)
    else if b.buf.length ≤ k then
      -- a large read into an empty buffer goes straight into `p`; `b.err` is set and
      -- then cleared by `readErr`
      let res := read b.rd k
      ((res.1.bytes, res.1.err), { b with rd := res.2 })
    else
      let b := b.readAll read
      if b.w = 0 then (([], b.readErr.1), b.readErr.2)
      else b.copyOut k
  else
    b.copyOut k

@[simp] theorem window_readAll
    (b : Reader σ) :
    (b.readAll read).window = (read b.rd b.buf.length).1.bytes := by
  have hread := (read b.rd b.buf.length).1.length_le
  have hsub := @sub_readInto UInt8 b.buf (read b.rd b.buf.length).1.bytes 0 0
    (Nat.le_refl 0) (by rw [Nat.zero_add]; exact hread)
  rw [sub_self, List.nil_append, Nat.zero_add] at hsub
  exact hsub

@[simp] theorem rd_readAll
    (b : Reader σ) :
    (b.readAll read).rd = (read b.rd b.buf.length).2 := by
  rfl

@[simp] theorem err_readAll
    (b : Reader σ) :
    (b.readAll read).err = (read b.rd b.buf.length).1.err := by
  rfl

@[simp] theorem w_readAll
    (b : Reader σ) :
    (b.readAll read).w = (read b.rd b.buf.length).1.bytes.length := by
  rfl

/-! ### The loops end by their own condition -/

@[simp] theorem length_fillLoop
    (i : Nat)
    (b : Reader σ) :
    (fillLoop read i b).buf.length = b.buf.length := by
  induction i generalizing b with
  | zero => rfl
  | succ i ih =>
    simp only [fillLoop]
    split
    · exact length_received b (read b.rd (b.buf.length - b.w)).1 (read b.rd (b.buf.length - b.w)).2
    · split
      · exact length_received b _ _
      · rw [ih, length_received]

/-- Each round of `fillLoop` either returns with more bytes or records an error, and
the last one records `ErrNoProgress`. -/
theorem fillLoop_progress
    (i : Nat)
    (b : Reader σ) :
    (fillLoop read i b).err ≠ none ∨
      ((fillLoop read i b).err = b.err ∧ b.Buffered < (fillLoop read i b).Buffered) := by
  induction i generalizing b with
  | zero =>
    left
    simp [fillLoop]
  | succ i ih =>
    simp only [fillLoop]
    split
    · left
      simp
    · split
      · rename_i hpos
        right
        simp only [err_received, buffered_received, true_and]
        omega
      · rename_i hzero
        -- a read that returned nothing leaves the window as it was
        rcases ih (b.received (read b.rd (b.buf.length - b.w)).1
            (read b.rd (b.buf.length - b.w)).2) with herr | ⟨herr, hlt⟩
        · exact Or.inl herr
        · right
          simp only [err_received, buffered_received] at herr hlt
          exact ⟨herr, by omega⟩

/-- After the slide there is room: the window is shorter than the buffer. -/
theorem slide_room
    (b : Reader σ)
    (h : b.Buffered < b.buf.length) :
    b.slide.w < b.slide.buf.length := by
  unfold slide
  split
  · rw [length_readInto_window]
    exact h
  · rename_i hr
    unfold Buffered at h
    omega

@[simp] theorem length_fill
    (b : Reader σ)
    (h : b.Buffered < b.buf.length) :
    (b.fill read h).buf.length = b.buf.length := by
  rw [fill, length_fillLoop, length_slide]

/-- A fill buffers more, or records an error. -/
theorem fill_progress
    (b : Reader σ)
    (h : b.Buffered < b.buf.length) :
    (b.fill read h).err ≠ none ∨
      ((b.fill read h).err = b.err ∧ b.Buffered < (b.fill read h).Buffered) := by
  have hloop := fillLoop_progress read maxConsecutiveEmptyReads b.slide
  rw [err_slide, buffered_slide] at hloop
  exact hloop

theorem peekLoop_of_err
    (n fuel : Nat)
    (b : Reader σ)
    (herr : b.err ≠ none) :
    peekLoop read n fuel b = b := by
  cases fuel with
  | zero => rfl
  | succ fuel =>
    rw [peekLoop, dif_neg (fun h => herr h.2.2)]

@[simp] theorem length_peekLoop
    (n fuel : Nat)
    (b : Reader σ) :
    (peekLoop read n fuel b).buf.length = b.buf.length := by
  induction fuel generalizing b with
  | zero => rfl
  | succ fuel ih =>
    rw [peekLoop]
    split
    · rw [ih, length_fill]
    · rfl

/-- The loop of `Peek` stops by its condition: with more fuel than the room left in
the buffer, every round buffers more or records an error. -/
theorem peekLoop_done
    (n fuel : Nat)
    (b : Reader σ)
    (hfuel : b.buf.length - b.Buffered < fuel) :
    ¬ ((peekLoop read n fuel b).Buffered < n ∧
      (peekLoop read n fuel b).Buffered < (peekLoop read n fuel b).buf.length ∧
      (peekLoop read n fuel b).err = none) := by
  induction fuel generalizing b with
  | zero => omega
  | succ fuel ih =>
    rw [peekLoop]
    split
    · rename_i hcond
      rcases fill_progress read b hcond.2.1 with herr | ⟨-, hlt⟩
      · rw [peekLoop_of_err read n fuel _ herr]
        exact fun h => herr h.2.2
      · apply ih
        have hle := (b.fill read hcond.2.1).buffered_le
        rw [length_fill] at hle ⊢
        omega
    · assumption


theorem length_copyOut_le
    (b : Reader σ)
    (k : Nat) :
    (b.copyOut k).1.1.length ≤ k := by
  rw [copyOut, List.length_take]
  exact Nat.min_le_left _ _

/-- `Read` returns at most `len(p)` bytes. -/
theorem length_Read_le
    (b : Reader σ)
    (k : Nat) :
    (b.Read read k).1.1.length ≤ k := by
  unfold Read
  split
  · split <;> exact Nat.zero_le _
  · split
    · split
      · exact Nat.zero_le _
      · split
        · exact (read b.rd k).1.length_le
        · dsimp only
          split
          · exact Nat.zero_le _
          · exact length_copyOut_le _ k
    · exact length_copyOut_le b k

@[simp] theorem length_readAll
    (b : Reader σ) :
    (b.readAll read).buf.length = b.buf.length :=
  length_readInto (by rw [Nat.zero_add]; exact (read b.rd b.buf.length).1.length_le)

/-- `Read` keeps the size of the buffer. -/
@[simp] theorem length_Read
    (b : Reader σ)
    (k : Nat) :
    (b.Read read k).2.buf.length = b.buf.length := by
  unfold Read
  split
  · split <;> rfl
  · split
    · split
      · rfl
      · split
        · rfl
        · dsimp only
          split
          · exact length_readAll read b
          · exact length_readAll read b
    · rfl

/-- `Peek` keeps the size of the buffer. -/
@[simp] theorem length_Peek
    (b : Reader σ)
    (n : Int) :
    (b.Peek read n).2.buf.length = b.buf.length := by
  unfold Peek
  split
  · rfl
  · dsimp only
    split
    · exact length_peekLoop read _ _ b
    · split
      · exact length_peekLoop read _ _ b
      · exact length_peekLoop read _ _ b

/-! ### The bytes still to be read -/

section Pending

variable (rest : σ → List UInt8)

/-- The bytes a client of the reader has still to read: the window, then what the
reader below will still deliver. -/
def pending
    (b : Reader σ) : List UInt8 :=
  b.window ++ rest b.rd

variable {read rest}

@[simp] theorem pending_readErr
    (b : Reader σ) :
    pending rest b.readErr.2 = pending rest b := by
  rfl

/-- Skipping `n` buffered bytes consumes the first `n` bytes still to be read. -/
theorem pending_skip
    (b : Reader σ)
    (n : Nat)
    (h : n ≤ b.Buffered) :
    pending rest b = b.window.take n ++ pending rest (b.skip n h) := by
  rw [pending, pending, window_skip, rd_skip, ← List.append_assoc, List.take_append_drop]

theorem pending_copyOut
    (b : Reader σ)
    (k : Nat) :
    pending rest b = (b.copyOut k).1.1 ++ pending rest (b.copyOut k).2 := by
  rw [copyOut, List.take_eq_take_min, length_window]
  exact pending_skip b (min k b.Buffered) (Nat.min_le_right _ _)

variable (hs : Streams read rest)
include hs

/-- One read of the reader below moves what it returned into the window. -/
theorem pending_received
    (b : Reader σ) :
    pending rest (b.received (read b.rd (b.buf.length - b.w)).1
      (read b.rd (b.buf.length - b.w)).2) = pending rest b := by
  rw [pending, window_received, rd_received, List.append_assoc, ← hs b.rd, pending]

theorem pending_fillLoop
    (i : Nat)
    (b : Reader σ) :
    pending rest (fillLoop read i b) = pending rest b := by
  induction i generalizing b with
  | zero => rfl
  | succ i ih =>
    simp only [fillLoop]
    split
    · exact pending_received hs b
    · split
      · exact pending_received hs b
      · rw [ih, pending_received hs b]

theorem pending_fill
    (b : Reader σ)
    (h : b.Buffered < b.buf.length) :
    pending rest (b.fill read h) = pending rest b := by
  rw [fill, pending_fillLoop hs, pending, pending, window_slide, rd_slide]

theorem pending_peekLoop
    (n fuel : Nat)
    (b : Reader σ) :
    pending rest (peekLoop read n fuel b) = pending rest b := by
  induction fuel generalizing b with
  | zero => rfl
  | succ fuel ih =>
    rw [peekLoop]
    split
    · rw [ih, pending_fill hs]
    · rfl

/-- `Peek` consumes nothing, and what it returns is a prefix of what is still to be
read. -/
theorem pending_Peek
    (b : Reader σ)
    (n : Int) :
    pending rest (b.Peek read n).2 = pending rest b ∧
      (b.Peek read n).1.1 <+: pending rest b := by
  unfold Peek
  split
  · exact ⟨rfl, List.nil_prefix⟩
  · have hloop := pending_peekLoop hs n.toNat (b.buf.length + 1) b
    dsimp only
    generalize peekLoop read n.toNat (b.buf.length + 1) b = b' at hloop ⊢
    have hwin : b'.window <+: pending rest b := by
      rw [← hloop]
      exact List.prefix_append _ _
    split
    · exact ⟨hloop, hwin⟩
    · split
      · exact ⟨hloop, hwin⟩
      · rename_i hbuf
        have hsub : sub b'.buf b'.r (b'.r + n.toNat) = b'.window.take n.toNat :=
          (take_sub (by unfold Buffered at hbuf; omega)).symm
        refine ⟨hloop, ?_⟩
        rw [hsub]
        exact (List.take_prefix _ _).trans hwin

theorem pending_fillIfEmpty
    (b : Reader σ) :
    pending rest (b.fillIfEmpty read) = pending rest b := by
  unfold fillIfEmpty
  split
  · exact pending_fill hs b _
  · rfl

/-- `Discard` consumes exactly the bytes it counts, and never more than it was asked
to. -/
theorem pending_discardLoop
    (n fuel remain : Nat)
    (b : Reader σ)
    (hrem : remain ≤ n) :
    ∃ skipped, pending rest b = skipped ++ pending rest (discardLoop read n fuel remain b).2 ∧
      skipped.length + (n - remain) = (discardLoop read n fuel remain b).1.1 ∧
      (discardLoop read n fuel remain b).1.1 ≤ n := by
  induction fuel generalizing remain b with
  | zero => exact ⟨[], rfl, by simp [discardLoop], Nat.sub_le n remain⟩
  | succ fuel ih =>
    -- one round consumes the first `skip` buffered bytes of the filled reader
    have hskip := @pending_skip σ rest (b.fillIfEmpty read)
      (min (b.fillIfEmpty read).Buffered remain) (Nat.min_le_left _ _)
    have hlen : ((b.fillIfEmpty read).window.take
        (min (b.fillIfEmpty read).Buffered remain)).length =
        min (b.fillIfEmpty read).Buffered remain := by
      rw [List.length_take, length_window]
      omega
    rw [pending_fillIfEmpty hs] at hskip
    simp only [discardLoop]
    split
    · exact ⟨_, hskip, by dsimp only; omega, Nat.le_refl n⟩
    · split
      · exact ⟨_, hskip, by dsimp only; omega, Nat.sub_le _ _⟩
      · obtain ⟨skipped, hsk, hcount, hle⟩ := ih (remain - min (b.fillIfEmpty read).Buffered remain)
          ((b.fillIfEmpty read).skip (min (b.fillIfEmpty read).Buffered remain)
            (Nat.min_le_left _ _)) (by omega)
        refine ⟨_ ++ skipped, by rw [hskip, hsk, List.append_assoc], ?_, hle⟩
        rw [List.length_append, hlen, ← hcount]
        omega

theorem pending_Discard
    (b : Reader σ)
    (n : Int) :
    ∃ skipped, pending rest b = skipped ++ pending rest (b.Discard read n).2 ∧
      skipped.length = (b.Discard read n).1.1 := by
  unfold Discard
  split
  · exact ⟨[], rfl, rfl⟩
  · split
    · exact ⟨[], rfl, rfl⟩
    · obtain ⟨skipped, hsk, hcount, -⟩ :=
        pending_discardLoop hs n.toNat (n.toNat + 1) n.toNat b (Nat.le_refl _)
      exact ⟨skipped, hsk, by rw [← hcount, Nat.sub_self, Nat.add_zero]⟩

/-- `Read` consumes exactly the bytes it returns. -/
theorem pending_Read
    (b : Reader σ)
    (k : Nat) :
    pending rest b = (b.Read read k).1.1 ++ pending rest (b.Read read k).2 := by
  unfold Read
  split
  · split <;> rfl
  · split
    · rename_i hk hempty
      -- an empty window: the client's next bytes are the stream's
      have hwin : b.window = [] := by
        rw [← List.length_eq_zero_iff, length_window, Buffered, hempty, Nat.sub_self]
      split
      · rfl
      · split
        · show b.window ++ rest b.rd = (read b.rd k).1.bytes ++ (b.window ++ rest (read b.rd k).2)
          rw [hwin, List.nil_append, List.nil_append]
          exact hs b.rd k
        · have hall : pending rest (b.readAll read) = pending rest b := by
            rw [pending, pending, hwin, List.nil_append, hs b.rd b.buf.length, window_readAll,
              rd_readAll]
          dsimp only
          split
          · exact hall.symm
          · rw [← hall]
            exact pending_copyOut _ k
    · exact pending_copyOut b k

end Pending

/-! ### Runs of a client against the byte stream -/

/-- A call a client of the reader makes. -/
inductive Call where
  | peek (n : Int)
  | discard (n : Int)
  | read (k : Nat)

/-- What a call returns. -/
inductive Reply where
  | peeked (bytes : List UInt8) (err : Option IOError)
  | discarded (n : Nat) (err : Option IOError)
  | read (bytes : List UInt8) (err : Option IOError)

/-- One call on the reader. -/
def call
    (b : Reader σ) : Call → Reply × Reader σ
  | .peek n => ((.peeked (b.Peek read n).1.1 (b.Peek read n).1.2), (b.Peek read n).2)
  | .discard n => ((.discarded (b.Discard read n).1.1 (b.Discard read n).1.2), (b.Discard read n).2)
  | .read k => ((.read (b.Read read k).1.1 (b.Read read k).1.2), (b.Read read k).2)

/-- A run of calls, with the replies in order. -/
def serve : List Call → Reader σ → List Reply × Reader σ
  | [], b => ([], b)
  | c :: cs, b =>
      let r := b.call read c
      ((r.1 :: (serve cs r.2).1), (serve cs r.2).2)

/-- What a reply says of a stream of bytes `s` that is `s'` after it: a peek shows a
prefix and consumes nothing, a discard drops as many bytes as it counts, a read
removes what it returns. -/
def Reply.Takes : Reply → List UInt8 → List UInt8 → Prop
  | .peeked bytes _, s, s' => bytes <+: s ∧ s' = s
  | .discarded n _, s, s' => ∃ skipped, skipped.length = n ∧ s = skipped ++ s'
  | .read bytes _, s, s' => s = bytes ++ s'

/-- A list of replies, one after the other, from the stream `s` to `s'`. -/
def Takes : List Reply → List UInt8 → List UInt8 → Prop
  | [], s, s' => s' = s
  | r :: rs, s, s' => ∃ m, r.Takes s m ∧ Takes rs m s'

section Serve

variable {read} {rest : σ → List UInt8} (hs : Streams read rest)
include hs

theorem takes_call
    (b : Reader σ)
    (c : Call) :
    (b.call read c).1.Takes (pending rest b) (pending rest (b.call read c).2) := by
  cases c with
  | peek n =>
    obtain ⟨hpend, hpre⟩ := pending_Peek hs b n
    exact ⟨hpre, hpend⟩
  | discard n =>
    obtain ⟨skipped, hsk, hlen⟩ := pending_Discard hs b n
    exact ⟨skipped, hlen, hsk⟩
  | read k => exact pending_Read hs b k

/-- The buffered reader serves the bytes of one stream in order: every run of calls,
over a reader below that returns its stream in chunks of any size with any errors,
is a run of the stream itself, with nothing lost, repeated or reordered. -/
theorem serve_takes
    (calls : List Call)
    (b : Reader σ) :
    Takes (serve read calls b).1 (pending rest b) (pending rest (serve read calls b).2) := by
  induction calls generalizing b with
  | nil => rfl
  | cons c cs ih => exact ⟨_, takes_call hs b c, ih (b.call read c).2⟩

end Serve

theorem serve_takes_bytes :
    Streams bytesRead id ∧
      Takes (serve bytesRead [.peek 2, .discard 1, .read 3]
          (NewReaderSize ([1, 2, 3, 4, 5] : List UInt8) 16)).1
        (pending id (NewReaderSize ([1, 2, 3, 4, 5] : List UInt8) 16))
        (pending id (serve bytesRead [.peek 2, .discard 1, .read 3]
          (NewReaderSize ([1, 2, 3, 4, 5] : List UInt8) 16)).2) :=
  ⟨ends_bytesRead.streams, serve_takes ends_bytesRead.streams _ _⟩

/-! ### Over a connection that ends -/

section Ends

variable {read}

/-- A reader over a connection that ends records an error only once the stream is
over. -/
def Settled
    (rest : σ → List UInt8)
    (b : Reader σ) : Prop :=
  b.err ≠ none → rest b.rd = []

variable {rest : σ → List UInt8}

theorem settled_NewReaderSize
    (rd : σ)
    (size : Int) :
    Settled rest (NewReaderSize rd size) :=
  fun h => absurd rfl h

theorem settled_readErr
    (b : Reader σ) :
    Settled rest b.readErr.2 :=
  fun h => absurd rfl h

theorem settled_skip
    (b : Reader σ)
    (n : Nat)
    (h : n ≤ b.Buffered)
    (hset : Settled rest b) :
    Settled rest (b.skip n h) :=
  hset

theorem copyOut_ne_nil
    (b : Reader σ)
    (k : Nat)
    (hk : 0 < k)
    (hwin : b.window ≠ []) :
    (b.copyOut k).1.1 ≠ [] := by
  rw [copyOut]
  intro hnil
  rcases List.take_eq_nil_iff.1 hnil with hzero | hempty
  · omega
  · exact hwin hempty

/-- A read of an empty `p` fails only with the recorded error of an empty window, so
only at the end of the stream of a settled reader. -/
theorem pending_of_Read_zero
    (b : Reader σ)
    (hset : Settled rest b)
    (herr : (b.Read read 0).1.2 ≠ none) :
    pending rest b = [] := by
  unfold Read at herr
  rw [if_pos rfl] at herr
  split at herr
  · exact absurd rfl herr
  · rename_i hzero
    have hwin : b.window = [] :=
      List.length_eq_zero_iff.1 (by rw [length_window]; omega)
    rw [pending, hwin, List.nil_append]
    exact hset herr

variable (he : Ends read rest)
include he

/-- Over a connection that ends, one round of `fill` with room in the buffer returns
bytes while the stream lasts, and an error once it is over. -/
theorem fillLoop_of_rest_ne_nil
    (i : Nat)
    (b : Reader σ)
    (hroom : b.w < b.buf.length)
    (hne : rest b.rd ≠ []) :
    (fillLoop read (i + 1) b).err = b.err ∧ b.Buffered < (fillLoop read (i + 1) b).Buffered := by
  obtain ⟨herr, hbytes⟩ := he.read_of_rest_ne_nil (Nat.sub_pos_of_lt hroom) hne
  have hpos : 0 < (read b.rd (b.buf.length - b.w)).1.bytes.length := List.length_pos_iff.2 hbytes
  simp only [fillLoop]
  split
  · rename_i e hsome
    rw [herr] at hsome
    cases hsome
  · rw [if_pos hpos, err_received, buffered_received]
    exact ⟨rfl, by omega⟩

theorem fillLoop_of_rest_eq_nil
    (i : Nat)
    (b : Reader σ)
    (hroom : b.w < b.buf.length)
    (hnil : rest b.rd = []) :
    (fillLoop read (i + 1) b).err ≠ none ∧ rest (fillLoop read (i + 1) b).rd = [] := by
  obtain ⟨-, herr, hrest⟩ := he.read_of_rest_eq_nil (Nat.sub_pos_of_lt hroom) hnil
  simp only [fillLoop]
  split
  · exact ⟨by simp, hrest⟩
  · rename_i hnone
    exact absurd hnone herr

theorem fill_of_rest_ne_nil
    (b : Reader σ)
    (h : b.Buffered < b.buf.length)
    (hne : rest b.rd ≠ []) :
    (b.fill read h).err = b.err ∧ b.Buffered < (b.fill read h).Buffered := by
  have hfill := fillLoop_of_rest_ne_nil he (maxConsecutiveEmptyReads - 1) b.slide
    (slide_room b h) (by rwa [rd_slide])
  rw [err_slide, buffered_slide] at hfill
  exact hfill

theorem fill_of_rest_eq_nil
    (b : Reader σ)
    (h : b.Buffered < b.buf.length)
    (hnil : rest b.rd = []) :
    (b.fill read h).err ≠ none ∧ rest (b.fill read h).rd = [] :=
  fillLoop_of_rest_eq_nil he (maxConsecutiveEmptyReads - 1) b.slide
    (slide_room b h) (by rwa [rd_slide])

theorem settled_fill
    (b : Reader σ)
    (h : b.Buffered < b.buf.length)
    (hset : Settled rest b) :
    Settled rest (b.fill read h) := by
  intro herr
  by_cases hnil : rest b.rd = []
  · exact (fill_of_rest_eq_nil he b h hnil).2
  · -- while the stream lasts, the fill keeps the error it found, which is none
    rw [(fill_of_rest_ne_nil he b h hnil).1] at herr
    exact absurd (hset herr) hnil

theorem settled_peekLoop
    (n fuel : Nat)
    (b : Reader σ)
    (hset : Settled rest b) :
    Settled rest (peekLoop read n fuel b) := by
  induction fuel generalizing b with
  | zero => exact hset
  | succ fuel ih =>
    rw [peekLoop]
    split
    · exact ih _ (settled_fill he b _ hset)
    · exact hset

/-- `Peek` keeps the reader settled, whatever the count. -/
theorem settled_Peek
    (b : Reader σ)
    (n : Int)
    (hset : Settled rest b) :
    Settled rest (b.Peek read n).2 := by
  have hloop := settled_peekLoop he n.toNat (b.buf.length + 1) b hset
  unfold Peek
  split
  · exact hset
  · dsimp only
    split
    · exact hloop
    · split
      · exact settled_readErr _
      · exact hloop

/-- `Peek` of at most a buffer's worth of bytes, over a connection that ends: the next
`n` bytes still to be read, or all that is left, with an error exactly when fewer than
`n` are left. -/
theorem Peek_ends
    (b : Reader σ)
    (n : Int)
    (hn : 0 ≤ n)
    (hsize : n.toNat ≤ b.buf.length)
    (hset : Settled rest b) :
    (b.Peek read n).1.1 = (pending rest b).take n.toNat ∧
      ((b.Peek read n).1.2 = none ↔ n.toNat ≤ (pending rest b).length) ∧
      Settled rest (b.Peek read n).2 := by
  have hloop := pending_peekLoop he.streams n.toNat (b.buf.length + 1) b
  have hset' := settled_peekLoop he n.toNat (b.buf.length + 1) b hset
  have hdone := peekLoop_done read n.toNat (b.buf.length + 1) b
    (by have := b.buffered_le; omega)
  have hlen := length_peekLoop read n.toNat (b.buf.length + 1) b
  unfold Peek
  rw [if_neg (by omega)]
  dsimp only
  generalize peekLoop read n.toNat (b.buf.length + 1) b = b' at hloop hset' hdone hlen ⊢
  rw [← hloop]
  have hwin := b'.length_window
  split
  · omega
  · split
    · rename_i _ hshort
      -- the loop stopped short of `n`, so a fill failed and the stream is over
      have herr : b'.err ≠ none := fun hnone => hdone ⟨hshort, by omega, hnone⟩
      have hpend : pending rest b' = b'.window := by
        rw [pending, hset' herr, List.append_nil]
      rw [hpend, List.take_of_length_le (by omega)]
      exact ⟨rfl, iff_of_false (fun h => by cases h) (by omega), settled_readErr _⟩
    · rename_i _ henough
      have hsub : sub b'.buf b'.r (b'.r + n.toNat) = b'.window.take n.toNat :=
        (take_sub (by unfold Buffered at henough; omega)).symm
      rw [hsub, pending, List.take_append_of_le_length (by omega), List.length_append]
      exact ⟨rfl, iff_of_true rfl (by omega), hset'⟩

omit he in
theorem Peek_ends_bytes :
    Ends bytesRead id ∧ (0 : Int) ≤ 4 ∧
      (4 : Int).toNat ≤ (NewReaderSize ([1, 2, 3, 4, 5] : List UInt8) 16).buf.length ∧
      Settled id (NewReaderSize ([1, 2, 3, 4, 5] : List UInt8) 16) ∧
      ((NewReaderSize ([1, 2, 3, 4, 5] : List UInt8) 16).Peek bytesRead 4).1.1 =
          (pending id (NewReaderSize ([1, 2, 3, 4, 5] : List UInt8) 16)).take (4 : Int).toNat ∧
        (((NewReaderSize ([1, 2, 3, 4, 5] : List UInt8) 16).Peek bytesRead 4).1.2 = none ↔
          (4 : Int).toNat ≤ (pending id (NewReaderSize ([1, 2, 3, 4, 5] : List UInt8) 16)).length) ∧
        Settled id ((NewReaderSize ([1, 2, 3, 4, 5] : List UInt8) 16).Peek bytesRead 4).2 :=
  ⟨ends_bytesRead, by decide, by decide, settled_NewReaderSize _ _,
    Peek_ends ends_bytesRead _ 4 (by decide) (by decide) (settled_NewReaderSize _ _)⟩

theorem settled_fillIfEmpty
    (b : Reader σ)
    (hset : Settled rest b) :
    Settled rest (b.fillIfEmpty read) := by
  unfold fillIfEmpty
  split
  · exact settled_fill he b _ hset
  · exact hset

/-- After the fill of a round of `Discard`, something is buffered or an error is
recorded. -/
theorem fillIfEmpty_ends
    (b : Reader σ) :
    (b.fillIfEmpty read).Buffered = 0 → (b.fillIfEmpty read).err ≠ none := by
  unfold fillIfEmpty
  split
  · rename_i hzero
    by_cases hnil : rest b.rd = []
    · exact fun _ => (fill_of_rest_eq_nil he b _ hnil).1
    · have hmore := (fill_of_rest_ne_nil he b (by rw [hzero]; exact b.length_pos) hnil).2
      omega
  · rename_i hpos
    exact fun h => absurd h hpos

/-- The loop of `Discard` over a connection that ends, with more fuel than bytes to
skip: it skips as many of the `remain` bytes as are left, and fails exactly when fewer
are. -/
theorem discardLoop_ends
    (n fuel remain : Nat)
    (b : Reader σ)
    (hrem : remain ≤ n)
    (hfuel : remain < fuel)
    (hset : Settled rest b) :
    (discardLoop read n fuel remain b).1.1 = n - remain + min remain (pending rest b).length ∧
      ((discardLoop read n fuel remain b).1.2 = none ↔ remain ≤ (pending rest b).length) ∧
      Settled rest (discardLoop read n fuel remain b).2 := by
  induction fuel generalizing remain b with
  | zero => omega
  | succ fuel ih =>
    have hset₁ := settled_fillIfEmpty he b hset
    have hprog := fillIfEmpty_ends he b
    have hfill := pending_fillIfEmpty he.streams b
    -- the bytes left: what the fill buffered, then the rest of the stream
    have hlen : (pending rest b).length =
        (b.fillIfEmpty read).Buffered + (rest (b.fillIfEmpty read).rd).length := by
      rw [← hfill, pending, List.length_append, length_window]
    simp only [discardLoop]
    split
    · rename_i hdone
      dsimp only
      refine ⟨by omega, ⟨fun _ => by omega, fun _ => rfl⟩, settled_skip _ _ _ hset₁⟩
    · rename_i hmore
      split
      · rename_i herr
        -- a failed fill: the stream is over and all that was left is skipped
        have hnil := hset₁ herr
        rw [hnil, List.length_nil] at hlen
        dsimp only
        refine ⟨by omega, ⟨fun h => absurd h herr, fun h => by omega⟩, settled_readErr _⟩
      · rename_i hnone
        have hpos : 0 < (b.fillIfEmpty read).Buffered :=
          Nat.pos_of_ne_zero fun h => hnone (hprog h)
        have hskip := @pending_skip σ rest (b.fillIfEmpty read)
          (min (b.fillIfEmpty read).Buffered remain) (Nat.min_le_left _ _)
        have hlen' : (pending rest ((b.fillIfEmpty read).skip
            (min (b.fillIfEmpty read).Buffered remain) (Nat.min_le_left _ _))).length =
            (pending rest b).length - min (b.fillIfEmpty read).Buffered remain := by
          rw [← hfill, hskip, List.length_append, List.length_take, length_window]
          omega
        obtain ⟨hcount, herr, hset'⟩ := ih (remain - min (b.fillIfEmpty read).Buffered remain)
          _ (by omega) (by omega) (settled_skip _ _ _ hset₁)
        rw [hlen'] at hcount herr
        refine ⟨by rw [hcount]; omega, by rw [herr]; omega, hset'⟩

/-- `Discard` over a connection that ends: it skips `n` bytes, or all that are left
with an error when fewer are. -/
theorem Discard_ends
    (b : Reader σ)
    (n : Int)
    (hn : 0 ≤ n)
    (hset : Settled rest b) :
    (b.Discard read n).1.1 = min n.toNat (pending rest b).length ∧
      ((b.Discard read n).1.2 = none ↔ n.toNat ≤ (pending rest b).length) ∧
      Settled rest (b.Discard read n).2 := by
  unfold Discard
  rw [if_neg (by omega)]
  split
  · rename_i hzero
    subst hzero
    exact ⟨by simp, by simp, hset⟩
  · obtain ⟨hcount, herr, hset'⟩ :=
      discardLoop_ends he n.toNat (n.toNat + 1) n.toNat b (Nat.le_refl _) (Nat.lt_succ_self _) hset
    rw [Nat.sub_self, Nat.zero_add] at hcount
    exact ⟨hcount, herr, hset'⟩

omit he in
theorem Discard_ends_bytes :
    Ends bytesRead id ∧ (0 : Int) ≤ 7 ∧
      Settled id (NewReaderSize ([1, 2, 3, 4, 5] : List UInt8) 16) ∧
      ((NewReaderSize ([1, 2, 3, 4, 5] : List UInt8) 16).Discard bytesRead 7).1.1 =
          min (7 : Int).toNat (pending id (NewReaderSize ([1, 2, 3, 4, 5] : List UInt8) 16)).length ∧
        (((NewReaderSize ([1, 2, 3, 4, 5] : List UInt8) 16).Discard bytesRead 7).1.2 = none ↔
          (7 : Int).toNat ≤ (pending id (NewReaderSize ([1, 2, 3, 4, 5] : List UInt8) 16)).length) ∧
        Settled id ((NewReaderSize ([1, 2, 3, 4, 5] : List UInt8) 16).Discard bytesRead 7).2 :=
  ⟨ends_bytesRead, by decide, settled_NewReaderSize _ _,
    Discard_ends ends_bytesRead _ 7 (by decide) (settled_NewReaderSize _ _)⟩

/-- A read keeps a reader settled: the one read of the connection it may make fails only
at the end of the stream. -/
theorem settled_Read
    (b : Reader σ)
    (k : Nat)
    (hset : Settled rest b) :
    Settled rest (b.Read read k).2 := by
  unfold Read
  split
  · split
    · exact hset
    · exact settled_readErr _
  · split
    · split
      · exact settled_readErr _
      · rename_i hnone
        split
        · exact fun h => absurd (not_not.1 hnone) h
        · dsimp only
          have hall : Settled rest (b.readAll read) := by
            intro herr
            have hnil := he.rest_of_err b.rd b.buf.length herr
            have hstream := he.streams b.rd b.buf.length
            rw [hnil] at hstream
            exact (List.append_eq_nil_iff.1 hstream.symm).2
          split
          · exact settled_readErr _
          · exact hall
    · exact hset

/-- `Read` of a nonempty `p` over a connection that ends: some bytes and no error while
bytes are left, and no bytes with an error once none are. -/
theorem Read_ends
    (b : Reader σ)
    (k : Nat)
    (hk : 0 < k)
    (hset : Settled rest b) :
    ((b.Read read k).1.2 = none ∧ (b.Read read k).1.1 ≠ []) ∨
      ((b.Read read k).1.2 ≠ none ∧ (b.Read read k).1.1 = [] ∧ pending rest b = []) := by
  unfold Read
  rw [if_neg (by omega)]
  split
  · rename_i hempty
    have hwin : b.window = [] := by
      rw [← List.length_eq_zero_iff, length_window, Buffered, hempty, Nat.sub_self]
    have hpend : pending rest b = rest b.rd := by
      rw [pending, hwin, List.nil_append]
    split
    · rename_i herr
      exact Or.inr ⟨herr, rfl, by rw [hpend, hset herr]⟩
    · split
      · -- the large read goes straight to the connection
        by_cases hnil : rest b.rd = []
        · obtain ⟨hbytes, herr, -⟩ := he.read_of_rest_eq_nil hk hnil
          exact Or.inr ⟨herr, hbytes, by rw [hpend, hnil]⟩
        · exact Or.inl (he.read_of_rest_ne_nil hk hnil)
      · dsimp only
        by_cases hnil : rest b.rd = []
        · obtain ⟨hbytes, herr, -⟩ := he.read_of_rest_eq_nil b.length_pos hnil
          rw [if_pos (by rw [w_readAll, hbytes]; rfl)]
          exact Or.inr ⟨by rw [readErr, err_readAll]; exact herr, rfl, by rw [hpend, hnil]⟩
        · obtain ⟨-, hbytes⟩ := he.read_of_rest_ne_nil b.length_pos hnil
          have hw : (b.readAll read).w ≠ 0 := by
            rw [w_readAll]
            exact fun h => hbytes (List.length_eq_zero_iff.1 h)
          rw [if_neg hw]
          exact Or.inl ⟨rfl, copyOut_ne_nil _ k hk (by rw [window_readAll]; exact hbytes)⟩
  · rename_i hne
    have hwin : b.window ≠ [] := by
      rw [← List.length_pos_iff, length_window, Buffered]
      have := b.r_le_w
      omega
    exact Or.inl ⟨rfl, copyOut_ne_nil b k hk hwin⟩

/-- `Read` on a settled reader: the buffered reader as an `io.Reader` itself. -/
def readSettled
    (b : {b : Reader σ // Settled rest b})
    (k : Nat) : Chunk k × {b : Reader σ // Settled rest b} :=
  (⟨(b.1.Read read k).1.1, (b.1.Read read k).1.2, length_Read_le read b.1 k⟩,
    ⟨(b.1.Read read k).2, settled_Read he b.1 k b.2⟩)

/-- Over a connection that ends, the buffered reader is itself a reader that ends, its
stream the bytes still to be read: whatever the connection's chunks, a client sees one
stream, returned in order and ended by an error. -/
theorem ends_readSettled :
    Ends (readSettled he) (fun b => pending rest b.1) where
  streams := fun b k => pending_Read he.streams b.1 k
  progress := by
    intro b k hk hnil
    rcases Read_ends he b.1 k hk b.2 with ⟨-, hne⟩ | ⟨herr, -, -⟩
    · exact absurd hnil hne
    · exact herr
  bytes_of_err := by
    intro b k herr
    rcases Nat.eq_zero_or_pos k with hzero | hk
    · subst hzero
      exact List.eq_nil_of_length_eq_zero (Nat.le_zero.1 (length_Read_le read b.1 0))
    · rcases Read_ends he b.1 k hk b.2 with ⟨hnone, -⟩ | ⟨-, hnil, -⟩
      · exact absurd hnone herr
      · exact hnil
  rest_of_err := by
    intro b k herr
    rcases Nat.eq_zero_or_pos k with hzero | hk
    · subst hzero
      exact pending_of_Read_zero b.1 b.2 herr
    · rcases Read_ends he b.1 k hk b.2 with ⟨hnone, -⟩ | ⟨-, -, hpend⟩
      · exact absurd hnone herr
      · exact hpend

omit he in
theorem ends_readSettled_bytes :
    Ends bytesRead id ∧ Ends (readSettled ends_bytesRead) (fun b => pending id b.1) :=
  ⟨ends_bytesRead, ends_readSettled ends_bytesRead⟩

end Ends

end Reader

end Bufio
end TiProxy
