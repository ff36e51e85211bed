import Mathlib.Data.List.Basic

/-!
# Go byte slices

What Go code does with a `[]byte` when it builds or reads a wire format, on lists:
slicing, `bytes.IndexByte`, `copy` into a buffer, a one-element store, and the `%d`
verbs of `fmt`.  Each operation is `none` where Go panics.  A slice here has no
capacity beyond its length; positions are naturals, which agrees with Go's `int`
arithmetic on every slice shorter than `2 ^ 63`.

An encoder that makes a zero-filled buffer of the length it computed and then writes
field after field keeps the buffer in the shape `written ++ zeros`, with the
position at the end of `written`; `Fills.putBytes` and `Fills.putByte` say that one
write keeps that shape, and `Fills.bind` and `Fills.ite` chain the writes of a whole
encoder.

**Results.**
* `indexByte_append`: the first terminator after a string that has none.
* `BytesAt.readUntil`: the Go idiom `s[pos : pos+bytes.IndexByte(s[pos:], c)]` reads
  such a string back.
* `slice_append`: slicing out a known part.
* `copyAt_fill`, `setAt_fill`, `slice_fill`: writing into the zero tail, and reading
  back what is written.
-/

namespace GoBytes

section Slices

variable {α : Type*}

/-- `s[lo:hi]`. -/
def slice (s : List α) (lo hi : Nat) : Option (List α) :=
  if lo ≤ hi ∧ hi ≤ s.length then some ((s.drop lo).take (hi - lo)) else none

/-- `s[lo:]`. -/
def sliceFrom (s : List α) (lo : Nat) : Option (List α) :=
  if lo ≤ s.length then some (s.drop lo) else none

/-- `s[lo : lo+n]` for an `int` offset `n`: a negative `n` puts the upper bound
below the lower one, which panics. -/
def sliceLen (s : List α) (lo : Nat) (n : Int) : Option (List α) :=
  if 0 ≤ n then slice s lo (lo + n.toNat) else none

/-- Slicing out the part `x` that starts at `lo`. -/
theorem slice_append
    {pre x rest : List α}
    {lo : Nat}
    (h : pre.length = lo) :
    slice (pre ++ x ++ rest) lo (lo + x.length) = some x := by
  have hlen : lo + x.length ≤ (pre ++ x ++ rest).length := by
    simp only [List.length_append]
    omega
  rw [slice, if_pos ⟨Nat.le_add_right _ _, hlen⟩, List.append_assoc, List.drop_left' h,
    Nat.add_sub_cancel_left, List.take_left' rfl]

theorem sliceLen_of_nonneg
    {s : List α}
    {lo : Nat}
    {n : Int}
    (h : 0 ≤ n) :
    sliceLen s lo n = slice s lo (lo + n.toNat) := by
  rw [sliceLen, if_pos h]

end Slices

section IndexByte

variable {α : Type*} [DecidableEq α]

/-- The position of the first `c` in a list. -/
def findByte (c : α) : List α → Option Nat
  | [] => none
  | x :: xs => if x = c then some 0 else (findByte c xs).map (· + 1)

/-- `bytes.IndexByte(s, c)`: the index of the first `c` in `s`, or `-1`. -/
def indexByte (s : List α) (c : α) : Int :=
  ((findByte c s).map Int.ofNat).getD (-1)

theorem findByte_append
    {c : α}
    {s : List α}
    (rest : List α)
    (h : c ∉ s) :
    findByte c (s ++ c :: rest) = some s.length := by
  induction s with
  | nil => simp [findByte]
  | cons x xs ih =>
      have hx : x ≠ c := fun hxc => h (hxc ▸ List.mem_cons_self)
      have hxs : c ∉ xs := fun hc => h (List.mem_cons_of_mem x hc)
      simp [findByte, hx, ih hxs]

/-- The first terminator after a string that has none is at the string's length. -/
theorem indexByte_append
    {c : α}
    {s : List α}
    (rest : List α)
    (h : c ∉ s) :
    indexByte (s ++ c :: rest) c = s.length := by
  simp [indexByte, findByte_append rest h]

/-- The Go idiom `s[pos : pos+bytes.IndexByte(s[pos:], c)]`: the bytes from `pos` up
to the next `c`; it panics where no `c` follows. -/
def readUntil (s : List α) (pos : Nat) (c : α) : Option (List α) := do
  let rest ← sliceFrom s pos
  sliceLen s pos (indexByte rest c)

/-- `strings.Index(s, sub)`: the index of the first `sub` in `s`. -/
def indexSub (sub : List α) : List α → Option Nat
  | [] => if sub.isPrefixOf [] then some 0 else none
  | x :: xs => if sub.isPrefixOf (x :: xs) then some 0 else (indexSub sub xs).map (· + 1)

/-- A match that lies inside a prefix is the first one whatever follows the prefix. -/
theorem indexSub_append
    {sub : List α} :
    ∀ {p : List α} {i : Nat} (t : List α), indexSub sub p = some i →
      i + sub.length ≤ p.length → indexSub sub (p ++ t) = some i
  | [], i, t, h, hi => by
      have hsub : sub = [] := List.eq_nil_of_length_eq_zero (by
        simp only [List.length_nil] at hi
        omega)
      subst hsub
      cases t <;> simp_all [indexSub]
  | x :: xs, i, t, h, hi => by
      unfold indexSub at h
      by_cases hp : sub.isPrefixOf (x :: xs)
      · -- the match at the front of the prefix stays at the front
        rw [if_pos hp] at h
        cases h
        have hp' : sub.isPrefixOf (x :: (xs ++ t)) := by
          rw [List.isPrefixOf_iff_prefix] at hp ⊢
          exact hp.trans (List.prefix_append _ _)
        rw [List.cons_append, indexSub, if_pos hp']
      · -- a mismatch inside the prefix is a mismatch of the longer list too
        rw [if_neg hp] at h
        obtain ⟨j, hj, rfl⟩ := Option.map_eq_some_iff.mp h
        have hnot : ¬ sub.isPrefixOf (x :: (xs ++ t)) := fun h' => hp (by
          rw [List.isPrefixOf_iff_prefix] at h' ⊢
          exact List.prefix_of_prefix_length_le h' (List.prefix_append _ _)
            (by simp only [List.length_cons] at hi ⊢; omega))
        rw [List.cons_append, indexSub, if_neg hnot,
          indexSub_append t hj (by simp only [List.length_cons] at hi; omega)]
        rfl

end IndexByte

section Writes

variable {α : Type*}

/-- `s[i] = x`. -/
def setAt (s : List α) (i : Nat) (x : α) : Option (List α) :=
  if i < s.length then some (s.set i x) else none

/-- `copy(s[pos:], src)`: as much of `src` as fits, written from `pos`, with the count
copied. -/
def copyAt (s : List α) (pos : Nat) (src : List α) : Option (List α × Nat) :=
  if pos ≤ s.length then
    let n := min (s.length - pos) src.length
    some (s.take pos ++ src.take n ++ s.drop (pos + n), n)
  else none

/-- `pos += copy(s[pos:], src)`. -/
def putBytes (s : List α) (pos : Nat) (src : List α) : Option (List α × Nat) := do
  let (s, n) ← copyAt s pos src
  pure (s, pos + n)

/-- `s[pos] = x; pos++`. -/
def putByte (s : List α) (pos : Nat) (x : α) : Option (List α × Nat) := do
  let s ← setAt s pos x
  pure (s, pos + 1)

/-- `copy` into the zero tail of a buffer that has room. -/
theorem copyAt_fill
    {w src : List α}
    {z : α}
    {k pos : Nat}
    (hw : w.length = pos)
    (hk : src.length ≤ k) :
    copyAt (w ++ List.replicate k z) pos src =
      some ((w ++ src) ++ List.replicate (k - src.length) z, src.length) := by
  have hle : pos ≤ (w ++ List.replicate k z).length := by
    simp only [List.length_append, List.length_replicate]
    omega
  have hmin : min ((w ++ List.replicate k z).length - pos) src.length = src.length := by
    simp only [List.length_append, List.length_replicate]
    omega
  -- past what is written the buffer is zeros, and `src` ends inside them
  have hdrop : (w ++ List.replicate k z).drop (pos + src.length) =
      List.replicate (k - src.length) z := by
    rw [List.drop_append, List.drop_eq_nil_of_le (by omega), List.nil_append,
      List.drop_replicate, hw, Nat.add_sub_cancel_left]
  rw [copyAt, if_pos hle]
  dsimp only
  rw [hmin, List.take_left' hw, List.take_of_length_le (Nat.le_refl _), hdrop]

theorem setAt_fill
    {w : List α}
    {z x : α}
    {k pos : Nat}
    (hw : w.length = pos)
    (hk : 0 < k) :
    setAt (w ++ List.replicate k z) pos x = some ((w ++ [x]) ++ List.replicate (k - 1) z) := by
  obtain ⟨j, rfl⟩ : ∃ j, k = j + 1 := ⟨k - 1, by omega⟩
  have hlt : pos < (w ++ List.replicate (j + 1) z).length := by
    simp only [List.length_append, List.length_replicate]
    omega
  rw [setAt, if_pos hlt, List.set_append_right _ _ (by omega), hw, Nat.sub_self,
    List.replicate_succ, List.set_cons_zero, Nat.add_sub_cancel, List.append_assoc,
    List.singleton_append]

/-- Skipping `j` positions of the zero tail leaves zeros behind. -/
theorem replicate_skip
    (w : List α)
    (z : α)
    {j k : Nat}
    (hj : j ≤ k) :
    w ++ List.replicate k z = (w ++ List.replicate j z) ++ List.replicate (k - j) z := by
  rw [List.append_assoc, ← List.replicate_add, Nat.add_sub_cancel' hj]

/-- `s[:pos]` at the end of what is written. -/
theorem slice_fill
    {w : List α}
    {z : α}
    {k pos : Nat}
    (hw : w.length = pos) :
    slice (w ++ List.replicate k z) 0 pos = some w := by
  have hle : pos ≤ (w ++ List.replicate k z).length := by
    simp only [List.length_append]
    omega
  rw [slice, if_pos ⟨Nat.zero_le _, hle⟩, List.drop_zero, Nat.sub_zero, List.take_left' hw]

/-! #### Steps that write into the zero tail

A write step takes the buffer and the position and returns both.  `Fills z step out`
says that on every buffer of the shape `written ++ zeros`, with the position at the end
of `written` and room for `out`, the step writes exactly `out` there.  The rules
below build this fact for a whole encoder from its parts, following the shape of
its code: a sequence of steps, a branch on a flag, a step that writes nothing. -/

/-- The step writes `out` into the zero tail of every buffer with room for it. -/
def Fills (z : α) (step : List α → Nat → Option (List α × Nat)) (out : List α) : Prop :=
  ∀ (w : List α) (k pos : Nat), w.length = pos → out.length ≤ k →
    step (w ++ List.replicate k z) pos =
      some ((w ++ out) ++ List.replicate (k - out.length) z, pos + out.length)

/-- `pos += copy(s[pos:], src)`. -/
theorem Fills.putBytes
    (z : α)
    (src : List α) :
    Fills z (putBytes · · src) src := by
  intro w k pos hw hk
  simp only [GoBytes.putBytes, copyAt_fill hw hk, Option.bind_eq_bind, Option.bind_some,
    Option.pure_def]

/-- `s[pos] = x; pos++`. -/
theorem Fills.putByte
    (z x : α) :
    Fills z (putByte · · x) [x] := by
  intro w k pos hw hk
  simp only [GoBytes.putByte, setAt_fill hw hk, Option.bind_eq_bind, Option.bind_some,
    Option.pure_def, List.length_singleton]

/-- A step that writes nothing. -/
theorem Fills.pure
    (z : α) :
    Fills z (fun s pos => Pure.pure (s, pos)) [] := by
  intro w k pos _ _
  simp

/-- One step after another writes what the first writes, then what the second does. -/
theorem Fills.bind
    {z : α}
    {f g : List α → Nat → Option (List α × Nat)}
    {a b : List α}
    (hf : Fills z f a)
    (hg : Fills z g b) :
    Fills z (fun s pos => do let (s, pos) ← f s pos; g s pos) (a ++ b) := by
  intro w k pos hw hk
  have hlen : (a ++ b).length = a.length + b.length := List.length_append
  have ha : a.length ≤ k := by omega
  simp only [hf w k pos hw ha, Option.bind_eq_bind, Option.bind_some]
  rw [hg (w ++ a) (k - a.length) (pos + a.length) (by simp [hw]) (by omega), hlen,
    Nat.sub_sub, Nat.add_assoc, List.append_assoc w a b]

/-- A branch writes what the branch taken writes. -/
theorem Fills.ite
    {z : α}
    (c : Prop)
    [Decidable c]
    {f g : List α → Nat → Option (List α × Nat)}
    {a b : List α}
    (hf : Fills z f a)
    (hg : Fills z g b) :
    Fills z (fun s pos => if c then f s pos else g s pos) (if c then a else b) := by
  intro w k pos hw hk
  by_cases hc : c
  · simp only [if_pos hc] at hk ⊢
    exact hf w k pos hw hk
  · simp only [if_neg hc] at hk ⊢
    exact hg w k pos hw hk

/-- A fact `Fills z step out` as the rewrite it stands for. -/
theorem Fills.run
    {z : α}
    {step : List α → Nat → Option (List α × Nat)}
    {out : List α}
    (h : Fills z step out)
    {w : List α}
    {k pos : Nat}
    (hw : w.length = pos)
    (hk : out.length ≤ k) :
    step (w ++ List.replicate k z) pos =
      some ((w ++ out) ++ List.replicate (k - out.length) z, pos + out.length) :=
  h w k pos hw hk

/-- A step after `j` positions skipped since the last write, as `pos += 23` skips a
zero filler. -/
theorem Fills.run_skip
    {z : α}
    {step : List α → Nat → Option (List α × Nat)}
    {out : List α}
    (h : Fills z step out)
    (j : Nat)
    {w : List α}
    {k pos : Nat}
    (hw : w.length + j = pos)
    (hk : j + out.length ≤ k) :
    step (w ++ List.replicate k z) pos =
      some ((w ++ List.replicate j z ++ out) ++ List.replicate (k - j - out.length) z,
        pos + out.length) := by
  rw [replicate_skip w z (show j ≤ k by omega)]
  exact h _ _ pos (by simp [hw]) (by omega)

/-- `copy` into a fresh zero buffer. -/
theorem copyAt_replicate
    {src : List α}
    {z : α}
    {k : Nat}
    (hk : src.length ≤ k) :
    copyAt (List.replicate k z) 0 src = some (src ++ List.replicate (k - src.length) z, src.length) := by
  simpa using copyAt_fill (w := []) (z := z) rfl hk

/-- `s[pos] = x` after `j` positions skipped. -/
theorem setAt_skip
    (j : Nat)
    {w : List α}
    {z x : α}
    {k pos : Nat}
    (hw : w.length + j = pos)
    (hk : j < k) :
    setAt (w ++ List.replicate k z) pos x =
      some ((w ++ List.replicate j z ++ [x]) ++ List.replicate (k - j - 1) z) := by
  rw [replicate_skip w z (show j ≤ k by omega)]
  exact setAt_fill (by simp [hw]) (by omega)

/-- A loop that appends the bytes of each element, as `buf.Write` in a `range` loop
does. -/
theorem foldl_append_eq_flatMap
    {β : Type*}
    (f : β → List α)
    (l : List β)
    (init : List α) :
    l.foldl (fun buf x => buf ++ f x) init = init ++ l.flatMap f := by
  induction l generalizing init with
  | nil => simp
  | cons x xs ih => simp [ih, List.append_assoc]

/-- `if flag { step }`. -/
def putWhen (flag : Prop) [Decidable flag] (step : List α → Nat → Option (List α × Nat))
    (s : List α) (pos : Nat) : Option (List α × Nat) :=
  if flag then step s pos else pure (s, pos)

theorem Fills.when
    {z : α}
    (flag : Prop)
    [Decidable flag]
    {step : List α → Nat → Option (List α × Nat)}
    {out : List α}
    (h : Fills z step out) :
    Fills z (putWhen flag step) (if flag then out else []) :=
  Fills.ite flag h (Fills.pure z)

/-- `pos += copy(s[pos:], x); s[pos] = c; pos++`: a string and its terminator. -/
def putTerminated (s : List α) (pos : Nat) (x : List α) (c : α) : Option (List α × Nat) := do
  let (s, pos) ← putBytes s pos x
  putByte s pos c

theorem Fills.putTerminated
    (z : α)
    (x : List α)
    (c : α) :
    Fills z (putTerminated · · x c) (x ++ [c]) :=
  Fills.bind (Fills.putBytes z x) (Fills.putByte z c)

end Writes

section Reads

variable {α : Type*}

/-- The bytes of `s` from `pos` on are `l`: what a reader at `pos` sees. -/
def BytesAt (s : List α) (pos : Nat) (l : List α) : Prop :=
  pos ≤ s.length ∧ s.drop pos = l

theorem BytesAt.zero
    (s : List α) :
    BytesAt s 0 s :=
  ⟨Nat.zero_le _, List.drop_zero⟩

/-- Past a part, a reader sees what follows it. -/
theorem BytesAt.advance
    {s x rest : List α}
    {pos : Nat}
    (h : BytesAt s pos (x ++ rest)) :
    BytesAt s (pos + x.length) rest := by
  obtain ⟨hle, hdrop⟩ := h
  have hlen : s.length - pos = x.length + rest.length := by
    have := congrArg List.length hdrop
    simpa only [List.length_drop, List.length_append] using this
  refine ⟨by omega, ?_⟩
  rw [← List.drop_drop, hdrop, List.drop_left]

theorem BytesAt.length_le
    {s l : List α}
    {pos : Nat}
    (h : BytesAt s pos l) :
    l.length + pos = s.length := by
  have := congrArg List.length h.2
  rw [List.length_drop] at this
  have := h.1
  omega

/-- A last part, as a part followed by nothing. -/
theorem BytesAt.append_nil
    {s l : List α}
    {pos : Nat}
    (h : BytesAt s pos l) :
    BytesAt s pos (l ++ []) := by
  rwa [List.append_nil]

theorem BytesAt.getElem?
    {s rest : List α}
    {pos : Nat}
    {x : α}
    (h : BytesAt s pos (x :: rest)) :
    s[pos]? = some x := by
  have := congrArg (·[0]?) h.2
  simpa only [List.getElem?_drop, Nat.add_zero, List.getElem?_cons_zero] using this

theorem BytesAt.sliceFrom
    {s l : List α}
    {pos : Nat}
    (h : BytesAt s pos l) :
    sliceFrom s pos = some l := by
  rw [GoBytes.sliceFrom, if_pos h.1, h.2]

theorem BytesAt.slice
    {s x rest : List α}
    {pos : Nat}
    (h : BytesAt s pos (x ++ rest)) :
    slice s pos (pos + x.length) = some x := by
  rw [GoBytes.slice, if_pos ⟨Nat.le_add_right _ _, h.advance.1⟩, h.2, Nat.add_sub_cancel_left,
    List.take_left]

/-- Reading up to the terminator gives back a string that has none. -/
theorem BytesAt.readUntil
    [DecidableEq α]
    {s x rest : List α}
    {pos : Nat}
    {c : α}
    (h : BytesAt s pos (x ++ c :: rest))
    (hc : c ∉ x) :
    readUntil s pos c = some x := by
  simp only [GoBytes.readUntil, h.sliceFrom, Option.bind_eq_bind, Option.bind_some,
    indexByte_append rest hc, sliceLen_of_nonneg (Int.natCast_nonneg _), Int.toNat_natCast,
    h.slice]

/-- `x = s[pos : pos+bytes.IndexByte(s[pos:], c)]; pos += len(x) + 1`: a terminated
string and the position past its terminator. -/
def readTerminated [DecidableEq α] (s : List α) (pos : Nat) (c : α) : Option (List α × Nat) := do
  let x ← readUntil s pos c
  pure (x, pos + x.length + 1)

theorem BytesAt.readTerminated
    [DecidableEq α]
    {s x rest : List α}
    {pos : Nat}
    {c : α}
    (h : BytesAt s pos (x ++ c :: rest))
    (hc : c ∉ x) :
    readTerminated s pos c = some (x, pos + x.length + 1) := by
  simp only [GoBytes.readTerminated, h.readUntil hc, Option.bind_eq_bind, Option.bind_some,
    Option.pure_def]

/-! A parser reads at a running position what an encoder wrote at a running position.
`Reads read x enc` says that the step `read` returns `x`, and the position past `enc`,
wherever the bytes `enc` stand; the rules below give it for the steps of a parser from
the bytes of the matching writer steps. -/

variable {β : Type*}

/-- The step reads `x` back from the bytes `enc`, wherever they stand. -/
def Reads (read : List α → Nat → Option (β × Nat)) (x : β) (enc : List α) : Prop :=
  ∀ (s rest : List α) (pos : Nat), BytesAt s pos (enc ++ rest) →
    read s pos = some (x, pos + enc.length)

theorem Reads.readTerminated
    [DecidableEq α]
    {x : List α}
    {c : α}
    (hc : c ∉ x) :
    Reads (GoBytes.readTerminated · · c) x (x ++ [c]) := by
  intro s rest pos h
  have h' : BytesAt s pos (x ++ c :: rest) := by
    simpa only [List.append_assoc, List.singleton_append] using h
  show GoBytes.readTerminated s pos c = _
  rw [h'.readTerminated hc, List.length_append, List.length_singleton, Nat.add_assoc]

/-- A branch reads back what the branch taken wrote. -/
theorem Reads.ite
    (c : Prop)
    [Decidable c]
    {f g : List α → Nat → Option (β × Nat)}
    {x : β}
    {a b : List α}
    (hf : c → Reads f x a)
    (hg : ¬ c → Reads g x b) :
    Reads (fun s pos => if c then f s pos else g s pos) x (if c then a else b) := by
  intro s rest pos hb
  by_cases hc : c
  · simp only [if_pos hc] at hb ⊢
    exact hf hc s rest pos hb
  · simp only [if_neg hc] at hb ⊢
    exact hg hc s rest pos hb

/-- `if flag { x, pos = read(s, pos) }`, with `x` left at `d` otherwise. -/
def readWhen (flag : Prop) [Decidable flag] (read : List α → Nat → Option (β × Nat)) (d : β)
    (s : List α) (pos : Nat) : Option (β × Nat) :=
  if flag then read s pos else pure (d, pos)

/-- A flagged part reads back where the flag is set; where it is not, nothing was
written and the value the parser leaves is the one the writer had. -/
theorem Reads.when
    (flag : Prop)
    [Decidable flag]
    {read : List α → Nat → Option (β × Nat)}
    {x d : β}
    {enc : List α}
    (h : flag → Reads read x enc)
    (hd : ¬ flag → x = d) :
    Reads (readWhen flag read d) x (if flag then enc else []) := by
  intro s rest pos hb
  by_cases hf : flag
  · simp only [if_pos hf] at hb
    simp only [readWhen, if_pos hf]
    exact h hf s rest pos hb
  · simp only [readWhen, if_neg hf, hd hf, List.length_nil, Nat.add_zero]
    rfl

end Reads

/-! ### The `%d` verbs of `fmt` -/

/-- The ASCII bytes of a string literal. -/
def ascii (s : String) : List UInt8 := s.toList.map Char.toUInt8

/-- `%d` of a natural number: its decimal digits. -/
def decimal (n : Nat) : List UInt8 := (Nat.toDigits 10 n).map Char.toUInt8

/-- `%0wd`: the digits padded with leading zeros to at least `w` bytes. -/
def zeroPadded (w n : Nat) : List UInt8 :=
  List.replicate (w - (decimal n).length) (Char.toUInt8 '0') ++ decimal n

/-- `%+0wd` of an `int`: the sign always, then the digits of the magnitude padded to
`w - 1` bytes, as `fmt` counts the sign in the width. -/
def signedZeroPadded (w : Nat) (i : Int) : List UInt8 :=
  Char.toUInt8 (if i < 0 then '-' else '+') :: zeroPadded (w - 1) i.natAbs

example : zeroPadded 4 7 = ascii "0007" := by decide
example : signedZeroPadded 2 (-90) = ascii "-90" := by decide

end GoBytes
