import Mathlib.Data.Nat.Bitwise

/-!
# Three-byte little-endian integers

Wire formats often carry a length in three bytes, lowest first, written as
`byte(n), byte(n >> 8), byte(n >> 16)` and read back as
`int(b0) | int(b1) << 8 | int(b2) << 16`.  This module states those two
operations on `UInt8` bytes and proves that they are inverse below `2 ^ 24`.

**Results.**
* `decode24_eq`: the bitwise reading is the positional sum of the bytes.
* `decode24_lt`: every reading is below `2 ^ 24`.
* `decode24_encode24`: reading what was written gives the number back;
  `decode24_encode24_mod`: a number past `2 ^ 24` comes back modulo `2 ^ 24`.
* `uint16_putUint16`: the same for Go's two-byte `binary.LittleEndian` pair.
* `decode_encode`: `w` bytes keep a number modulo `2 ^ (8 * w)`; `uint16_encode`,
  `uint32_encode`, `uint64_encode`: the readers of Go's `binary.LittleEndian` read
  them back.
-/

namespace LittleEndian

/-- The three low bytes of `n`, lowest first. -/
def encode24 (n : Nat) : List UInt8 :=
  [UInt8.ofNat n, UInt8.ofNat (n >>> 8), UInt8.ofNat (n >>> 16)]

/-- The number that three bytes, lowest first, stand for. -/
def decode24 (b0 b1 b2 : UInt8) : Nat :=
  b0.toNat ||| b1.toNat <<< 8 ||| b2.toNat <<< 16

/-- Or-ing a number below `2 ^ i` with a multiple of `2 ^ i` adds them. -/
theorem or_shiftLeft_eq_add
    {a b i : Nat}
    (h : a < 2 ^ i) :
    a ||| b <<< i = a + b * 2 ^ i := by
  rw [Nat.or_comm, ← Nat.shiftLeft_add_eq_or_of_lt h, Nat.shiftLeft_eq, Nat.add_comm]

/-- The bitwise reading is the positional sum of the bytes. -/
theorem decode24_eq
    (b0 b1 b2 : UInt8) :
    decode24 b0 b1 b2 = b0.toNat + b1.toNat * 2 ^ 8 + b2.toNat * 2 ^ 16 := by
  have h0 := UInt8.toNat_lt b0
  have h1 := UInt8.toNat_lt b1
  have hlow : b0.toNat + b1.toNat * 2 ^ 8 < 2 ^ 16 := by
    omega
  unfold decode24
  rw [or_shiftLeft_eq_add h0, or_shiftLeft_eq_add hlow]

/-- Every reading is below `2 ^ 24`. -/
theorem decode24_lt
    (b0 b1 b2 : UInt8) :
    decode24 b0 b1 b2 < 2 ^ 24 := by
  have h0 := UInt8.toNat_lt b0
  have h1 := UInt8.toNat_lt b1
  have h2 := UInt8.toNat_lt b2
  rw [decode24_eq]
  omega

/-- Reading the bytes written for `n < 2 ^ 24` gives `n` back. -/
theorem decode24_encode24
    {n : Nat}
    (h : n < 2 ^ 24) :
    decode24 (UInt8.ofNat n) (UInt8.ofNat (n >>> 8)) (UInt8.ofNat (n >>> 16)) = n := by
  rw [decode24_eq]
  simp only [UInt8.toNat_ofNat', Nat.shiftRight_eq_div_pow]
  omega

/-- Three bytes keep `n` modulo `2 ^ 24`: a longer number loses its high bits. -/
theorem decode24_encode24_mod
    (n : Nat) :
    decode24 (UInt8.ofNat n) (UInt8.ofNat (n >>> 8)) (UInt8.ofNat (n >>> 16)) = n % 2 ^ 24 := by
  rw [decode24_eq]
  simp only [UInt8.toNat_ofNat', Nat.shiftRight_eq_div_pow]
  omega

/-! ### Two and four bytes -/

/-- `binary.LittleEndian.Uint16`: the number the first two bytes stand for, lowest
first; `none` where its bounds check fails. -/
def uint16 : List UInt8 → Option UInt16
  | b0 :: b1 :: _ => some (b0.toUInt16 ||| b1.toUInt16 <<< 8)
  | _ => none

/-- `binary.LittleEndian.Uint32`. -/
def uint32 : List UInt8 → Option UInt32
  | b0 :: b1 :: b2 :: b3 :: _ =>
      some (b0.toUInt32 ||| b1.toUInt32 <<< 8 ||| b2.toUInt32 <<< 16 ||| b3.toUInt32 <<< 24)
  | _ => none

/-- `binary.LittleEndian.PutUint16`: the two bytes of `v`, lowest first. -/
def putUint16 (v : UInt16) : List UInt8 :=
  [v.toUInt8, (v >>> 8).toUInt8]

/-- Reading two bytes written by `putUint16` gives the number back. -/
@[simp] theorem uint16_putUint16
    (v : UInt16)
    (rest : List UInt8) :
    uint16 (putUint16 v ++ rest) = some v := by
  simp only [putUint16, List.cons_append, List.nil_append, uint16, Option.some.injEq]
  apply UInt16.toNat_inj.mp
  have h8 : (8 : UInt16).toNat % 16 = 8 := rfl
  simp only [UInt16.toNat_or, UInt16.toNat_shiftLeft, UInt8.toNat_toUInt16, UInt16.toNat_toUInt8,
    UInt16.toNat_shiftRight, h8]
  -- the high byte shifted back stays below 2 ^ 16, and the two bytes do not overlap
  have hhigh : (((v.toNat >>> 8) % (2 ^ 8)) <<< 8) < 2 ^ 16 := by
    rw [Nat.shiftLeft_eq]
    omega
  rw [Nat.mod_eq_of_lt hhigh, or_shiftLeft_eq_add (Nat.mod_lt _ (Nat.two_pow_pos 8)),
    Nat.shiftRight_eq_div_pow]
  have := v.toNat_lt
  omega

/-! ### Any number of bytes -/

/-- The `w` low bytes of `n`, lowest first: `byte(n), byte(n >> 8), …`. -/
def encode : Nat → Nat → List UInt8
  | 0, _ => []
  | w + 1, n => UInt8.ofNat n :: encode w (n >>> 8)

/-- The number that bytes stand for, lowest first: the bytes shifted into place and
or-ed together. -/
def decode : List UInt8 → Nat
  | [] => 0
  | b :: bs => b.toNat ||| decode bs <<< 8

@[simp] theorem length_encode
    (w n : Nat) :
    (encode w n).length = w := by
  induction w generalizing n with
  | zero => rfl
  | succ w ih => simp [encode, ih]

/-- The bytes do not overlap, so their ors are their positional sum. -/
theorem decode_cons
    (b : UInt8)
    (bs : List UInt8) :
    decode (b :: bs) = b.toNat + decode bs * 2 ^ 8 := by
  rw [decode, or_shiftLeft_eq_add (UInt8.toNat_lt b)]

@[simp] theorem decode_nil : decode [] = 0 := rfl

/-- `w` bytes keep a number modulo `2 ^ (8 * w)`. -/
theorem decode_encode
    (w n : Nat) :
    decode (encode w n) = n % 2 ^ (8 * w) := by
  induction w generalizing n with
  | zero => simp [encode, Nat.mod_one]
  | succ w ih =>
      rw [encode, decode_cons, ih, UInt8.toNat_ofNat', Nat.shiftRight_eq_div_pow,
        Nat.mul_succ, Nat.pow_add, Nat.mul_comm (2 ^ (8 * w)), Nat.mod_mul, Nat.mul_comm (2 ^ 8)]

/-- `binary.LittleEndian.Uint64`: the number the first eight bytes stand for, lowest
first; `none` where its bounds check fails. -/
def uint64 (b : List UInt8) : Option UInt64 :=
  if 8 ≤ b.length then some (UInt64.ofNat (decode (b.take 8))) else none

/-- The two-byte reader is `decode` on its bytes. -/
theorem uint16_eq_decode
    (b0 b1 : UInt8)
    (rest : List UInt8) :
    uint16 (b0 :: b1 :: rest) = some (UInt16.ofNat (decode [b0, b1])) := by
  simp only [uint16, Option.some.injEq]
  apply UInt16.toNat_inj.mp
  have h8 : (8 : UInt16).toNat % 16 = 8 := rfl
  have hb0 := UInt8.toNat_lt b0
  have hb1 := UInt8.toNat_lt b1
  have hhigh : b1.toNat <<< 8 < 2 ^ 16 := by
    rw [Nat.shiftLeft_eq]
    omega
  simp only [UInt16.toNat_or, UInt16.toNat_shiftLeft, UInt8.toNat_toUInt16, h8,
    UInt16.toNat_ofNat', decode_cons, decode_nil]
  rw [Nat.mod_eq_of_lt hhigh, or_shiftLeft_eq_add hb0]
  omega

/-- The four-byte reader is `decode` on its bytes. -/
theorem uint32_eq_decode
    (b0 b1 b2 b3 : UInt8)
    (rest : List UInt8) :
    uint32 (b0 :: b1 :: b2 :: b3 :: rest) = some (UInt32.ofNat (decode [b0, b1, b2, b3])) := by
  simp only [uint32, Option.some.injEq]
  apply UInt32.toNat_inj.mp
  have h8 : (8 : UInt32).toNat % 32 = 8 := rfl
  have h16 : (16 : UInt32).toNat % 32 = 16 := rfl
  have h24 : (24 : UInt32).toNat % 32 = 24 := rfl
  have hb0 := UInt8.toNat_lt b0
  have hb1 := UInt8.toNat_lt b1
  have hb2 := UInt8.toNat_lt b2
  have hb3 := UInt8.toNat_lt b3
  -- every byte shifted into place stays below `2 ^ 32`
  have hs1 : b1.toNat <<< 8 < 2 ^ 32 := by rw [Nat.shiftLeft_eq]; omega
  have hs2 : b2.toNat <<< 16 < 2 ^ 32 := by rw [Nat.shiftLeft_eq]; omega
  have hs3 : b3.toNat <<< 24 < 2 ^ 32 := by rw [Nat.shiftLeft_eq]; omega
  simp only [UInt32.toNat_or, UInt32.toNat_shiftLeft, UInt8.toNat_toUInt32, h8, h16, h24,
    UInt32.toNat_ofNat', decode_cons, decode_nil]
  rw [Nat.mod_eq_of_lt hs1, Nat.mod_eq_of_lt hs2, Nat.mod_eq_of_lt hs3,
    or_shiftLeft_eq_add hb0, or_shiftLeft_eq_add (show b0.toNat + b1.toNat * 2 ^ 8 < 2 ^ 16 by omega),
    or_shiftLeft_eq_add (show b0.toNat + b1.toNat * 2 ^ 8 + b2.toNat * 2 ^ 16 < 2 ^ 24 by omega)]
  omega

theorem uint16_encode
    (n : Nat)
    (rest : List UInt8) :
    uint16 (encode 2 n ++ rest) = some (UInt16.ofNat n) := by
  have h := decode_encode 2 n
  simp only [encode, List.cons_append, List.nil_append] at h ⊢
  rw [uint16_eq_decode, h]
  apply congrArg some
  apply UInt16.toNat_inj.mp
  simp [UInt16.toNat_ofNat']

theorem uint32_encode
    (n : Nat)
    (rest : List UInt8) :
    uint32 (encode 4 n ++ rest) = some (UInt32.ofNat n) := by
  have h := decode_encode 4 n
  simp only [encode, List.cons_append, List.nil_append] at h ⊢
  rw [uint32_eq_decode, h]
  apply congrArg some
  apply UInt32.toNat_inj.mp
  simp [UInt32.toNat_ofNat']

theorem uint64_encode
    (n : Nat)
    (rest : List UInt8) :
    uint64 (encode 8 n ++ rest) = some (UInt64.ofNat n) := by
  have htake : (encode 8 n ++ rest).take 8 = encode 8 n :=
    List.take_left' (length_encode 8 n)
  rw [uint64, if_pos (by simp), htake, decode_encode]
  apply congrArg some
  apply UInt64.toNat_inj.mp
  simp [UInt64.toNat_ofNat']

/-! ### Go's byte expressions

Go code spells the little-endian bytes of an integer out as `byte(n), byte(n>>8), …`
and reads them back as `uint64(b0) | uint64(b1)<<8 | …`.  The lemmas below identify
those spellings with `encode` and `decode`, one per width the protocol code uses. -/

/-- A byte or-ed in above a number below `2 ^ k` adds its place value. -/
theorem or_mul_two_pow_eq_add
    {a b k : Nat}
    (ha : a < 2 ^ k) :
    a ||| b * 2 ^ k = a + b * 2 ^ k := by
  simpa only [Nat.shiftLeft_eq] using or_shiftLeft_eq_add (b := b) ha

/-- `uint64(b0) | uint64(b1)<<8`. -/
theorem toNat_or_two
    (b0 b1 : UInt8) :
    (b0.toUInt64 ||| b1.toUInt64 <<< 8).toNat = decode [b0, b1] := by
  have h0 := b0.toNat_lt
  have h1 := b1.toNat_lt
  simp only [UInt64.toNat_or, UInt64.toNat_shiftLeft, UInt8.toNat_toUInt64, UInt64.reduceToNat,
    Nat.reduceMod, Nat.shiftLeft_eq, decode_cons, decode_nil]
  -- every shifted byte stays below `2 ^ 64`, and each or adds a byte above the last
  simp (disch := omega) only [Nat.mod_eq_of_lt, or_mul_two_pow_eq_add]
  omega

/-- `uint64(b0) | uint64(b1)<<8 | uint64(b2)<<16`. -/
theorem toNat_or_three
    (b0 b1 b2 : UInt8) :
    (b0.toUInt64 ||| b1.toUInt64 <<< 8 ||| b2.toUInt64 <<< 16).toNat = decode [b0, b1, b2] := by
  have h0 := b0.toNat_lt
  have h1 := b1.toNat_lt
  have h2 := b2.toNat_lt
  simp only [UInt64.toNat_or, UInt64.toNat_shiftLeft, UInt8.toNat_toUInt64, UInt64.reduceToNat,
    Nat.reduceMod, Nat.shiftLeft_eq, decode_cons, decode_nil]
  simp (disch := omega) only [Nat.mod_eq_of_lt, or_mul_two_pow_eq_add]
  omega

/-- The eight-byte reading, lowest byte first. -/
theorem toNat_or_eight
    (b0 b1 b2 b3 b4 b5 b6 b7 : UInt8) :
    (b0.toUInt64 ||| b1.toUInt64 <<< 8 ||| b2.toUInt64 <<< 16 ||| b3.toUInt64 <<< 24 |||
      b4.toUInt64 <<< 32 ||| b5.toUInt64 <<< 40 ||| b6.toUInt64 <<< 48 |||
      b7.toUInt64 <<< 56).toNat = decode [b0, b1, b2, b3, b4, b5, b6, b7] := by
  have h0 := b0.toNat_lt
  have h1 := b1.toNat_lt
  have h2 := b2.toNat_lt
  have h3 := b3.toNat_lt
  have h4 := b4.toNat_lt
  have h5 := b5.toNat_lt
  have h6 := b6.toNat_lt
  have h7 := b7.toNat_lt
  simp only [UInt64.toNat_or, UInt64.toNat_shiftLeft, UInt8.toNat_toUInt64, UInt64.reduceToNat,
    Nat.reduceMod, Nat.shiftLeft_eq, decode_cons, decode_nil]
  simp (disch := omega) only [Nat.mod_eq_of_lt, or_mul_two_pow_eq_add]
  omega

/-- `byte(n), byte(n>>8)` of a `uint64`. -/
theorem uint64Bytes_two_eq_encode
    (n : UInt64) :
    [n.toUInt8, (n >>> 8).toUInt8] = encode 2 n.toNat := by
  simp only [encode, List.cons.injEq, and_true]
  refine ⟨?_, ?_⟩ <;> apply UInt8.toNat_inj.mp <;>
    simp only [UInt64.toNat_toUInt8, UInt8.toNat_ofNat', UInt64.toNat_shiftRight,
      Nat.shiftRight_eq_div_pow, UInt64.reduceToNat, Nat.reduceMod]

/-- `byte(n), byte(n>>8), byte(n>>16)` of a `uint64`. -/
theorem uint64Bytes_three_eq_encode
    (n : UInt64) :
    [n.toUInt8, (n >>> 8).toUInt8, (n >>> 16).toUInt8] = encode 3 n.toNat := by
  simp only [encode, List.cons.injEq, and_true]
  refine ⟨?_, ?_, ?_⟩ <;> apply UInt8.toNat_inj.mp <;>
    simp only [UInt64.toNat_toUInt8, UInt8.toNat_ofNat', UInt64.toNat_shiftRight,
      Nat.shiftRight_eq_div_pow, UInt64.reduceToNat, Nat.reduceMod, Nat.div_div_eq_div_mul]

/-- The eight bytes of a `uint64`, lowest first. -/
theorem uint64Bytes_eq_encode
    (n : UInt64) :
    [n.toUInt8, (n >>> 8).toUInt8, (n >>> 16).toUInt8, (n >>> 24).toUInt8,
      (n >>> 32).toUInt8, (n >>> 40).toUInt8, (n >>> 48).toUInt8, (n >>> 56).toUInt8] =
      encode 8 n.toNat := by
  simp only [encode, List.cons.injEq, and_true]
  refine ⟨?_, ?_, ?_, ?_, ?_, ?_, ?_, ?_⟩ <;> apply UInt8.toNat_inj.mp <;>
    simp only [UInt64.toNat_toUInt8, UInt8.toNat_ofNat', UInt64.toNat_shiftRight,
      Nat.shiftRight_eq_div_pow, UInt64.reduceToNat, Nat.reduceMod, Nat.div_div_eq_div_mul]

/-- The four bytes of a `uint32`, lowest first. -/
theorem uint32Bytes_eq_encode
    (n : UInt32) :
    [n.toUInt8, (n >>> 8).toUInt8, (n >>> 16).toUInt8, (n >>> 24).toUInt8] = encode 4 n.toNat := by
  simp only [encode, List.cons.injEq, and_true]
  refine ⟨?_, ?_, ?_, ?_⟩ <;> apply UInt8.toNat_inj.mp <;>
    simp only [UInt32.toNat_toUInt8, UInt8.toNat_ofNat', UInt32.toNat_shiftRight,
      Nat.shiftRight_eq_div_pow, UInt32.reduceToNat, Nat.reduceMod, Nat.div_div_eq_div_mul]

/-- The two bytes of a `uint16`, lowest first. -/
theorem uint16Bytes_eq_encode
    (n : UInt16) :
    [n.toUInt8, (n >>> 8).toUInt8] = encode 2 n.toNat := by
  simp only [encode, List.cons.injEq, and_true]
  refine ⟨?_, ?_⟩ <;> apply UInt8.toNat_inj.mp <;>
    simp only [UInt16.toNat_toUInt8, UInt8.toNat_ofNat', UInt16.toNat_shiftRight,
      Nat.shiftRight_eq_div_pow, UInt16.reduceToNat, Nat.reduceMod]

/-- Reading back the two low bytes of a number below `2 ^ 16`. -/
theorem orBytes_two_of_lt
    {n : UInt64}
    (h : n.toNat < 2 ^ 16) :
    n.toUInt8.toUInt64 ||| (n >>> 8).toUInt8.toUInt64 <<< 8 = n := by
  apply UInt64.toNat_inj.mp
  rw [toNat_or_two, uint64Bytes_two_eq_encode, decode_encode, Nat.mod_eq_of_lt h]

/-- Reading back the three low bytes of a number below `2 ^ 24`. -/
theorem orBytes_three_of_lt
    {n : UInt64}
    (h : n.toNat < 2 ^ 24) :
    n.toUInt8.toUInt64 ||| (n >>> 8).toUInt8.toUInt64 <<< 8 |||
      (n >>> 16).toUInt8.toUInt64 <<< 16 = n := by
  apply UInt64.toNat_inj.mp
  rw [toNat_or_three, uint64Bytes_three_eq_encode, decode_encode, Nat.mod_eq_of_lt h]

/-- Reading back the eight bytes of a `uint64`. -/
theorem orBytes_eight
    (n : UInt64) :
    n.toUInt8.toUInt64 ||| (n >>> 8).toUInt8.toUInt64 <<< 8 ||| (n >>> 16).toUInt8.toUInt64 <<< 16 |||
      (n >>> 24).toUInt8.toUInt64 <<< 24 ||| (n >>> 32).toUInt8.toUInt64 <<< 32 |||
      (n >>> 40).toUInt8.toUInt64 <<< 40 ||| (n >>> 48).toUInt8.toUInt64 <<< 48 |||
      (n >>> 56).toUInt8.toUInt64 <<< 56 = n := by
  apply UInt64.toNat_inj.mp
  rw [toNat_or_eight, uint64Bytes_eq_encode, decode_encode, Nat.mod_eq_of_lt n.toNat_lt]

end LittleEndian
