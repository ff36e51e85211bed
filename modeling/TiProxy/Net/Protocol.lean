import TiProxy.Lib.GoBytes
import TiProxy.Lib.LittleEndian

/-!
# Protocol helpers of the MySQL wire format

A model of the helpers in `pkg/proxy/net/protocol.go` that the request encoders and
parsers of `mysql.go` are built from: length-encoded integers and strings, the
fixed-width little-endian integers, and the `Binary*` readers of the binary date and
time formats.  Byte strings are lists of `UInt8`, a nil slice and an empty one are
the same list, and a Go panic (an index or a slice bound out of range) is `none`.

The errors the parsers return form one type, `ProtoError`, with the wrapping
messages of the source as its constructors.

**Results.**
* `ParseLengthEncodedInt_dump`: every `uint64` reads back from its length encoding,
  which the reader consumes exactly.
* `ParseLengthEncodedBytes_dump`: a length-encoded string reads back from any buffer
  that is a Go slice.
* `length_DumpLengthEncodedInt_eq_one`, `head_DumpLengthEncodedInt`: the encoding is
  one byte exactly up to 250; it never starts with `0xfb`, and past 250 it starts
  with `0xfc` or more.
-/

namespace TiProxy
namespace Net

open GoBytes LittleEndian

/-- The errors of the modelled parsers and encoders: `io.EOF`, `mysql.ErrMalformPacket`
and the messages they are wrapped in (`errors.WithStack` adds only a stack). -/
inductive ProtoError where
  /-- `io.EOF`. -/
  | EOF
  /-- `mysql.ErrMalformPacket`. -/
  | ErrMalformPacket
  /-- `&errors.Warning{Err: errors.Wrapf(err, msg)}`. -/
  | warning (msg : String) (err : ProtoError)
  /-- `errors.Wrapf(err, "parse param err, type: %d, idx: %d, pos: %d", type, idx, pos)`. -/
  | parseParam (type : UInt8) (idx pos : Nat) (err : ProtoError)
  /-- `errors.Errorf("unsupported type %d", type)`: a field type the parser does not know. -/
  | unsupportedType (type : UInt8)
  /-- `errors.Errorf("unsupported type %T", v)`: a Go value the encoder does not know. -/
  | unsupportedArg (goType : String)
deriving DecidableEq, Repr

/-! ### Length-encoded integers and strings -/

/-- `ParseLengthEncodedInt`: the number, whether it is the NULL marker `0xfb`, and the
count of bytes read. -/
def ParseLengthEncodedInt (b : List UInt8) : Option (UInt64 × Bool × Nat) := do
  let b0 ← b[0]?
  if b0 = 0xfb then
    pure (0, true, 1)
  else if b0 = 0xfc then do
    let b1 ← b[1]?
    let b2 ← b[2]?
    pure (b1.toUInt64 ||| b2.toUInt64 <<< 8, false, 3)
  else if b0 = 0xfd then do
    let b1 ← b[1]?
    let b2 ← b[2]?
    let b3 ← b[3]?
    pure (b1.toUInt64 ||| b2.toUInt64 <<< 8 ||| b3.toUInt64 <<< 16, false, 4)
  else if b0 = 0xfe then do
    let b1 ← b[1]?
    let b2 ← b[2]?
    let b3 ← b[3]?
    let b4 ← b[4]?
    let b5 ← b[5]?
    let b6 ← b[6]?
    let b7 ← b[7]?
    let b8 ← b[8]?
    pure (b1.toUInt64 ||| b2.toUInt64 <<< 8 ||| b3.toUInt64 <<< 16 |||
      b4.toUInt64 <<< 24 ||| b5.toUInt64 <<< 32 ||| b6.toUInt64 <<< 40 |||
      b7.toUInt64 <<< 48 ||| b8.toUInt64 <<< 56, false, 9)
  else
    -- 0-250: the value of the first byte (0xff is undefined and read the same way)
    pure (b0.toUInt64, false, 1)

/-- `SkipLengthEncodedInt`: the count of bytes of the length-encoded integer at the
front, from its first byte alone. -/
def SkipLengthEncodedInt (b : List UInt8) : Option Nat := do
  let b0 ← b[0]?
  if b0 = 0xfc then
    pure 3
  else if b0 = 0xfd then
    pure 4
  else if b0 = 0xfe then
    pure 9
  else
    pure 1

/-- `DumpLengthEncodedInt`; `tinyIntCache[n]` is the one byte `byte(n)`. -/
def DumpLengthEncodedInt (buffer : List UInt8) (n : UInt64) : List UInt8 :=
  if n ≤ 250 then
    buffer ++ [n.toUInt8]
  else if n ≤ 0xffff then
    buffer ++ [0xfc, n.toUInt8, (n >>> 8).toUInt8]
  else if n ≤ 0xffffff then
    buffer ++ [0xfd, n.toUInt8, (n >>> 8).toUInt8, (n >>> 16).toUInt8]
  else
    buffer ++ [0xfe, n.toUInt8, (n >>> 8).toUInt8, (n >>> 16).toUInt8, (n >>> 24).toUInt8,
      (n >>> 32).toUInt8, (n >>> 40).toUInt8, (n >>> 48).toUInt8, (n >>> 56).toUInt8]

/-- `DumpLengthEncodedString`: the length, then the bytes. -/
def DumpLengthEncodedString (buffer bytes : List UInt8) : List UInt8 :=
  DumpLengthEncodedInt buffer (UInt64.ofNat bytes.length) ++ bytes

/-- `ParseLengthEncodedBytes`: the bytes, whether the length was NULL, the count read
and `io.EOF` where the bytes run past the buffer.  Go computes `n += int(num)` on a
64-bit `int`: where the sum passes `2 ^ 63` it wraps below zero, the length check
passes and the slice `b[n-int(num) : n]` panics. -/
def ParseLengthEncodedBytes (b : List UInt8) :
    Option (List UInt8 × Bool × Nat × Option ProtoError) := do
  let (num, isNull, n) ← ParseLengthEncodedInt b
  if num < 1 then
    pure ([], isNull, n, none)
  else
    let n := n + num.toNat
    if 2 ^ 63 ≤ n then
      none
    else if n ≤ b.length then do
      let v ← slice b (n - num.toNat) n
      pure (v, false, n, none)
    else
      pure ([], false, n, some .EOF)

@[simp] theorem DumpLengthEncodedInt_append
    (buffer : List UInt8)
    (n : UInt64) :
    DumpLengthEncodedInt buffer n = buffer ++ DumpLengthEncodedInt [] n := by
  unfold DumpLengthEncodedInt
  split_ifs <;> rfl

theorem DumpLengthEncodedString_eq
    (buffer bytes : List UInt8) :
    DumpLengthEncodedString buffer bytes =
      buffer ++ DumpLengthEncodedInt [] (UInt64.ofNat bytes.length) ++ bytes := by
  rw [DumpLengthEncodedString, DumpLengthEncodedInt_append]

theorem length_DumpLengthEncodedInt_pos
    (n : UInt64) :
    0 < (DumpLengthEncodedInt [] n).length := by
  unfold DumpLengthEncodedInt
  split_ifs <;> simp

/-- The encoding is one byte exactly for the numbers up to 250. -/
theorem length_DumpLengthEncodedInt_eq_one
    (n : UInt64) :
    (DumpLengthEncodedInt [] n).length = 1 ↔ n ≤ 250 := by
  unfold DumpLengthEncodedInt
  split_ifs with h1 <;> simp [h1]

/-- A length takes more than one byte exactly past 250. -/
theorem one_lt_length_DumpLengthEncodedInt
    {n : Nat}
    (h : n < 2 ^ 64) :
    1 < (DumpLengthEncodedInt [] (UInt64.ofNat n)).length ↔ 250 < n := by
  have hpos := length_DumpLengthEncodedInt_pos (UInt64.ofNat n)
  have hle1 : (DumpLengthEncodedInt [] (UInt64.ofNat n)).length ≤ 1 ↔
      (DumpLengthEncodedInt [] (UInt64.ofNat n)).length = 1 := by
    omega
  have hle : UInt64.ofNat n ≤ 250 ↔ n ≤ 250 := by
    rw [UInt64.le_iff_toNat_le, UInt64.toNat_ofNat', Nat.mod_eq_of_lt h]
    rfl
  rw [← not_iff_not, not_lt, not_lt, hle1, length_DumpLengthEncodedInt_eq_one, hle]

/-- The first byte of an encoding: never the NULL marker, and at least `0xfc` past 250. -/
theorem head_DumpLengthEncodedInt
    (n : UInt64) :
    ∃ b bs, DumpLengthEncodedInt [] n = b :: bs ∧ b ≠ 0xfb ∧ (250 < n → 0xfc ≤ b) := by
  have hlt : n ≤ 250 → n.toUInt8.toNat = n.toNat := by
    intro h
    have h' : n.toNat ≤ 250 := h
    rw [UInt64.toNat_toUInt8]
    omega
  unfold DumpLengthEncodedInt
  split_ifs with h1
  · refine ⟨_, _, rfl, fun he => ?_, fun h => absurd h1 (UInt64.not_le.mpr h)⟩
    have := congrArg UInt8.toNat he
    have h' : n.toNat ≤ 250 := h1
    rw [hlt h1] at this
    simp at this
    omega
  all_goals exact ⟨_, _, rfl, by decide, fun _ => by decide⟩

/-- The first branch of the reader: a byte up to 250 stands for itself. -/
theorem orBytes_of_le
    {n : UInt64}
    (h : n ≤ 250) :
    n.toUInt8.toUInt64 = n := by
  apply UInt64.toNat_inj.mp
  have h' : n.toNat ≤ 250 := h
  rw [UInt8.toNat_toUInt64, UInt64.toNat_toUInt8]
  omega

/-- A number up to 250 is a byte below every marker `0xfb`…`0xff`. -/
theorem toUInt8_ne_marker
    {n : UInt64}
    (h : n ≤ 250)
    (m : UInt8)
    (hm : 0xfb ≤ m) :
    n.toUInt8 ≠ m := by
  intro he
  have := congrArg UInt8.toNat he
  have h' : n.toNat ≤ 250 := h
  have hm' : 251 ≤ m.toNat := hm
  rw [UInt64.toNat_toUInt8] at this
  omega

/-- Every `uint64` reads back from its length encoding, which the reader consumes
exactly. -/
theorem ParseLengthEncodedInt_dump
    (n : UInt64)
    (rest : List UInt8) :
    ParseLengthEncodedInt (DumpLengthEncodedInt [] n ++ rest) =
      some (n, false, (DumpLengthEncodedInt [] n).length) := by
  unfold DumpLengthEncodedInt
  split_ifs with h1 h2 h3
  · -- one byte: it is none of the markers
    have hb : n.toUInt8.toUInt64 = n := orBytes_of_le h1
    simp [ParseLengthEncodedInt, toUInt8_ne_marker h1 0xfb (by decide),
      toUInt8_ne_marker h1 0xfc (by decide), toUInt8_ne_marker h1 0xfd (by decide),
      toUInt8_ne_marker h1 0xfe (by decide), hb]
  · -- `0xfc` and two bytes
    have hlt : n.toNat < 2 ^ 16 := by
      have : n.toNat ≤ 0xffff := h2
      omega
    simp only [ParseLengthEncodedInt, List.nil_append, List.cons_append, List.getElem?_cons_zero,
      List.getElem?_cons_succ, Option.bind_eq_bind, Option.bind_some, Option.pure_def, ↓reduceIte]
    rw [orBytes_two_of_lt hlt]
    rfl
  · -- `0xfd` and three bytes
    have hlt : n.toNat < 2 ^ 24 := by
      have : n.toNat ≤ 0xffffff := h3
      omega
    simp only [ParseLengthEncodedInt, List.nil_append, List.cons_append, List.getElem?_cons_zero,
      List.getElem?_cons_succ, Option.bind_eq_bind, Option.bind_some, Option.pure_def, ↓reduceIte]
    rw [orBytes_three_of_lt hlt]
    rfl
  · -- `0xfe` and eight bytes
    simp only [ParseLengthEncodedInt, List.nil_append, List.cons_append, List.getElem?_cons_zero,
      List.getElem?_cons_succ, Option.bind_eq_bind, Option.bind_some, Option.pure_def, ↓reduceIte]
    rw [orBytes_eight]
    rfl

/-- The length the encoding of a Go slice's length stands for is that length. -/
theorem toNat_ofNat_length
    {s : List UInt8}
    (h : s.length < 2 ^ 63) :
    (UInt64.ofNat s.length).toNat = s.length := by
  rw [UInt64.toNat_ofNat', Nat.mod_eq_of_lt (by omega)]

/-- A length-encoded string reads back from any buffer that is a Go slice. -/
theorem ParseLengthEncodedBytes_dump
    (s rest : List UInt8)
    (hslice : (DumpLengthEncodedString [] s ++ rest).length < 2 ^ 63) :
    ParseLengthEncodedBytes (DumpLengthEncodedString [] s ++ rest) =
      some (s, false, (DumpLengthEncodedString [] s).length, none) := by
  set d := DumpLengthEncodedInt [] (UInt64.ofNat s.length) with hd
  have hbuf : DumpLengthEncodedString [] s ++ rest = d ++ s ++ rest := by
    rw [DumpLengthEncodedString_eq, List.nil_append]
  have hlen : (DumpLengthEncodedString [] s).length = d.length + s.length := by
    rw [DumpLengthEncodedString_eq, List.nil_append, List.length_append]
  have htotal : (d ++ s ++ rest).length = d.length + s.length + rest.length := by
    simp only [List.length_append]
  rw [hbuf] at hslice ⊢
  have hint : ParseLengthEncodedInt (d ++ s ++ rest) = some (UInt64.ofNat s.length, false, d.length) := by
    rw [List.append_assoc, hd, ParseLengthEncodedInt_dump]
  have hnum : (UInt64.ofNat s.length).toNat = s.length := toNat_ofNat_length (by omega)
  rw [hlen]
  cases s with
  | nil =>
      -- the empty string has length 0, read as no bytes
      rw [List.append_nil] at hint ⊢
      simp [ParseLengthEncodedBytes, hint]
  | cons x xs =>
      have hpos : ¬ UInt64.ofNat (x :: xs).length < 1 := by
        intro h
        have : (UInt64.ofNat (x :: xs).length).toNat < 1 := h
        rw [hnum] at this
        simp at this
      have hv : slice (d ++ x :: xs ++ rest) d.length (d.length + (x :: xs).length) =
          some (x :: xs) := slice_append rfl
      simp only [ParseLengthEncodedBytes, hint, Option.bind_eq_bind, Option.bind_some, hpos,
        if_false, hnum]
      rw [if_neg (by omega), if_pos (by omega), Nat.add_sub_cancel, hv]
      rfl

/-- The width of a length encoding, by the range of the number. -/
theorem length_DumpLengthEncodedInt
    (n : UInt64) :
    (DumpLengthEncodedInt [] n).length =
      if n ≤ 250 then 1 else if n ≤ 0xffff then 3 else if n ≤ 0xffffff then 4 else 9 := by
  unfold DumpLengthEncodedInt
  split_ifs <;> rfl

/-- `SkipLengthEncodedInt` reads the same width off the first byte. -/
theorem SkipLengthEncodedInt_dump
    (n : UInt64)
    (rest : List UInt8) :
    SkipLengthEncodedInt (DumpLengthEncodedInt [] n ++ rest) =
      some (DumpLengthEncodedInt [] n).length := by
  unfold DumpLengthEncodedInt
  split_ifs with h1
  · simp [SkipLengthEncodedInt, toUInt8_ne_marker h1 0xfc (by decide),
      toUInt8_ne_marker h1 0xfd (by decide), toUInt8_ne_marker h1 0xfe (by decide)]
  all_goals simp [SkipLengthEncodedInt]

/-- The length-encoded integer and string round trip: the reader and the skip agree with
the writer on every range, behind any buffer and before any rest, and a string reads
back from every Go slice that holds its encoding. -/
theorem ParseLengthEncoded_DumpLengthEncoded :
    (∀ (buf rest : List UInt8) (n : UInt64),
      ParseLengthEncodedInt ((DumpLengthEncodedInt buf n).drop buf.length ++ rest) =
          some (n, false,
            if n ≤ 250 then 1 else if n ≤ 0xffff then 3 else if n ≤ 0xffffff then 4 else 9) ∧
        SkipLengthEncodedInt ((DumpLengthEncodedInt buf n).drop buf.length ++ rest) =
          some (if n ≤ 250 then 1 else if n ≤ 0xffff then 3 else if n ≤ 0xffffff then 4 else 9)) ∧
    (∀ (b rest : List UInt8), (DumpLengthEncodedString [] b ++ rest).length < 2 ^ 63 →
      ParseLengthEncodedBytes (DumpLengthEncodedString [] b ++ rest) =
        some (b, false, (DumpLengthEncodedInt [] (UInt64.ofNat b.length)).length + b.length,
          none)) := by
  refine ⟨fun buf rest n => ?_, fun b rest hslice => ?_⟩
  · -- what is appended to the buffer is the encoding alone
    have hdrop : (DumpLengthEncodedInt buf n).drop buf.length = DumpLengthEncodedInt [] n := by
      rw [DumpLengthEncodedInt_append, List.drop_left]
    rw [hdrop, ParseLengthEncodedInt_dump, SkipLengthEncodedInt_dump, length_DumpLengthEncodedInt]
    exact ⟨rfl, rfl⟩
  · rw [ParseLengthEncodedBytes_dump b rest hslice, DumpLengthEncodedString_eq, List.nil_append,
      List.length_append]

theorem ParseLengthEncoded_DumpLengthEncoded_bytes :
    (DumpLengthEncodedString [] [1, 2, 3] ++ [9]).length < 2 ^ 63 ∧
      ParseLengthEncodedBytes (DumpLengthEncodedString [] [1, 2, 3] ++ [9]) =
        some ([1, 2, 3], false,
          (DumpLengthEncodedInt [] (UInt64.ofNat [1, 2, 3].length)).length + [1, 2, 3].length,
          none) :=
  ⟨by decide, ParseLengthEncoded_DumpLengthEncoded.2 [1, 2, 3] [9] (by decide)⟩

/-! ### Fixed-width integers -/

/-- `DumpUint16`. -/
def DumpUint16 (buffer : List UInt8) (n : UInt16) : List UInt8 :=
  buffer ++ [n.toUInt8] ++ [(n >>> 8).toUInt8]

/-- `DumpUint32`. -/
def DumpUint32 (buffer : List UInt8) (n : UInt32) : List UInt8 :=
  buffer ++ [n.toUInt8] ++ [(n >>> 8).toUInt8] ++ [(n >>> 16).toUInt8] ++ [(n >>> 24).toUInt8]

/-- `Uint16ToBytes`. -/
def Uint16ToBytes (n : UInt16) : List UInt8 :=
  [n.toUInt8, (n >>> 8).toUInt8]

/-- `Uint32ToBytes`. -/
def Uint32ToBytes (n : UInt32) : List UInt8 :=
  [n.toUInt8, (n >>> 8).toUInt8, (n >>> 16).toUInt8, (n >>> 24).toUInt8]

/-- `Uint64ToBytes`. -/
def Uint64ToBytes (n : UInt64) : List UInt8 :=
  [n.toUInt8, (n >>> 8).toUInt8, (n >>> 16).toUInt8, (n >>> 24).toUInt8,
    (n >>> 32).toUInt8, (n >>> 40).toUInt8, (n >>> 48).toUInt8, (n >>> 56).toUInt8]

theorem DumpUint32_eq
    (buffer : List UInt8)
    (n : UInt32) :
    DumpUint32 buffer n = buffer ++ encode 4 n.toNat := by
  rw [← uint32Bytes_eq_encode]
  simp [DumpUint32]

@[simp] theorem length_DumpUint32
    (n : UInt32) :
    (DumpUint32 [] n).length = 4 := by
  simp [DumpUint32]

@[simp] theorem length_Uint16ToBytes
    (n : UInt16) :
    (Uint16ToBytes n).length = 2 :=
  rfl

@[simp] theorem length_Uint32ToBytes
    (n : UInt32) :
    (Uint32ToBytes n).length = 4 :=
  rfl

@[simp] theorem length_Uint64ToBytes
    (n : UInt64) :
    (Uint64ToBytes n).length = 8 :=
  rfl

theorem Uint16ToBytes_eq
    (n : UInt16) :
    Uint16ToBytes n = encode 2 n.toNat :=
  uint16Bytes_eq_encode n

theorem Uint32ToBytes_eq
    (n : UInt32) :
    Uint32ToBytes n = encode 4 n.toNat :=
  uint32Bytes_eq_encode n

theorem Uint64ToBytes_eq
    (n : UInt64) :
    Uint64ToBytes n = encode 8 n.toNat :=
  uint64Bytes_eq_encode n

/-! ### The binary date and time formats

`BinaryDate` and the readers built on it turn the fields of a binary `DATE`,
`DATETIME`, `TIMESTAMP` or `TIME` value into the text `fmt.Sprintf` prints.  They
index without checks: a value cut short panics. -/

/-- `binary.LittleEndian.Uint16(b[pos : pos+2])`. -/
def uint16At (b : List UInt8) (pos : Nat) : Option UInt16 := do
  let s ← slice b pos (pos + 2)
  uint16 s

/-- `binary.LittleEndian.Uint32(b[pos : pos+4])`. -/
def uint32At (b : List UInt8) (pos : Nat) : Option UInt32 := do
  let s ← slice b pos (pos + 4)
  uint32 s

/-- `binary.LittleEndian.Uint64(b[pos : pos+8])`. -/
def uint64At (b : List UInt8) (pos : Nat) : Option UInt64 := do
  let s ← slice b pos (pos + 8)
  uint64 s

/-- `BinaryDate`: `"%04d-%02d-%02d"` of year, month and day. -/
def BinaryDate (pos : Nat) (paramValues : List UInt8) : Option (Nat × List UInt8) := do
  let year ← uint16At paramValues pos
  let pos := pos + 2
  let month ← paramValues[pos]?
  let pos := pos + 1
  let day ← paramValues[pos]?
  let pos := pos + 1
  pure (pos, zeroPadded 4 year.toNat ++ ascii "-" ++ zeroPadded 2 month.toNat ++ ascii "-" ++
    zeroPadded 2 day.toNat)

/-- `BinaryDateTime`: `"%s %02d:%02d:%02d"` of the date and the time of day. -/
def BinaryDateTime (pos : Nat) (paramValues : List UInt8) : Option (Nat × List UInt8) := do
  let (pos, date) ← BinaryDate pos paramValues
  let hour ← paramValues[pos]?
  let pos := pos + 1
  let minute ← paramValues[pos]?
  let pos := pos + 1
  let second ← paramValues[pos]?
  let pos := pos + 1
  pure (pos, date ++ ascii " " ++ zeroPadded 2 hour.toNat ++ ascii ":" ++ zeroPadded 2 minute.toNat ++
    ascii ":" ++ zeroPadded 2 second.toNat)

/-- `BinaryTimestamp`: `"%s.%06d"` with the microseconds. -/
def BinaryTimestamp (pos : Nat) (paramValues : List UInt8) : Option (Nat × List UInt8) := do
  let (pos, dateTime) ← BinaryDateTime pos paramValues
  let microSecond ← uint32At paramValues pos
  let pos := pos + 4
  pure (pos, dateTime ++ ascii "." ++ zeroPadded 6 microSecond.toNat)

/-- `BinaryTimestampWithTZ`: `"%s%+02d:%02d"` with the zone's shift in hours and
minutes; `int16` division and remainder truncate toward zero. -/
def BinaryTimestampWithTZ (pos : Nat) (paramValues : List UInt8) : Option (Nat × List UInt8) := do
  let (pos, timestamp) ← BinaryTimestamp pos paramValues
  let tzShiftInMin := (← uint16At paramValues pos).toInt16
  let tzShiftHour := tzShiftInMin / 60
  let tzShiftAbsMin := tzShiftInMin % 60
  let tzShiftAbsMin := if tzShiftAbsMin < 0 then -tzShiftAbsMin else tzShiftAbsMin
  let pos := pos + 2
  pure (pos, timestamp ++ signedZeroPadded 2 tzShiftHour.toInt ++ ascii ":" ++
    zeroPadded 2 tzShiftAbsMin.toInt.toNat)

/-- `BinaryDuration`: `"%s%d %02d:%02d:%02d"` of the sign, days, hours, minutes and
seconds. -/
def BinaryDuration (pos : Nat) (paramValues : List UInt8) (isNegative : UInt8) :
    Option (Nat × List UInt8) := do
  let sign := if 1 ≤ isNegative then ascii "-" else []
  let days ← uint32At paramValues pos
  let pos := pos + 4
  let hours ← paramValues[pos]?
  let pos := pos + 1
  let minutes ← paramValues[pos]?
  let pos := pos + 1
  let seconds ← paramValues[pos]?
  let pos := pos + 1
  pure (pos, sign ++ decimal days.toNat ++ ascii " " ++ zeroPadded 2 hours.toNat ++ ascii ":" ++
    zeroPadded 2 minutes.toNat ++ ascii ":" ++ zeroPadded 2 seconds.toNat)

/-- `BinaryDurationWithMS`: `"%s.%06d"` with the microseconds. -/
def BinaryDurationWithMS (pos : Nat) (paramValues : List UInt8) (isNegative : UInt8) :
    Option (Nat × List UInt8) := do
  let (pos, dur) ← BinaryDuration pos paramValues isNegative
  let microSecond ← uint32At paramValues pos
  let pos := pos + 4
  pure (pos, dur ++ ascii "." ++ zeroPadded 6 microSecond.toNat)

example : BinaryDate 0 [0xe8, 0x07, 2, 9] = some (4, ascii "2024-02-09") := by decide

end Net
end TiProxy
