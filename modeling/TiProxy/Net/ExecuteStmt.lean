import Mathlib.Data.List.Forall2
import TiProxy.Net.Protocol
import TiProxy.Net.Command

/-!
# `COM_STMT_EXECUTE` requests

A model of `MakeExecuteStmtRequest` and `ParseExecuteStmtRequest` (`mysql.go`).  A
request is the command byte, the statement ID, the cursor flag and the iteration count;
with parameters, then a null bitmap, the new-params-bound flag, the type and flag bytes
of every parameter when that flag is set, and the values of the parameters that are not
`nil`, each in the width or length encoding of its type.

The arguments are Go values held in `any`: `ExecuteArg` has one constructor for each
type the encoder tells apart, and one for any other type.  Floats are their bit
patterns, as `math.Float32bits` and `math.Float32frombits` keep them.

The parser indexes the data and the types at a running position with no check past
the header and the type block.  A Go panic is `ParseFailure.panic`; an error the parser
returns is `ParseFailure.error`.

**Results.**
* `ParseExecuteStmtRequest_MakeExecuteStmtRequest`: both modes of the encoder read back,
  the types block and each argument in the type its wire type parses to.
* `ParseExecuteStmtRequest_panics`: a parameter whose types are not remembered, or whose
  value is cut short, makes the parser panic.
-/

namespace TiProxy
namespace Net

open GoBytes LittleEndian

/-! ### Field types (`field_type.go`) -/

def fieldTypeDecimal : UInt8 := 0x00
def fieldTypeTiny : UInt8 := 0x01
def fieldTypeShort : UInt8 := 0x02
def fieldTypeLong : UInt8 := 0x03
def fieldTypeFloat : UInt8 := 0x04
def fieldTypeDouble : UInt8 := 0x05
def fieldTypeNULL : UInt8 := 0x06
def fieldTypeTimestamp : UInt8 := 0x07
def fieldTypeLongLong : UInt8 := 0x08
def fieldTypeInt24 : UInt8 := 0x09
def fieldTypeDate : UInt8 := 0x0a
def fieldTypeTime : UInt8 := 0x0b
def fieldTypeDateTime : UInt8 := 0x0c
def fieldTypeYear : UInt8 := 0x0d
def fieldTypeVarChar : UInt8 := 0x0f
def fieldTypeBit : UInt8 := 0x10
def fieldTypeVector : UInt8 := 0xf2
def fieldTypeJSON : UInt8 := 0xf5
def fieldTypeNewDecimal : UInt8 := 0xf6
def fieldTypeEnum : UInt8 := 0xf7
def fieldTypeSet : UInt8 := 0xf8
def fieldTypeTinyBLOB : UInt8 := 0xf9
def fieldTypeMediumBLOB : UInt8 := 0xfa
def fieldTypeLongBLOB : UInt8 := 0xfb
def fieldTypeBLOB : UInt8 := 0xfc
def fieldTypeVarString : UInt8 := 0xfd
def fieldTypeString : UInt8 := 0xfe
def fieldTypeGeometry : UInt8 := 0xff

/-- The types whose values `ParseExecuteStmtRequest` reads as length-encoded bytes. -/
def lengthEncodedTypes : List UInt8 :=
  [fieldTypeDecimal, fieldTypeNewDecimal, fieldTypeVarChar, fieldTypeString, fieldTypeVarString,
    fieldTypeBLOB, fieldTypeTinyBLOB, fieldTypeMediumBLOB, fieldTypeLongBLOB, fieldTypeEnum,
    fieldTypeSet, fieldTypeGeometry, fieldTypeBit, fieldTypeJSON, fieldTypeVector]

/-! ### Arguments -/

/-- A Go value in an `args []any`, by the cases of the encoder's type switch. -/
inductive ExecuteArg where
  | nil
  | int8 (v : Int8)
  | int16 (v : Int16)
  | int32 (v : Int32)
  | int (v : Int64)
  | int64 (v : Int64)
  | uint8 (v : UInt8)
  | uint16 (v : UInt16)
  | uint32 (v : UInt32)
  | uint (v : UInt64)
  | uint64 (v : UInt64)
  | bool (v : Bool)
  | float32 (bits : UInt32)
  | float64 (bits : UInt64)
  | string (v : List UInt8)
  | bytes (v : List UInt8)
  | rawMessage (v : List UInt8)
  /-- a value of any other Go type, named as `%T` prints it -/
  | other (goType : String)
deriving DecidableEq, Repr

namespace ExecuteArg

/-- A type the encoder supports. -/
def Supported : ExecuteArg → Prop
  | .other _ => False
  | _ => True

instance : DecidablePred Supported := fun a =>
  match a with
  | .other _ => isFalse id
  | .nil | .int8 _ | .int16 _ | .int32 _ | .int _ | .int64 _ | .uint8 _ | .uint16 _
  | .uint32 _ | .uint _ | .uint64 _ | .bool _ | .float32 _ | .float64 _ | .string _
  | .bytes _ | .rawMessage _ => isTrue trivial

/-- The value a parser gives back for an argument: the canonical Go type of its wire
type.  `int` is sent as `int64`, `uint` as `uint64`, a `bool` as an `int8` 0 or 1, and
`[]byte` and `json.RawMessage` as a string. -/
def norm : ExecuteArg → ExecuteArg
  | .int v => .int64 v
  | .uint v => .uint64 v
  | .bool v => .int8 (if v then 1 else 0)
  | .bytes v => .string v
  | .rawMessage v => .string v
  | a => a

end ExecuteArg

/-! ### `MakeExecuteStmtRequest` -/

/-- What `MakeExecuteStmtRequest` writes for one argument: its bit of the null bitmap,
its type byte, its flag byte (`0x80` for an unsigned type) and its value bytes. -/
structure ArgEncoding where
  isNull : Bool
  type : UInt8
  flag : UInt8
  value : List UInt8
deriving DecidableEq, Repr

/-- The body of the encoder's loop for one argument; another type is the error
`unsupported type %T`. -/
def encodeArg : ExecuteArg → Except ProtoError ArgEncoding
  | .nil => pure ⟨true, fieldTypeNULL, 0, []⟩
  | .int8 v => pure ⟨false, fieldTypeTiny, 0, [v.toUInt8]⟩
  | .int16 v => pure ⟨false, fieldTypeShort, 0, Uint16ToBytes v.toUInt16⟩
  | .int32 v => pure ⟨false, fieldTypeLong, 0, Uint32ToBytes v.toUInt32⟩
  | .int v => pure ⟨false, fieldTypeLongLong, 0, Uint64ToBytes v.toUInt64⟩
  | .int64 v => pure ⟨false, fieldTypeLongLong, 0, Uint64ToBytes v.toUInt64⟩
  | .uint8 v => pure ⟨false, fieldTypeTiny, 0x80, [v]⟩
  | .uint16 v => pure ⟨false, fieldTypeShort, 0x80, Uint16ToBytes v⟩
  | .uint32 v => pure ⟨false, fieldTypeLong, 0x80, Uint32ToBytes v⟩
  | .uint v => pure ⟨false, fieldTypeLongLong, 0x80, Uint64ToBytes v⟩
  | .uint64 v => pure ⟨false, fieldTypeLongLong, 0x80, Uint64ToBytes v⟩
  | .bool v => pure ⟨false, fieldTypeTiny, 0, [if v then 1 else 0]⟩
  | .float32 bits => pure ⟨false, fieldTypeFloat, 0, Uint32ToBytes bits⟩
  | .float64 bits => pure ⟨false, fieldTypeDouble, 0, Uint64ToBytes bits⟩
  | .string v => pure ⟨false, fieldTypeString, 0, DumpLengthEncodedString [] v⟩
  | .bytes v => pure ⟨false, fieldTypeString, 0, DumpLengthEncodedString [] v⟩
  | .rawMessage v => pure ⟨false, fieldTypeString, 0, DumpLengthEncodedString [] v⟩
  | .other goType => throw (.unsupportedArg goType)

/-- `nullBitmap[i/8] |= 1 << (uint(i) % 8)` for every `nil` argument, from `i` on. -/
def setNullBits : Nat → List Bool → List UInt8 → List UInt8
  | _, [], nullBitmap => nullBitmap
  | i, isNull :: rest, nullBitmap =>
      setNullBits (i + 1) rest
        (if isNull then nullBitmap.modify (i / 8) (· ||| 1 <<< (i % 8).toUInt8) else nullBitmap)

/-- The null bitmap of the arguments: `(paramNum+7)>>3` bytes. -/
def nullBitmapOf (encs : List ArgEncoding) : List UInt8 :=
  setNullBits 0 (encs.map (·.isNull)) (List.replicate ((encs.length + 7) >>> 3) 0)

/-- `paramTypes`: the type and the flag byte of every argument. -/
def paramTypesOf (encs : List ArgEncoding) : List UInt8 :=
  encs.flatMap fun e => [e.type, e.flag]

/-- `MakeExecuteStmtRequest`.  Go fills a buffer of the computed length; the parts it
copies in are laid end to end. -/
def MakeExecuteStmtRequest (stmtID : UInt32) (args : List ExecuteArg) (newParamBound : Bool) :
    Except ProtoError (List UInt8) := do
  let encs ← args.mapM encodeArg
  let newParamBoundFlag : UInt8 := if newParamBound then 1 else 0
  -- the command, the statement ID, the cursor flag 0 and the iteration count 1
  let header := [ComStmtExecute] ++ Uint32ToBytes stmtID ++ [0] ++ [1, 0, 0, 0]
  if 0 < args.length then
    pure (header ++ nullBitmapOf encs ++ [newParamBoundFlag] ++
      (if newParamBound then paramTypesOf encs else []) ++ encs.flatMap (·.value))
  else
    pure header

/-! ### `ParseExecuteStmtRequest` -/

/-- How a call of the parser ends when it does not return a result. -/
inductive ParseFailure where
  /-- a Go panic: an index or a slice bound out of range -/
  | panic
  /-- the error the parser returns -/
  | error (e : ProtoError)
deriving DecidableEq, Repr

/-- A read that panics where the model's `Option` is `none`. -/
def orPanic {α : Type} : Option α → Except ParseFailure α
  | some a => pure a
  | none => throw .panic

@[simp]
theorem orPanic_some
    {α : Type}
    (a : α) :
    orPanic (some a) = pure a :=
  rfl

@[simp]
theorem orPanic_none
    {α : Type} :
    orPanic (none : Option α) = throw .panic :=
  rfl

/-- A failure ends the rest of the parser. -/
@[simp]
theorem throw_bind_parseFailure
    {α β : Type}
    (e : ParseFailure)
    (f : α → Except ParseFailure β) :
    (throw e >>= f) = throw e :=
  rfl

/-- A value read goes on to the rest of the parser. -/
@[simp]
theorem ok_bind_parseFailure
    {α β : Type}
    (a : α)
    (f : α → Except ParseFailure β) :
    (Except.ok a >>= f) = f a :=
  rfl

@[simp]
theorem map_throw_parseFailure
    {α β : Type}
    (e : ParseFailure)
    (f : α → β) :
    (f <$> (throw e : Except ParseFailure α)) = throw e :=
  rfl

/-- The date and time values: a length byte, then the fields of that length. -/
def parseDateTime (data : List UInt8) (pos : Nat) : Except ParseFailure (ExecuteArg × Nat) := do
  let length ← orPanic data[pos]?
  let pos := pos + 1
  if length = 0 then
    pure (.string (ascii "0000-00-00 00:00:00"), pos)
  else if length = 4 then do
    let (pos, v) ← orPanic (BinaryDate pos data)
    pure (.string v, pos)
  else if length = 7 then do
    let (pos, v) ← orPanic (BinaryDateTime pos data)
    pure (.string v, pos)
  else if length = 11 then do
    let (pos, v) ← orPanic (BinaryTimestamp pos data)
    pure (.string v, pos)
  else if length = 13 then do
    let (pos, v) ← orPanic (BinaryTimestampWithTZ pos data)
    pure (.string v, pos)
  else
    throw (.error .ErrMalformPacket)

/-- The `TIME` values: a length byte, the sign byte, then the fields. -/
def parseDuration (data : List UInt8) (pos : Nat) : Except ParseFailure (ExecuteArg × Nat) := do
  let length ← orPanic data[pos]?
  let pos := pos + 1
  if length = 0 then
    pure (.string (ascii "0"), pos)
  else if length = 8 then do
    let isNegative ← orPanic data[pos]?
    let (pos, v) ← orPanic (BinaryDuration (pos + 1) data isNegative)
    pure (.string v, pos)
  else if length = 12 then do
    let isNegative ← orPanic data[pos]?
    let (pos, v) ← orPanic (BinaryDurationWithMS (pos + 1) data isNegative)
    pure (.string v, pos)
  else
    throw (.error .ErrMalformPacket)

/-- The body of the parser's loop for parameter `i` that is not `nil` in the bitmap: the
`switch paramTypes[i<<1]`, the value read at `pos` and the position after it. -/
def parseParam (data paramTypes : List UInt8) (i pos : Nat) :
    Except ParseFailure (ExecuteArg × Nat) := do
  let type ← orPanic paramTypes[i <<< 1]?
  if type = fieldTypeNULL then
    pure (.nil, pos)
  else if type = fieldTypeTiny then do
    let flag ← orPanic paramTypes[(i <<< 1) + 1]?
    let b ← orPanic data[pos]?
    pure (if flag = 0x80 then .uint8 b else .int8 b.toInt8, pos + 1)
  else if type = fieldTypeShort ∨ type = fieldTypeYear then do
    let v ← orPanic (uint16At data pos)
    let flag ← orPanic paramTypes[(i <<< 1) + 1]?
    pure (if flag = 0x80 then .uint16 v else .int16 v.toInt16, pos + 2)
  else if type = fieldTypeLong ∨ type = fieldTypeInt24 then do
    let v ← orPanic (uint32At data pos)
    let flag ← orPanic paramTypes[(i <<< 1) + 1]?
    pure (if flag = 0x80 then .uint32 v else .int32 v.toInt32, pos + 4)
  else if type = fieldTypeLongLong then do
    let v ← orPanic (uint64At data pos)
    let flag ← orPanic paramTypes[(i <<< 1) + 1]?
    pure (if flag = 0x80 then .uint64 v else .int64 v.toInt64, pos + 8)
  else if type = fieldTypeFloat then do
    let v ← orPanic (uint32At data pos)
    pure (.float32 v, pos + 4)
  else if type = fieldTypeDouble then do
    let v ← orPanic (uint64At data pos)
    pure (.float64 v, pos + 8)
  else if type = fieldTypeDate ∨ type = fieldTypeTimestamp ∨ type = fieldTypeDateTime then
    parseDateTime data pos
  else if type = fieldTypeTime then
    parseDuration data pos
  else if type ∈ lengthEncodedTypes then do
    let rest ← orPanic (sliceFrom data pos)
    let (v, isNull, n, err) ← orPanic (ParseLengthEncodedBytes rest)
    match err with
    | some e => throw (.error (.parseParam type i pos e))
    | none => pure (if isNull then .nil else .string v, pos + n)
  else
    throw (.error (.unsupportedType type))

/-- The loop of the parser over `k` parameters from index `i` and position `pos`. -/
def parseParams (data nullBitmap paramTypes : List UInt8) :
    Nat → Nat → Nat → Except ParseFailure (List ExecuteArg)
  | 0, _, _ => pure []
  | k + 1, i, pos => do
      let bits ← orPanic nullBitmap[i / 8]?
      if bits &&& 1 <<< (i % 8).toUInt8 > 0 then do
        let rest ← parseParams data nullBitmap paramTypes k (i + 1) pos
        pure (.nil :: rest)
      else do
        let (v, pos) ← parseParam data paramTypes i pos
        let rest ← parseParams data nullBitmap paramTypes k (i + 1) pos
        pure (v :: rest)

/-- `ParseExecuteStmtRequest`: the statement ID, the arguments and the types they were
read with. -/
def ParseExecuteStmtRequest (data : List UInt8) (paramNum : Nat) (paramTypes : List UInt8) :
    Except ParseFailure (UInt32 × List ExecuteArg × List UInt8) := do
  if data.length < 1 + 4 + 1 + 4 then
    throw (.error .ErrMalformPacket)
  let stmtID ← orPanic (uint32At data 1)
  -- the types of a statement restored from the session states are not known
  if paramNum = 0 then
    pure (stmtID, [], [])
  else do
    -- past the cursor flag and the iteration count
    let pos := 1 + 4 + 1 + 4
    let bitmapLen := (paramNum + 7) >>> 3
    if data.length < pos + bitmapLen + 1 then
      throw (.error .ErrMalformPacket)
    let nullBitmap ← orPanic (slice data pos (pos + bitmapLen))
    let pos := pos + nullBitmap.length
    let newParamBoundFlag ← orPanic data[pos]?
    let pos := pos + 1
    let (paramTypes, pos) ← if 0 < newParamBoundFlag then do
        if data.length < pos + (paramNum <<< 1) then
          throw (.error .ErrMalformPacket)
        let paramTypes ← orPanic (slice data pos (pos + (paramNum <<< 1)))
        pure (paramTypes, pos + (paramNum <<< 1))
      else
        pure (paramTypes, pos)
    let args ← parseParams data nullBitmap paramTypes paramNum 0 pos
    pure (stmtID, args, paramTypes)

/-! ### The null bitmap -/

/-- Bit `j` of a null bitmap: bit `j % 8` of byte `j / 8`. -/
def nullBit (nullBitmap : List UInt8) (j : Nat) : Bool :=
  (nullBitmap.getD (j / 8) 0).toNat.testBit (j % 8)

theorem toNat_one_shiftLeft
    {b : Nat}
    (hb : b < 8) :
    ((1 : UInt8) <<< b.toUInt8).toNat = 2 ^ b := by
  rw [UInt8.toNat_shiftLeft]
  have hb' : b.toUInt8.toNat = b := by simp; omega
  have hpow : 2 ^ b < 2 ^ 8 := Nat.pow_lt_pow_right (by decide) hb
  rw [hb', Nat.mod_eq_of_lt hb, UInt8.toNat_one, Nat.one_shiftLeft, Nat.mod_eq_of_lt hpow]

/-- The parser's test of a bit is that bit. -/
theorem and_one_shiftLeft_pos_iff
    (x : UInt8)
    {b : Nat}
    (hb : b < 8) :
    x &&& 1 <<< b.toUInt8 > 0 ↔ x.toNat.testBit b = true := by
  rw [gt_iff_lt, UInt8.lt_iff_toNat_lt, UInt8.toNat_and, toNat_one_shiftLeft hb, Nat.and_two_pow]
  cases x.toNat.testBit b <;> simp [Nat.two_pow_pos]

theorem testBit_or_one_shiftLeft
    (x : UInt8)
    {a : Nat}
    (ha : a < 8)
    (b : Nat) :
    (x ||| 1 <<< a.toUInt8).toNat.testBit b = (x.toNat.testBit b || decide (a = b)) := by
  rw [UInt8.toNat_or, toNat_one_shiftLeft ha, Nat.testBit_or, Nat.testBit_two_pow]

/-- Setting bit `k` of a bitmap sets that bit and no other. -/
theorem nullBit_modify
    (nullBitmap : List UInt8)
    (k j : Nat)
    (hj : j / 8 < nullBitmap.length) :
    nullBit (nullBitmap.modify (k / 8) (· ||| 1 <<< (k % 8).toUInt8)) j =
      (nullBit nullBitmap j || decide (k = j)) := by
  unfold nullBit
  rw [List.getD_eq_getElem?_getD, List.getD_eq_getElem?_getD, List.getElem?_modify,
    List.getElem?_eq_getElem hj]
  by_cases hbyte : k / 8 = j / 8
  · -- the same byte: the bits agree exactly when the indices do
    simp only [hbyte, if_true, Option.map_eq_map, Option.map_some, Option.getD_some]
    rw [testBit_or_one_shiftLeft _ (Nat.mod_lt _ (by decide))]
    congr 1
    apply decide_eq_decide.mpr
    omega
  · have hne : k ≠ j := fun h => hbyte (h ▸ rfl)
    simp [hbyte, hne]

@[simp]
theorem length_setNullBits
    (nulls : List Bool) :
    ∀ (i : Nat) (nullBitmap : List UInt8),
      (setNullBits i nulls nullBitmap).length = nullBitmap.length := by
  induction nulls with
  | nil => intro i nullBitmap; rfl
  | cons isNull rest ih =>
      intro i nullBitmap
      rw [setNullBits, ih]
      split <;> simp

/-- Bit `j` of the bitmap after the loop: set before, or set by the loop for a `nil`. -/
theorem nullBit_setNullBits
    (nulls : List Bool) :
    ∀ (i : Nat) (nullBitmap : List UInt8) (j : Nat), j / 8 < nullBitmap.length →
      nullBit (setNullBits i nulls nullBitmap) j =
        (nullBit nullBitmap j || (decide (i ≤ j) && nulls.getD (j - i) false)) := by
  induction nulls with
  | nil =>
      intro i nullBitmap j _
      simp [setNullBits]
  | cons isNull rest ih =>
      intro i nullBitmap j hj
      have hj' : j / 8 < (if isNull then nullBitmap.modify (i / 8) (· ||| 1 <<< (i % 8).toUInt8)
          else nullBitmap).length := by
        split <;> simpa using hj
      rw [setNullBits, ih _ _ _ hj']
      have hbit : nullBit (if isNull then nullBitmap.modify (i / 8) (· ||| 1 <<< (i % 8).toUInt8)
          else nullBitmap) j = (nullBit nullBitmap j || (isNull && decide (i = j))) := by
        cases isNull
        · simp
        · simp [nullBit_modify _ _ _ hj]
      rw [hbit]
      -- index `i` is the head's, the later ones the tail's
      rcases Nat.lt_or_ge j i with hlt | hge
      · simp [show ¬ i = j by omega, show ¬ i ≤ j by omega, show ¬ i + 1 ≤ j by omega]
      · rcases Nat.eq_or_lt_of_le hge with heq | hlt
        · subst heq
          simp
        · have hsub : j - i = (j - (i + 1)) + 1 := by omega
          simp [show ¬ i = j by omega, show i + 1 ≤ j by omega, show i ≤ j by omega, hsub]

/-- The bitmap the encoder writes has bit `j` set exactly for a `nil` argument. -/
theorem nullBit_nullBitmapOf
    (encs : List ArgEncoding)
    (j : Nat)
    (hj : j < encs.length) :
    nullBit (nullBitmapOf encs) j = encs[j].isNull := by
  have hbyte : j / 8 < (List.replicate ((encs.length + 7) >>> 3) (0 : UInt8)).length := by
    rw [List.length_replicate, Nat.shiftRight_eq_div_pow]
    omega
  rw [nullBitmapOf, nullBit_setNullBits _ _ _ _ hbyte]
  have hzero : nullBit (List.replicate ((encs.length + 7) >>> 3) (0 : UInt8)) j = false := by
    simp only [nullBit, List.getD_eq_getElem?_getD, List.getElem?_replicate]
    split <;> simp
  simp [hzero, hj]

theorem length_nullBitmapOf
    (encs : List ArgEncoding) :
    (nullBitmapOf encs).length = (encs.length + 7) >>> 3 := by
  simp [nullBitmapOf]

/-- The byte the parser tests for parameter `j` has its bit set exactly for `nil`. -/
theorem nullBitmapOf_test
    (encs : List ArgEncoding)
    (j : Nat)
    (hj : j < encs.length) :
    ∃ bits, (nullBitmapOf encs)[j / 8]? = some bits ∧
      (bits &&& 1 <<< (j % 8).toUInt8 > 0 ↔ encs[j].isNull = true) := by
  have hbyte : j / 8 < (nullBitmapOf encs).length := by
    rw [length_nullBitmapOf, Nat.shiftRight_eq_div_pow]
    omega
  refine ⟨(nullBitmapOf encs)[j / 8], List.getElem?_eq_getElem hbyte, ?_⟩
  rw [and_one_shiftLeft_pos_iff _ (Nat.mod_lt _ (by decide)), ← nullBit_nullBitmapOf encs j hj]
  simp [nullBit, List.getD_eq_getElem?_getD, List.getElem?_eq_getElem hbyte]

/-! ### The type block -/

theorem getElem?_paramTypesOf
    (encs : List ArgEncoding) :
    ∀ (j : Nat) (hj : j < encs.length),
      (paramTypesOf encs)[j <<< 1]? = some encs[j].type ∧
        (paramTypesOf encs)[(j <<< 1) + 1]? = some encs[j].flag := by
  induction encs with
  | nil => intro j hj; simp at hj
  | cons e rest ih =>
      intro j hj
      cases j with
      | zero => simp [paramTypesOf]
      | succ j =>
          have hj' : j < rest.length := by simpa using hj
          obtain ⟨htype, hflag⟩ := ih j hj'
          have hshift : (j + 1) <<< 1 = j <<< 1 + 2 := by
            simp only [Nat.shiftLeft_eq]
            omega
          simp only [paramTypesOf, List.flatMap_cons] at htype hflag ⊢
          rw [hshift, List.cons_append, List.cons_append, List.nil_append]
          simpa [Nat.add_right_comm _ 2 1] using And.intro htype hflag

theorem length_paramTypesOf
    (encs : List ArgEncoding) :
    (paramTypesOf encs).length = encs.length <<< 1 := by
  induction encs with
  | nil => rfl
  | cons e rest ih =>
      simp only [paramTypesOf, List.flatMap_cons, List.length_append, List.length_cons,
        List.length_nil] at ih ⊢
      rw [ih]
      simp only [Nat.shiftLeft_eq]
      omega

/-! ### Reading one value back -/

section Values

variable {data rest : List UInt8} {pos : Nat}

theorem uint16At_of_toBytes
    {v : UInt16}
    (h : BytesAt data pos (Uint16ToBytes v ++ rest)) :
    uint16At data pos = some v := by
  rw [Uint16ToBytes_eq] at h
  have hs := h.slice
  have hu := uint16_encode v.toNat []
  rw [length_encode] at hs
  rw [List.append_nil, UInt16.ofNat_toNat] at hu
  simp only [uint16At, hs, Option.bind_eq_bind, Option.bind_some, hu]

theorem uint32At_of_toBytes
    {v : UInt32}
    (h : BytesAt data pos (Uint32ToBytes v ++ rest)) :
    uint32At data pos = some v := by
  rw [Uint32ToBytes_eq] at h
  have hs := h.slice
  have hu := uint32_encode v.toNat []
  rw [length_encode] at hs
  rw [List.append_nil, UInt32.ofNat_toNat] at hu
  simp only [uint32At, hs, Option.bind_eq_bind, Option.bind_some, hu]

theorem uint64At_of_toBytes
    {v : UInt64}
    (h : BytesAt data pos (Uint64ToBytes v ++ rest)) :
    uint64At data pos = some v := by
  rw [Uint64ToBytes_eq] at h
  have hs := h.slice
  have hu := uint64_encode v.toNat []
  rw [length_encode] at hs
  rw [List.append_nil, UInt64.ofNat_toNat] at hu
  simp only [uint64At, hs, Option.bind_eq_bind, Option.bind_some, hu]

end Values

/-! One lemma for each branch of the type switch that an encoded value takes. -/

section ParseParam

variable {data paramTypes : List UInt8} {i pos : Nat}

theorem parseParam_tiny
    {flag b : UInt8}
    (htype : paramTypes[i <<< 1]? = some fieldTypeTiny)
    (hflag : paramTypes[(i <<< 1) + 1]? = some flag)
    (hb : data[pos]? = some b) :
    parseParam data paramTypes i pos = .ok (if flag = 0x80 then .uint8 b else .int8 b.toInt8, pos + 1) := by
  simp [parseParam, htype, hflag, hb, fieldTypeTiny, fieldTypeNULL]
  rfl

theorem parseParam_short
    {flag : UInt8}
    {v : UInt16}
    (htype : paramTypes[i <<< 1]? = some fieldTypeShort)
    (hflag : paramTypes[(i <<< 1) + 1]? = some flag)
    (hv : uint16At data pos = some v) :
    parseParam data paramTypes i pos =
      .ok (if flag = 0x80 then .uint16 v else .int16 v.toInt16, pos + 2) := by
  simp [parseParam, htype, hflag, hv, fieldTypeTiny, fieldTypeNULL, fieldTypeShort]
  rfl

theorem parseParam_long
    {flag : UInt8}
    {v : UInt32}
    (htype : paramTypes[i <<< 1]? = some fieldTypeLong)
    (hflag : paramTypes[(i <<< 1) + 1]? = some flag)
    (hv : uint32At data pos = some v) :
    parseParam data paramTypes i pos =
      .ok (if flag = 0x80 then .uint32 v else .int32 v.toInt32, pos + 4) := by
  simp [parseParam, htype, hflag, hv, fieldTypeTiny, fieldTypeNULL, fieldTypeShort, fieldTypeYear,
    fieldTypeLong]
  rfl

theorem parseParam_longLong
    {flag : UInt8}
    {v : UInt64}
    (htype : paramTypes[i <<< 1]? = some fieldTypeLongLong)
    (hflag : paramTypes[(i <<< 1) + 1]? = some flag)
    (hv : uint64At data pos = some v) :
    parseParam data paramTypes i pos =
      .ok (if flag = 0x80 then .uint64 v else .int64 v.toInt64, pos + 8) := by
  simp [parseParam, htype, hflag, hv, fieldTypeTiny, fieldTypeNULL, fieldTypeShort, fieldTypeYear,
    fieldTypeLong, fieldTypeInt24, fieldTypeLongLong]
  rfl

theorem parseParam_float
    {v : UInt32}
    (htype : paramTypes[i <<< 1]? = some fieldTypeFloat)
    (hv : uint32At data pos = some v) :
    parseParam data paramTypes i pos = .ok (.float32 v, pos + 4) := by
  simp [parseParam, htype, hv, fieldTypeTiny, fieldTypeNULL, fieldTypeShort, fieldTypeYear,
    fieldTypeLong, fieldTypeInt24, fieldTypeLongLong, fieldTypeFloat]
  rfl

theorem parseParam_double
    {v : UInt64}
    (htype : paramTypes[i <<< 1]? = some fieldTypeDouble)
    (hv : uint64At data pos = some v) :
    parseParam data paramTypes i pos = .ok (.float64 v, pos + 8) := by
  simp [parseParam, htype, hv, fieldTypeTiny, fieldTypeNULL, fieldTypeShort, fieldTypeYear,
    fieldTypeLong, fieldTypeInt24, fieldTypeLongLong, fieldTypeFloat, fieldTypeDouble]
  rfl

/-- A `STRING` value is read as length-encoded bytes from the rest of the data. -/
theorem parseParam_string
    {r v : List UInt8}
    {n : Nat}
    (htype : paramTypes[i <<< 1]? = some fieldTypeString)
    (hr : sliceFrom data pos = some r)
    (hv : ParseLengthEncodedBytes r = some (v, false, n, none)) :
    parseParam data paramTypes i pos = .ok (.string v, pos + n) := by
  simp [parseParam, htype, hr, hv, lengthEncodedTypes, fieldTypeTiny, fieldTypeNULL, fieldTypeShort,
    fieldTypeYear, fieldTypeLong, fieldTypeInt24, fieldTypeLongLong, fieldTypeFloat, fieldTypeDouble,
    fieldTypeDate, fieldTypeTimestamp, fieldTypeDateTime, fieldTypeTime, fieldTypeString]
  rfl

end ParseParam

/-! ### The encoder's loop -/

theorem encodeArg_ok_of_supported
    {a : ExecuteArg}
    (h : a.Supported) :
    ∃ e, encodeArg a = .ok e := by
  cases a <;> first | exact ⟨_, rfl⟩ | exact (h : False).elim

/-- Only `nil` sets its bit of the null bitmap, and it has no value bytes. -/
theorem encodeArg_isNull
    {a : ExecuteArg}
    {e : ArgEncoding}
    (he : encodeArg a = .ok e)
    (hnull : e.isNull = true) :
    a = .nil ∧ e.value = [] := by
  cases a <;> cases he
  all_goals first | exact ⟨rfl, rfl⟩ | simp at hnull

/-- Every supported argument list encodes, one encoding for each argument. -/
theorem mapM_encodeArg_ok
    (args : List ExecuteArg)
    (hsupported : ∀ a ∈ args, a.Supported) :
    ∃ encs, args.mapM encodeArg = .ok encs ∧ List.Forall₂ (fun a e => encodeArg a = .ok e) args encs := by
  induction args with
  | nil => exact ⟨[], rfl, .nil⟩
  | cons a rest ih =>
      obtain ⟨e, he⟩ := encodeArg_ok_of_supported (hsupported a List.mem_cons_self)
      obtain ⟨encs, hencs, hF⟩ := ih (fun b hb => hsupported b (List.mem_cons_of_mem a hb))
      refine ⟨e :: encs, ?_, .cons he hF⟩
      simp only [List.mapM_cons, he, hencs]
      rfl

/-- An argument that is not `nil` is read back as its canonical value, past its bytes:
the type switch takes the branch of the type byte the encoder wrote. -/
theorem parseParam_encodeArg
    {data paramTypes rest : List UInt8}
    {i pos : Nat}
    {a : ExecuteArg}
    {e : ArgEncoding}
    (he : encodeArg a = .ok e)
    (hnotNull : e.isNull = false)
    (htype : paramTypes[i <<< 1]? = some e.type)
    (hflag : paramTypes[(i <<< 1) + 1]? = some e.flag)
    (hdata : BytesAt data pos (e.value ++ rest))
    (hslice : data.length < 2 ^ 63) :
    parseParam data paramTypes i pos = .ok (a.norm, pos + e.value.length) := by
  -- a length-encoded value reads back from what is left of the Go slice
  have hstring : ∀ v, e.type = fieldTypeString → e.value = DumpLengthEncodedString [] v →
      parseParam data paramTypes i pos = .ok (.string v, pos + e.value.length) := by
    intro v hty hv
    rw [hv] at hdata ⊢
    have hlen := hdata.length_le
    rw [hty] at htype
    exact parseParam_string htype hdata.sliceFrom
      (ParseLengthEncodedBytes_dump v rest (by omega))
  cases a <;> cases he
  case nil => simp at hnotNull
  case int8 v => simpa [ExecuteArg.norm] using parseParam_tiny htype hflag hdata.getElem?
  case uint8 v => simpa [ExecuteArg.norm] using parseParam_tiny htype hflag hdata.getElem?
  case bool v =>
      cases v <;> simpa [ExecuteArg.norm] using parseParam_tiny htype hflag hdata.getElem?
  case int16 v =>
      simpa [ExecuteArg.norm, Uint16ToBytes] using
        parseParam_short htype hflag (uint16At_of_toBytes hdata)
  case uint16 v =>
      simpa [ExecuteArg.norm, Uint16ToBytes] using
        parseParam_short htype hflag (uint16At_of_toBytes hdata)
  case int32 v =>
      simpa [ExecuteArg.norm, Uint32ToBytes] using
        parseParam_long htype hflag (uint32At_of_toBytes hdata)
  case uint32 v =>
      simpa [ExecuteArg.norm, Uint32ToBytes] using
        parseParam_long htype hflag (uint32At_of_toBytes hdata)
  case int v =>
      simpa [ExecuteArg.norm, Uint64ToBytes] using
        parseParam_longLong htype hflag (uint64At_of_toBytes hdata)
  case int64 v =>
      simpa [ExecuteArg.norm, Uint64ToBytes] using
        parseParam_longLong htype hflag (uint64At_of_toBytes hdata)
  case uint v =>
      simpa [ExecuteArg.norm, Uint64ToBytes] using
        parseParam_longLong htype hflag (uint64At_of_toBytes hdata)
  case uint64 v =>
      simpa [ExecuteArg.norm, Uint64ToBytes] using
        parseParam_longLong htype hflag (uint64At_of_toBytes hdata)
  case float32 bits =>
      simpa [ExecuteArg.norm, Uint32ToBytes] using
        parseParam_float htype (uint32At_of_toBytes hdata)
  case float64 bits =>
      simpa [ExecuteArg.norm, Uint64ToBytes] using
        parseParam_double htype (uint64At_of_toBytes hdata)
  case string v => exact hstring v rfl rfl
  case bytes v => exact hstring v rfl rfl
  case rawMessage v => exact hstring v rfl rfl

/-! ### The parser's loop -/

/-- The parser's loop reads back the encodings of the arguments from index `i` on, when
the bitmap and the types describe them at their indices and the values follow at `pos`.
The induction runs over the arguments and their encodings together, with the index and
the position general. -/
theorem parseParams_encoded
    {data nullBitmap paramTypes rest : List UInt8}
    (hslice : data.length < 2 ^ 63)
    {args : List ExecuteArg}
    {encs : List ArgEncoding}
    (hencs : List.Forall₂ (fun a e => encodeArg a = .ok e) args encs) :
    ∀ (i pos : Nat),
      (∀ j e, encs[j]? = some e → ∃ bits, nullBitmap[(i + j) / 8]? = some bits ∧
        (bits &&& 1 <<< ((i + j) % 8).toUInt8 > 0 ↔ e.isNull = true)) →
      (∀ j e, encs[j]? = some e → paramTypes[(i + j) <<< 1]? = some e.type ∧
        paramTypes[((i + j) <<< 1) + 1]? = some e.flag) →
      BytesAt data pos (encs.flatMap (·.value) ++ rest) →
      parseParams data nullBitmap paramTypes args.length i pos = .ok (args.map ExecuteArg.norm) := by
  induction hencs with
  | nil =>
      intro i pos _ _ _
      rfl
  | @cons a e args encs he _ ih =>
      intro i pos hbits htypes hdata
      obtain ⟨bits, hbyte, htest⟩ := hbits 0 e rfl
      obtain ⟨htype, hflag⟩ := htypes 0 e rfl
      simp only [Nat.add_zero] at hbyte htest htype hflag
      -- the rest of the arguments sit at the next index
      have hnext : ∀ j, i + 1 + j = i + (j + 1) := fun j => by omega
      have hbits' : ∀ j e', encs[j]? = some e' → ∃ bits, nullBitmap[(i + 1 + j) / 8]? = some bits ∧
          (bits &&& 1 <<< ((i + 1 + j) % 8).toUInt8 > 0 ↔ e'.isNull = true) := by
        intro j e' hj
        rw [hnext]
        exact hbits (j + 1) e' hj
      have htypes' : ∀ j e', encs[j]? = some e' → paramTypes[(i + 1 + j) <<< 1]? = some e'.type ∧
          paramTypes[((i + 1 + j) <<< 1) + 1]? = some e'.flag := by
        intro j e' hj
        rw [hnext]
        exact htypes (j + 1) e' hj
      have hdata' : BytesAt data pos (e.value ++ (encs.flatMap (·.value) ++ rest)) := by
        simpa only [List.flatMap_cons, List.append_assoc] using hdata
      rw [List.length_cons, parseParams, hbyte, orPanic_some, pure_bind]
      by_cases hnull : e.isNull = true
      · -- a `nil`: its bit is set and it has no bytes
        obtain ⟨rfl, hvalue⟩ := encodeArg_isNull he hnull
        rw [hvalue, List.nil_append] at hdata'
        rw [if_pos (htest.mpr hnull), ih (i + 1) pos hbits' htypes' hdata']
        rfl
      · have hnotNull : e.isNull = false := by simpa using hnull
        rw [if_neg (mt htest.mp hnull),
          parseParam_encodeArg he hnotNull htype hflag hdata' hslice, ok_bind_parseFailure]
        dsimp only
        rw [ih (i + 1) (pos + e.value.length) hbits' htypes' hdata'.advance]
        rfl

/-! ### The round trip -/

/-- What the encoder writes in one mode, the parser reads back with the types it is given
in the other: the header, the bitmap, the flag, the type block if the flag is set, and
then the values.  The types the parser returns are the block it read, or the types it
was given. -/
theorem ParseExecuteStmtRequest_made
    {stmtID : UInt32}
    {args : List ExecuteArg}
    {encs : List ArgEncoding}
    (hmapM : args.mapM encodeArg = .ok encs)
    (hencs : List.Forall₂ (fun a e => encodeArg a = .ok e) args encs)
    (newParamBound : Bool)
    (types : List UInt8)
    (htypes : newParamBound = false → types = paramTypesOf encs)
    (hslice : ∀ data, MakeExecuteStmtRequest stmtID args newParamBound = .ok data →
      data.length < 2 ^ 63) :
    ∃ data, MakeExecuteStmtRequest stmtID args newParamBound = .ok data ∧
      ParseExecuteStmtRequest data args.length types =
        .ok (stmtID, args.map ExecuteArg.norm, paramTypesOf encs) := by
  have hlenEq : args.length = encs.length := hencs.length_eq
  rcases Nat.eq_zero_or_pos args.length with hzero | hpos
  · -- no arguments: the header alone, and the parser stops after the statement ID
    obtain rfl : args = [] := List.length_eq_zero_iff.mp hzero
    obtain rfl : encs = [] := List.forall₂_nil_left_iff.mp hencs
    refine ⟨_, rfl, ?_⟩
    have hstmt : uint32At (ComStmtExecute :: (Uint32ToBytes stmtID ++ [0, 1, 0, 0, 0])) 1 =
        some stmtID :=
      uint32At_of_toBytes ⟨by simp, rfl⟩
    simp [ParseExecuteStmtRequest, hstmt]
    rfl
  · obtain ⟨data, hd⟩ : ∃ data, data = [ComStmtExecute] ++ Uint32ToBytes stmtID ++ [0] ++
        [1, 0, 0, 0] ++ nullBitmapOf encs ++ [if newParamBound then 1 else 0] ++
        (if newParamBound then paramTypesOf encs else []) ++ encs.flatMap (·.value) := ⟨_, rfl⟩
    have hmake : MakeExecuteStmtRequest stmtID args newParamBound = .ok data := by
      rw [hd, MakeExecuteStmtRequest, hmapM]
      exact if_pos hpos
    refine ⟨data, hmake, ?_⟩
    have hdlen := hslice data hmake
    -- the layout, part by part
    have h0 : BytesAt data 0 ([ComStmtExecute] ++ (Uint32ToBytes stmtID ++ ([0, 1, 0, 0, 0] ++
        (nullBitmapOf encs ++ ([if newParamBound then 1 else 0] ++
        ((if newParamBound then paramTypesOf encs else []) ++ encs.flatMap (·.value))))))) := by
      rw [hd]
      simpa only [List.append_assoc, List.cons_append, List.nil_append] using BytesAt.zero _
    have h1 := h0.advance
    have h5 := h1.advance
    have h10 := h5.advance
    have hbitmap := h10.advance
    have htypeBlock := hbitmap.advance
    simp only [length_Uint32ToBytes, List.length_cons, List.length_nil, Nat.reduceAdd,
      Nat.zero_add] at h1 h5 h10 hbitmap htypeBlock
    have hlen := htypeBlock.length_le
    have hbitmapLen : (args.length + 7) >>> 3 = (nullBitmapOf encs).length := by
      rw [length_nullBitmapOf, hlenEq]
    have hstmt : uint32At data 1 = some stmtID := uint32At_of_toBytes h1
    have hnullBitmap : slice data 10 (10 + (args.length + 7) >>> 3) = some (nullBitmapOf encs) := by
      rw [hbitmapLen]
      exact h10.slice
    have hflag := hbitmap.getElem?
    -- the bitmap and the types describe every encoding at its index
    have hbits : ∀ j e, encs[j]? = some e → ∃ bits : UInt8, (nullBitmapOf encs)[(0 + j) / 8]? = some bits ∧
        (bits &&& (1 : UInt8) <<< ((0 + j) % 8).toUInt8 > 0 ↔ e.isNull = true) := by
      intro j e hje
      obtain ⟨hj, rfl⟩ := List.getElem?_eq_some_iff.mp hje
      rw [Nat.zero_add]
      exact nullBitmapOf_test encs j hj
    have hparamTypes : ∀ j e, encs[j]? = some e → (paramTypesOf encs)[(0 + j) <<< 1]? = some e.type ∧
        (paramTypesOf encs)[((0 + j) <<< 1) + 1]? = some e.flag := by
      intro j e hje
      obtain ⟨hj, rfl⟩ := List.getElem?_eq_some_iff.mp hje
      rw [Nat.zero_add]
      exact getElem?_paramTypesOf encs j hj
    have hlengthCheck : ¬ data.length < 10 + (args.length + 7) >>> 3 + 1 := by
      rw [hbitmapLen]
      simp only [List.length_append] at hlen
      omega
    cases newParamBound with
    | true =>
        have hloop := parseParams_encoded hdlen hencs 0 _ hbits hparamTypes
          htypeBlock.advance.append_nil
        have htypeSlice := htypeBlock.slice
        rw [if_pos rfl, length_paramTypesOf, ← hlenEq] at htypeSlice
        rw [if_pos rfl, length_paramTypesOf, ← hlenEq] at hloop
        have htypeCheck : ¬ data.length < 10 + (nullBitmapOf encs).length + 1 + args.length <<< 1 := by
          rw [if_pos rfl, List.length_append, length_paramTypesOf, ← hlenEq] at hlen
          omega
        simp [ParseExecuteStmtRequest, hstmt, Nat.pos_iff_ne_zero.mp hpos, hlengthCheck,
          hnullBitmap, hflag, htypeCheck, htypeSlice, hloop, show ¬ data.length < 10 by omega]
    | false =>
        obtain rfl := htypes rfl
        have hloop := parseParams_encoded hdlen hencs 0 _ hbits hparamTypes
          htypeBlock.advance.append_nil
        rw [if_neg (by decide), List.length_nil, Nat.add_zero] at hloop
        simp [ParseExecuteStmtRequest, hstmt, Nat.pos_iff_ne_zero.mp hpos, hlengthCheck,
          hnullBitmap, hflag, hloop, show ¬ data.length < 10 by omega]

/-- The `COM_STMT_EXECUTE` round trip: every list of supported arguments encodes, and
the parser reads back the statement ID and the canonical values, with the type bytes the
encoder wrote, both from a request that carries them and, given them, from one that does
not, wherever the request is a Go slice. -/
theorem ParseExecuteStmtRequest_MakeExecuteStmtRequest
    (stmtID : UInt32)
    (args : List ExecuteArg)
    (hsupported : ∀ a ∈ args, a.Supported)
    (hslice : ∀ newParamBound data, MakeExecuteStmtRequest stmtID args newParamBound = .ok data →
      data.length < 2 ^ 63) :
    ∃ encs, args.mapM encodeArg = .ok encs ∧
      (∃ data, MakeExecuteStmtRequest stmtID args true = .ok data ∧
        ParseExecuteStmtRequest data args.length [] =
          .ok (stmtID, args.map ExecuteArg.norm, paramTypesOf encs)) ∧
      (∃ data, MakeExecuteStmtRequest stmtID args false = .ok data ∧
        ParseExecuteStmtRequest data args.length (paramTypesOf encs) =
          .ok (stmtID, args.map ExecuteArg.norm, paramTypesOf encs)) := by
  obtain ⟨encs, hmapM, hencs⟩ := mapM_encodeArg_ok args hsupported
  exact ⟨encs, hmapM,
    ParseExecuteStmtRequest_made hmapM hencs true [] (fun h => absurd h (by decide)) (hslice true),
    ParseExecuteStmtRequest_made hmapM hencs false _ (fun _ => rfl) (hslice false)⟩

/-- A `nil`, a negative `SMALLINT`, a string, a `bool` and a `uint`: each reads back in
both modes. -/
theorem ParseExecuteStmtRequest_MakeExecuteStmtRequest_mixed :
    ∃ encs, [.nil, .int16 (-2), .string [0x61, 0x62], .bool true, .uint 7].mapM encodeArg = .ok encs ∧
      (∃ data, MakeExecuteStmtRequest 7 [.nil, .int16 (-2), .string [0x61, 0x62], .bool true, .uint 7]
          true = .ok data ∧
        ParseExecuteStmtRequest data 5 [] =
          .ok (7, [.nil, .int16 (-2), .string [0x61, 0x62], .int8 1, .uint64 7], paramTypesOf encs)) ∧
      (∃ data, MakeExecuteStmtRequest 7 [.nil, .int16 (-2), .string [0x61, 0x62], .bool true, .uint 7]
          false = .ok data ∧
        ParseExecuteStmtRequest data 5 (paramTypesOf encs) =
          .ok (7, [.nil, .int16 (-2), .string [0x61, 0x62], .int8 1, .uint64 7], paramTypesOf encs)) := by
  have hmade : ∀ newParamBound, ∃ data, MakeExecuteStmtRequest 7
      [.nil, .int16 (-2), .string [0x61, 0x62], .bool true, .uint 7] newParamBound = .ok data ∧
        data.length < 2 ^ 63 := by
    intro newParamBound
    cases newParamBound <;> exact ⟨_, rfl, by decide⟩
  exact ParseExecuteStmtRequest_MakeExecuteStmtRequest 7 _ (by decide) fun newParamBound data h => by
    obtain ⟨d, hd, hlen⟩ := hmade newParamBound
    rw [hd] at h
    cases h
    exact hlen

/-- A request with one parameter that is not `nil` and no type block: the parser reads
the parameter's type from the types it is given. -/
def oneParamNoTypes (stmtID : UInt32) : List UInt8 :=
  [ComStmtExecute] ++ Uint32ToBytes stmtID ++ [0, 1, 0, 0, 0] ++ [0, 0]

/-- A request with one `TINY` parameter in its type block and no value byte. -/
def tinyWithoutValue (stmtID : UInt32) : List UInt8 :=
  [ComStmtExecute] ++ Uint32ToBytes stmtID ++ [0, 1, 0, 0, 0] ++ [0, 1, fieldTypeTiny, 0]

/-- The parser is not total: for every statement ID, it panics on a parameter with no
remembered type (`paramTypes[i<<1]` out of range), and on a `TINY` value cut off
(`data[pos]` out of range), both past every length check. -/
theorem ParseExecuteStmtRequest_panics
    (stmtID : UInt32) :
    ParseExecuteStmtRequest (oneParamNoTypes stmtID) 1 [] = .error .panic ∧
      ParseExecuteStmtRequest (tinyWithoutValue stmtID) 1 [] = .error .panic := by
  constructor
  · simp [ParseExecuteStmtRequest, oneParamNoTypes, Uint32ToBytes, uint32At, slice, uint32,
      parseParams, parseParam]
    rfl
  · simp [ParseExecuteStmtRequest, tinyWithoutValue, Uint32ToBytes, uint32At, slice, uint32,
      parseParams, parseParam, fieldTypeNULL, fieldTypeTiny]
    rfl

end Net
end TiProxy
