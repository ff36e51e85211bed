import Mathlib.Algebra.Group.Nat.Defs
import Mathlib.Algebra.Group.Int.Defs
import TiProxy.Lib.GoBytes
import TiProxy.Net.Command

/-!
# Encoding and decoding a traffic command

`pkg/sqlreplay/cmd/cmd.go`: a traffic file holds each captured command as header lines
`# Key: value`, the last of which, `# Payload_len: n`, is followed by the `n` payload
bytes and a newline.  `Command.Encode` writes a command so, and `Command.Decode` reads a
command back from a `LineReader`.

The reader is the stream of bytes that remains.  `ReadLine` is the loader's, which
calls `bufio.Reader.ReadLine` until the line is whole: the bytes up to the next
newline, without the newline and a carriage return before it, and `io.EOF` at the
end.  `Read` fills its buffer or fails with `io.EOF`.  The start time is a value of
any type, with `time.Parse` for RFC 3339 and `IsZero` as parameters.  `Decode` is
`none` where Go panics.

**Results.**
* `decodeLoop_ok_validate`: a command `Decode` returns without an error passes
  `Validate`.
* `Decode_negativePayloadLen`: a header `# Payload_len:` with a negative value makes
  `Decode` panic, whatever command it decodes into and whatever follows the header.
* `Decode_Encode`: `Decode` reads back the command `Command.Encode` wrote, and leaves
  what follows it, so the traffic files the capture writes are read back by the replay.
-/

namespace TiProxy
namespace Cmd

open GoBytes Net

/-- The errors of `Decode`.  The file name and the line index each message names are
left out. -/
inductive DecodeError where
  /-- `io.EOF` of the reader, which `Decode` returns as it is. -/
  | EOF
  /-- "line doesn't start with '# '". -/
  | noPrefix
  /-- "': ' is not found in line". -/
  | noSuffix
  /-- "value is empty in line". -/
  | emptyValue
  /-- "redundant Time". -/
  | redundantTime
  /-- "parsing Time failed". -/
  | parseTime
  /-- "redundant Conn_ID". -/
  | redundantConnID
  /-- "parsing Conn_ID failed". -/
  | parseConnID
  /-- "redundant Cmd_type". -/
  | redundantType
  /-- "parsing Payload_len failed". -/
  | parsePayloadLen
  /-- "reading Payload failed". -/
  | readPayload
  /-- "expected new line". -/
  | expectedNewLine
  /-- "no start time" of `Validate`. -/
  | noStartTime
  /-- "no connection id" of `Validate`. -/
  | noConnID
  /-- "no payload" of `Validate`. -/
  | noPayload
deriving DecidableEq, Repr

/-! ### The reader -/

/-- `ReadLine` of the loader: the line without its end, and the stream after it. -/
def ReadLine
    (reader : List UInt8) : Except DecodeError (List UInt8 × List UInt8) :=
  if reader = [] then .error .EOF
  else
    let line := reader.takeWhile (· != 10)
    let rest := reader.drop (line.length + 1)
    -- `bufio.Reader.ReadLine` drops the carriage return of a line that ends in CR LF
    if line.length < reader.length ∧ line.getLast? = some 13 then .ok (line.dropLast, rest)
    else .ok (line, rest)

/-- `Read` of the loader: the bytes that fill the buffer, or `io.EOF`. -/
def Read
    (reader : List UInt8) (n : Nat) : Except DecodeError (List UInt8 × List UInt8) :=
  if n ≤ reader.length then .ok (reader.take n, reader.drop n) else .error .EOF

/-- Every line read moves the stream on. -/
theorem ReadLine_lt
    {reader line rest : List UInt8}
    (h : ReadLine reader = .ok (line, rest)) :
    rest.length < reader.length := by
  unfold ReadLine at h
  by_cases hnil : reader = []
  · simp [hnil] at h
  · rw [if_neg hnil] at h
    dsimp only at h
    have hpos : 0 < reader.length := List.length_pos_iff.mpr hnil
    split at h <;>
    · cases h
      simp only [List.length_drop]
      omega

/-- A line with no newline inside and no carriage return at its end reads back. -/
theorem ReadLine_line
    {line : List UInt8}
    (hnl : 10 ∉ line)
    (hcr : line.getLast? ≠ some 13)
    (rest : List UInt8) :
    ReadLine (line ++ 10 :: rest) = .ok (line, rest) := by
  have htake : (line ++ 10 :: rest).takeWhile (· != 10) = line := by
    have hall : ∀ b ∈ line, (b != 10) = true := by
      intro b hb
      have hb10 : b ≠ 10 := fun h => hnl (h ▸ hb)
      simpa using hb10
    rw [List.takeWhile_append_of_pos hall]
    simp
  have hdrop : (line ++ 10 :: rest).drop (line.length + 1) = rest := by
    have hsplit : line ++ 10 :: rest = (line ++ [10]) ++ rest := by simp
    rw [hsplit]
    exact List.drop_left' (by simp)
  simp only [ReadLine, List.append_eq_nil_iff, reduceCtorEq, and_false, if_false, htake, hdrop,
    hcr, and_false, if_false]

/-! ### Numbers -/

/-- A decimal digit. -/
def isDigit
    (c : UInt8) : Bool :=
  48 ≤ c && c ≤ 57

/-- The number a string of decimal digits stands for. -/
def digitsValue
    (ds : List UInt8) : Nat :=
  ds.foldl (fun n d => 10 * n + (d - 48).toNat) 0

/-- `strconv.ParseUint(s, 10, 64)`. -/
def ParseUint
    (s : List UInt8) : Option UInt64 :=
  if s ≠ [] ∧ s.all isDigit ∧ digitsValue s < 2 ^ 64 then some (UInt64.ofNat (digitsValue s))
  else none

/-- The digits of `strconv.Atoi` after the sign, as an `int` in range. -/
def atoiDigits
    (neg : Bool) (ds : List UInt8) : Option Int64 :=
  if ds ≠ [] ∧ ds.all isDigit then
    let v : Int := if neg then -(digitsValue ds : Int) else digitsValue ds
    if -2 ^ 63 ≤ v ∧ v < 2 ^ 63 then some (Int64.ofInt v) else none
  else none

/-- `strconv.Atoi` on a 64-bit `int`: an optional sign, then decimal digits, in range. -/
def Atoi
    (s : List UInt8) : Option Int64 :=
  match s with
  | 43 :: ds => atoiDigits false ds
  | 45 :: ds => atoiDigits true ds
  | ds => atoiDigits false ds

theorem atoiDigits_digits
    {neg : Bool}
    {ds : List UInt8}
    {n : Int64}
    (h : atoiDigits neg ds = some n) :
    ds ≠ [] ∧ ds.all isDigit := by
  unfold atoiDigits at h
  by_cases hds : ds ≠ [] ∧ ds.all isDigit
  · exact hds
  · rw [if_neg hds] at h
    cases h

/-- The text `Atoi` accepts: a sign or none, then digits. -/
theorem Atoi_digits
    {s : List UInt8}
    {n : Int64}
    (h : Atoi s = some n) :
    ∃ sign ds, s = sign ++ ds ∧ (sign = [] ∨ sign = [43] ∨ sign = [45]) ∧ ds ≠ [] ∧
      ds.all isDigit := by
  unfold Atoi at h
  split at h
  · exact ⟨[43], _, rfl, .inr (.inl rfl), atoiDigits_digits h⟩
  · exact ⟨[45], _, rfl, .inr (.inr rfl), atoiDigits_digits h⟩
  · exact ⟨[], _, rfl, .inl rfl, atoiDigits_digits h⟩

/-- A decimal digit character is the byte of its code point, from 48 to 57. -/
theorem toUInt8_of_isDigit
    {c : Char}
    (h : c.isDigit = true) :
    48 ≤ c.toUInt8.toNat ∧ c.toUInt8.toNat ≤ 57 ∧ c.toUInt8.toNat = c.toNat := by
  simp only [Char.isDigit, Bool.and_eq_true, decide_eq_true_eq] at h
  have h48 : 48 ≤ c.toNat := h.1
  have h57 : c.toNat ≤ 57 := h.2
  -- a code point below 256 survives the truncation to a byte
  have hbyte : c.toUInt8.toNat = c.toNat := by
    rw [← Char.toUInt8_val, UInt32.toNat_toUInt8]
    show c.val.toNat % 256 = c.val.toNat
    have : c.val.toNat = c.toNat := rfl
    omega
  omega

theorem isDigit_of_mem_decimal
    {n : Nat}
    {d : UInt8}
    (hd : d ∈ decimal n) :
    isDigit d = true := by
  obtain ⟨c, hc, rfl⟩ := List.mem_map.mp hd
  obtain ⟨h48, h57, -⟩ := toUInt8_of_isDigit (Nat.isDigit_of_mem_toDigits (by decide) (by decide) hc)
  simp only [isDigit, Bool.and_eq_true, decide_eq_true_eq, UInt8.le_iff_toNat_le]
  exact ⟨h48, h57⟩

/-- Over decimal digits, the bytes' value is the characters' value. -/
theorem foldl_digitsValue :
    ∀ (l : List Char), (∀ c ∈ l, c.isDigit = true) → ∀ init,
      (l.map Char.toUInt8).foldl (fun n d => 10 * n + (d - 48).toNat) init =
        Nat.ofDigitChars 10 l init := by
  intro l
  induction l with
  | nil => intro _ init; rfl
  | cons c l ih =>
      intro hl init
      obtain ⟨h48, -, hc⟩ := toUInt8_of_isDigit (hl c List.mem_cons_self)
      have hsub : (c.toUInt8 - 48).toNat = c.toNat - '0'.toNat := by
        have hle : (48 : UInt8) ≤ c.toUInt8 := by
          rw [UInt8.le_iff_toNat_le]
          exact h48
        rw [UInt8.toNat_sub_of_le _ _ hle, hc]
        rfl
      rw [List.map_cons, List.foldl_cons, Nat.ofDigitChars_cons, hsub]
      exact ih (fun c' hc' => hl c' (List.mem_cons_of_mem c hc')) _

/-- `digitsValue` reads back the digits of `%d`. -/
theorem digitsValue_decimal
    (n : Nat) :
    digitsValue (decimal n) = n := by
  rw [digitsValue, decimal, foldl_digitsValue _ (fun c hc =>
    Nat.isDigit_of_mem_toDigits (by decide) (by decide) hc), Nat.ofDigitChars_ten_toDigits]

theorem decimal_ne_nil
    (n : Nat) :
    decimal n ≠ [] := by
  simp [decimal, Nat.toDigits_ne_nil]

theorem all_isDigit_decimal
    (n : Nat) :
    (decimal n).all isDigit = true :=
  List.all_eq_true.mpr fun _ hd => isDigit_of_mem_decimal hd

/-- `strconv.ParseUint` reads back what `strconv.FormatUint` writes. -/
theorem ParseUint_decimal
    {n : Nat}
    (h : n < 2 ^ 64) :
    ParseUint (decimal n) = some (UInt64.ofNat n) := by
  rw [ParseUint, if_pos ⟨decimal_ne_nil n, all_isDigit_decimal n, by rw [digitsValue_decimal]; exact h⟩,
    digitsValue_decimal]

/-- `strconv.Atoi` reads back what `strconv.Itoa` writes: the first digit is no sign. -/
theorem Atoi_decimal
    {n : Nat}
    (h : n < 2 ^ 63) :
    Atoi (decimal n) = some (Int64.ofInt n) := by
  have hdigits : atoiDigits false (decimal n) = some (Int64.ofInt n) := by
    rw [atoiDigits, if_pos ⟨decimal_ne_nil n, all_isDigit_decimal n⟩]
    simp only [Bool.false_eq_true, if_false, digitsValue_decimal]
    rw [if_pos ⟨by omega, by exact_mod_cast h⟩]
  -- the first digit is neither sign
  obtain ⟨d, ds, hds⟩ := List.exists_cons_of_ne_nil (decimal_ne_nil n)
  have hd := isDigit_of_mem_decimal (hds ▸ List.mem_cons_self : d ∈ decimal n)
  rw [hds] at hdigits ⊢
  unfold Atoi
  split
  · rename_i heq
    rw [(List.cons.inj heq).1] at hd
    simp [isDigit] at hd
  · rename_i heq
    rw [(List.cons.inj heq).1] at hd
    simp [isDigit] at hd
  · exact hdigits

/-! ### Commands -/

/-- `CommandFromString`'s table `commandStrs`, in the order of the `Command` bytes. -/
def commandStrs : List String :=
  ["Sleep", "Quit", "InitDB", "Query", "FieldList", "CreateDB", "DropDB", "Refresh",
    "(DEPRECATED)Shutdown", "Statistics", "ProcessInfo", "Connect", "ProcessKill", "Debug",
    "Ping", "Time", "DelayedInsert", "ChangeUser", "BinlogDump", "TableDump", "ConnectOut",
    "RegisterSlave", "StmtPrepare", "StmtExecute", "StmtSendLongData", "StmtClose",
    "StmtReset", "SetOption", "StmtFetch", "Daemon", "BinlogDumpGtid", "ResetConnect"]

/-- `CommandFromString`: the first command of the name, or `ComEnd`. -/
def CommandFromString
    (str : List UInt8) : UInt8 :=
  match commandStrs.findIdx? (fun c => ascii c == str) with
  | some e => UInt8.ofNat e
  | none => 32

/-- `Command`, with the fields `Decode` and `Validate` use; `PreparedStmt`, `Params`
and the digest are left out. -/
structure Command (τ : Type) where
  Payload : List UInt8
  StartTs : τ
  ConnID : UInt64
  «Type» : UInt8
  Succeess : Bool

/-- `commonKeyPrefix`. -/
def commonKeyPrefix : List UInt8 := ascii "# "

/-- `commonKeySuffix`. -/
def commonKeySuffix : List UInt8 := ascii ": "

/-- `keyStartTs`. -/
def keyStartTs : List UInt8 := ascii "# Time: "

/-- `keyConnID`. -/
def keyConnID : List UInt8 := ascii "# Conn_ID: "

/-- `keyType`. -/
def keyType : List UInt8 := ascii "# Cmd_type: "

/-- `keySuccess`. -/
def keySuccess : List UInt8 := ascii "# Success: "

/-- `keyPayloadLen`. -/
def keyPayloadLen : List UInt8 := ascii "# Payload_len: "

/-! ### Encoding -/

/-- `writeString`: the key, the value and a newline. -/
def writeString
    (key value : List UInt8) : List UInt8 :=
  key ++ value ++ [10]

/-- `strconv.FormatUint(n, 10)`, and `strconv.Itoa` of a length: the decimal digits. -/
def formatDecimal
    (n : Nat) : List UInt8 :=
  decimal n

/-- `Command.String()`: the name in `commandStrs`, and `Not a command: %x` past them. -/
def commandString
    (cmd : UInt8) : List UInt8 :=
  match commandStrs[cmd.toNat]? with
  | some name => ascii name
  | none => ascii "Not a command: " ++ (Nat.toDigits 16 cmd.toNat).map Char.toUInt8

/-- `Command.Encode` into an empty buffer: the header lines, then the payload after its
type byte and a newline.  `Format` is `Time.Format(time.RFC3339Nano)`.  Writes to a
`bytes.Buffer` do not fail; `none` is the panic of `c.Payload[1:]` on an empty payload. -/
def Command.Encode
    {τ : Type}
    (Format : τ → List UInt8)
    (c : Command τ) : Option (List UInt8) :=
  match c.Payload with
  | [] => none
  | _ :: data =>
    some (writeString keyStartTs (Format c.StartTs) ++
      writeString keyConnID (formatDecimal c.ConnID.toNat) ++
      (if c.«Type» ≠ ComQuery then writeString keyType (commandString c.«Type») else []) ++
      (if !c.Succeess then writeString keySuccess (ascii "false") else []) ++
      writeString keyPayloadLen (formatDecimal data.length) ++
      -- `Payload_len` does not count the type byte; an empty rest writes nothing
      data ++ [10])

/-- A value a header line can carry: not empty, with no newline, and not ending in a
carriage return, which `ReadLine` would drop. -/
def LineValue
    (value : List UInt8) : Prop :=
  value ≠ [] ∧ 10 ∉ value ∧ value.getLast? ≠ some 13

theorem lineValue_decimal
    (n : Nat) :
    LineValue (decimal n) := by
  have hdigit : ∀ d ∈ decimal n, d ≠ 10 ∧ d ≠ 13 := by
    intro d hd
    have := isDigit_of_mem_decimal hd
    simp only [isDigit, Bool.and_eq_true, decide_eq_true_eq] at this
    constructor <;> rintro rfl <;> exact absurd this (by decide)
  refine ⟨decimal_ne_nil n, fun h => (hdigit 10 h).1 rfl, fun h => ?_⟩
  exact (hdigit 13 (List.mem_of_getLast? h)).2 rfl

/-- `CommandFromString` reads back the name `Command.String` writes for each command of
`commandStrs`, and the name is one line. -/
theorem commandString_roundTrip :
    ∀ i : Fin 32, CommandFromString (commandString (UInt8.ofNat i)) = UInt8.ofNat i ∧
      LineValue (commandString (UInt8.ofNat i)) := by
  unfold LineValue
  decide +kernel

/-- `writeString` writes one line, which `ReadLine` reads back. -/
theorem ReadLine_writeString
    {key value : List UInt8}
    (hkey : 10 ∉ key)
    (hvalue : LineValue value)
    (rest : List UInt8) :
    ReadLine (writeString key value ++ rest) = .ok (key ++ value, rest) := by
  obtain ⟨hne, hnl, hcr⟩ := hvalue
  have hline : writeString key value ++ rest = (key ++ value) ++ 10 :: rest := by
    simp [writeString]
  rw [hline]
  apply ReadLine_line
  · simp only [List.mem_append, not_or]
    exact ⟨hkey, hnl⟩
  · rwa [List.getLast?_append_of_ne_nil _ hne]

/-- A header line: the key, up to and with the first `": "`, and the value after it. -/
def splitLine
    (line : List UInt8) : Except DecodeError (List UInt8 × List UInt8) :=
  if !commonKeyPrefix.isPrefixOf line then .error .noPrefix
  else
    match indexSub commonKeySuffix line with
    | none => .error .noSuffix
    | some idx =>
      let idx := idx + commonKeySuffix.length
      let key := line.take idx
      let value := line.drop idx
      if value = [] then .error .emptyValue else .ok (key, value)

/-- A header line splits into its key and value. -/
theorem splitLine_key
    (key : List UInt8)
    (i : Nat)
    {value : List UInt8}
    (hcommon : commonKeyPrefix.isPrefixOf key = true)
    (hindex : indexSub commonKeySuffix key = some i)
    (hkey : key.length = i + commonKeySuffix.length)
    (hvalue : value ≠ []) :
    splitLine (key ++ value) = .ok (key, value) := by
  have hcommonKey : commonKeyPrefix.isPrefixOf (key ++ value) = true := by
    rw [List.isPrefixOf_iff_prefix] at hcommon ⊢
    exact hcommon.trans (List.prefix_append _ _)
  have hindex' : indexSub commonKeySuffix (key ++ value) = some i :=
    indexSub_append value hindex (by omega)
  simp only [splitLine, hcommonKey, Bool.not_true, Bool.false_eq_true, if_false, hindex', ← hkey,
    List.take_left, List.drop_left, hvalue, if_false]

/-- The header of the payload splits into its key and the value after it. -/
theorem splitLine_payloadLen
    {value : List UInt8}
    (hvalue : value ≠ []) :
    splitLine (keyPayloadLen ++ value) = .ok (keyPayloadLen, value) :=
  splitLine_key keyPayloadLen 13 (by decide) (by decide) (by decide) hvalue

section Decode

variable {τ : Type}
variable (parseTime : List UInt8 → Option τ)
variable (IsZero : τ → Bool)

/-- `Validate`. -/
def Validate
    (c : Command τ) : Option DecodeError :=
  if IsZero c.StartTs then some .noStartTime
  else if c.ConnID = 0 then some .noConnID
  else if c.Payload = [] then some .noPayload
  else none

/-- The `keyPayloadLen` branch of `Decode`: the payload, the newline after it, and
`Validate`. -/
def readPayload
    (c : Command τ) (value reader : List UInt8) :
    Option (Except DecodeError (Command τ × List UInt8)) :=
  match Atoi value with
  | none => pure (.error .parsePayloadLen)
  | some payloadLen =>
    -- `make([]byte, payloadLen+1)` panics on a negative length
    let len := payloadLen + 1
    if len < 0 then none
    else do
      -- `c.Payload[0] = c.«Type».Byte()` panics on an empty payload
      let payload ← setAt (List.replicate len.toInt.toNat 0) 0 c.«Type»
      let read : Except DecodeError (List UInt8 × List UInt8) :=
        if 0 < payloadLen then
          (Read reader payloadLen.toInt.toNat).map fun (bytes, reader) => (payload.take 1 ++ bytes, reader)
        else .ok (payload, reader)
      match read with
      | .error _ => pure (.error .readPayload)
      | .ok (payload, reader) =>
        -- skip '\n'; `io.EOF` is returned as it is
        match Read reader 1 with
        | .error e => pure (.error e)
        | .ok (data, reader) =>
          if data ≠ [10] then pure (.error .expectedNewLine)
          else
            let c := { c with Payload := payload }
            match Validate IsZero c with
            | some e => pure (.error e)
            | none => pure (.ok (c, reader))

/-- The loop of `Decode` over the header lines, until the payload. -/
def decodeLoop
    (c : Command τ) (reader : List UInt8) :
    Option (Except DecodeError (Command τ × List UInt8)) :=
  match _hread : ReadLine reader with
  | .error e => pure (.error e)
  | .ok (line, reader') =>
    match splitLine line with
    | .error e => pure (.error e)
    | .ok (key, value) =>
      if key = keyStartTs then
        if !IsZero c.StartTs then pure (.error .redundantTime)
        else
          match parseTime value with
          | none => pure (.error .parseTime)
          | some t => decodeLoop { c with StartTs := t } reader'
      else if key = keyConnID then
        if 0 < c.ConnID then pure (.error .redundantConnID)
        else
          match ParseUint value with
          | none => pure (.error .parseConnID)
          | some id => decodeLoop { c with ConnID := id } reader'
      else if key = keyType then
        if c.«Type» ≠ ComQuery then pure (.error .redundantType)
        else decodeLoop { c with «Type» := CommandFromString value } reader'
      else if key = keySuccess then
        decodeLoop { c with Succeess := decide (value = ascii "true") } reader'
      else if key = keyPayloadLen then
        readPayload IsZero c value reader'
      else
        -- a key the decoder does not know is passed over
        decodeLoop c reader'
termination_by reader.length
decreasing_by all_goals exact ReadLine_lt _hread

/-- `Command.Decode`: the command and the stream after it. -/
def Decode
    (c : Command τ) (reader : List UInt8) :
    Option (Except DecodeError (Command τ × List UInt8)) :=
  decodeLoop parseTime IsZero { c with Succeess := true, «Type» := ComQuery } reader

/-- `readPayload` returns a command only after `Validate` passed on it. -/
theorem readPayload_ok_validate
    {c c' : Command τ}
    {value reader rest : List UInt8}
    (h : readPayload IsZero c value reader = some (.ok (c', rest))) :
    Validate IsZero c' = none := by
  unfold readPayload at h
  split at h
  · cases h
  · rename_i payloadLen _
    dsimp only at h
    by_cases hlen : payloadLen + 1 < 0
    · rw [if_pos hlen] at h
      cases h
    · rw [if_neg hlen] at h
      obtain ⟨payload, -, h⟩ := Option.bind_eq_some_iff.mp h
      -- the payload read fails, the newline is missing, or `Validate` decides
      split at h
      · cases h
      · split at h
        · cases h
        · split_ifs at h
          · cases h
          · split at h
            · cases h
            · rename_i hvalid
              cases h
              exact hvalid

/-- A command `decodeLoop` returns without an error passes `Validate`: every header
line either fails, moves on to the next line, or is the payload's. -/
theorem decodeLoop_ok_validate
    (c : Command τ)
    (reader : List UInt8)
    {c' : Command τ}
    {rest : List UInt8}
    (h : decodeLoop parseTime IsZero c reader = some (.ok (c', rest))) :
    Validate IsZero c' = none := by
  revert h
  fun_induction decodeLoop parseTime IsZero c reader
  -- the payload's header: `readPayload` validates what it returns
  case case12 => exact readPayload_ok_validate IsZero
  -- every other line fails, or the loop goes on to the next one
  all_goals first
    | assumption
    | (intro h; cases h)

/-- `payloadLen+1` of a negative `int` is at most zero: it does not wrap. -/
theorem add_one_nonpos_of_neg
    {n : Int64}
    (h : n < 0) :
    n + 1 < 0 ∨ n + 1 = 0 := by
  rw [Int64.lt_iff_toInt_lt] at h
  have hadd : (n + 1).toInt = n.toInt + 1 := by
    have := Int64.le_toInt n
    rw [Int64.toInt_add, show (1 : Int64).toInt = 1 from rfl]
    exact Int.bmod_eq_of_le (by omega) (by simp only [Int64.toInt_zero] at h; omega)
  rw [Int64.lt_iff_toInt_lt, ← Int64.toInt_inj, hadd]
  simp only [Int64.toInt_zero] at h ⊢
  omega

/-- A length of a payload that the `int` holds, and the length one more. -/
theorem toInt_ofInt_add_one
    {L : Nat}
    (h : L + 1 < 2 ^ 63) :
    (Int64.ofInt L).toInt = L ∧ (Int64.ofInt L + 1).toInt = L + 1 := by
  have h₁ : (Int64.ofInt L).toInt = L := Int64.toInt_ofInt_of_le (by omega) (by omega)
  refine ⟨h₁, ?_⟩
  rw [Int64.toInt_add, h₁, show (1 : Int64).toInt = 1 from rfl]
  exact Int.bmod_eq_of_le (by omega) (by omega)

/-- A negative `Payload_len` panics: `make` fails on a negative length, and on the
length zero of `-1` the store of the command byte indexes past the empty payload. -/
theorem readPayload_negative
    (c : Command τ)
    {value : List UInt8}
    (reader : List UInt8)
    {payloadLen : Int64}
    (hvalue : Atoi value = some payloadLen)
    (hneg : payloadLen < 0) :
    readPayload IsZero c value reader = none := by
  unfold readPayload
  rw [hvalue]
  dsimp only
  rcases add_one_nonpos_of_neg hneg with hlt | heq
  · rw [if_pos hlt]
  · rw [if_neg (by rw [heq]; decide), heq]
    rfl

/-- A header `# Payload_len:` with a negative value makes `Decode` panic, whatever
command it decodes into and whatever follows the header. -/
theorem Decode_negativePayloadLen
    (c : Command τ)
    (text rest : List UInt8)
    {payloadLen : Int64}
    (htext : Atoi text = some payloadLen)
    (hneg : payloadLen < 0) :
    Decode parseTime IsZero c (keyPayloadLen ++ text ++ 10 :: rest) = none := by
  obtain ⟨sign, ds, rfl, hsign, hne, hds⟩ := Atoi_digits htext
  have hdigit : ∀ d ∈ ds, d ≠ 10 ∧ d ≠ 13 := by
    intro d hd
    have := List.all_eq_true.mp hds d hd
    simp only [isDigit, Bool.and_eq_true, decide_eq_true_eq] at this
    constructor <;> rintro rfl <;> exact absurd this (by decide)
  -- the header is one line: no newline inside it, and a digit at its end
  have hnl : 10 ∉ keyPayloadLen ++ (sign ++ ds) := by
    have hsign10 : 10 ∉ sign := by
      rcases hsign with rfl | rfl | rfl <;> decide
    simp only [List.mem_append, not_or]
    exact ⟨by decide, hsign10, fun h => (hdigit 10 h).1 rfl⟩
  have hcr : (keyPayloadLen ++ (sign ++ ds)).getLast? ≠ some 13 := by
    rw [List.getLast?_append_of_ne_nil _ (by simp [hne]), List.getLast?_append_of_ne_nil _ hne]
    intro h
    exact (hdigit 13 (List.mem_of_getLast? h)).2 rfl
  have hsplit : splitLine (keyPayloadLen ++ (sign ++ ds)) = .ok (keyPayloadLen, sign ++ ds) :=
    splitLine_payloadLen (by simp [hne])
  unfold Decode
  rw [decodeLoop, ReadLine_line hnl hcr rest]
  simp only [hsplit]
  -- the key is the payload's
  rw [if_neg (by decide), if_neg (by decide), if_neg (by decide), if_neg (by decide), if_pos trivial]
  exact readPayload_negative IsZero _ rest htext hneg

end Decode

theorem Decode_negativePayloadLen_minusOne :
    Atoi (ascii "-1") = some (-1 : Int64) ∧ (-1 : Int64) < 0 ∧
      Decode (fun _ => none) (fun t : Nat => t == 0) ⟨[], 0, 0, ComQuery, true⟩
        (keyPayloadLen ++ ascii "-1" ++ 10 :: []) = none := by
  have hatoi : Atoi (ascii "-1") = some (-1 : Int64) := by decide
  have hneg : (-1 : Int64) < 0 := by decide
  exact ⟨hatoi, hneg, Decode_negativePayloadLen _ _ _ _ _ hatoi hneg⟩

/-! ### The round trip

What `Command.Encode` writes for a command, `Decode` reads back, one header line after
another: each line fills in its field of the command `Decode` starts from. -/

section RoundTrip

variable {τ : Type}
variable (parseTime : List UInt8 → Option τ)
variable (IsZero : τ → Bool)

/-- The payload after its header: the bytes `Payload_len` counts, then the newline. -/
theorem readPayload_data
    (c : Command τ)
    (data rest : List UInt8)
    (hlen : data.length + 1 < 2 ^ 63)
    (hvalid : Validate IsZero { c with Payload := c.«Type» :: data } = none) :
    readPayload IsZero c (decimal data.length) (data ++ 10 :: rest) =
      some (.ok ({ c with Payload := c.«Type» :: data }, rest)) := by
  obtain ⟨hL, hL₁⟩ := toInt_ofInt_add_one hlen
  have hnotneg : ¬ Int64.ofInt data.length + 1 < 0 := by
    rw [Int64.lt_iff_toInt_lt, hL₁, Int64.toInt_zero]
    omega
  have hset : setAt (List.replicate (Int64.ofInt data.length + 1).toInt.toNat 0) 0 c.«Type» =
      some (c.«Type» :: List.replicate data.length 0) := by
    rw [hL₁, show ((data.length : Int) + 1).toNat = data.length + 1 by omega]
    simp [setAt, List.replicate_succ]
  have hnl : Read (10 :: rest) 1 = .ok ([10], rest) := by
    simp [Read]
  unfold readPayload
  rw [Atoi_decimal (by omega)]
  dsimp only
  rw [if_neg hnotneg, hset]
  simp only [Bind.bind, Option.bind_some]
  by_cases hdata : data = []
  · -- an empty payload after the type byte: nothing is read but the newline
    subst hdata
    have hpos : ¬ (0 : Int64) < Int64.ofInt (0 : Nat) := by decide
    simp only [List.length_nil, List.replicate_zero, hpos, if_false, List.nil_append, hnl]
    simp [hvalid]
  · have hpos : (0 : Int64) < Int64.ofInt data.length := by
      rw [Int64.lt_iff_toInt_lt, hL]
      have := List.length_pos_iff.mpr hdata
      simp only [Int64.toInt_zero]
      omega
    have hread : Read (data ++ 10 :: rest) (Int64.ofInt data.length).toInt.toNat =
        .ok (data, 10 :: rest) := by
      rw [hL, Int.toNat_natCast]
      simp [Read]
    simp only [if_pos hpos, hread]
    simp [Except.map, hnl, hvalid]

theorem decodeLoop_startTs
    (c : Command τ)
    {value : List UInt8}
    (hvalue : LineValue value)
    (hzero : IsZero c.StartTs = true)
    {t : τ}
    (ht : parseTime value = some t)
    (reader : List UInt8) :
    decodeLoop parseTime IsZero c (writeString keyStartTs value ++ reader) =
      decodeLoop parseTime IsZero { c with StartTs := t } reader := by
  rw [decodeLoop, ReadLine_writeString (by decide) hvalue reader]
  simp only [splitLine_key keyStartTs 6 (by decide) (by decide) (by decide) hvalue.1]
  simp [hzero, ht]

theorem decodeLoop_connID
    (c : Command τ)
    (hconn : c.ConnID = 0)
    (id : UInt64)
    (reader : List UInt8) :
    decodeLoop parseTime IsZero c (writeString keyConnID (decimal id.toNat) ++ reader) =
      decodeLoop parseTime IsZero { c with ConnID := id } reader := by
  rw [decodeLoop, ReadLine_writeString (by decide) (lineValue_decimal _) reader]
  simp only [splitLine_key keyConnID 9 (by decide) (by decide) (by decide) (lineValue_decimal _).1]
  have hkey : keyConnID ≠ keyStartTs := by decide
  simp [hkey, hconn, ParseUint_decimal (UInt64.toNat_lt id)]

theorem decodeLoop_type
    (c : Command τ)
    (hquery : c.«Type» = ComQuery)
    {t : UInt8}
    (ht : t.toNat < 32)
    (reader : List UInt8) :
    decodeLoop parseTime IsZero c (writeString keyType (commandString t) ++ reader) =
      decodeLoop parseTime IsZero { c with «Type» := t } reader := by
  obtain ⟨hname, hvalue⟩ := commandString_roundTrip ⟨t.toNat, ht⟩
  simp only [UInt8.ofNat_toNat] at hname hvalue
  rw [decodeLoop, ReadLine_writeString (by decide) hvalue reader]
  simp only [splitLine_key keyType 10 (by decide) (by decide) (by decide) hvalue.1]
  have hkey₁ : keyType ≠ keyStartTs := by decide
  have hkey₂ : keyType ≠ keyConnID := by decide
  simp [hkey₁, hkey₂, hquery, hname]

theorem decodeLoop_success
    (c : Command τ)
    (reader : List UInt8) :
    decodeLoop parseTime IsZero c (writeString keySuccess (ascii "false") ++ reader) =
      decodeLoop parseTime IsZero { c with Succeess := false } reader := by
  have hvalue : LineValue (ascii "false") := by
    unfold LineValue
    decide
  rw [decodeLoop, ReadLine_writeString (by decide) hvalue reader]
  simp only [splitLine_key keySuccess 9 (by decide) (by decide) (by decide) hvalue.1]
  have hkey₁ : keySuccess ≠ keyStartTs := by decide
  have hkey₂ : keySuccess ≠ keyConnID := by decide
  have hkey₃ : keySuccess ≠ keyType := by decide
  have hfalse : ascii "false" ≠ ascii "true" := by decide
  simp [hkey₁, hkey₂, hkey₃, hfalse]

theorem decodeLoop_payloadLen
    (c : Command τ)
    (data rest : List UInt8)
    (hlen : data.length + 1 < 2 ^ 63)
    (hvalid : Validate IsZero { c with Payload := c.«Type» :: data } = none) :
    decodeLoop parseTime IsZero c (writeString keyPayloadLen (decimal data.length) ++ (data ++ 10 :: rest)) =
      some (.ok ({ c with Payload := c.«Type» :: data }, rest)) := by
  rw [decodeLoop, ReadLine_writeString (by decide) (lineValue_decimal _) _]
  simp only [splitLine_key keyPayloadLen 13 (by decide) (by decide) (by decide) (lineValue_decimal _).1]
  have hkey₁ : keyPayloadLen ≠ keyStartTs := by decide
  have hkey₂ : keyPayloadLen ≠ keyConnID := by decide
  have hkey₃ : keyPayloadLen ≠ keyType := by decide
  have hkey₄ : keyPayloadLen ≠ keySuccess := by decide
  simp only [hkey₁, hkey₂, hkey₃, hkey₄, if_false, if_true]
  exact readPayload_data IsZero c data rest hlen hvalid

/-- The optional lines: `Cmd_type` for a type other than `COM_QUERY`, and `Success` for a
failed command; without them `Decode` keeps its defaults. -/
theorem decodeLoop_flags
    (c : Command τ)
    (hquery : c.«Type» = ComQuery)
    (hsuccess : c.Succeess = true)
    {t : UInt8}
    (ht : t.toNat < 32)
    (success : Bool)
    (reader : List UInt8) :
    decodeLoop parseTime IsZero c
        ((if t ≠ ComQuery then writeString keyType (commandString t) else []) ++
          ((if !success then writeString keySuccess (ascii "false") else []) ++ reader)) =
      decodeLoop parseTime IsZero { c with «Type» := t, Succeess := success } reader := by
  have hsuccess' : ∀ c' : Command τ, c'.Succeess = true →
      decodeLoop parseTime IsZero c' ((if !success then writeString keySuccess (ascii "false") else []) ++
        reader) = decodeLoop parseTime IsZero { c' with Succeess := success } reader := by
    intro c' hc'
    cases success with
    | false => exact decodeLoop_success parseTime IsZero c' reader
    | true => simp [← hc']
  by_cases hq : t = ComQuery
  · subst hq
    simpa [← hquery] using hsuccess' c hsuccess
  · rw [if_pos hq, decodeLoop_type parseTime IsZero c hquery ht]
    exact hsuccess' _ hsuccess

/-- `Decode` reads back what `Command.Encode` writes, and leaves the rest of the stream:
for a command whose payload starts with its type byte, of a named type, with a start time
that is not zero and that `time.Parse` reads back from its format, a connection id other
than 0 and a payload whose length the `int` of `Payload_len` holds, decoded into a fresh
command (no start time, connection id 0). -/
theorem Decode_Encode
    (Format : τ → List UInt8)
    (c₀ c : Command τ)
    (hzero : IsZero c₀.StartTs = true)
    (hconn : c₀.ConnID = 0)
    (hformat : LineValue (Format c.StartTs))
    (hparse : parseTime (Format c.StartTs) = some c.StartTs)
    (hts : IsZero c.StartTs = false)
    (hid : c.ConnID ≠ 0)
    (htype : c.«Type».toNat < 32)
    {data : List UInt8}
    (hpayload : c.Payload = c.«Type» :: data)
    (hlen : data.length + 1 < 2 ^ 63)
    (rest : List UInt8) :
    ∃ encoded, Command.Encode Format c = some encoded ∧
      Decode parseTime IsZero c₀ (encoded ++ rest) = some (.ok (c, rest)) := by
  refine ⟨_, by rw [Command.Encode, hpayload], ?_⟩
  simp only [List.append_assoc, List.singleton_append, formatDecimal]
  -- the header lines in order, each filling in its field of the command `Decode` starts from
  have h₁ := decodeLoop_startTs parseTime IsZero { c₀ with Succeess := true, «Type» := ComQuery }
    hformat hzero hparse
  have h₂ := decodeLoop_connID parseTime IsZero
    { c₀ with Succeess := true, «Type» := ComQuery, StartTs := c.StartTs } hconn c.ConnID
  have h₃ := decodeLoop_flags parseTime IsZero
    { c₀ with Succeess := true, «Type» := ComQuery, StartTs := c.StartTs, ConnID := c.ConnID } rfl rfl
    htype c.Succeess
  have h₄ := decodeLoop_payloadLen parseTime IsZero
    { c₀ with StartTs := c.StartTs, ConnID := c.ConnID, «Type» := c.«Type», Succeess := c.Succeess }
    data rest hlen (by simp [Validate, hts, hid])
  rw [Decode, h₁, h₂, h₃, h₄]
  obtain ⟨payload, startTs, connID, type, success⟩ := c
  simp only at hpayload
  simp [hpayload]

end RoundTrip

/-- A failed `COM_STMT_EXECUTE` of connection 7, whose start time is kept in seconds and
formatted in decimal: it has a `Cmd_type` and a `Success` line. -/
theorem Decode_Encode_failedExecute :
    ∃ encoded, Command.Encode decimal
        (⟨[23, 1, 0, 0, 0], 1718000000, 7, 23, false⟩ : Command Nat) = some encoded ∧
      Decode (fun v => (ParseUint v).map UInt64.toNat) (· == 0) ⟨[], 0, 0, ComQuery, true⟩
        (encoded ++ []) = some (.ok (⟨[23, 1, 0, 0, 0], 1718000000, 7, 23, false⟩, [])) :=
  Decode_Encode _ _ decimal _ _ rfl rfl (lineValue_decimal _) (by decide) rfl (by decide) (by decide)
    rfl (by decide) []

end Cmd
end TiProxy
