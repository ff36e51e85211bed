import Mathlib.Data.Finmap
import TiProxy.Net.Command
import TiProxy.Net.Protocol

/-!
# The handshake response and `COM_CHANGE_USER`

A model of `MakeHandshakeResponse`, `ParseHandshakeResponse`, `MakeChangeUser`,
`ParseChangeUser` and the attribute codec `dumpAttrs`/`parseAttrs`
(`pkg/proxy/net/mysql.go`), with the capability flags of `capability.go` that
choose their optional parts.

`MakeHandshakeResponse` makes a zero-filled buffer of the length it computes and
writes the fields at a running position; the model keeps that buffer, so that the
length arithmetic is part of what is proved.  Its sections (the auth data, the
flagged strings, the attributes, the compression level) are named steps, and the
writer rules of `GoBytes.Fills` give the bytes of the whole encoder from those of its
steps.  The parsers read at a running position; `GoBytes.BytesAt` states what the
reader sees there, and each section's lemma reads back what the encoder wrote.

A Go map `map[string]string` is an association list: `dumpAttrs` walks its entries
in their order, and since every order of a map's entries is the entry list of some
association list, a statement over all association lists covers every order Go's
`range` may take.  Two maps are equal as maps where their `toFinmap` are.

**Results.**
* `MakeHandshakeResponse_eq`: the bytes of the handshake response, with every write
  inside the buffer.
* `parseAttrs_dumpAttrs`: the attributes read back as a map.
* `ParseHandshakeResponse_MakeHandshakeResponse`: the handshake response round trip.
* `ParseChangeUser_MakeChangeUser`: the `COM_CHANGE_USER` round trip.
-/

namespace TiProxy
namespace Net

open GoBytes LittleEndian

/-! ### Capability flags -/

/-- `type Capability uint32`. -/
abbrev Capability := UInt32

/-- `ClientLongPassword`, bit 0 of the `iota` block. -/
def ClientLongPassword : Capability := (1 : UInt32) <<< 0

/-- `ClientFoundRows`, bit 1. -/
def ClientFoundRows : Capability := (1 : UInt32) <<< 1

/-- `ClientLongFlag`, bit 2. -/
def ClientLongFlag : Capability := (1 : UInt32) <<< 2

/-- `ClientConnectWithDB`, bit 3. -/
def ClientConnectWithDB : Capability := (1 : UInt32) <<< 3

/-- `ClientCompress`, bit 5. -/
def ClientCompress : Capability := (1 : UInt32) <<< 5

/-- `ClientODBC`, bit 6. -/
def ClientODBC : Capability := (1 : UInt32) <<< 6

/-- `ClientLocalFiles`, bit 7. -/
def ClientLocalFiles : Capability := (1 : UInt32) <<< 7

/-- `ClientProtocol41`, bit 9. -/
def ClientProtocol41 : Capability := (1 : UInt32) <<< 9

/-- `ClientInteractive`, bit 10. -/
def ClientInteractive : Capability := (1 : UInt32) <<< 10

/-- `ClientSSL`, bit 11. -/
def ClientSSL : Capability := (1 : UInt32) <<< 11

/-- `ClientTransactions`, bit 13. -/
def ClientTransactions : Capability := (1 : UInt32) <<< 13

/-- `ClientReserved`, bit 14. -/
def ClientReserved : Capability := (1 : UInt32) <<< 14

/-- `ClientSecureConnection`, bit 15. -/
def ClientSecureConnection : Capability := (1 : UInt32) <<< 15

/-- `ClientMultiStatements`, bit 16. -/
def ClientMultiStatements : Capability := (1 : UInt32) <<< 16

/-- `ClientMultiResults`, bit 17. -/
def ClientMultiResults : Capability := (1 : UInt32) <<< 17

/-- `ClientPluginAuth`, bit 19. -/
def ClientPluginAuth : Capability := (1 : UInt32) <<< 19

/-- `ClientConnectAttrs`, bit 20. -/
def ClientConnectAttrs : Capability := (1 : UInt32) <<< 20

/-- `ClientPluginAuthLenencClientData`, bit 21. -/
def ClientPluginAuthLenencClientData : Capability := (1 : UInt32) <<< 21

/-- `ClientDeprecateEOF`, bit 24. -/
def ClientDeprecateEOF : Capability := (1 : UInt32) <<< 24

/-- `ClientZstdCompressionAlgorithm`, bit 26. -/
def ClientZstdCompressionAlgorithm : Capability := (1 : UInt32) <<< 26

theorem bit_not_both
    {l f : Capability}
    (h : l &&& f = 0)
    (i : Nat)
    (hi : i < 32) :
    ¬ (l.toBitVec[i] ∧ f.toBitVec[i]) := by
  have := congrArg (fun x => x.toBitVec.getLsbD i) h
  simp only [UInt32.toBitVec_and, UInt32.toBitVec_zero, BitVec.getLsbD_eq_getElem hi] at this
  simpa using this

/-- Setting a flag leaves every flag it shares no bit with as it was. -/
theorem or_and_of_disjoint
    {c l f : Capability}
    (h : l &&& f = 0) :
    (c ||| l) &&& f = c &&& f := by
  apply UInt32.toBitVec_inj.mp
  ext i hi
  have := bit_not_both h i hi
  simp only [UInt32.toBitVec_and, UInt32.toBitVec_or, BitVec.getElem_and, BitVec.getElem_or]
  grind

/-- Clearing a flag leaves every flag it shares no bit with as it was. -/
theorem and_not_and_of_disjoint
    {c l f : Capability}
    (h : l &&& f = 0) :
    (c &&& ~~~l) &&& f = c &&& f := by
  apply UInt32.toBitVec_inj.mp
  ext i hi
  have := bit_not_both h i hi
  simp only [UInt32.toBitVec_and, UInt32.toBitVec_not, BitVec.getElem_and, BitVec.getElem_not]
  grind

theorem or_and_self
    (c l : Capability) :
    (c ||| l) &&& l = l := by
  apply UInt32.toBitVec_inj.mp
  ext i hi
  simp only [UInt32.toBitVec_and, UInt32.toBitVec_or, BitVec.getElem_and, BitVec.getElem_or]
  grind

theorem and_not_and_self
    (c l : Capability) :
    (c &&& ~~~l) &&& l = 0 := by
  apply UInt32.toBitVec_inj.mp
  ext i hi
  simp only [UInt32.toBitVec_and, UInt32.toBitVec_not, UInt32.toBitVec_zero, BitVec.getElem_and,
    BitVec.getElem_not, BitVec.getElem_zero]
  grind

/-! ### Connection attributes -/

/-- `map[string]string`. -/
abbrev Attrs := AList (fun _ : List UInt8 => List UInt8)

/-- The bytes of one entry: the key, then the value, each length-encoded. -/
def entryBytes (kv : Σ _ : List UInt8, List UInt8) : List UInt8 :=
  DumpLengthEncodedString [] kv.1 ++ DumpLengthEncodedString [] kv.2

/-- `dumpAttrs`: the entries one after another, in the order the loop visits them. -/
def dumpAttrs (attrs : Attrs) : List UInt8 :=
  attrs.entries.foldl (fun buf kv => buf ++ entryBytes kv) []

/-- One turn of the loop of `parseAttrs`: the key and the value at `pos`, and the
position past them; an error of `ParseLengthEncodedBytes` ends the loop. -/
def parseAttr (data : List UInt8) (pos : Nat) :
    Option (Except ProtoError (List UInt8 × List UInt8 × Nat)) := do
  let (key, _, off, err) ← ParseLengthEncodedBytes (← sliceFrom data pos)
  match err with
  | some err => pure (.error err)
  | none =>
    let pos := pos + off
    let (value, _, off, err) ← ParseLengthEncodedBytes (← sliceFrom data pos)
    match err with
    | some err => pure (.error err)
    | none => pure (.ok (key, value, pos + off))

/-- Every count `ParseLengthEncodedInt` returns is at least one byte. -/
theorem ParseLengthEncodedInt_count_pos
    {b : List UInt8}
    {num : UInt64}
    {isNull : Bool}
    {n : Nat}
    (h : ParseLengthEncodedInt b = some (num, isNull, n)) :
    1 ≤ n := by
  unfold ParseLengthEncodedInt at h
  obtain ⟨b0, -, h⟩ := Option.bind_eq_some_iff.mp h
  -- each branch reads its bytes one by one and returns its own count
  split_ifs at h
  · cases h
    omega
  · obtain ⟨_, -, h⟩ := Option.bind_eq_some_iff.mp h
    obtain ⟨_, -, h⟩ := Option.bind_eq_some_iff.mp h
    cases h
    omega
  · obtain ⟨_, -, h⟩ := Option.bind_eq_some_iff.mp h
    obtain ⟨_, -, h⟩ := Option.bind_eq_some_iff.mp h
    obtain ⟨_, -, h⟩ := Option.bind_eq_some_iff.mp h
    cases h
    omega
  · obtain ⟨_, -, h⟩ := Option.bind_eq_some_iff.mp h
    obtain ⟨_, -, h⟩ := Option.bind_eq_some_iff.mp h
    obtain ⟨_, -, h⟩ := Option.bind_eq_some_iff.mp h
    obtain ⟨_, -, h⟩ := Option.bind_eq_some_iff.mp h
    obtain ⟨_, -, h⟩ := Option.bind_eq_some_iff.mp h
    obtain ⟨_, -, h⟩ := Option.bind_eq_some_iff.mp h
    obtain ⟨_, -, h⟩ := Option.bind_eq_some_iff.mp h
    obtain ⟨_, -, h⟩ := Option.bind_eq_some_iff.mp h
    cases h
    omega
  · cases h
    omega

theorem ParseLengthEncodedBytes_count_pos
    {b v : List UInt8}
    {isNull : Bool}
    {n : Nat}
    {err : Option ProtoError}
    (h : ParseLengthEncodedBytes b = some (v, isNull, n, err)) :
    1 ≤ n := by
  unfold ParseLengthEncodedBytes at h
  obtain ⟨⟨num, isNull', n'⟩, hint, h⟩ := Option.bind_eq_some_iff.mp h
  have hpos := ParseLengthEncodedInt_count_pos hint
  simp only [] at h
  -- the count only grows past the length; the wrapping sum panics
  split_ifs at h
  · cases h
    exact hpos
  · obtain ⟨_, -, h⟩ := Option.bind_eq_some_iff.mp h
    cases h
    omega
  · cases h
    omega

/-- A turn of the loop moves past at least the key's length byte. -/
theorem parseAttr_lt
    {data key value : List UInt8}
    {pos pos' : Nat}
    (h : parseAttr data pos = some (.ok (key, value, pos'))) :
    pos < pos' := by
  unfold parseAttr at h
  obtain ⟨rest, -, h⟩ := Option.bind_eq_some_iff.mp h
  obtain ⟨⟨key', null, off, err⟩, hkey, h⟩ := Option.bind_eq_some_iff.mp h
  have hoff := ParseLengthEncodedBytes_count_pos hkey
  simp only [] at h
  cases err with
  | some e => cases h
  | none =>
      simp only [] at h
      obtain ⟨rest', -, h⟩ := Option.bind_eq_some_iff.mp h
      obtain ⟨⟨value', null', off', err'⟩, -, h⟩ := Option.bind_eq_some_iff.mp h
      simp only [] at h
      cases err' with
      | some e => cases h
      | none =>
          cases h
          omega

/-- The loop of `parseAttrs`: `attrs[key] = value` for each entry until the data ends
or an entry fails to parse. -/
def parseAttrsLoop (data : List UInt8) (pos : Nat) (attrs : Attrs) :
    Option (Attrs × Option ProtoError) :=
  if pos < data.length then
    match _hturn : parseAttr data pos with
    | none => none
    | some (.error err) => some (attrs, some err)
    | some (.ok (key, value, pos')) => parseAttrsLoop data pos' (attrs.insert key value)
  else
    some (attrs, none)
termination_by data.length - pos
decreasing_by
  have := parseAttr_lt _hturn
  omega

/-- `parseAttrs`. -/
def parseAttrs (data : List UInt8) : Option (Attrs × Option ProtoError) :=
  parseAttrsLoop data 0 ∅

/-! ### Reading and writing the sections -/

/-- `authLen := int(data[pos]); pos++; authData = data[pos : pos+authLen]; pos += authLen`:
auth data behind a one-byte length. -/
def readSecureAuth (data : List UInt8) (pos : Nat) : Option (List UInt8 × Nat) := do
  let authLen := (← data[pos]?).toNat
  let pos := pos + 1
  let authData ← slice data pos (pos + authLen)
  pure (authData, pos + authLen)

/-- The `// attrs` section of both parsers: a length-encoded row of attributes; a row
that fails to parse is a warning, with the attributes read before it. -/
def readAttrs (data : List UInt8) (pos : Nat) : Option (Attrs × Option ProtoError × Nat) := do
  let (num, null, off) ← ParseLengthEncodedInt (← sliceFrom data pos)
  if !null then do
    let pos := pos + off
    let row ← slice data pos (pos + num.toNat)
    let (attrs, err) ← parseAttrs row
    -- some clients have known bugs, and the proxy stays compatible with them
    let err := err.map (ProtoError.warning "parse attrs failed")
    pure (attrs, err, pos + num.toNat)
  else
    pure (∅, none, pos)

theorem readSecureAuth_bytesAt
    {data authData rest : List UInt8}
    {pos : Nat}
    (h : BytesAt data pos (UInt8.ofNat authData.length :: (authData ++ rest)))
    (hlen : authData.length < 256) :
    readSecureAuth data pos = some (authData, pos + 1 + authData.length) := by
  have hbyte : (UInt8.ofNat authData.length).toNat = authData.length := by
    rw [UInt8.toNat_ofNat']
    omega
  have h1 : BytesAt data (pos + 1) (authData ++ rest) := h.advance (x := [_])
  simp only [readSecureAuth, h.getElem?, Option.bind_eq_bind, Option.bind_some, hbyte,
    h1.slice, Option.pure_def]

/-! ### Reading the attributes back -/

theorem dumpAttrs_eq
    (attrs : Attrs) :
    dumpAttrs attrs = attrs.entries.flatMap entryBytes := by
  rw [dumpAttrs, foldl_append_eq_flatMap, List.nil_append]

/-- One turn of the loop reads an entry back. -/
theorem parseAttr_entry
    {data rest : List UInt8}
    {pos : Nat}
    {kv : Σ _ : List UInt8, List UInt8}
    (h : BytesAt data pos (entryBytes kv ++ rest))
    (hslice : data.length < 2 ^ 63) :
    parseAttr data pos = some (.ok (kv.1, kv.2, pos + (entryBytes kv).length)) := by
  have hk : BytesAt data pos (DumpLengthEncodedString [] kv.1 ++ (DumpLengthEncodedString [] kv.2 ++ rest)) := by
    simpa only [entryBytes, List.append_assoc] using h
  have hv := hk.advance
  have hkey := ParseLengthEncodedBytes_dump kv.1 (DumpLengthEncodedString [] kv.2 ++ rest)
    (by have := hk.length_le; omega)
  have hval := ParseLengthEncodedBytes_dump kv.2 rest (by have := hv.length_le; omega)
  simp only [parseAttr, hk.sliceFrom, hv.sliceFrom, Option.bind_eq_bind, Option.bind_some,
    hkey, hval, Option.pure_def, entryBytes, List.length_append, Nat.add_assoc]

/-- The loop reads back every entry written from where it starts, inserting them in
order. -/
theorem parseAttrsLoop_flatMap
    {data : List UInt8}
    (hslice : data.length < 2 ^ 63) :
    ∀ (es : List (Σ _ : List UInt8, List UInt8)) (pos : Nat) (acc : Attrs),
      BytesAt data pos (es.flatMap entryBytes) →
      parseAttrsLoop data pos acc = some (es.foldl (fun acc kv => acc.insert kv.1 kv.2) acc, none)
  | [], pos, acc, h => by
      have hend : ¬ pos < data.length := by
        have := h.2
        rw [List.flatMap_nil, List.drop_eq_nil_iff] at this
        omega
      rw [parseAttrsLoop, if_neg hend, List.foldl_nil]
  | kv :: es, pos, acc, h => by
      have h' : BytesAt data pos (entryBytes kv ++ es.flatMap entryBytes) := by
        simpa only [List.flatMap_cons] using h
      have hturn := parseAttr_entry h' hslice
      have hlt : pos < data.length := by
        have := h'.advance.1
        have hpos : 0 < (entryBytes kv).length := by
          have := length_DumpLengthEncodedInt_pos (UInt64.ofNat kv.1.length)
          simp only [entryBytes, DumpLengthEncodedString_eq, List.length_append]
          omega
        omega
      rw [parseAttrsLoop, if_pos hlt]
      split
      · rename_i heq
        rw [hturn] at heq
        cases heq
      · rename_i heq
        rw [hturn] at heq
        cases heq
      · rename_i key value pos' heq
        rw [hturn] at heq
        cases heq
        exact parseAttrsLoop_flatMap hslice es _ _ h'.advance

/-- Inserting entries with distinct keys, none of them already there, puts them in
front in reverse order. -/
theorem foldl_insert_entries
    (es : List (Σ _ : List UInt8, List UInt8))
    (acc : Attrs)
    (hnd : es.NodupKeys)
    (hfresh : ∀ kv ∈ es, kv.1 ∉ acc) :
    (es.foldl (fun acc kv => acc.insert kv.1 kv.2) acc).entries = es.reverse ++ acc.entries := by
  induction es generalizing acc with
  | nil => simp
  | cons kv es ih =>
      rw [List.nodupKeys_cons] at hnd
      have hkv : kv.1 ∉ acc := hfresh kv List.mem_cons_self
      have hrest : ∀ kv' ∈ es, kv'.1 ∉ acc.insert kv.1 kv.2 := by
        intro kv' hkv' hmem
        rw [AList.mem_insert] at hmem
        rcases hmem with heq | hmem
        · exact hnd.1 (heq ▸ List.mem_keys_of_mem hkv')
        · exact hfresh kv' (List.mem_cons_of_mem _ hkv') hmem
      rw [List.foldl_cons, ih _ hnd.2 hrest, AList.entries_insert_of_notMem hkv]
      simp

/-- The attributes read back as a map from any row that is a Go slice. -/
theorem parseAttrs_dumpAttrs
    (attrs : Attrs)
    (hslice : (dumpAttrs attrs).length < 2 ^ 63) :
    ∃ parsed, parseAttrs (dumpAttrs attrs) = some (parsed, none) ∧
      parsed.toFinmap = attrs.toFinmap := by
  refine ⟨_, parseAttrsLoop_flatMap hslice attrs.entries 0 ∅ ?_, ?_⟩
  · rw [← dumpAttrs_eq]
    exact BytesAt.zero _
  · rw [AList.toFinmap_eq, foldl_insert_entries _ _ attrs.nodupKeys (fun _ _ h => by cases h)]
    simp [List.reverse_perm attrs.entries]

/-! ### The handshake response -/

/-- `HandshakeResp`: the response the client sends in the handshake. -/
structure HandshakeResp where
  Attrs : Attrs
  User : List UInt8
  DB : List UInt8
  AuthPlugin : List UInt8
  AuthData : List UInt8
  Capability : Capability
  ZstdLevel : Int
  Collation : UInt8
deriving DecidableEq

/-- The capability `MakeHandshakeResponse` writes: `ClientPluginAuthLenencClientData`
set where the length of the auth data takes more than one byte, cleared otherwise. -/
def lenencCapability (resp : HandshakeResp) : Capability :=
  if 1 < (DumpLengthEncodedInt [] (UInt64.ofNat resp.AuthData.length)).length then
    resp.Capability ||| ClientPluginAuthLenencClientData
  else
    resp.Capability &&& ~~~ClientPluginAuthLenencClientData

/-- The `// auth data` section of `MakeHandshakeResponse`. -/
def putAuthData (data : List UInt8) (pos : Nat) (capability : Capability)
    (authResp authData : List UInt8) : Option (List UInt8 × Nat) :=
  if 0 < capability &&& ClientPluginAuthLenencClientData then do
    let (data, pos) ← putBytes data pos authResp
    putBytes data pos authData
  else if 0 < capability &&& ClientSecureConnection then do
    let (data, pos) ← putByte data pos (UInt8.ofNat authData.length)
    putBytes data pos authData
  else
    putTerminated data pos authData 0

/-- The `// attrs` section of `MakeHandshakeResponse`: the length, then the attributes. -/
def putAttrs (data : List UInt8) (pos : Nat) (attrBuf attrs : List UInt8) :
    Option (List UInt8 × Nat) := do
  let (data, pos) ← putBytes data pos attrBuf
  putBytes data pos attrs

/-- `MakeHandshakeResponse`. -/
def MakeHandshakeResponse (resp : HandshakeResp) : Option (List UInt8) := do
  -- encode length of the auth data
  let authResp := DumpLengthEncodedInt [] (UInt64.ofNat resp.AuthData.length)
  let capability := if 1 < authResp.length then resp.Capability ||| ClientPluginAuthLenencClientData
    else resp.Capability &&& ~~~ClientPluginAuthLenencClientData
  let attrs := if 0 < capability &&& ClientConnectAttrs then dumpAttrs resp.Attrs else []
  let attrBuf := if 0 < capability &&& ClientConnectAttrs then
      DumpLengthEncodedInt [] (UInt64.ofNat attrs.length) else []
  let length := 4 + 4 + 1 + 23 + resp.User.length + 1 + authResp.length + resp.AuthData.length +
    resp.DB.length + 1 + resp.AuthPlugin.length + 1 + attrBuf.length + attrs.length + 1
  let data := List.replicate length 0
  -- capability [32 bit]: `DumpUint32(data[:0], …)` appends into the array of `data`
  let (data, _) ← copyAt data 0 (DumpUint32 [] capability)
  let pos := 4
  -- MaxPacketSize [32 bit]
  let pos := pos + 4
  -- Charset [1 byte]
  let data ← setAt data pos resp.Collation
  let pos := pos + 1
  -- Filler [23 bytes] (all 0x00)
  let pos := pos + 23
  -- User [null terminated string]
  let (data, pos) ← putTerminated data pos resp.User 0
  -- auth data
  let (data, pos) ← putAuthData data pos capability authResp resp.AuthData
  -- db [null terminated string]
  let (data, pos) ← putWhen (0 < capability &&& ClientConnectWithDB)
    (putTerminated · · resp.DB 0) data pos
  -- auth_plugin [null terminated string]
  let (data, pos) ← putWhen (0 < capability &&& ClientPluginAuth)
    (putTerminated · · resp.AuthPlugin 0) data pos
  -- attrs
  let (data, pos) ← putWhen (0 < capability &&& ClientConnectAttrs)
    (putAttrs · · attrBuf attrs) data pos
  -- compress level
  let (data, pos) ← putWhen (0 < capability &&& ClientZstdCompressionAlgorithm)
    (putByte · · (UInt8.ofInt resp.ZstdLevel)) data pos
  slice data 0 pos

/-- The auth data as `MakeHandshakeResponse` writes it: behind its length encoding under
`ClientPluginAuthLenencClientData`, behind one length byte under
`ClientSecureConnection`, and otherwise followed by a NUL. -/
def authDataBytes (capability : Capability) (authResp authData : List UInt8) : List UInt8 :=
  if 0 < capability &&& ClientPluginAuthLenencClientData then authResp ++ authData
  else if 0 < capability &&& ClientSecureConnection then [UInt8.ofNat authData.length] ++ authData
  else authData ++ [0]

/-- The bytes of a handshake response written under a capability: the fixed header,
the user, the auth data and the parts the capability selects. -/
def handshakeRespBytes (resp : HandshakeResp) (capability : Capability) : List UInt8 :=
  let authResp := DumpLengthEncodedInt [] (UInt64.ofNat resp.AuthData.length)
  let attrs := dumpAttrs resp.Attrs
  encode 4 capability.toNat ++ (List.replicate 4 0 ++ ([resp.Collation] ++ (List.replicate 23 0 ++
    ((resp.User ++ [0]) ++ (authDataBytes capability authResp resp.AuthData ++
    ((if 0 < capability &&& ClientConnectWithDB then resp.DB ++ [0] else []) ++
    ((if 0 < capability &&& ClientPluginAuth then resp.AuthPlugin ++ [0] else []) ++
    ((if 0 < capability &&& ClientConnectAttrs then
        DumpLengthEncodedInt [] (UInt64.ofNat attrs.length) ++ attrs else []) ++
    (if 0 < capability &&& ClientZstdCompressionAlgorithm then [UInt8.ofInt resp.ZstdLevel]
      else [])))))))))

theorem putAuthData_fills
    (capability : Capability)
    (authResp authData : List UInt8) :
    Fills 0 (putAuthData · · capability authResp authData)
      (authDataBytes capability authResp authData) :=
  Fills.ite _ (Fills.bind (Fills.putBytes 0 authResp) (Fills.putBytes 0 authData))
    (Fills.ite _ (Fills.bind (Fills.putByte 0 _) (Fills.putBytes 0 authData))
      (Fills.putTerminated 0 authData 0))

theorem putAttrs_fills
    (attrBuf attrs : List UInt8) :
    Fills 0 (putAttrs · · attrBuf attrs) (attrBuf ++ attrs) :=
  Fills.bind (Fills.putBytes 0 attrBuf) (Fills.putBytes 0 attrs)

/-- The auth data never takes more room than the encoder reserves for it. -/
theorem length_authDataBytes_le
    (capability : Capability)
    (authResp authData : List UInt8)
    (hresp : 0 < authResp.length) :
    (authDataBytes capability authResp authData).length ≤ authResp.length + authData.length := by
  unfold authDataBytes
  split_ifs <;> simp <;> omega

theorem le_length_authDataBytes
    (capability : Capability)
    (authResp authData : List UInt8) :
    authData.length ≤ (authDataBytes capability authResp authData).length := by
  unfold authDataBytes
  split_ifs <;> simp

theorem length_ite_le
    (c : Prop)
    [Decidable c]
    (a : List UInt8) :
    (if c then a else []).length ≤ a.length := by
  split <;> simp

/-- `MakeHandshakeResponse` writes every field inside its buffer and returns the bytes
of the response under the capability it computes. -/
theorem MakeHandshakeResponse_eq
    (resp : HandshakeResp) :
    MakeHandshakeResponse resp = some (handshakeRespBytes resp (lenencCapability resp)) := by
  simp only [MakeHandshakeResponse]
  set authResp := DumpLengthEncodedInt [] (UInt64.ofNat resp.AuthData.length) with hauthResp
  set cap := (if 1 < authResp.length then resp.Capability ||| ClientPluginAuthLenencClientData
    else resp.Capability &&& ~~~ClientPluginAuthLenencClientData) with hcap
  set attrs := (if 0 < cap &&& ClientConnectAttrs then dumpAttrs resp.Attrs else []) with hattrs
  set attrBuf := (if 0 < cap &&& ClientConnectAttrs then
      DumpLengthEncodedInt [] (UInt64.ofNat attrs.length) else []) with hattrBuf
  -- what each section writes, and that it fits the room the encoder reserved for it
  have hUser := Fills.putTerminated (0 : UInt8) resp.User 0
  have hAuth := putAuthData_fills cap authResp resp.AuthData
  have hDB := Fills.when (0 < cap &&& ClientConnectWithDB) (Fills.putTerminated (0 : UInt8) resp.DB 0)
  have hPlugin := Fills.when (0 < cap &&& ClientPluginAuth)
    (Fills.putTerminated (0 : UInt8) resp.AuthPlugin 0)
  have hAttrs := Fills.when (0 < cap &&& ClientConnectAttrs) (putAttrs_fills attrBuf attrs)
  have hZstd := Fills.when (0 < cap &&& ClientZstdCompressionAlgorithm)
    (Fills.putByte (0 : UInt8) (UInt8.ofInt resp.ZstdLevel))
  have hAuthLen := length_authDataBytes_le cap authResp resp.AuthData
    (length_DumpLengthEncodedInt_pos _)
  have hDBLen := length_ite_le (0 < cap &&& ClientConnectWithDB) (resp.DB ++ [0])
  have hPluginLen := length_ite_le (0 < cap &&& ClientPluginAuth) (resp.AuthPlugin ++ [0])
  have hAttrsLen := length_ite_le (0 < cap &&& ClientConnectAttrs) (attrBuf ++ attrs)
  have hZstdLen := length_ite_le (0 < cap &&& ClientZstdCompressionAlgorithm) [UInt8.ofInt resp.ZstdLevel]
  simp only [List.length_append, List.length_singleton] at hDBLen hPluginLen hAttrsLen hZstdLen
  simp (disch := (simp -failIfUnchanged only [List.length_append, List.length_nil,
      List.length_singleton, List.length_replicate, length_DumpUint32] <;> omega)) only
    [copyAt_replicate, setAt_skip 4, hUser.run_skip 23, hAuth.run, hDB.run, hPlugin.run,
      hAttrs.run, hZstd.run, slice_fill, Option.bind_eq_bind, Option.bind_some]
  -- the bytes written are the response's, with the attribute bytes dumped where the flag is set
  have hlenenc : lenencCapability resp = cap := rfl
  rw [hlenenc, handshakeRespBytes, DumpUint32_eq]
  by_cases hc : 0 < cap &&& ClientConnectAttrs
  · simp only [hauthResp, hattrBuf, hattrs, hc, if_true, List.nil_append, List.append_assoc]
  · simp only [hauthResp, hc, if_false, List.nil_append, List.append_assoc]

/-! ### Reading the handshake response -/

/-- The `// password` section of `ParseHandshakeResponse`. -/
def readAuthData (data : List UInt8) (pos : Nat) (capability : Capability) :
    Option (List UInt8 × Nat) :=
  if 0 < capability &&& ClientPluginAuthLenencClientData then do
    if (← data[pos]?) = 0x1 then
      -- no auth data
      pure ([], pos + 2)
    else
      let (num, null, off) ← ParseLengthEncodedInt (← sliceFrom data pos)
      let pos := pos + off
      if !null then
        let authData ← slice data pos (pos + num.toNat)
        pure (authData, pos + num.toNat)
      else
        pure ([], pos)
  else if 0 < capability &&& ClientSecureConnection then
    readSecureAuth data pos
  else
    readTerminated data pos 0

/-- The `// dbname` section: the bytes up to the next NUL, where any bytes are left. -/
def readDB (data : List UInt8) (pos : Nat) : Option (List UInt8 × Nat) := do
  let rest ← sliceFrom data pos
  if 0 < rest.length then
    let idx := indexByte rest 0
    let db ← sliceLen data pos idx
    pure (db, (pos + idx + 1).toNat)
  else
    pure ([], pos)

/-- The `// auth plugin` section: the bytes up to the next NUL, kept only where there
are some (`if s < f`, which handles unexpected bad packets). -/
def readAuthPlugin (data : List UInt8) (pos : Nat) : Option (List UInt8 × Nat) := do
  let idx := indexByte (← sliceFrom data pos) 0
  let s : Int := pos
  let f : Int := pos + idx
  let authPlugin ← if s < f then slice data s.toNat f.toNat else pure []
  pure (authPlugin, (pos + idx + 1).toNat)

/-- The `// zstd compress level` section: `int(data[pos])` where the flag is set. -/
def readZstdLevel (data : List UInt8) (pos : Nat) (capability : Capability) : Option Int :=
  if 0 < capability &&& ClientZstdCompressionAlgorithm then do
    pure (Int.ofNat (← data[pos]?).toNat)
  else
    pure 0

/-- `ParseHandshakeResponse`: the response and the warning of a row of attributes that
fails to parse. -/
def ParseHandshakeResponse (data : List UInt8) : Option (HandshakeResp × Option ProtoError) := do
  -- capability
  let capability ← uint32At data 0
  let pos := 4
  -- skip max packet size
  let pos := pos + 4
  -- charset
  let collation ← data[pos]?
  let pos := pos + 1
  -- skip reserved 23[00]
  let pos := pos + 23
  -- user name
  let (user, pos) ← readTerminated data pos 0
  -- password
  let (authData, pos) ← readAuthData data pos capability
  -- dbname
  let (db, pos) ← readWhen (0 < capability &&& ClientConnectWithDB) readDB [] data pos
  -- auth plugin
  let (authPlugin, pos) ← readWhen (0 < capability &&& ClientPluginAuth) readAuthPlugin [] data pos
  -- attrs
  let (attrs, err, pos) ← (if 0 < capability &&& ClientConnectAttrs then readAttrs data pos
    else pure (∅, none, pos))
  -- zstd compress level
  let zstdLevel ← readZstdLevel data pos capability
  pure (⟨attrs, user, db, authPlugin, authData, capability, zstdLevel, collation⟩, err)

/-- `pos + idx + 1` on `int`s, with `idx` the length of a string: the position past
the string and its terminator. -/
theorem toNat_add_length_add_one
    (pos : Nat)
    (x : List UInt8)
    (c : UInt8) :
    ((pos : Int) + x.length + 1).toNat = pos + (x ++ [c]).length := by
  simp only [List.length_append, List.length_singleton]
  omega

theorem readDB_reads
    {db : List UInt8}
    (hc : 0 ∉ db) :
    Reads readDB db (db ++ [0]) := by
  intro data rest pos h
  have h' : BytesAt data pos (db ++ 0 :: rest) := by
    simpa only [List.append_assoc, List.singleton_append] using h
  have hne : 0 < (db ++ 0 :: rest).length := by
    simp only [List.length_append, List.length_cons]
    omega
  simp only [readDB, h'.sliceFrom, Option.bind_eq_bind, Option.bind_some, if_pos hne,
    indexByte_append rest hc, sliceLen_of_nonneg (Int.natCast_nonneg _), Int.toNat_natCast,
    h'.slice, Option.pure_def, toNat_add_length_add_one pos db 0]

theorem readAuthPlugin_reads
    {authPlugin : List UInt8}
    (hc : 0 ∉ authPlugin) :
    Reads readAuthPlugin authPlugin (authPlugin ++ [0]) := by
  intro data rest pos h
  have h' : BytesAt data pos (authPlugin ++ 0 :: rest) := by
    simpa only [List.append_assoc, List.singleton_append] using h
  simp only [readAuthPlugin, h'.sliceFrom, Option.bind_eq_bind, Option.bind_some,
    indexByte_append rest hc, toNat_add_length_add_one pos authPlugin 0]
  -- an empty name is left as it is, a nonempty one is sliced out
  by_cases hp : authPlugin = []
  · subst hp
    simp
  · have hlt : (pos : Int) < pos + authPlugin.length := by
      have := List.length_pos_iff.mpr hp
      omega
    rw [if_pos hlt, Int.toNat_natCast, ← Int.natCast_add, Int.toNat_natCast, h'.slice]
    rfl

theorem readSecureAuth_reads
    {authData : List UInt8}
    (hlen : authData.length < 256) :
    Reads readSecureAuth authData ([UInt8.ofNat authData.length] ++ authData) := by
  intro data rest pos h
  have h' : BytesAt data pos (UInt8.ofNat authData.length :: (authData ++ rest)) := by
    simpa only [List.append_assoc, List.singleton_append, List.cons_append, List.nil_append] using h
  rw [readSecureAuth_bytesAt h' hlen, List.length_append, List.length_singleton, Nat.add_assoc]

/-- The capability `MakeHandshakeResponse` writes, for auth data that is a Go slice:
`ClientPluginAuthLenencClientData` set exactly past 250 bytes. -/
theorem lenencCapability_eq
    (r : HandshakeResp)
    (hlen : r.AuthData.length < 2 ^ 64) :
    lenencCapability r =
      if 250 < r.AuthData.length then r.Capability ||| ClientPluginAuthLenencClientData
      else r.Capability &&& ~~~ClientPluginAuthLenencClientData := by
  simp only [lenencCapability, one_lt_length_DumpLengthEncodedInt hlen]

theorem lenencCapability_lenenc
    (r : HandshakeResp)
    (hlen : r.AuthData.length < 2 ^ 64) :
    0 < lenencCapability r &&& ClientPluginAuthLenencClientData ↔ 250 < r.AuthData.length := by
  rw [lenencCapability_eq r hlen]
  split_ifs with h250
  · simp only [or_and_self, h250, iff_true]
    decide
  · simp only [and_not_and_self, h250, iff_false]
    decide

/-- Every other flag is the client's own. -/
theorem lenencCapability_and
    (r : HandshakeResp)
    {f : Capability}
    (hf : ClientPluginAuthLenencClientData &&& f = 0) :
    lenencCapability r &&& f = r.Capability &&& f := by
  unfold lenencCapability
  split_ifs
  · exact or_and_of_disjoint hf
  · exact and_not_and_of_disjoint hf

/-- The auth data reads back in each of its three encodings: the first byte of a length
encoding past 250 is a marker, never the `0x1` of no auth data. -/
theorem readAuthData_reads
    {capability : Capability}
    {authData : List UInt8}
    (hlen : authData.length < 2 ^ 63)
    (hlenenc : 0 < capability &&& ClientPluginAuthLenencClientData ↔ 250 < authData.length)
    (hnul : ¬ 0 < capability &&& ClientSecureConnection → authData.length ≤ 250 → 0 ∉ authData) :
    Reads (readAuthData · · capability) authData
      (authDataBytes capability (DumpLengthEncodedInt [] (UInt64.ofNat authData.length)) authData) := by
  intro data rest pos h
  show readAuthData data pos capability = _
  unfold authDataBytes at h ⊢
  by_cases hl : 0 < capability &&& ClientPluginAuthLenencClientData
  · -- the length encoding, then the bytes
    have h250 := hlenenc.mp hl
    obtain ⟨b, bs, hd, -, hb⟩ := head_DumpLengthEncodedInt (UInt64.ofNat authData.length)
    have hb1 : b ≠ 0x1 := by
      have h250' : (250 : UInt64) < UInt64.ofNat authData.length := by
        rw [UInt64.lt_iff_toNat_lt, toNat_ofNat_length hlen]
        exact h250
      have := hb h250'
      intro he
      rw [he] at this
      exact absurd this (by decide)
    simp only [if_pos hl] at h ⊢
    have h' : BytesAt data pos (DumpLengthEncodedInt [] (UInt64.ofNat authData.length) ++
        (authData ++ rest)) := by
      simpa only [List.append_assoc] using h
    have hbyte : data[pos]? = some b := by
      rw [hd] at h'
      exact h'.getElem?
    have hv : slice data (pos + (DumpLengthEncodedInt [] (UInt64.ofNat authData.length)).length)
        (pos + ((DumpLengthEncodedInt [] (UInt64.ofNat authData.length)).length + authData.length)) =
        some authData := by
      rw [← Nat.add_assoc]
      exact h'.advance.slice
    simp only [readAuthData, if_pos hl, hbyte, hb1, h'.sliceFrom, ParseLengthEncodedInt_dump,
      Option.bind_eq_bind, Option.bind_some, Bool.not_false, ↓reduceIte,
      toNat_ofNat_length hlen, hv, Option.pure_def, List.length_append, Nat.add_assoc]
  · -- one length byte under `ClientSecureConnection`, otherwise a terminated string
    have h250 : authData.length ≤ 250 := by
      have := mt hlenenc.mpr hl
      omega
    simp only [readAuthData, if_neg hl] at h ⊢
    by_cases hs : 0 < capability &&& ClientSecureConnection
    · simp only [if_pos hs] at h ⊢
      exact readSecureAuth_reads (by omega) data rest pos h
    · simp only [if_neg hs] at h ⊢
      exact Reads.readTerminated (hnul hs h250) data rest pos h

/-- The attributes read back from their length-encoded row. -/
theorem readAttrs_dumpAttrs
    {data rest : List UInt8}
    {pos : Nat}
    (attrs : Attrs)
    (h : BytesAt data pos ((DumpLengthEncodedInt [] (UInt64.ofNat (dumpAttrs attrs).length) ++
      dumpAttrs attrs) ++ rest))
    (hslice : data.length < 2 ^ 63) :
    ∃ parsed, readAttrs data pos = some (parsed, none, pos +
        (DumpLengthEncodedInt [] (UInt64.ofNat (dumpAttrs attrs).length) ++ dumpAttrs attrs).length) ∧
      parsed.toFinmap = attrs.toFinmap := by
  have h' : BytesAt data pos (DumpLengthEncodedInt [] (UInt64.ofNat (dumpAttrs attrs).length) ++
      (dumpAttrs attrs ++ rest)) := by
    simpa only [List.append_assoc] using h
  have hlen : (dumpAttrs attrs).length < 2 ^ 63 := by
    have := h'.advance.length_le
    simp only [List.length_append] at this
    omega
  obtain ⟨parsed, hparse, hmap⟩ := parseAttrs_dumpAttrs attrs hlen
  have hrow : slice data (pos + (DumpLengthEncodedInt [] (UInt64.ofNat (dumpAttrs attrs).length)).length)
      (pos + (DumpLengthEncodedInt [] (UInt64.ofNat (dumpAttrs attrs).length)).length +
        (dumpAttrs attrs).length) = some (dumpAttrs attrs) :=
    h'.advance.slice
  refine ⟨parsed, ?_, hmap⟩
  simp only [readAttrs, h'.sliceFrom, ParseLengthEncodedInt_dump, Option.bind_eq_bind,
    Option.bind_some, Bool.not_false, ↓reduceIte, toNat_ofNat_length hlen, hrow, hparse,
    Option.map_none, Option.pure_def]
  rw [List.length_append, Nat.add_assoc]

/-- The `// attrs` section under its flag. -/
theorem readAttrs_when
    {data rest : List UInt8}
    {pos : Nat}
    (flag : Prop)
    [Decidable flag]
    (attrs : Attrs)
    (h : BytesAt data pos ((if flag then DumpLengthEncodedInt [] (UInt64.ofNat (dumpAttrs attrs).length) ++
      dumpAttrs attrs else []) ++ rest))
    (hslice : data.length < 2 ^ 63)
    (hflag : ¬ flag → attrs = ∅) :
    ∃ parsed, (if flag then readAttrs data pos else pure (∅, none, pos)) = some (parsed, none, pos +
        (if flag then DumpLengthEncodedInt [] (UInt64.ofNat (dumpAttrs attrs).length) ++
          dumpAttrs attrs else []).length) ∧
      parsed.toFinmap = attrs.toFinmap := by
  by_cases hf : flag
  · simp only [if_pos hf] at h ⊢
    exact readAttrs_dumpAttrs attrs h hslice
  · simp only [if_neg hf, List.length_nil, Nat.add_zero, hflag hf]
    exact ⟨∅, rfl, rfl⟩

/-- `int(byte(z))` is `z` for a level that fits a byte. -/
theorem ofNat_toNat_ofInt
    {z : Int}
    (h : 0 ≤ z ∧ z ≤ 255) :
    Int.ofNat (UInt8.ofInt z).toNat = z := by
  simp only [UInt8.ofInt, Int.reducePow, UInt8.toNat_ofNat', Nat.reducePow, Int.ofNat_eq_natCast,
    Int.natCast_emod, Int.ofNat_toNat, Nat.cast_ofNat]
  omega

/-- The level is the last part of the response. -/
theorem readZstdLevel_bytesAt
    {data : List UInt8}
    {pos : Nat}
    {capability : Capability}
    {zstdLevel : Int}
    (h : BytesAt data pos (if 0 < capability &&& ClientZstdCompressionAlgorithm then
      [UInt8.ofInt zstdLevel] else []))
    (hrange : 0 ≤ zstdLevel ∧ zstdLevel ≤ 255)
    (hflag : ¬ 0 < capability &&& ClientZstdCompressionAlgorithm → zstdLevel = 0) :
    readZstdLevel data pos capability = some zstdLevel := by
  by_cases hf : 0 < capability &&& ClientZstdCompressionAlgorithm
  · simp only [if_pos hf] at h
    simp only [readZstdLevel, if_pos hf, h.getElem?, Option.bind_eq_bind, Option.bind_some,
      Option.pure_def, ofNat_toNat_ofInt hrange]
  · simp only [readZstdLevel, if_neg hf, hflag hf, Option.pure_def]

/-- A handshake response that respects its capability flags: its strings have no NUL
inside, its auth data has none where a NUL ends it, and the parts the capability
leaves out are empty. -/
structure HandshakeResp.RespectsFlags (r : HandshakeResp) : Prop where
  user : 0 ∉ r.User
  db : 0 ∉ r.DB
  authPlugin : 0 ∉ r.AuthPlugin
  authData : ¬ 0 < r.Capability &&& ClientSecureConnection → r.AuthData.length ≤ 250 →
    0 ∉ r.AuthData
  dbFlag : ¬ 0 < r.Capability &&& ClientConnectWithDB → r.DB = []
  pluginFlag : ¬ 0 < r.Capability &&& ClientPluginAuth → r.AuthPlugin = []
  attrsFlag : ¬ 0 < r.Capability &&& ClientConnectAttrs → r.Attrs = ∅
  zstdRange : 0 ≤ r.ZstdLevel ∧ r.ZstdLevel ≤ 255
  zstdFlag : ¬ 0 < r.Capability &&& ClientZstdCompressionAlgorithm → r.ZstdLevel = 0

/-- The response reads back from the bytes of `handshakeRespBytes`, for a response that
respects its flags, wherever those bytes are a Go slice. -/
theorem ParseHandshakeResponse_handshakeRespBytes
    (r : HandshakeResp)
    (hr : r.RespectsFlags)
    (hslice : (handshakeRespBytes r (lenencCapability r)).length < 2 ^ 63) :
    ∃ resp, ParseHandshakeResponse (handshakeRespBytes r (lenencCapability r)) = some (resp, none) ∧
      resp = { r with Capability := lenencCapability r, Attrs := resp.Attrs } ∧
      resp.Attrs.toFinmap = r.Attrs.toFinmap := by
  obtain ⟨data, hd⟩ : ∃ data, data = handshakeRespBytes r (lenencCapability r) := ⟨_, rfl⟩
  have h0 : BytesAt data 0 (handshakeRespBytes r (lenencCapability r)) := hd ▸ BytesAt.zero data
  rw [← hd] at hslice ⊢
  simp only [handshakeRespBytes] at h0
  -- the client's own flags, which the encoder's capability keeps
  have hSecure := lenencCapability_and r (f := ClientSecureConnection) (by decide)
  have hDBf := lenencCapability_and r (f := ClientConnectWithDB) (by decide)
  have hPluginf := lenencCapability_and r (f := ClientPluginAuth) (by decide)
  have hAttrsf := lenencCapability_and r (f := ClientConnectAttrs) (by decide)
  have hZstdf := lenencCapability_and r (f := ClientZstdCompressionAlgorithm) (by decide)
  -- the fixed header: the capability, the packet size, the collation and the filler
  have h4 := h0.advance
  have h8 := h4.advance
  have h9 := h8.advance
  have h32 := h9.advance
  simp only [length_encode, List.length_replicate, List.length_singleton, Nat.reduceAdd,
    Nat.zero_add] at h4 h8 h9 h32
  have hcap : uint32At data 0 = some (lenencCapability r) := by
    have hs := h0.slice
    have hu := uint32_encode (lenencCapability r).toNat []
    rw [Nat.zero_add, length_encode] at hs
    rw [List.append_nil, UInt32.ofNat_toNat] at hu
    simp only [uint32At, hs, Option.bind_eq_bind, Option.bind_some, hu]
  have hcoll : data[8]? = some r.Collation := (h8 : BytesAt data 8 (r.Collation :: _)).getElem?
  -- the user, then the auth data in the encoding its length and the capability choose
  have hUser := Reads.readTerminated hr.user data _ 32 h32
  have h33 := h32.advance
  have hlen : r.AuthData.length < 2 ^ 63 := by
    have := h33.length_le
    have := le_length_authDataBytes (lenencCapability r)
      (DumpLengthEncodedInt [] (UInt64.ofNat r.AuthData.length)) r.AuthData
    simp only [List.length_append] at *
    omega
  have hAuth := readAuthData_reads hlen (lenencCapability_lenenc r (by omega))
    (fun hs => hr.authData (by rwa [hSecure] at hs)) data _ _ h33
  have h34 := h33.advance
  -- the flagged parts
  have hDB := Reads.when (0 < lenencCapability r &&& ClientConnectWithDB)
    (fun _ => readDB_reads hr.db) (fun hf => hr.dbFlag (by rwa [hDBf] at hf)) data _ _ h34
  have h35 := h34.advance
  have hPlugin := Reads.when (0 < lenencCapability r &&& ClientPluginAuth)
    (fun _ => readAuthPlugin_reads hr.authPlugin) (fun hf => hr.pluginFlag (by rwa [hPluginf] at hf))
    data _ _ h35
  have h36 := h35.advance
  obtain ⟨parsed, hAttrs, hmap⟩ := readAttrs_when (0 < lenencCapability r &&& ClientConnectAttrs)
    r.Attrs h36 hslice (fun hf => hr.attrsFlag (by rwa [hAttrsf] at hf))
  have hZstd := readZstdLevel_bytesAt h36.advance hr.zstdRange
    (fun hf => hr.zstdFlag (by rwa [hZstdf] at hf))
  beta_reduce at hUser hAuth
  simp only [ParseHandshakeResponse, hcap, Nat.reduceAdd, hcoll, hUser, hAuth, hDB, hPlugin, hAttrs,
    hZstd, Option.bind_eq_bind, Option.bind_some]
  exact ⟨_, rfl, rfl, hmap⟩

/-- The handshake response round trip: what `MakeHandshakeResponse` writes for a response
that respects its flags, `ParseHandshakeResponse` reads back as that response, with
`ClientPluginAuthLenencClientData` set exactly past 250 bytes of auth data and the
attributes equal as maps. -/
theorem ParseHandshakeResponse_MakeHandshakeResponse
    (r : HandshakeResp)
    (hr : r.RespectsFlags) :
    ∃ data, MakeHandshakeResponse r = some data ∧
      (data.length < 2 ^ 63 →
        ∃ resp, ParseHandshakeResponse data = some (resp, none) ∧
          resp = { r with
            Capability := if 250 < r.AuthData.length then
                r.Capability ||| ClientPluginAuthLenencClientData
              else r.Capability &&& ~~~ClientPluginAuthLenencClientData,
            Attrs := resp.Attrs } ∧
          resp.Attrs.toFinmap = r.Attrs.toFinmap) := by
  refine ⟨_, MakeHandshakeResponse_eq r, fun hslice => ?_⟩
  -- the auth data is part of the bytes, so its length is a Go `int`
  have hlen : r.AuthData.length < 2 ^ 64 := by
    have := le_length_authDataBytes (lenencCapability r)
      (DumpLengthEncodedInt [] (UInt64.ofNat r.AuthData.length)) r.AuthData
    simp only [handshakeRespBytes, List.length_append] at hslice
    omega
  rw [← lenencCapability_eq r hlen]
  exact ParseHandshakeResponse_handshakeRespBytes r hr hslice

/-- The response of the proxy's own round-trip test: every flag but
`ClientPluginAuthLenencClientData`, one attribute. -/
def testHandshakeResp : HandshakeResp where
  Attrs := (∅ : Attrs).insert (ascii "key") (ascii "value")
  User := ascii "user"
  DB := ascii "db"
  AuthPlugin := ascii "plugin"
  AuthData := ascii "1234567890"
  Capability := ~~~ClientPluginAuthLenencClientData
  ZstdLevel := 0
  Collation := 0

theorem ParseHandshakeResponse_MakeHandshakeResponse_test :
    testHandshakeResp.RespectsFlags ∧
      ∃ data, MakeHandshakeResponse testHandshakeResp = some data ∧
        (data.length < 2 ^ 63 →
          ∃ resp, ParseHandshakeResponse data = some (resp, none) ∧
            resp = { testHandshakeResp with
              Capability := if 250 < testHandshakeResp.AuthData.length then
                  testHandshakeResp.Capability ||| ClientPluginAuthLenencClientData
                else testHandshakeResp.Capability &&& ~~~ClientPluginAuthLenencClientData,
              Attrs := resp.Attrs } ∧
            resp.Attrs.toFinmap = testHandshakeResp.Attrs.toFinmap) :=
  have hr : testHandshakeResp.RespectsFlags :=
    ⟨by decide, by decide, by decide, by decide, by decide, by decide, by decide,
      by decide, by decide⟩
  ⟨hr, ParseHandshakeResponse_MakeHandshakeResponse testHandshakeResp hr⟩

/-! ### `COM_CHANGE_USER` -/

/-- `ChangeUserReq`. -/
structure ChangeUserReq where
  Attrs : Attrs
  User : List UInt8
  DB : List UInt8
  AuthPlugin : List UInt8
  AuthData : List UInt8
  Charset : List UInt8
deriving DecidableEq

/-- `MakeChangeUser`.  The capacity it computes only sizes the first allocation of the
slice that `append` then grows. -/
def MakeChangeUser (req : ChangeUserReq) (capability : Capability) : List UInt8 :=
  let attrs := if 0 < capability &&& ClientConnectAttrs then dumpAttrs req.Attrs else []
  let attrBuf := if 0 < capability &&& ClientConnectAttrs then
      DumpLengthEncodedInt [] (UInt64.ofNat attrs.length) else []
  let data := [ComChangeUser]
  -- username
  let data := data ++ req.User
  let data := data ++ [0]
  -- auth data
  let data := if 0 < capability &&& ClientSecureConnection then
      data ++ [UInt8.ofNat req.AuthData.length] ++ req.AuthData
    else
      data ++ req.AuthData ++ [0]
  -- db
  let data := data ++ req.DB
  let data := data ++ [0]
  -- character set. CLIENT_PROTOCOL_41 is always enabled.
  let data := data ++ req.Charset
  -- auth plugin
  let data := if 0 < capability &&& ClientPluginAuth then data ++ req.AuthPlugin ++ [0] else data
  -- attrs
  if 0 < capability &&& ClientConnectAttrs then data ++ attrBuf ++ attrs else data

/-- `ParseChangeUser`: the request and the warning of a row of attributes that fails to
parse.  The request may end after the database: the charset, the plugin and the
attributes are then left empty. -/
def ParseChangeUser (data : List UInt8) (capability : Capability) :
    Option (ChangeUserReq × Option ProtoError) := do
  let pos := 1
  -- username
  let (user, pos) ← readTerminated data pos 0
  -- auth data
  let (authData, pos) ← (if 0 < capability &&& ClientSecureConnection then readSecureAuth data pos
    else readTerminated data pos 0)
  -- db
  let (db, pos) ← readTerminated data pos 0
  if data.length ≤ pos then
    return (⟨∅, user, db, [], authData, []⟩, none)
  -- character set. CLIENT_PROTOCOL_41 is always enabled.
  let charset ← slice data pos (pos + 2)
  let pos := pos + 2
  -- auth plugin
  let (authPlugin, pos) ← readWhen (0 < capability &&& ClientPluginAuth) (readTerminated · · 0) []
    data pos
  -- attrs: the position past them is not used
  let (attrs, err, _) ← (if 0 < capability &&& ClientConnectAttrs then readAttrs data pos
    else pure (∅, none, pos))
  pure (⟨attrs, user, db, authPlugin, authData, charset⟩, err)

/-- The bytes of `MakeChangeUser`, one part after another. -/
theorem MakeChangeUser_eq
    (req : ChangeUserReq)
    (capability : Capability) :
    MakeChangeUser req capability =
      [ComChangeUser] ++ ((req.User ++ [0]) ++
        ((if 0 < capability &&& ClientSecureConnection then
            [UInt8.ofNat req.AuthData.length] ++ req.AuthData
          else req.AuthData ++ [0]) ++
        ((req.DB ++ [0]) ++ (req.Charset ++
        ((if 0 < capability &&& ClientPluginAuth then req.AuthPlugin ++ [0] else []) ++
        (if 0 < capability &&& ClientConnectAttrs then
            DumpLengthEncodedInt [] (UInt64.ofNat (dumpAttrs req.Attrs).length) ++ dumpAttrs req.Attrs
          else [])))))) := by
  simp only [MakeChangeUser]
  split_ifs <;> simp only [List.append_assoc, List.append_nil, List.nil_append]

/-- A change-user request its capability can carry: strings without a NUL inside, auth
data that fits its length byte or has no NUL, the parts the capability leaves out
empty, and a charset of two bytes unless nothing follows it. -/
structure ChangeUserReq.RespectsFlags (req : ChangeUserReq) (capability : Capability) : Prop where
  user : 0 ∉ req.User
  db : 0 ∉ req.DB
  authData : 0 < capability &&& ClientSecureConnection → req.AuthData.length ≤ 255
  authDataNul : ¬ 0 < capability &&& ClientSecureConnection → 0 ∉ req.AuthData
  authPlugin : 0 ∉ req.AuthPlugin
  pluginFlag : ¬ 0 < capability &&& ClientPluginAuth → req.AuthPlugin = []
  attrsFlag : ¬ 0 < capability &&& ClientConnectAttrs → req.Attrs = ∅
  charset : req.Charset.length = 2 ∨
    (req.Charset = [] ∧ ¬ 0 < capability &&& ClientPluginAuth ∧
      ¬ 0 < capability &&& ClientConnectAttrs)

/-- The auth data of a change-user request reads back in both of its encodings. -/
theorem changeUserAuth_reads
    {capability : Capability}
    {authData : List UInt8}
    (hlen : 0 < capability &&& ClientSecureConnection → authData.length ≤ 255)
    (hnul : ¬ 0 < capability &&& ClientSecureConnection → 0 ∉ authData) :
    Reads (fun data pos => if 0 < capability &&& ClientSecureConnection then readSecureAuth data pos
        else readTerminated data pos 0) authData
      (if 0 < capability &&& ClientSecureConnection then
        [UInt8.ofNat authData.length] ++ authData else authData ++ [0]) :=
  Reads.ite _ (fun hs => readSecureAuth_reads (by have := hlen hs; omega))
    (fun hs => Reads.readTerminated (hnul hs))

theorem ParseChangeUser_MakeChangeUser
    (req : ChangeUserReq)
    (capability : Capability)
    (hreq : req.RespectsFlags capability)
    (hslice : (MakeChangeUser req capability).length < 2 ^ 63) :
    ∃ parsed, ParseChangeUser (MakeChangeUser req capability) capability = some (parsed, none) ∧
      parsed = { req with Attrs := parsed.Attrs } ∧ parsed.Attrs.toFinmap = req.Attrs.toFinmap := by
  obtain ⟨data, hd⟩ : ∃ data, data = MakeChangeUser req capability := ⟨_, rfl⟩
  have h0 : BytesAt data 0 (MakeChangeUser req capability) := hd ▸ BytesAt.zero data
  rw [← hd] at hslice ⊢
  rw [MakeChangeUser_eq] at h0
  -- the command byte, the user, the auth data and the database
  have h1 : BytesAt data 1 _ := h0.advance
  have hUser := Reads.readTerminated hreq.user data _ 1 h1
  have h2 := h1.advance
  have hAuth := changeUserAuth_reads hreq.authData hreq.authDataNul data _ _ h2
  have h3 := h2.advance
  have hDB := Reads.readTerminated hreq.db data _ _ h3
  have h4 := h3.advance
  beta_reduce at hUser hAuth hDB
  rcases hreq.charset with hcs | ⟨hcs, hp, ha⟩
  · -- a charset, then the flagged parts
    have hmore : ¬ data.length ≤ 1 + (req.User ++ [0]).length +
        (if 0 < capability &&& ClientSecureConnection then
          [UInt8.ofNat req.AuthData.length] ++ req.AuthData else req.AuthData ++ [0]).length +
        (req.DB ++ [0]).length := by
      have := h4.length_le
      simp only [List.length_append, hcs] at this ⊢
      omega
    have hCharset := h4.slice
    have h5 := h4.advance
    rw [hcs] at hCharset h5
    have hPlugin := Reads.when (0 < capability &&& ClientPluginAuth)
      (fun _ => Reads.readTerminated hreq.authPlugin) hreq.pluginFlag data _ _ h5
    obtain ⟨parsed, hAttrs, hmap⟩ := readAttrs_when (0 < capability &&& ClientConnectAttrs)
      req.Attrs h5.advance.append_nil hslice hreq.attrsFlag
    simp only [ParseChangeUser, hUser, hAuth, hDB, Option.bind_eq_bind, Option.bind_some, hmore,
      if_false, hCharset, hPlugin, hAttrs]
    exact ⟨_, rfl, rfl, hmap⟩
  · -- the request ends after the database
    have hend : data.length ≤ 1 + (req.User ++ [0]).length +
        (if 0 < capability &&& ClientSecureConnection then
          [UInt8.ofNat req.AuthData.length] ++ req.AuthData else req.AuthData ++ [0]).length +
        (req.DB ++ [0]).length := by
      have := h4.length_le
      simp only [hcs, hp, ha, if_false, List.append_nil, List.length_nil, Nat.zero_add] at this
      omega
    simp only [ParseChangeUser, hUser, hAuth, hDB, Option.bind_eq_bind, Option.bind_some, hend,
      if_true]
    refine ⟨_, rfl, ?_, ?_⟩
    · rw [hreq.pluginFlag hp, hcs]
    · rw [hreq.attrsFlag ha]

/-- The request of the proxy's own round-trip test. -/
def testChangeUserReq : ChangeUserReq where
  Attrs := (∅ : Attrs).insert (ascii "key") (ascii "value")
  User := ascii "user"
  DB := ascii "db"
  AuthPlugin := ascii "plugin"
  AuthData := ascii "1234567890"
  Charset := [0x11, 0x22]

theorem ParseChangeUser_MakeChangeUser_test :
    testChangeUserReq.RespectsFlags (ClientConnectAttrs ||| ClientSecureConnection ||| ClientPluginAuth) ∧
      (MakeChangeUser testChangeUserReq
        (ClientConnectAttrs ||| ClientSecureConnection ||| ClientPluginAuth)).length < 2 ^ 63 ∧
      ∃ parsed, ParseChangeUser (MakeChangeUser testChangeUserReq
          (ClientConnectAttrs ||| ClientSecureConnection ||| ClientPluginAuth))
          (ClientConnectAttrs ||| ClientSecureConnection ||| ClientPluginAuth) = some (parsed, none) ∧
        parsed = { testChangeUserReq with Attrs := parsed.Attrs } ∧
        parsed.Attrs.toFinmap = testChangeUserReq.Attrs.toFinmap :=
  have hreq : testChangeUserReq.RespectsFlags
      (ClientConnectAttrs ||| ClientSecureConnection ||| ClientPluginAuth) :=
    ⟨by decide, by decide, by decide, by decide, by decide, by decide, by decide, by decide⟩
  have hslice : (MakeChangeUser testChangeUserReq
      (ClientConnectAttrs ||| ClientSecureConnection ||| ClientPluginAuth)).length < 2 ^ 63 := by
    decide
  ⟨hreq, hslice, ParseChangeUser_MakeChangeUser _ _ hreq hslice⟩

end Net
end TiProxy
