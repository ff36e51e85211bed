import TiProxy.Net.HandshakeResp
import TiProxy.Net.Interface

/-!
# The initial handshake packet

`pkg/proxy/net/mysql.go`: the server's first packet, which the proxy writes to the
client (`MakeInitialHandshake`) and reads from the backend (`ParseInitialHandshake`).
It carries the protocol version 10, the server version, the connection id, the salt in
two parts, and the server's capability in two halves, the lower one before the
collation and the status and the upper one after them.  The client answers with an SSL
request or its handshake response, told apart by `ParseSSLRequestOrHandshakeResp`; a
proxy that turns a client away sends an error packet (`MakeErrPacket`).

`Collation` is `mysql.DefaultCollationID` of the TiDB parser, whose value does not
matter here, so it is a parameter.

**Results.**
* `ParseInitialHandshake_MakeInitialHandshake`: the parser reads back every field the
  writer wrote, the capability with both of its halves.
-/

namespace TiProxy
namespace Net

open GoBytes LittleEndian

/-- `ServerStatusAutocommit`. -/
def ServerStatusAutocommit : UInt16 := 0x0002

/-- `Status`. -/
def Status : UInt16 := ServerStatusAutocommit

/-- `InitialHandshake`. -/
structure InitialHandshake where
  Salt : List UInt8
  ServerVersion : List UInt8
  AuthPlugin : List UInt8
  ConnID : UInt64
  Capability : Capability
deriving DecidableEq, Repr

section Packet

variable (Collation : UInt8)

/-- `MakeInitialHandshake`: the salt is a `[20]byte`. -/
def MakeInitialHandshake
    (capability : Capability)
    (salt : List UInt8)
    (authPlugin serverVersion : List UInt8)
    (connID : UInt64) : List UInt8 :=
  let saltLen := salt.length
  let data := [10] ++ serverVersion ++ [0]
  let data := data ++ [connID.toUInt8, (connID >>> 8).toUInt8, (connID >>> 16).toUInt8,
    (connID >>> 24).toUInt8]
  let data := data ++ salt.take 8 ++ [0]
  -- the lower two bytes of the capability, the charset and the status
  let data := data ++ [capability.toUInt8, (capability >>> 8).toUInt8] ++ [Collation]
  let data := DumpUint16 data Status
  -- the upper two bytes, the length of the auth data and the reserved bytes
  let data := data ++ [(capability >>> 16).toUInt8, (capability >>> 24).toUInt8]
  let data := data ++ [UInt8.ofNat (saltLen + 1)] ++ List.replicate 10 0
  let data := data ++ salt.drop 8 ++ [0]
  data ++ authPlugin ++ [0]

end Packet

/-- `ParseInitialHandshake`: `none` where a slice is out of range.  The salt starts as
twenty zero bytes, and each `copy` fills what it can. -/
def ParseInitialHandshake
    (data : List UInt8) : Option InitialHandshake := do
  let (ServerVersion, pos) ← readTerminated data 1 0
  let connID ← uint32At data pos
  let pos := pos + 4
  let salt ← slice data pos (pos + 8)
  let pos := pos + 8 + 1
  let capability ← uint16At data pos
  let pos := pos + 2
  if pos < data.length then
    -- skip the charset and the status
    let pos := pos + 1 + 2
    let upper ← uint16At data pos
    -- skip the length of the auth data and the reserved bytes
    let pos := pos + 2 + 1 + 10
    let salt2 ← sliceFrom data pos
    let pos := pos + 13
    let AuthPlugin ← readUntil data pos 0
    pure {
      Salt := salt ++ salt2.take 12 ++ List.replicate (12 - salt2.length) 0
      ServerVersion, AuthPlugin
      ConnID := connID.toUInt64
      Capability := upper.toUInt32 <<< 16 ||| capability.toUInt32 }
  else
    pure {
      Salt := salt ++ List.replicate 12 0
      ServerVersion
      AuthPlugin := []
      ConnID := connID.toUInt64
      Capability := capability.toUInt32 }

/-- The two halves of a `uint32`, each read with `binary.LittleEndian.Uint16`, put back
together. -/
theorem uint16_halves
    (n : UInt32) :
    ∃ lo hi, uint16 [n.toUInt8, (n >>> 8).toUInt8] = some lo ∧
      uint16 [(n >>> 16).toUInt8, (n >>> 24).toUInt8] = some hi ∧
      hi.toUInt32 <<< 16 ||| lo.toUInt32 = n := by
  refine ⟨_, _, rfl, rfl, ?_⟩
  apply UInt32.toNat_inj.mp
  have hn := n.toNat_lt
  simp only [UInt32.toNat_or, UInt32.toNat_shiftLeft, UInt16.toNat_toUInt32, UInt16.toNat_or,
    UInt16.toNat_shiftLeft, UInt8.toNat_toUInt16, UInt32.toNat_toUInt8, UInt32.toNat_shiftRight,
    UInt16.reduceToNat, UInt32.reduceToNat, Nat.reduceMod, Nat.shiftRight_eq_div_pow]
  -- each byte shifted into place stays in its half, and the halves do not overlap
  have hb1 : (n.toNat / 2 ^ 8 % 2 ^ 8) <<< 8 < 2 ^ 16 := by
    rw [Nat.shiftLeft_eq]
    omega
  have hb3 : (n.toNat / 2 ^ 24 % 2 ^ 8) <<< 8 < 2 ^ 16 := by
    rw [Nat.shiftLeft_eq]
    omega
  rw [Nat.mod_eq_of_lt hb1, Nat.mod_eq_of_lt hb3, or_shiftLeft_eq_add (Nat.mod_lt _ (by omega)),
    or_shiftLeft_eq_add (Nat.mod_lt _ (by omega))]
  have hhi : (n.toNat / 2 ^ 16 % 2 ^ 8 + n.toNat / 2 ^ 24 % 2 ^ 8 * 2 ^ 8) <<< 16 < 2 ^ 32 := by
    rw [Nat.shiftLeft_eq]
    omega
  rw [Nat.mod_eq_of_lt hhi, Nat.or_comm, or_shiftLeft_eq_add (by omega)]
  omega

/-- The four low bytes of a `uint64` read as a `uint32`. -/
theorem uint32_low_bytes
    (c : UInt64) :
    uint32 [c.toUInt8, (c >>> 8).toUInt8, (c >>> 16).toUInt8, (c >>> 24).toUInt8] =
      some c.toUInt32 := by
  rw [uint32_eq_decode, Option.some_inj]
  apply UInt32.toNat_inj.mp
  simp only [decode_cons, decode_nil, UInt64.toNat_toUInt8, UInt64.toNat_shiftRight,
    UInt64.reduceToNat, Nat.reduceMod, Nat.shiftRight_eq_div_pow, UInt32.toNat_ofNat',
    UInt64.toNat_toUInt32]
  omega

/-- The bytes of a fixed-width read, at a known position. -/
theorem uint16At_of_bytesAt
    {data rest : List UInt8}
    {pos : Nat}
    {b0 b1 : UInt8}
    {v : UInt16}
    (h : BytesAt data pos ([b0, b1] ++ rest))
    (hv : uint16 [b0, b1] = some v) :
    uint16At data pos = some v := by
  have hs : slice data pos (pos + 2) = some [b0, b1] := h.slice
  rw [Net.uint16At, Option.bind_eq_bind, hs, Option.bind_some, hv]

theorem uint32At_of_bytesAt
    {data rest : List UInt8}
    {pos : Nat}
    {b0 b1 b2 b3 : UInt8}
    {v : UInt32}
    (h : BytesAt data pos ([b0, b1, b2, b3] ++ rest))
    (hv : uint32 [b0, b1, b2, b3] = some v) :
    uint32At data pos = some v := by
  have hs : slice data pos (pos + 4) = some [b0, b1, b2, b3] := h.slice
  rw [Net.uint32At, Option.bind_eq_bind, hs, Option.bind_some, hv]

/-- The initial handshake round trip: for a server version and an auth plugin name
without a NUL byte and a twenty-byte salt, `ParseInitialHandshake` reads back what
`MakeInitialHandshake` wrote; the connection id keeps its four low bytes. -/
theorem ParseInitialHandshake_MakeInitialHandshake
    (Collation : UInt8)
    (capability : Capability)
    {salt : List UInt8}
    (hsalt : salt.length = 20)
    {authPlugin serverVersion : List UInt8}
    (hplugin : 0 ∉ authPlugin)
    (hversion : 0 ∉ serverVersion)
    (connID : UInt64) :
    ParseInitialHandshake (MakeInitialHandshake Collation capability salt authPlugin serverVersion
      connID) =
      some {
        Salt := salt, ServerVersion := serverVersion, AuthPlugin := authPlugin
        ConnID := connID.toUInt32.toUInt64, Capability := capability } := by
  obtain ⟨data, hd⟩ : ∃ data, data = MakeInitialHandshake Collation capability salt authPlugin
      serverVersion connID := ⟨_, rfl⟩
  have h0 : BytesAt data 0 (MakeInitialHandshake Collation capability salt authPlugin serverVersion
      connID) := hd ▸ BytesAt.zero data
  rw [← hd]
  simp only [MakeInitialHandshake, DumpUint16, List.append_assoc] at h0
  have htake : (salt.take 8).length = 8 := by
    simp [hsalt]
  have hdrop : (salt.drop 8).length = 12 := by
    simp [hsalt]
  -- the server version, the connection id and the first part of the salt
  have h1 := h0.advance
  have hVersion := h1.readTerminated hversion
  have h3 := h1.advance.advance
  have hConn := uint32At_of_bytesAt h3 (uint32_low_bytes connID)
  have h4 := h3.advance
  have hSalt := h4.slice
  -- the lower half of the capability, then more bytes: the charset and the status
  obtain ⟨lo, hi, hlo, hhi, hcap⟩ := uint16_halves capability
  have h6 := h4.advance.advance
  have hLow := uint16At_of_bytesAt h6 hlo
  have h7 := h6.advance
  have hmore := (List.getElem?_eq_some_iff.mp h7.getElem?).1
  have h10 := h7.advance.advance.advance
  have hUpper := uint16At_of_bytesAt h10 hhi
  -- the second part of the salt, and the plugin name after its NUL
  have h13 := h10.advance.advance.advance
  have hSalt2 := h13.sliceFrom
  have hPlugin := h13.advance.advance.readUntil hplugin
  simp only [List.length_cons, List.length_nil, List.length_replicate, htake, hdrop, Nat.zero_add,
    Nat.add_assoc, Nat.reduceAdd] at hVersion hConn hSalt hLow hmore hUpper hSalt2 hPlugin
  simp only [ParseInitialHandshake, hVersion, Option.bind_eq_bind, Option.bind_some, Nat.add_assoc,
    Nat.reduceAdd, hConn, hSalt, hLow, hmore, hUpper, hSalt2, hPlugin]
  -- the twelve bytes of the second part fill the salt, with no zeros left over
  have hpart2 : (salt.drop 8 ++ ([0] ++ (authPlugin ++ [0]))).take 12 = salt.drop 8 :=
    List.take_left' hdrop
  have hpad : 12 - (salt.drop 8 ++ ([0] ++ (authPlugin ++ [0]))).length = 0 := by
    rw [List.length_append, hdrop]
    omega
  rw [if_pos trivial, hpart2, hpad, List.replicate_zero, List.append_nil, List.take_append_drop,
    hcap]
  rfl

/-! ### The client's answer and the error packet -/

/-- `AuthNativePassword`. -/
def AuthNativePassword : List UInt8 := ascii "mysql_native_password"

/-- `ParseSSLRequestOrHandshakeResp`: whether the client's first packet asks for TLS. -/
def ParseSSLRequestOrHandshakeResp (pkt : List UInt8) : Option Bool := do
  let capability ← uint32At pkt 0
  pure (capability &&& ClientSSL != 0)

/-- `binary.LittleEndian.PutUint32(b, v)`. -/
def putUint32 (b : List UInt8) (v : UInt32) : Option (List UInt8) :=
  if 4 ≤ b.length then some (DumpUint32 [] v ++ b.drop 4) else none

/-- `IsErrorPacket`. -/
def IsErrorPacket (firstByte : UInt8) : Bool := firstByte == ErrHeader

/-- The fields of a `*mysql.MyError` that an error packet carries. -/
structure MyError where
  Code : UInt16
  Message : List UInt8
  State : List UInt8
deriving DecidableEq, Repr

/-- `MakeErrPacket`: the header, the code, then `'#'` and the state, as under
`ClientProtocol41`, and the message. -/
def MakeErrPacket (merr : MyError) : List UInt8 :=
  [ErrHeader] ++ [merr.Code.toUInt8, (merr.Code >>> 8).toUInt8] ++ [35] ++ merr.State ++
    merr.Message

end Net
end TiProxy
