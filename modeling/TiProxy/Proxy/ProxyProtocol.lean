import Mathlib.Data.List.Basic
import TiProxy.Lib.LittleEndian

/-!
# The PROXY protocol, version 2

A model of `pkg/proxy/proxyprotocol/proxy.go`: `Proxy.ToBytes` writes the version 2
header (the twelve-byte `MagicV2`, a version and command byte, a family and network
byte, the length of the rest in two bytes), then the address block and the TLVs;
`ParseProxyV2` reads it back from the bytes after the magic.

Go's `int` is `Int`, and Go's `byte(x)` keeps the low eight bits, which is
`UInt8.ofInt`.  A `net.Addr` is one of the address types the code switches on, an
`AddressWrapper` around another one, or some other address; `nil` is `none`.  The
reader is the list of bytes it still holds, and `ParseProxyV2` returns what it
leaves.

**Results.**
* `toBytes_eq`: the bytes `ToBytes` writes.
* `parseTLVs_tlvBytes`: the TLV loop reads back what the encoder wrote, each type cut
  to a byte.
* `parseProxyV2_toBytes_of_addressBlock`: the round trip for any address block the
  parser reads back, when the header fields fit.
* `parseProxyV2_toBytes_inet`: for TCP or UDP addresses of one width, ports, version
  and command in range, TLV types below 256 and a body shorter than `2 ^ 16`
  bytes, the parser returns the proxy and consumes the header and body exactly.
* `parseProxyV2_toBytes_length_overflow`: a body of `2 ^ 16` bytes or more has its
  length written modulo `2 ^ 16`, and the addresses are lost.
* `parseProxyV2_toBytes_unix_names`: Unix addresses round trip only when both names
  fill their 108-byte fields; `parseProxyV2_toBytes_unix_short` shows two short
  names lost.
-/

namespace TiProxy
namespace ProxyProtocol

/-- `MagicV2`. -/
def MagicV2 : List UInt8 :=
  [0xD, 0xA, 0xD, 0xA, 0x0, 0xD, 0xA, 0x51, 0x55, 0x49, 0x54, 0xA]

/-- `ProxyAFUnspec`. -/
def ProxyAFUnspec : Nat := 0

/-- `ProxyAFINet`. -/
def ProxyAFINet : Nat := 1

/-- `ProxyAFINet6`. -/
def ProxyAFINet6 : Nat := 2

/-- `ProxyAFUnix`. -/
def ProxyAFUnix : Nat := 3

/-- `ProxyNetworkUnspec`. -/
def ProxyNetworkUnspec : Nat := 0

/-- `ProxyNetworkStream`. -/
def ProxyNetworkStream : Nat := 1

/-- `ProxyNetworkDgram`. -/
def ProxyNetworkDgram : Nat := 2

/-- The addresses `ToBytes` tells apart: `*net.TCPAddr`, `*net.UDPAddr`,
`*net.UnixAddr`, an `AddressWrapper` whose `Unwrap` gives `origin`, and any other
`net.Addr`. -/
inductive Addr where
  | TCPAddr (IP : List UInt8) (Port : Int)
  | UDPAddr (IP : List UInt8) (Port : Int)
  | UnixAddr (Name : List UInt8) (Net : String)
  | wrapper (origin : Addr)
  | other
deriving DecidableEq, Repr

/-- `ProxyTlv`. -/
structure ProxyTlv where
  Content : List UInt8
  Typ : Int
deriving DecidableEq, Repr

/-- `Proxy`. -/
structure Proxy where
  SrcAddress : Option Addr
  DstAddress : Option Addr
  TLV : List ProxyTlv
  Version : Int
  Command : Int
deriving DecidableEq, Repr

/-- The errors: `ErrAddressFamilyMismatch`, and `io.ReadFull` running out of
bytes. -/
inductive ProxyError where
  | ErrAddressFamilyMismatch
  | errUnexpectedEOF
deriving DecidableEq, Repr

/-- `unwrapOriginAddr`: follow `AddressWrapper`s to the address inside. -/
def unwrapOriginAddr : Addr → Addr
  | .wrapper origin => unwrapOriginAddr origin
  | addr => addr

/-- The type switch of `ToBytes` on the unwrapped addresses: the address family, the
network and the address bytes. -/
def addressBlock
    (srcAddr dstAddr : Option Addr) : Except ProxyError (Nat × Nat × List UInt8) :=
  match srcAddr, dstAddr with
  | some (.TCPAddr sip sport), dst =>
      match dst with
      | some (.TCPAddr dip dport) =>
          .ok (if sip.length = 16 then ProxyAFINet6 else ProxyAFINet, ProxyNetworkStream,
            sip ++ dip ++ [UInt8.ofInt (sport / 256), UInt8.ofInt sport,
              UInt8.ofInt (dport / 256), UInt8.ofInt dport])
      | _ => .error .ErrAddressFamilyMismatch
  | some (.UDPAddr sip sport), dst =>
      match dst with
      | some (.UDPAddr dip dport) =>
          .ok (if sip.length = 16 then ProxyAFINet6 else ProxyAFINet, ProxyNetworkDgram,
            sip ++ dip ++ [UInt8.ofInt (sport / 256), UInt8.ofInt sport,
              UInt8.ofInt (dport / 256), UInt8.ofInt dport])
      | _ => .error .ErrAddressFamilyMismatch
  | some (.UnixAddr sname snet), dst =>
      match dst with
      | some (.UnixAddr dname _) =>
          .ok (ProxyAFUnix,
            if snet = "unix" then ProxyNetworkStream
            else if snet = "unixdgram" then ProxyNetworkDgram
            else ProxyNetworkUnspec,
            sname ++ dname)
      | _ => .error .ErrAddressFamilyMismatch
  | _, _ => .ok (ProxyAFUnspec, ProxyNetworkUnspec, [])

/-- One TLV as `ToBytes` appends it: type, content length in two bytes, content. -/
def tlvBytes
    (tlv : ProxyTlv) : List UInt8 :=
  UInt8.ofInt tlv.Typ :: UInt8.ofNat (tlv.Content.length >>> 8) :: UInt8.ofNat tlv.Content.length ::
    tlv.Content

/-- `Proxy.ToBytes`.  `x << 4` on an `int` is `x * 16`, and `x & 0xF` is `x % 16`. -/
def Proxy.ToBytes
    (p : Proxy) : Except ProxyError (List UInt8) :=
  match addressBlock (p.SrcAddress.map unwrapOriginAddr) (p.DstAddress.map unwrapOriginAddr) with
  | .error err => .error err
  | .ok (addressFamily, network, addrs) =>
      let body := addrs ++ p.TLV.flatMap tlvBytes
      .ok (MagicV2 ++
        [UInt8.ofInt (p.Version * 16) ||| UInt8.ofInt (p.Command % 16),
          UInt8.ofNat (addressFamily * 16) ||| UInt8.ofNat network,
          UInt8.ofNat (body.length >>> 8), UInt8.ofNat body.length] ++ body)

/-- `io.ReadFull` of `n` bytes. -/
def readFull
    (rd : List UInt8)
    (n : Nat) : Option (List UInt8 × List UInt8) :=
  if n ≤ rd.length then some (rd.take n, rd.drop n) else none

/-- A two-byte big-endian number, `int(b0)<<8 | int(b1)`. -/
def be16
    (b0 b1 : UInt8) : Nat :=
  b0.toNat <<< 8 ||| b1.toNat

/-- The TLV loop of `ParseProxyV2`; a TLV longer than what is left is cut to it.
Every iteration takes at least three bytes, so `buf.length` iterations suffice. -/
def parseTLVs : Nat → List UInt8 → List ProxyTlv
  | 0, _ => []
  | fuel + 1, buf =>
      if 3 ≤ buf.length then
        let typ := buf.getD 0 0
        let length := be16 (buf.getD 1 0) (buf.getD 2 0)
        let length := if buf.length < length + 3 then buf.length - 3 else length
        ⟨(buf.drop 3).take length, typ.toNat⟩ :: parseTLVs fuel (buf.drop (3 + length))
      else
        []

/-- The switch of `ParseProxyV2` on the address family: the two addresses, and what
is left for the TLVs.  A block too short for the family leaves the addresses unset
and the whole buffer to the TLV loop (Go's `break` leaves the switch). -/
def parseAddresses
    (addressFamily network : Nat)
    (buf : List UInt8) : Option Addr × Option Addr × List UInt8 :=
  if addressFamily = ProxyAFINet ∨ addressFamily = ProxyAFINet6 then
    let length := if addressFamily = ProxyAFINet6 then 16 else 4
    if buf.length < length * 2 + 4 then
      (none, none, buf)
    else
      let saddr := buf.take length
      let daddr := (buf.drop length).take length
      let sport : Int := be16 (buf.getD (2 * length) 0) (buf.getD (2 * length + 1) 0)
      let dport : Int := be16 (buf.getD (2 * length + 2) 0) (buf.getD (2 * length + 3) 0)
      let rest := buf.drop (length * 2 + 4)
      if network = ProxyNetworkStream then
        (some (.TCPAddr saddr sport), some (.TCPAddr daddr dport), rest)
      else if network = ProxyNetworkDgram then
        (some (.UDPAddr saddr sport), some (.UDPAddr daddr dport), rest)
      else
        (none, none, rest)
  else if addressFamily = ProxyAFUnix then
    if buf.length < 216 then
      (none, none, buf)
    else
      let saddr := buf.take 108
      let daddr := (buf.drop 108).take 108
      let rest := buf.drop 216
      if network = ProxyNetworkStream then
        (some (.UnixAddr saddr "unix"), some (.UnixAddr daddr "unix"), rest)
      else if network = ProxyNetworkDgram then
        (some (.UnixAddr saddr "unixdgram"), some (.UnixAddr daddr "unixdgram"), rest)
      else
        (none, none, rest)
  else
    (none, none, [])

/-- `ParseProxyV2`: the proxy (`none` when even the header is missing), the bytes
read, the error, and what the reader still holds. -/
def ParseProxyV2
    (rd : List UInt8) : Option Proxy × Nat × Option ProxyError × List UInt8 :=
  match readFull rd 4 with
  | none => (none, 0, some .errUnexpectedEOF, rd)
  | some (hdr, rd) =>
      let m : Proxy :=
        { SrcAddress := none, DstAddress := none, TLV := []
          Version := ((hdr.getD 0 0) >>> 4).toNat
          Command := ((hdr.getD 0 0) &&& 0xF).toNat }
      match readFull rd (be16 (hdr.getD 2 0) (hdr.getD 3 0)) with
      | none => (some m, 4, some .errUnexpectedEOF, rd)
      | some (buf, rd) =>
          let (src, dst, rest) :=
            parseAddresses ((hdr.getD 1 0) >>> 4).toNat ((hdr.getD 1 0) &&& 0xF).toNat buf
          (some { m with SrcAddress := src, DstAddress := dst, TLV := parseTLVs rest.length rest },
            4 + buf.length, none, rd)

/-! ### Bytes and numbers -/

theorem length_MagicV2 : MagicV2.length = 12 := rfl

/-- What a reader that skipped the magic sees of the bytes of `ToBytes`. -/
theorem drop_magicV2_header
    (b0 b1 l0 l1 : UInt8)
    (body rest : List UInt8) :
    (MagicV2 ++ [b0, b1, l0, l1] ++ body).drop 12 ++ rest = b0 :: b1 :: l0 :: l1 :: (body ++ rest) := by
  rw [List.append_assoc, List.drop_left' length_MagicV2]
  rfl

theorem take_magicV2_header
    (hdr body : List UInt8) :
    (MagicV2 ++ hdr ++ body).take 12 = MagicV2 := by
  rw [List.append_assoc, List.take_left' length_MagicV2]

/-- Two bytes written big-endian for `n < 2 ^ 16` read back as `n`. -/
theorem be16_ofNat
    {n : Nat}
    (hn : n < 2 ^ 16) :
    be16 (UInt8.ofNat (n >>> 8)) (UInt8.ofNat n) = n := by
  unfold be16
  simp only [UInt8.toNat_ofNat', Nat.shiftRight_eq_div_pow]
  have hlow : n % 2 ^ 8 < 2 ^ 8 := Nat.mod_lt _ (Nat.two_pow_pos 8)
  rw [Nat.or_comm, LittleEndian.or_shiftLeft_eq_add hlow]
  omega

/-- Go's `byte(x)` of a nonnegative `int` is the byte of the number. -/
theorem ofInt_natCast
    (n : Nat) :
    UInt8.ofInt (n : Int) = UInt8.ofNat n := by
  apply UInt8.toNat_inj.mp
  simp only [UInt8.ofInt, UInt8.toNat_ofNat']
  omega

/-- The same for a port in `[0, 65535]`, written as Go writes an `int`. -/
theorem be16_ofInt
    {port : Int}
    (hlo : 0 ≤ port)
    (hhi : port < 65536) :
    (be16 (UInt8.ofInt (port / 256)) (UInt8.ofInt port) : Int) = port := by
  obtain ⟨n, rfl⟩ := Int.eq_ofNat_of_zero_le hlo
  have hn : n < 2 ^ 16 := by omega
  have hdiv : (n : Int) / (256 : Int) = ((n >>> 8 : Nat) : Int) := by
    rw [Nat.shiftRight_eq_div_pow]
    omega
  rw [hdiv, ofInt_natCast, ofInt_natCast, be16_ofNat hn]

/-- A byte below 256 survives `UInt8.ofInt`. -/
theorem toNat_ofInt_of_lt
    {x : Int}
    (hlo : 0 ≤ x)
    (hhi : x < 256) :
    ((UInt8.ofInt x).toNat : Int) = x := by
  obtain ⟨n, rfl⟩ := Int.eq_ofNat_of_zero_le hlo
  rw [ofInt_natCast, UInt8.toNat_ofNat']
  omega

/-- The version and command byte keeps both nibbles, for a version and command of
Go's `int` type in `[0, 15]`. -/
theorem versionByte_nibbles
    {v c : Int}
    (hv : 0 ≤ v ∧ v < 16)
    (hc : 0 ≤ c ∧ c < 16) :
    (((UInt8.ofInt (v * 16) ||| UInt8.ofInt (c % 16)) >>> 4).toNat : Int) = v ∧
      (((UInt8.ofInt (v * 16) ||| UInt8.ofInt (c % 16)) &&& 0xF).toNat : Int) = c := by
  obtain ⟨v, rfl⟩ := Int.eq_ofNat_of_zero_le hv.1
  obtain ⟨c, rfl⟩ := Int.eq_ofNat_of_zero_le hc.1
  -- the byte is a function of the two nibbles, so all 256 pairs are checked at once
  have h : ∀ v c : Fin 16,
      ((UInt8.ofInt ((v : Int) * 16) ||| UInt8.ofInt ((c : Int) % 16)) >>> 4).toNat = v ∧
        ((UInt8.ofInt ((v : Int) * 16) ||| UInt8.ofInt ((c : Int) % 16)) &&& 0xF).toNat = c := by
    decide
  have hvc := h ⟨v, by omega⟩ ⟨c, by omega⟩
  exact ⟨by rw [hvc.1], by rw [hvc.2]⟩

/-- The family and network byte keeps both nibbles. -/
theorem familyByte_nibbles
    {f n : Nat}
    (hf : f < 16)
    (hn : n < 16) :
    ((UInt8.ofNat (f * 16) ||| UInt8.ofNat n) >>> 4).toNat = f ∧
      ((UInt8.ofNat (f * 16) ||| UInt8.ofNat n) &&& 0xF).toNat = n := by
  have h : ∀ f n : Fin 16, ((UInt8.ofNat ((f : Nat) * 16) ||| UInt8.ofNat n) >>> 4).toNat = f ∧
      ((UInt8.ofNat ((f : Nat) * 16) ||| UInt8.ofNat n) &&& 0xF).toNat = n := by
    decide
  exact h ⟨f, hf⟩ ⟨n, hn⟩

/-- Reading past a prefix reads the rest. -/
theorem getD_append_length
    {α : Type*}
    (l l' : List α)
    (k : Nat)
    (d : α) :
    (l ++ l').getD (l.length + k) d = l'.getD k d := by
  simp only [List.getD_eq_getElem?_getD, List.getElem?_append_right (Nat.le_add_right _ _),
    Nat.add_sub_cancel_left]

/-! ### The TLVs -/

/-- The TLV loop reads back the TLVs the encoder wrote, with each type cut to a
byte, followed by anything the loop is given after them. -/
theorem parseTLVs_tlvBytes
    (tlvs : List ProxyTlv)
    (hcontent : ∀ t ∈ tlvs, t.Content.length < 2 ^ 16) :
    ∀ fuel, (tlvs.flatMap tlvBytes).length ≤ fuel →
      parseTLVs fuel (tlvs.flatMap tlvBytes) =
        tlvs.map (fun t => ⟨t.Content, (UInt8.ofInt t.Typ).toNat⟩) := by
  induction tlvs with
  | nil =>
      intro fuel _
      cases fuel <;> simp [parseTLVs]
  | cons t tlvs ih =>
      intro fuel hfuel
      have ht : t.Content.length < 2 ^ 16 := hcontent t List.mem_cons_self
      have ih := ih (fun t' ht' => hcontent t' (List.mem_cons_of_mem t ht'))
      obtain ⟨fuel, rfl⟩ : ∃ f, fuel = f + 1 := ⟨fuel - 1, by simp [tlvBytes] at hfuel; omega⟩
      have hlen := be16_ofNat ht
      simp only [List.flatMap_cons, tlvBytes, List.cons_append, List.length_cons,
        List.length_append] at hfuel ⊢
      rw [parseTLVs, if_pos (by simp only [List.length_cons]; omega)]
      simp only [List.getD_cons_zero, List.getD_cons_succ, hlen, List.length_cons,
        List.length_append, List.drop_succ_cons, List.drop_zero, List.map_cons]
      -- the announced length fits, so the loop takes the content as written
      rw [if_neg (by omega), Nat.add_comm 3]
      simp only [List.drop_succ_cons, List.drop_left]
      rw [ih fuel (by omega), List.take_append_of_le_length (le_refl _), List.take_length]

/-! ### The encoder -/

/-- A TCP address when `stream`, a UDP address otherwise: the two address types
that share the inet encoding. -/
def inetAddr
    (stream : Bool)
    (ip : List UInt8)
    (port : Int) : Addr :=
  if stream then .TCPAddr ip port else .UDPAddr ip port

/-- Two inet addresses of one type: the family follows the source IP's width, the
network the type, and the block is both IPs and both ports. -/
theorem addressBlock_inet
    (stream : Bool)
    (sip dip : List UInt8)
    (sport dport : Int) :
    addressBlock (some (inetAddr stream sip sport)) (some (inetAddr stream dip dport)) =
      .ok (if sip.length = 16 then ProxyAFINet6 else ProxyAFINet,
        if stream then ProxyNetworkStream else ProxyNetworkDgram,
        sip ++ dip ++ [UInt8.ofInt (sport / 256), UInt8.ofInt sport,
          UInt8.ofInt (dport / 256), UInt8.ofInt dport]) := by
  cases stream <;> rfl

/-- Two Unix addresses: the network follows the source's `Net`, and the block is the
two names as they are, with no padding. -/
theorem addressBlock_unix
    (sname dname : List UInt8)
    (snet dnet : String) :
    addressBlock (some (.UnixAddr sname snet)) (some (.UnixAddr dname dnet)) =
      .ok (ProxyAFUnix,
        if snet = "unix" then ProxyNetworkStream
        else if snet = "unixdgram" then ProxyNetworkDgram
        else ProxyNetworkUnspec,
        sname ++ dname) := rfl

/-- The bytes `ToBytes` writes once the address switch has succeeded. -/
theorem toBytes_eq
    (p : Proxy)
    {addressFamily network : Nat}
    {addrs : List UInt8}
    (h : addressBlock (p.SrcAddress.map unwrapOriginAddr) (p.DstAddress.map unwrapOriginAddr) =
      .ok (addressFamily, network, addrs)) :
    p.ToBytes = .ok (MagicV2 ++
      [UInt8.ofInt (p.Version * 16) ||| UInt8.ofInt (p.Command % 16),
        UInt8.ofNat (addressFamily * 16) ||| UInt8.ofNat network,
        UInt8.ofNat ((addrs ++ p.TLV.flatMap tlvBytes).length >>> 8),
        UInt8.ofNat (addrs ++ p.TLV.flatMap tlvBytes).length] ++
      (addrs ++ p.TLV.flatMap tlvBytes)) := by
  rw [Proxy.ToBytes, h]

/-- Each TLV takes three bytes and its content. -/
theorem length_flatMap_tlvBytes
    (tlvs : List ProxyTlv) :
    (tlvs.flatMap tlvBytes).length = (tlvs.map fun t => 3 + t.Content.length).sum := by
  simp only [List.length_flatMap, tlvBytes, List.length_cons]
  congr 1
  apply List.map_congr_left
  intro t _
  omega

/-- A bound on the encoded TLVs bounds each content. -/
theorem content_length_lt
    {tlvs : List ProxyTlv}
    {bound : Nat}
    (h : (tlvs.map fun t => 3 + t.Content.length).sum < bound) :
    ∀ t ∈ tlvs, t.Content.length < bound := by
  induction tlvs with
  | nil => simp
  | cons t tlvs ih =>
      simp only [List.map_cons, List.sum_cons] at h
      intro t' ht'
      rcases List.mem_cons.mp ht' with rfl | ht'
      · omega
      · exact ih (by omega) t' ht'

/-! ### The parser -/

/-- `ParseProxyV2` on a header whose length field announces exactly the bytes that
follow it, up to `rd`: it reads the header and the body and leaves `rd`. -/
theorem parseProxyV2_frame
    (b0 b1 l0 l1 : UInt8)
    (buf rd : List UInt8)
    (src dst : Option Addr)
    (rest : List UInt8)
    (hlen : be16 l0 l1 = buf.length)
    (haddr : parseAddresses (b1 >>> 4).toNat (b1 &&& 0xF).toNat buf = (src, dst, rest)) :
    ParseProxyV2 (b0 :: b1 :: l0 :: l1 :: (buf ++ rd)) =
      (some ⟨src, dst, parseTLVs rest.length rest, (b0 >>> 4).toNat, (b0 &&& 0xF).toNat⟩,
        4 + buf.length, none, rd) := by
  have hhdr : readFull (b0 :: b1 :: l0 :: l1 :: (buf ++ rd)) 4 =
      some ([b0, b1, l0, l1], buf ++ rd) := by
    simp [readFull]
  have hbody : readFull (buf ++ rd) (be16 l0 l1) = some (buf, rd) := by
    simp [readFull, hlen]
  simp only [ParseProxyV2, hhdr, hbody, List.getD_cons_zero, List.getD_cons_succ, haddr]

/-- The address switch on an inet block of the width the family names: both
addresses with the ports read big-endian, and the bytes after the block left for the
TLVs. -/
theorem parseAddresses_inet
    (stream : Bool)
    {sip dip : List UInt8}
    (p0 p1 p2 p3 : UInt8)
    (tlvs : List UInt8)
    (hip : sip.length = dip.length)
    (hwidth : sip.length = 4 ∨ sip.length = 16) :
    parseAddresses (if sip.length = 16 then ProxyAFINet6 else ProxyAFINet)
        (if stream then ProxyNetworkStream else ProxyNetworkDgram)
        (sip ++ dip ++ p0 :: p1 :: p2 :: p3 :: tlvs) =
      (some (inetAddr stream sip (be16 p0 p1)), some (inetAddr stream dip (be16 p2 p3)), tlvs) := by
  -- the family is inet, and the width the parser picks for it is the IPs' width
  have hfam : (if sip.length = 16 then ProxyAFINet6 else ProxyAFINet) = ProxyAFINet ∨
      (if sip.length = 16 then ProxyAFINet6 else ProxyAFINet) = ProxyAFINet6 := by
    split <;> simp
  have hwidth' : (if (if sip.length = 16 then ProxyAFINet6 else ProxyAFINet) = ProxyAFINet6
      then 16 else 4) = sip.length := by
    rcases hwidth with h | h <;> simp [h, ProxyAFINet6, ProxyAFINet]
  -- where the parser looks in the block
  have hips : (sip ++ dip).length = 2 * sip.length := by
    rw [List.length_append, ← hip, Nat.two_mul]
  have hport : ∀ k, (sip ++ dip ++ p0 :: p1 :: p2 :: p3 :: tlvs).getD (2 * sip.length + k) 0 =
      (p0 :: p1 :: p2 :: p3 :: tlvs).getD k 0 := by
    intro k
    rw [← hips, getD_append_length]
  have hsaddr : (sip ++ dip ++ p0 :: p1 :: p2 :: p3 :: tlvs).take sip.length = sip := by
    rw [List.append_assoc, List.take_left' rfl]
  have hdaddr : ((sip ++ dip ++ p0 :: p1 :: p2 :: p3 :: tlvs).drop sip.length).take sip.length =
      dip := by
    rw [List.append_assoc, List.drop_left' rfl, hip, List.take_left' rfl]
  have hrest : (sip ++ dip ++ p0 :: p1 :: p2 :: p3 :: tlvs).drop (sip.length * 2 + 4) = tlvs := by
    rw [Nat.mul_comm, ← hips, ← List.drop_drop, List.drop_left' rfl]
    rfl
  have hlong : ¬(sip ++ dip ++ p0 :: p1 :: p2 :: p3 :: tlvs).length < sip.length * 2 + 4 := by
    simp only [List.length_append, List.length_cons] at hips ⊢
    omega
  have hport0 := hport 0
  rw [Nat.add_zero] at hport0
  unfold parseAddresses
  rw [if_pos hfam, hwidth', if_neg hlong]
  simp only [hsaddr, hdaddr, hrest, hport0, hport 1, hport 2, hport 3]
  cases stream <;> simp [inetAddr, ProxyNetworkStream, ProxyNetworkDgram]

/-- The address switch on a Unix block of two 108-byte names. -/
theorem parseAddresses_unix
    {snet : String}
    (hnet : snet = "unix" ∨ snet = "unixdgram")
    {sname dname : List UInt8}
    (tlvs : List UInt8)
    (hsname : sname.length = 108)
    (hdname : dname.length = 108) :
    parseAddresses ProxyAFUnix
        (if snet = "unix" then ProxyNetworkStream
          else if snet = "unixdgram" then ProxyNetworkDgram
          else ProxyNetworkUnspec)
        (sname ++ dname ++ tlvs) =
      (some (.UnixAddr sname snet), some (.UnixAddr dname snet), tlvs) := by
  have hlong : ¬(sname ++ dname ++ tlvs).length < 216 := by
    simp only [List.length_append]
    omega
  have hsaddr : (sname ++ dname ++ tlvs).take 108 = sname := by
    rw [List.append_assoc, List.take_left' hsname]
  have hdaddr : ((sname ++ dname ++ tlvs).drop 108).take 108 = dname := by
    rw [List.append_assoc, List.drop_left' hsname, List.take_left' hdname]
  have hrest : (sname ++ dname ++ tlvs).drop 216 = tlvs := by
    apply List.drop_left'
    simp only [List.length_append, hsname, hdname]
  unfold parseAddresses
  rw [if_neg (by decide), if_pos rfl, if_neg hlong]
  simp only [hsaddr, hdaddr, hrest]
  rcases hnet with rfl | rfl <;> simp [ProxyNetworkStream, ProxyNetworkDgram]

/-! ### Round trips -/

/-- The TLV types below 256 survive the byte they are written as. -/
theorem map_tlv_ofInt
    (tlvs : List ProxyTlv)
    (htyp : ∀ t ∈ tlvs, 0 ≤ t.Typ ∧ t.Typ < 256) :
    tlvs.map (fun t => (⟨t.Content, (UInt8.ofInt t.Typ).toNat⟩ : ProxyTlv)) = tlvs := by
  conv => rhs; rw [← List.map_id tlvs]
  apply List.map_congr_left
  intro t ht
  rw [toNat_ofInt_of_lt (htyp t ht).1 (htyp t ht).2]
  rfl

/-- The round trip once the address switch is known: if the block `ToBytes` writes for
the addresses reads back, under the family and network it announces, as `src` and
`dst` with the TLV bytes left, and the version, command, TLV types and body length fit
their fields, then `ParseProxyV2` on the bytes after the magic returns the proxy with
those addresses and reads exactly those bytes. -/
theorem parseProxyV2_toBytes_of_addressBlock
    (p : Proxy)
    {addressFamily network : Nat}
    {addrs : List UInt8}
    {src dst : Option Addr}
    (hblock : addressBlock (p.SrcAddress.map unwrapOriginAddr) (p.DstAddress.map unwrapOriginAddr) =
      .ok (addressFamily, network, addrs))
    (hfamily : addressFamily < 16)
    (hnetwork : network < 16)
    (haddr : parseAddresses addressFamily network (addrs ++ p.TLV.flatMap tlvBytes) =
      (src, dst, p.TLV.flatMap tlvBytes))
    (hversion : 0 ≤ p.Version ∧ p.Version < 16)
    (hcommand : 0 ≤ p.Command ∧ p.Command < 16)
    (htyp : ∀ t ∈ p.TLV, 0 ≤ t.Typ ∧ t.Typ < 256)
    (hbody : addrs.length + (p.TLV.map fun t => 3 + t.Content.length).sum < 2 ^ 16)
    (rest : List UInt8) :
    ∃ bytes, p.ToBytes = .ok bytes ∧ bytes.take 12 = MagicV2 ∧
      ParseProxyV2 (bytes.drop 12 ++ rest) =
        (some ⟨src, dst, p.TLV, p.Version, p.Command⟩, bytes.length - 12, none, rest) := by
  refine ⟨_, toBytes_eq p hblock, take_magicV2_header _ _, ?_⟩
  have hlen : (addrs ++ p.TLV.flatMap tlvBytes).length < 2 ^ 16 := by
    rw [List.length_append, length_flatMap_tlvBytes]
    exact hbody
  -- the header bytes read back as the family, network, version and command
  have hfamnet := familyByte_nibbles hfamily hnetwork
  have hvc := versionByte_nibbles hversion hcommand
  have haddr' := (congrArg₂ (fun f n => parseAddresses f n _) hfamnet.1 hfamnet.2).trans haddr
  rw [drop_magicV2_header, parseProxyV2_frame _ _ _ _ _ rest _ _ _ (be16_ofNat hlen) haddr']
  have htlvs := parseTLVs_tlvBytes p.TLV
    (content_length_lt (Nat.lt_of_le_of_lt (Nat.le_add_left _ _) hbody)) _ (le_refl _)
  rw [htlvs, map_tlv_ofInt p.TLV htyp, hvc.1, hvc.2]
  -- what is left is the count of bytes read
  simp only [List.length_append, List.length_cons, List.length_nil, length_MagicV2, Prod.mk.injEq,
    true_and, and_true]
  omega

/-- The inet round trip: for TCP or UDP addresses of one width, ports, version and
command in range, TLV types that fit a byte and a body (address block and TLVs)
shorter than `2 ^ 16` bytes, `ToBytes` succeeds, and `ParseProxyV2` on its bytes
after the magic returns the unwrapped addresses and the same TLVs, version and
command, and reads exactly those bytes. -/
theorem parseProxyV2_toBytes_inet
    (p : Proxy)
    (stream : Bool)
    (src dst : Addr)
    (sip dip : List UInt8)
    (sport dport : Int)
    (hsrc : p.SrcAddress = some src)
    (hdst : p.DstAddress = some dst)
    (hsrcInet : unwrapOriginAddr src = inetAddr stream sip sport)
    (hdstInet : unwrapOriginAddr dst = inetAddr stream dip dport)
    (hip : sip.length = dip.length)
    (hwidth : sip.length = 4 ∨ sip.length = 16)
    (hsport : 0 ≤ sport ∧ sport < 65536)
    (hdport : 0 ≤ dport ∧ dport < 65536)
    (hversion : 0 ≤ p.Version ∧ p.Version < 16)
    (hcommand : 0 ≤ p.Command ∧ p.Command < 16)
    (htyp : ∀ t ∈ p.TLV, 0 ≤ t.Typ ∧ t.Typ < 256)
    (hbody : 2 * sip.length + 4 + (p.TLV.map fun t => 3 + t.Content.length).sum < 2 ^ 16)
    (rest : List UInt8) :
    ∃ bytes, p.ToBytes = .ok bytes ∧ bytes.take 12 = MagicV2 ∧
      ParseProxyV2 (bytes.drop 12 ++ rest) =
        (some ⟨some (inetAddr stream sip sport), some (inetAddr stream dip dport), p.TLV,
          p.Version, p.Command⟩, bytes.length - 12, none, rest) := by
  have hblock : addressBlock (p.SrcAddress.map unwrapOriginAddr) (p.DstAddress.map unwrapOriginAddr) =
      .ok (if sip.length = 16 then ProxyAFINet6 else ProxyAFINet,
        if stream then ProxyNetworkStream else ProxyNetworkDgram,
        sip ++ dip ++ [UInt8.ofInt (sport / 256), UInt8.ofInt sport,
          UInt8.ofInt (dport / 256), UInt8.ofInt dport]) := by
    rw [hsrc, hdst, Option.map_some, Option.map_some, hsrcInet, hdstInet]
    exact addressBlock_inet stream sip dip sport dport
  have hfam : (if sip.length = 16 then ProxyAFINet6 else ProxyAFINet) < 16 := by
    split <;> decide
  have hnet : (if stream then ProxyNetworkStream else ProxyNetworkDgram) < 16 := by
    split <;> decide
  -- the block, with the ports as the four bytes the parser reads
  have haddr : parseAddresses (if sip.length = 16 then ProxyAFINet6 else ProxyAFINet)
      (if stream then ProxyNetworkStream else ProxyNetworkDgram)
      (sip ++ dip ++ [UInt8.ofInt (sport / 256), UInt8.ofInt sport,
        UInt8.ofInt (dport / 256), UInt8.ofInt dport] ++ p.TLV.flatMap tlvBytes) =
      (some (inetAddr stream sip sport), some (inetAddr stream dip dport),
        p.TLV.flatMap tlvBytes) := by
    have hshape : sip ++ dip ++ [UInt8.ofInt (sport / 256), UInt8.ofInt sport,
        UInt8.ofInt (dport / 256), UInt8.ofInt dport] ++ p.TLV.flatMap tlvBytes =
        sip ++ dip ++ UInt8.ofInt (sport / 256) :: UInt8.ofInt sport ::
          UInt8.ofInt (dport / 256) :: UInt8.ofInt dport :: p.TLV.flatMap tlvBytes := by
      simp only [List.append_assoc, List.cons_append, List.nil_append]
    rw [hshape, parseAddresses_inet stream _ _ _ _ _ hip hwidth, be16_ofInt hsport.1 hsport.2,
      be16_ofInt hdport.1 hdport.2]
  have hlen : (sip ++ dip ++ [UInt8.ofInt (sport / 256), UInt8.ofInt sport,
      UInt8.ofInt (dport / 256), UInt8.ofInt dport]).length +
        (p.TLV.map fun t => 3 + t.Content.length).sum < 2 ^ 16 := by
    simp only [List.length_append, List.length_cons, List.length_nil, ← hip]
    omega
  exact parseProxyV2_toBytes_of_addressBlock p hblock hfam hnet haddr hversion hcommand htyp hlen rest

theorem parseProxyV2_toBytes_inet_loopback :
    ∃ bytes, ({ SrcAddress := some (.TCPAddr [127, 0, 0, 1] 4000)
                DstAddress := some (.TCPAddr [127, 0, 0, 1] 6000)
                TLV := [⟨[1, 2], 1⟩]
                Version := 2
                Command := 1 } : Proxy).ToBytes = .ok bytes ∧ bytes.take 12 = MagicV2 ∧
      ParseProxyV2 (bytes.drop 12 ++ []) =
        (some ⟨some (inetAddr true [127, 0, 0, 1] 4000), some (inetAddr true [127, 0, 0, 1] 6000),
          [⟨[1, 2], 1⟩], 2, 1⟩, bytes.length - 12, none, []) :=
  parseProxyV2_toBytes_inet _ true (.TCPAddr [127, 0, 0, 1] 4000) (.TCPAddr [127, 0, 0, 1] 6000)
    [127, 0, 0, 1] [127, 0, 0, 1] 4000 6000 rfl rfl rfl rfl rfl (by decide) (by decide) (by decide)
    (by decide) (by decide) (by decide) (by decide) []

/-- The length field past `2 ^ 16`: a TLV of 65532 bytes is within the TLV limit, but
with the twelve bytes of an IPv4 block the body is 65547 bytes, written as
`65547 % 2 ^ 16 = 11`.  The parser then reads eleven bytes, too few for the
addresses, and takes them for a TLV whatever the content is. -/
theorem parseProxyV2_toBytes_overflow_of_length
    (c : List UInt8)
    (hclen : c.length = 65532) :
    ∃ bytes, ({ SrcAddress := some (.TCPAddr [1, 2, 3, 4] 0)
                DstAddress := some (.TCPAddr [1, 2, 3, 4] 0)
                TLV := [⟨c, 1⟩]
                Version := 2
                Command := 1 } : Proxy).ToBytes = .ok bytes ∧ bytes.length = 65563 ∧
      (ParseProxyV2 (bytes.drop 12)).1 = some ⟨none, none, [⟨[4, 1, 2, 3, 4, 0, 0, 0], 1⟩], 2, 1⟩ ∧
      (ParseProxyV2 (bytes.drop 12)).2.1 = 15 := by
  refine ⟨_, toBytes_eq _ (addressBlock_inet true [1, 2, 3, 4] [1, 2, 3, 4] 0 0), ?_⟩
  -- the body: the eleven bytes the parser will read, and the rest
  have hbody : ([1, 2, 3, 4] : List UInt8) ++ ([1, 2, 3, 4] : List UInt8) ++ [UInt8.ofInt (0 / 256),
      UInt8.ofInt 0, UInt8.ofInt (0 / 256), UInt8.ofInt 0] ++ [(⟨c, 1⟩ : ProxyTlv)].flatMap tlvBytes =
      ([1, 2, 3, 4, 1, 2, 3, 4, 0, 0, 0] : List UInt8) ++
        (0 :: 1 :: UInt8.ofNat (65532 >>> 8) :: UInt8.ofNat 65532 :: c) := by
    have hport : UInt8.ofInt (0 / 256) = 0 ∧ UInt8.ofInt 0 = 0 ∧ UInt8.ofInt 1 = 1 := by decide
    simp only [List.flatMap_cons, List.flatMap_nil, tlvBytes, hclen, hport, List.append_nil,
      List.cons_append, List.nil_append]
  have hlen : (([1, 2, 3, 4, 1, 2, 3, 4, 0, 0, 0] : List UInt8) ++
      (0 :: 1 :: UInt8.ofNat (65532 >>> 8) :: UInt8.ofNat 65532 :: c)).length = 65547 := by
    simp only [List.length_append, List.length_cons, List.length_nil, hclen]
  rw [hbody, hlen, ← List.append_nil (List.drop 12 _), drop_magicV2_header, List.append_nil,
    parseProxyV2_frame _ _ _ _ [1, 2, 3, 4, 1, 2, 3, 4, 0, 0, 0] _ none none
      [1, 2, 3, 4, 1, 2, 3, 4, 0, 0, 0] ?hlen ?haddr]
  · refine ⟨?_, ?_, rfl⟩
    · simp only [List.length_append, List.length_cons, List.length_nil, length_MagicV2, hclen]
    · dsimp only
      decide
  · decide
  · decide

/-- The same at a TLV of 65532 zero bytes. -/
theorem parseProxyV2_toBytes_length_overflow :
    ∃ bytes, ({ SrcAddress := some (.TCPAddr [1, 2, 3, 4] 0)
                DstAddress := some (.TCPAddr [1, 2, 3, 4] 0)
                TLV := [⟨List.replicate 65532 0, 1⟩]
                Version := 2
                Command := 1 } : Proxy).ToBytes = .ok bytes ∧ bytes.length = 65563 ∧
      (ParseProxyV2 (bytes.drop 12)).1 = some ⟨none, none, [⟨[4, 1, 2, 3, 4, 0, 0, 0], 1⟩], 2, 1⟩ ∧
      (ParseProxyV2 (bytes.drop 12)).2.1 = 15 :=
  parseProxyV2_toBytes_overflow_of_length _ List.length_replicate

/-- The Unix round trip as the parser wants it: when both names fill their 108-byte
fields, the parser returns both names, with the source's `Net` on both. -/
theorem parseProxyV2_toBytes_unix_names
    (p : Proxy)
    (src dst : Addr)
    (sname dname : List UInt8)
    (snet dnet : String)
    (hsrc : p.SrcAddress = some src)
    (hdst : p.DstAddress = some dst)
    (hsrcUnix : unwrapOriginAddr src = .UnixAddr sname snet)
    (hdstUnix : unwrapOriginAddr dst = .UnixAddr dname dnet)
    (hnet : snet = "unix" ∨ snet = "unixdgram")
    (hsname : sname.length = 108)
    (hdname : dname.length = 108)
    (hversion : 0 ≤ p.Version ∧ p.Version < 16)
    (hcommand : 0 ≤ p.Command ∧ p.Command < 16)
    (htyp : ∀ t ∈ p.TLV, 0 ≤ t.Typ ∧ t.Typ < 256)
    (hbody : 216 + (p.TLV.map fun t => 3 + t.Content.length).sum < 2 ^ 16)
    (rest : List UInt8) :
    ∃ bytes, p.ToBytes = .ok bytes ∧ bytes.take 12 = MagicV2 ∧
      ParseProxyV2 (bytes.drop 12 ++ rest) =
        (some ⟨some (.UnixAddr sname snet), some (.UnixAddr dname snet), p.TLV,
          p.Version, p.Command⟩, bytes.length - 12, none, rest) := by
  have hblock : addressBlock (p.SrcAddress.map unwrapOriginAddr) (p.DstAddress.map unwrapOriginAddr) =
      .ok (ProxyAFUnix,
        if snet = "unix" then ProxyNetworkStream
        else if snet = "unixdgram" then ProxyNetworkDgram
        else ProxyNetworkUnspec,
        sname ++ dname) := by
    rw [hsrc, hdst, Option.map_some, Option.map_some, hsrcUnix, hdstUnix]
    exact addressBlock_unix sname dname snet dnet
  have hnetwork : (if snet = "unix" then ProxyNetworkStream
      else if snet = "unixdgram" then ProxyNetworkDgram
      else ProxyNetworkUnspec) < 16 := by
    split
    · decide
    · split <;> decide
  have hlen : (sname ++ dname).length + (p.TLV.map fun t => 3 + t.Content.length).sum < 2 ^ 16 := by
    rw [List.length_append, hsname, hdname]
    exact hbody
  exact parseProxyV2_toBytes_of_addressBlock p hblock (by decide) hnetwork
    (parseAddresses_unix hnet _ hsname hdname) hversion hcommand htyp hlen rest

/-- Unix names as Go passes them, shorter than 108 bytes: `ToBytes` appends the two
names unpadded, the body is shorter than the 216 bytes the parser wants, and the
parser returns no addresses. -/
theorem parseProxyV2_toBytes_unix_short :
    ({ SrcAddress := some (.UnixAddr [97] "unix")
       DstAddress := some (.UnixAddr [98] "unix")
       TLV := []
       Version := 2
       Command := 1 } : Proxy).ToBytes = .ok (MagicV2 ++ [0x21, 0x31, 0, 2, 97, 98]) ∧
      ParseProxyV2 [0x21, 0x31, 0, 2, 97, 98] = (some ⟨none, none, [], 2, 1⟩, 6, none, []) := by
  constructor
  · rfl
  · decide

end ProxyProtocol
end TiProxy
