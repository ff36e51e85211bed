import TiProxy.Net.InitialHandshake
import TiProxy.Net.Compress
import TiProxy.Backend.AuthRelay
import TiProxy.Lib.BitSet

/-!
# Capability negotiation in the first handshake

`Authenticator.handshakeFirstTime` (`pkg/proxy/backend/authenticator.go`) stands between
three parties: the handshake handler, which says what the proxy supports
(`GetCapability`), the client and the backend.  It advertises a capability to the
client in its initial handshake, keeps the part of the client's capability it shares
(`auth.capability`), checks the backend's capability (`verifyBackendCaps`), sends the
backend a handshake response of its own (`writeAuthHandshake`), relays the
authentication (`handshakeLoop` of `Backend.AuthRelay`) and, on the backend's OK, turns
compression on at both ends (`setCompress`).

The model is written over the `PacketIO` interface of `Net.Interface`, with the two
ends passed along as state.  TLS sits below the packet layer, so the TLS handshakes
are steps that read and write no packet; the handler's `HandleHandshakeResp` is
whether it accepts the response.  A handler's `goto RECONNECT` ends the model's run
with `reconnect`, as in the relay loop.

Capabilities are read as sets of flags (`capabilitySet`, over `Lib.BitSet`), so that
what the parties agree on is stated with intersections and unions.

**Results.**
* `handshakeFirstTime_client_output`: what the proxy writes to a client is only ever
  appended to, beginning with the initial handshake.
* `proxyCapability_ssl`: the SSL bit of the advertised capability is the handler's
  bit flipped where there is no frontend TLS config: `^=` toggles the bit.
* `handshakeFirstTime_advertises_ssl`: so a handler that does not offer TLS, on a proxy
  without a frontend TLS config, has TLS advertised to the client.
* `handshakeFirstTime_negotiated`: on the backend's OK, the proxy keeps the shared
  capability and `ClientPluginAuth`, the backend had `ClientDeprecateEOF` where the
  client did, the backend's response carries the shared flags the backend has, the
  attributes' flag and the SSL bit exactly where TLS is used, and each end compresses as
  its capability selects.  The capabilities are read from the client's first packet and
  the backend's initial handshake (`ClientSent`, `BackendSent`), and the response is the
  packet the proxy wrote to the backend.
-/

namespace TiProxy
namespace Backend

open Net GoBytes BitSet

/-- `requiredFrontendCaps`. -/
def requiredFrontendCaps : Capability := ClientProtocol41

/-- `defRequiredBackendCaps`. -/
def defRequiredBackendCaps : Capability := ClientDeprecateEOF

/-- `SupportedServerCapabilities`, what the default handshake handler offers. -/
def SupportedServerCapabilities : Capability :=
  ClientLongPassword ||| ClientFoundRows ||| ClientConnectWithDB ||| ClientODBC |||
    ClientLocalFiles ||| ClientInteractive ||| ClientLongFlag ||| ClientSSL |||
    ClientTransactions ||| ClientReserved ||| ClientSecureConnection |||
    ClientMultiStatements ||| ClientMultiResults ||| ClientPluginAuth ||| ClientConnectAttrs |||
    ClientPluginAuthLenencClientData ||| ClientCompress ||| ClientZstdCompressionAlgorithm |||
    requiredFrontendCaps ||| defRequiredBackendCaps

/-- `unknownAuthPlugin`. -/
def unknownAuthPlugin : List UInt8 := ascii "auth_unknown_plugin"

/-- The methods of `HandshakeHandler` the first handshake calls. -/
structure HandshakeHandler where
  /-- whether `HandleHandshakeResp` returns nil -/
  HandleHandshakeResp : HandshakeResp → Bool
  /-- `HandleHandshakeErr` on the backend's ERR packet: reconnect -/
  HandleHandshakeErr : List UInt8 → Bool
  GetCapability : Capability
  GetServerVersion : List UInt8

/-- The fields of `Authenticator` the handshake reads and sets. -/
structure Authenticator where
  dbname : List UInt8
  user : List UInt8
  attrs : Attrs
  capability : Capability
  zstdLevel : Int
  collation : UInt8
  requireBackendTLS : Bool

/-- The errors of the first handshake. -/
inductive HandshakeError where
  /-- a connection error, an ERR packet in the relay, a reconnect or a Go panic -/
  | relay (err : AuthError)
  /-- `Wrapf(ErrClientCap, "require %s from frontend", missing)` -/
  | clientCap (missing : Capability)
  /-- `Wrapf(ErrBackendCap, "require %s from backend", missing)` -/
  | backendCap (missing : Capability)
  /-- `ErrBackendNoTLS` -/
  | backendNoTLS
  /-- `ErrProxyNoTLS` -/
  | proxyNoTLS
  /-- `Wrap(err, ErrProxyErr)` of the handler's `HandleHandshakeResp` -/
  | proxyErr
  /-- `Wrap(ParseErrorPacket(serverPkt), ErrBackendHandshake)`: the backend sent an ERR
  packet instead of its initial handshake -/
  | backendHandshake (serverPkt : List UInt8)

/-! ### The capability checks and choices -/

/-- `verifyBackendCaps`. -/
def verifyBackendCaps
    (auth : Authenticator)
    (backendCapability : Capability) : Except HandshakeError Unit :=
  let requiredBackendCaps := defRequiredBackendCaps &&& auth.capability
  let commonCaps := backendCapability &&& requiredBackendCaps
  if commonCaps != requiredBackendCaps then
    .error (.backendCap (requiredBackendCaps ^^^ commonCaps))
  else if auth.requireBackendTLS && backendCapability &&& ClientSSL == 0 then
    .error .backendNoTLS
  else
    .ok ()

/-- The response `writeAuthHandshake` builds and whether it turns TLS on, before it
writes anything: the backend gets the shared capability and `authCap`, the attributes'
flag where there are attributes, and the SSL bit exactly where TLS is used. -/
def authHandshakeResp
    (auth : Authenticator)
    (backendTLSConfig : Bool)
    (backendCapability : Capability)
    (authPlugin authData : List UInt8)
    (authCap : Capability) : Except HandshakeError (HandshakeResp × Bool) :=
  -- `resp.Capability`, as the code sets it step by step
  let capability := auth.capability &&& backendCapability ||| authCap
  let capability := if 0 < auth.attrs.entries.length then capability ||| ClientConnectAttrs
    else capability
  let resp (capability : Capability) : HandshakeResp := {
    User := auth.user
    DB := auth.dbname
    Attrs := auth.attrs
    Collation := auth.collation
    AuthData := authData
    Capability := capability
    AuthPlugin := authPlugin
    ZstdLevel := auth.zstdLevel }
  let enableTLS : Except HandshakeError Bool :=
    if auth.requireBackendTLS then
      if backendTLSConfig then .ok true else .error .proxyNoTLS
    else
      -- when client TLS is disabled, proxy TLS is disabled too
      .ok (auth.capability &&& ClientSSL != 0 && backendCapability &&& ClientSSL != 0 &&
        backendTLSConfig)
  match enableTLS with
  | .error err => .error err
  | .ok true => .ok (resp (capability ||| ClientSSL), true)
  | .ok false => .ok (resp (capability &&& ~~~ClientSSL), false)

/-- `setCompress`: the algorithm and the level it gives `SetCompressionAlgorithm`. -/
def setCompress
    (capability : Capability)
    (zstdLevel : Int) : CompressAlgorithm × Int :=
  if capability &&& ClientCompress > 0 then (.CompressionZlib, zstdLevel)
  else if capability &&& ClientZstdCompressionAlgorithm > 0 then (.CompressionZstd, zstdLevel)
  else (.CompressionNone, zstdLevel)

/-- The capability `handshakeFirstTime` advertises: the handler's, with `^=` on the SSL
bit where there is no frontend TLS config. -/
def proxyCapability
    (handlerCapability : Capability)
    (frontendTLSConfig : Bool) : Capability :=
  if frontendTLSConfig then handlerCapability else handlerCapability ^^^ ClientSSL

/-- The capability the proxy keeps for the client: what both sides have, and
`ClientPluginAuth` always. -/
def sharedCapability
    (frontendCapability proxyCapability : Capability) : Capability :=
  let commonCaps := frontendCapability &&& proxyCapability
  if commonCaps &&& ClientPluginAuth == 0 then commonCaps ||| ClientPluginAuth else commonCaps

/-- `^=` on a flag: the flag's bits of the result are those of the argument flipped. -/
theorem xor_and_self
    (c l : Capability) :
    (c ^^^ l) &&& l = (c &&& l) ^^^ l := by
  apply UInt32.toBitVec_inj.mp
  ext i hi
  simp only [UInt32.toBitVec_and, UInt32.toBitVec_xor, BitVec.getElem_and, BitVec.getElem_xor]
  grind

/-- The SSL bit the proxy advertises: the handler's with a frontend TLS config, the
handler's flipped without one. -/
theorem proxyCapability_ssl
    (handlerCapability : Capability)
    (frontendTLSConfig : Bool) :
    proxyCapability handlerCapability frontendTLSConfig &&& ClientSSL =
      if frontendTLSConfig then handlerCapability &&& ClientSSL
      else (handlerCapability &&& ClientSSL) ^^^ ClientSSL := by
  cases frontendTLSConfig with
  | true => rfl
  | false => exact xor_and_self handlerCapability ClientSSL

section Handshake

variable {σ : Type}
variable (io : PacketIOMethods σ)

/-- `writeAuthHandshake`: the SSL request, the first 32 bytes of the response, before
the TLS handshake where TLS is on, then the response. -/
def writeAuthHandshake
    (auth : Authenticator)
    (backend : σ)
    (backendTLSConfig : Bool)
    (backendCapability : Capability)
    (authPlugin authData : List UInt8)
    (authCap : Capability) : Except HandshakeError σ :=
  match authHandshakeResp auth backendTLSConfig backendCapability authPlugin authData authCap with
  | .error err => .error err
  | .ok (resp, enableTLS) =>
      match MakeHandshakeResponse resp with
      | none => .error (.relay .indexOutOfRange)
      | some pkt =>
          if enableTLS then
            match slice pkt 0 32 with
            | none => .error (.relay .indexOutOfRange)
            | some sslPkt => .ok (io.WritePacket (io.WritePacket backend sslPkt) pkt)
          else
            .ok (io.WritePacket backend pkt)

/-- `readInitialHandshake`: the backend's capability, or its ERR packet. -/
def readInitialHandshake
    (backend : σ) : Except HandshakeError Capability × σ :=
  match io.ReadPacket backend with
  | .error err => (.error (.relay (.io err)), backend)
  | .ok ([], backend) => (.error (.relay .indexOutOfRange), backend)
  | .ok (first :: body, backend) =>
      if IsErrorPacket first then
        (.error (.backendHandshake (first :: body)), backend)
      else
        match ParseInitialHandshake (first :: body) with
        | none => (.error (.relay .indexOutOfRange), backend)
        | some initialHandshake => (.ok initialHandshake.Capability, backend)

/-- The client's handshake response after an SSL request: the packet read after the TLS
handshake, with the capability of the SSL request written over its own where the two
differ, since some drivers drop `ClientSSL` from the second packet. -/
def readSSLResponse
    (frontendCapability : Capability)
    (client : σ) : Except HandshakeError (List UInt8) × σ :=
  match io.ReadPacket client with
  | .error err => (.error (.relay (.io err)), client)
  | .ok (pkt, client) =>
      match uint32At pkt 0 with
      | none => (.error (.relay .indexOutOfRange), client)
      | some frontendCapabilityResponse =>
          if frontendCapability != frontendCapabilityResponse then
            match putUint32 pkt frontendCapability with
            | none => (.error (.relay .indexOutOfRange), client)
            | some pkt => (.ok pkt, client)
          else
            (.ok pkt, client)

/-- The backend half of `handshakeFirstTime`, from `RECONNECT:` on: read the backend's
initial handshake, check it, send the response with an unknown plugin so that the
backend asks for the auth data again, relay the authentication, and on OK set the
compression of the client and of the backend. -/
def handshakeFirstTimeBackend
    (fuel : Nat)
    (auth : Authenticator)
    (handshakeHandler : HandshakeHandler)
    (backendTLSConfig : Bool)
    (authData : List UInt8)
    (client backend : σ) :
    Except HandshakeError ((CompressAlgorithm × Int) × (CompressAlgorithm × Int)) × σ × σ :=
  match readInitialHandshake io backend with
  | (.error (.backendHandshake serverPkt), backend) =>
      -- `IsMySQLError`: the ERR packet is passed on to the client
      (.error (.backendHandshake serverPkt), io.WritePacket client serverPkt, backend)
  | (.error err, backend) => (.error err, client, backend)
  | (.ok backendCapability, backend) =>
      match verifyBackendCaps auth backendCapability with
      | .error err => (.error err, client, backend)
      | .ok () =>
          match writeAuthHandshake io auth backend backendTLSConfig backendCapability
              unknownAuthPlugin authData 0 with
          | .error err => (.error err, client, backend)
          | .ok backend =>
              match handshakeLoop io handshakeHandler.HandleHandshakeErr fuel [] client backend with
              | (.error err, client, backend) => (.error (.relay err), client, backend)
              | (.ok (), client, backend) =>
                  (.ok (setCompress auth.capability auth.zstdLevel,
                    setCompress (auth.capability &&& backendCapability) auth.zstdLevel),
                    client, backend)

/-- `handshakeFirstTime`: the authenticator it leaves and the compression of both ends.
`Collation` is `mysql.DefaultCollationID`, `notSupportedAuthMode` the library's
`ER_NOT_SUPPORTED_AUTH_MODE` error, `salt` what `GenerateSalt` made and `cid` the
connection id of the context. -/
def handshakeFirstTime
    (Collation : UInt8)
    (notSupportedAuthMode : MyError)
    (fuel : Nat)
    (auth : Authenticator)
    (handshakeHandler : HandshakeHandler)
    (frontendTLSConfig backendTLSConfig : Bool)
    (salt : List UInt8)
    (cid : UInt64)
    (client backend : σ) :
    Except HandshakeError
      (Authenticator × (CompressAlgorithm × Int) × (CompressAlgorithm × Int)) × σ × σ :=
  let proxyCapability := proxyCapability handshakeHandler.GetCapability frontendTLSConfig
  let client := io.WritePacket client (MakeInitialHandshake Collation proxyCapability salt
    AuthNativePassword handshakeHandler.GetServerVersion cid)
  match io.ReadPacket client with
  | .error err => (.error (.relay (.io err)), client, backend)
  | .ok (pkt, client) =>
      match ParseSSLRequestOrHandshakeResp pkt, uint32At pkt 0 with
      | some isSSL, some frontendCapability =>
          let response := if isSSL then readSSLResponse io frontendCapability client
            else (.ok pkt, client)
          match response with
          | (.error err, client) => (.error err, client, backend)
          | (.ok pkt, client) =>
              let commonCaps := frontendCapability &&& requiredFrontendCaps
              if commonCaps != requiredFrontendCaps then
                (.error (.clientCap (requiredFrontendCaps &&& ~~~commonCaps)),
                  io.WritePacket client (MakeErrPacket notSupportedAuthMode), backend)
              else
                match ParseHandshakeResponse pkt with
                | none => (.error (.relay .indexOutOfRange), client, backend)
                | some (clientResp, _) =>
                    -- a warning of the attributes is only logged
                    if !handshakeHandler.HandleHandshakeResp clientResp then
                      (.error .proxyErr, client, backend)
                    else
                      let auth := { auth with
                        capability := sharedCapability frontendCapability proxyCapability
                        user := clientResp.User
                        dbname := clientResp.DB
                        collation := clientResp.Collation
                        attrs := clientResp.Attrs
                        zstdLevel := clientResp.ZstdLevel }
                      match handshakeFirstTimeBackend io fuel auth handshakeHandler backendTLSConfig
                          clientResp.AuthData client backend with
                      | (.error err, client, backend) => (.error err, client, backend)
                      | (.ok (clientCompress, backendCompress), client, backend) =>
                          (.ok (auth, clientCompress, backendCompress), client, backend)
      | _, _ => (.error (.relay .indexOutOfRange), client, backend)

end Handshake

/-! ### What the client is sent

On queue ends, each step of the handshake only appends to what the client has been
sent, so the initial handshake stays its first packet whatever the parties do next. -/

/-- Reading from a queue end leaves what was written to it. -/
theorem output_of_readPacket_queue
    {q q' : PacketQueue}
    {m : List UInt8}
    (h : queueMethods.ReadPacket q = .ok (m, q')) :
    q'.output = q.output := by
  cases hq : q.input with
  | nil =>
      simp [readPacket_queue_nil q hq] at h
  | cons m' ms =>
      rw [readPacket_queue_cons q hq, Except.ok.injEq, Prod.mk.injEq] at h
      rw [← h.2]

theorem prefix_of_writePacket_queue
    {q : PacketQueue}
    {m : List UInt8}
    {l : List (List UInt8)}
    (h : (queueMethods.WritePacket q m).output <+: l) :
    q.output <+: l :=
  (List.prefix_append q.output [m]).trans h

/-- Relaying a packet from a queue end leaves what was written to it. -/
theorem prefix_of_forwardMsg_queue
    {src dest src' dest' : PacketQueue}
    {l : List (List UInt8)}
    {pkt : List UInt8}
    (h : forwardMsg queueMethods src dest = .ok (pkt, src', dest'))
    (hl : src'.output <+: l) :
    src.output <+: l := by
  unfold forwardMsg at h
  split at h
  · cases h
  · rename_i hread
    rw [Except.ok.injEq, Prod.mk.injEq, Prod.mk.injEq] at h
    rwa [← output_of_readPacket_queue hread, h.2.1]

/-- The relay loop only appends to what the client has been sent. -/
theorem handshakeLoop_client_output
    (HandleHandshakeErr : List UInt8 → Bool)
    (fuel : Nat) :
    ∀ (pluginName : List UInt8) (client backend : PacketQueue),
      client.output <+:
        (handshakeLoop queueMethods HandleHandshakeErr fuel pluginName client backend).2.1.output := by
  induction fuel with
  | zero =>
      intro _ client _
      exact List.prefix_refl _
  | succ fuel ih =>
      intro pluginName client backend
      unfold handshakeLoop
      dsimp only
      -- the client is written to at most once a turn, then relayed from
      repeat' split
      all_goals try dsimp only
      all_goals first
        | exact List.prefix_refl _
        | exact prefix_of_writePacket_queue (List.prefix_refl _)
        | exact prefix_of_writePacket_queue (ih _ _ _)
        | exact prefix_of_writePacket_queue (prefix_of_forwardMsg_queue (by assumption) (ih _ _ _))

theorem prefix_of_handshakeLoop_queue
    {HandleHandshakeErr : List UInt8 → Bool}
    {fuel : Nat}
    {pluginName : List UInt8}
    {client backend client' backend' : PacketQueue}
    {r : Except AuthError Unit}
    (h : handshakeLoop queueMethods HandleHandshakeErr fuel pluginName client backend =
      (r, client', backend')) :
    client.output <+: client'.output := by
  have hloop := handshakeLoop_client_output HandleHandshakeErr fuel pluginName client backend
  rwa [h] at hloop

theorem readSSLResponse_client_output
    (frontendCapability : Capability)
    (client : PacketQueue) :
    (readSSLResponse queueMethods frontendCapability client).2.output = client.output := by
  unfold readSSLResponse
  split
  · rfl
  · rename_i hread
    have hout := output_of_readPacket_queue hread
    repeat' split
    all_goals exact hout

theorem handshakeFirstTimeBackend_client_output
    (fuel : Nat)
    (auth : Authenticator)
    (handshakeHandler : HandshakeHandler)
    (backendTLSConfig : Bool)
    (authData : List UInt8)
    (client backend : PacketQueue) :
    client.output <+: (handshakeFirstTimeBackend queueMethods fuel auth handshakeHandler
      backendTLSConfig authData client backend).2.1.output := by
  unfold handshakeFirstTimeBackend
  repeat' split
  all_goals first
    | exact List.prefix_refl _
    | exact prefix_of_writePacket_queue (List.prefix_refl _)
    | exact prefix_of_handshakeLoop_queue (by assumption)

theorem prefix_of_handshakeFirstTimeBackend_queue
    {fuel : Nat}
    {auth : Authenticator}
    {handshakeHandler : HandshakeHandler}
    {backendTLSConfig : Bool}
    {authData : List UInt8}
    {client backend client' backend' : PacketQueue}
    {r : Except HandshakeError ((CompressAlgorithm × Int) × (CompressAlgorithm × Int))}
    (h : handshakeFirstTimeBackend queueMethods fuel auth handshakeHandler backendTLSConfig
      authData client backend = (r, client', backend')) :
    client.output <+: client'.output := by
  have hbackend := handshakeFirstTimeBackend_client_output fuel auth handshakeHandler
    backendTLSConfig authData client backend
  rwa [h] at hbackend

theorem response_client_output
    {isSSL : Bool}
    {frontendCapability : Capability}
    {pkt : List UInt8}
    {client client' : PacketQueue}
    {r : Except HandshakeError (List UInt8)}
    (h : (if isSSL then readSSLResponse queueMethods frontendCapability client
      else (.ok pkt, client)) = (r, client')) :
    client.output = client'.output := by
  cases isSSL with
  | true =>
      rw [if_pos rfl] at h
      rw [← readSSLResponse_client_output frontendCapability client, h]
  | false =>
      rw [if_neg Bool.false_ne_true, Prod.mk.injEq] at h
      rw [h.2]

/-- The client is sent the initial handshake first, and what follows is only ever
appended. -/
theorem handshakeFirstTime_client_output
    (Collation : UInt8)
    (notSupportedAuthMode : MyError)
    (fuel : Nat)
    (auth : Authenticator)
    (handshakeHandler : HandshakeHandler)
    (frontendTLSConfig backendTLSConfig : Bool)
    (salt : List UInt8)
    (cid : UInt64)
    (client backend : PacketQueue) :
    client.output ++ [MakeInitialHandshake Collation
        (proxyCapability handshakeHandler.GetCapability frontendTLSConfig) salt AuthNativePassword
        handshakeHandler.GetServerVersion cid] <+:
      (handshakeFirstTime queueMethods Collation notSupportedAuthMode fuel auth handshakeHandler
        frontendTLSConfig backendTLSConfig salt cid client backend).2.1.output := by
  unfold handshakeFirstTime
  dsimp only
  generalize hinit : MakeInitialHandshake _ _ _ _ _ _ = initialHandshake
  -- from here on each end the client is read from or written to extends the one sent
  -- the initial handshake
  have hsent : client.output ++ [initialHandshake] =
      (queueMethods.WritePacket client initialHandshake).output := rfl
  rw [hsent]
  generalize queueMethods.WritePacket client initialHandshake = client₁
  split
  next =>
    exact List.prefix_refl _
  next pkt client₂ hread =>
    rw [← output_of_readPacket_queue hread]
    split
    next isSSL frontendCapability _ _ =>
      split
      next err client₃ hresp =>
        rw [← response_client_output hresp]
      next pkt client₃ hresp =>
        rw [response_client_output hresp]
        split
        next =>
          exact prefix_of_writePacket_queue (List.prefix_refl _)
        next =>
          -- a response the proxy cannot take ends the run, otherwise the backend half runs
          repeat' split
          all_goals first
            | exact List.prefix_refl _
            | exact prefix_of_handshakeFirstTimeBackend_queue (by assumption)
    next =>
      exact List.prefix_refl _

/-- A handler that does not offer TLS, on a proxy without a frontend TLS config, has the
proxy advertise TLS all the same: the client reads `ClientSSL` in the first packet it is
sent. -/
theorem handshakeFirstTime_advertises_ssl
    (Collation : UInt8)
    (notSupportedAuthMode : MyError)
    (fuel : Nat)
    (auth : Authenticator)
    (handshakeHandler : HandshakeHandler)
    (hcap : handshakeHandler.GetCapability &&& ClientSSL = 0)
    (hversion : 0 ∉ handshakeHandler.GetServerVersion)
    (backendTLSConfig : Bool)
    {salt : List UInt8}
    (hsalt : salt.length = 20)
    (cid : UInt64)
    (client backend : PacketQueue) :
    ∃ initialHandshake rest,
      (handshakeFirstTime queueMethods Collation notSupportedAuthMode fuel auth handshakeHandler
        false backendTLSConfig salt cid client backend).2.1.output =
        client.output ++ initialHandshake :: rest ∧
      ∃ hs, ParseInitialHandshake initialHandshake = some hs ∧
        hs.Capability &&& ClientSSL = ClientSSL := by
  obtain ⟨rest, hrest⟩ := handshakeFirstTime_client_output Collation notSupportedAuthMode fuel auth
    handshakeHandler false backendTLSConfig salt cid client backend
  have hplugin : 0 ∉ AuthNativePassword := by
    decide
  refine ⟨_, rest, ?_, _, ParseInitialHandshake_MakeInitialHandshake Collation
    (proxyCapability handshakeHandler.GetCapability false) hsalt hplugin hversion cid, ?_⟩
  · rw [← hrest, List.append_assoc, List.singleton_append]
  · -- `^=` sets the bit the handler left clear
    rw [proxyCapability_ssl, if_neg Bool.false_ne_true, hcap, UInt32.zero_xor]

/-- `DefaultHandshakeHandler`, with the server version of its default router. -/
def DefaultHandshakeHandler (serverVersion : List UInt8) : HandshakeHandler where
  HandleHandshakeResp _ := true
  HandleHandshakeErr _ := false
  GetCapability := SupportedServerCapabilities
  GetServerVersion := serverVersion

/-- A `CustomHandshakeHandler` whose `getCapability` offers the default capabilities but
TLS. -/
def noTLSHandler : HandshakeHandler :=
  { DefaultHandshakeHandler (ascii "8.0.11-TiDB") with
    GetCapability := SupportedServerCapabilities &&& ~~~ClientSSL }

/-- An authenticator before the handshake. -/
def freshAuthenticator : Authenticator :=
  ⟨[], [], ∅, 0, 0, 0, false⟩

theorem handshakeFirstTime_advertises_ssl_noTLSHandler :
    noTLSHandler.GetCapability &&& ClientSSL = 0 ∧ 0 ∉ noTLSHandler.GetServerVersion ∧
      (List.replicate 20 (7 : UInt8)).length = 20 ∧
      ∃ initialHandshake rest,
        (handshakeFirstTime queueMethods 46 ⟨1251, [], []⟩ 1 freshAuthenticator noTLSHandler
          false false (List.replicate 20 7) 1 ⟨[], []⟩ ⟨[], []⟩).2.1.output =
          [] ++ initialHandshake :: rest ∧
        ∃ hs, ParseInitialHandshake initialHandshake = some hs ∧
          hs.Capability &&& ClientSSL = ClientSSL :=
  have hcap : noTLSHandler.GetCapability &&& ClientSSL = 0 := by
    decide
  have hversion : 0 ∉ noTLSHandler.GetServerVersion := by
    decide
  have hsalt : (List.replicate 20 (7 : UInt8)).length = 20 := List.length_replicate
  ⟨hcap, hversion, hsalt, handshakeFirstTime_advertises_ssl 46 ⟨1251, [], []⟩ 1 freshAuthenticator
    noTLSHandler hcap hversion false hsalt 1 ⟨[], []⟩ ⟨[], []⟩⟩

/-! ### What the parties agree on

A capability is read as the set of its flags (`Lib.BitSet`): bit 5 is `ClientCompress`,
9 `ClientProtocol41`, 11 `ClientSSL`, 19 `ClientPluginAuth`, 20 `ClientConnectAttrs`, 24
`ClientDeprecateEOF` and 26 `ClientZstdCompressionAlgorithm`. -/

/-- The flags of a capability. -/
def capabilitySet (c : Capability) : Finset (Fin 32) := bitSet c.toBitVec

@[simp] theorem capabilitySet_and
    (a b : Capability) :
    capabilitySet (a &&& b) = capabilitySet a ∩ capabilitySet b := by
  simp [capabilitySet]

@[simp] theorem capabilitySet_or
    (a b : Capability) :
    capabilitySet (a ||| b) = capabilitySet a ∪ capabilitySet b := by
  simp [capabilitySet]

@[simp] theorem capabilitySet_xor
    (a b : Capability) :
    capabilitySet (a ^^^ b) = symmDiff (capabilitySet a) (capabilitySet b) := by
  simp [capabilitySet]

@[simp] theorem capabilitySet_not
    (a : Capability) :
    capabilitySet (~~~a) = (capabilitySet a)ᶜ := by
  simp [capabilitySet]

theorem eq_zero_iff_capabilitySet
    (a : Capability) :
    a = 0 ↔ capabilitySet a = ∅ := by
  rw [capabilitySet, ← eq_zero_iff_bitSet, ← UInt32.toBitVec_inj]
  rfl

@[simp] theorem capabilitySet_ClientSSL : capabilitySet ClientSSL = {11} := by
  decide

@[simp] theorem capabilitySet_ClientPluginAuth : capabilitySet ClientPluginAuth = {19} := by
  decide

@[simp] theorem capabilitySet_ClientConnectAttrs : capabilitySet ClientConnectAttrs = {20} := by
  decide

@[simp] theorem capabilitySet_ClientDeprecateEOF : capabilitySet ClientDeprecateEOF = {24} := by
  decide

@[simp] theorem capabilitySet_ClientCompress : capabilitySet ClientCompress = {5} := by
  decide

@[simp] theorem capabilitySet_ClientZstdCompressionAlgorithm :
    capabilitySet ClientZstdCompressionAlgorithm = {26} := by
  decide

theorem capabilitySet_inj
    {a b : Capability} :
    capabilitySet a = capabilitySet b ↔ a = b := by
  rw [capabilitySet, capabilitySet, bitSet_injective.eq_iff, UInt32.toBitVec_inj]

/-- A one-flag mask is not zero on a capability exactly when the capability has the
flag. -/
theorem and_flag_ne_zero_iff
    (a : Capability)
    {f : Capability}
    {k : Fin 32}
    (hf : capabilitySet f = {k}) :
    a &&& f ≠ 0 ↔ k ∈ capabilitySet a := by
  rw [Ne, eq_zero_iff_capabilitySet, capabilitySet_and, hf, Finset.inter_singleton]
  split_ifs with hk
  · simp [hk]
  · simp [hk]

theorem lt_and_flag_iff
    (a : Capability)
    {f : Capability}
    {k : Fin 32}
    (hf : capabilitySet f = {k}) :
    0 < a &&& f ↔ k ∈ capabilitySet a := by
  rw [← and_flag_ne_zero_iff a hf, UInt32.lt_iff_toNat_lt, Ne, ← UInt32.toNat_inj]
  simp only [UInt32.toNat_zero]
  omega

/-- (ii) The proxy keeps for the client the flags both sides have, and
`ClientPluginAuth`. -/
theorem capabilitySet_sharedCapability
    (frontendCapability proxyCapability : Capability) :
    capabilitySet (sharedCapability frontendCapability proxyCapability) =
      capabilitySet frontendCapability ∩ capabilitySet proxyCapability ∪ {19} := by
  unfold sharedCapability
  dsimp only
  split
  · simp
  · -- the flag is there already, and setting it again changes nothing
    rename_i h
    have h19 : 19 ∈ capabilitySet (frontendCapability &&& proxyCapability) :=
      (and_flag_ne_zero_iff _ capabilitySet_ClientPluginAuth).mp (by simpa using h)
    rw [← capabilitySet_and, Finset.union_eq_left.mpr (Finset.singleton_subset_iff.mpr h19)]

/-- (iii) The backend is accepted exactly when it has `ClientDeprecateEOF` where the
client does, and TLS where the proxy requires it. -/
theorem verifyBackendCaps_eq_ok
    (auth : Authenticator)
    (backendCapability : Capability) :
    verifyBackendCaps auth backendCapability = .ok () ↔
      (24 ∈ capabilitySet auth.capability → 24 ∈ capabilitySet backendCapability) ∧
      (auth.requireBackendTLS = true → 11 ∈ capabilitySet backendCapability) := by
  have hcommon : backendCapability &&& (defRequiredBackendCaps &&& auth.capability) =
      defRequiredBackendCaps &&& auth.capability ↔
      (24 ∈ capabilitySet auth.capability → 24 ∈ capabilitySet backendCapability) := by
    rw [← capabilitySet_inj, capabilitySet_and, capabilitySet_and, defRequiredBackendCaps,
      capabilitySet_ClientDeprecateEOF, Finset.singleton_inter]
    split_ifs with h24 <;> simp [h24]
  have htls : (auth.requireBackendTLS && backendCapability &&& ClientSSL == 0) = false ↔
      (auth.requireBackendTLS = true → 11 ∈ capabilitySet backendCapability) := by
    rw [← and_flag_ne_zero_iff backendCapability capabilitySet_ClientSSL]
    cases auth.requireBackendTLS <;> simp
  unfold verifyBackendCaps
  dsimp only
  split
  · rename_i h
    simp only [bne_iff_ne, ne_eq] at h
    simp only [reduceCtorEq, false_iff]
    exact fun hv => h (hcommon.mpr hv.1)
  · rename_i h
    simp only [bne_iff_ne, ne_eq, Decidable.not_not] at h
    split
    · rename_i hssl
      simp only [reduceCtorEq, false_iff]
      exact fun hv => by simp [htls.mpr hv.2] at hssl
    · rename_i hssl
      simp only [Bool.not_eq_true] at hssl
      simp only [true_iff]
      exact ⟨hcommon.mp h, htls.mp hssl⟩

/-- (iv) Apart from `ClientSSL`, the backend is sent the shared flags it has, `authCap`'s
and `ClientConnectAttrs` where there are attributes; `ClientSSL` it is sent exactly where
TLS is on, which is where the proxy requires TLS, or where the client, the backend and
the config all allow it. -/
theorem authHandshakeResp_eq_ok
    {auth : Authenticator}
    {backendTLSConfig : Bool}
    {backendCapability : Capability}
    {authPlugin authData : List UInt8}
    {authCap : Capability}
    {resp : HandshakeResp}
    {enableTLS : Bool}
    (h : authHandshakeResp auth backendTLSConfig backendCapability authPlugin authData authCap =
      .ok (resp, enableTLS)) :
    capabilitySet resp.Capability \ {11} =
        (capabilitySet auth.capability ∩ capabilitySet backendCapability ∪
          capabilitySet authCap ∪ (if 0 < auth.attrs.entries.length then {20} else ∅)) \ {11} ∧
      (11 ∈ capabilitySet resp.Capability ↔ enableTLS = true) ∧
      (enableTLS = true ↔ auth.requireBackendTLS = true ∨
        11 ∈ capabilitySet auth.capability ∧ 11 ∈ capabilitySet backendCapability ∧
          backendTLSConfig = true) := by
  have hbase : capabilitySet (if 0 < auth.attrs.entries.length then
      auth.capability &&& backendCapability ||| authCap ||| ClientConnectAttrs
      else auth.capability &&& backendCapability ||| authCap) =
      capabilitySet auth.capability ∩ capabilitySet backendCapability ∪ capabilitySet authCap ∪
        (if 0 < auth.attrs.entries.length then {20} else ∅) := by
    split_ifs <;> simp
  have hssl (c : Capability) : (c &&& ClientSSL != 0) = true ↔ 11 ∈ capabilitySet c := by
    rw [bne_iff_ne]
    exact and_flag_ne_zero_iff c capabilitySet_ClientSSL
  unfold authHandshakeResp at h
  dsimp only at h
  split at h
  · cases h
  · -- TLS on: the SSL bit is set
    rename_i htls
    rw [Except.ok.injEq, Prod.mk.injEq] at h
    obtain ⟨rfl, rfl⟩ := h
    refine ⟨?_, by simp, ?_⟩
    · rw [capabilitySet_or, capabilitySet_ClientSSL, Finset.union_sdiff_right, hbase]
    · cases hreq : auth.requireBackendTLS
      · simp only [hreq, Bool.false_eq_true, if_false, Except.ok.injEq, Bool.and_eq_true,
          hssl] at htls
        simp [htls]
      · simp
  · -- TLS off: the SSL bit is cleared
    rename_i htls
    rw [Except.ok.injEq, Prod.mk.injEq] at h
    obtain ⟨rfl, rfl⟩ := h
    refine ⟨?_, by simp, ?_⟩
    · rw [capabilitySet_and, capabilitySet_not, capabilitySet_ClientSSL,
        ← Finset.sdiff_eq_inter_compl, Finset.sdiff_idem, hbase]
    · cases hreq : auth.requireBackendTLS
      · simp only [hreq, Bool.false_eq_true, if_false, Except.ok.injEq] at htls
        simp only [Bool.false_eq_true, false_iff, false_or, not_and, ← hssl]
        simpa using htls
      · -- a required TLS is never off
        simp only [hreq, if_true] at htls
        split at htls <;> cases htls

/-- With no capability of the auth plugin's own, a flag other than `ClientSSL` and
`ClientConnectAttrs` is in the response exactly where it is in the shared capability
and the backend's. -/
theorem authHandshakeResp_flag
    {auth : Authenticator}
    {backendTLSConfig : Bool}
    {backendCapability : Capability}
    {authPlugin authData : List UInt8}
    {resp : HandshakeResp}
    {enableTLS : Bool}
    (h : authHandshakeResp auth backendTLSConfig backendCapability authPlugin authData 0 =
      .ok (resp, enableTLS))
    (k : Fin 32)
    (hk : k ≠ 11)
    (hk' : k ≠ 20) :
    k ∈ capabilitySet resp.Capability ↔
      k ∈ capabilitySet (auth.capability &&& backendCapability) := by
  obtain ⟨hrespCap, -, -⟩ := authHandshakeResp_eq_ok h
  have hzero : capabilitySet 0 = ∅ := (eq_zero_iff_capabilitySet 0).mp rfl
  rw [hzero, Finset.union_empty] at hrespCap
  have hmem := congrArg (k ∈ ·) hrespCap
  simp only [Finset.mem_sdiff, Finset.mem_singleton, hk, not_false_eq_true, and_true,
    Finset.mem_union] at hmem
  split_ifs at hmem <;> simpa [hk'] using hmem

/-- (v) `setCompress` picks zlib on `ClientCompress`, otherwise zstd on
`ClientZstdCompressionAlgorithm`. -/
theorem setCompress_eq
    (capability : Capability)
    (zstdLevel : Int) :
    setCompress capability zstdLevel =
      (if 5 ∈ capabilitySet capability then .CompressionZlib
        else if 26 ∈ capabilitySet capability then .CompressionZstd else .CompressionNone,
        zstdLevel) := by
  unfold setCompress
  simp only [gt_iff_lt, lt_and_flag_iff _ capabilitySet_ClientCompress,
    lt_and_flag_iff _ capabilitySet_ClientZstdCompressionAlgorithm]
  split_ifs <;> rfl

/-- What `readInitialHandshake` reads when it succeeds: the backend's next packet, an
initial handshake whose capability it returns. -/
theorem readInitialHandshake_ok
    {σ : Type}
    {io : PacketIOMethods σ}
    {backend backend₁ : σ}
    {backendCapability : Capability}
    (h : readInitialHandshake io backend = (.ok backendCapability, backend₁)) :
    ∃ pkt initialHandshake, io.ReadPacket backend = .ok (pkt, backend₁) ∧
      ParseInitialHandshake pkt = some initialHandshake ∧
      initialHandshake.Capability = backendCapability := by
  unfold readInitialHandshake at h
  split at h
  · cases h
  · cases h
  · rename_i first body backend' hread
    split_ifs at h
    · cases h
    · split at h
      · cases h
      · rename_i initialHandshake hparse
        rw [Prod.mk.injEq, Except.ok.injEq] at h
        obtain ⟨rfl, rfl⟩ := h
        exact ⟨first :: body, initialHandshake, hread, hparse, rfl⟩

/-- What `writeAuthHandshake` writes when it succeeds: the packet of the response
`authHandshakeResp` builds, after its first 32 bytes as an SSL request where TLS is on. -/
theorem writeAuthHandshake_ok
    {σ : Type}
    {io : PacketIOMethods σ}
    {auth : Authenticator}
    {backend backend' : σ}
    {backendTLSConfig : Bool}
    {backendCapability : Capability}
    {authPlugin authData : List UInt8}
    {authCap : Capability}
    (h : writeAuthHandshake io auth backend backendTLSConfig backendCapability authPlugin authData
      authCap = .ok backend') :
    ∃ resp enableTLS respPkt, authHandshakeResp auth backendTLSConfig backendCapability authPlugin
        authData authCap = .ok (resp, enableTLS) ∧
      MakeHandshakeResponse resp = some respPkt ∧
      backend' = io.WritePacket (if enableTLS then io.WritePacket backend (respPkt.take 32) else backend)
        respPkt := by
  unfold writeAuthHandshake at h
  split at h
  · cases h
  · rename_i resp enableTLS hresp
    split at h
    · cases h
    · rename_i respPkt hpkt
      refine ⟨resp, enableTLS, respPkt, hresp, hpkt, ?_⟩
      cases enableTLS with
      | false =>
          rw [if_neg Bool.false_ne_true, Except.ok.injEq] at h
          rw [if_neg Bool.false_ne_true]
          exact h.symm
      | true =>
          rw [if_pos rfl] at h
          rw [if_pos rfl]
          split at h
          · cases h
          · -- the SSL request is the first 32 bytes of the response
            rename_i sslPkt hslice
            simp only [slice, Nat.zero_le, true_and, List.drop_zero, Nat.sub_zero] at hslice
            split_ifs at hslice
            cases hslice
            rw [Except.ok.injEq] at h
            exact h.symm

/-- A backend half that ends with the backend's OK: the backend's initial handshake was
read and its capability passed the check, the response was written, and the compression
of both ends follows the capabilities. -/
theorem handshakeFirstTimeBackend_ok
    {σ : Type}
    {io : PacketIOMethods σ}
    {fuel : Nat}
    {auth : Authenticator}
    {handshakeHandler : HandshakeHandler}
    {backendTLSConfig : Bool}
    {authData : List UInt8}
    {client backend : σ}
    {clientCompress backendCompress : CompressAlgorithm × Int}
    (h : (handshakeFirstTimeBackend io fuel auth handshakeHandler backendTLSConfig authData client
      backend).1 = .ok (clientCompress, backendCompress)) :
    ∃ backendCapability backend₁ backend₂,
      readInitialHandshake io backend = (.ok backendCapability, backend₁) ∧
      verifyBackendCaps auth backendCapability = .ok () ∧
      writeAuthHandshake io auth backend₁ backendTLSConfig backendCapability unknownAuthPlugin
        authData 0 = .ok backend₂ ∧
      clientCompress = setCompress auth.capability auth.zstdLevel ∧
      backendCompress = setCompress (auth.capability &&& backendCapability) auth.zstdLevel := by
  unfold handshakeFirstTimeBackend at h
  split at h
  · cases h
  · cases h
  · rename_i backendCapability backend₁ hread
    split at h
    · cases h
    · rename_i hverify
      split at h
      · cases h
      · rename_i backend₂ hwrite
        split at h
        · cases h
        · rw [Except.ok.injEq, Prod.mk.injEq] at h
          exact ⟨backendCapability, backend₁, backend₂, hread, hverify, hwrite, h.1.symm, h.2.symm⟩

/-- The client's side of a first handshake: its first packet after the proxy's initial
handshake `initial` starts with `frontendCapability`, and the handshake response, that
packet or the one read after an SSL request, carries `authData`. -/
def ClientSent
    {σ : Type}
    (io : PacketIOMethods σ)
    (initial : List UInt8)
    (client : σ)
    (frontendCapability : Capability)
    (authData : List UInt8) : Prop :=
  ∃ pkt client₁ isSSL respPkt clientResp rest,
    io.ReadPacket (io.WritePacket client initial) = .ok (pkt, client₁) ∧
    uint32At pkt 0 = some frontendCapability ∧
    ParseSSLRequestOrHandshakeResp pkt = some isSSL ∧
    (if isSSL then readSSLResponse io frontendCapability client₁ else (.ok pkt, client₁)).1 =
      .ok respPkt ∧
    ParseHandshakeResponse respPkt = some (clientResp, rest) ∧ clientResp.AuthData = authData

/-- The backend's side of a first handshake: its first packet is an initial handshake of
capability `backendCapability`, and `writeAuthHandshake` then wrote it the packet of `resp`,
after the first 32 bytes of that packet as an SSL request where `enableTLS` is on. -/
def BackendSent
    {σ : Type}
    (io : PacketIOMethods σ)
    (auth : Authenticator)
    (backendTLSConfig : Bool)
    (backend : σ)
    (backendCapability : Capability)
    (authData : List UInt8)
    (resp : HandshakeResp)
    (enableTLS : Bool) : Prop :=
  ∃ pkt backend₁ initialHandshake respPkt,
    io.ReadPacket backend = .ok (pkt, backend₁) ∧
    ParseInitialHandshake pkt = some initialHandshake ∧
    initialHandshake.Capability = backendCapability ∧
    MakeHandshakeResponse resp = some respPkt ∧
    writeAuthHandshake io auth backend₁ backendTLSConfig backendCapability unknownAuthPlugin authData 0 =
      .ok (io.WritePacket (if enableTLS then io.WritePacket backend₁ (respPkt.take 32) else backend₁)
        respPkt)

/-- A first handshake that ends with the backend's OK: the client sent its capability and
auth data, the client had `ClientProtocol41`, the authenticator keeps the shared
capability, and the backend half ended with OK. -/
theorem handshakeFirstTime_ok
    {σ : Type}
    {io : PacketIOMethods σ}
    {Collation : UInt8}
    {notSupportedAuthMode : MyError}
    {fuel : Nat}
    {auth auth' : Authenticator}
    {handshakeHandler : HandshakeHandler}
    {frontendTLSConfig backendTLSConfig : Bool}
    {salt : List UInt8}
    {cid : UInt64}
    {client backend : σ}
    {clientCompress backendCompress : CompressAlgorithm × Int}
    (h : (handshakeFirstTime io Collation notSupportedAuthMode fuel auth handshakeHandler
      frontendTLSConfig backendTLSConfig salt cid client backend).1 =
        .ok (auth', clientCompress, backendCompress)) :
    ∃ frontendCapability authData client₁,
      ClientSent io (MakeInitialHandshake Collation
          (proxyCapability handshakeHandler.GetCapability frontendTLSConfig) salt AuthNativePassword
          handshakeHandler.GetServerVersion cid) client frontendCapability authData ∧
      frontendCapability &&& requiredFrontendCaps = requiredFrontendCaps ∧
      auth'.capability = sharedCapability frontendCapability
        (proxyCapability handshakeHandler.GetCapability frontendTLSConfig) ∧
      auth'.requireBackendTLS = auth.requireBackendTLS ∧
      (handshakeFirstTimeBackend io fuel auth' handshakeHandler backendTLSConfig authData client₁
        backend).1 = .ok (clientCompress, backendCompress) := by
  unfold handshakeFirstTime at h
  dsimp only at h
  split at h
  · cases h
  · rename_i pkt client₁ hread
    split at h
    · rename_i isSSL frontendCapability hssl hcap
      split at h
      · cases h
      · rename_i respPkt client₂ hresponse
        split at h
        · cases h
        · rename_i hrequired
          simp only [bne_iff_ne, ne_eq, Decidable.not_not] at hrequired
          split at h
          · cases h
          · rename_i clientResp rest hparse
            split at h
            · cases h
            · split at h
              · cases h
              · rename_i hbackend
                rw [Except.ok.injEq, Prod.mk.injEq, Prod.mk.injEq] at h
                obtain ⟨rfl, rfl, rfl⟩ := h
                refine ⟨frontendCapability, clientResp.AuthData, client₂, ?_, hrequired, rfl, rfl,
                  by rw [hbackend]⟩
                exact ⟨pkt, client₁, isSSL, respPkt, clientResp, rest, hread, hcap, hssl,
                  by rw [hresponse], hparse, rfl⟩
    · cases h

/-- What a first handshake that ends with the backend's OK has agreed with a client of
capability `frontendCapability` and a backend of capability `backendCapability`, having
sent the backend the response `resp`, with TLS on where `enableTLS` says. -/
structure Negotiated
    (handlerCapability : Capability)
    (frontendTLSConfig backendTLSConfig : Bool)
    (auth : Authenticator)
    (frontendCapability backendCapability : Capability)
    (resp : HandshakeResp)
    (enableTLS : Bool)
    (clientCompress backendCompress : CompressAlgorithm × Int) : Prop where
  protocol41 : 9 ∈ capabilitySet frontendCapability
  shared : capabilitySet auth.capability = capabilitySet frontendCapability ∩
    capabilitySet (proxyCapability handlerCapability frontendTLSConfig) ∪ {19}
  deprecateEOF : 24 ∈ capabilitySet auth.capability → 24 ∈ capabilitySet backendCapability
  backendSSL : auth.requireBackendTLS = true → 11 ∈ capabilitySet backendCapability
  response : capabilitySet resp.Capability \ {11} =
    (capabilitySet auth.capability ∩ capabilitySet backendCapability ∪
      (if 0 < auth.attrs.entries.length then {20} else ∅)) \ {11}
  responseSSL : 11 ∈ capabilitySet resp.Capability ↔ enableTLS = true
  tls : enableTLS = true ↔ auth.requireBackendTLS = true ∨
    11 ∈ capabilitySet auth.capability ∧ 11 ∈ capabilitySet backendCapability ∧
      backendTLSConfig = true
  clientCompress : clientCompress = setCompress auth.capability auth.zstdLevel
  backendCompress : backendCompress = setCompress resp.Capability auth.zstdLevel

/-- The capability negotiation of a first handshake that ends with the backend's OK, over
the packets the two parties sent: the client's first packet gave `frontendCapability` and
its handshake response `authData`, the backend's initial handshake `backendCapability`,
and the proxy wrote the backend the response `resp`, with an SSL request before it where
`enableTLS` is on.  The client's `ClientProtocol41` was required; the proxy keeps the
flags the client and the advertised capability share, with `ClientPluginAuth`; a client's
`ClientDeprecateEOF` is the backend's too; the backend is sent the shared flags it has,
`ClientConnectAttrs` with attributes, and `ClientSSL` exactly where TLS is used; and each
end compresses as the capability it was given selects. -/
theorem handshakeFirstTime_negotiated
    {σ : Type}
    {io : PacketIOMethods σ}
    {Collation : UInt8}
    {notSupportedAuthMode : MyError}
    {fuel : Nat}
    {auth auth' : Authenticator}
    {handshakeHandler : HandshakeHandler}
    {frontendTLSConfig backendTLSConfig : Bool}
    {salt : List UInt8}
    {cid : UInt64}
    {client backend : σ}
    {clientCompress backendCompress : CompressAlgorithm × Int}
    (h : (handshakeFirstTime io Collation notSupportedAuthMode fuel auth handshakeHandler
      frontendTLSConfig backendTLSConfig salt cid client backend).1 =
        .ok (auth', clientCompress, backendCompress)) :
    ∃ frontendCapability backendCapability authData resp enableTLS,
      ClientSent io (MakeInitialHandshake Collation
          (proxyCapability handshakeHandler.GetCapability frontendTLSConfig) salt AuthNativePassword
          handshakeHandler.GetServerVersion cid) client frontendCapability authData ∧
      BackendSent io auth' backendTLSConfig backend backendCapability authData resp enableTLS ∧
      authHandshakeResp auth' backendTLSConfig backendCapability unknownAuthPlugin authData 0 =
        .ok (resp, enableTLS) ∧
      Negotiated handshakeHandler.GetCapability frontendTLSConfig backendTLSConfig auth'
        frontendCapability backendCapability resp enableTLS clientCompress backendCompress := by
  obtain ⟨frontendCapability, authData, client₁, hclientSent, hrequired, hshared, hreq, hbackend⟩ :=
    handshakeFirstTime_ok h
  obtain ⟨backendCapability, backend₁, backend₂, hread, hverify, hwrite, hclient, hbackendCompress⟩ :=
    handshakeFirstTimeBackend_ok hbackend
  obtain ⟨resp, enableTLS, respPkt, hresp, hpkt, rfl⟩ := writeAuthHandshake_ok hwrite
  obtain ⟨pkt, initialHandshake, hreadPkt, hparse, hcap⟩ := readInitialHandshake_ok hread
  have hbackendSent : BackendSent io auth' backendTLSConfig backend backendCapability authData resp
      enableTLS :=
    ⟨pkt, backend₁, initialHandshake, respPkt, hreadPkt, hparse, hcap, hpkt, hwrite⟩
  obtain ⟨hverifyEOF, hverifySSL⟩ := (verifyBackendCaps_eq_ok auth' backendCapability).mp hverify
  obtain ⟨hrespCap, hrespSSL, htls⟩ := authHandshakeResp_eq_ok hresp
  have hzero : capabilitySet 0 = ∅ := (eq_zero_iff_capabilitySet 0).mp rfl
  rw [hzero, Finset.union_empty] at hrespCap
  refine ⟨frontendCapability, backendCapability, authData, resp, enableTLS, hclientSent, hbackendSent,
    hresp, ?_⟩
  exact {
    protocol41 := by
      have h9 := congrArg (9 ∈ capabilitySet ·) hrequired
      simp only [requiredFrontendCaps, capabilitySet_and] at h9
      simpa [show capabilitySet ClientProtocol41 = {9} by decide] using h9
    shared := by rw [hshared, capabilitySet_sharedCapability]
    deprecateEOF := hverifyEOF
    backendSSL := hverifySSL
    response := hrespCap
    responseSSL := hrespSSL
    tls := htls
    clientCompress := hclient
    backendCompress := by
      -- the compression flags are neither `ClientSSL` nor `ClientConnectAttrs`, so the
      -- response has them where the shared capability and the backend do
      rw [hbackendCompress, setCompress_eq, setCompress_eq]
      simp only [authHandshakeResp_flag hresp 5 (by decide) (by decide),
        authHandshakeResp_flag hresp 26 (by decide) (by decide)] }

/-- A client without TLS that logs in as `root`. -/
def rootLogin : HandshakeResp where
  Attrs := ∅
  User := ascii "root"
  DB := []
  AuthPlugin := AuthNativePassword
  AuthData := [1, 2, 3]
  Capability := ClientLongPassword ||| ClientProtocol41 ||| ClientSecureConnection |||
    ClientPluginAuth ||| ClientDeprecateEOF
  ZstdLevel := 0
  Collation := 46

/-- A TiDB backend that sends its initial handshake, then accepts. -/
def acceptingBackend : PacketQueue :=
  ⟨[MakeInitialHandshake 46 SupportedServerCapabilities (List.replicate 20 7) AuthNativePassword
      (ascii "8.0.11-TiDB") 1, [OKHeader, 0, 0, 2, 0, 0, 0]], []⟩

/-- The authenticator after `rootLogin`'s handshake. -/
def rootAuthenticator : Authenticator :=
  { freshAuthenticator with
    user := ascii "root"
    capability := sharedCapability rootLogin.Capability SupportedServerCapabilities
    collation := 46 }

theorem handshakeFirstTime_negotiated_rootLogin :
    (handshakeFirstTime queueMethods 46 ⟨1251, [], []⟩ 1 freshAuthenticator
        (DefaultHandshakeHandler (ascii "8.0.11-TiDB")) true false (List.replicate 20 7) 1
        ⟨[(MakeHandshakeResponse rootLogin).getD []], []⟩ acceptingBackend).1 =
        .ok (rootAuthenticator, (.CompressionNone, 0), (.CompressionNone, 0)) ∧
      ∃ frontendCapability backendCapability authData resp enableTLS,
        ClientSent queueMethods (MakeInitialHandshake 46
            (proxyCapability (DefaultHandshakeHandler (ascii "8.0.11-TiDB")).GetCapability true)
            (List.replicate 20 7) AuthNativePassword
            (DefaultHandshakeHandler (ascii "8.0.11-TiDB")).GetServerVersion 1)
          ⟨[(MakeHandshakeResponse rootLogin).getD []], []⟩ frontendCapability authData ∧
        BackendSent queueMethods rootAuthenticator false acceptingBackend backendCapability authData
          resp enableTLS ∧
        authHandshakeResp rootAuthenticator false backendCapability unknownAuthPlugin authData 0 =
          .ok (resp, enableTLS) ∧
        Negotiated SupportedServerCapabilities true false rootAuthenticator frontendCapability
          backendCapability resp enableTLS (.CompressionNone, 0) (.CompressionNone, 0) :=
  have hrun : (handshakeFirstTime queueMethods 46 ⟨1251, [], []⟩ 1 freshAuthenticator
      (DefaultHandshakeHandler (ascii "8.0.11-TiDB")) true false (List.replicate 20 7) 1
      ⟨[(MakeHandshakeResponse rootLogin).getD []], []⟩ acceptingBackend).1 =
      .ok (rootAuthenticator, (.CompressionNone, 0), (.CompressionNone, 0)) := by
    rfl
  ⟨hrun, handshakeFirstTime_negotiated hrun⟩

end Backend
end TiProxy
