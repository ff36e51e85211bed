import TiProxy.Net.Interface

/-!
# The two authentication relays

After the proxy has sent the backend its handshake response (first connection) or
its `COM_CHANGE_USER` request, the backend and the client authenticate through the
proxy.  Two loops relay that exchange:

* the loop of `Authenticator.handshakeFirstTime` (`pkg/proxy/backend/authenticator.go`),
  which remembers the plugin an AuthSwitchRequest names and lets the
  `caching_sha2_password` fast-auth-success packet `0x01 0x03` through without
  waiting for the client;
* the loop of `CmdProcessor.forwardChangeUserCmd`
  (`pkg/proxy/backend/cmd_processor_exec.go`), which forwards one client packet after
  every server packet that is neither OK nor ERR.

Both are written over the `PacketIO` interface; the results are stated for ends that
are packet queues (`Net.Interface`).  Each loop returns its error together with both
ends, the state-passing form of the Go code's side effects on `clientIO` and
`backendIO`.

`AuthExchange` describes a well-formed server-side exchange: each server packet with
the client's answer, `none` when the client sends nothing, and the result the relay
should return.

**Results.**
* `handshakeLoop_exchange`: the first-handshake loop relays every well-formed
  exchange exactly and returns its result.
* `changeUserLoop_exchange`: the change-user loop does the same on every exchange
  without a fast-auth-success packet.
* `changeUserLoop_fastAuthSuccess`: on an exchange with one, the change-user loop
  waits for a client packet the client never sends and the OK is not relayed.
-/

namespace TiProxy
namespace Backend

open Net

/-- The errors of the relays: a connection error, the server's ERR packet (as
`handleHandshakeError` and `handleErrorPacket` turn it into an error), the
handshake handler's `goto RECONNECT`, and a Go index or slice out of range. -/
inductive AuthError where
  | io (err : PacketError)
  | mysql (pkt : List UInt8)
  | reconnect
  | indexOutOfRange
deriving DecidableEq, Repr

/-- `AuthCachingSha2Password`. -/
def AuthCachingSha2Password : List UInt8 :=
  asciiBytes "caching_sha2_password"

/-- The plugin name of an AuthSwitchRequest whose bytes after the header are `body`:
`serverPkt[1 : bytes.IndexByte(serverPkt[1:], 0)+1]`, out of range without a `0`. -/
def switchPluginName
    (body : List UInt8) : Option (List UInt8) :=
  if (0 : UInt8) ∈ body then some (body.takeWhile (fun b => b != 0)) else none

section Relays

variable {σ : Type}
variable (io : PacketIOMethods σ)

/-- `forwardMsg(srcIO, destIO)`: read a packet from `src` and write it to `dest`;
returns the packet, then `src` and `dest`. -/
def forwardMsg
    (src dest : σ) : Except PacketError (List UInt8 × σ × σ) :=
  match io.ReadPacket src with
  | .error err => .error err
  | .ok (data, src) => .ok (data, src, io.WritePacket dest data)

/-- `forwardOnePacket(destIO, srcIO, flush)`: the same relay of one packet, with the
destination first; returns the packet, then `src` and `dest`. -/
def forwardOnePacket
    (dest src : σ) : Except PacketError (List UInt8 × σ × σ) :=
  forwardMsg io src dest

/-- The relay loop of `handshakeFirstTime`, with the plugin name the last
AuthSwitchRequest named.  `HandleHandshakeErr` is the handshake handler's decision to
reconnect on an ERR packet. -/
def handshakeLoop
    (HandleHandshakeErr : List UInt8 → Bool) :
    Nat → List UInt8 → σ → σ → Except AuthError Unit × σ × σ
  | 0, _, client, backend => (.error (.io .errReadConn), client, backend)
  | fuel + 1, pluginName, client, backend =>
      match io.ReadPacket backend with
      | .error err => (.error (.io err), client, backend)
      | .ok ([], backend) => (.error .indexOutOfRange, client, backend)
      | .ok (first :: body, backend) =>
          if first == ErrHeader && HandleHandshakeErr (first :: body) then
            (.error .reconnect, client, backend)
          else
            let client := io.WritePacket client (first :: body)
            if first == ErrHeader then
              (.error (.mysql (first :: body)), client, backend)
            else if first == OKHeader then
              (.ok (), client, backend)
            else if first == AuthSwitchHeader then
              match switchPluginName body with
              | none => (.error .indexOutOfRange, client, backend)
              | some pluginName =>
                  match forwardMsg io client backend with
                  | .error err => (.error (.io err), client, backend)
                  | .ok (_, client, backend) =>
                      handshakeLoop HandleHandshakeErr fuel pluginName client backend
            else if first == 1 && pluginName == AuthCachingSha2Password && body == [3] then
              -- caching_sha2_password fast path: the client sends nothing
              handshakeLoop HandleHandshakeErr fuel pluginName client backend
            else
              match forwardMsg io client backend with
              | .error err => (.error (.io err), client, backend)
              | .ok (_, client, backend) =>
                  handshakeLoop HandleHandshakeErr fuel pluginName client backend

/-- The relay loop of `forwardChangeUserCmd`. -/
def changeUserLoop :
    Nat → σ → σ → Except AuthError Unit × σ × σ
  | 0, client, backend => (.error (.io .errReadConn), client, backend)
  | fuel + 1, client, backend =>
      match forwardOnePacket io client backend with
      | .error err => (.error (.io err), client, backend)
      | .ok ([], backend, client) => (.error .indexOutOfRange, client, backend)
      | .ok (first :: body, backend, client) =>
          if first == OKHeader then
            (.ok (), client, backend)
          else if first == ErrHeader then
            (.error (.mysql (first :: body)), client, backend)
          else
            match forwardOnePacket io backend client with
            | .error err => (.error (.io err), client, backend)
            | .ok (_, client, backend) => changeUserLoop fuel client backend

end Relays

/-! ### Well-formed exchanges -/

/-- One server packet of an exchange and the client's answer to it. -/
abbrev AuthStep := List UInt8 × Option (List UInt8)

/-- A well-formed server-side authentication exchange in the plugin `plugin`, and
the result the relay returns at its end: an OK or ERR packet last, before it
AuthSwitchRequests (which change the plugin) and AuthMoreData packets, all answered
by the client except the fast-auth success of `caching_sha2_password`. -/
inductive AuthExchange : List UInt8 → List AuthStep → Except AuthError Unit → Prop
  | ok {plugin body : List UInt8} :
      AuthExchange plugin [(OKHeader :: body, none)] (.ok ())
  | err {plugin body : List UInt8} :
      AuthExchange plugin [(ErrHeader :: body, none)] (.error (.mysql (ErrHeader :: body)))
  | authSwitch {plugin name salt reply : List UInt8} {rest : List AuthStep} {result} :
      (0 : UInt8) ∉ name → AuthExchange name rest result →
      AuthExchange plugin ((AuthSwitchHeader :: (name ++ 0 :: salt), some reply) :: rest) result
  | fastAuthSuccess {rest : List AuthStep} {result} :
      AuthExchange AuthCachingSha2Password rest result →
      AuthExchange AuthCachingSha2Password (([1, 3], none) :: rest) result
  | authMoreData {plugin body reply : List UInt8} {rest : List AuthStep} {result} :
      ¬ (plugin = AuthCachingSha2Password ∧ body = [3]) → AuthExchange plugin rest result →
      AuthExchange plugin ((1 :: body, some reply) :: rest) result

/-- The packets the server sends. -/
def serverPackets
    (ex : List AuthStep) : List (List UInt8) :=
  ex.map Prod.fst

/-- The packets the client sends. -/
def clientPackets
    (ex : List AuthStep) : List (List UInt8) :=
  ex.filterMap Prod.snd

@[simp] theorem serverPackets_cons
    (st : AuthStep)
    (ex : List AuthStep) :
    serverPackets (st :: ex) = st.1 :: serverPackets ex := by
  rfl

@[simp] theorem clientPackets_cons_some
    (pkt reply : List UInt8)
    (ex : List AuthStep) :
    clientPackets ((pkt, some reply) :: ex) = reply :: clientPackets ex := by
  rfl

@[simp] theorem clientPackets_cons_none
    (pkt : List UInt8)
    (ex : List AuthStep) :
    clientPackets ((pkt, none) :: ex) = clientPackets ex := by
  rfl

/-- The name of an AuthSwitchRequest is read up to its terminator. -/
theorem switchPluginName_append
    {name : List UInt8}
    (hname : (0 : UInt8) ∉ name)
    (salt : List UInt8) :
    switchPluginName (name ++ 0 :: salt) = some name := by
  have htake : (name ++ 0 :: salt).takeWhile (fun b => b != 0) = name := by
    rw [List.takeWhile_append_of_pos (fun b hb => by simpa using ne_of_mem_of_not_mem hb hname)]
    simp
  simp [switchPluginName, htake]

/-! ### One server packet -/

section Steps

variable (HandleHandshakeErr : List UInt8 → Bool)
variable (client backend : PacketQueue)
variable {bs cs : List (List UInt8)}

/-- The first-handshake loop on an AuthSwitchRequest: the client's answer goes to the
backend and the loop goes on in the plugin the request names. -/
theorem handshakeLoop_authSwitch
    (fuel : Nat)
    (pluginName : List UInt8)
    {name salt reply : List UInt8}
    (hname : (0 : UInt8) ∉ name)
    (hb : backend.input = (AuthSwitchHeader :: (name ++ 0 :: salt)) :: bs)
    (hc : client.input = reply :: cs) :
    handshakeLoop queueMethods HandleHandshakeErr (fuel + 1) pluginName client backend =
      handshakeLoop queueMethods HandleHandshakeErr fuel name
        { input := cs, output := client.output ++ [AuthSwitchHeader :: (name ++ 0 :: salt)] }
        { input := bs, output := backend.output ++ [reply] } := by
  simp [handshakeLoop, queueMethods, hb, hc, forwardMsg, switchPluginName_append hname, AuthSwitchHeader,
    ErrHeader, OKHeader]

/-- The first-handshake loop on an answered AuthMoreData packet. -/
theorem handshakeLoop_authMoreData
    (fuel : Nat)
    (pluginName : List UInt8)
    {body reply : List UInt8}
    (hfast : ¬ (pluginName = AuthCachingSha2Password ∧ body = [3]))
    (hb : backend.input = (1 :: body) :: bs)
    (hc : client.input = reply :: cs) :
    handshakeLoop queueMethods HandleHandshakeErr (fuel + 1) pluginName client backend =
      handshakeLoop queueMethods HandleHandshakeErr fuel pluginName
        { input := cs, output := client.output ++ [1 :: body] }
        { input := bs, output := backend.output ++ [reply] } := by
  have hcond : (pluginName == AuthCachingSha2Password && body == [3]) = false := by
    simpa using hfast
  simp [handshakeLoop, queueMethods, hb, hc, forwardMsg, AuthSwitchHeader, ErrHeader, OKHeader, hcond]

/-- The first-handshake loop on the fast-auth success of `caching_sha2_password`:
nothing is read from the client. -/
theorem handshakeLoop_fastAuthSuccess
    (fuel : Nat)
    (hb : backend.input = [1, 3] :: bs) :
    handshakeLoop queueMethods HandleHandshakeErr (fuel + 1) AuthCachingSha2Password client
        backend =
      handshakeLoop queueMethods HandleHandshakeErr fuel AuthCachingSha2Password
        { client with output := client.output ++ [[1, 3]] }
        { backend with input := bs } := by
  simp [handshakeLoop, queueMethods, hb, AuthSwitchHeader, ErrHeader, OKHeader]

/-- The change-user loop on a server packet that is neither OK nor ERR: one client
packet goes to the backend. -/
theorem changeUserLoop_answered
    (fuel : Nat)
    {first : UInt8}
    {body reply : List UInt8}
    (hok : first ≠ OKHeader)
    (herr : first ≠ ErrHeader)
    (hb : backend.input = (first :: body) :: bs)
    (hc : client.input = reply :: cs) :
    changeUserLoop queueMethods (fuel + 1) client backend =
      changeUserLoop queueMethods fuel
        { input := cs, output := client.output ++ [first :: body] }
        { input := bs, output := backend.output ++ [reply] } := by
  simp [changeUserLoop, queueMethods, forwardOnePacket, forwardMsg, hb, hc, hok, herr]

end Steps

/-! ### Whole exchanges -/

section Exchanges

variable (HandleHandshakeErr : List UInt8 → Bool)

/-- The change-user loop relays every well-formed exchange without a fast-auth
success exactly as the first-handshake loop does. -/
theorem changeUserLoop_exchange
    {plugin : List UInt8}
    {ex : List AuthStep}
    {result : Except AuthError Unit}
    (hex : AuthExchange plugin ex result)
    (hno : ([1, 3], none) ∉ ex) :
    ∀ (fuel : Nat) (client backend : PacketQueue) (more more' : List (List UInt8)),
      ex.length ≤ fuel →
      client.input = clientPackets ex ++ more →
      backend.input = serverPackets ex ++ more' →
        changeUserLoop queueMethods fuel client backend =
          (result,
            { input := more, output := client.output ++ serverPackets ex },
            { input := more', output := backend.output ++ clientPackets ex }) := by
  induction hex with
  | ok =>
      intro fuel client backend more more' hfuel hc hb
      obtain ⟨fuel, rfl⟩ : ∃ f, fuel = f + 1 := ⟨fuel - 1, by simp at hfuel; omega⟩
      simp only [serverPackets, clientPackets, List.map_cons, List.map_nil, List.filterMap_cons,
        List.filterMap_nil, List.nil_append, List.singleton_append, List.append_nil] at hc hb ⊢
      simp [changeUserLoop, queueMethods, forwardOnePacket, forwardMsg, hb, ← hc, OKHeader]
  | err =>
      intro fuel client backend more more' hfuel hc hb
      obtain ⟨fuel, rfl⟩ : ∃ f, fuel = f + 1 := ⟨fuel - 1, by simp at hfuel; omega⟩
      simp only [serverPackets, clientPackets, List.map_cons, List.map_nil, List.filterMap_cons,
        List.filterMap_nil, List.nil_append, List.singleton_append, List.append_nil] at hc hb ⊢
      simp [changeUserLoop, queueMethods, forwardOnePacket, forwardMsg, hb, ← hc, OKHeader, ErrHeader]
  | @authSwitch plugin name salt reply rest result hname _ ih =>
      intro fuel client backend more more' hfuel hc hb
      obtain ⟨fuel, rfl⟩ : ∃ f, fuel = f + 1 := ⟨fuel - 1, by simp at hfuel; omega⟩
      rw [changeUserLoop_answered client backend fuel (by decide) (by decide) hb hc,
        ih (fun h => hno (List.mem_cons_of_mem _ h)) fuel _ _ more more' (by simpa using hfuel)
          rfl rfl]
      simp
  | fastAuthSuccess =>
      exact absurd List.mem_cons_self hno
  | @authMoreData plugin body reply rest result hfast _ ih =>
      intro fuel client backend more more' hfuel hc hb
      obtain ⟨fuel, rfl⟩ : ∃ f, fuel = f + 1 := ⟨fuel - 1, by simp at hfuel; omega⟩
      rw [changeUserLoop_answered client backend fuel (by decide) (by decide) hb hc,
        ih (fun h => hno (List.mem_cons_of_mem _ h)) fuel _ _ more more' (by simpa using hfuel)
          rfl rfl]
      simp

/-- The exchange of an uncached `caching_sha2_password` account, where the fast auth
fails (`0x01 0x04`) and the client answers with its password, relayed by the
change-user loop. -/
theorem changeUserLoop_exchange_fullAuth :
    AuthExchange [] [(AuthSwitchHeader :: (AuthCachingSha2Password ++ [0, 7]), some [9]),
        ([1, 4], some [2]), ([0, 0, 0, 2, 0, 0, 0], none)] (.ok ()) ∧
      ([1, 3], none) ∉ ([(AuthSwitchHeader :: (AuthCachingSha2Password ++ [0, 7]), some [9]),
        ([1, 4], some [2]), ([0, 0, 0, 2, 0, 0, 0], none)] : List AuthStep) ∧
      changeUserLoop queueMethods 3 ⟨[[9], [2]], []⟩
          ⟨[AuthSwitchHeader :: (AuthCachingSha2Password ++ [0, 7]), [1, 4], [0, 0, 0, 2, 0, 0, 0]],
            []⟩ =
        (.ok (),
          ⟨[], [AuthSwitchHeader :: (AuthCachingSha2Password ++ [0, 7]), [1, 4],
            [0, 0, 0, 2, 0, 0, 0]]⟩,
          ⟨[], [[9], [2]]⟩) := by
  have hname : (0 : UInt8) ∉ AuthCachingSha2Password := by decide
  have hfull : ¬ (AuthCachingSha2Password = AuthCachingSha2Password ∧ [(4 : UInt8)] = [3]) := by
    decide
  have hex : AuthExchange [] [(AuthSwitchHeader :: (AuthCachingSha2Password ++ [0, 7]), some [9]),
      ([1, 4], some [2]), ([0, 0, 0, 2, 0, 0, 0], none)] (.ok ()) :=
    AuthExchange.authSwitch hname (AuthExchange.authMoreData hfull AuthExchange.ok)
  have hno : ([1, 3], none) ∉ ([(AuthSwitchHeader :: (AuthCachingSha2Password ++ [0, 7]),
      some [9]), ([1, 4], some [2]), ([0, 0, 0, 2, 0, 0, 0], none)] : List AuthStep) := by
    decide
  exact ⟨hex, hno,
    changeUserLoop_exchange hex hno 3 ⟨[[9], [2]], []⟩
      ⟨[AuthSwitchHeader :: (AuthCachingSha2Password ++ [0, 7]), [1, 4], [0, 0, 0, 2, 0, 0, 0]], []⟩
      [] [] (by decide) rfl rfl⟩

end Exchanges

/-! ### The fast-auth success of caching_sha2_password -/

/-- The exchange of a cached `caching_sha2_password` account: an AuthSwitchRequest
to the plugin, the client's scramble, the fast-auth success `0x01 0x03` that the
client does not answer, and OK.  The first-handshake loop relays it and returns; the
change-user loop writes `0x01 0x03` to the client and then waits for a client packet
that never comes, so the OK is never relayed. -/
theorem changeUserLoop_fastAuthSuccess :
    AuthExchange [] [(AuthSwitchHeader :: (AuthCachingSha2Password ++ [0, 7]), some [9]),
        ([1, 3], none), ([0, 0, 0, 2, 0, 0, 0], none)] (.ok ()) ∧
      handshakeLoop queueMethods (fun _ => false) 3 [] ⟨[[9]], []⟩
          ⟨[AuthSwitchHeader :: (AuthCachingSha2Password ++ [0, 7]), [1, 3], [0, 0, 0, 2, 0, 0, 0]],
            []⟩ =
        (.ok (),
          ⟨[], [AuthSwitchHeader :: (AuthCachingSha2Password ++ [0, 7]), [1, 3],
            [0, 0, 0, 2, 0, 0, 0]]⟩,
          ⟨[], [[9]]⟩) ∧
      changeUserLoop queueMethods 3 ⟨[[9]], []⟩
          ⟨[AuthSwitchHeader :: (AuthCachingSha2Password ++ [0, 7]), [1, 3], [0, 0, 0, 2, 0, 0, 0]],
            []⟩ =
        (.error (.io .errReadConn),
          ⟨[], [AuthSwitchHeader :: (AuthCachingSha2Password ++ [0, 7]), [1, 3]]⟩,
          ⟨[[0, 0, 0, 2, 0, 0, 0]], [[9]]⟩) := by
  refine ⟨?_, by decide, by decide⟩
  have hname : (0 : UInt8) ∉ AuthCachingSha2Password := by decide
  exact AuthExchange.authSwitch hname (AuthExchange.fastAuthSuccess AuthExchange.ok)

end Backend
end TiProxy
