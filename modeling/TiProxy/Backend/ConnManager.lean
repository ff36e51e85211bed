import TiProxy.Backend.Authenticator

/-!
# Holding a request around a redirect

`BackendConnManager.ExecuteCmd` (`pkg/proxy/backend/backend_conn_mgr.go`) runs one
client request under the process lock.  `CmdProcessor.executeCmd`
(`cmd_processor_exec.go`) forwards it, or, when a redirect is waiting and the request is
a `BEGIN` that would end the transaction anyway, holds it and commits the transaction
on the old backend itself (`CmdProcessor.query`, `cmd_processor_query.go`).  Once the
transaction is over, the manager closes gracefully (`tryGracefulClose`) or migrates the
session (`tryRedirect`), and then sends the held request to the backend the session is
on.

The manager's fields and the two ends are passed along as state; the process lock makes
the run one sequential step.  What lies outside the manager is a parameter (`Env`): the
relay of a command and its response (`forwardCommand`), the result set reader of
`query`, the parsing of the session states, the dialling and second handshake of a
migration, and `parser.Normalize` behind `isBeginStmt`.  The model records what the
proxy does to the parties, in order, in `actions`: the statements it sends a backend
itself, the requests it forwards, the packets it writes to the client itself, the ends
it closes and the redirect results it reports.  Go keeps no such list; it is what the
results are stated on.

**Results.**
* `executeCmd_outcome`: the command processor forwards a request, or holds it and sends
  `COMMIT` to the old backend, answering the client itself only when that fails with a
  MySQL error.
* `tryRedirect_migration`, `closeOrRedirect_migration`: the actions of a redirect or a
  graceful close take one of the forms of `Migration`.
* `ExecuteCmd_heldRequestSpec`: the actions of one request, in the three forms that a
  forwarded, a failed held and a committed held request take.
* `ExecuteCmd_closing`: a connection that is closing takes no request.
* `HeldRequestSpec.answers_le_one`: the client receives at most one answer to it.
-/

namespace TiProxy

namespace Net

/-- `ServerStatusInTrans`. -/
def ServerStatusInTrans : UInt16 := 0x0001

/-- `ServerStatusCursorExists`. -/
def ServerStatusCursorExists : UInt16 := 0x0040

/-- `ServerStatusLastRowSend`. -/
def ServerStatusLastRowSend : UInt16 := 0x0080

/-- `MakeQueryPacket`. -/
def MakeQueryPacket (stmt : List UInt8) : List UInt8 := ComQuery :: stmt

/-- `ParseOKPacket`: the status after the affected rows and the insert id. -/
def ParseOKPacket (data : List UInt8) : Option UInt16 := do
  let pos := 1
  -- skip affected rows
  let pos := pos + (← SkipLengthEncodedInt (← GoBytes.sliceFrom data pos))
  -- skip insert id
  let pos := pos + (← SkipLengthEncodedInt (← GoBytes.sliceFrom data pos))
  LittleEndian.uint16 (← GoBytes.sliceFrom data pos)

/-- `ParseErrorPacket`: the code, the state after the `'#'` marker, and the message;
`none` where Go's slices run past the packet. -/
def ParseErrorPacket (data : List UInt8) : Option MyError := do
  let code ← LittleEndian.uint16 (← GoBytes.sliceFrom data 1)
  let state ← GoBytes.slice data 4 9
  let message ← GoBytes.sliceFrom data 9
  pure ⟨code, message, state⟩

end Net

namespace Backend

open Net GoBytes LittleEndian

/-! ### The command processor's status -/

/-- `StatusInTrans`. -/
def StatusInTrans : UInt32 := (1 : UInt32) <<< 0

/-- `StatusQuit`. -/
def StatusQuit : UInt32 := (1 : UInt32) <<< 1

/-- `StatusPrepareWaitExecute`. -/
def StatusPrepareWaitExecute : UInt32 := (1 : UInt32) <<< 2

/-- `StatusPrepareWaitFetch`. -/
def StatusPrepareWaitFetch : UInt32 := (1 : UInt32) <<< 3

/-- The fields of `CmdProcessor`. -/
structure CmdProcessor where
  preparedStmtStatus : AList (fun _ : Nat => UInt32)
  capability : Capability
  serverStatus : UInt32

namespace CmdProcessor

/-- `updateTxnStatus`. -/
def updateTxnStatus
    (cp : CmdProcessor)
    (serverStatus : UInt16) : CmdProcessor :=
  if serverStatus &&& ServerStatusInTrans > 0 then
    { cp with serverStatus := cp.serverStatus ||| StatusInTrans }
  else
    { cp with serverStatus := cp.serverStatus &&& ~~~StatusInTrans }

/-- `updatePrepStmtStatus`: `none` where the request is too short for its statement
id. -/
def updatePrepStmtStatus
    (cp : CmdProcessor)
    (request : List UInt8)
    (serverStatus : UInt16) : Option CmdProcessor := do
  let cmd ← request[0]?
  if cmd = ComStmtSendLongData ∨ cmd = ComStmtExecute ∨ cmd = ComStmtFetch ∨
      cmd = ComStmtReset ∨ cmd = ComStmtClose then
    let stmtID := (← uint32 (← slice request 1 5)).toNat
    let prepStmtStatus : UInt32 :=
      if cmd = ComStmtSendLongData then StatusPrepareWaitExecute
      else if cmd = ComStmtExecute then
        if serverStatus &&& ServerStatusCursorExists > 0 then StatusPrepareWaitFetch else 0
      else if cmd = ComStmtFetch then
        if serverStatus &&& ServerStatusLastRowSend == 0 then StatusPrepareWaitFetch else 0
      else 0
    if prepStmtStatus > 0 then
      pure { cp with preparedStmtStatus := cp.preparedStmtStatus.insert stmtID prepStmtStatus }
    else
      pure { cp with preparedStmtStatus := cp.preparedStmtStatus.erase stmtID }
  else if cmd = ComResetConnection ∨ cmd = ComChangeUser then
    pure { cp with preparedStmtStatus := ∅ }
  else
    pure cp

/-- `updateServerStatus`. -/
def updateServerStatus
    (cp : CmdProcessor)
    (request : List UInt8)
    (serverStatus : UInt16) : Option CmdProcessor :=
  (cp.updateTxnStatus serverStatus).updatePrepStmtStatus request serverStatus

/-- `handleOKPacket`. -/
def handleOKPacket
    (cp : CmdProcessor)
    (request response : List UInt8) : Option (UInt16 × CmdProcessor) := do
  let status ← ParseOKPacket response
  let cp ← cp.updateServerStatus request status
  pure (status, cp)

/-- `hasPendingPreparedStmts`. -/
def hasPendingPreparedStmts
    (cp : CmdProcessor) : Bool :=
  cp.preparedStmtStatus.entries.any fun e => e.2 > 0

/-- `finishedTxn`. -/
def finishedTxn
    (cp : CmdProcessor) : Bool :=
  if cp.serverStatus &&& (StatusInTrans ||| StatusQuit) > 0 then false
  else !cp.hasPendingPreparedStmts

/-- `needHoldRequest`, with `isBeginStmt` the test on the normalized query; `none` on
an empty request. -/
def needHoldRequest
    (isBeginStmt : List UInt8 → Bool)
    (cp : CmdProcessor)
    (request : List UInt8) : Option Bool := do
  let cmd ← request[0]?
  let data ← sliceFrom request 1
  -- BEGIN/START TRANSACTION statements cannot be prepared
  if cmd != ComQuery then pure false
  -- hold only while the session waits for the end of its transaction
  else if cp.serverStatus &&& StatusInTrans == 0 then pure false
  -- open result sets can still be fetched after the commit
  else if cp.hasPendingPreparedStmts then pure false
  else
    let data := if 0 < data.length ∧ data.getLast? = some 0 then data.dropLast else data
    pure (isBeginStmt data)

end CmdProcessor

/-! ### The manager -/

/-- `statusActive`. -/
def statusActive : Nat := 0

/-- `statusNotifyClose`: notified to close gracefully. -/
def statusNotifyClose : Nat := 1

/-- `statusClosing`: really closing. -/
def statusClosing : Nat := 2

/-- `statusClosed`. -/
def statusClosed : Nat := 3

/-- `sqlQueryState`. -/
def sqlQueryState : List UInt8 := ascii "SHOW SESSION_STATES"

/-- The statement `executeCmd` commits a transaction with. -/
def sqlCommit : List UInt8 := ascii "COMMIT"

/-- `fmt.Sprintf(sqlSetState, …)` of `initSessionStates`, after its two
`strings.ReplaceAll`: backslashes doubled, then quotes escaped. -/
def setSessionStates (sessionStates : List UInt8) : List UInt8 :=
  let sessionStates := sessionStates.flatMap fun b => if b = 92 then [92, 92] else [b]
  let sessionStates := sessionStates.flatMap fun b => if b = 39 then [92, 39] else [b]
  ascii "SET SESSION_STATES '" ++ sessionStates ++ ascii "'"

/-- The errors of a command. -/
inductive CmdError where
  /-- a connection error -/
  | io (err : PacketError)
  /-- the `*mysql.MyError` that `handleErrorPacket` makes of the backend's ERR packet -/
  | mysql (err : MyError)
  /-- `mysql.ErrMalformPacket` -/
  | malformPacket
  /-- `ErrTargetUnhealthy` -/
  | targetUnhealthy
  /-- a Go index or slice out of range, or a nil dereference -/
  | panic
  /-- an error of a party outside the manager -/
  | other (n : Nat)
deriving DecidableEq, Repr

/-- `pnet.IsMySQLError` on these errors: an `*mysql.MyError`. -/
def CmdError.IsMySQLError : CmdError → Bool
  | .mysql _ => true
  | _ => false

/-- The backend a redirect goes to. -/
structure BackendInst where
  Addr : List UInt8
  Healthy : Bool
deriving DecidableEq, Repr

/-- What the proxy does to the parties. -/
inductive Action where
  /-- a statement `CmdProcessor.query` sends the backend at `addr` -/
  | query (addr sql : List UInt8)
  /-- a client request `forwardCommand` relays to the backend at `addr` -/
  | forward (addr request : List UInt8)
  /-- a packet the manager writes to the client itself -/
  | toClient (pkt : List UInt8)
  /-- `clientIO.GracefulClose()` -/
  | closeClient
  /-- closing the backend connection at `addr` -/
  | closeBackend (addr : List UInt8)
  /-- the `redirectResult` sent to `redirectResCh` -/
  | redirectResult (fromAddr toAddr : List UInt8) (err : Option CmdError)
deriving DecidableEq, Repr

/-- The parties outside the manager. -/
structure Env (σ ρ : Type) where
  /-- `forwardCommand(clientIO, backendIO, request)` -/
  forwardCommand : CmdProcessor → σ → σ → List UInt8 →
    Except CmdError Unit × CmdProcessor × σ × σ
  /-- `readResultSet(packetIO, response)`: the rest of a result set -/
  readResultSet : CmdProcessor → σ → List UInt8 → Except CmdError ρ × σ
  /-- `result.GetStringByName` of the session states and the session token -/
  sessionStates : ρ → Except CmdError (List UInt8 × List UInt8)
  /-- `updateAuthInfoFromSessionStates`: the current database the states hold -/
  currentDB : List UInt8 → Except CmdError (Option (List UInt8))
  /-- `net.DialTimeout` to an address -/
  dial : List UInt8 → Except CmdError σ
  /-- `handshakeSecondTime` on a new connection, with the session token -/
  handshakeSecondTime : Authenticator → σ → List UInt8 → Except CmdError σ
  /-- `pnet.IsDisconnectError` and the other tests that close the client -/
  IsDisconnectError : CmdError → Bool
  /-- `isBeginStmt` on the query text -/
  isBeginStmt : List UInt8 → Bool

/-- The fields of `BackendConnManager` a command reads and sets, and the record of
what the proxy did. -/
structure BackendConnManager (σ : Type) where
  closeStatus : Nat
  redirectInfo : Option BackendInst
  clientIO : σ
  backendIO : σ
  /-- the address of `curBackend`, `ServerAddr()` -/
  curBackend : List UInt8
  cmdProcessor : CmdProcessor
  authenticator : Authenticator
  actions : List Action

section Run

variable {σ ρ : Type}
variable (io : PacketIOMethods σ)
variable (env : Env σ ρ)

/-- `CmdProcessor.query`: the result set, if the answer is one, and the first packet of
the answer. -/
def query
    (cp : CmdProcessor)
    ( packetIO : σ)
    (sql : List UInt8) : (Except CmdError (Option ρ) × List UInt8) × CmdProcessor × σ :=
  let request := MakeQueryPacket sql
  let packetIO := io.WritePacket packetIO request
  match io.ReadPacket packetIO with
  | .error err => ((.error (.io err), []), cp, packetIO)
  | .ok ([], packetIO) => ((.error .panic, []), cp, packetIO)
  | .ok (first :: rest, packetIO) =>
      if first == OKHeader then
        match cp.handleOKPacket request (first :: rest) with
        | none => ((.error .panic, first :: rest), cp, packetIO)
        | some (_, cp) => ((.ok none, first :: rest), cp, packetIO)
      else if first == ErrHeader then
        match ParseErrorPacket (first :: rest) with
        | none => ((.error .panic, first :: rest), cp, packetIO)
        | some err => ((.error (.mysql err), first :: rest), cp, packetIO)
      else if first == LocalInFileHeader then
        ((.error .malformPacket, first :: rest), cp, packetIO)
      else
        match env.readResultSet cp packetIO (first :: rest) with
        | (.error err, packetIO) => ((.error err, first :: rest), cp, packetIO)
        | (.ok rs, packetIO) => ((.ok (some rs), first :: rest), cp, packetIO)

/-- The first packet of the answer the backend at `packetIO` sends to the statement
`sql`, the packet `query` reads first; empty where that read fails.  Go keeps no such
value: it is what the results say the client is sent. -/
def firstReply
    ( packetIO : σ)
    (sql : List UInt8) : List UInt8 :=
  match io.ReadPacket (io.WritePacket packetIO (MakeQueryPacket sql)) with
  | .ok (pkt, _) => pkt
  | .error _ => []

/-- `CmdProcessor.executeCmd`: whether the request is held, with the backend at
`backendAddr` and the actions taken.  A held request is not sent anywhere: the
transaction is committed instead, and a failed commit's ERR packet goes to the client
in its place. -/
def executeCmd
    (cp : CmdProcessor)
    (request : List UInt8)
    ( clientIO backendIO : σ)
    (backendAddr : List UInt8)
    (waitingRedirect : Bool) :
    Except CmdError Bool × CmdProcessor × σ × σ × List Action :=
  match (if waitingRedirect then cp.needHoldRequest env.isBeginStmt request else some false) with
  | none => (.error .panic, cp, clientIO, backendIO, [])
  | some true =>
      match query io env cp backendIO sqlCommit with
      | ((.error err, response), cp, backendIO) =>
          if err.IsMySQLError then
            (.error err, cp, io.WritePacket clientIO response, backendIO,
              [.query backendAddr sqlCommit, .toClient response])
          else
            (.error err, cp, clientIO, backendIO, [.query backendAddr sqlCommit])
      | ((.ok _, _), cp, backendIO) =>
          (.ok true, cp, clientIO, backendIO, [.query backendAddr sqlCommit])
  | some false =>
      match env.forwardCommand cp clientIO backendIO request with
      | (.error err, cp, clientIO, backendIO) =>
          (.error err, cp, clientIO, backendIO, [.forward backendAddr request])
      | (.ok (), cp, clientIO, backendIO) =>
          (.ok false, cp, clientIO, backendIO, [.forward backendAddr request])

/-- `tryGracefulClose`. -/
def tryGracefulClose
    (mgr : BackendConnManager σ) : BackendConnManager σ :=
  if mgr.closeStatus != statusNotifyClose then mgr
  else if !mgr.cmdProcessor.finishedTxn then mgr
  else
    -- closing the client IO closes the whole connection
    { mgr with actions := mgr.actions ++ [.closeClient], closeStatus := statusClosing }

/-- The end of `tryRedirect`, deferred in Go: the signal is cleared and the result
reported. -/
def BackendConnManager.finishRedirect
    (mgr : BackendConnManager σ)
    (fromAddr toAddr : List UInt8)
    (err : Option CmdError) : BackendConnManager σ :=
  { mgr with
    redirectInfo := none
    actions := mgr.actions ++ [.redirectResult fromAddr toAddr err] }

/-- `updateAuthInfoFromSessionStates`: the current database the states hold, if they
hold one, becomes the authenticator's. -/
def updateAuthInfoFromSessionStates
    (mgr : BackendConnManager σ)
    (sessionStates : List UInt8) : Except CmdError (BackendConnManager σ) :=
  match env.currentDB sessionStates with
  | .error err => .error err
  | .ok none => .ok mgr
  | .ok (some currentDB) =>
      .ok { mgr with authenticator := { mgr.authenticator with dbname := currentDB } }

/-- The migration of `tryRedirect` after the session states are read: the current
database, the new connection and its session states.  A new connection that fails the
handshake or refuses the states is closed again. -/
def migrate
    (mgr : BackendConnManager σ)
    (fromAddr toAddr sessionStates sessionToken : List UInt8) : BackendConnManager σ :=
  match updateAuthInfoFromSessionStates env mgr sessionStates with
  | .error err => mgr.finishRedirect fromAddr toAddr (some err)
  | .ok mgr =>
      match env.dial toAddr with
      | .error err => mgr.finishRedirect fromAddr toAddr (some err)
      | .ok newBackendIO =>
          match env.handshakeSecondTime mgr.authenticator newBackendIO sessionToken with
          | .error err =>
              { mgr with actions := mgr.actions ++ [Action.closeBackend toAddr] }.finishRedirect
                fromAddr toAddr (some err)
          | .ok newBackendIO =>
              let sql := setSessionStates sessionStates
              match query io env mgr.cmdProcessor newBackendIO sql with
              | ((.error err, _), cp, _) =>
                  { mgr with
                    cmdProcessor := cp
                    actions := mgr.actions ++ [Action.query toAddr sql, .closeBackend toAddr] }.finishRedirect
                    fromAddr toAddr (some err)
              | ((.ok _, _), cp, newBackendIO) =>
                  { mgr with
                    cmdProcessor := cp
                    backendIO := newBackendIO
                    curBackend := toAddr
                    actions := mgr.actions ++ [Action.query toAddr sql, .closeBackend fromAddr] }.finishRedirect
                    fromAddr toAddr none

/-- `tryRedirect`. -/
def tryRedirect
    (mgr : BackendConnManager σ) : BackendConnManager σ :=
  match mgr.redirectInfo with
  -- no redirection signal, or the redirection is finished
  | none => mgr
  | some backendInst =>
      -- the redirection is retried after the next command
      if !mgr.cmdProcessor.finishedTxn then mgr
      else
        let fromAddr := mgr.curBackend
        let toAddr := backendInst.Addr
        -- a closing connection still reports a result, to recover the connection scores
        if mgr.closeStatus ≥ statusNotifyClose then mgr.finishRedirect fromAddr toAddr none
        else if !backendInst.Healthy then
          mgr.finishRedirect fromAddr toAddr (some .targetUnhealthy)
        else
          -- querySessionStates on the old backend
          match query io env mgr.cmdProcessor mgr.backendIO sqlQueryState with
          | ((res, _), cp, backendIO) =>
              let mgr := { mgr with
                cmdProcessor := cp
                backendIO
                actions := mgr.actions ++ [Action.query fromAddr sqlQueryState] }
              let states : Except CmdError (List UInt8 × List UInt8) := match res with
                | .error err => .error err
                -- `GetStringByName` on the nil result of an OK packet
                | .ok none => .error .panic
                | .ok (some rs) => env.sessionStates rs
              match states with
              | .error err =>
                  -- a broken backend connection closes the client connection too
                  let mgr := if env.IsDisconnectError err then
                      { mgr with actions := mgr.actions ++ [Action.closeClient] }
                    else mgr
                  mgr.finishRedirect fromAddr toAddr (some err)
              | .ok (sessionStates, sessionToken) =>
                  migrate io env mgr fromAddr toAddr sessionStates sessionToken

/-- The end of a transaction in `ExecuteCmd`: a graceful close that was asked for, or
the redirect that waits for it. -/
def closeOrRedirect
    (mgr : BackendConnManager σ)
    (waitingRedirect : Bool) : BackendConnManager σ :=
  if mgr.cmdProcessor.finishedTxn then
    if mgr.closeStatus == statusNotifyClose then tryGracefulClose mgr
    else if waitingRedirect then tryRedirect io env mgr
    else mgr
  else mgr

/-- What `ExecuteCmd` does after a command that succeeded, by the command:
`COM_QUIT` ends it, `COM_SET_OPTION` turns multi-statements on or off, and
`COM_CHANGE_USER` changes the authenticator's user. -/
def afterCmd
    (cmd : UInt8)
    (request : List UInt8)
    (mgr : BackendConnManager σ) : Except CmdError (Option (BackendConnManager σ)) :=
  if cmd = ComQuit then .ok none
  else if cmd = ComSetOption then
    match sliceFrom request 1 >>= uint16 with
    | none => .error .panic
    | some 0 =>
        .ok (some { mgr with
          authenticator := { mgr.authenticator with
            capability := mgr.authenticator.capability ||| ClientMultiStatements }
          cmdProcessor := { mgr.cmdProcessor with
            capability := mgr.cmdProcessor.capability ||| ClientMultiStatements } })
    | some 1 =>
        .ok (some { mgr with
          authenticator := { mgr.authenticator with
            capability := mgr.authenticator.capability &&& ~~~ClientMultiStatements }
          cmdProcessor := { mgr.cmdProcessor with
            capability := mgr.cmdProcessor.capability &&& ~~~ClientMultiStatements } })
    | some _ => .error .malformPacket
  else if cmd = ComChangeUser then
    -- the command processor has parsed the request already
    match ParseChangeUser request mgr.authenticator.capability with
    | none => .error .panic
    | some (req, _) =>
        .ok (some { mgr with
          authenticator := { mgr.authenticator with
            user := req.User, dbname := req.DB, attrs := req.Attrs } })
  else .ok (some mgr)

/-- `BackendConnManager.ExecuteCmd`. -/
def ExecuteCmd
    (mgr : BackendConnManager σ)
    (request : List UInt8) : Except CmdError Unit × BackendConnManager σ :=
  match request with
  | [] => (.error .malformPacket, mgr)
  | cmd :: _ =>
      -- an accepted request is part of the transaction: only a real close stops it
      if mgr.closeStatus ≥ statusClosing then (.ok (), mgr)
      else
        let waitingRedirect := mgr.redirectInfo.isSome
        match executeCmd io env mgr.cmdProcessor request mgr.clientIO mgr.backendIO
            mgr.curBackend waitingRedirect with
        | (res, cp, clientIO, backendIO, actions) =>
            let mgr := { mgr with
              cmdProcessor := cp
              clientIO
              backendIO
              actions := mgr.actions ++ actions }
            match res with
            | .error err =>
                -- a MySQL error may still have changed the status, as multi-statements do
                if !err.IsMySQLError then (.error err, mgr)
                else finish mgr request waitingRedirect false (some err)
            | .ok holdRequest =>
                match afterCmd cmd request mgr with
                | .error err => (.error err, mgr)
                | .ok none => (.ok (), mgr)
                | .ok (some mgr) => finish mgr request waitingRedirect holdRequest none
where
  /-- The end of `ExecuteCmd`: close or redirect once the transaction is over, then
  execute the held request, on whichever backend the session is on. -/
  finish
      (mgr : BackendConnManager σ)
      (request : List UInt8)
      (waitingRedirect holdRequest : Bool)
      (err : Option CmdError) : Except CmdError Unit × BackendConnManager σ :=
    let mgr := closeOrRedirect io env mgr waitingRedirect
    if holdRequest && mgr.closeStatus < statusNotifyClose then
      match executeCmd io env mgr.cmdProcessor request mgr.clientIO mgr.backendIO
          mgr.curBackend false with
      | (res, cp, clientIO, backendIO, actions) =>
          (res.map fun _ => (), { mgr with
            cmdProcessor := cp
            clientIO
            backendIO
            actions := mgr.actions ++ actions })
    else
      match err with
      | some err => (.error err, mgr)
      | none => (.ok (), mgr)

end Run

/-! ### What a command may do to the parties

The abstract side: the action sequences the manager may produce for one request, by how
the request ends.  `Migration` is what closing or redirecting after a command may do,
`HeldRequestSpec` what happens to the request itself around it. -/

/-- What `migrate` may do once the session states are read from the old backend, with
the backend the session is on afterwards. -/
inductive AfterStates (oldAddr toAddr : List UInt8) : List UInt8 → List Action → Prop
  /-- the states were not read or applied, or the new backend was not reached or failed
  the handshake: the client is closed with a broken old backend, and a new connection
  that failed the handshake is closed -/
  | failed
      (closed : List Action) (err : CmdError)
      (hclosed : closed = [] ∨ closed = [.closeClient] ∨ closed = [.closeBackend toAddr]) :
      AfterStates oldAddr toAddr oldAddr (closed ++ [.redirectResult oldAddr toAddr (some err)])
  /-- the new backend refused the session states and is closed again -/
  | rejected
      (sessionStates : List UInt8) (err : CmdError) :
      AfterStates oldAddr toAddr oldAddr
        [.query toAddr (setSessionStates sessionStates), .closeBackend toAddr,
          .redirectResult oldAddr toAddr (some err)]
  /-- the session moved, and the old backend is closed -/
  | moved
      (sessionStates : List UInt8) :
      AfterStates oldAddr toAddr toAddr
        [.query toAddr (setSessionStates sessionStates), .closeBackend oldAddr,
          .redirectResult oldAddr toAddr none]

/-- What closing gracefully or redirecting may do after a command on the backend at
`oldAddr`, with the backend the session is on afterwards. -/
inductive Migration (oldAddr : List UInt8) : List UInt8 → List Action → Prop
  /-- nothing: the transaction is not over, or nothing is waiting -/
  | stay :
      Migration oldAddr oldAddr []
  /-- a graceful close closes the client -/
  | gracefulClose :
      Migration oldAddr oldAddr [.closeClient]
  /-- a redirect given up before the session states are read -/
  | skipped
      (toAddr : List UInt8) (err : Option CmdError) :
      Migration oldAddr oldAddr [.redirectResult oldAddr toAddr err]
  /-- a redirect that asked the old backend for its session states -/
  | statesRead
      (toAddr newAddr : List UInt8) (R : List Action)
      (hR : AfterStates oldAddr toAddr newAddr R) :
      Migration oldAddr newAddr (.query oldAddr sqlQueryState :: R)

/-- The actions that answer the client: a forwarded request, or a packet written to the
client. -/
def Action.answers : Action → Bool
  | .forward _ _ | .toClient _ => true
  | _ => false

/-- What happens to one request on the backend at `oldAddr`, given whether it is held,
what `ExecuteCmd` returns, the backend `newAddr` the session is on afterwards and whether
the connection is closing then.  A request that is not held is forwarded to the old
backend.  A held one is answered by the commit's failure, which `ExecuteCmd` returns: the
client is sent `commitReply`, the first packet of the old backend's answer to the
`COMMIT`, for a MySQL error, and nothing for any other.  Otherwise, after the commit and
what closing or redirecting does, it is forwarded to the backend the session is now on
unless the connection closes. -/
inductive HeldRequestSpec (oldAddr newAddr request commitReply : List UInt8) (closing : Bool) :
    Bool → Except CmdError Unit → List Action → Prop
  | forwarded
      (res : Except CmdError Unit)
      (R : List Action)
      (hR : Migration oldAddr newAddr R) :
      HeldRequestSpec oldAddr newAddr request commitReply closing false res
        (.forward oldAddr request :: R)
  | commitFailed
      (err : CmdError)
      (hnew : newAddr = oldAddr) :
      HeldRequestSpec oldAddr newAddr request commitReply closing true (.error err)
        (.query oldAddr sqlCommit :: if err.IsMySQLError then [.toClient commitReply] else [])
  | committed
      (res : Except CmdError Unit)
      (R : List Action)
      (hR : Migration oldAddr newAddr R) :
      HeldRequestSpec oldAddr newAddr request commitReply closing true res
        (.query oldAddr sqlCommit :: R ++
          if closing then [] else [.forward newAddr request])

theorem AfterStates.answers_eq_false
    {oldAddr toAddr newAddr : List UInt8} {R : List Action}
    (h : AfterStates oldAddr toAddr newAddr R) :
    ∀ a ∈ R, a.answers = false := by
  cases h with
  | failed closed err hclosed =>
    rcases hclosed with rfl | rfl | rfl <;> simp [Action.answers]
  | rejected => simp [Action.answers]
  | moved => simp [Action.answers]

theorem Migration.answers_eq_false
    {oldAddr newAddr : List UInt8} {R : List Action}
    (h : Migration oldAddr newAddr R) :
    ∀ a ∈ R, a.answers = false := by
  cases h with
  | stay => simp
  | gracefulClose => simp [Action.answers]
  | skipped => simp [Action.answers]
  | statesRead toAddr newAddr R hR =>
    simpa [Action.answers] using hR.answers_eq_false

theorem count_answers_eq_zero
    {R : List Action}
    (h : ∀ a ∈ R, a.answers = false) :
    (R.filter Action.answers).length = 0 := by
  simpa [List.filter_eq_nil_iff] using h

/-- Whatever happens to a request, the client is answered at most once. -/
theorem HeldRequestSpec.answers_le_one
    {oldAddr newAddr request commitReply : List UInt8} {closing held : Bool}
    {res : Except CmdError Unit} {acts : List Action}
    (h : HeldRequestSpec oldAddr newAddr request commitReply closing held res acts) :
    (acts.filter Action.answers).length ≤ 1 := by
  cases h with
  | forwarded res R hR =>
    simp [List.filter_cons, Action.answers, count_answers_eq_zero hR.answers_eq_false]
  | commitFailed err hnew =>
    cases err.IsMySQLError <;> simp [List.filter_cons, Action.answers]
  | committed res R hR =>
    have hzero := count_answers_eq_zero hR.answers_eq_false
    cases closing <;> simp [List.filter_cons, Action.answers, List.filter_append, hzero]

/-! ### The command processor -/

namespace CmdProcessor

theorem needHoldRequest_isSome
    (isBeginStmt : List UInt8 → Bool)
    (cp : CmdProcessor)
    {request : List UInt8}
    (hreq : request ≠ []) :
    ∃ hold, cp.needHoldRequest isBeginStmt request = some hold := by
  obtain ⟨cmd, rest, rfl⟩ := List.exists_cons_of_ne_nil hreq
  simp only [needHoldRequest, List.getElem?_cons_zero, sliceFrom, List.length_cons,
    Nat.le_add_left, if_true, Option.bind_eq_bind, Option.bind_some]
  -- past the first byte, every branch returns
  repeat' split
  all_goals exact ⟨_, rfl⟩

/-- A held request is a `COM_QUERY` inside a transaction. -/
theorem needHoldRequest_eq_true
    {isBeginStmt : List UInt8 → Bool}
    {cp : CmdProcessor}
    {request : List UInt8}
    (h : cp.needHoldRequest isBeginStmt request = some true) :
    request.head? = some ComQuery ∧ cp.serverStatus &&& StatusInTrans ≠ 0 := by
  cases request with
  | nil => simp [needHoldRequest] at h
  | cons cmd rest =>
    simp only [needHoldRequest, List.getElem?_cons_zero, sliceFrom, List.length_cons,
      Nat.le_add_left, if_true, Option.bind_eq_bind, Option.bind_some] at h
    split at h
    · simp at h
    · rename_i hcmd
      split at h
      · simp at h
      · rename_i hstatus
        simp only [bne_iff_ne, ne_eq, Decidable.not_not] at hcmd
        simp only [beq_iff_eq] at hstatus
        exact ⟨by simp [hcmd], hstatus⟩

/-- A session inside a transaction has not finished it. -/
theorem finishedTxn_eq_false_of_inTrans
    {cp : CmdProcessor}
    (h : cp.serverStatus &&& StatusInTrans ≠ 0) :
    cp.finishedTxn = false := by
  have hmask : (StatusInTrans ||| StatusQuit) &&& StatusInTrans = StatusInTrans := by decide
  have hpos : cp.serverStatus &&& (StatusInTrans ||| StatusQuit) ≠ 0 := by
    intro hzero
    apply h
    rw [← hmask, ← UInt32.and_assoc, hzero, UInt32.zero_and]
  have hlt : 0 < cp.serverStatus &&& (StatusInTrans ||| StatusQuit) := by
    rw [UInt32.lt_iff_toNat_lt]
    have := mt UInt32.toNat_inj.mp hpos
    simp only [UInt32.toNat_zero] at this ⊢
    omega
  simp [finishedTxn, hlt]

end CmdProcessor

section Proofs

variable {σ ρ : Type}
variable (io : PacketIOMethods σ)
variable (env : Env σ ρ)

/-- A failed query leaves the command processor as it was. -/
theorem query_cp_of_error
    {cp cp' : CmdProcessor}
    { packetIO packetIO' : σ}
    {sql response : List UInt8}
    {err : CmdError}
    (h : query io env cp packetIO sql = ((.error err, response), cp', packetIO')) :
    cp' = cp := by
  unfold query at h
  dsimp only at h
  -- every error branch returns the command processor it was given
  repeat' split at h
  all_goals first | (cases h; rfl) | cases h

/-- The first packet `query` returns is the backend's first reply. -/
theorem query_response
    (cp : CmdProcessor)
    ( packetIO : σ)
    (sql : List UInt8) :
    (query io env cp packetIO sql).1.2 = firstReply io packetIO sql := by
  unfold query firstReply
  dsimp only
  rcases hread : io.ReadPacket (io.WritePacket packetIO (MakeQueryPacket sql)) with
    err | ⟨_ | ⟨first, rest⟩, packetIO'⟩
  · rfl
  · rfl
  · -- every answer that starts with a packet returns that packet
    dsimp only
    repeat' split
    all_goals rfl

/-- How `executeCmd` ended: what it returned, the command processor after it and the
actions it took, for the command processor `cp` it started from.  A request that is
held is answered by the commit alone: for a MySQL error the client is sent `reply`,
the first packet of the backend's answer to the `COMMIT`. -/
inductive ExecOutcome (addr request reply : List UInt8) (held : Bool) (cp : CmdProcessor) :
    Except CmdError Bool → CmdProcessor → List Action → Prop
  | forwarded
      (res : Except CmdError Bool) (cp' : CmdProcessor)
      (hheld : held = false)
      (hres : res ≠ .ok true) :
      ExecOutcome addr request reply held cp res cp' [.forward addr request]
  | commitFailed
      (err : CmdError)
      (hheld : held = true) :
      ExecOutcome addr request reply held cp (.error err) cp
        (.query addr sqlCommit :: if err.IsMySQLError then [.toClient reply] else [])
  | committed
      (cp' : CmdProcessor)
      (hheld : held = true) :
      ExecOutcome addr request reply held cp (.ok true) cp' [.query addr sqlCommit]

theorem executeCmd_outcome
    (cp : CmdProcessor)
    {request : List UInt8}
    (hreq : request ≠ [])
    ( clientIO backendIO : σ)
    (addr : List UInt8)
    (waitingRedirect : Bool) :
    ExecOutcome addr request (firstReply io backendIO sqlCommit)
      (waitingRedirect && cp.needHoldRequest env.isBeginStmt request == some true) cp
      (executeCmd io env cp request clientIO backendIO addr waitingRedirect).1
      (executeCmd io env cp request clientIO backendIO addr waitingRedirect).2.1
      (executeCmd io env cp request clientIO backendIO addr waitingRedirect).2.2.2.2 := by
  obtain ⟨hold, hhold⟩ := CmdProcessor.needHoldRequest_isSome env.isBeginStmt cp hreq
  unfold executeCmd
  cases waitingRedirect with
  | false =>
    -- no redirect waits: the request is forwarded
    simp only [Bool.false_eq_true, if_false, Bool.false_and]
    split <;> exact .forwarded _ _ rfl (by simp)
  | true =>
    simp only [if_true, hhold, Bool.true_and]
    cases hold with
    | false =>
      simp only
      split <;> exact .forwarded _ _ (by simp) (by simp)
    | true =>
      simp only
      split
      · -- the commit failed: the first packet of its answer may go to the client
        rename_i err response cp' backendIO' hquery
        obtain rfl := query_cp_of_error io env hquery
        have hresp : response = firstReply io backendIO sqlCommit := by
          rw [← query_response io env _ backendIO sqlCommit, hquery]
        subst hresp
        split
        · rename_i hmysql
          rw [show [Action.query addr sqlCommit, .toClient (firstReply io backendIO sqlCommit)] =
              .query addr sqlCommit ::
                if err.IsMySQLError then [.toClient (firstReply io backendIO sqlCommit)] else [] by
            rw [if_pos hmysql]]
          exact .commitFailed err (by simp)
        · rename_i hmysql
          rw [show [Action.query addr sqlCommit] =
              .query addr sqlCommit ::
                if err.IsMySQLError then [.toClient (firstReply io backendIO sqlCommit)] else [] by
            rw [if_neg hmysql]]
          exact .commitFailed err (by simp)
      · exact .committed _ (by simp)

/-- `executeCmd` without a waiting redirect forwards the request. -/
theorem executeCmd_actions_false
    (cp : CmdProcessor)
    (request : List UInt8)
    ( clientIO backendIO : σ)
    (addr : List UInt8) :
    (executeCmd io env cp request clientIO backendIO addr false).2.2.2.2 =
      [.forward addr request] := by
  unfold executeCmd
  simp only [Bool.false_eq_true, if_false]
  split <;> rfl

@[simp] theorem finishRedirect_actions
    (mgr : BackendConnManager σ)
    (fromAddr toAddr : List UInt8)
    (err : Option CmdError) :
    (mgr.finishRedirect fromAddr toAddr err).actions =
      mgr.actions ++ [.redirectResult fromAddr toAddr err] := rfl

@[simp] theorem finishRedirect_curBackend
    (mgr : BackendConnManager σ)
    (fromAddr toAddr : List UInt8)
    (err : Option CmdError) :
    (mgr.finishRedirect fromAddr toAddr err).curBackend = mgr.curBackend := rfl

@[simp] theorem finishRedirect_closeStatus
    (mgr : BackendConnManager σ)
    (fromAddr toAddr : List UInt8)
    (err : Option CmdError) :
    (mgr.finishRedirect fromAddr toAddr err).closeStatus = mgr.closeStatus := rfl

/-- `updateAuthInfoFromSessionStates` changes the authenticator only. -/
theorem updateAuthInfoFromSessionStates_frame
    {mgr mgr' : BackendConnManager σ}
    {sessionStates : List UInt8}
    (h : updateAuthInfoFromSessionStates env mgr sessionStates = .ok mgr') :
    mgr'.actions = mgr.actions ∧ mgr'.curBackend = mgr.curBackend ∧
      mgr'.closeStatus = mgr.closeStatus := by
  unfold updateAuthInfoFromSessionStates at h
  split at h
  · cases h
  · cases h; exact ⟨rfl, rfl, rfl⟩
  · cases h; exact ⟨rfl, rfl, rfl⟩

/-- The migration after the session states are read, from the backend the session is
on. -/
theorem migrate_afterStates
    (mgr : BackendConnManager σ)
    (toAddr sessionStates sessionToken : List UInt8) :
    ∃ R, (migrate io env mgr mgr.curBackend toAddr sessionStates sessionToken).actions =
        mgr.actions ++ R ∧
      (migrate io env mgr mgr.curBackend toAddr sessionStates sessionToken).closeStatus =
        mgr.closeStatus ∧
      AfterStates mgr.curBackend toAddr
        (migrate io env mgr mgr.curBackend toAddr sessionStates sessionToken).curBackend R := by
  unfold migrate
  split
  · exact ⟨_, rfl, rfl, .failed [] _ (.inl rfl)⟩
  · rename_i mgr' hupdate
    obtain ⟨hactions, hcur, hclose⟩ := updateAuthInfoFromSessionStates_frame env hupdate
    -- the steps that follow keep the backend of `mgr'` until the session moves
    split
    · rename_i err _
      refine ⟨[.redirectResult mgr.curBackend toAddr (some err)], by simp [hactions],
        by simp [hclose], ?_⟩
      simpa [hcur] using @AfterStates.failed mgr.curBackend toAddr [] err (.inl rfl)
    · split
      · rename_i err _
        refine ⟨[.closeBackend toAddr, .redirectResult mgr.curBackend toAddr (some err)],
          by simp [hactions], by simp [hclose], ?_⟩
        simpa [hcur] using
          @AfterStates.failed mgr.curBackend toAddr [.closeBackend toAddr] err (.inr (.inr rfl))
      · dsimp only
        split
        · rename_i err _ _ _ _
          refine ⟨[.query toAddr (setSessionStates sessionStates), .closeBackend toAddr,
            .redirectResult mgr.curBackend toAddr (some err)], by simp [hactions],
            by simp [hclose], ?_⟩
          simpa [hcur] using @AfterStates.rejected mgr.curBackend toAddr
            sessionStates err
        · refine ⟨[.query toAddr (setSessionStates sessionStates), .closeBackend mgr.curBackend,
            .redirectResult mgr.curBackend toAddr none], by simp [hactions],
            by simp [hclose], ?_⟩
          simpa using @AfterStates.moved mgr.curBackend toAddr
            sessionStates

theorem tryRedirect_migration
    (mgr : BackendConnManager σ) :
    ∃ R, (tryRedirect io env mgr).actions = mgr.actions ++ R ∧
      (tryRedirect io env mgr).closeStatus = mgr.closeStatus ∧
      Migration mgr.curBackend (tryRedirect io env mgr).curBackend R := by
  unfold tryRedirect
  split
  · exact ⟨[], by simp, rfl, .stay⟩
  · rename_i backendInst _
    split
    · exact ⟨[], by simp, rfl, .stay⟩
    · split
      · -- closing: reported without a migration
        exact ⟨_, rfl, rfl, .skipped _ _⟩
      · split
        · exact ⟨_, rfl, rfl, .skipped _ _⟩
        · -- the session states are read from the old backend
          dsimp only
          split
          · rename_i err _
            split
            · exact ⟨[.query mgr.curBackend sqlQueryState, .closeClient,
                .redirectResult mgr.curBackend backendInst.Addr (some err)], by simp, rfl,
                .statesRead _ _ _ (.failed [.closeClient] _ (.inr (.inl rfl)))⟩
            · exact ⟨[.query mgr.curBackend sqlQueryState,
                .redirectResult mgr.curBackend backendInst.Addr (some err)], by simp, rfl,
                .statesRead _ _ _ (.failed [] _ (.inl rfl))⟩
          · rename_i sessionStates sessionToken _
            obtain ⟨R, hR, hclose, hafter⟩ := migrate_afterStates io env
              { mgr with
                cmdProcessor := (query io env mgr.cmdProcessor mgr.backendIO sqlQueryState).2.1
                backendIO := (query io env mgr.cmdProcessor mgr.backendIO sqlQueryState).2.2
                actions := mgr.actions ++ [Action.query mgr.curBackend sqlQueryState] }
              backendInst.Addr sessionStates sessionToken
            exact ⟨_, by rw [hR]; simp, hclose, .statesRead _ _ _ hafter⟩

theorem tryGracefulClose_migration
    (mgr : BackendConnManager σ) :
    ∃ R, (tryGracefulClose mgr).actions = mgr.actions ++ R ∧
      Migration mgr.curBackend (tryGracefulClose mgr).curBackend R := by
  unfold tryGracefulClose
  split
  · exact ⟨[], by simp, .stay⟩
  · split
    · exact ⟨[], by simp, .stay⟩
    · exact ⟨_, rfl, .gracefulClose⟩

theorem closeOrRedirect_migration
    (mgr : BackendConnManager σ)
    (waitingRedirect : Bool) :
    ∃ R, (closeOrRedirect io env mgr waitingRedirect).actions = mgr.actions ++ R ∧
      Migration mgr.curBackend (closeOrRedirect io env mgr waitingRedirect).curBackend R := by
  unfold closeOrRedirect
  split
  · split
    · exact tryGracefulClose_migration mgr
    · split
      · obtain ⟨R, hR, -, hmig⟩ := tryRedirect_migration io env mgr
        exact ⟨R, hR, hmig⟩
      · exact ⟨[], by simp, .stay⟩
  · exact ⟨[], by simp, .stay⟩

/-- The commands after which `ExecuteCmd` does more keep the record and the backend. -/
theorem afterCmd_frame
    {cmd : UInt8}
    {request : List UInt8}
    {mgr mgr' : BackendConnManager σ}
    (h : afterCmd cmd request mgr = .ok (some mgr')) :
    mgr'.actions = mgr.actions ∧ mgr'.curBackend = mgr.curBackend := by
  unfold afterCmd at h
  repeat' split at h
  all_goals first | (cases h; exact ⟨rfl, rfl⟩) | cases h

theorem afterCmd_comQuery
    (request : List UInt8)
    (mgr : BackendConnManager σ) :
    afterCmd ComQuery request mgr = .ok (some mgr) := by
  simp [afterCmd, ComQuery, ComQuit, ComSetOption, ComChangeUser]

/-- The end of `ExecuteCmd`, by the manager that closing or redirecting leaves: the held
request is forwarded to its backend unless the connection is closing. -/
theorem finish_eq
    (mgr : BackendConnManager σ)
    (request : List UInt8)
    (waitingRedirect holdRequest : Bool)
    (err : Option CmdError) :
    (ExecuteCmd.finish io env mgr request waitingRedirect holdRequest err).2.curBackend =
        (closeOrRedirect io env mgr waitingRedirect).curBackend ∧
      (ExecuteCmd.finish io env mgr request waitingRedirect holdRequest err).2.closeStatus =
        (closeOrRedirect io env mgr waitingRedirect).closeStatus ∧
      (ExecuteCmd.finish io env mgr request waitingRedirect holdRequest err).2.actions =
        (closeOrRedirect io env mgr waitingRedirect).actions ++
          if holdRequest &&
              decide ((closeOrRedirect io env mgr waitingRedirect).closeStatus < statusNotifyClose)
          then [.forward (closeOrRedirect io env mgr waitingRedirect).curBackend request]
          else [] := by
  unfold ExecuteCmd.finish
  dsimp only
  split
  · refine ⟨rfl, rfl, ?_⟩
    exact congrArg (_ ++ ·) (executeCmd_actions_false io env _ request _ _ _)
  · split <;> exact ⟨rfl, rfl, by simp⟩

/-- The end of `ExecuteCmd` with no held request returns the error it is given. -/
theorem finish_not_held
    (mgr : BackendConnManager σ)
    (request : List UInt8)
    (waitingRedirect : Bool)
    (err : Option CmdError) :
    ExecuteCmd.finish io env mgr request waitingRedirect false err =
      (match err with
        | some err => .error err
        | none => .ok (), closeOrRedirect io env mgr waitingRedirect) := by
  cases err <;> rfl

/-- A session still inside its transaction is neither closed nor redirected. -/
theorem closeOrRedirect_of_inTrans
    {mgr : BackendConnManager σ}
    (h : mgr.cmdProcessor.serverStatus &&& StatusInTrans ≠ 0)
    (waitingRedirect : Bool) :
    closeOrRedirect io env mgr waitingRedirect = mgr := by
  simp [closeOrRedirect, CmdProcessor.finishedTxn_eq_false_of_inTrans h]

/-- What the end of `ExecuteCmd` appends after the command's own actions. -/
theorem finish_migration
    (mgr : BackendConnManager σ)
    (request : List UInt8)
    (waitingRedirect holdRequest : Bool)
    (err : Option CmdError) :
    ∃ R, (ExecuteCmd.finish io env mgr request waitingRedirect holdRequest err).2.actions =
        mgr.actions ++ R ++
          (if holdRequest && decide
              ((ExecuteCmd.finish io env mgr request waitingRedirect holdRequest err).2.closeStatus <
                statusNotifyClose)
            then [.forward
              (ExecuteCmd.finish io env mgr request waitingRedirect holdRequest err).2.curBackend
              request]
            else []) ∧
      Migration mgr.curBackend
        (ExecuteCmd.finish io env mgr request waitingRedirect holdRequest err).2.curBackend R := by
  obtain ⟨hcur, hclose, hactions⟩ := finish_eq io env mgr request waitingRedirect holdRequest err
  obtain ⟨R, hR, hmig⟩ := closeOrRedirect_migration io env mgr waitingRedirect
  exact ⟨R, by rw [hactions, hR, hcur, hclose], hcur ▸ hmig⟩

/-- The actions of one request on a connection that is not closing yet, by how the
request ends: the three forms of `HeldRequestSpec`, one for each outcome of
`executeCmd`. -/
theorem ExecuteCmd_spec_actions
    (mgr : BackendConnManager σ)
    (request : List UInt8)
    (hreq : request ≠ [])
    (hclose : mgr.closeStatus < statusClosing) :
    ∃ acts, (ExecuteCmd io env mgr request).2.actions = mgr.actions ++ acts ∧
      HeldRequestSpec mgr.curBackend (ExecuteCmd io env mgr request).2.curBackend request
        (firstReply io mgr.backendIO sqlCommit)
        (decide (statusNotifyClose ≤ (ExecuteCmd io env mgr request).2.closeStatus))
        (mgr.redirectInfo.isSome &&
          mgr.cmdProcessor.needHoldRequest env.isBeginStmt request == some true)
        (ExecuteCmd io env mgr request).1 acts := by
  have hout := executeCmd_outcome io env mgr.cmdProcessor hreq mgr.clientIO mgr.backendIO
    mgr.curBackend mgr.redirectInfo.isSome
  obtain ⟨cmd, rest, rfl⟩ := List.exists_cons_of_ne_nil hreq
  simp only [ExecuteCmd, ge_iff_le, Nat.not_le.mpr hclose, if_false]
  generalize executeCmd io env mgr.cmdProcessor (cmd :: rest) mgr.clientIO mgr.backendIO
    mgr.curBackend mgr.redirectInfo.isSome = out at hout ⊢
  obtain ⟨res, cp, clientIO, backendIO, acts⟩ := out
  dsimp only at hout ⊢
  cases hout with
  | forwarded res cp hheld hres =>
    rw [hheld]
    cases res with
    | error err =>
      by_cases hmysql : err.IsMySQLError
      · -- a MySQL error still lets the transaction end
        simp only [hmysql, Bool.not_true, Bool.false_eq_true, if_false]
        obtain ⟨R, hR, hmig⟩ := finish_migration io env _ (cmd :: rest) _ false _
        exact ⟨_, by rw [hR]; simp, .forwarded _ R hmig⟩
      · simp only [hmysql, Bool.not_false, if_true]
        exact ⟨_, rfl, .forwarded _ [] .stay⟩
    | ok hold =>
      obtain rfl : hold = false := by simpa using hres
      set mgr₁ : BackendConnManager σ :=
        { mgr with
          cmdProcessor := cp
          clientIO
          backendIO
          actions := mgr.actions ++ [.forward mgr.curBackend (cmd :: rest)] }
      rcases hafter : afterCmd cmd (cmd :: rest) mgr₁ with err | (_ | mgr')
      · exact ⟨_, rfl, .forwarded _ [] .stay⟩
      · exact ⟨_, rfl, .forwarded _ [] .stay⟩
      · obtain ⟨hactions, hcur⟩ := afterCmd_frame hafter
        obtain ⟨R, hR, hmig⟩ := finish_migration io env mgr' (cmd :: rest) _ false none
        rw [hcur] at hmig
        exact ⟨_, by rw [hR, hactions]; simp [mgr₁], .forwarded _ R hmig⟩
  | commitFailed err hheld =>
    rw [hheld]
    simp only [Bool.and_eq_true, beq_iff_eq] at hheld
    have hinTrans := (CmdProcessor.needHoldRequest_eq_true hheld.2).2
    set mgr₁ : BackendConnManager σ :=
      { mgr with
        clientIO
        backendIO
        actions := mgr.actions ++ .query mgr.curBackend sqlCommit ::
          if err.IsMySQLError then [.toClient (firstReply io mgr.backendIO sqlCommit)] else [] }
    by_cases hmysql : err.IsMySQLError
    · -- the failed commit leaves the transaction open: nothing closes or redirects
      simp only [hmysql, Bool.not_true, Bool.false_eq_true, if_false]
      rw [finish_not_held, @closeOrRedirect_of_inTrans _ _ io env mgr₁ hinTrans]
      exact ⟨_, rfl, .commitFailed err rfl⟩
    · simp only [hmysql, Bool.not_false, if_true]
      exact ⟨_, rfl, .commitFailed err rfl⟩
  | committed cp hheld =>
    rw [hheld]
    simp only [Bool.and_eq_true, beq_iff_eq] at hheld
    have hquery := (CmdProcessor.needHoldRequest_eq_true hheld.2).1
    obtain rfl : cmd = ComQuery := by simpa using hquery
    -- a held request is a query, which `ExecuteCmd` does nothing more about
    simp only [afterCmd_comQuery]
    set mgr₁ : BackendConnManager σ :=
      { mgr with
        cmdProcessor := cp
        clientIO
        backendIO
        actions := mgr.actions ++ [.query mgr.curBackend sqlCommit] }
    obtain ⟨R, hR, hmig⟩ := finish_migration io env mgr₁ (ComQuery :: rest)
      mgr.redirectInfo.isSome true none
    set out := (ExecuteCmd.finish io env mgr₁ (ComQuery :: rest)
      mgr.redirectInfo.isSome true none).2
    refine ⟨.query mgr.curBackend sqlCommit :: R ++
        (if decide (statusNotifyClose ≤ out.closeStatus) then []
          else [.forward out.curBackend (ComQuery :: rest)]), ?_, .committed _ R hmig⟩
    rw [hR]
    by_cases hopen : out.closeStatus < statusNotifyClose
    · simp [mgr₁, hopen]
    · simp [mgr₁, hopen, Nat.le_of_not_lt hopen]

/-- No request is lost or sent twice around a held `BEGIN`, on a connection that is not
closing yet.  A request that is not held is forwarded to the backend the session is on.
A held one is committed first: a failed commit answers it and is what `ExecuteCmd`
returns, and the client is sent the first packet of the backend's answer to the `COMMIT`
for a MySQL error and nothing for any other; after a commit, closing or redirecting may
run and the request goes to the backend the session is on then, unless the connection
closes.  Either way the client is answered at most once. -/
theorem ExecuteCmd_heldRequestSpec
    (mgr : BackendConnManager σ)
    (request : List UInt8)
    (hreq : request ≠ [])
    (hclose : mgr.closeStatus < statusClosing) :
    ∃ acts, (ExecuteCmd io env mgr request).2.actions = mgr.actions ++ acts ∧
      HeldRequestSpec mgr.curBackend (ExecuteCmd io env mgr request).2.curBackend request
        (firstReply io mgr.backendIO sqlCommit)
        (decide (statusNotifyClose ≤ (ExecuteCmd io env mgr request).2.closeStatus))
        (mgr.redirectInfo.isSome &&
          mgr.cmdProcessor.needHoldRequest env.isBeginStmt request == some true)
        (ExecuteCmd io env mgr request).1 acts ∧
      (acts.filter Action.answers).length ≤ 1 := by
  obtain ⟨acts, hacts, hspec⟩ := ExecuteCmd_spec_actions io env mgr request hreq hclose
  exact ⟨acts, hacts, hspec, hspec.answers_le_one⟩

/-- A connection that is closing takes no request: it is neither forwarded nor held, and
nothing is done. -/
theorem ExecuteCmd_closing
    (mgr : BackendConnManager σ)
    {request : List UInt8}
    (hreq : request ≠ [])
    (hclose : statusClosing ≤ mgr.closeStatus) :
    ExecuteCmd io env mgr request = (.ok (), mgr) := by
  obtain ⟨cmd, rest, rfl⟩ := List.exists_cons_of_ne_nil hreq
  simp [ExecuteCmd, hclose]

end Proofs

/-! ### A held `BEGIN` whose redirect goes through -/

/-- The OK packet that ends a transaction: no rows, no insert id, autocommit on. -/
def txnEndOK : List UInt8 := [OKHeader, 0, 0, 0x02, 0x00, 0, 0]

/-- Backends that answer every statement, and a new backend that accepts the session. -/
def redirectEnv : Env PacketQueue Unit where
  forwardCommand cp clientIO backendIO _ := (.ok (), cp, clientIO, backendIO)
  readResultSet _ packetIO _ := (.ok (), packetIO)
  sessionStates _ := .ok (ascii "states", ascii "token")
  currentDB _ := .ok none
  dial _ := .ok ⟨[], []⟩
  handshakeSecondTime _ backendIO _ := .ok { backendIO with input := [txnEndOK] }
  IsDisconnectError _ := false
  isBeginStmt stmt := stmt == ascii "BEGIN"

/-- `BEGIN` as the client sends it. -/
def beginRequest : List UInt8 := ComQuery :: ascii "BEGIN"

/-- A session inside a transaction on `old` with a redirect to `new` waiting; the old
backend ends the transaction on `COMMIT` and answers `SHOW SESSION_STATES` with a result
set. -/
def heldBeginMgr : BackendConnManager PacketQueue where
  closeStatus := statusActive
  redirectInfo := some ⟨ascii "new", true⟩
  clientIO := ⟨[], []⟩
  backendIO := ⟨[txnEndOK, [1]], []⟩
  curBackend := ascii "old"
  cmdProcessor := ⟨∅, 0, StatusInTrans⟩
  authenticator := ⟨[], [], ∅, 0, 0, 0, false⟩
  actions := []

/-- Around a held `BEGIN` whose redirect goes through, the old backend receives two
statements of the proxy's own, the commit and then the query of the session states,
before the request goes to the new backend. -/
theorem ExecuteCmd_heldBegin_queries_old_twice :
    (ExecuteCmd queueMethods redirectEnv heldBeginMgr beginRequest).2.actions =
      [.query (ascii "old") sqlCommit, .query (ascii "old") sqlQueryState,
        .query (ascii "new") (setSessionStates (ascii "states")),
        .closeBackend (ascii "old"), .redirectResult (ascii "old") (ascii "new") none,
        .forward (ascii "new") beginRequest] := by
  rfl

theorem ExecuteCmd_heldRequestSpec_heldBegin :
    beginRequest ≠ [] ∧ heldBeginMgr.closeStatus < statusClosing ∧
      ∃ acts, (ExecuteCmd queueMethods redirectEnv heldBeginMgr beginRequest).2.actions =
          heldBeginMgr.actions ++ acts ∧
        HeldRequestSpec heldBeginMgr.curBackend
          (ExecuteCmd queueMethods redirectEnv heldBeginMgr beginRequest).2.curBackend
          beginRequest
          (firstReply queueMethods heldBeginMgr.backendIO sqlCommit)
          (decide (statusNotifyClose ≤
            (ExecuteCmd queueMethods redirectEnv heldBeginMgr beginRequest).2.closeStatus))
          (heldBeginMgr.redirectInfo.isSome &&
            heldBeginMgr.cmdProcessor.needHoldRequest redirectEnv.isBeginStmt beginRequest ==
              some true)
          (ExecuteCmd queueMethods redirectEnv heldBeginMgr beginRequest).1
          acts ∧
        (acts.filter Action.answers).length ≤ 1 :=
  ⟨List.cons_ne_nil _ _, by decide,
    ExecuteCmd_heldRequestSpec queueMethods redirectEnv heldBeginMgr beginRequest
      (List.cons_ne_nil _ _) (by decide)⟩

end Backend
end TiProxy
