import TiProxy.Backend.ConnManager
import TiProxy.Net.ForwardUntil
import TiProxy.Lib.ExceptState

/-!
# Relaying one command

A model of `CmdProcessor.forwardCommand` (`pkg/proxy/backend/cmd_processor_exec.go`):
the proxy sends a client request to the backend and relays the response back, reading
the status the response carries into the processor.  Each command has its own reader
of the response: a prepare response is counted out, a query response is read one
result at a time while the status says more follow, a result set up to its EOF, OK or
ERR terminator, a `LOCAL INFILE` request is answered with the client's file, and the
rest are one OK, ERR or EOF packet.

Both ends are `packetIO`s (`Net.Packet`), and the response is relayed with the model
of `ForwardUntil` (`Net.ForwardUntil`).  The processor's methods change the processor
and both ends and may fail, so they are written in `CmdM`, the state of the three
with an error; an error leaves the state as far as it got.

What a command does to the processor is said once for each method, as a relation
between the state before and after it (`ExceptState.Moves`), and carried through the
readers by the closure rules of `Lib.ExceptState`.

**Results.**
* `forwardCommand_columnEOF_inTrans`: a result set whose column EOF says a transaction
  is open, and whose rows end with an ERR packet, leaves a processor that says no
  transaction is open.
* `moves_forwardCommand`: no command changes the capability or clears `StatusQuit`.
* `serveCommands_quit`: no command of a session changes the capability, and once the
  session has sent `COM_QUIT` the processor never again says that its transaction is
  finished.
-/

namespace TiProxy

namespace Net

/-- `ServerMoreResultsExists`. -/
def ServerMoreResultsExists : UInt16 := 0x0008

/-- `IsOKPacket`. -/
def IsOKPacket (firstByte : UInt8) : Bool := firstByte == OKHeader

/-- `IsEOFPacket`: an EOF packet is at most five bytes long. -/
def IsEOFPacket
    (firstByte : UInt8)
    (length : Nat) : Bool :=
  firstByte == EOFHeader && length ≤ 5

/-- `IsResultSetOKPacket`: the OK packet that ends a result set under
`CLIENT_DEPRECATE_EOF`, told apart from a row starting with `0xfe` by its length. -/
def IsResultSetOKPacket
    (firstByte : UInt8)
    (length : Nat) : Bool :=
  firstByte == EOFHeader && 7 ≤ length && length < 0xFFFFFF

end Net

namespace Backend

open Net GoBytes LittleEndian

/-- `errors.Errorf("unexpected response, cmd:%d resp:%d", cmd, resp)`, which the
manager sees as an error of the processor it calls. -/
def unexpectedResponse
    (cmd resp : UInt8) : CmdError :=
  .other (cmd.toNat * 256 + resp.toNat)

namespace CmdProcessor

/-- `handleEOFPacket`: the status at offset 3 of an EOF packet. -/
def handleEOFPacket
    (cp : CmdProcessor)
    (request response : List UInt8) : Option (UInt16 × CmdProcessor) := do
  let serverStatus ← uint16 (← sliceFrom response 3)
  let cp ← cp.updateServerStatus request serverStatus
  pure (serverStatus, cp)

/-- `forwardQuitCmd`. -/
def forwardQuit
    (cp : CmdProcessor) : CmdProcessor :=
  { cp with serverStatus := cp.serverStatus ||| StatusQuit }

end CmdProcessor

/-- What a command changes: the processor and its two ends. -/
structure CmdState where
  cp : CmdProcessor
  clientIO : PacketIO
  backendIO : PacketIO

/-- The processor's methods as Go runs them: they change the processor and both ends,
and an error leaves the three as far as the method got. -/
abbrev CmdM := ExceptT CmdError (StateM CmdState)

namespace CmdM

/-- A value of the model's `Option` form: `none` is a Go index or slice out of range. -/
def ofOption
    {α : Type}
    (o : Option α) : CmdM α :=
  match o with
  | some a => pure a
  | none => throw .panic

/-- `backendIO.WritePacket(data, flush)`. -/
def writeBackend
    (data : List UInt8) : CmdM Unit :=
  modify fun s => { s with backendIO := WritePacket s.backendIO data }

/-- `forwardOnePacket(clientIO, backendIO, flush)`: a packet of the backend to the client. -/
def forwardToClient : CmdM (List UInt8) := do
  let s ← get
  match forwardOnePacket packetIOMethods s.clientIO s.backendIO with
  | .error err => throw (.io err)
  | .ok (data, backendIO, clientIO) =>
      set { s with clientIO := clientIO, backendIO := backendIO }
      pure data

/-- `forwardOnePacket(backendIO, clientIO, flush)`: a packet of the client to the backend. -/
def forwardToBackend : CmdM (List UInt8) := do
  let s ← get
  match forwardOnePacket packetIOMethods s.backendIO s.clientIO with
  | .error err => throw (.io err)
  | .ok (data, clientIO, backendIO) =>
      set { s with clientIO := clientIO, backendIO := backendIO }
      pure data

/-- `backendIO.ForwardUntil(clientIO, isEnd, process)` up to the call of `process`: the
payload `process` is given, `nil` when `isEnd` says the data is not needed. -/
def forwardUntil
    (isEnd : UInt8 → Nat → Bool × Bool) : CmdM (List UInt8) := do
  let s ← get
  match ForwardUntil s.backendIO s.clientIO true isEnd with
  | .error err => throw (.io err)
  | .ok (data, backendIO, clientIO) =>
      set { s with clientIO := clientIO, backendIO := backendIO }
      pure (data.getD [])

/-- `handleOKPacket`. -/
def handleOKPacket
    (request response : List UInt8) : CmdM UInt16 := do
  let (status, cp) ← ofOption ((← get).cp.handleOKPacket request response)
  modify fun s => { s with cp := cp }
  pure status

/-- `handleEOFPacket`. -/
def handleEOFPacket
    (request response : List UInt8) : CmdM UInt16 := do
  let (status, cp) ← ofOption ((← get).cp.handleEOFPacket request response)
  modify fun s => { s with cp := cp }
  pure status

/-- `handleErrorPacket`: the backend's ERR packet as the command's error. -/
def handleErrorPacket
    {α : Type}
    (response : List UInt8) : CmdM α := do
  throw (.mysql (← ofOption (ParseErrorPacket response)))

/-- `updatePrepStmtStatus` where no packet carries a status. -/
def updatePrepStmtStatus
    (request : List UInt8)
    (serverStatus : UInt16) : CmdM Unit := do
  let cp ← ofOption ((← get).cp.updatePrepStmtStatus request serverStatus)
  modify fun s => { s with cp := cp }

/-- Whether the client negotiated `CLIENT_DEPRECATE_EOF`. -/
def deprecateEOF : CmdM Bool := do
  pure ((← get).cp.capability &&& ClientDeprecateEOF != 0)

end CmdM

open CmdM

/-! ### The readers of a response -/

/-- The `isEnd` of `forwardUntilResultEnd`: an ERR packet, or the terminator of the
rows, the EOF packet or, under `CLIENT_DEPRECATE_EOF`, the OK packet. -/
def resultEnd
    (deprecateEOF : Bool)
    (firstByte : UInt8)
    (length : Nat) : Bool × Bool :=
  if IsErrorPacket firstByte then (true, true)
  else if !deprecateEOF then (IsEOFPacket firstByte length, true)
  else (IsResultSetOKPacket firstByte length, true)

/-- `forwardUntilResultEnd`: the rows of a result set up to the terminator, whose
status is read into the processor. -/
def forwardUntilResultEnd
    (request : List UInt8) : CmdM UInt16 := do
  let deprecateEOF ← deprecateEOF
  let response ← forwardUntil (resultEnd deprecateEOF)
  match response with
  | [] => throw .panic
  | first :: _ =>
      if IsErrorPacket first then handleErrorPacket response
      else if !deprecateEOF then handleEOFPacket request response
      else handleOKPacket request response

/-- `ForwardUntil` with the `isEnd` of `forwardPrepareCmd`, which counts the packets
(`i++; return i >= expectedPackets, false`): the packets it has counted are the loop's
second argument. -/
def forwardCountLoop
    (expectedPackets : Nat) :
    Nat → Nat → PacketIO → PacketIO → Except PacketError ( PacketIO × PacketIO)
  | 0, _, _, _ => .error .errReadConn
  | fuel + 1, i, src, dest =>
      match forwardPacket true (fun _ _ => (decide (expectedPackets ≤ i + 1), false)) src dest with
      | .error err => .error err
      | .ok («end», _, src, dest) =>
          if «end» then .ok (src, dest) else forwardCountLoop expectedPackets fuel (i + 1) src dest

/-- The packets a prepare response has after its OK packet: the parameter and the
column definitions, each group followed by an EOF packet unless the client negotiated
`CLIENT_DEPRECATE_EOF`. -/
def prepareExpectedPackets
    (deprecateEOF : Bool)
    (numColumns numParams : UInt16) : Nat :=
  numColumns.toNat + numParams.toNat +
    (if deprecateEOF then 0
     else (if numColumns > 0 then 1 else 0) + (if numParams > 0 then 1 else 0))

/-- `forwardPrepareCmd`.  The OK packet carries no server status. -/
def forwardPrepareCmd : CmdM Unit := do
  let response ← forwardToClient
  match response with
  | [] => throw .panic
  | first :: _ =>
      if first == OKHeader then
        let numColumns ← ofOption (uint16 (← ofOption (sliceFrom response 5)))
        let numParams ← ofOption (uint16 (← ofOption (sliceFrom response 7)))
        let expectedPackets := prepareExpectedPackets (← deprecateEOF) numColumns numParams
        if expectedPackets > 0 then
          let s ← get
          match forwardCountLoop expectedPackets ( s.backendIO.input.length + 1) 0 s.backendIO
              s.clientIO with
          | .error err => throw (.io err)
          | .ok ( backendIO, clientIO) => set { s with clientIO := clientIO, backendIO := backendIO }
      else if first == ErrHeader then handleErrorPacket response
      else throw (unexpectedResponse ComStmtPrepare first)

/-- The loop of `forwardLoadInFile`: the client's file, up to the empty packet. -/
def loadInFileLoop : Nat → CmdM Unit
  | 0 => throw (.io .errReadConn)
  | fuel + 1 => do
      let data ← forwardToBackend
      if data.isEmpty then pure () else loadInFileLoop fuel

/-- `forwardLoadInFile`: the client's file, then the backend's answer. -/
def forwardLoadInFile
    (request : List UInt8) : CmdM UInt16 := do
  loadInFileLoop (( CmdState.clientIO (← get)).input.length + 1)
  let response ← forwardToClient
  match response with
  | [] => throw .panic
  | first :: _ =>
      if first == OKHeader then handleOKPacket request response
      else if first == ErrHeader then handleErrorPacket response
      else throw (unexpectedResponse ComQuery first)

/-- `forwardResultSet`: without `CLIENT_DEPRECATE_EOF` the column definitions end
with an EOF packet.  Its status is read into the processor only when it says a cursor
is open, and the rows are then fetched later; otherwise the rows follow. -/
def forwardResultSet
    (request : List UInt8) : CmdM UInt16 := do
  if !(← deprecateEOF) then
    let response ← forwardUntil (fun firstByte length => (IsEOFPacket firstByte length, true))
    let serverStatus ← ofOption (uint16 (← ofOption (sliceFrom response 3)))
    if serverStatus &&& ServerStatusCursorExists > 0 then handleEOFPacket request response
    else forwardUntilResultEnd request
  else forwardUntilResultEnd request

/-- The `isEnd` of `forwardQueryCmd`: every result starts with one packet, whose data
is needed when it is an OK or ERR packet. -/
def queryResultStart
    (firstByte : UInt8)
    (_ : Nat) : Bool × Bool :=
  if firstByte == OKHeader || firstByte == ErrHeader then (true, true) else (true, false)

/-- The `process` of `forwardQueryCmd`: the rest of a result by its first byte, and the
status it ends with. -/
def forwardQueryResult
    (request : List UInt8)
    (first : UInt8)
    (response : List UInt8) : CmdM UInt16 :=
  if first == OKHeader then handleOKPacket request response
  else if first == ErrHeader then handleErrorPacket response
  else if first == LocalInFileHeader then forwardLoadInFile request
  else forwardResultSet request

/-- The loop of `forwardQueryCmd`: one result at a time, while its status says that
more results follow. -/
def forwardQueryLoop
    (request : List UInt8) : Nat → CmdM Unit
  | 0 => throw (.io .errReadConn)
  | fuel + 1 => do
      -- the first byte the closure of `isEnd` keeps in `first`
      let first := ((Peek ( CmdState.backendIO (← get)) 5).getD []).getD 4 0
      let response ← forwardUntil queryResultStart
      let serverStatus ← forwardQueryResult request first response
      if serverStatus &&& ServerMoreResultsExists == 0 then pure ()
      else forwardQueryLoop request fuel

/-- `forwardQueryCmd`. -/
def forwardQueryCmd
    (request : List UInt8) : CmdM Unit := do
  forwardQueryLoop request (( CmdState.backendIO (← get)).input.length + 1)

/-- The loop of `forwardChangeUserCmd`: a client packet after every server packet that
is neither OK nor ERR. -/
def changeUserRelay
    (request : List UInt8) : Nat → CmdM Unit
  | 0 => throw (.io .errReadConn)
  | fuel + 1 => do
      let response ← forwardToClient
      match response with
      | [] => throw .panic
      | first :: _ =>
          if first == OKHeader then
            discard (handleOKPacket request response)
          else if first == ErrHeader then handleErrorPacket response
          else
            discard forwardToBackend
            changeUserRelay request fuel

/-- `forwardChangeUserCmd`: the request goes to the backend with the plugin unknown
and no auth data, so that the backend asks the client again with its own salt.
`ParseChangeUser` fails only with a warning, on which the request is still sent. -/
def forwardChangeUserCmd
    (request : List UInt8) : CmdM Unit := do
  let (req, _) ← ofOption (ParseChangeUser request (← get).cp.capability)
  let req := { req with AuthPlugin := unknownAuthPlugin, AuthData := [] }
  writeBackend (MakeChangeUser req (← get).cp.capability)
  changeUserRelay request (( CmdState.backendIO (← get)).input.length + 1)

/-- The commands answered with one OK, ERR or EOF packet. -/
def forwardOtherCmd
    (cmd : UInt8)
    (request : List UInt8) : CmdM Unit := do
  let response ← forwardToClient
  match response with
  | [] => throw .panic
  | first :: _ =>
      if first == OKHeader then discard (handleOKPacket request response)
      else if first == ErrHeader then handleErrorPacket response
      else if first == EOFHeader then
        if !(← deprecateEOF) then discard (handleEOFPacket request response)
        else discard (handleOKPacket request response)
      else throw (unexpectedResponse cmd first)

/-- The switch of `forwardCommand` on the command: the reader of the response.
`COM_STMT_CLOSE` and `COM_STMT_SEND_LONG_DATA` have no response, and `COM_QUIT` only
marks the session. -/
def forwardResponse
    (cmd : UInt8)
    (request : List UInt8) : CmdM Unit :=
  if cmd == ComStmtPrepare then forwardPrepareCmd
  else if cmd == ComStmtFetch then discard (forwardUntilResultEnd request)
  else if cmd == ComQuery || cmd == ComStmtExecute || cmd == ComProcessInfo then
    forwardQueryCmd request
  else if cmd == ComStmtClose then updatePrepStmtStatus request 0
  else if cmd == ComStmtSendLongData then updatePrepStmtStatus request 0
  else if cmd == ComChangeUser then forwardChangeUserCmd request
  else if cmd == ComStatistics then discard forwardToClient
  else if cmd == ComFieldList then discard (forwardUntilResultEnd request)
  else if cmd == ComQuit then modify fun s => { s with cp := s.cp.forwardQuit }
  else forwardOtherCmd cmd request

/-- `forwardCommand`: the request is sent to the backend, except `COM_CHANGE_USER`, which
is rewritten first. -/
def forwardCommand
    (request : List UInt8) : CmdM Unit := do
  let cmd ← ofOption request[0]?
  if cmd != ComChangeUser then writeBackend request
  forwardResponse cmd request

/-- A result set of one column and one row: the column count, the column definition,
the column EOF with the status `SERVER_STATUS_IN_TRANS`, the row, and an ERR packet
(1317, state 70100) in place of the last EOF. -/
def inTransResultSet : List (List UInt8) :=
  [[1], [3, 0x64, 0x65, 0x66, 0, 0, 0, 1, 0x61, 0, 0x0c, 0x21, 0, 1, 0, 0, 0, 0xfd, 0, 0, 0, 0, 0],
    [0xfe, 0, 0, 1, 0], [1, 0x31], [0xff, 0x25, 0x05, 0x23, 0x37, 0x30, 0x31, 0x30, 0x30]]

/-- A new processor without `CLIENT_DEPRECATE_EOF` that has sent a query, whose backend
answers with `inTransResultSet`. -/
def inTransQueryState : CmdState :=
  ⟨⟨∅, ClientProtocol41, 0⟩, ⟨[], [], 1, 0, 0, 0, 0⟩, ⟨messageBytes 1 inTransResultSet, [], 0, 0, 0, 0, 0⟩⟩

/-- The whole response is relayed and its error returned, but the status of the column
EOF is read only for a cursor: the processor, which had no transaction open, still says
that its transaction is finished. -/
theorem forwardCommand_columnEOF_inTrans :
    uint16 ((inTransResultSet.getD 2 []).drop 3) = some ServerStatusInTrans ∧
      ∃ s', ExceptState.run (forwardCommand [ComQuery, 0x31]) inTransQueryState =
          (.error (.mysql ⟨1317, [], asciiBytes "70100"⟩), s') ∧
        s'.backendIO.input = [] ∧ s'.clientIO.output = messageBytes 1 inTransResultSet ∧
        s'.cp.finishedTxn = true := by
  -- the state the run ends in, and the facts about it, by evaluation
  refine ⟨by decide, (ExceptState.run (forwardCommand [ComQuery, 0x31]) inTransQueryState).2,
    Prod.ext ?_ rfl, ?_, ?_, ?_⟩
  all_goals decide

/-! ### What a command keeps of the processor -/

namespace CmdProcessor

/-- What every command keeps of the processor: its capability, and `StatusQuit` once it
is set. -/
structure Keeps
    (cp cp' : CmdProcessor) : Prop where
  capability : cp'.capability = cp.capability
  quit : cp.serverStatus &&& StatusQuit ≠ 0 → cp'.serverStatus &&& StatusQuit ≠ 0

theorem Keeps.refl
    (cp : CmdProcessor) :
    cp.Keeps cp :=
  ⟨rfl, id⟩

theorem Keeps.trans
    {cp₁ cp₂ cp₃ : CmdProcessor}
    (h₁ : cp₁.Keeps cp₂)
    (h₂ : cp₂.Keeps cp₃) :
    cp₁.Keeps cp₃ :=
  ⟨h₂.capability.trans h₁.capability, h₂.quit ∘ h₁.quit⟩

/-- A processor that differs only in its prepared statements. -/
theorem Keeps.of_eq
    {cp cp' : CmdProcessor}
    (hcap : cp'.capability = cp.capability)
    (hstatus : cp'.serverStatus = cp.serverStatus) :
    cp.Keeps cp' :=
  ⟨hcap, by rw [hstatus]; exact id⟩

/-- `StatusInTrans` and `StatusQuit` are different bits: setting or clearing the first
leaves the second. -/
theorem or_inTrans_and_quit
    (x : UInt32) :
    (x ||| StatusInTrans) &&& StatusQuit = x &&& StatusQuit := by
  apply UInt32.toBitVec_inj.1
  simp only [UInt32.toBitVec_and, UInt32.toBitVec_or, BitVec.and_or_distrib_right]
  simp [StatusInTrans, StatusQuit]

theorem and_not_inTrans_and_quit
    (x : UInt32) :
    (x &&& ~~~StatusInTrans) &&& StatusQuit = x &&& StatusQuit := by
  rw [UInt32.and_assoc]
  rfl

theorem or_quit_and_quit
    (x : UInt32) :
    (x ||| StatusQuit) &&& StatusQuit = StatusQuit := by
  apply UInt32.toBitVec_inj.1
  apply BitVec.eq_of_getLsbD_eq
  intro i _
  simp only [UInt32.toBitVec_and, UInt32.toBitVec_or, BitVec.getLsbD_and, BitVec.getLsbD_or]
  cases StatusQuit.toBitVec.getLsbD i <;> simp

theorem keeps_updateTxnStatus
    (cp : CmdProcessor)
    (serverStatus : UInt16) :
    cp.Keeps (cp.updateTxnStatus serverStatus) := by
  unfold updateTxnStatus
  split
  · exact ⟨rfl, by rw [or_inTrans_and_quit]; exact id⟩
  · exact ⟨rfl, by rw [and_not_inTrans_and_quit]; exact id⟩

/-- `updatePrepStmtStatus` changes the prepared statements only. -/
theorem keeps_updatePrepStmtStatus
    {cp cp' : CmdProcessor}
    {request : List UInt8}
    {serverStatus : UInt16}
    (h : cp.updatePrepStmtStatus request serverStatus = some cp') :
    cp.Keeps cp' := by
  unfold updatePrepStmtStatus at h
  simp only [Option.bind_eq_bind, Option.bind_eq_some_iff] at h
  obtain ⟨cmd, -, h⟩ := h
  -- the statement commands update one entry, the two resets clear them all
  by_cases hstmt : cmd = ComStmtSendLongData ∨ cmd = ComStmtExecute ∨ cmd = ComStmtFetch ∨
      cmd = ComStmtReset ∨ cmd = ComStmtClose
  · rw [if_pos hstmt] at h
    simp only [Option.bind_eq_some_iff] at h
    obtain ⟨_, -, _, -, h⟩ := h
    split_ifs at h <;> (simp only [Option.pure_def, Option.some.injEq] at h; subst h; exact Keeps.of_eq rfl rfl)
  · rw [if_neg hstmt] at h
    split_ifs at h <;> (simp only [Option.pure_def, Option.some.injEq] at h; subst h; exact Keeps.of_eq rfl rfl)

theorem keeps_updateServerStatus
    {cp cp' : CmdProcessor}
    {request : List UInt8}
    {serverStatus : UInt16}
    (h : cp.updateServerStatus request serverStatus = some cp') :
    cp.Keeps cp' :=
  (keeps_updateTxnStatus cp serverStatus).trans (keeps_updatePrepStmtStatus h)

theorem keeps_handleOKPacket
    {cp cp' : CmdProcessor}
    {request response : List UInt8}
    {status : UInt16}
    (h : cp.handleOKPacket request response = some (status, cp')) :
    cp.Keeps cp' := by
  unfold handleOKPacket at h
  simp only [Option.bind_eq_bind, Option.bind_eq_some_iff, Option.pure_def, Option.some.injEq,
    Prod.mk.injEq] at h
  obtain ⟨_, -, _, hupdate, -, rfl⟩ := h
  exact keeps_updateServerStatus hupdate

theorem keeps_handleEOFPacket
    {cp cp' : CmdProcessor}
    {request response : List UInt8}
    {status : UInt16}
    (h : cp.handleEOFPacket request response = some (status, cp')) :
    cp.Keeps cp' := by
  unfold handleEOFPacket at h
  simp only [Option.bind_eq_bind, Option.bind_eq_some_iff, Option.pure_def, Option.some.injEq,
    Prod.mk.injEq] at h
  obtain ⟨_, -, _, -, _, hupdate, -, rfl⟩ := h
  exact keeps_updateServerStatus hupdate

theorem keeps_forwardQuit
    (cp : CmdProcessor) :
    cp.Keeps cp.forwardQuit :=
  ⟨rfl, fun _ => by
    rw [forwardQuit, or_quit_and_quit]
    decide⟩

end CmdProcessor

/-- Two states whose processors `Keeps` relates. -/
def CmdState.Keeps
    (s s' : CmdState) : Prop :=
  s.cp.Keeps s'.cp

instance : Std.Refl CmdState.Keeps :=
  ⟨fun s => CmdProcessor.Keeps.refl s.cp⟩

instance : IsTrans CmdState CmdState.Keeps :=
  ⟨fun _ _ _ h₁ h₂ => CmdProcessor.Keeps.trans h₁ h₂⟩

open ExceptState

namespace CmdM

/-- A method that leaves the processor as it is. -/
theorem moves_of_cp_eq
    {α : Type}
    {m : CmdM α}
    (h : ∀ s, (run m s).2.cp = s.cp) :
    Moves CmdState.Keeps m := fun s => by
  unfold CmdState.Keeps
  rw [h s]
  exact CmdProcessor.Keeps.refl s.cp

theorem moves_ofOption
    {α : Type}
    (o : Option α) :
    Moves CmdState.Keeps (ofOption o) := by
  cases o with
  | some a => exact Moves.pure a
  | none => exact Moves.throw _

theorem moves_writeBackend
    (data : List UInt8) :
    Moves CmdState.Keeps (writeBackend data) :=
  moves_of_cp_eq fun _ => rfl

theorem moves_forwardToClient :
    Moves CmdState.Keeps forwardToClient :=
  moves_of_cp_eq fun s => by
    simp only [forwardToClient, run_get_bind]
    split <;> simp

theorem moves_forwardToBackend :
    Moves CmdState.Keeps forwardToBackend :=
  moves_of_cp_eq fun s => by
    simp only [forwardToBackend, run_get_bind]
    split <;> simp

theorem moves_forwardUntil
    (isEnd : UInt8 → Nat → Bool × Bool) :
    Moves CmdState.Keeps (forwardUntil isEnd) :=
  moves_of_cp_eq fun s => by
    simp only [forwardUntil, run_get_bind]
    split <;> simp

theorem moves_deprecateEOF :
    Moves CmdState.Keeps deprecateEOF :=
  moves_of_cp_eq fun _ => rfl

theorem moves_handleOKPacket
    (request response : List UInt8) :
    Moves CmdState.Keeps (handleOKPacket request response) := fun s => by
  simp only [handleOKPacket, run_get_bind, ofOption]
  split
  · rename_i h
    simpa [CmdState.Keeps] using CmdProcessor.keeps_handleOKPacket h
  · exact CmdProcessor.Keeps.refl s.cp

theorem moves_handleEOFPacket
    (request response : List UInt8) :
    Moves CmdState.Keeps (handleEOFPacket request response) := fun s => by
  simp only [handleEOFPacket, run_get_bind, ofOption]
  split
  · rename_i h
    simpa [CmdState.Keeps] using CmdProcessor.keeps_handleEOFPacket h
  · exact CmdProcessor.Keeps.refl s.cp

theorem moves_handleErrorPacket
    {α : Type}
    (response : List UInt8) :
    Moves CmdState.Keeps (@handleErrorPacket α response) :=
  (moves_ofOption _).bind fun _ => Moves.throw _

theorem moves_updatePrepStmtStatus
    (request : List UInt8)
    (serverStatus : UInt16) :
    Moves CmdState.Keeps (updatePrepStmtStatus request serverStatus) := fun s => by
  simp only [updatePrepStmtStatus, run_get_bind, ofOption]
  split
  · rename_i h
    simpa [CmdState.Keeps] using CmdProcessor.keeps_updatePrepStmtStatus h
  · exact CmdProcessor.Keeps.refl s.cp

end CmdM

/-! ### Every command keeps the capability and `StatusQuit` -/

theorem moves_forwardUntilResultEnd
    (request : List UInt8) :
    Moves CmdState.Keeps (forwardUntilResultEnd request) := by
  refine moves_deprecateEOF.bind fun deprecateEOF => (moves_forwardUntil _).bind fun response => ?_
  cases response with
  | nil => exact Moves.throw _
  | cons first _ =>
      exact Moves.ite (moves_handleErrorPacket _)
        (Moves.ite (moves_handleEOFPacket _ _) (moves_handleOKPacket _ _))

/-- The counting loop of a prepare response relays packets only. -/
theorem moves_forwardPrepareCmd :
    Moves CmdState.Keeps forwardPrepareCmd := by
  refine moves_forwardToClient.bind fun response => ?_
  cases response with
  | nil => exact Moves.throw _
  | cons first _ =>
      refine Moves.ite ?_ (Moves.ite (moves_handleErrorPacket _) (Moves.throw _))
      refine (moves_ofOption _).bind fun _ => (moves_ofOption _).bind fun _ =>
        (moves_ofOption _).bind fun _ => (moves_ofOption _).bind fun _ =>
          moves_deprecateEOF.bind fun _ => Moves.ite ?_ (Moves.pure _)
      refine Moves.get_bind fun s => ?_
      split <;> simpa [CmdState.Keeps] using CmdProcessor.Keeps.refl s.cp

theorem moves_loadInFileLoop :
    ∀ fuel, Moves CmdState.Keeps (loadInFileLoop fuel)
  | 0 => Moves.throw _
  | fuel + 1 =>
      moves_forwardToBackend.bind fun _ => Moves.ite (Moves.pure _) (moves_loadInFileLoop fuel)

theorem moves_forwardLoadInFile
    (request : List UInt8) :
    Moves CmdState.Keeps (forwardLoadInFile request) := by
  refine Moves.get_bind fun s => ?_
  refine ((moves_loadInFileLoop _).bind fun _ => moves_forwardToClient.bind fun response => ?_) s
  cases response with
  | nil => exact Moves.throw _
  | cons first _ =>
      exact Moves.ite (moves_handleOKPacket _ _)
        (Moves.ite (moves_handleErrorPacket _) (Moves.throw _))

theorem moves_forwardResultSet
    (request : List UInt8) :
    Moves CmdState.Keeps (forwardResultSet request) :=
  moves_deprecateEOF.bind fun _ =>
    Moves.ite
      ((moves_forwardUntil _).bind fun _ => (moves_ofOption _).bind fun _ =>
        (moves_ofOption _).bind fun _ =>
          Moves.ite (moves_handleEOFPacket _ _) (moves_forwardUntilResultEnd _))
      (moves_forwardUntilResultEnd _)

theorem moves_forwardQueryResult
    (request : List UInt8)
    (first : UInt8)
    (response : List UInt8) :
    Moves CmdState.Keeps (forwardQueryResult request first response) :=
  Moves.ite (moves_handleOKPacket _ _) (Moves.ite (moves_handleErrorPacket _)
    (Moves.ite (moves_forwardLoadInFile _) (moves_forwardResultSet _)))

theorem moves_forwardQueryLoop
    (request : List UInt8) :
    ∀ fuel, Moves CmdState.Keeps (forwardQueryLoop request fuel)
  | 0 => Moves.throw _
  | fuel + 1 => by
      unfold forwardQueryLoop
      refine Moves.get_bind fun s => ?_
      -- the first byte is read from the state before the relay; which it is does not matter
      generalize ((Peek s.backendIO 5).getD []).getD 4 0 = first
      dsimp only
      exact ((moves_forwardUntil _).bind fun _ => (moves_forwardQueryResult _ _ _).bind fun _ =>
        Moves.ite (Moves.pure _) (moves_forwardQueryLoop request fuel)) s

theorem moves_changeUserRelay
    (request : List UInt8) :
    ∀ fuel, Moves CmdState.Keeps (changeUserRelay request fuel)
  | 0 => Moves.throw _
  | fuel + 1 => by
      refine moves_forwardToClient.bind fun response => ?_
      cases response with
      | nil => exact Moves.throw _
      | cons first _ =>
          exact Moves.ite (Moves.map _ (moves_handleOKPacket _ _))
            (Moves.ite (moves_handleErrorPacket _)
              ((Moves.map _ moves_forwardToBackend).bind fun _ => moves_changeUserRelay request fuel))

theorem moves_forwardChangeUserCmd
    (request : List UInt8) :
    Moves CmdState.Keeps (forwardChangeUserCmd request) := by
  refine Moves.get_bind fun s => ?_
  refine ((moves_ofOption _).bind fun _ => Moves.get_bind fun s => ?_) s
  refine ((moves_writeBackend _).bind fun _ => Moves.get_bind fun s => ?_) s
  exact moves_changeUserRelay request _ s

theorem moves_forwardOtherCmd
    (cmd : UInt8)
    (request : List UInt8) :
    Moves CmdState.Keeps (forwardOtherCmd cmd request) := by
  refine moves_forwardToClient.bind fun response => ?_
  cases response with
  | nil => exact Moves.throw _
  | cons first _ =>
      refine Moves.ite (Moves.map _ (moves_handleOKPacket _ _))
        (Moves.ite (moves_handleErrorPacket _) (Moves.ite ?_ (Moves.throw _)))
      exact moves_deprecateEOF.bind fun _ =>
        Moves.ite (Moves.map _ (moves_handleEOFPacket _ _)) (Moves.map _ (moves_handleOKPacket _ _))

theorem moves_forwardResponse
    (cmd : UInt8)
    (request : List UInt8) :
    Moves CmdState.Keeps (forwardResponse cmd request) := by
  unfold forwardResponse
  refine Moves.ite moves_forwardPrepareCmd ?_
  refine Moves.ite (Moves.map _ (moves_forwardUntilResultEnd _)) ?_
  refine Moves.ite (Moves.get_bind fun s => moves_forwardQueryLoop request _ s) ?_
  refine Moves.ite (moves_updatePrepStmtStatus _ _) ?_
  refine Moves.ite (moves_updatePrepStmtStatus _ _) ?_
  refine Moves.ite (moves_forwardChangeUserCmd _) ?_
  refine Moves.ite (Moves.map _ moves_forwardToClient) ?_
  refine Moves.ite (Moves.map _ (moves_forwardUntilResultEnd _)) ?_
  exact Moves.ite (Moves.modify fun s => CmdProcessor.keeps_forwardQuit s.cp)
    (moves_forwardOtherCmd _ _)

/-- No command changes the capability or clears `StatusQuit`. -/
theorem moves_forwardCommand
    (request : List UInt8) :
    Moves CmdState.Keeps (forwardCommand request) := by
  refine (moves_ofOption _).bind fun cmd => ?_
  dsimp only
  exact Moves.ite ((moves_writeBackend _).bind fun _ => moves_forwardResponse cmd request)
    (moves_forwardResponse cmd request)

/-- A processor with `StatusQuit` set never says that its transaction is finished. -/
theorem CmdProcessor.finishedTxn_of_quit
    (cp : CmdProcessor)
    (hquit : cp.serverStatus &&& StatusQuit ≠ 0) :
    cp.finishedTxn = false := by
  have hflags : cp.serverStatus &&& (StatusInTrans ||| StatusQuit) ≠ 0 := by
    intro h
    apply hquit
    -- `StatusQuit` is one of the two flags `finishedTxn` tests
    calc cp.serverStatus &&& StatusQuit
        = cp.serverStatus &&& ((StatusInTrans ||| StatusQuit) &&& StatusQuit) := by rfl
      _ = 0 := by rw [← UInt32.and_assoc, h, UInt32.zero_and]
  have hpos : cp.serverStatus &&& (StatusInTrans ||| StatusQuit) > 0 := by
    rw [gt_iff_lt, UInt32.lt_iff_toNat_lt]
    have hne := mt UInt32.toNat_inj.mp hflags
    simp only [UInt32.toNat_zero] at hne ⊢
    omega
  simp [CmdProcessor.finishedTxn, hpos]

/-- `COM_QUIT` has no response: it only marks the session. -/
theorem forwardResponse_quit
    (request : List UInt8) :
    forwardResponse ComQuit request = modify fun s => { s with cp := s.cp.forwardQuit } := by
  rfl

/-- `COM_QUIT` sets `StatusQuit`. -/
theorem forwardCommand_quit
    (request : List UInt8)
    (s : CmdState)
    (hquit : request[0]? = some ComQuit) :
    (run (forwardCommand request) s).2.cp.serverStatus &&& StatusQuit ≠ 0 := by
  have hrun : run (forwardCommand request) s =
      run (forwardResponse ComQuit request) { s with backendIO := WritePacket s.backendIO request } := by
    simp only [forwardCommand, hquit, ofOption, run_pure_bind]
    rfl
  rw [hrun, forwardResponse_quit, run_modify]
  show (_ ||| StatusQuit) &&& StatusQuit ≠ 0
  rw [CmdProcessor.or_quit_and_quit]
  decide

/-- The commands of a session, each relayed from the state the one before it left. -/
def serveCommands : List (List UInt8) → CmdState → CmdState
  | [], s => s
  | request :: requests, s => serveCommands requests (run (forwardCommand request) s).2

/-- The commands of a session keep the capability and never clear `StatusQuit`. -/
theorem serveCommands_keeps :
    ∀ (requests : List (List UInt8)) (s : CmdState), s.cp.Keeps (serveCommands requests s).cp := by
  intro requests
  induction requests with
  | nil => exact fun s => CmdProcessor.Keeps.refl s.cp
  | cons request requests ih =>
      exact fun s => CmdProcessor.Keeps.trans (moves_forwardCommand request s) (ih _)

/-- A session that has sent `COM_QUIT` ends with `StatusQuit` set. -/
theorem serveCommands_quitSet :
    ∀ (requests : List (List UInt8)) (s : CmdState),
      (∃ request ∈ requests, request[0]? = some ComQuit) →
        (serveCommands requests s).cp.serverStatus &&& StatusQuit ≠ 0 := by
  intro requests
  induction requests with
  | nil => simp
  | cons request requests ih =>
      intro s hmem
      obtain ⟨r, hr, hquit⟩ := hmem
      rcases List.mem_cons.mp hr with rfl | hr
      · -- the flag set by the `COM_QUIT` stays set to the end of the run
        exact (serveCommands_keeps requests _).quit (forwardCommand_quit r s hquit)
      · exact ih _ ⟨r, hr, hquit⟩

/-- No command of a session changes the processor's capability.  From the first
`COM_QUIT` on, or from the start when `StatusQuit` is already set, the flag stays set
and the processor says that the transaction is not finished, whatever the backend
answers. -/
theorem serveCommands_quit :
    ∀ (requests : List (List UInt8)) (s : CmdState),
      (serveCommands requests s).cp.capability = s.cp.capability ∧
        ((s.cp.serverStatus &&& StatusQuit ≠ 0 ∨ ∃ request ∈ requests, request[0]? = some ComQuit) →
          (serveCommands requests s).cp.serverStatus &&& StatusQuit ≠ 0 ∧
            (serveCommands requests s).cp.finishedTxn = false) := by
  intro requests s
  have hkeeps := serveCommands_keeps requests s
  refine ⟨hkeeps.capability, fun hquit => ?_⟩
  -- the flag is set at the start or by the session's `COM_QUIT`, and stays set
  have hset : (serveCommands requests s).cp.serverStatus &&& StatusQuit ≠ 0 := by
    rcases hquit with hstart | hsent
    · exact hkeeps.quit hstart
    · exact serveCommands_quitSet requests s hsent
  exact ⟨hset, CmdProcessor.finishedTxn_of_quit _ hset⟩

/-- A session that quits and then sends a query, whose answer is never read. -/
theorem serveCommands_quit_query :
    (∃ request ∈ [[ComQuit], [ComQuery, 0x31]], request[0]? = some ComQuit) ∧
      (serveCommands [[ComQuit], [ComQuery, 0x31]]
          ⟨⟨∅, ClientProtocol41, 0⟩, ⟨[], [], 1, 0, 0, 0, 0⟩, ⟨[], [], 0, 0, 0, 0, 0⟩⟩).cp.capability =
        ClientProtocol41 ∧
      (serveCommands [[ComQuit], [ComQuery, 0x31]]
          ⟨⟨∅, ClientProtocol41, 0⟩, ⟨[], [], 1, 0, 0, 0, 0⟩, ⟨[], [], 0, 0, 0, 0, 0⟩⟩).cp.serverStatus &&&
        StatusQuit ≠ 0 ∧
      (serveCommands [[ComQuit], [ComQuery, 0x31]]
        ⟨⟨∅, ClientProtocol41, 0⟩, ⟨[], [], 1, 0, 0, 0, 0⟩, ⟨[], [], 0, 0, 0, 0, 0⟩⟩).cp.finishedTxn =
          false := by
  have hsent : ∃ request ∈ [[ComQuit], [ComQuery, 0x31]], request[0]? = some ComQuit :=
    ⟨[ComQuit], List.mem_cons_self, rfl⟩
  have hrun := serveCommands_quit [[ComQuit], [ComQuery, 0x31]]
    ⟨⟨∅, ClientProtocol41, 0⟩, ⟨[], [], 1, 0, 0, 0, 0⟩, ⟨[], [], 0, 0, 0, 0, 0⟩⟩
  exact ⟨hsent, hrun.1, hrun.2 (Or.inr hsent)⟩

end Backend
end TiProxy
