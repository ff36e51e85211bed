import TiProxy.Util.Lex
import TiProxy.Net.Command
import TiProxy.Replay.Cmd
import TiProxy.Lib.Transition
import Mathlib.Logic.Function.Basic

/-!
# Traffic capture

A model of one capture job of `pkg/sqlreplay/capture/capture.go`, from `Start` to
the meta file: the connection goroutines calling `InitConn` and `Capture`, `Stop`,
and the two goroutines `run` starts, `collectCmds` and `flushBuffer`.

The goroutines interleave at the capture's lock and at channel operations, so the
model is a step function over the whole job, one action per atomic section:

* `InitConn` is one section under the lock.  `Capture` is three: it reads the
  status and `inited` under the lock, calls `initSession` unlocked and puts its
  statement under the lock again, and puts the request under the lock a third
  time.  The result of `initSession` is the environment's choice.
* `stopNoLock` sets `statusStopping`, closes `cmdCh` and clears `conns`; `cmdCh`
  is closed exactly when the status is `stopping`, so the model keeps the status
  only.  A `Stop` call and the end of the job's duration both call it.
* `collectCmds` encodes each command it receives into its buffer and sends the
  buffer to `bufCh` once it is longer than `flushThreshold`, without waiting; at
  the end it sends the last buffer, waiting, and closes `bufCh`.  Encoding into a
  `bytes.Buffer` does not fail, and only the length of a command's encoding
  matters here, so the encoding is a length function: `Command.encodedLen` is the
  length of what `Command.Encode` writes, given the formatted start time.
* `flushBuffer` writes each buffer it receives, closes the writer and writes the
  meta file.  Whether a write succeeds is the environment's choice.
  `store.NewWriter` does not fail, so the writer always exists.

Each connection runs a `ConnProgram`: its calls in order, with the position of
the next call and the section it is in.  Two lists the code does not keep state
what the capture did: `accepted`, every command sent to `cmdCh`, and `failures`,
the errors that stop a capture or lose data.

**Results.**  `CaptureReachable` and the step function; the statements are in
`Capture.Pipeline` and `Capture.Shape`.
-/

namespace TiProxy
namespace Capture

open Net TiProxy.Lex

/-- `cmd.Command`, with the fields the capture reads and writes. -/
structure Command where
  ConnID : Nat
  type : UInt8
  Payload : List UInt8
deriving DecidableEq, Repr

/-- `cmd.NewCommand`: none for an empty packet, else the command whose type is
the packet's first byte. -/
def NewCommand
    (packet : List UInt8)
    (connID : Nat) : Option Command :=
  match packet with
  | [] => none
  | type :: _ => some ⟨connID, type, packet⟩

theorem payload_ne_nil_of_NewCommand
    {packet : List UInt8}
    {connID : Nat}
    {command : Command}
    (h : NewCommand packet connID = some command) :
    command.Payload ≠ [] := by
  cases packet with
  | nil => cases h
  | cons type rest =>
      cases h
      simp

/-- `strings.ReplaceAll` with a one-byte pattern. -/
def replaceAll
    (s : List UInt8)
    (old : UInt8)
    (new : List UInt8) : List UInt8 :=
  s.flatMap (fun c => if c = old then new else [c])

/-- The statement `initForCapture` returns when it succeeds: `sqlSetState` applied
to the session states, with backslashes and then quotes escaped. -/
def initForCapture
    (sessionStates : List UInt8) : List UInt8 :=
  let sessionStates := replaceAll sessionStates 92 [92, 92]
  let sessionStates := replaceAll sessionStates 39 [92, 39]
  asciiBytes "SET SESSION_STATES " ++ 39 :: sessionStates ++ [39]

/-- What `Command.Encode` writes for a captured command whose start time formats to
`startTs`: a command `NewCommand` made has succeeded. -/
def Command.encode
    (startTs : List UInt8)
    (c : Command) : Option (List UInt8) :=
  Cmd.Command.Encode id ⟨c.Payload, startTs, UInt64.ofNat c.ConnID, c.type, true⟩

/-- `buf.Len()` grows by this much when `collectCmds` encodes the command. -/
def Command.encodedLen
    (startTs : List UInt8)
    (c : Command) : Nat :=
  ((c.encode startTs).getD []).length

/-- A command with a payload has a non-empty encoding: `Command.Encode` ends it with a
newline. -/
theorem Command.encodedLen_pos
    (startTs : List UInt8)
    {c : Command}
    (h : c.Payload ≠ []) :
    0 < c.encodedLen startTs := by
  obtain ⟨type, data, hc⟩ := List.exists_cons_of_ne_nil h
  simp only [Command.encodedLen, Command.encode, Cmd.Command.Encode, hc, Option.getD_some,
    List.length_append, List.length_singleton]
  omega

/-- `statusRunning`, or `statusStopping` once `stopNoLock` ran. -/
inductive Status where
  | running
  | stopping
deriving DecidableEq, Repr

/-- A call of a connection goroutine into the capture.  `capture packet initSession`
is `Capture` with a non-nil `initSession` (from `ExecuteCmd`) or a nil one (from
`Close`). -/
inductive Call where
  | initConn (db : List UInt8)
  | capture (packet : List UInt8) (initSession : Bool)
deriving DecidableEq, Repr

/-- The `COM_QUIT` that `BackendConnManager.Close` captures. -/
def closeCall : Call :=
  .capture [ComQuit] false

/-- What one connection calls during the capture (`backend_conn_mgr.go`): `InitConn`
with its database when it connects, if that is within the capture; `Capture` of
every request `ExecuteCmd` forwards; and `Close`'s `COM_QUIT` if it closes within
the capture.  The client loop (`processMsg`) ends after a `COM_QUIT` request, so
only the last request may be one. -/
structure ConnProgram where
  db : Option (List UInt8)
  requests : List (List UInt8)
  closes : Bool
  quit_last : ∀ r ∈ requests.dropLast, r.head? ≠ some ComQuit

/-- The calls of a connection, in order. -/
def ConnProgram.calls
    (p : ConnProgram) : List Call :=
  (p.db.map Call.initConn).toList ++ p.requests.map (fun r => Call.capture r true) ++
    (if p.closes then [closeCall] else [])

/-- Where a connection is in its current call. -/
inductive CallPhase where
  /-- between two calls -/
  | ready
  /-- `Capture` found the connection not inited and calls `initSession` -/
  | initing
  /-- `Capture` is to put the request -/
  | putting
deriving DecidableEq, Repr

/-- A connection goroutine: the position of its current call, and where it is in it. -/
structure ConnState where
  pc : Nat
  phase : CallPhase
deriving DecidableEq, Repr

/-- Where `collectCmds` is. -/
inductive CollectorPhase where
  /-- in the loop over `cmdCh` -/
  | collecting
  /-- `bufCh` was full: it stops the capture and returns -/
  | full
  /-- returned, and `bufCh` is closed -/
  | done
deriving DecidableEq, Repr

/-- Where `flushBuffer` is. -/
inductive FlusherPhase where
  /-- in the loop over `bufCh` -/
  | flushing
  /-- a write failed: it stops the capture and leaves the loop -/
  | writeFailed
  /-- out of the loop: it closes the writer -/
  | closing
  /-- the writer is closed: it writes the meta file -/
  | writingMeta
  | done
deriving DecidableEq, Repr

/-- The three limits of `CaptureConfig` the job reads: `flushThreshold`,
`maxBuffers` (the capacity of `bufCh`) and `maxPendingCommands` (that of `cmdCh`). -/
structure CaptureConfig where
  flushThreshold : Nat
  maxBuffers : Nat
  maxPendingCommands : Nat
deriving DecidableEq, Repr

/-- The error `putCommand` stops the capture with when `cmdCh` is full. -/
def errEncodingSlow : String :=
  "encoding traffic is too slow, buffer is full"

/-- The error `collectCmds` stops the capture with when `bufCh` is full. -/
def errFlushingSlow : String :=
  "flushing traffic to disk is too slow, buffer is full"

/-- The message `flushBuffer` wraps a write error in. -/
def errFlushFailed : String :=
  "failed to flush traffic to disk"

/-- The warning `flushBuffer` logs when closing the writer fails. -/
def warnCloseFailed : String :=
  "failed to close command logger"

/-- A capture job: the fields of `capture` it uses, the state of `collectCmds`
(its buffer) and of `flushBuffer`, `bufCh`, what was written to the traffic files
(the commands of every buffer whose `Write` returned no error) and the `Cmds` and
`FilteredCmds` of the meta file, every connection, and the two ghost lists. -/
structure CaptureSys where
  status : Status
  conns : Nat → Bool
  cmdCh : List Command
  err : Option String
  capturedCmds : Nat
  filteredCmds : Nat
  buf : List Command
  bufCh : List (List Command)
  collector : CollectorPhase
  flusher : FlusherPhase
  written : List Command
  metaFile : Option (Nat × Nat)
  conn : Nat → ConnState
  accepted : List Command
  failures : List String

/-- The job as `Start` leaves it. -/
def CaptureSys.init : CaptureSys where
  status := .running
  conns := fun _ => false
  cmdCh := []
  err := none
  capturedCmds := 0
  filteredCmds := 0
  buf := []
  bufCh := []
  collector := .collecting
  flusher := .flushing
  written := []
  metaFile := none
  conn := fun _ => ⟨0, .ready⟩
  accepted := []
  failures := []

/-- The length of a buffer, `buf.Len()`, from the length of each command's encoding. -/
def bufLen
    (encodedLen : Command → Nat)
    (buf : List Command) : Nat :=
  (buf.map encodedLen).sum

namespace CaptureSys

variable (cfg : CaptureConfig) (s : CaptureSys)

/-- `stopNoLock(err)`: the first error is kept. -/
def stopNoLock
    (err : Option String) : CaptureSys :=
  if s.status ≠ .running then s
  else { s with status := .stopping, err := if s.err = none then err else s.err, conns := fun _ => false }

/-- `stopNoLock` changes the status, the error and `conns` only. -/
theorem stopNoLock_eq_with
    (err : Option String) :
    ∃ status e conns, s.stopNoLock err = { s with status := status, err := e, conns := conns } := by
  unfold stopNoLock
  split
  · exact ⟨s.status, s.err, s.conns, rfl⟩
  · exact ⟨_, _, _, rfl⟩

/-- After `stopNoLock` the capture is stopping, whether or not it was running. -/
@[simp] theorem stopNoLock_status
    (err : Option String) :
    (s.stopNoLock err).status = .stopping := by
  unfold stopNoLock
  split
  · rename_i hrun
    cases h : s.status
    · exact absurd h hrun
    · rfl
  · rfl

/-- The switch of `putCommand`: the command to send, or none when `putCommand`
returns false before the send. -/
def putSwitch
    (command : Command) : Option Command × CaptureSys :=
  if command.type = ComQuit then
    if s.conns command.ConnID then
      (some command, { s with conns := Function.update s.conns command.ConnID false })
    else
      -- a duplicated quit is ignored
      (none, s)
  else if command.type = ComChangeUser then
    (some { command with type := ComResetConnection, Payload := [ComResetConnection] }, s)
  else if command.type = ComQuery ∧ IsSensitiveSQL command.Payload.tail then
    (none, { s with filteredCmds := s.filteredCmds + 1 })
  else
    (some command, s)

/-- The send of `putCommand` to `cmdCh`, which does not wait: a full channel stops
the capture. -/
def send
    (command : Command) : Bool × CaptureSys :=
  if s.cmdCh.length < cfg.maxPendingCommands then
    (true, { s with cmdCh := s.cmdCh ++ [command], accepted := s.accepted ++ [command] })
  else
    (false, { s.stopNoLock (some errEncodingSlow) with failures := s.failures ++ [errEncodingSlow] })

/-- `putCommand`. -/
def putCommand
    (command : Command) : Bool × CaptureSys :=
  if s.status ≠ .running then (false, s)
  else
    match s.putSwitch command with
    | (none, s) => (false, s)
    | (some command, s) => s.send cfg command

/-- `InitConn(connID, db)`. -/
def InitConn
    (connID : Nat)
    (db : List UInt8) : CaptureSys :=
  if s.status ≠ .running then s
  else if db = [] then { s with conns := Function.update s.conns connID true }
  else
    match NewCommand (ComInitDB :: db) connID with
    | none => s
    | some command =>
        let s := (s.putCommand cfg command).2
        { s with conns := Function.update s.conns connID true }

/-- The first section of `Capture`: what the call does next, from the status and
whether the connection is inited. -/
def captureCheck
    (connID : Nat)
    (packet : List UInt8)
    (initSession : Bool) : CallPhase :=
  if s.status ≠ .running then .ready
  else if s.conns connID then .putting
  else if !initSession ∨ packet = [] ∨ packet.head? = some ComQuit then .ready
  else .initing

/-- The second section of `Capture`, after `initSession` returned its statement: put
the statement (the command `NewCommand` makes of the non-empty packet) and mark the
connection inited if it was sent. -/
def captureInit
    (connID : Nat)
    (sessionStates : List UInt8) : CaptureSys :=
  let command : Command := ⟨connID, ComQuery, ComQuery :: initForCapture sessionStates⟩
  let (ok, s) := s.putCommand cfg command
  if ok then { s with conns := Function.update s.conns connID true } else s

/-- The third section of `Capture`: put the request. -/
def capturePut
    (connID : Nat)
    (packet : List UInt8) : CaptureSys :=
  match NewCommand packet connID with
  | none => s
  | some command => (s.putCommand cfg command).2

/-- One pass of the loop of `collectCmds` on a received command: encode it into the
buffer, count it, and send the buffer on once it is longer than `flushThreshold`,
or find `bufCh` full. -/
def collect
    (encodedLen : Command → Nat)
    (command : Command) : CaptureSys :=
  let s := { s with buf := s.buf ++ [command], capturedCmds := s.capturedCmds + 1 }
  if bufLen encodedLen s.buf > cfg.flushThreshold then
    if s.bufCh.length < cfg.maxBuffers then { s with bufCh := s.bufCh ++ [s.buf], buf := [] }
    else { s with collector := .full, failures := s.failures ++ [errFlushingSlow] }
  else s

/-- Replace the state of connection `id`. -/
def setConn
    (id : Nat)
    (c : ConnState) : CaptureSys :=
  { s with conn := Function.update s.conn id c }

/-- Connection `id` returns from its call and moves to the next one. -/
def finishCall
    (id : Nat) : CaptureSys :=
  s.setConn id ⟨(s.conn id).pc + 1, .ready⟩

/-- Connection `id` moves to another section of its call. -/
def setPhase
    (id : Nat)
    (phase : CallPhase) : CaptureSys :=
  s.setConn id ⟨(s.conn id).pc, phase⟩

end CaptureSys

open CaptureSys

/-- One atomic section of one goroutine, with the environment's choices: the result
of `initSession` (none for an error), the reason given to `Stop` (none when the
duration ends), and whether a write of the flusher succeeds. -/
inductive Action where
  | initConn (id : Nat)
  | check (id : Nat)
  | initSession (id : Nat) (sessionStates : Option (List UInt8))
  | put (id : Nat)
  | stop (err : Option String)
  | collect
  | collectStop
  | collectEnd
  | flush (ok : Bool)
  | flushStop
  | flushEnd
  | closeLogger (ok : Bool)
  | writeMeta (ok : Bool)
deriving DecidableEq, Repr

/-- The current call of connection `id`. -/
def currentCall
    (progs : Nat → ConnProgram)
    (s : CaptureSys)
    (id : Nat) : Option Call :=
  (progs id).calls[(s.conn id).pc]?

/-- The step function: the state after an action, or none when the action is not
enabled. -/
def captureStep
    (cfg : CaptureConfig)
    (encodedLen : Command → Nat)
    (progs : Nat → ConnProgram)
    (s : CaptureSys) : Action → Option CaptureSys
  | .initConn id =>
      match (s.conn id).phase, currentCall progs s id with
      | .ready, some (.initConn db) => some ((s.InitConn cfg id db).finishCall id)
      | _, _ => none
  | .check id =>
      match (s.conn id).phase, currentCall progs s id with
      | .ready, some (.capture packet initSession) =>
          match s.captureCheck id packet initSession with
          | .ready => some (s.finishCall id)
          | phase => some (s.setPhase id phase)
      | _, _ => none
  | .initSession id sessionStates =>
      match (s.conn id).phase, sessionStates with
      | .initing, none => some (s.finishCall id)
      | .initing, some states => some ((s.captureInit cfg id states).setPhase id .putting)
      | _, _ => none
  | .put id =>
      match (s.conn id).phase, currentCall progs s id with
      | .putting, some (.capture packet _) => some ((s.capturePut cfg id packet).finishCall id)
      | _, _ => none
  | .stop err => some (s.stopNoLock err)
  | .collect =>
      match s.collector, s.cmdCh with
      | .collecting, command :: rest => some ({ s with cmdCh := rest }.collect cfg encodedLen command)
      | _, _ => none
  | .collectStop =>
      match s.collector with
      | .full => some { s.stopNoLock (some errFlushingSlow) with collector := .done }
      | _ => none
  | .collectEnd =>
      -- the loop ends once cmdCh is closed and drained; the last buffer is sent waiting
      if s.collector = .collecting ∧ s.cmdCh = [] ∧ s.status = .stopping then
        if bufLen encodedLen s.buf > 0 then
          if s.bufCh.length < cfg.maxBuffers then
            some { s with bufCh := s.bufCh ++ [s.buf], buf := [], collector := .done }
          else none
        else some { s with collector := .done }
      else none
  | .flush ok =>
      match s.flusher, s.bufCh with
      | .flushing, b :: rest =>
          if ok then some { s with bufCh := rest, written := s.written ++ b }
          else some { s with bufCh := rest, flusher := .writeFailed, failures := s.failures ++ [errFlushFailed] }
      | _, _ => none
  | .flushStop =>
      match s.flusher with
      | .writeFailed => some { s.stopNoLock (some errFlushFailed) with flusher := .closing }
      | _ => none
  | .flushEnd =>
      if s.flusher = .flushing ∧ s.bufCh = [] ∧ s.collector = .done then
        some { s with flusher := .closing }
      else none
  | .closeLogger ok =>
      match s.flusher with
      | .closing =>
          some { s with
            flusher := .writingMeta
            failures := if ok then s.failures else s.failures ++ [warnCloseFailed] }
      | _ => none
  | .writeMeta ok =>
      match s.flusher with
      | .writingMeta =>
          some { s with flusher := .done, metaFile := if ok then some (s.capturedCmds, s.filteredCmds) else none }
      | _ => none

/-- The states a capture job reaches. -/
def CaptureReachable
    (cfg : CaptureConfig)
    (encodedLen : Command → Nat)
    (progs : Nat → ConnProgram) : CaptureSys → Prop :=
  Transition.Reachable (Transition.OfFn (captureStep cfg encodedLen progs))
    (fun s => s = CaptureSys.init)

end Capture
end TiProxy
