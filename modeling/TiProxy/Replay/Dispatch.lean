import TiProxy.Lib.Transition
import Mathlib.Logic.Function.Basic

/-!
# Replay: dispatching commands to connections

A model of how a traffic replay hands decoded commands to its connections:
`replay.readCommands`, `executeCmd` and `closeConn` (`pkg/sqlreplay/replay/replay.go`)
on one side, and for every connection `conn.Run`, `ExecuteCmd`, `updatePendingCmds`
and `close` (`pkg/sqlreplay/conn/conn.go`) on the other.

The goroutines interleave at their locks and channel operations, so the model is a
step function over the whole system, one action per atomic section:

* the reader receives a close event (`closeConn`), or, when no close event is
  waiting, decodes the next command and dispatches it; at the end of the stream, or
  when more commands are pending than the abort threshold, it stops decoding and
  calls `Stop` on the connections;
* a connection connects, takes its oldest command under `cmdLock`, executes it, and
  in `close` first resets its pending count under `cmdLock` and then sends its close
  event.

Each connection keeps two lists the code does not: `handed`, every command
`ExecuteCmd` pushed, and `taken`, every command `Run` took.  They state what a
connection did with its commands.

**Results.**  `ReplayReachable` and the step function; the statements are in
`Replay.PendingCmds`.
-/

namespace TiProxy
namespace Replay

/-- A decoded command, with what dispatching it depends on: its connection, whether
it is `COM_QUIT`, and whether `ReadOnly()` holds of it. -/
structure Command where
  ConnID : Nat
  isQuit : Bool
  readOnly : Bool
deriving DecidableEq, Repr

/-- Where `conn.Run` is. -/
inductive RunPhase where
  /-- connecting to the backend -/
  | connecting
  /-- in the loop, between two commands -/
  | running
  /-- executing a command it took from the list -/
  | executing (command : Command)
  /-- `Run` has returned; the deferred `close` has not run -/
  | returned
  /-- `close` has reset the pending count and not yet sent the close event -/
  | closing
  /-- the close event is sent -/
  | closed
deriving DecidableEq, Repr

/-- A connection: `cmdList` front first (`PushFront`, so `Back()` is the last element),
`lastPendingCmds`, where `Run` is, and the two ghost lists. -/
structure ConnState where
  cmdList : List Command
  lastPendingCmds : Nat
  phase : RunPhase
  handed : List Command
  taken : List Command
deriving DecidableEq, Repr

/-- A connection as `NewConn` creates it and `executeCmd` starts its `Run`. -/
def ConnState.fresh : ConnState :=
  ⟨[], 0, .connecting, [], []⟩

/-- The entry of a connection ID in the `conns` map of `readCommands`: none, the
connection, or `nil` once its close event was received. -/
inductive ConnEntry where
  | absent
  | live
  | nil
deriving DecidableEq, Repr

/-- Where `readCommands` is. -/
inductive ReaderPhase where
  | decoding
  | draining
  | stopped
deriving DecidableEq, Repr

/-- The whole replay: the reader's state (`decodedAny` is `!captureStartTs.IsZero()`),
every connection, `closeCh` and `ReplayStats`. -/
structure ReplaySys where
  stream : List Command
  conns : Nat → ConnEntry
  connState : Nat → ConnState
  created : List Nat
  closeCh : List Nat
  connCount : Nat
  PendingCmds : Int
  ReplayedCmds : Nat
  FilteredCmds : Nat
  cmdChClosed : Bool
  decodedAny : Bool
  reader : ReaderPhase

/-- A replay about to read `stream`. -/
def ReplaySys.init
    (stream : List Command) : ReplaySys where
  stream := stream
  conns := fun _ => .absent
  connState := fun _ => ConnState.fresh
  created := []
  closeCh := []
  connCount := 0
  PendingCmds := 0
  ReplayedCmds := 0
  FilteredCmds := 0
  cmdChClosed := false
  decodedAny := false
  reader := .decoding

/-- One atomic section of one goroutine. -/
inductive Action where
  | closeEvent
  | decode
  | stop
  | connect (id : Nat) (ok : Bool)
  | take (id : Nat)
  | execute (id : Nat) (disconnect : Bool)
  | closeReset (id : Nat)
  | closeSend (id : Nat)
deriving DecidableEq, Repr

namespace ReplaySys

variable (s : ReplaySys)

/-- Replace the state of connection `id`. -/
def setConn
    (id : Nat)
    (c : ConnState) : ReplaySys :=
  { s with connState := Function.update s.connState id c }

/-- `updatePendingCmds(pendingCmds)` of connection `id`: add the change since the last
report to `PendingCmds`. -/
def updatePendingCmds
    (id pendingCmds : Nat) : ReplaySys :=
  let c := s.connState id
  { s.setConn id { c with lastPendingCmds := pendingCmds } with
    PendingCmds := s.PendingCmds + ((pendingCmds : Int) - c.lastPendingCmds) }

/-- `conn.ExecuteCmd`: push the command and report the list's length. -/
def ExecuteCmd
    (id : Nat)
    (command : Command) : ReplaySys :=
  let c := s.connState id
  let s := s.setConn id { c with cmdList := command :: c.cmdList, handed := c.handed ++ [command] }
  s.updatePendingCmds id (c.cmdList.length + 1)

/-- `replay.executeCmd`: start a connection for a new connection ID, and hand the
command to the connection unless its entry is `nil`. -/
def executeCmd
    (command : Command) : ReplaySys :=
  let id := command.ConnID
  let s :=
    if s.conns id = .absent then
      { s with
        conns := Function.update s.conns id .live
        connState := Function.update s.connState id ConnState.fresh
        created := s.created ++ [id]
        connCount := s.connCount + 1 }
    else s
  if s.conns id = .live then s.ExecuteCmd id command else s

/-- `replay.closeConn`. -/
def closeConn
    (id : Nat) : ReplaySys :=
  if s.conns id = .live then
    { s with conns := Function.update s.conns id .nil, connCount := s.connCount - 1 }
  else s

/-- One pass of the inner loop of `Run` under `cmdLock`: report the list's length
before taking its oldest command; with an empty list, `Run` returns once `cmdCh` is
closed. -/
def take
    (id : Nat) : ReplaySys :=
  let c := s.connState id
  let pendingCmds := c.cmdList.length
  match c.cmdList.getLast? with
  | some command =>
      let s := s.setConn id
        { c with
          cmdList := c.cmdList.dropLast
          taken := c.taken ++ [command]
          phase := .executing command }
      s.updatePendingCmds id pendingCmds
  | none =>
      let s := s.updatePendingCmds id pendingCmds
      if s.cmdChClosed then s.setConn id { s.connState id with phase := .returned } else s

/-- Executing a taken command: filtered in read-only mode, ended by a disconnect
error, or counted as replayed; `Run` returns after `COM_QUIT`. -/
def execute
    (readonly : Bool)
    (id : Nat)
    (command : Command)
    (disconnect : Bool) : ReplaySys :=
  let c := s.connState id
  if readonly && !command.readOnly then
    { s.setConn id { c with phase := .running } with FilteredCmds := s.FilteredCmds + 1 }
  else if disconnect then
    s.setConn id { c with phase := .returned }
  else
    { s.setConn id { c with phase := if command.isQuit then .returned else .running } with
      ReplayedCmds := s.ReplayedCmds + 1 }

/-- The first atomic section of `conn.close`: `updatePendingCmds(0)` under `cmdLock`. -/
def closeReset
    (id : Nat) : ReplaySys :=
  let s := s.updatePendingCmds id 0
  s.setConn id { s.connState id with phase := .closing }

/-- The phase of connection `id`. -/
def phaseOf
    (id : Nat) : RunPhase :=
  (s.connState id).phase

end ReplaySys

open ReplaySys

/-- The step function: the state after an action, or `none` when the action is not
enabled.  `readonly` and `abortThreshold` are the replay's configuration. -/
def replayStep
    (readonly : Bool)
    (abortThreshold : Int)
    (s : ReplaySys) : Action → Option ReplaySys
  | .closeEvent =>
      match s.reader, s.closeCh with
      | .stopped, _ => none
      | _, [] => none
      | _, id :: ids => some ({ s with closeCh := ids }.closeConn id)
  | .decode =>
      match s.reader, s.closeCh, s.stream with
      | .decoding, [], [] =>
          -- end of file: Stop every connection and wait for their close events
          some { s with reader := .draining, cmdChClosed := true }
      | .decoding, [], command :: rest =>
          if s.decodedAny && s.PendingCmds > abortThreshold then
            -- too many pending commands: the decoded command is dropped
            some { s with stream := rest, reader := .draining, cmdChClosed := true }
          else
            some ({ s with stream := rest, decodedAny := true }.executeCmd command)
      | _, _, _ => none
  | .stop =>
      if s.reader = .draining ∧ s.connCount = 0 then some { s with reader := .stopped } else none
  | .connect id ok =>
      if id ∈ s.created ∧ s.phaseOf id = .connecting then
        some (s.setConn id { s.connState id with phase := if ok then .running else .returned })
      else none
  | .take id =>
      if id ∈ s.created ∧ s.phaseOf id = .running then some (s.take id) else none
  | .execute id disconnect =>
      match s.phaseOf id with
      | .executing command => some (s.execute readonly id command disconnect)
      | _ => none
  | .closeReset id =>
      if s.phaseOf id = .returned then some (s.closeReset id) else none
  | .closeSend id =>
      if s.phaseOf id = .closing then
        some ({ s with closeCh := s.closeCh ++ [id] }.setConn id { s.connState id with phase := .closed })
      else none

/-- The states a replay of `stream` reaches. -/
def ReplayReachable
    (readonly : Bool)
    (abortThreshold : Int)
    (stream : List Command) : ReplaySys → Prop :=
  Transition.Reachable (Transition.OfFn (replayStep readonly abortThreshold))
    (fun s => s = ReplaySys.init stream)

end Replay
end TiProxy
