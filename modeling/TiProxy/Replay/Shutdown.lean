import TiProxy.Replay.Dispatch

/-!
# Replay: shutting down over bounded channels

How a replay ends: `replay.readCommands` stops decoding, closes every connection's
`cmdCh` and then waits in its drain loop until each connection has sent its ID on
`closeCh`; `Replay.Stop` cancels the context and waits for `readCommands` and every
`conn.Run` (`r.wg.Wait()`).  A connection reports its errors on `exceptionCh`, whose
only reader is `report.readExceptions`.  Both channels hold `maxPendingExceptions`
values and both sends block when they are full.

Each goroutine's code between two blocking points is one step of `shutdownStep`:
`readCommands` (`replay.go`), every `conn.Run` with its deferred `close` (`conn.go`),
`readExceptions` (`report.go`) and `Replay.Stop`.  What `ExecuteCmd` and `Connect` of
the backend return, and where decoding ends, are parameters of the steps.  Only the
number of queued exceptions matters, so `exceptionCh` is a count.

`readExceptions` returns as soon as the context is cancelled, and a connection may
still be executing a command then.  Its error is sent with a blocking send; if the
channel is full, nobody receives it again.

**Results.**
* `exceptionStuck_stable`: a connection blocked on a full `exceptionCh` after the
  reader returned stays blocked, and `Replay.Stop` stays in `wg.Wait()`, whatever
  every goroutine does next.
* `replayStop_blocked_forever`: a replay of `maxPendingExceptions + 1` failing
  commands of one connection reaches that state.
-/

namespace TiProxy
namespace Replay

/-- `maxPendingExceptions`: the capacity of `exceptionCh` and of `closeCh`. -/
def maxPendingExceptions : Nat := 1024

/-- Where `conn.Run` is, with its deferred `close`. -/
inductive ConnPc where
  | connecting
  /-- at the `select` on `ctx.Done()` and `cmdCh` of the outer loop -/
  | selecting
  /-- in the inner loop, about to check the context and take the next command -/
  | running
  /-- in `backendConn.ExecuteCmd` -/
  | executing
  /-- blocked in `c.exceptionCh <- e`; `Run` returns after it when `thenReturn` -/
  | sendingException (thenReturn : Bool)
  /-- `Run` returned; `close` is about to send the ID on `closeCh` -/
  | closing
  | closed
deriving DecidableEq, Repr

/-- A connection's goroutine and its command list, as far as the channels see them. -/
structure ConnRun where
  pc : ConnPc
  /-- the length of `cmdList` -/
  cmdList : Nat
  /-- `cmdCh`, of capacity one, holds a wake-up -/
  cmdCh : Bool
  /-- `Stop` of the connection closed `cmdCh` -/
  cmdChClosed : Bool
  /-- `Run` received from the closed `cmdCh` (`finished`) -/
  finished : Bool
deriving DecidableEq, Repr

/-- A connection as `executeCmd` starts its `Run`. -/
def ConnRun.fresh : ConnRun :=
  ⟨.connecting, 0, false, false, false⟩

/-- What `backendConn.ExecuteCmd` did with a command, and whether it was `COM_QUIT`. -/
inductive ExecResult where
  /-- nothing to report: success, a command filtered in read-only mode, or an error
  for which `updateCmdForExecuteStmt` finds no prepared statement -/
  | ok (isQuit : Bool)
  /-- any other error that is not a disconnection: a `FailException` -/
  | failed (isQuit : Bool)
  /-- a disconnection: an `OtherException`, after which `Run` returns -/
  | disconnected
deriving DecidableEq, Repr

/-- Where `report.readExceptions` is. -/
inductive ReportPc where
  | reading
  | exited
deriving DecidableEq, Repr

/-- Where the call of `Replay.Stop` is. -/
inductive StopPc where
  | notCalled
  /-- the context is cancelled and `Stop` waits in `r.wg.Wait()` -/
  | waiting
  | returned
deriving DecidableEq, Repr

/-- The replay's goroutines and channels: the commands still to decode (their
connection IDs), the `conns` map and each connection's goroutine, `closeCh`, the
number of exceptions in `exceptionCh`, and where the others are. -/
structure ShutdownSys where
  stream : List Nat
  conns : Nat → ConnEntry
  run : Nat → ConnRun
  created : List Nat
  closeCh : List Nat
  connCount : Nat
  exceptionCh : Nat
  ctxDone : Bool
  reader : ReaderPhase
  report : ReportPc
  stop : StopPc

/-- A replay about to decode `stream`. -/
def ShutdownSys.init
    (stream : List Nat) : ShutdownSys where
  stream := stream
  conns := fun _ => .absent
  run := fun _ => ConnRun.fresh
  created := []
  closeCh := []
  connCount := 0
  exceptionCh := 0
  ctxDone := false
  reader := .decoding
  report := .reading
  stop := .notCalled

/-! ### The steps of a connection -/

namespace ConnRun

variable (c : ConnRun)

/-- Out of the inner loop of `Run`: it returns once it has seen `cmdCh` closed, and
waits at the `select` otherwise. -/
def leaveInner : ConnRun :=
  { c with pc := if c.finished then .closing else .selecting }

/-- `backendConn.Connect`: on an error `Run` sends an `OtherException` and returns. -/
def connect (ok : Bool) : ConnRun :=
  { c with pc := if ok then .selecting else .sendingException true }

/-- The `select` of the outer loop, taking `ctx.Done()` or `cmdCh`.  A receive from
`cmdCh` takes a buffered wake-up first, and otherwise sees the channel closed. -/
def select (ctxDone takeCtx : Bool) : Option ConnRun :=
  if takeCtx then
    if ctxDone then some { c with pc := .closing } else none
  else if c.cmdCh then
    some { c with pc := .running, cmdCh := false }
  else if c.cmdChClosed then
    some { c with pc := .running, finished := true }
  else
    none

/-- One pass of the inner loop up to `ExecuteCmd`: it ends when the context is done or
the list is empty, and takes a command otherwise. -/
def take (ctxDone : Bool) : ConnRun :=
  if ctxDone = true ∨ c.cmdList = 0 then c.leaveInner
  else { c with pc := .executing, cmdList := c.cmdList - 1 }

/-- After `ExecuteCmd`: report the error, or go on; `Run` returns after `COM_QUIT`. -/
def execute : ExecResult → ConnRun
  | .ok isQuit => { c with pc := if isQuit then .closing else .running }
  | .failed isQuit => { c with pc := .sendingException isQuit }
  | .disconnected => { c with pc := .sendingException true }

end ConnRun

/-! ### The steps of `readCommands` -/

namespace ShutdownSys

variable (s : ShutdownSys)

/-- Replace the goroutine of connection `id`. -/
def setRun
    (id : Nat)
    (c : ConnRun) : ShutdownSys :=
  { s with run := Function.update s.run id c }

/-- `conn.ExecuteCmd`: push the command and wake `Run` through `cmdCh` (a send that
does nothing when a wake-up is buffered). -/
def ExecuteCmd
    (id : Nat) : ShutdownSys :=
  s.setRun id { s.run id with cmdList := (s.run id).cmdList + 1, cmdCh := true }

/-- `replay.executeCmd`: start a connection for a new ID, and hand it the command
unless its entry is `nil`. -/
def executeCmd
    (id : Nat) : ShutdownSys :=
  let s :=
    if s.conns id = .absent then
      { s with
        conns := Function.update s.conns id .live
        run := Function.update s.run id ConnRun.fresh
        created := s.created ++ [id]
        connCount := s.connCount + 1 }
    else s
  if s.conns id = .live then s.ExecuteCmd id else s

/-- `replay.closeConn`. -/
def closeConn
    (id : Nat) : ShutdownSys :=
  if s.conns id = .live then
    { s with conns := Function.update s.conns id .nil, connCount := s.connCount - 1 }
  else s

/-- The end of the decoding loop: `Stop` every connection that is not `nil`, which
closes its `cmdCh`, and drain. -/
def stopConns : ShutdownSys :=
  { s with
    run := fun id => if s.conns id = .live then { s.run id with cmdChClosed := true } else s.run id
    reader := .draining }

end ShutdownSys

/-- One atomic section of one goroutine. -/
inductive ShutdownAction where
  /-- `readCommands`: a close event at the top of its loop -/
  | closeEvent
  /-- `readCommands`: decode the next command and dispatch it -/
  | decode
  /-- `readCommands`: end of the stream, a decode error, or too many pending commands -/
  | decodeEnd
  /-- `readCommands`: its loop sees the context done -/
  | cancelled
  /-- `readCommands`: a close event in the drain loop -/
  | drain
  /-- `readCommands`: no connection is left, `r.stop` -/
  | finish
  | connect (id : Nat) (ok : Bool)
  | select (id : Nat) (takeCtx : Bool)
  | take (id : Nat)
  | execute (id : Nat) (r : ExecResult)
  | sendException (id : Nat)
  | sendClose (id : Nat)
  /-- `readExceptions` receives an exception -/
  | receiveException
  /-- `readExceptions` sees the context done and returns -/
  | reportExit
  /-- `Replay.Stop` up to `r.wg.Wait()` -/
  | stopCall
  /-- `Replay.Stop` after `r.wg.Wait()` -/
  | stopReturn
deriving DecidableEq, Repr

open ShutdownSys in
/-- The step function: the state after an action, or `none` when it is not enabled. -/
def shutdownStep (s : ShutdownSys) : ShutdownAction → Option ShutdownSys
  | .closeEvent =>
      match s.reader, s.closeCh with
      | .decoding, id :: ids => some ({ s with closeCh := ids }.closeConn id)
      | _, _ => none
  | .decode =>
      match s.reader, s.closeCh, s.stream with
      | .decoding, [], id :: rest =>
          if s.ctxDone then none else some ({ s with stream := rest }.executeCmd id)
      | _, _, _ => none
  | .decodeEnd =>
      match s.reader, s.closeCh with
      | .decoding, [] => some s.stopConns
      | _, _ => none
  | .cancelled =>
      if s.reader = .decoding ∧ s.ctxDone = true then some s.stopConns else none
  | .drain =>
      match s.reader, s.closeCh with
      | .draining, id :: ids =>
          if 0 < s.connCount then some ({ s with closeCh := ids }.closeConn id) else none
      | _, _ => none
  | .finish =>
      -- `r.stop` cancels the context
      if s.reader = .draining ∧ s.connCount = 0 then
        some { s with ctxDone := true, reader := .stopped }
      else none
  | .connect id ok =>
      if s.conns id ≠ .absent ∧ (s.run id).pc = .connecting then
        some (s.setRun id ((s.run id).connect ok))
      else none
  | .select id takeCtx =>
      if (s.run id).pc = .selecting then ((s.run id).select s.ctxDone takeCtx).map (s.setRun id)
      else none
  | .take id =>
      if (s.run id).pc = .running then some (s.setRun id ((s.run id).take s.ctxDone)) else none
  | .execute id r =>
      if (s.run id).pc = .executing then some (s.setRun id ((s.run id).execute r)) else none
  | .sendException id =>
      match (s.run id).pc with
      | .sendingException thenReturn =>
          if s.exceptionCh < maxPendingExceptions then
            some { s.setRun id { s.run id with pc := if thenReturn then .closing else .running } with
              exceptionCh := s.exceptionCh + 1 }
          else none
      | _ => none
  | .sendClose id =>
      if (s.run id).pc = .closing ∧ s.closeCh.length < maxPendingExceptions then
        some { s.setRun id { s.run id with pc := .closed } with closeCh := s.closeCh ++ [id] }
      else none
  | .receiveException =>
      if s.report = .reading ∧ 0 < s.exceptionCh then
        some { s with exceptionCh := s.exceptionCh - 1 }
      else none
  | .reportExit =>
      if s.report = .reading ∧ s.ctxDone = true then some { s with report := .exited } else none
  | .stopCall =>
      match s.stop with
      | .notCalled =>
          -- `r.stop` cleared the start time: nothing to stop
          if s.reader = .stopped then some { s with stop := .returned }
          else some { s with ctxDone := true, stop := .waiting }
      | _ => none
  | .stopReturn =>
      if s.stop = .waiting ∧ s.reader = .stopped ∧ ∀ id ∈ s.created, (s.run id).pc = .closed then
        some { s with stop := .returned }
      else none

/-- The states a replay of `stream` reaches. -/
def ShutdownReachable
    (stream : List Nat) : ShutdownSys → Prop :=
  Transition.Reachable (Transition.OfFn shutdownStep) (fun s => s = ShutdownSys.init stream)

/-! ### A connection that nobody will receive from -/

/-- Connection `id` waits to send an exception on a full `exceptionCh` whose reader has
returned, and `Replay.Stop` waits for it. -/
structure ExceptionStuck (id : Nat) (s : ShutdownSys) : Prop where
  report_exited : s.report = .exited
  full : s.exceptionCh = maxPendingExceptions
  blocked : ∃ thenReturn, (s.run id).pc = .sendingException thenReturn
  started : s.conns id ≠ .absent
  created : id ∈ s.created
  stopWaiting : s.stop = .waiting

/-- `s'` keeps what `ExceptionStuck id` looks at. -/
structure KeepsStuck (id : Nat) (s s' : ShutdownSys) : Prop where
  report : s'.report = s.report
  exceptionCh : s'.exceptionCh = s.exceptionCh
  stop : s'.stop = s.stop
  pc : (s'.run id).pc = (s.run id).pc
  started : s.conns id ≠ .absent → s'.conns id ≠ .absent
  created : id ∈ s.created → id ∈ s'.created

namespace KeepsStuck

variable {id : Nat} {s s₁ s₂ : ShutdownSys}

theorem refl :
    KeepsStuck id s s :=
  ⟨rfl, rfl, rfl, rfl, fun h => h, fun h => h⟩

theorem trans
    (h₁ : KeepsStuck id s s₁)
    (h₂ : KeepsStuck id s₁ s₂) :
    KeepsStuck id s s₂ :=
  ⟨h₂.report.trans h₁.report, h₂.exceptionCh.trans h₁.exceptionCh, h₂.stop.trans h₁.stop,
    h₂.pc.trans h₁.pc, fun h => h₂.started (h₁.started h), fun h => h₂.created (h₁.created h)⟩

end KeepsStuck

theorem ExceptionStuck.of_keeps
    {id : Nat}
    {s s' : ShutdownSys}
    (hs : ExceptionStuck id s)
    (hk : KeepsStuck id s s') :
    ExceptionStuck id s' where
  report_exited := hk.report.trans hs.report_exited
  full := hk.exceptionCh.trans hs.full
  blocked := hk.pc ▸ hs.blocked
  started := hk.started hs.started
  created := hk.created hs.created
  stopWaiting := hk.stop.trans hs.stopWaiting

namespace ShutdownSys

variable {s : ShutdownSys} {id : Nat}

@[simp]
theorem setRun_run_self
    (c : ConnRun) :
    (s.setRun id c).run id = c := by
  simp [setRun]

theorem setRun_run_ne
    {x : Nat}
    (c : ConnRun)
    (h : id ≠ x) :
    (s.setRun x c).run id = s.run id := by
  simp [setRun, Function.update_of_ne h]

/-- A change of one goroutine that leaves the pc of `id` alone. -/
theorem keepsStuck_setRun
    (x : Nat)
    (c : ConnRun)
    (hpc : x = id → c.pc = (s.run id).pc) :
    KeepsStuck id s (s.setRun x c) := by
  refine ⟨rfl, rfl, rfl, ?_, fun h => h, fun h => h⟩
  by_cases hx : id = x
  · subst hx
    simpa using hpc rfl
  · rw [setRun_run_ne c hx]

theorem keepsStuck_closeCh
    (ids : List Nat) :
    KeepsStuck id s { s with closeCh := ids } :=
  ⟨rfl, rfl, rfl, rfl, fun h => h, fun h => h⟩

theorem keepsStuck_stream
    (rest : List Nat) :
    KeepsStuck id s { s with stream := rest } :=
  ⟨rfl, rfl, rfl, rfl, fun h => h, fun h => h⟩

theorem keepsStuck_closeConn
    (x : Nat) :
    KeepsStuck id s (s.closeConn x) := by
  unfold closeConn
  split
  · refine ⟨rfl, rfl, rfl, rfl, fun h => ?_, fun h => h⟩
    by_cases hx : id = x
    · subst hx
      simp
    · simpa [Function.update_of_ne hx] using h
  · exact .refl

/-- `executeCmd` starts a goroutine only for a new connection, and otherwise pushes
on a command list. -/
theorem keepsStuck_executeCmd
    (x : Nat)
    (hid : s.conns id ≠ .absent) :
    KeepsStuck id s (s.executeCmd x) := by
  unfold executeCmd
  dsimp only
  split
  · -- a new connection `x`, so not `id`
    rename_i habsent
    have hx : id ≠ x := fun h => hid (h ▸ habsent)
    have hstart : KeepsStuck id s
        { s with
          conns := Function.update s.conns x .live
          run := Function.update s.run x ConnRun.fresh
          created := s.created ++ [x]
          connCount := s.connCount + 1 } :=
      ⟨rfl, rfl, rfl, by simp [Function.update_of_ne hx],
        fun h => by simpa [Function.update_of_ne hx] using h,
        fun h => List.mem_append_left _ h⟩
    split
    · exact hstart.trans (keepsStuck_setRun _ _ (fun h => absurd h.symm hx))
    · exact hstart
  · split
    · exact keepsStuck_setRun _ _ (fun h => by subst h; rfl)
    · exact .refl

theorem keepsStuck_stopConns :
    KeepsStuck id s s.stopConns := by
  refine ⟨rfl, rfl, rfl, ?_, fun h => h, fun h => h⟩
  unfold stopConns
  dsimp only
  split <;> rfl

end ShutdownSys

open ShutdownSys

/-- No step takes a connection out of `ExceptionStuck`: the only receiver of
`exceptionCh` has returned, so the channel stays full, the connection's send is never
enabled, and `Replay.Stop` waits for that connection. -/
theorem exceptionStuck_stable
    (id : Nat) :
    Transition.Stable (Transition.OfFn shutdownStep) (ExceptionStuck id) := by
  rintro s s' hs ⟨a, h⟩
  obtain ⟨thenReturn, hblocked⟩ := hs.blocked
  -- a step of connection `x` is enabled only away from `id`, whose pc is the send
  have hother : ∀ x, (s.run x).pc ≠ .sendingException thenReturn → x ≠ id := by
    rintro x hx rfl
    exact hx hblocked
  cases a with
  | closeEvent =>
      simp only [shutdownStep] at h
      split at h
      · cases h
        exact hs.of_keeps ((keepsStuck_closeCh _).trans (keepsStuck_closeConn _))
      · cases h
  | decode =>
      simp only [shutdownStep] at h
      split at h
      · split at h
        · cases h
        · cases h
          exact hs.of_keeps ((keepsStuck_stream _).trans (keepsStuck_executeCmd _ hs.started))
      · cases h
  | decodeEnd =>
      simp only [shutdownStep] at h
      split at h
      · cases h
        exact hs.of_keeps keepsStuck_stopConns
      · cases h
  | cancelled =>
      simp only [shutdownStep] at h
      split at h
      · cases h
        exact hs.of_keeps keepsStuck_stopConns
      · cases h
  | drain =>
      simp only [shutdownStep] at h
      split at h
      · split at h
        · cases h
          exact hs.of_keeps ((keepsStuck_closeCh _).trans (keepsStuck_closeConn _))
        · cases h
      · cases h
  | finish =>
      simp only [shutdownStep] at h
      split at h
      · cases h
        exact hs.of_keeps ⟨rfl, rfl, rfl, rfl, fun h => h, fun h => h⟩
      · cases h
  | connect x ok =>
      simp only [shutdownStep] at h
      split at h
      · rename_i hguard
        cases h
        have hx := hother x (by rw [hguard.2]; nofun)
        exact hs.of_keeps (keepsStuck_setRun _ _ (fun h => absurd h hx))
      · cases h
  | select x takeCtx =>
      simp only [shutdownStep] at h
      split at h
      · rename_i hguard
        obtain ⟨c, -, rfl⟩ := Option.map_eq_some_iff.mp h
        have hx := hother x (by rw [hguard]; nofun)
        exact hs.of_keeps (keepsStuck_setRun _ _ (fun h => absurd h hx))
      · cases h
  | take x =>
      simp only [shutdownStep] at h
      split at h
      · rename_i hguard
        cases h
        have hx := hother x (by rw [hguard]; nofun)
        exact hs.of_keeps (keepsStuck_setRun _ _ (fun h => absurd h hx))
      · cases h
  | execute x r =>
      simp only [shutdownStep] at h
      split at h
      · rename_i hguard
        cases h
        have hx := hother x (by rw [hguard]; nofun)
        exact hs.of_keeps (keepsStuck_setRun _ _ (fun h => absurd h hx))
      · cases h
  | sendException x =>
      -- every send waits for room, and the channel is full
      simp only [shutdownStep] at h
      split at h
      · split at h
        · rename_i hroom
          exact absurd hs.full (by omega)
        · cases h
      · cases h
  | sendClose x =>
      simp only [shutdownStep] at h
      split at h
      · rename_i hguard
        cases h
        have hx := hother x (by rw [hguard.1]; nofun)
        exact hs.of_keeps ((keepsStuck_setRun _ _ (fun h => absurd h hx)).trans
          (keepsStuck_closeCh _))
      · cases h
  | receiveException =>
      simp only [shutdownStep] at h
      split at h
      · rename_i hguard
        exact absurd hguard.1 (by rw [hs.report_exited]; nofun)
      · cases h
  | reportExit =>
      simp only [shutdownStep] at h
      split at h
      · rename_i hguard
        exact absurd hguard.1 (by rw [hs.report_exited]; nofun)
      · cases h
  | stopCall =>
      simp only [shutdownStep] at h
      split at h
      · rename_i hnot
        exact absurd hs.stopWaiting (by rw [hnot]; nofun)
      · cases h
  | stopReturn =>
      -- `r.wg.Wait()` waits for every connection, `id` among them
      simp only [shutdownStep] at h
      split at h
      · rename_i hguard
        have := hguard.2.2 id hs.created
        rw [hblocked] at this
        cases this
      · cases h

/-! ### A run that reaches it -/

namespace ShutdownSys

variable {s : ShutdownSys} {id : Nat}

theorem setRun_self :
    s.setRun id (s.run id) = s := by
  simp [setRun]

theorem setRun_setRun
    (c c' : ConnRun) :
    (s.setRun id c).setRun id c' = s.setRun id c' := by
  simp [setRun]

/-- `decode` of a command of a live connection pushes it on that connection's list. -/
theorem shutdownStep_decode_live
    {rest : List Nat}
    (hreader : s.reader = .decoding)
    (hctx : s.ctxDone = false)
    (hclose : s.closeCh = [])
    (hstream : s.stream = id :: rest)
    (hlive : s.conns id = .live) :
    shutdownStep s .decode = some ({ s with stream := rest }.ExecuteCmd id) := by
  simp [shutdownStep, hreader, hclose, hstream, hctx, executeCmd, hlive]

end ShutdownSys

/-- `k` commands of connection `id` that fail and are reported, one after another. -/
def failBlocks
    (id k : Nat) : List ShutdownAction :=
  (List.replicate k [.take id, .execute id (.failed false), .sendException id]).flatten

/-- Decoding `k` commands of a live connection that has a wake-up buffered. -/
theorem decode_run
    (c : Nat)
    (rest : List Nat) :
    ∀ (k : Nat) (s : ShutdownSys), s.reader = .decoding → s.ctxDone = false →
      s.closeCh = [] → s.conns c = .live → (s.run c).cmdCh = true →
      s.stream = List.replicate k c ++ rest →
      Transition.runActions shutdownStep s (List.replicate k .decode) =
        some ({ s with stream := rest }.setRun c
          { s.run c with cmdList := (s.run c).cmdList + k }) := by
  intro k
  induction k with
  | zero =>
      intro s _ _ _ _ _ hstream
      simp only [List.replicate_zero, List.nil_append] at hstream
      simp only [List.replicate_zero, Transition.runActions, Nat.add_zero, ← hstream]
      exact congrArg some setRun_self.symm
  | succ k ih =>
      intro s hreader hctx hclose hlive hwake hstream
      rw [List.replicate_succ, List.cons_append] at hstream
      have hrest := ih ({ s with stream := List.replicate k c ++ rest }.ExecuteCmd c) hreader hctx
        hclose hlive (by simp [ExecuteCmd]) rfl
      rw [List.replicate_succ]
      refine Transition.runActions_cons
        (shutdownStep_decode_live hreader hctx hclose hstream hlive) (hrest.trans ?_)
      -- the first push and the `k` after it are one push of `k + 1` commands
      simp only [ExecuteCmd, setRun, Function.update_self, Function.update_idem]
      congr 3
      simp [hwake]
      omega

/-- One failing command: taken, executed with an error and reported. -/
theorem failBlock_run
    {c n : Nat}
    {s : ShutdownSys}
    (hpc : (s.run c).pc = .running)
    (hctx : s.ctxDone = false)
    (hlist : (s.run c).cmdList = n + 1)
    (hroom : s.exceptionCh < maxPendingExceptions) :
    Transition.runActions shutdownStep s [.take c, .execute c (.failed false), .sendException c] =
      some { s.setRun c { s.run c with cmdList := n } with exceptionCh := s.exceptionCh + 1 } := by
  have htake : shutdownStep s (.take c) =
      some (s.setRun c { s.run c with pc := .executing, cmdList := n }) := by
    simp [shutdownStep, hpc, ConnRun.take, hctx, hlist]
  have hexec : shutdownStep (s.setRun c { s.run c with pc := .executing, cmdList := n })
      (.execute c (.failed false)) =
      some (s.setRun c { s.run c with pc := .sendingException false, cmdList := n }) := by
    simp [shutdownStep, ConnRun.execute, setRun_setRun]
  have hsend : shutdownStep (s.setRun c { s.run c with pc := .sendingException false, cmdList := n })
      (.sendException c) =
      some { s.setRun c { s.run c with cmdList := n } with exceptionCh := s.exceptionCh + 1 } := by
    simp [shutdownStep, setRun, hroom, hpc]
  exact Transition.runActions_cons htake (Transition.runActions_cons hexec
    (Transition.runActions_cons hsend rfl))

/-- `k` failing commands, each reported while the channel has room. -/
theorem failBlocks_run
    (c : Nat) :
    ∀ (k n : Nat) (s : ShutdownSys), (s.run c).pc = .running → s.ctxDone = false →
      (s.run c).cmdList = n + k → s.exceptionCh + k ≤ maxPendingExceptions →
      Transition.runActions shutdownStep s (failBlocks c k) =
        some { s.setRun c { s.run c with cmdList := n } with exceptionCh := s.exceptionCh + k } := by
  intro k
  induction k with
  | zero =>
      intro n s _ _ hlist _
      simp only [Nat.add_zero] at hlist
      simp [failBlocks, Transition.runActions, setRun, ← hlist]
  | succ k ih =>
      intro n s hpc hctx hlist hroom
      have hblock := @failBlock_run c (n + k) s hpc hctx (by omega) (by omega)
      have hrest := ih n { s.setRun c { s.run c with cmdList := n + k } with
          exceptionCh := s.exceptionCh + 1 }
        (by simp [setRun, hpc]) hctx (by simp [setRun]) (by simp; omega)
      rw [show failBlocks c (k + 1) =
          [.take c, .execute c (.failed false), .sendException c] ++ failBlocks c k by
        simp [failBlocks, List.replicate_succ]]
      refine Transition.runActions_append _ _ hblock (hrest.trans ?_)
      simp [setRun]
      omega

/-- What connection `c` does once its commands are queued: it connects, wakes up and
reports `maxPendingExceptions` failures; it takes one more command, and `Replay.Stop`
cancels the context, so that the reader returns, before that command fails. -/
def stuckTail
    (c : Nat) : List ShutdownAction :=
  [.connect c true, .select c false] ++ failBlocks c maxPendingExceptions ++
    [.take c, .stopCall, .reportExit, .execute c (.failed false)]

theorem stuckTail_stuck
    {c : Nat}
    {s : ShutdownSys}
    (hpc : (s.run c).pc = .connecting)
    (hstarted : s.conns c ≠ .absent)
    (hcreated : c ∈ s.created)
    (hwake : (s.run c).cmdCh = true)
    (hlist : (s.run c).cmdList = maxPendingExceptions + 1)
    (hctx : s.ctxDone = false)
    (hex : s.exceptionCh = 0)
    (hreport : s.report = .reading)
    (hstop : s.stop = .notCalled)
    (hreader : s.reader ≠ .stopped) :
    ∃ s', Transition.runActions shutdownStep s (stuckTail c) = some s' ∧ ExceptionStuck c s' := by
  -- connected and woken up by the buffered wake-up
  have hwoken : Transition.runActions shutdownStep s [.connect c true, .select c false] =
      some (s.setRun c { s.run c with pc := .running, cmdCh := false }) := by
    simp [Transition.runActions, shutdownStep, hstarted, hpc, ConnRun.connect, ConnRun.select,
      hwake, setRun]
  have hfull := failBlocks_run c maxPendingExceptions 1
    (s.setRun c { s.run c with pc := .running, cmdCh := false })
    (by simp) hctx (by simp [hlist]; omega) (by simp [setRun, hex])
  refine ⟨_, Transition.runActions_append _ _ (Transition.runActions_append _ _ hwoken hfull)
    (by simp [Transition.runActions, shutdownStep, ConnRun.take, ConnRun.execute, hctx, hstop,
      hreader, hreport, setRun]; rfl), ?_⟩
  exact ⟨rfl, by simp [hex], ⟨false, by simp⟩, hstarted, hcreated, rfl⟩

/-- A replay of `maxPendingExceptions + 1` commands of connection `c`, every one of
which fails: all are decoded, then `stuckTail`. -/
def stuckRun
    (c : Nat) : List ShutdownAction :=
  List.replicate (maxPendingExceptions + 1) .decode ++ stuckTail c

/-- The replay once every command is decoded: connection `c` is started, not yet
connected, with its `maxPendingExceptions + 1` commands queued and a wake-up buffered. -/
def queuedSys
    (c : Nat) : ShutdownSys :=
  { ShutdownSys.init [] with
    conns := Function.update (fun _ => .absent) c .live
    run := Function.update (fun _ => ConnRun.fresh) c
      { ConnRun.fresh with cmdList := maxPendingExceptions + 1, cmdCh := true }
    created := [c]
    connCount := 1 }

theorem decode_queued
    (c : Nat) :
    Transition.runActions shutdownStep
        (ShutdownSys.init (List.replicate (maxPendingExceptions + 1) c))
        (List.replicate (maxPendingExceptions + 1) .decode) = some (queuedSys c) := by
  -- the first command starts the connection, the others are pushed on its list
  have hfirst : shutdownStep (ShutdownSys.init (List.replicate (maxPendingExceptions + 1) c))
      .decode = some ({ ShutdownSys.init (List.replicate (maxPendingExceptions + 1) c) with
        stream := List.replicate maxPendingExceptions c }.executeCmd c) := by
    simp [shutdownStep, ShutdownSys.init, List.replicate_succ]
  have hrest := decode_run c [] maxPendingExceptions
    ({ ShutdownSys.init (List.replicate (maxPendingExceptions + 1) c) with
        stream := List.replicate maxPendingExceptions c }.executeCmd c)
    (by simp [executeCmd, ExecuteCmd, ShutdownSys.init, setRun])
    (by simp [executeCmd, ExecuteCmd, ShutdownSys.init, setRun])
    (by simp [executeCmd, ExecuteCmd, ShutdownSys.init, setRun])
    (by simp [executeCmd, ExecuteCmd, ShutdownSys.init, setRun])
    (by simp [executeCmd, ExecuteCmd, ShutdownSys.init, setRun])
    (by simp [executeCmd, ExecuteCmd, ShutdownSys.init, setRun])
  rw [List.replicate_succ]
  refine Transition.runActions_cons hfirst (hrest.trans ?_)
  simp [queuedSys, executeCmd, ExecuteCmd, ShutdownSys.init, setRun, ConnRun.fresh,
    Nat.add_comm 1 maxPendingExceptions]

theorem stuckRun_stuck
    (c : Nat) :
    ∃ s, Transition.runActions shutdownStep
        (ShutdownSys.init (List.replicate (maxPendingExceptions + 1) c)) (stuckRun c) = some s ∧
      ExceptionStuck c s := by
  obtain ⟨s, htail, hstuck⟩ := @stuckTail_stuck c (queuedSys c)
    (by simp [queuedSys, ConnRun.fresh]) (by simp [queuedSys]) (by simp [queuedSys])
    (by simp [queuedSys]) (by simp [queuedSys]) rfl rfl rfl rfl nofun
  exact ⟨s, Transition.runActions_append _ _ (decode_queued c) htail, hstuck⟩

/-- `Replay.Stop` can wait forever.  A replay of `maxPendingExceptions + 1` commands of
one connection, each of which fails, reaches a state where the connection is blocked
sending its last exception on a full `exceptionCh` after `readExceptions` returned.
From there, whatever the goroutines do, the connection stays blocked and never sends
its close event, and `Replay.Stop` stays in `r.wg.Wait()`. -/
theorem replayStop_blocked_forever
    (c : Nat) :
    ∃ s, ShutdownReachable (List.replicate (maxPendingExceptions + 1) c) s ∧
      ∀ (as : List ShutdownAction) (s' : ShutdownSys),
        Transition.runActions shutdownStep s as = some s' →
          (∃ thenReturn, (s'.run c).pc = .sendingException thenReturn) ∧
            s'.exceptionCh = maxPendingExceptions ∧ s'.report = .exited ∧ s'.stop = .waiting := by
  obtain ⟨s, hrun, hstuck⟩ := stuckRun_stuck c
  refine ⟨s, Transition.Reachable.of_runActions _ (Transition.Reachable.of_init rfl) hrun, ?_⟩
  intro as s' hrun'
  have hstuck' := (exceptionStuck_stable c).runActions hstuck hrun'
  exact ⟨hstuck'.blocked, hstuck'.full, hstuck'.report_exited, hstuck'.stopWaiting⟩

end Replay
end TiProxy
