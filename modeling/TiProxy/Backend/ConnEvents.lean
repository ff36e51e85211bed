import TiProxy.Backend.ConnManager
import TiProxy.Lib.Transition

/-!
# The events a connection sends the router

A `BackendConnManager` tells its `ConnEventReceiver`, the router, how each redirect
ended (`OnRedirectSucceed`, `OnRedirectFail`) and that the connection closed
(`OnConnClosed`).  The router's bookkeeping (`Balance.RouterInvariant`) assumes that an
`OnRedirectSucceed from to` means the connection now is on `to`, and that nothing
follows `OnConnClosed`.

The result of a redirect travels through a channel of capacity one, `redirectResCh`:
`tryRedirect` sends it, under the process lock, when it returns.  The signal goroutine
(`processSignals`) receives it and notifies the receiver without the lock; `Close`
drains it under the lock and then notifies `OnConnClosed`.  Each of those is a step
here, one goroutine's atomic section at a time: `Redirect` and `GracefulClose` from the
router, a command of the client, the signal goroutine taking a signal, taking a result
and notifying it, and `Close`.  A send on a full channel blocks, so a step that would
make one is not enabled.

**Results.**
* `redirect_reported_succeeded`: a redirect that a graceful close overtakes is reported
  as a success although the session never moved, and a result the signal goroutine
  holds while `Close` runs is notified after `OnConnClosed`.
-/

namespace TiProxy
namespace Backend

open Net GoBytes

/-- `signalType`. -/
inductive SignalType where
  | signalTypeGracefulClose
  | signalTypeRedirect
deriving DecidableEq, Repr

/-- `signalTypeNums`: the capacity of `signalReceived`. -/
def signalTypeNums : Nat := 2

/-- `redirectResult`. -/
structure RedirectResult where
  fromAddr : List UInt8
  toAddr : List UInt8
  err : Option CmdError
deriving DecidableEq, Repr

/-- The events of `router.ConnEventReceiver` a connection sends. -/
inductive ConnEvent where
  | OnRedirectSucceed (fromAddr toAddr : List UInt8)
  | OnRedirectFail (fromAddr toAddr : List UInt8)
  | OnConnClosed (addr : List UInt8)
deriving DecidableEq, Repr

/-- `notifyRedirectResult`, with the event receiver set. -/
def notifyRedirectResult (rs : RedirectResult) : ConnEvent :=
  match rs.err with
  | some _ => .OnRedirectFail rs.fromAddr rs.toAddr
  | none => .OnRedirectSucceed rs.fromAddr rs.toAddr

/-- The redirect results that a list of actions sends to `redirectResCh`. -/
def redirectResults (actions : List Action) : List RedirectResult :=
  actions.filterMap fun
    | .redirectResult fromAddr toAddr err => some ⟨fromAddr, toAddr, err⟩
    | _ => none

@[simp] theorem redirectResults_nil :
    redirectResults [] = [] := rfl

@[simp] theorem redirectResults_append
    (as bs : List Action) :
    redirectResults (as ++ bs) = redirectResults as ++ redirectResults bs := by
  simp [redirectResults, List.filterMap_append]

@[simp] theorem redirectResults_redirectResult
    (fromAddr toAddr : List UInt8)
    (err : Option CmdError) :
    redirectResults [.redirectResult fromAddr toAddr err] = [⟨fromAddr, toAddr, err⟩] := rfl

/-- A connection with its manager, the two channels, the goroutines' state and the
events the router has received. -/
structure ManagerSys (σ : Type) where
  mgr : BackendConnManager σ
  signalReceived : List SignalType
  redirectResCh : List RedirectResult
  /-- the result the signal goroutine has taken from `redirectResCh` and not notified -/
  notifying : Option RedirectResult
  /-- `ctx.Done()`: `Close` has cancelled the signal goroutine -/
  cancelled : Bool
  events : List ConnEvent

/-- A step of one goroutine. -/
inductive ManagerStep where
  /-- the router calls `Redirect` -/
  | redirect (backendInst : BackendInst)
  /-- the router calls `GracefulClose` -/
  | gracefulClose
  /-- the client's goroutine runs `ExecuteCmd` -/
  | command (request : List UInt8)
  /-- the signal goroutine takes a signal and handles it under the lock -/
  | signal
  /-- the signal goroutine takes a redirect result -/
  | receiveResult
  /-- the signal goroutine notifies the result it took -/
  | notify
  /-- `Close` -/
  | close

section Step

variable {σ ρ : Type}
variable (io : PacketIOMethods σ)
variable (env : Env σ ρ)

/-- The results a section under the lock sent: enabled only if `redirectResCh` has
room for them. -/
def ManagerSys.withResults
    (s : ManagerSys σ)
    (mgr : BackendConnManager σ) : Option (ManagerSys σ) :=
  let sent := redirectResults (mgr.actions.drop s.mgr.actions.length)
  if s.redirectResCh.length + sent.length ≤ 1 then
    some { s with mgr, redirectResCh := s.redirectResCh ++ sent }
  else none

/-- `Redirect`: refused once the connection is closing; otherwise the target is stored
and the signal sent. -/
def Redirect
    (s : ManagerSys σ)
    (backendInst : BackendInst) : Option (ManagerSys σ) :=
  if s.mgr.closeStatus ≥ statusNotifyClose then some s
  else if s.signalReceived.length < signalTypeNums then
    some { s with
      mgr := { s.mgr with redirectInfo := some backendInst }
      signalReceived := s.signalReceived ++ [.signalTypeRedirect] }
  else none

/-- `GracefulClose`: only an active connection is notified. -/
def GracefulClose
    (s : ManagerSys σ) : Option (ManagerSys σ) :=
  if s.mgr.closeStatus = statusActive then
    if s.signalReceived.length < signalTypeNums then
      some { s with
        mgr := { s.mgr with closeStatus := statusNotifyClose }
        signalReceived := s.signalReceived ++ [.signalTypeGracefulClose] }
    else none
  else some s

/-- `Close`: under the lock, a result left in `redirectResCh` is notified, then
`OnConnClosed` with the address of the backend connection, and the signal goroutine is
cancelled. -/
def ManagerSys.Close
    (s : ManagerSys σ) : Option (ManagerSys σ) :=
  if s.mgr.closeStatus ≥ statusClosed then some s
  else
    some { s with
      mgr := { s.mgr with closeStatus := statusClosed }
      redirectResCh := []
      cancelled := true
      events := s.events ++ s.redirectResCh.map notifyRedirectResult ++
        [.OnConnClosed s.mgr.curBackend] }

/-- One step of a goroutine, `none` where it is not enabled. -/
def managerStep
    (s : ManagerSys σ) : ManagerStep → Option (ManagerSys σ)
  | .redirect backendInst => Redirect s backendInst
  | .gracefulClose => GracefulClose s
  | .command request =>
      if s.mgr.closeStatus ≥ statusClosed then none
      else s.withResults (ExecuteCmd io env s.mgr request).2
  | .signal =>
      match s.cancelled, s.signalReceived with
      | false, sig :: rest =>
          let s := { s with signalReceived := rest }
          match sig with
          | .signalTypeGracefulClose => s.withResults (tryGracefulClose s.mgr)
          | .signalTypeRedirect => s.withResults (tryRedirect io env s.mgr)
      | _, _ => none
  | .receiveResult =>
      match s.cancelled, s.notifying, s.redirectResCh with
      | false, none, rs :: rest => some { s with redirectResCh := rest, notifying := some rs }
      | _, _, _ => none
  | .notify =>
      -- the notification runs without the lock, also after `ctx` is cancelled
      match s.notifying with
      | some rs => some { s with notifying := none, events := s.events ++ [notifyRedirectResult rs] }
      | none => none
  | .close => s.Close

/-! ### One step at a time -/

/-- `tryRedirect` on a connection that is closing reports success without migrating. -/
theorem tryRedirect_of_closing
    {mgr : BackendConnManager σ}
    {backendInst : BackendInst}
    (hinfo : mgr.redirectInfo = some backendInst)
    (htxn : mgr.cmdProcessor.finishedTxn = true)
    (hclose : statusNotifyClose ≤ mgr.closeStatus) :
    tryRedirect io env mgr = mgr.finishRedirect mgr.curBackend backendInst.Addr none := by
  simp [tryRedirect, hinfo, htxn, hclose]

/-- A section under the lock that sends one result into the empty channel. -/
theorem withResults_finishRedirect
    {s : ManagerSys σ}
    (hch : s.redirectResCh = [])
    (mgr : BackendConnManager σ)
    (hactions : mgr.actions = s.mgr.actions)
    (fromAddr toAddr : List UInt8)
    (err : Option CmdError) :
    s.withResults (mgr.finishRedirect fromAddr toAddr err) =
      some { s with
        mgr := mgr.finishRedirect fromAddr toAddr err
        redirectResCh := [⟨fromAddr, toAddr, err⟩] } := by
  simp [ManagerSys.withResults, hch, hactions]

theorem managerStep_redirect
    {s : ManagerSys σ}
    (hopen : s.mgr.closeStatus < statusNotifyClose)
    (hroom : s.signalReceived.length < signalTypeNums)
    (backendInst : BackendInst) :
    managerStep io env s (.redirect backendInst) =
      some { s with
        mgr := { s.mgr with redirectInfo := some backendInst }
        signalReceived := s.signalReceived ++ [.signalTypeRedirect] } := by
  simp [managerStep, Redirect, Nat.not_le.mpr hopen, hroom]

theorem managerStep_gracefulClose
    {s : ManagerSys σ}
    (hactive : s.mgr.closeStatus = statusActive)
    (hroom : s.signalReceived.length < signalTypeNums) :
    managerStep io env s .gracefulClose =
      some { s with
        mgr := { s.mgr with closeStatus := statusNotifyClose }
        signalReceived := s.signalReceived ++ [.signalTypeGracefulClose] } := by
  simp [managerStep, GracefulClose, hactive, hroom]

/-- The signal goroutine handles a redirect signal on a connection that is closing. -/
theorem managerStep_signal_redirect_of_closing
    {s : ManagerSys σ}
    (hlive : s.cancelled = false)
    {rest : List SignalType}
    (hsig : s.signalReceived = .signalTypeRedirect :: rest)
    {backendInst : BackendInst}
    (hinfo : s.mgr.redirectInfo = some backendInst)
    (htxn : s.mgr.cmdProcessor.finishedTxn = true)
    (hclose : statusNotifyClose ≤ s.mgr.closeStatus)
    (hch : s.redirectResCh = []) :
    managerStep io env s .signal =
      some { s with
        signalReceived := rest
        mgr := s.mgr.finishRedirect s.mgr.curBackend backendInst.Addr none
        redirectResCh := [⟨s.mgr.curBackend, backendInst.Addr, none⟩] } := by
  simp only [managerStep, hlive, hsig]
  rw [tryRedirect_of_closing io env hinfo htxn hclose]
  exact withResults_finishRedirect (by exact hch) _ rfl _ _ _

theorem managerStep_receiveResult
    {s : ManagerSys σ}
    (hlive : s.cancelled = false)
    (hidle : s.notifying = none)
    {rs : RedirectResult}
    {rest : List RedirectResult}
    (hch : s.redirectResCh = rs :: rest) :
    managerStep io env s .receiveResult =
      some { s with redirectResCh := rest, notifying := some rs } := by
  simp [managerStep, hlive, hidle, hch]

theorem managerStep_notify
    {s : ManagerSys σ}
    {rs : RedirectResult}
    (h : s.notifying = some rs) :
    managerStep io env s .notify =
      some { s with notifying := none, events := s.events ++ [notifyRedirectResult rs] } := by
  simp [managerStep, h]

theorem managerStep_close
    {s : ManagerSys σ}
    (hopen : s.mgr.closeStatus < statusClosed) :
    managerStep io env s .close =
      some { s with
        mgr := { s.mgr with closeStatus := statusClosed }
        redirectResCh := []
        cancelled := true
        events := s.events ++ s.redirectResCh.map notifyRedirectResult ++
          [.OnConnClosed s.mgr.curBackend] } := by
  simp [managerStep, ManagerSys.Close, Nat.not_le.mpr hopen]

/-! ### A redirect overtaken by a close -/

/-- Two interleavings that break the protocol the router relies on, from any quiet
connection that is active and outside a transaction.  In the first, the router's
`GracefulClose` overtakes its `Redirect` before the signal goroutine runs: `tryRedirect`
gives up because the connection is closing, but leaves the result's error nil, so the
router is told `OnRedirectSucceed` although the session stays on its backend, and then
`OnConnClosed` with that backend.  In the second, the signal goroutine has taken that
result when `Close` runs, so the redirect's event comes after `OnConnClosed`. -/
theorem redirect_reported_succeeded
    (s : ManagerSys σ)
    (hactive : s.mgr.closeStatus = statusActive)
    (htxn : s.mgr.cmdProcessor.finishedTxn = true)
    (hquiet : s.signalReceived = [] ∧ s.redirectResCh = [] ∧ s.notifying = none)
    (hlive : s.cancelled = false)
    (backendInst : BackendInst) :
    (∃ s', Transition.runActions (managerStep io env) s
          [.redirect backendInst, .gracefulClose, .signal, .receiveResult, .notify, .close] =
            some s' ∧
        s'.events = s.events ++
          [.OnRedirectSucceed s.mgr.curBackend backendInst.Addr, .OnConnClosed s.mgr.curBackend] ∧
        s'.mgr.curBackend = s.mgr.curBackend ∧ s'.mgr.backendIO = s.mgr.backendIO) ∧
      (∃ s', Transition.runActions (managerStep io env) s
          [.redirect backendInst, .gracefulClose, .signal, .receiveResult, .close, .notify] =
            some s' ∧
        s'.events = s.events ++
          [.OnConnClosed s.mgr.curBackend, .OnRedirectSucceed s.mgr.curBackend backendInst.Addr]) := by
  obtain ⟨hsig, hch, hidle⟩ := hquiet
  -- with the channels and the goroutine's slot empty, every state of the runs is a record
  -- whose side conditions hold by computation
  obtain ⟨mgr, signalReceived, redirectResCh, notifying, cancelled, events⟩ := s
  dsimp only at hactive htxn hsig hch hidle hlive ⊢
  subst hsig hch hidle hlive
  have hopen : mgr.closeStatus < statusNotifyClose := by
    rw [hactive]
    decide
  constructor
  · simp only [Transition.runActions]
    rw [managerStep_redirect io env hopen (by simp [signalTypeNums]) backendInst, Option.bind_some,
      managerStep_gracefulClose io env, Option.bind_some,
      managerStep_signal_redirect_of_closing io env, Option.bind_some,
      managerStep_receiveResult io env, Option.bind_some,
      managerStep_notify io env, Option.bind_some,
      managerStep_close io env, Option.bind_some]
    -- the side conditions fix the states' contents; the events are read off last
    rotate_left
    all_goals try (first | rfl | exact hactive | exact htxn |
      (simp [signalTypeNums, statusNotifyClose, statusClosed]; done))
    exact ⟨_, rfl, by simp [notifyRedirectResult], rfl, rfl⟩
  · simp only [Transition.runActions]
    rw [managerStep_redirect io env hopen (by simp [signalTypeNums]) backendInst, Option.bind_some,
      managerStep_gracefulClose io env, Option.bind_some,
      managerStep_signal_redirect_of_closing io env, Option.bind_some,
      managerStep_receiveResult io env, Option.bind_some,
      managerStep_close io env, Option.bind_some,
      managerStep_notify io env, Option.bind_some]
    rotate_left
    all_goals try (first | rfl | exact hactive | exact htxn |
      (simp [signalTypeNums, statusNotifyClose, statusClosed]; done))
    exact ⟨_, rfl, by simp [notifyRedirectResult]⟩

end Step

/-- A connection on `old`, active and outside a transaction, with nothing in flight. -/
def quietSys : ManagerSys PacketQueue where
  mgr :=
    { closeStatus := statusActive
      redirectInfo := none
      clientIO := ⟨[], []⟩
      backendIO := ⟨[], []⟩
      curBackend := ascii "old"
      cmdProcessor := ⟨∅, 0, 0⟩
      authenticator := ⟨[], [], ∅, 0, 0, 0, false⟩
      actions := [] }
  signalReceived := []
  redirectResCh := []
  notifying := none
  cancelled := false
  events := []

theorem redirect_reported_succeeded_quiet :
    quietSys.mgr.closeStatus = statusActive ∧ quietSys.mgr.cmdProcessor.finishedTxn = true ∧
      (quietSys.signalReceived = [] ∧ quietSys.redirectResCh = [] ∧ quietSys.notifying = none) ∧
      quietSys.cancelled = false ∧
      (∃ s', Transition.runActions (managerStep queueMethods redirectEnv) quietSys
            [.redirect ⟨ascii "new", true⟩, .gracefulClose, .signal, .receiveResult, .notify,
              .close] = some s' ∧
          s'.events = quietSys.events ++
            [.OnRedirectSucceed quietSys.mgr.curBackend (ascii "new"),
              .OnConnClosed quietSys.mgr.curBackend] ∧
          s'.mgr.curBackend = quietSys.mgr.curBackend ∧
          s'.mgr.backendIO = quietSys.mgr.backendIO) ∧
        (∃ s', Transition.runActions (managerStep queueMethods redirectEnv) quietSys
            [.redirect ⟨ascii "new", true⟩, .gracefulClose, .signal, .receiveResult, .close,
              .notify] = some s' ∧
          s'.events = quietSys.events ++
            [.OnConnClosed quietSys.mgr.curBackend,
              .OnRedirectSucceed quietSys.mgr.curBackend (ascii "new")]) :=
  ⟨rfl, by decide, ⟨rfl, rfl, rfl⟩, rfl,
    redirect_reported_succeeded queueMethods redirectEnv quietSys rfl (by decide)
      ⟨rfl, rfl, rfl⟩ rfl ⟨ascii "new", true⟩⟩

end Backend
end TiProxy
