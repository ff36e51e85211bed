import Mathlib.Data.List.AList
import Mathlib.Data.Rat.Defs
import TiProxy.Balance.Observer
import TiProxy.Lib.GoNet

/-!
# The score-based router

A model of `ScoreBasedRouter` (`pkg/balance/router/router_score.go`), the
component that routes new connections to backends and migrates connections
between them.

**State.**  The router owns a map `backends` from addresses to `*backendWrapper`
pointers.  A wrapper holds the backend's health, its `connScore` and its
`connList`; a connection holds its `*connWrapper`, whose `redirectingBackend` is a
pointer to a wrapper.  Pointers matter: `removeBackendIfEmpty` deletes a wrapper
from the map while other objects may still point to it, and `ensureBackend`
re-creates a fresh wrapper under the same address.  The heap of wrappers is
therefore explicit (`wrappers`, indexed by `BackendPtr`, with the allocation
counter `nextPtr`), and the map stores pointers.

**Operations.**  Every exported method runs under `router.Lock()`, so each is one
function of the state: `routeOnce`, `onCreateConn`, `onRedirectFinished`
(`OnRedirectSucceed`, `OnRedirectFail`), `onConnClosed`, `updateBackendHealth`
and `rebalance`, built from the helpers `ensureBackend`, `addConn`, `removeConn`
and `removeBackendIfEmpty` as in the source.  The balance policy and the
connection's `Redirect` are interfaces implemented elsewhere; they are
parameters here.  `float64` is `ℚ`, as in the factor layer that computes the
`balanceCount` the router reads.  Metrics and logging are not modelled.
-/

namespace TiProxy
namespace Router

open Observer

/-- A `*backendWrapper`: the index of a wrapper in the router's heap. -/
abbrev BackendPtr := Nat

/-- A `RedirectableConn`, identified by its `ConnectionID()`. -/
abbrev ConnID := Nat

/-- `connPhase`. -/
inductive ConnPhase where
  | phaseNotRedirected
  | phaseRedirectNotify
  | phaseRedirectEnd
  | phaseRedirectFail
deriving DecidableEq, Repr, Inhabited

/-- `rebalanceInterval` (10 ms), in nanoseconds. -/
def rebalanceInterval : Nat := 10000000

/-- `redirectFailMinInterval` (3 s), in nanoseconds. -/
def redirectFailMinInterval : Nat := 3000000000

/-- `backendWrapper`: a backend with the connections currently on it. -/
structure BackendWrapper where
  health : BackendHealth
  addr : String
  connScore : Int
  connList : List ConnID
deriving Repr, Inhabited

/-- `connWrapper`: the router's record of one connection. -/
structure ConnWrapper where
  redirectReason : String
  redirectingBackend : Option BackendPtr
  lastRedirect : Nat
  phase : ConnPhase
deriving Repr, Inhabited

/-- `ScoreBasedRouter`, with the heap of the objects it points to. -/
structure ScoreBasedRouter where
  backends : AList (fun _ : String => BackendPtr)
  observeError : Option String
  serverVersion : String
  lastRedirectTime : Nat
  wrappers : BackendPtr → BackendWrapper
  nextPtr : BackendPtr
  conns : ConnID → ConnWrapper

/-- `NewScoreBasedRouter`. -/
def NewScoreBasedRouter : ScoreBasedRouter where
  backends := ∅
  observeError := none
  serverVersion := ""
  lastRedirectTime := 0
  wrappers := fun _ => default
  nextPtr := 0
  conns := fun _ => default

/-- The errors `routeOnce` returns. -/
inductive RouterError where
  | observeError (err : String)
  | errNoBackend
deriving DecidableEq, Repr

namespace ScoreBasedRouter

/-- A write through a `*backendWrapper`. -/
def setWrapper
    (r : ScoreBasedRouter)
    (p : BackendPtr)
    (w : BackendWrapper) : ScoreBasedRouter :=
  { r with wrappers := Function.update r.wrappers p w }

/-- A write through a `*connWrapper`. -/
def setConn
    (r : ScoreBasedRouter)
    (c : ConnID)
    (cw : ConnWrapper) : ScoreBasedRouter :=
  { r with conns := Function.update r.conns c cw }

/-- `backend.connScore += d`. -/
def addScore
    (r : ScoreBasedRouter)
    (p : BackendPtr)
    (d : Int) : ScoreBasedRouter :=
  r.setWrapper p { r.wrappers p with connScore := (r.wrappers p).connScore + d }

end ScoreBasedRouter

open ScoreBasedRouter

/-- `newBackendWrapper`. -/
def newBackendWrapper
    (addr : String)
    (health : BackendHealth) : BackendWrapper where
  health := health
  addr := addr
  connScore := 0
  connList := []

/-- `ensureBackend`: the wrapper of `addr`, re-created unhealthy if it is missing. -/
def ensureBackend
    (r : ScoreBasedRouter)
    (addr : String) : BackendPtr × ScoreBasedRouter :=
  match r.backends.lookup addr with
  | some p => (p, r)
  | none =>
      let ip := ((GoNet.SplitHostPort addr).map Prod.fst).getD ""
      let health : BackendHealth :=
        { backendInfo := { labels := [], ip := ip, statusPort := 10080 },
          healthy := false, pingErr := none, serverVersion := "", «local» := false }
      let p := r.nextPtr
      (p, { r with
        wrappers := Function.update r.wrappers p (newBackendWrapper addr health),
        nextPtr := p + 1,
        backends := r.backends.insert addr p })

/-- `removeBackendIfEmpty`: delete the backend's address from the map when it is
unhealthy, has no connections and a non-positive score. -/
def removeBackendIfEmpty
    (r : ScoreBasedRouter)
    (p : BackendPtr) : ScoreBasedRouter × Bool :=
  let b := r.wrappers p
  if !b.health.healthy && b.connList.length == 0 && decide (b.connScore ≤ 0) then
    ({ r with backends := r.backends.erase b.addr }, true)
  else
    (r, false)

/-- `removeConn`: remove the connection from the backend's list, then try to
delete the backend. -/
def removeConn
    (r : ScoreBasedRouter)
    (p : BackendPtr)
    (c : ConnID) : ScoreBasedRouter :=
  let r := r.setWrapper p { r.wrappers p with connList := (r.wrappers p).connList.erase c }
  (removeBackendIfEmpty r p).1

/-- `addConn`: append the connection to the backend's list and store its wrapper. -/
def addConn
    (r : ScoreBasedRouter)
    (p : BackendPtr)
    (c : ConnID)
    (cw : ConnWrapper) : ScoreBasedRouter :=
  let r := r.setWrapper p { r.wrappers p with connList := (r.wrappers p).connList ++ [c] }
  r.setConn c cw

section Frame

variable (r : ScoreBasedRouter) (p p' : BackendPtr) (w : BackendWrapper)
variable (c : ConnID) (cw : ConnWrapper) (d : Int)

theorem setWrapper_wrappers :
    (r.setWrapper p w).wrappers = Function.update r.wrappers p w := by
  rfl

@[simp] theorem setWrapper_wrappers_self :
    (r.setWrapper p w).wrappers p = w := by
  simp [setWrapper_wrappers]

@[simp] theorem setWrapper_wrappers_of_ne
    (h : p' ≠ p) :
    (r.setWrapper p w).wrappers p' = r.wrappers p' := by
  simp [setWrapper_wrappers, h]

/-- A write of a wrapper that keeps its address keeps every address. -/
@[simp] theorem setWrapper_addr_of
    (h : w.addr = (r.wrappers p).addr) :
    ((r.setWrapper p w).wrappers p').addr = (r.wrappers p').addr := by
  by_cases hp : p' = p
  · subst hp
    simpa using h
  · simp [hp]

/-- A write of a wrapper that keeps its score keeps every score. -/
@[simp] theorem setWrapper_connScore_of
    (h : w.connScore = (r.wrappers p).connScore) :
    ((r.setWrapper p w).wrappers p').connScore = (r.wrappers p').connScore := by
  by_cases hp : p' = p
  · subst hp
    simpa using h
  · simp [hp]

/-- A write of a wrapper that keeps its list keeps every list. -/
@[simp] theorem setWrapper_connList_of
    (h : w.connList = (r.wrappers p).connList) :
    ((r.setWrapper p w).wrappers p').connList = (r.wrappers p').connList := by
  by_cases hp : p' = p
  · subst hp
    simpa using h
  · simp [hp]

/-- A write of a wrapper that keeps its health keeps every health. -/
@[simp] theorem setWrapper_health_of
    (h : w.health = (r.wrappers p).health) :
    ((r.setWrapper p w).wrappers p').health = (r.wrappers p').health := by
  by_cases hp : p' = p
  · subst hp
    simpa using h
  · simp [hp]

/-- The lists after a write of one wrapper. -/
theorem setWrapper_connList :
    ((r.setWrapper p w).wrappers p').connList =
      if p' = p then w.connList else (r.wrappers p').connList := by
  by_cases hp : p' = p
  · subst hp
    simp
  · simp [hp]

@[simp] theorem setWrapper_backends :
    (r.setWrapper p w).backends = r.backends := by
  rfl

@[simp] theorem setWrapper_conns :
    (r.setWrapper p w).conns = r.conns := by
  rfl

@[simp] theorem setWrapper_nextPtr :
    (r.setWrapper p w).nextPtr = r.nextPtr := by
  rfl

@[simp] theorem setConn_wrappers :
    (r.setConn c cw).wrappers = r.wrappers := by
  rfl

@[simp] theorem setConn_backends :
    (r.setConn c cw).backends = r.backends := by
  rfl

theorem setConn_conns :
    (r.setConn c cw).conns = Function.update r.conns c cw := by
  rfl

@[simp] theorem setConn_conns_self :
    (r.setConn c cw).conns c = cw := by
  simp [setConn_conns]

@[simp] theorem setConn_conns_of_ne
    {c' : ConnID}
    (h : c' ≠ c) :
    (r.setConn c cw).conns c' = r.conns c' := by
  simp [setConn_conns, h]

@[simp] theorem setConn_nextPtr :
    (r.setConn c cw).nextPtr = r.nextPtr := by
  rfl

@[simp] theorem addScore_backends :
    (r.addScore p d).backends = r.backends := by
  rfl

@[simp] theorem addScore_conns :
    (r.addScore p d).conns = r.conns := by
  rfl

@[simp] theorem addScore_nextPtr :
    (r.addScore p d).nextPtr = r.nextPtr := by
  rfl

@[simp] theorem addScore_wrappers_self :
    (r.addScore p d).wrappers p =
      { r.wrappers p with connScore := (r.wrappers p).connScore + d } := by
  simp [addScore]

@[simp] theorem addScore_wrappers_of_ne
    (h : p' ≠ p) :
    (r.addScore p d).wrappers p' = r.wrappers p' := by
  simp [addScore, h]

/-- `addScore` changes one score and nothing else of any wrapper. -/
theorem addScore_connScore :
    ((r.addScore p d).wrappers p').connScore =
      (r.wrappers p').connScore + if p' = p then d else 0 := by
  by_cases h : p' = p
  · subst h
    simp
  · simp [h]

@[simp] theorem addScore_addr :
    ((r.addScore p d).wrappers p').addr = (r.wrappers p').addr := by
  by_cases h : p' = p
  · subst h
    simp
  · simp [h]

@[simp] theorem addScore_connList :
    ((r.addScore p d).wrappers p').connList = (r.wrappers p').connList := by
  by_cases h : p' = p
  · subst h
    simp
  · simp [h]

/-- `ensureBackend` finds a backend that is in the map. -/
theorem ensureBackend_of_lookup
    {addr : String}
    (h : r.backends.lookup addr = some p) :
    ensureBackend r addr = (p, r) := by
  simp [ensureBackend, h]

/-- `removeBackendIfEmpty` either deletes the wrapper's address or does nothing. -/
theorem removeBackendIfEmpty_fst :
    (removeBackendIfEmpty r p).1 =
      if !(r.wrappers p).health.healthy && (r.wrappers p).connList.length == 0 &&
          decide ((r.wrappers p).connScore ≤ 0) then
        { r with backends := r.backends.erase (r.wrappers p).addr }
      else r := by
  unfold removeBackendIfEmpty
  dsimp only
  split <;> rfl

/-- `removeBackendIfEmpty` changes nothing but the map. -/
@[simp] theorem removeBackendIfEmpty_wrappers :
    (removeBackendIfEmpty r p).1.wrappers = r.wrappers := by
  rw [removeBackendIfEmpty_fst]
  split <;> rfl

@[simp] theorem removeBackendIfEmpty_conns :
    (removeBackendIfEmpty r p).1.conns = r.conns := by
  rw [removeBackendIfEmpty_fst]
  split <;> rfl

@[simp] theorem removeBackendIfEmpty_nextPtr :
    (removeBackendIfEmpty r p).1.nextPtr = r.nextPtr := by
  rw [removeBackendIfEmpty_fst]
  split <;> rfl

/-- A backend that still holds a connection is never deleted. -/
theorem removeBackendIfEmpty_of_connList_ne_nil
    (h : (r.wrappers p).connList ≠ []) :
    (removeBackendIfEmpty r p).1 = r := by
  have hlen : (r.wrappers p).connList.length ≠ 0 := by
    simpa using h
  rw [removeBackendIfEmpty_fst]
  simp [hlen]

/-- `removeBackendIfEmpty` reports whether it deleted the backend. -/
theorem removeBackendIfEmpty_snd :
    (removeBackendIfEmpty r p).2 =
      (!(r.wrappers p).health.healthy && (r.wrappers p).connList.length == 0 &&
        decide ((r.wrappers p).connScore ≤ 0)) := by
  unfold removeBackendIfEmpty
  dsimp only
  split <;> simp_all

/-- The deletion test reads only the backend's own wrapper, so it commutes with
a write through a connection. -/
theorem removeBackendIfEmpty_setConn :
    (removeBackendIfEmpty (r.setConn c cw) p).1 = (removeBackendIfEmpty r p).1.setConn c cw := by
  rw [removeBackendIfEmpty_fst, removeBackendIfEmpty_fst, setConn_wrappers]
  split_ifs <;> rfl

@[simp] theorem setConn_setConn
    (cw' : ConnWrapper) :
    (r.setConn c cw).setConn c cw' = r.setConn c cw' := by
  simp [setConn, Function.update_idem]

/-- `addConn` as the two writes it makes. -/
theorem addConn_eq :
    addConn r p c cw =
      (r.setWrapper p { r.wrappers p with connList := (r.wrappers p).connList ++ [c] }).setConn
        c cw := by
  rfl

end Frame

/-- `policy.BalancePolicy`: the two decisions the router asks of its policy.  The
policy reads the wrappers it is given through `policy.BackendCtx`.
`backendsToBalance` answers `none` for a zero `balanceCount`, otherwise the busiest
and the idlest backend, `balanceCount` and the reason. -/
structure BalancePolicy where
  backendToRoute : (BackendPtr → BackendWrapper) → List BackendPtr → Option BackendPtr
  backendsToBalance :
    (BackendPtr → BackendWrapper) → List BackendPtr →
      Option (BackendPtr × BackendPtr × ℚ × String)

/-- The contract the router's type assertions rely on: a policy answers with
backends among those it was given. -/
def BalancePolicy.PicksGiven
    (policy : BalancePolicy) : Prop :=
  (∀ ws l p, policy.backendToRoute ws l = some p → p ∈ l) ∧
    (∀ ws l f t bc reason,
      policy.backendsToBalance ws l = some (f, t, bc, reason) → f ∈ l ∧ t ∈ l)

/-- The pointers stored in the router's map. -/
def ScoreBasedRouter.backendPtrs
    (r : ScoreBasedRouter) : List BackendPtr :=
  r.backends.entries.map Sigma.snd

/-- The backends `routeOnce` offers to the policy: healthy, and whose address is
not among the already tried ones. -/
def routeCandidates
    (r : ScoreBasedRouter)
    (excluded : List BackendPtr) : List BackendPtr :=
  r.backendPtrs.filter (fun p =>
    (r.wrappers p).health.healthy &&
      !(excluded.any (fun e => (r.wrappers e).addr == (r.wrappers p).addr)))

/-- `routeOnce`: ask the policy for a backend and count the new connection on it. -/
def routeOnce
    (policy : BalancePolicy)
    (r : ScoreBasedRouter)
    (excluded : List BackendPtr) : Except RouterError (BackendPtr × ScoreBasedRouter) :=
  match r.observeError with
  | some err => .error (.observeError err)
  | none =>
      match policy.backendToRoute r.wrappers (routeCandidates r excluded) with
      | none => .error .errNoBackend
      | some p => .ok (p, r.addScore p 1)

/-- A successful `routeOnce` picked one of the candidates and added one to its
score. -/
theorem routeOnce_ok
    {policy : BalancePolicy}
    (hpolicy : policy.PicksGiven)
    {r r' : ScoreBasedRouter}
    {excluded : List BackendPtr}
    {p : BackendPtr}
    (h : routeOnce policy r excluded = .ok (p, r')) :
    p ∈ routeCandidates r excluded ∧ r' = r.addScore p 1 := by
  unfold routeOnce at h
  split at h
  · cases h
  · split at h
    · cases h
    · rename_i q hq
      cases h
      exact ⟨hpolicy.1 _ _ _ hq, rfl⟩

/-- `BackendSelector`: the backends already tried and the current one. -/
structure BackendSelector where
  excluded : List BackendPtr
  cur : Option BackendPtr

/-- `BackendSelector.Next`: route once; if every backend was tried, forget them and
route again. -/
def BackendSelector.next
    (policy : BalancePolicy)
    (bs : BackendSelector)
    (r : ScoreBasedRouter) : BackendSelector × Except RouterError (BackendPtr × ScoreBasedRouter) :=
  let (bs, res) :=
    match routeOnce policy r bs.excluded with
    | .error .errNoBackend =>
        if bs.excluded.length > 0 then
          ({ bs with excluded := [] }, routeOnce policy r [])
        else
          (bs, .error .errNoBackend)
    | res => (bs, res)
  match res with
  | .error err => (bs, .error err)
  | .ok (p, r) => ({ excluded := bs.excluded ++ [p], cur := some p }, .ok (p, r))

/-- A successful `Next` is one successful `routeOnce`, with or without the
backends tried before. -/
theorem BackendSelector.next_ok
    {policy : BalancePolicy}
    {bs bs' : BackendSelector}
    {r r' : ScoreBasedRouter}
    {p : BackendPtr}
    (h : bs.next policy r = (bs', .ok (p, r'))) :
    ∃ excluded, routeOnce policy r excluded = .ok (p, r') := by
  unfold BackendSelector.next at h
  split at h
  rename_i hres
  split at h
  · cases h
  · cases h
    split at hres
    · split at hres
      · exact ⟨[], (Prod.mk.inj hres).2⟩
      · cases (Prod.mk.inj hres).2
    · exact ⟨bs.excluded, (Prod.mk.inj hres).2⟩

/-- `onCreateConn`: a connection to the routed backend was created, or failed. -/
def onCreateConn
    (r : ScoreBasedRouter)
    (backendInst : BackendPtr)
    (conn : ConnID)
    (succeed : Bool) : ScoreBasedRouter :=
  let (p, r) := ensureBackend r (r.wrappers backendInst).addr
  if succeed then
    addConn r p conn
      { redirectReason := "", redirectingBackend := none, lastRedirect := 0,
        phase := .phaseNotRedirected }
  else
    r.addScore p (-1)

/-- `onCreateConn` for a backend whose address is still mapped to it. -/
theorem onCreateConn_of_lookup
    {r : ScoreBasedRouter}
    {p : BackendPtr}
    (conn : ConnID)
    (succeed : Bool)
    (h : r.backends.lookup (r.wrappers p).addr = some p) :
    onCreateConn r p conn succeed =
      if succeed then
        addConn r p conn
          { redirectReason := "", redirectingBackend := none, lastRedirect := 0,
            phase := .phaseNotRedirected }
      else
        r.addScore p (-1) := by
  simp [onCreateConn, ensureBackend_of_lookup r p h]

/-- `BackendSelector.Finish`. -/
def BackendSelector.finish
    (bs : BackendSelector)
    (r : ScoreBasedRouter)
    (conn : ConnID)
    (succeed : Bool) : Option ScoreBasedRouter :=
  bs.cur.map (fun p => onCreateConn r p conn succeed)

/-- `onRedirectFinished`: move the connection on success, give the scores back on
failure; either way the connection stops redirecting. -/
def onRedirectFinished
    (r : ScoreBasedRouter)
    («from» «to» : String)
    (conn : ConnID)
    (succeed : Bool) : ScoreBasedRouter :=
  let (fromBackend, r) := ensureBackend r «from»
  let (toBackend, r) := ensureBackend r «to»
  let cw := r.conns conn
  let r :=
    if succeed then
      let r := removeConn r fromBackend conn
      let r := addConn r toBackend conn cw
      r.setConn conn { r.conns conn with phase := .phaseRedirectEnd }
    else
      let r := r.addScore fromBackend 1
      let r := r.addScore toBackend (-1)
      let r := (removeBackendIfEmpty r toBackend).1
      r.setConn conn { r.conns conn with phase := .phaseRedirectFail }
  r.setConn conn { r.conns conn with redirectingBackend := none }

/-- A successful redirection, with both backends mapped: the connection leaves the
old backend's list, joins the new one's and stops redirecting. -/
theorem onRedirectFinished_true_eq
    {r : ScoreBasedRouter}
    {«from» «to» : String}
    {h q : BackendPtr}
    (conn : ConnID)
    (hf : r.backends.lookup «from» = some h)
    (ht : r.backends.lookup «to» = some q) :
    onRedirectFinished r «from» «to» conn true =
      (addConn (removeConn r h conn) q conn (r.conns conn)).setConn conn
        { r.conns conn with phase := .phaseRedirectEnd, redirectingBackend := none } := by
  simp [onRedirectFinished, ensureBackend_of_lookup _ _ hf, ensureBackend_of_lookup _ _ ht,
    addConn_eq]

/-- A failed redirection, with both backends mapped: the scores go back and the
deletion test of the target runs after the connection's writes, which it does not
read. -/
theorem onRedirectFinished_false_eq
    {r : ScoreBasedRouter}
    {«from» «to» : String}
    {h q : BackendPtr}
    (conn : ConnID)
    (hf : r.backends.lookup «from» = some h)
    (ht : r.backends.lookup «to» = some q) :
    onRedirectFinished r «from» «to» conn false =
      (removeBackendIfEmpty
        (((r.addScore h 1).addScore q (-1)).setConn conn
          { r.conns conn with phase := .phaseRedirectFail, redirectingBackend := none }) q).1 := by
  simp only [onRedirectFinished, ensureBackend_of_lookup _ _ hf, ensureBackend_of_lookup _ _ ht,
    Bool.false_eq_true, if_false]
  rw [← removeBackendIfEmpty_setConn, ← removeBackendIfEmpty_setConn, setConn_setConn]
  simp

/-- `OnRedirectSucceed`. -/
def OnRedirectSucceed
    (r : ScoreBasedRouter)
    («from» «to» : String)
    (conn : ConnID) : ScoreBasedRouter :=
  onRedirectFinished r «from» «to» conn true

/-- `OnRedirectFail`. -/
def OnRedirectFail
    (r : ScoreBasedRouter)
    («from» «to» : String)
    (conn : ConnID) : ScoreBasedRouter :=
  onRedirectFinished r «from» «to» conn false

/-- `OnConnClosed`: the connection on `addr` closed; a redirecting connection gives
its score back to the target backend. -/
def OnConnClosed
    (r : ScoreBasedRouter)
    (addr : String)
    (conn : ConnID) : ScoreBasedRouter :=
  let (backend, r) := ensureBackend r addr
  let cw := r.conns conn
  let r :=
    match cw.redirectingBackend with
    | some redirectingBackend =>
        let r := r.addScore redirectingBackend (-1)
        let r := r.setConn conn { cw with redirectingBackend := none }
        (removeBackendIfEmpty r redirectingBackend).1
    | none => r.addScore backend (-1)
  removeConn r backend conn

/-- `OnConnClosed` of a redirecting connection whose backend is mapped. -/
theorem OnConnClosed_eq_of_redirecting
    {r : ScoreBasedRouter}
    {addr : String}
    {h q : BackendPtr}
    {conn : ConnID}
    (hf : r.backends.lookup addr = some h)
    (hq : (r.conns conn).redirectingBackend = some q) :
    OnConnClosed r addr conn =
      removeConn
        (removeBackendIfEmpty
          ((r.addScore q (-1)).setConn conn { r.conns conn with redirectingBackend := none }) q).1
        h conn := by
  simp [OnConnClosed, ensureBackend_of_lookup _ _ hf, hq]

/-- `OnConnClosed` of a connection that is not redirecting, on a mapped backend. -/
theorem OnConnClosed_eq_of_not_redirecting
    {r : ScoreBasedRouter}
    {addr : String}
    {h : BackendPtr}
    {conn : ConnID}
    (hf : r.backends.lookup addr = some h)
    (hq : (r.conns conn).redirectingBackend = none) :
    OnConnClosed r addr conn = removeConn (r.addScore h (-1)) h conn := by
  simp [OnConnClosed, ensureBackend_of_lookup _ _ hf, hq]

/-- The first loop of `updateBackendHealth`: every backend of the router missing
from the result is added to it as unhealthy, keeping its `BackendInfo`. -/
def addRemovedBackends
    (r : ScoreBasedRouter)
    (backends : AList (fun _ : String => BackendHealth)) :
    AList (fun _ : String => BackendHealth) :=
  r.backends.entries.foldl
    (fun acc e =>
      match acc.lookup e.1 with
      | some _ => acc
      | none =>
          acc.insert e.1
            { backendInfo := (r.wrappers e.2).health.backendInfo, healthy := false,
              pingErr := some "removed from backend list", serverVersion := "",
              «local» := false })
    backends

/-- One iteration of the second loop of `updateBackendHealth`: add a new healthy
backend, or store a changed health and try to delete the backend.  The second
component is the `serverVersion` seen so far. -/
def updateOneBackend
    (acc : ScoreBasedRouter × String)
    (e : Σ _ : String, BackendHealth) : ScoreBasedRouter × String :=
  let (r, serverVersion) := acc
  let addr := e.1
  let health := e.2
  match r.backends.lookup addr with
  | none =>
      if health.healthy then
        let p := r.nextPtr
        ({ r with
            wrappers := Function.update r.wrappers p (newBackendWrapper addr health),
            nextPtr := p + 1,
            backends := r.backends.insert addr p },
          health.serverVersion)
      else
        (r, serverVersion)
  | some p =>
      if !(r.wrappers p).health.equals health then
        let r := r.setWrapper p { r.wrappers p with health := health }
        let r := (removeBackendIfEmpty r p).1
        (r, if health.healthy then health.serverVersion else serverVersion)
      else
        (r, serverVersion)

/-- `updateBackendHealth`: apply a health-check result to every backend. -/
def updateBackendHealth
    (r : ScoreBasedRouter)
    (healthResults : HealthResult) : ScoreBasedRouter :=
  let r := { r with observeError := healthResults.err }
  match healthResults.err with
  | some _ => r
  | none =>
      let backends := addRemovedBackends r healthResults.backends
      let (r, serverVersion) := backends.entries.foldl updateOneBackend (r, "")
      if serverVersion.length > 0 then { r with serverVersion := serverVersion } else r

/-- Whether `rebalance` may pick the connection now: it is not redirecting, and it
did not fail to redirect within the last `redirectFailMinInterval`. -/
def redirectable
    (cw : ConnWrapper)
    (curTime : Nat) : Bool :=
  match cw.phase with
  | .phaseRedirectNotify => false
  | .phaseRedirectFail => !decide (cw.lastRedirect + redirectFailMinInterval > curTime)
  | _ => true

/-- A connection `rebalance` may pick is not being redirected. -/
theorem phase_ne_of_redirectable
    {cw : ConnWrapper}
    {curTime : Nat}
    (h : redirectable cw curTime = true) :
    cw.phase ≠ .phaseRedirectNotify := by
  intro hp
  simp [redirectable, hp] at h

/-- The connection `rebalance` migrates next: the first redirectable one in the
backend's `connList`. -/
def pickConn
    (r : ScoreBasedRouter)
    (fromBackend : BackendPtr)
    (curTime : Nat) : Option ConnID :=
  (r.wrappers fromBackend).connList.find? (fun c => redirectable (r.conns c) curTime)

/-- The connection `pickConn` picks is in the backend's list and redirectable. -/
theorem pickConn_some
    {r : ScoreBasedRouter}
    {fromBackend : BackendPtr}
    {curTime : Nat}
    {c : ConnID}
    (h : pickConn r fromBackend curTime = some c) :
    c ∈ (r.wrappers fromBackend).connList ∧ redirectable (r.conns c) curTime = true := by
  unfold pickConn at h
  exact ⟨List.mem_of_find?_eq_some h, List.find?_some (p := fun c => redirectable (r.conns c) curTime) h⟩

/-- `redirectConn`: `accepted` is the result of `conn.Redirect(toBackend)`; an
accepted redirection moves one unit of score from the source to the target. -/
def redirectConn
    (r : ScoreBasedRouter)
    (accepted : Bool)
    (conn : ConnID)
    (fromBackend toBackend : BackendPtr)
    (reason : String)
    (curTime : Nat) : ScoreBasedRouter :=
  let cw := r.conns conn
  let r :=
    if accepted then
      let r := r.addScore fromBackend (-1)
      let r := (removeBackendIfEmpty r fromBackend).1
      let r := r.addScore toBackend 1
      r.setConn conn
        { cw with
          phase := .phaseRedirectNotify
          redirectReason := reason
          redirectingBackend := some toBackend }
    else
      r.setConn conn { cw with phase := .phaseRedirectFail }
  r.setConn conn { r.conns conn with lastRedirect := curTime }

/-- An accepted redirection, as the writes it makes. -/
theorem redirectConn_true_eq
    (r : ScoreBasedRouter)
    (conn : ConnID)
    (fromBackend toBackend : BackendPtr)
    (reason : String)
    (curTime : Nat) :
    redirectConn r true conn fromBackend toBackend reason curTime =
      ((removeBackendIfEmpty (r.addScore fromBackend (-1)) fromBackend).1.addScore
          toBackend 1).setConn conn
        { r.conns conn with
          phase := .phaseRedirectNotify
          redirectReason := reason
          redirectingBackend := some toBackend
          lastRedirect := curTime } := by
  simp [redirectConn]

/-- A refused redirection only marks the connection as failed. -/
theorem redirectConn_false_eq
    (r : ScoreBasedRouter)
    (conn : ConnID)
    (fromBackend toBackend : BackendPtr)
    (reason : String)
    (curTime : Nat) :
    redirectConn r false conn fromBackend toBackend reason curTime =
      r.setConn conn { r.conns conn with phase := .phaseRedirectFail, lastRedirect := curTime } := by
  simp [redirectConn]

/-- `redirectConn` of a connection in the source backend's list keeps the map: the
deletion test of the source fails. -/
theorem redirectConn_backends
    {r : ScoreBasedRouter}
    {conn : ConnID}
    {fromBackend toBackend : BackendPtr}
    (accepted : Bool)
    (reason : String)
    (curTime : Nat)
    (hc : conn ∈ (r.wrappers fromBackend).connList) :
    (redirectConn r accepted conn fromBackend toBackend reason curTime).backends = r.backends := by
  cases accepted with
  | false =>
      simp [redirectConn_false_eq]
  | true =>
      have hne : ((r.addScore fromBackend (-1)).wrappers fromBackend).connList ≠ [] := by
        simpa using List.ne_nil_of_mem hc
      simp [redirectConn_true_eq, removeBackendIfEmpty_of_connList_ne_nil _ _ hne]

/-- The migration loop of `rebalance`: at most `count` connections, stopping when
the context is cancelled (`ctxErr i`) or no connection is redirectable.
`redirect c t` is the answer of `c.Redirect(t)`. -/
def redirectLoop
    (redirect : ConnID → BackendPtr → Bool)
    (ctxErr : Nat → Bool)
    (fromBackend toBackend : BackendPtr)
    (reason : String)
    (curTime : Nat) : Nat → Nat → ScoreBasedRouter → ScoreBasedRouter
  | _, 0, r => r
  | i, count + 1, r =>
      if ctxErr i then r
      else
        match pickConn r fromBackend curTime with
        | none => r
        | some c =>
            let r := redirectConn r (redirect c toBackend) c fromBackend toBackend reason curTime
            redirectLoop redirect ctxErr fromBackend toBackend reason curTime (i + 1) count
              { r with lastRedirectTime := curTime }

/-- The speed control of `rebalance`: `none` when the integer division by a zero
`migrationInterval` panics, `some 0` when this round migrates nothing.  The conversion
of `float64(time.Second) / balanceCount` to a `time.Duration` truncates toward zero. -/
def migrationCount
    (balanceCount : ℚ)
    (curTime lastRedirectTime : Nat) : Option Nat :=
  let interval : ℚ := 1000000000 / balanceCount
  let migrationInterval : Int := interval.num.tdiv interval.den
  if migrationInterval < 2 * (rebalanceInterval : Int) then
    if migrationInterval = 0 then none
    else some ((((rebalanceInterval : Int) - 1).tdiv migrationInterval + 1).toNat)
  else if ((curTime : Int) - lastRedirectTime) ≥ migrationInterval then some 1
  else some 0

/-- `rebalance`: migrate a few connections from the busiest to the idlest backend.
`none` is the panic of a zero `migrationInterval`. -/
def rebalance
    (policy : BalancePolicy)
    (redirect : ConnID → BackendPtr → Bool)
    (ctxErr : Nat → Bool)
    (curTime : Nat)
    (r : ScoreBasedRouter) : Option ScoreBasedRouter :=
  if r.backends.entries.length ≤ 1 then some r
  else
    match policy.backendsToBalance r.wrappers r.backendPtrs with
    | none => some r
    | some (fromBackend, toBackend, balanceCount, reason) =>
        (migrationCount balanceCount curTime r.lastRedirectTime).map (fun count =>
          redirectLoop redirect ctxErr fromBackend toBackend reason curTime 0 count r)

/-- `rebalance` leaves the router as it is, or runs the migration loop between two
backends of the map. -/
theorem rebalance_some
    {policy : BalancePolicy}
    (hpolicy : policy.PicksGiven)
    {redirect : ConnID → BackendPtr → Bool}
    {ctxErr : Nat → Bool}
    {curTime : Nat}
    {r r' : ScoreBasedRouter}
    (h : rebalance policy redirect ctxErr curTime r = some r') :
    r' = r ∨ ∃ fromBackend toBackend reason count,
      fromBackend ∈ r.backendPtrs ∧ toBackend ∈ r.backendPtrs ∧
        r' = redirectLoop redirect ctxErr fromBackend toBackend reason curTime 0 count r := by
  unfold rebalance at h
  split at h
  · exact .inl (Option.some.inj h).symm
  · split at h
    · exact .inl (Option.some.inj h).symm
    · rename_i f t bc reason hb
      obtain ⟨count, -, rfl⟩ := Option.map_eq_some_iff.mp h
      have hft := hpolicy.2 _ _ _ _ _ _ hb
      exact .inr ⟨f, t, reason, count, hft.1, hft.2, rfl⟩

/-- `rebalance` over a map of two backends or more, when the policy asks to balance and
the speed control allows `count` migrations. -/
theorem rebalance_of_balance
    {policy : BalancePolicy}
    {redirect : ConnID → BackendPtr → Bool}
    {ctxErr : Nat → Bool}
    {curTime : Nat}
    {r : ScoreBasedRouter}
    (fromBackend toBackend : BackendPtr)
    (balanceCount : ℚ)
    (reason : String)
    (count : Nat)
    (hlen : 1 < r.backends.entries.length)
    (hb : policy.backendsToBalance r.wrappers r.backendPtrs =
      some (fromBackend, toBackend, balanceCount, reason))
    (hcount : migrationCount balanceCount curTime r.lastRedirectTime = some count) :
    rebalance policy redirect ctxErr curTime r =
      some (redirectLoop redirect ctxErr fromBackend toBackend reason curTime 0 count r) := by
  unfold rebalance
  rw [if_neg (Nat.not_le.mpr hlen), hb]
  simp only [hcount, Option.map_some]

end Router
end TiProxy
