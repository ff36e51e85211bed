import TiProxy.Balance.Router
import TiProxy.Lib.Count
import TiProxy.Lib.Transition

/-!
# The connection bookkeeping invariant of the router

`backendWrapper.connScore` is documented as
`connList.Len() + incoming connections - outgoing connections`.  This module
proves that law over every run of the router, together with the facts the router
relies on: scores are never negative, every live connection sits in exactly one
backend's `connList`, and `removeBackendIfEmpty` never deletes a wrapper that a
connection or a pending route still points to.

**System.**  `RouterSys` is the router with two ghost components recorded from
the history: the `routeOnce` selections not yet finished by `onCreateConn`, and
the live connections.  `RouterStep` has one constructor per router operation,
guarded by the protocol the connections obey: a finishing event only for a
connection that is redirecting, naming the backend that holds it and the
redirect target; `OnConnClosed` last, naming the holder; `onCreateConn` for a
pending selection and a new connection; and a policy that answers with backends
it was given.

**Invariant.**  A third ghost, `holder`, names the wrapper whose list holds each
live connection.  A live connection's *effective* backend is its redirect target
if it is redirecting and its holder otherwise.  The invariant `RouterInv` states
that the score of every backend in the map is the number of live connections
whose effective backend it is plus its pending selections (`tokenCount`).  Every
operation moves one such token at most, so each step lemma is a short count.
The documented law follows by splitting the live connections of a backend.

**Results.**
* `routerInv_reachable`: `RouterInv` holds in every reachable state.
* `connBookkeeping_reachable`: the documented law, non-negative scores, a unique
  backend for every live connection, and `removeBackendIfEmpty` deletes only a backend
  that no connection or pending route points to.
-/

namespace TiProxy
namespace Router

open Observer ScoreBasedRouter

/-- The router together with the history facts the law refers to. -/
structure RouterSys where
  router : ScoreBasedRouter
  pending : List BackendPtr
  live : List ConnID
  holder : ConnID → BackendPtr

/-- The router before any operation. -/
def RouterSys.init : RouterSys where
  router := NewScoreBasedRouter
  pending := []
  live := []
  holder := fun _ => 0

/-- A backend pointer stored in the router's map. -/
def Mapped
    (r : ScoreBasedRouter)
    (p : BackendPtr) : Prop :=
  ∃ a, r.backends.lookup a = some p

/-- One router operation, under the protocol the connections follow. -/
inductive RouterStep : RouterSys → RouterSys → Prop
  | routeOnce
      (s : RouterSys)
      (policy : BalancePolicy)
      (hpolicy : policy.PicksGiven)
      (excluded : List BackendPtr)
      {p : BackendPtr}
      {r' : ScoreBasedRouter}
      (h : routeOnce policy s.router excluded = .ok (p, r')) :
      RouterStep s { s with router := r', pending := p :: s.pending }
  | createConn
      (s : RouterSys)
      {p : BackendPtr}
      (hp : p ∈ s.pending)
      {conn : ConnID}
      (hfresh : conn ∉ s.live)
      (succeed : Bool) :
      RouterStep s
        { router := onCreateConn s.router p conn succeed
          pending := s.pending.erase p
          live := if succeed then conn :: s.live else s.live
          holder := if succeed then Function.update s.holder conn p else s.holder }
  | redirectFinished
      (s : RouterSys)
      {conn : ConnID}
      (hlive : conn ∈ s.live)
      {q : BackendPtr}
      (hq : (s.router.conns conn).redirectingBackend = some q)
      {a : String}
      {h : BackendPtr}
      (hh : s.router.backends.lookup a = some h)
      (hmem : conn ∈ (s.router.wrappers h).connList)
      (succeed : Bool) :
      RouterStep s
        { s with
          router := onRedirectFinished s.router a (s.router.wrappers q).addr conn succeed
          holder := if succeed then Function.update s.holder conn q else s.holder }
  | connClosed
      (s : RouterSys)
      {conn : ConnID}
      (hlive : conn ∈ s.live)
      {a : String}
      {h : BackendPtr}
      (hh : s.router.backends.lookup a = some h)
      (hmem : conn ∈ (s.router.wrappers h).connList) :
      RouterStep s
        { s with router := OnConnClosed s.router a conn, live := s.live.erase conn }
  | rebalance
      (s : RouterSys)
      (policy : BalancePolicy)
      (hpolicy : policy.PicksGiven)
      (redirect : ConnID → BackendPtr → Bool)
      (ctxErr : Nat → Bool)
      (curTime : Nat)
      {r' : ScoreBasedRouter}
      (h : rebalance policy redirect ctxErr curTime s.router = some r') :
      RouterStep s { s with router := r' }
  | healthUpdate
      (s : RouterSys)
      (healthResults : HealthResult) :
      RouterStep s { s with router := updateBackendHealth s.router healthResults }

/-- The states of the router reachable under the protocol. -/
def RouterReachable (s : RouterSys) : Prop :=
  Transition.Reachable RouterStep (· = RouterSys.init) s

/-- The backend a live connection counts on: its redirect target while it is
redirecting, the backend holding it otherwise. -/
def RouterSys.effective
    (s : RouterSys)
    (c : ConnID) : BackendPtr :=
  (s.router.conns c).redirectingBackend.getD (s.holder c)

/-- The live connections that count on `p`. -/
def RouterSys.liveTokens
    (s : RouterSys)
    (p : BackendPtr) : Nat :=
  s.live.countP (fun c => s.effective c == p)

/-- The connections and pending routes that count on `p`. -/
def RouterSys.tokenCount
    (s : RouterSys)
    (p : BackendPtr) : Nat :=
  s.liveTokens p + s.pending.count p

/-- The bookkeeping invariant of the router.  `δ` is the correction of an operation
in progress: between two writes of one operation a score may run ahead of, or behind,
the tokens it counts.  Between operations `δ = 0`. -/
structure RouterInv
    (s : RouterSys)
    (δ : BackendPtr → Int) : Prop where
  addr_of_lookup : ∀ a p, s.router.backends.lookup a = some p → (s.router.wrappers p).addr = a
  lt_of_lookup : ∀ a p, s.router.backends.lookup a = some p → p < s.router.nextPtr
  live_nodup : s.live.Nodup
  connList_nodup : ∀ p, (s.router.wrappers p).connList.Nodup
  mem_connList : ∀ p c, c ∈ (s.router.wrappers p).connList ↔ c ∈ s.live ∧ s.holder c = p
  holder_mapped : ∀ c ∈ s.live, Mapped s.router (s.holder c)
  redirect_mapped :
    ∀ c ∈ s.live, ∀ q, (s.router.conns c).redirectingBackend = some q → Mapped s.router q
  redirect_phase :
    ∀ c ∈ s.live, (s.router.conns c).redirectingBackend ≠ none →
      (s.router.conns c).phase = .phaseRedirectNotify
  pending_mapped : ∀ p ∈ s.pending, Mapped s.router p
  score : ∀ p, Mapped s.router p → (s.router.wrappers p).connScore = s.tokenCount p + δ p

section MapFacts

variable {r r' : ScoreBasedRouter}

/-- Whether a pointer is mapped is read from the map alone. -/
theorem mapped_iff_of_backends_eq
    (h : r'.backends = r.backends)
    {p : BackendPtr} :
    Mapped r' p ↔ Mapped r p := by
  unfold Mapped
  rw [h]

/-- The pointers of the map's entries are mapped. -/
theorem mapped_of_mem_backendPtrs
    {p : BackendPtr}
    (h : p ∈ r.backendPtrs) :
    Mapped r p := by
  unfold ScoreBasedRouter.backendPtrs at h
  obtain ⟨e, he, rfl⟩ := List.mem_map.mp h
  exact ⟨e.1, AList.mem_lookup_iff.mpr he⟩

/-- The routing candidates are backends of the map. -/
theorem mapped_of_mem_routeCandidates
    {p : BackendPtr}
    {excluded : List BackendPtr}
    (h : p ∈ routeCandidates r excluded) :
    Mapped r p :=
  mapped_of_mem_backendPtrs (List.mem_filter.mp h).1

end MapFacts

section Tokens

variable {s : RouterSys} {r : ScoreBasedRouter}

/-- Finishing a pending selection takes its token away. -/
theorem count_erase_pending
    {l : List BackendPtr}
    {p : BackendPtr}
    (hp : p ∈ l)
    (q : BackendPtr) :
    (l.erase p).count q + (if p = q then 1 else 0) = l.count q := by
  rw [List.count_erase]
  by_cases hpq : p = q
  · subst hpq
    have hpos : 0 < l.count p := List.count_pos_iff.mpr hp
    simp only [beq_self_eq_true, if_true]
    omega
  · simp [hpq]

/-- The tokens are read from the wrappers of the live connections and the ghost
components only. -/
theorem tokenCount_of_conns_eq
    (h : ∀ x ∈ s.live, r.conns x = s.router.conns x) :
    ({ s with router := r } : RouterSys).tokenCount = s.tokenCount := by
  funext q
  dsimp only [RouterSys.tokenCount, RouterSys.liveTokens]
  congr 1
  apply List.countP_congr
  intro x hx
  simp [RouterSys.effective, h x hx]

/-- A write through the wrapper of one live connection moves its token from the old
effective backend to the new one. -/
theorem tokenCount_move
    (hnd : s.live.Nodup)
    {c : ConnID}
    (hc : c ∈ s.live)
    (hconns : ∀ x, x ≠ c → r.conns x = s.router.conns x)
    (q : BackendPtr) :
    (({ s with router := r } : RouterSys).tokenCount q : Int) +
        (if s.effective c = q then 1 else 0) =
      s.tokenCount q + (if (r.conns c).redirectingBackend.getD (s.holder c) = q then 1 else 0) := by
  have h := List.countP_update_point hnd (c := c)
    (p := fun x => s.effective x == q)
    (q := fun x => RouterSys.effective { s with router := r } x == q)
    (fun x _ hne => by simp [RouterSys.effective, hconns x hne])
  have hc' : RouterSys.effective { s with router := r } c =
      (r.conns c).redirectingBackend.getD (s.holder c) := by
    rfl
  simp only [hc, true_and, beq_iff_eq, hc'] at h
  dsimp only [RouterSys.tokenCount, RouterSys.liveTokens]
  split_ifs at h ⊢ <;> omega

/-- A connection leaving the live ones leaves its token, as a pending one, on its
effective backend. -/
theorem tokenCount_detach
    {c : ConnID}
    (hc : c ∈ s.live)
    (hconns : r.conns = s.router.conns) :
    RouterSys.tokenCount ⟨r, s.effective c :: s.pending, s.live.erase c, s.holder⟩ =
      s.tokenCount := by
  funext q
  have hcongr : (s.live.erase c).countP (fun x =>
      RouterSys.effective ⟨r, s.effective c :: s.pending, s.live.erase c, s.holder⟩ x == q) =
        (s.live.erase c).countP (fun x => s.effective x == q) := by
    apply List.countP_congr
    intro x _
    simp [RouterSys.effective, hconns]
  dsimp only [RouterSys.tokenCount, RouterSys.liveTokens]
  rw [hcongr, List.countP_erase, List.count_cons]
  by_cases hq : s.effective c = q
  · have hpos : 0 < s.live.countP (fun x => s.effective x == q) :=
      List.countP_pos_iff.mpr ⟨c, hc, by simp [hq]⟩
    simp only [hc, hq, beq_self_eq_true, and_self, if_true]
    omega
  · simp [hq]

/-- A connection joining the live ones and counting on `p` takes a pending token
of `p`. -/
theorem tokenCount_attach
    {c : ConnID}
    (hfresh : c ∉ s.live)
    {p : BackendPtr}
    (hp : p ∈ s.pending)
    (hconns : ∀ x, x ≠ c → r.conns x = s.router.conns x)
    (hc : (r.conns c).redirectingBackend.getD p = p) :
    RouterSys.tokenCount ⟨r, s.pending.erase p, c :: s.live, Function.update s.holder c p⟩ =
      s.tokenCount := by
  funext q
  have hne : ∀ x ∈ s.live, x ≠ c := fun x hx h => hfresh (h ▸ hx)
  have hcongr : s.live.countP (fun x =>
      RouterSys.effective ⟨r, s.pending.erase p, c :: s.live, Function.update s.holder c p⟩ x ==
        q) = s.live.countP (fun x => s.effective x == q) := by
    apply List.countP_congr
    intro x hx
    simp [RouterSys.effective, hconns x (hne x hx), hne x hx]
  have heffc : RouterSys.effective
      ⟨r, s.pending.erase p, c :: s.live, Function.update s.holder c p⟩ c = p := by
    simpa [RouterSys.effective] using hc
  have hcount := count_erase_pending hp q
  dsimp only [RouterSys.tokenCount, RouterSys.liveTokens]
  rw [List.countP_cons, hcongr, heffc]
  by_cases hpq : p = q
  · subst hpq
    simp only [if_true] at hcount
    simp only [beq_self_eq_true, if_true]
    omega
  · simp only [hpq, if_false] at hcount
    simp only [beq_iff_eq, hpq, if_false]
    omega

/-- A connection counts on `p` when it redirects to `p`, or when it is not redirecting
and `p` holds it. -/
theorem countP_effective_split
    (l : List ConnID)
    (p : BackendPtr) :
    l.countP (fun c => s.effective c == p) =
      l.countP (fun c => (s.router.conns c).redirectingBackend == some p) +
        l.countP (fun c => (s.router.conns c).redirectingBackend == none && s.holder c == p) := by
  induction l with
  | nil =>
      rfl
  | cons c l ih =>
      simp only [List.countP_cons, ih]
      cases hr : (s.router.conns c).redirectingBackend with
      | none =>
          simp [RouterSys.effective, hr]
          omega
      | some q =>
          simp [RouterSys.effective, hr]
          omega

end Tokens

/-- The invariant holds before any operation. -/
theorem routerInv_init : RouterInv RouterSys.init (fun _ => 0) where
  addr_of_lookup := by
    intro a p h
    simp [RouterSys.init, NewScoreBasedRouter] at h
  lt_of_lookup := by
    intro a p h
    simp [RouterSys.init, NewScoreBasedRouter] at h
  live_nodup := List.nodup_nil
  connList_nodup := by
    intro p
    exact List.nodup_nil
  mem_connList := by
    intro p c
    simp [RouterSys.init, NewScoreBasedRouter]
    exact List.not_mem_nil
  holder_mapped := by
    intro c hc
    simp [RouterSys.init] at hc
  redirect_mapped := by
    intro c hc
    simp [RouterSys.init] at hc
  redirect_phase := by
    intro c hc
    simp [RouterSys.init] at hc
  pending_mapped := by
    intro p hp
    simp [RouterSys.init] at hp
  score := by
    rintro p ⟨a, ha⟩
    simp [RouterSys.init, NewScoreBasedRouter] at ha

namespace RouterInv

variable {s : RouterSys} {δ : BackendPtr → Int}

/-- The invariant reads the live connections as a set and the correction only on
mapped backends. -/
theorem transport
    (hinv : RouterInv s δ)
    {s' : RouterSys}
    {δ' : BackendPtr → Int}
    (hr : s'.router = s.router)
    (hp : s'.pending = s.pending)
    (hl : s'.live.Perm s.live)
    (hh : s'.holder = s.holder)
    (hδ : ∀ p, Mapped s.router p → δ' p = δ p) :
    RouterInv s' δ' := by
  obtain ⟨r', pending', live', holder'⟩ := s'
  simp only at hr hp hl hh
  subst hr hp hh
  have htok : RouterSys.tokenCount ⟨s.router, s.pending, live', s.holder⟩ = s.tokenCount := by
    funext q
    simp only [RouterSys.tokenCount, RouterSys.liveTokens, RouterSys.effective]
    rw [hl.countP_eq]
  refine
    { addr_of_lookup := hinv.addr_of_lookup, lt_of_lookup := hinv.lt_of_lookup,
      live_nodup := hl.nodup_iff.mpr hinv.live_nodup, connList_nodup := hinv.connList_nodup,
      mem_connList := ?_, holder_mapped := ?_, redirect_mapped := ?_, redirect_phase := ?_,
      pending_mapped := hinv.pending_mapped, score := ?_ }
  · intro p c
    rw [hinv.mem_connList p c, hl.mem_iff]
  · intro c hc
    exact hinv.holder_mapped c (hl.mem_iff.mp hc)
  · intro c hc
    exact hinv.redirect_mapped c (hl.mem_iff.mp hc)
  · intro c hc
    exact hinv.redirect_phase c (hl.mem_iff.mp hc)
  · intro p hp
    rw [htok, hinv.score p hp, hδ p hp]

/-- The invariant does not read the router's other fields. -/
theorem of_router_eq
    (hinv : RouterInv s δ)
    {r : ScoreBasedRouter}
    (hb : r.backends = s.router.backends)
    (hw : r.wrappers = s.router.wrappers)
    (hn : r.nextPtr = s.router.nextPtr)
    (hc : r.conns = s.router.conns) :
    RouterInv { s with router := r } δ := by
  obtain ⟨b, oe, sv, lrt, w, n, cs⟩ := r
  simp only at hb hw hn hc
  subst hb hw hn hc
  exact { hinv with }

/-- A mapped wrapper is stored under its own address. -/
theorem lookup_addr
    (hinv : RouterInv s δ)
    {p : BackendPtr}
    (hp : Mapped s.router p) :
    s.router.backends.lookup (s.router.wrappers p).addr = some p := by
  obtain ⟨a, ha⟩ := hp
  rw [hinv.addr_of_lookup a p ha]
  exact ha

/-- Deleting the address of a mapped wrapper unmaps exactly that wrapper. -/
theorem mapped_erase_iff
    (hinv : RouterInv s δ)
    {p q : BackendPtr}
    (hp : Mapped s.router p) :
    Mapped { s.router with backends := s.router.backends.erase (s.router.wrappers p).addr } q ↔
      Mapped s.router q ∧ q ≠ p := by
  constructor
  · rintro ⟨a, ha⟩
    by_cases hap : a = (s.router.wrappers p).addr
    · subst hap
      simp [AList.lookup_erase] at ha
    · rw [AList.lookup_erase_ne hap] at ha
      refine ⟨⟨a, ha⟩, ?_⟩
      rintro rfl
      exact hap (hinv.addr_of_lookup a q ha).symm
  · rintro ⟨⟨a, ha⟩, hqp⟩
    refine ⟨a, ?_⟩
    have hap : a ≠ (s.router.wrappers p).addr := by
      intro hap
      rw [hap, hinv.lookup_addr hp] at ha
      exact hqp (Option.some.inj ha).symm
    rw [AList.lookup_erase_ne hap]
    exact ha

/-- The backend a live connection counts on is mapped. -/
theorem effective_mapped
    (hinv : RouterInv s δ)
    {c : ConnID}
    (hc : c ∈ s.live) :
    Mapped s.router (s.effective c) := by
  unfold RouterSys.effective
  cases hr : (s.router.conns c).redirectingBackend with
  | none => exact hinv.holder_mapped c hc
  | some q => exact hinv.redirect_mapped c hc q hr

/-- A live connection in a backend's list is held by that backend. -/
theorem holder_eq
    (hinv : RouterInv s δ)
    {c : ConnID}
    {h : BackendPtr}
    (hmem : c ∈ (s.router.wrappers h).connList) :
    s.holder c = h :=
  ((hinv.mem_connList h c).mp hmem).2

/-- A backend whose score is not positive, and whose correction is not negative, is
counted on by nobody. -/
theorem tokenCount_eq_zero
    (hinv : RouterInv s δ)
    {p : BackendPtr}
    (hp : Mapped s.router p)
    (hδ : 0 ≤ δ p)
    (hscore : (s.router.wrappers p).connScore ≤ 0) :
    s.tokenCount p = 0 := by
  have h := hinv.score p hp
  omega

/-- A backend that `removeBackendIfEmpty` may delete, with a correction that is not
negative, is referenced by nothing: no live connection counts on it or sits in its
list, and no selection of it is pending. -/
theorem unreferenced_of_removable
    (hinv : RouterInv s δ)
    {p : BackendPtr}
    (hp : Mapped s.router p)
    (hδ : 0 ≤ δ p)
    (hlist : (s.router.wrappers p).connList = [])
    (hscore : (s.router.wrappers p).connScore ≤ 0) :
    (∀ c ∈ s.live, s.effective c ≠ p) ∧ p ∉ s.pending ∧ (∀ c ∈ s.live, s.holder c ≠ p) := by
  have hzero := hinv.tokenCount_eq_zero hp hδ hscore
  unfold RouterSys.tokenCount RouterSys.liveTokens at hzero
  refine ⟨?_, ?_, ?_⟩
  · intro c hc heq
    have hpos : 0 < s.live.countP (fun c => s.effective c == p) :=
      List.countP_pos_iff.mpr ⟨c, hc, by simp [heq]⟩
    omega
  · intro hmem
    have hpos : 0 < s.pending.count p := List.count_pos_iff.mpr hmem
    omega
  · intro c hc heq
    have hin := (hinv.mem_connList p c).mpr ⟨hc, heq⟩
    rw [hlist] at hin
    exact List.not_mem_nil hin

/-- `removeBackendIfEmpty` keeps the invariant when the backend's correction is not
negative or its list is not empty: a wrapper it deletes has an empty list and no
token, so no live connection and no pending route points to it. -/
theorem after_removeBackend
    (hinv : RouterInv s δ)
    {p : BackendPtr}
    (hp : Mapped s.router p)
    (hsafe : 0 ≤ δ p ∨ (s.router.wrappers p).connList ≠ []) :
    RouterInv { s with router := (removeBackendIfEmpty s.router p).1 } δ := by
  rw [removeBackendIfEmpty_fst]
  split_ifs with hc
  · simp only [Bool.and_eq_true, Bool.not_eq_true', beq_iff_eq, List.length_eq_zero_iff,
      decide_eq_true_eq] at hc
    obtain ⟨⟨-, hlist⟩, hscore⟩ := hc
    have hδ : 0 ≤ δ p := hsafe.resolve_right (fun h => h hlist)
    obtain ⟨heff, hpend, hheld⟩ := hinv.unreferenced_of_removable hp hδ hlist hscore
    refine
      { addr_of_lookup := ?_, lt_of_lookup := ?_, live_nodup := hinv.live_nodup,
        connList_nodup := hinv.connList_nodup, mem_connList := hinv.mem_connList,
        holder_mapped := ?_, redirect_mapped := ?_, redirect_phase := hinv.redirect_phase,
        pending_mapped := ?_, score := ?_ }
    · intro a q ha
      by_cases hap : a = (s.router.wrappers p).addr
      · subst hap
        simp [AList.lookup_erase] at ha
      · rw [AList.lookup_erase_ne hap] at ha
        exact hinv.addr_of_lookup a q ha
    · intro a q ha
      by_cases hap : a = (s.router.wrappers p).addr
      · subst hap
        simp [AList.lookup_erase] at ha
      · rw [AList.lookup_erase_ne hap] at ha
        exact hinv.lt_of_lookup a q ha
    · intro c hc
      exact (hinv.mapped_erase_iff hp).mpr ⟨hinv.holder_mapped c hc, hheld c hc⟩
    · intro c hc q hq
      have hq' : (s.router.conns c).redirectingBackend = some q := hq
      refine (hinv.mapped_erase_iff hp).mpr ⟨hinv.redirect_mapped c hc q hq', ?_⟩
      have heq : s.effective c = q := by
        simp [RouterSys.effective, hq']
      exact heq ▸ heff c hc
    · intro q hq
      refine (hinv.mapped_erase_iff hp).mpr ⟨hinv.pending_mapped q hq, ?_⟩
      rintro rfl
      exact hpend hq
    · intro q hq
      exact hinv.score q ((hinv.mapped_erase_iff hp).mp hq).1
  · exact hinv

/-- `backend.connScore += d` puts `d` into the correction. -/
theorem after_addScore
    (hinv : RouterInv s δ)
    (p : BackendPtr)
    (d : Int) :
    RouterInv { s with router := s.router.addScore p d } (fun x => δ x + if x = p then d else 0) := by
  refine
    { addr_of_lookup := ?_, lt_of_lookup := hinv.lt_of_lookup, live_nodup := hinv.live_nodup,
      connList_nodup := ?_, mem_connList := ?_, holder_mapped := hinv.holder_mapped,
      redirect_mapped := hinv.redirect_mapped, redirect_phase := hinv.redirect_phase,
      pending_mapped := hinv.pending_mapped, score := ?_ }
  · intro a q ha
    simpa using hinv.addr_of_lookup a q ha
  · intro q
    simpa using hinv.connList_nodup q
  · intro q c
    simpa using hinv.mem_connList q c
  · intro q hq
    rw [tokenCount_of_conns_eq (r := s.router.addScore p d) (fun _ _ => rfl), addScore_connScore,
      hinv.score q hq, Int.add_assoc]

/-- A pending selection of a mapped backend is a token of it. -/
theorem after_addPending
    (hinv : RouterInv s δ)
    {p : BackendPtr}
    (hp : Mapped s.router p) :
    RouterInv { s with pending := p :: s.pending } (fun x => δ x - if x = p then 1 else 0) := by
  refine { hinv with pending_mapped := ?_, score := ?_ }
  · intro q hq
    rcases List.mem_cons.mp hq with rfl | hq
    · exact hp
    · exact hinv.pending_mapped q hq
  · intro q hq
    have hcount : (p :: s.pending).count q = s.pending.count q + if p = q then 1 else 0 := by
      simp [List.count_cons]
    simp only [RouterSys.tokenCount, RouterSys.liveTokens, RouterSys.effective] at hcount ⊢
    rw [hinv.score q hq, hcount]
    unfold RouterSys.tokenCount RouterSys.liveTokens RouterSys.effective
    by_cases hpq : p = q
    · subst hpq
      simp only [if_true]
      omega
    · simp only [hpq, Ne.symm hpq, if_false]
      omega

/-- Finishing a pending selection takes its token away. -/
theorem after_erasePending
    (hinv : RouterInv s δ)
    {p : BackendPtr}
    (hp : p ∈ s.pending) :
    RouterInv { s with pending := s.pending.erase p } (fun x => δ x + if x = p then 1 else 0) := by
  refine { hinv with pending_mapped := ?_, score := ?_ }
  · intro q hq
    exact hinv.pending_mapped q (List.mem_of_mem_erase hq)
  · intro q hq
    have hcount := count_erase_pending hp q
    rw [hinv.score q hq]
    unfold RouterSys.tokenCount RouterSys.liveTokens RouterSys.effective
    by_cases hpq : p = q
    · subst hpq
      simp only [if_true] at hcount ⊢
      omega
    · simp only [hpq, Ne.symm hpq, if_false] at hcount ⊢
      omega

/-- A write through the wrapper of a live connection moves its token from the old
effective backend to the new one. -/
theorem after_setConn_live
    (hinv : RouterInv s δ)
    {c : ConnID}
    (hc : c ∈ s.live)
    (w : ConnWrapper)
    (hredir : ∀ q, w.redirectingBackend = some q → Mapped s.router q)
    (hphase : w.redirectingBackend ≠ none → w.phase = .phaseRedirectNotify) :
    RouterInv { s with router := s.router.setConn c w }
      (fun x => δ x + (if s.effective c = x then 1 else 0) -
        (if w.redirectingBackend.getD (s.holder c) = x then 1 else 0)) := by
  refine
    { addr_of_lookup := hinv.addr_of_lookup, lt_of_lookup := hinv.lt_of_lookup,
      live_nodup := hinv.live_nodup, connList_nodup := hinv.connList_nodup,
      mem_connList := hinv.mem_connList, holder_mapped := hinv.holder_mapped,
      redirect_mapped := ?_, redirect_phase := ?_, pending_mapped := hinv.pending_mapped,
      score := ?_ }
  · intro x hx q hq
    by_cases hxc : x = c
    · subst hxc
      exact hredir q (by simpa using hq)
    · exact hinv.redirect_mapped x hx q (by simpa [hxc] using hq)
  · intro x hx hr
    by_cases hxc : x = c
    · subst hxc
      simpa using hphase (by simpa using hr)
    · simpa [hxc] using hinv.redirect_phase x hx (by simpa [hxc] using hr)
  · intro q hq
    have hmove := tokenCount_move (r := s.router.setConn c w) hinv.live_nodup hc
      (fun x hx => setConn_conns_of_ne _ _ _ hx) q
    have hscore := hinv.score q hq
    simp only [setConn_conns_self] at hmove
    simp only [setConn_wrappers]
    split_ifs at hmove ⊢ <;> omega

/-- The write of `removeConn`: the connection leaves its backend's list, and its
token waits as a pending one on its effective backend. -/
theorem after_detachConn
    (hinv : RouterInv s δ)
    {c : ConnID}
    {h : BackendPtr}
    (hmem : c ∈ (s.router.wrappers h).connList) :
    RouterInv
      ⟨s.router.setWrapper h
          { s.router.wrappers h with connList := (s.router.wrappers h).connList.erase c },
        s.effective c :: s.pending, s.live.erase c, s.holder⟩ δ := by
  have hc : c ∈ s.live := ((hinv.mem_connList h c).mp hmem).1
  have hhold : s.holder c = h := hinv.holder_eq hmem
  refine
    { addr_of_lookup := ?_, lt_of_lookup := hinv.lt_of_lookup,
      live_nodup := hinv.live_nodup.erase c, connList_nodup := ?_, mem_connList := ?_,
      holder_mapped := ?_, redirect_mapped := ?_, redirect_phase := ?_,
      pending_mapped := ?_, score := ?_ }
  · intro a q ha
    simpa using hinv.addr_of_lookup a q ha
  · intro q
    rw [setWrapper_connList]
    split_ifs with hq
    · exact (hinv.connList_nodup h).erase c
    · exact hinv.connList_nodup q
  · intro q x
    rw [setWrapper_connList, hinv.live_nodup.mem_erase_iff]
    split_ifs with hq
    · subst hq
      rw [(hinv.connList_nodup q).mem_erase_iff, hinv.mem_connList]
      tauto
    · rw [hinv.mem_connList]
      constructor
      · rintro ⟨hx, hxq⟩
        refine ⟨⟨?_, hx⟩, hxq⟩
        rintro rfl
        exact hq (hxq.symm.trans hhold)
      · rintro ⟨⟨-, hx⟩, hxq⟩
        exact ⟨hx, hxq⟩
  · intro x hx
    exact hinv.holder_mapped x (List.mem_of_mem_erase hx)
  · intro x hx
    exact hinv.redirect_mapped x (List.mem_of_mem_erase hx)
  · intro x hx
    exact hinv.redirect_phase x (List.mem_of_mem_erase hx)
  · intro q hq
    rcases List.mem_cons.mp hq with rfl | hq
    · exact hinv.effective_mapped hc
    · exact hinv.pending_mapped q hq
  · intro q hq
    rw [tokenCount_detach hc (setWrapper_conns _ _ _)]
    simpa using hinv.score q hq

/-- `addConn` of a connection that counts on the backend it joins turns a pending
token of that backend into the connection's token. -/
theorem after_addConn
    (hinv : RouterInv s δ)
    {p : BackendPtr}
    (hp : p ∈ s.pending)
    {c : ConnID}
    (hfresh : c ∉ s.live)
    (w : ConnWrapper)
    (hw : w.redirectingBackend.getD p = p)
    (hphase : w.redirectingBackend ≠ none → w.phase = .phaseRedirectNotify) :
    RouterInv
      ⟨addConn s.router p c w, s.pending.erase p, c :: s.live, Function.update s.holder c p⟩ δ := by
  have hmp := hinv.pending_mapped p hp
  have hnot : ∀ q, c ∉ (s.router.wrappers q).connList := fun q hm =>
    hfresh ((hinv.mem_connList q c).mp hm).1
  have hne : ∀ x ∈ s.live, x ≠ c := fun x hx h => hfresh (h ▸ hx)
  have hredir : ∀ q, w.redirectingBackend = some q → q = p := by
    intro q hq
    simpa [hq] using hw
  refine
    { addr_of_lookup := ?_, lt_of_lookup := hinv.lt_of_lookup,
      live_nodup := List.nodup_cons.mpr ⟨hfresh, hinv.live_nodup⟩,
      connList_nodup := ?_, mem_connList := ?_, holder_mapped := ?_,
      redirect_mapped := ?_, redirect_phase := ?_, pending_mapped := ?_, score := ?_ }
  · intro a q ha
    simpa [addConn_eq] using hinv.addr_of_lookup a q ha
  · intro q
    simp only [addConn_eq, setConn_wrappers, setWrapper_connList]
    split_ifs with hq
    · subst hq
      refine List.nodup_append.mpr ⟨hinv.connList_nodup q, List.nodup_singleton c, ?_⟩
      intro a ha b hb hab
      rw [List.mem_singleton] at hb
      exact hnot q (hb ▸ hab ▸ ha)
    · exact hinv.connList_nodup q
  · intro q x
    simp only [addConn_eq, setConn_wrappers, setWrapper_connList]
    by_cases hx : x = c
    · subst hx
      by_cases hq : q = p
      · subst hq
        simp
      · simp [hq, hnot q, Ne.symm hq]
    · have hmem := hinv.mem_connList q x
      by_cases hq : q = p
      · subst hq
        simp [hx, hmem]
      · simp [hq, hx, hmem]
  · intro x hx
    by_cases hxc : x = c
    · subst hxc
      simpa [Mapped, addConn_eq] using hmp
    · have hx' : x ∈ s.live := (List.mem_cons.mp hx).resolve_left hxc
      simpa [Mapped, addConn_eq, hxc] using hinv.holder_mapped x hx'
  · intro x hx q hq
    by_cases hxc : x = c
    · subst hxc
      have hqp := hredir q (by simpa [addConn_eq] using hq)
      subst hqp
      simpa [Mapped, addConn_eq] using hmp
    · have hx' : x ∈ s.live := (List.mem_cons.mp hx).resolve_left hxc
      simpa [Mapped, addConn_eq] using
        hinv.redirect_mapped x hx' q (by simpa [addConn_eq, hxc] using hq)
  · intro x hx hr
    by_cases hxc : x = c
    · subst hxc
      simpa [addConn_eq] using hphase (by simpa [addConn_eq] using hr)
    · have hx' : x ∈ s.live := (List.mem_cons.mp hx).resolve_left hxc
      have hr' : (s.router.conns x).redirectingBackend ≠ none := by
        simpa [addConn_eq, hxc] using hr
      simpa [addConn_eq, hxc] using hinv.redirect_phase x hx' hr'
  · intro q hq
    simpa [Mapped, addConn_eq] using hinv.pending_mapped q (List.mem_of_mem_erase hq)
  · intro q hq
    have hw' : ((addConn s.router p c w).wrappers q).connScore = (s.router.wrappers q).connScore := by
      simp [addConn_eq]
    rw [tokenCount_attach (r := addConn s.router p c w) hfresh hp
      (fun x hx => by simp [addConn_eq, hx]) (by simpa [addConn_eq] using hw), hw']
    exact hinv.score q ((mapped_iff_of_backends_eq (by simp [addConn_eq])).mp hq)

/-- A write of a backend's health changes nothing the invariant reads. -/
theorem after_setHealth
    (hinv : RouterInv s δ)
    (p : BackendPtr)
    (health : BackendHealth) :
    RouterInv { s with router := s.router.setWrapper p { s.router.wrappers p with health := health } }
      δ where
  addr_of_lookup a q ha := by
    simpa using hinv.addr_of_lookup a q ha
  lt_of_lookup := hinv.lt_of_lookup
  live_nodup := hinv.live_nodup
  connList_nodup q := by
    simpa using hinv.connList_nodup q
  mem_connList q c := by
    simpa using hinv.mem_connList q c
  holder_mapped := hinv.holder_mapped
  redirect_mapped := hinv.redirect_mapped
  redirect_phase := hinv.redirect_phase
  pending_mapped := hinv.pending_mapped
  score q hq := by
    rw [tokenCount_of_conns_eq
      (r := s.router.setWrapper p { s.router.wrappers p with health := health }) (fun _ _ => rfl)]
    simpa using hinv.score q hq

/-- Allocating a fresh wrapper under an address that is not mapped: no connection,
pending route or map entry points to the fresh pointer yet. -/
theorem after_alloc
    (hinv : RouterInv s δ)
    {addr : String}
    (hnone : s.router.backends.lookup addr = none)
    (health : BackendHealth)
    (hδ : δ s.router.nextPtr = 0) :
    RouterInv
      { s with
        router :=
          { s.router with
            wrappers :=
              Function.update s.router.wrappers s.router.nextPtr (newBackendWrapper addr health)
            nextPtr := s.router.nextPtr + 1
            backends := s.router.backends.insert addr s.router.nextPtr } } δ := by
  have hne : ∀ p, Mapped s.router p → p ≠ s.router.nextPtr := by
    rintro p ⟨a, ha⟩ rfl
    exact Nat.lt_irrefl _ (hinv.lt_of_lookup a _ ha)
  have hold : ∀ p, Mapped s.router p →
      Mapped { s.router with backends := s.router.backends.insert addr s.router.nextPtr } p := by
    rintro p ⟨a, ha⟩
    have hna : a ≠ addr := by
      rintro rfl
      rw [hnone] at ha
      cases ha
    exact ⟨a, by simpa [AList.lookup_insert_ne hna] using ha⟩
  have hnew : ∀ p, Mapped { s.router with
      backends := s.router.backends.insert addr s.router.nextPtr } p →
        p ≠ s.router.nextPtr → Mapped s.router p := by
    rintro p ⟨a, ha⟩ hp
    by_cases hna : a = addr
    · subst hna
      simp only [AList.lookup_insert, Option.some.injEq] at ha
      exact absurd ha.symm hp
    · exact ⟨a, by simpa [AList.lookup_insert_ne hna] using ha⟩
  refine
    { addr_of_lookup := ?_, lt_of_lookup := ?_, live_nodup := hinv.live_nodup,
      connList_nodup := ?_, mem_connList := ?_, holder_mapped := ?_,
      redirect_mapped := ?_, redirect_phase := hinv.redirect_phase, pending_mapped := ?_,
      score := ?_ }
  · intro a p ha
    by_cases hna : a = addr
    · subst hna
      simp only [AList.lookup_insert, Option.some.injEq] at ha
      subst ha
      simp [newBackendWrapper]
    · simp only [AList.lookup_insert_ne hna] at ha
      simpa [Function.update_of_ne (hne p ⟨a, ha⟩)] using hinv.addr_of_lookup a p ha
  · intro a p ha
    by_cases hna : a = addr
    · subst hna
      simp only [AList.lookup_insert, Option.some.injEq] at ha
      subst ha
      exact Nat.lt_succ_self _
    · simp only [AList.lookup_insert_ne hna] at ha
      exact Nat.lt_succ_of_lt (hinv.lt_of_lookup a p ha)
  · intro p
    by_cases hp : p = s.router.nextPtr
    · subst hp
      simp [newBackendWrapper]
    · simpa [Function.update_of_ne hp] using hinv.connList_nodup p
  · intro p c
    by_cases hp : p = s.router.nextPtr
    · subst hp
      simp only [Function.update_self, newBackendWrapper, List.not_mem_nil, false_iff, not_and]
      intro hc hhold
      exact hne _ (hinv.holder_mapped c hc) hhold
    · simpa [Function.update_of_ne hp] using hinv.mem_connList p c
  · intro c hc
    exact hold _ (hinv.holder_mapped c hc)
  · intro c hc q hq
    exact hold _ (hinv.redirect_mapped c hc q hq)
  · intro p hp
    exact hold _ (hinv.pending_mapped p hp)
  · intro p hp
    rw [tokenCount_of_conns_eq
      (r := { s.router with
        wrappers :=
          Function.update s.router.wrappers s.router.nextPtr (newBackendWrapper addr health)
        nextPtr := s.router.nextPtr + 1
        backends := s.router.backends.insert addr s.router.nextPtr }) (fun _ _ => rfl)]
    by_cases hpn : p = s.router.nextPtr
    · subst hpn
      have hlive : ∀ c ∈ s.live, s.effective c ≠ s.router.nextPtr := fun c hc =>
        hne _ (hinv.effective_mapped hc)
      have hpend : s.router.nextPtr ∉ s.pending := fun hmem =>
        hne _ (hinv.pending_mapped _ hmem) rfl
      have hzero : s.tokenCount s.router.nextPtr = 0 := by
        unfold RouterSys.tokenCount RouterSys.liveTokens
        rw [List.countP_eq_zero.mpr (fun c hc => by simpa using hlive c hc),
          List.count_eq_zero.mpr hpend]
      simp [newBackendWrapper, hzero, hδ]
    · simpa [Function.update_of_ne hpn] using hinv.score p (hnew p hp hpn)

/-! ### The operations

Each operation is the chain of the helper lemmas above, in the order of the writes
of the source; the correction `δ` is back at zero when the operation returns. -/

/-- `routeOnce` adds one to the score of the backend it picks and records the
selection as pending. -/
theorem step_routeOnce
    (hinv : RouterInv s (fun _ => 0))
    {policy : BalancePolicy}
    (hpolicy : policy.PicksGiven)
    {excluded : List BackendPtr}
    {p : BackendPtr}
    {r' : ScoreBasedRouter}
    (h : routeOnce policy s.router excluded = .ok (p, r')) :
    RouterInv { s with router := r', pending := p :: s.pending } (fun _ => 0) := by
  obtain ⟨hcand, rfl⟩ := routeOnce_ok hpolicy h
  have hp : Mapped s.router p := mapped_of_mem_routeCandidates hcand
  have h1 := hinv.after_addScore p 1
  have h2 := h1.after_addPending hp
  exact h2.transport rfl rfl (List.Perm.refl _) rfl (fun x _ => by grind)

/-- `onCreateConn` turns a pending selection into a connection of the selected
backend, or gives its score back. -/
theorem step_createConn
    (hinv : RouterInv s (fun _ => 0))
    {p : BackendPtr}
    (hp : p ∈ s.pending)
    {conn : ConnID}
    (hfresh : conn ∉ s.live)
    (succeed : Bool) :
    RouterInv
      { router := onCreateConn s.router p conn succeed
        pending := s.pending.erase p
        live := if succeed then conn :: s.live else s.live
        holder := if succeed then Function.update s.holder conn p else s.holder }
      (fun _ => 0) := by
  rw [onCreateConn_of_lookup conn succeed (hinv.lookup_addr (hinv.pending_mapped p hp))]
  cases succeed with
  | false =>
      have h1 := hinv.after_addScore p (-1)
      have h2 := h1.after_erasePending hp
      exact h2.transport rfl rfl (List.Perm.refl _) rfl (fun x _ => by grind)
  | true =>
      exact hinv.after_addConn hp hfresh _ rfl (fun h => absurd rfl h)

/-- `onRedirectFinished` for a redirecting connection held by a mapped backend. -/
theorem step_redirectFinished
    (hinv : RouterInv s (fun _ => 0))
    {conn : ConnID}
    (hlive : conn ∈ s.live)
    {q : BackendPtr}
    (hq : (s.router.conns conn).redirectingBackend = some q)
    {a : String}
    {h : BackendPtr}
    (hh : s.router.backends.lookup a = some h)
    (hmem : conn ∈ (s.router.wrappers h).connList)
    (succeed : Bool) :
    RouterInv
      { s with
        router := onRedirectFinished s.router a (s.router.wrappers q).addr conn succeed
        holder := if succeed then Function.update s.holder conn q else s.holder }
      (fun _ => 0) := by
  have hqm : Mapped s.router q := hinv.redirect_mapped conn hlive q hq
  have heff : s.effective conn = q := by
    simp [RouterSys.effective, hq]
  have hphase := hinv.redirect_phase conn hlive (by simp [hq])
  have hhold := hinv.holder_eq hmem
  cases succeed with
  | true =>
      rw [onRedirectFinished_true_eq conn hh (hinv.lookup_addr hqm)]
      -- `removeConn` parks the connection's token on `q` while it is in no list
      have h1 := hinv.after_detachConn hmem
      have h2 := h1.after_removeBackend (p := h) ⟨a, hh⟩ (Or.inl (by simp))
      have h3 := h2.after_addConn (p := q) (by simp [heff]) hinv.live_nodup.not_mem_erase
        (s.router.conns conn) (by simp [hq]) (fun _ => hphase)
      have h4 := h3.after_setConn_live (c := conn) List.mem_cons_self
        { s.router.conns conn with phase := .phaseRedirectEnd, redirectingBackend := none }
        (by simp) (by simp)
      exact h4.transport rfl (by simp [heff]) (List.perm_cons_erase hlive) rfl
        (fun x _ => by simp [RouterSys.effective, addConn_eq, hq])
  | false =>
      rw [onRedirectFinished_false_eq conn hh (hinv.lookup_addr hqm)]
      have h1 := hinv.after_addScore h 1
      have h2 := h1.after_addScore q (-1)
      have h3 := h2.after_setConn_live hlive
        { s.router.conns conn with phase := .phaseRedirectFail, redirectingBackend := none }
        (by simp) (by simp)
      have h4 := h3.after_removeBackend (p := q) hqm
        (Or.inl (by simp [RouterSys.effective, hq, hhold]; grind))
      exact h4.transport rfl rfl (List.Perm.refl _) rfl
        (fun x _ => by simp [RouterSys.effective, hq, hhold]; grind)

/-- `OnConnClosed` for a live connection, named with the backend that holds it. -/
theorem step_connClosed
    (hinv : RouterInv s (fun _ => 0))
    {conn : ConnID}
    (hlive : conn ∈ s.live)
    {a : String}
    {h : BackendPtr}
    (hh : s.router.backends.lookup a = some h)
    (hmem : conn ∈ (s.router.wrappers h).connList) :
    RouterInv { s with router := OnConnClosed s.router a conn, live := s.live.erase conn }
      (fun _ => 0) := by
  have hhold := hinv.holder_eq hmem
  cases hr : (s.router.conns conn).redirectingBackend with
  | none =>
      rw [OnConnClosed_eq_of_not_redirecting hh hr]
      have heff : s.effective conn = h := by
        simp [RouterSys.effective, hr, hhold]
      have h1 := hinv.after_addScore h (-1)
      have h2 := h1.after_detachConn (c := conn) (h := h) (by simpa using hmem)
      have h3 := h2.after_erasePending List.mem_cons_self
      have h4 := h3.after_removeBackend (p := h) ⟨a, hh⟩
        (Or.inl (by simp [RouterSys.effective, hr, hhold]))
      exact h4.transport rfl (by simp) (List.Perm.refl _) rfl
        (fun x _ => by simp [RouterSys.effective, hr, hhold]; grind)
  | some q =>
      rw [OnConnClosed_eq_of_redirecting hh hr]
      have hqm : Mapped s.router q := hinv.redirect_mapped conn hlive q hr
      have h1 := hinv.after_addScore q (-1)
      -- the connection stops redirecting: its token moves from `q` back to `h`
      have h2 := h1.after_setConn_live hlive
        { s.router.conns conn with redirectingBackend := none } (by simp) (by simp)
      have h3 := h2.after_removeBackend (p := q) hqm (by
        by_cases hqh : q = h
        · subst hqh
          exact Or.inr (by simpa using List.ne_nil_of_mem hmem)
        · exact Or.inl (by simp [RouterSys.effective, hr, hhold, Ne.symm hqh]))
      have hmem3 : conn ∈ ((removeBackendIfEmpty ((s.router.addScore q (-1)).setConn conn
          { s.router.conns conn with redirectingBackend := none }) q).1.wrappers h).connList := by
        simpa using hmem
      have h4 := h3.after_detachConn hmem3
      have h5 := h4.after_erasePending List.mem_cons_self
      have hhm : Mapped (removeBackendIfEmpty ((s.router.addScore q (-1)).setConn conn
          { s.router.conns conn with redirectingBackend := none }) q).1 h := by
        simpa [hhold] using h3.holder_mapped conn hlive
      have h6 := h5.after_removeBackend (p := h) hhm
        (Or.inl (by simp [RouterSys.effective, hr, hhold]; grind))
      exact h6.transport rfl (by simp) (List.Perm.refl _) rfl
        (fun x _ => by simp [RouterSys.effective, hr, hhold]; grind)

/-- One migration of `rebalance`: an accepted redirection moves the picked
connection's token from the source to the target; a refused one moves nothing. -/
theorem after_redirectConn
    (hinv : RouterInv s (fun _ => 0))
    {c : ConnID}
    {f t : BackendPtr}
    {curTime : Nat}
    (hpick : pickConn s.router f curTime = some c)
    (ht : Mapped s.router t)
    (accepted : Bool)
    (reason : String) :
    RouterInv { s with router := redirectConn s.router accepted c f t reason curTime }
      (fun _ => 0) := by
  obtain ⟨hmem, hred⟩ := pickConn_some hpick
  have hc : c ∈ s.live := ((hinv.mem_connList f c).mp hmem).1
  have hhold := hinv.holder_eq hmem
  -- a redirectable connection is not redirecting, so its token is on its holder
  have hnone : (s.router.conns c).redirectingBackend = none := by
    by_contra hr
    exact phase_ne_of_redirectable hred (hinv.redirect_phase c hc hr)
  cases accepted with
  | true =>
      have hne : ((s.router.addScore f (-1)).wrappers f).connList ≠ [] := by
        simpa using List.ne_nil_of_mem hmem
      rw [redirectConn_true_eq, removeBackendIfEmpty_of_connList_ne_nil _ _ hne]
      have h1 := hinv.after_addScore f (-1)
      have h2 := h1.after_addScore t 1
      have h3 := h2.after_setConn_live hc
        { s.router.conns c with
          phase := .phaseRedirectNotify
          redirectReason := reason
          redirectingBackend := some t
          lastRedirect := curTime }
        (by
          intro q hq
          simp only [Option.some.injEq] at hq
          exact hq ▸ ht)
        (by simp)
      exact h3.transport rfl rfl (List.Perm.refl _) rfl
        (fun x _ => by simp [RouterSys.effective, hnone, hhold]; grind)
  | false =>
      rw [redirectConn_false_eq]
      have h1 := hinv.after_setConn_live hc
        { s.router.conns c with phase := .phaseRedirectFail, lastRedirect := curTime }
        (by simp [hnone]) (by simp [hnone])
      exact h1.transport rfl rfl (List.Perm.refl _) rfl
        (fun x _ => by simp [RouterSys.effective, hnone])

/-- The migration loop of `rebalance` keeps the invariant and the map. -/
theorem after_redirectLoop
    {redirect : ConnID → BackendPtr → Bool}
    {ctxErr : Nat → Bool}
    {f t : BackendPtr}
    {reason : String}
    {curTime : Nat}
    (count : Nat) :
    ∀ (i : Nat) (r : ScoreBasedRouter),
      RouterInv { s with router := r } (fun _ => 0) → Mapped r t →
        RouterInv { s with router := redirectLoop redirect ctxErr f t reason curTime i count r }
          (fun _ => 0) := by
  induction count with
  | zero =>
      intro i r hinv _
      exact hinv
  | succ count ih =>
      intro i r hinv ht
      simp only [redirectLoop]
      split_ifs
      · exact hinv
      · split
        · exact hinv
        · rename_i c hpick
          have hmem := (pickConn_some hpick).1
          have h1 := hinv.after_redirectConn hpick ht (redirect c t) reason
          have h2 := h1.of_router_eq
            (r := { redirectConn r (redirect c t) c f t reason curTime with
              lastRedirectTime := curTime }) rfl rfl rfl rfl
          exact ih (i + 1) _ h2
            ((mapped_iff_of_backends_eq (redirectConn_backends _ _ curTime hmem)).mpr ht)

/-- `rebalance` keeps the invariant. -/
theorem step_rebalance
    (hinv : RouterInv s (fun _ => 0))
    {policy : BalancePolicy}
    (hpolicy : policy.PicksGiven)
    {redirect : ConnID → BackendPtr → Bool}
    {ctxErr : Nat → Bool}
    {curTime : Nat}
    {r' : ScoreBasedRouter}
    (h : rebalance policy redirect ctxErr curTime s.router = some r') :
    RouterInv { s with router := r' } (fun _ => 0) := by
  rcases rebalance_some hpolicy h with rfl | ⟨f, t, reason, count, -, ht, rfl⟩
  · exact hinv
  · exact after_redirectLoop count 0 s.router hinv (mapped_of_mem_backendPtrs ht)

/-- One iteration of the second loop of `updateBackendHealth` keeps the invariant:
a new backend gets a fresh wrapper, a changed health is stored and the backend is
tested for deletion. -/
theorem after_updateOneBackend
    (acc : ScoreBasedRouter × String)
    (e : Σ _ : String, BackendHealth)
    (hinv : RouterInv { s with router := acc.1 } (fun _ => 0)) :
    RouterInv { s with router := (updateOneBackend acc e).1 } (fun _ => 0) := by
  obtain ⟨r, sv⟩ := acc
  unfold updateOneBackend
  dsimp only
  split
  · rename_i hnone
    split
    · exact hinv.after_alloc hnone e.2 rfl
    · exact hinv
  · rename_i p hp
    split
    · exact (hinv.after_setHealth p e.2).after_removeBackend ⟨e.1, hp⟩ (Or.inl (by simp))
    · exact hinv

/-- The second loop of `updateBackendHealth` keeps the invariant. -/
theorem after_foldl_updateOneBackend :
    ∀ (l : List (Σ _ : String, BackendHealth)) (acc : ScoreBasedRouter × String),
      RouterInv { s with router := acc.1 } (fun _ => 0) →
        RouterInv { s with router := (l.foldl updateOneBackend acc).1 } (fun _ => 0)
  | [], _, hinv => hinv
  | e :: l, acc, hinv => after_foldl_updateOneBackend l _ (after_updateOneBackend acc e hinv)

/-- `updateBackendHealth` keeps the invariant. -/
theorem step_healthUpdate
    (hinv : RouterInv s (fun _ => 0))
    (healthResults : HealthResult) :
    RouterInv { s with router := updateBackendHealth s.router healthResults } (fun _ => 0) := by
  have h0 := hinv.of_router_eq (r := { s.router with observeError := healthResults.err })
    rfl rfl rfl rfl
  unfold updateBackendHealth
  split
  · exact h0
  · have h1 := after_foldl_updateOneBackend
      (addRemovedBackends { s.router with observeError := healthResults.err }
        healthResults.backends).entries
      ({ s.router with observeError := healthResults.err }, "") h0
    dsimp only at h1 ⊢
    split_ifs
    · exact h1.of_router_eq rfl rfl rfl rfl
    · exact h1

end RouterInv

/-- Every operation of the router keeps the invariant. -/
theorem routerInv_step
    {s s' : RouterSys}
    (hinv : RouterInv s (fun _ => 0))
    (hstep : RouterStep s s') :
    RouterInv s' (fun _ => 0) := by
  cases hstep with
  | routeOnce _ hpolicy _ h =>
      exact hinv.step_routeOnce hpolicy h
  | createConn hp hfresh succeed =>
      exact hinv.step_createConn hp hfresh succeed
  | redirectFinished hlive hq hh hmem succeed =>
      exact hinv.step_redirectFinished hlive hq hh hmem succeed
  | connClosed hlive hh hmem =>
      exact hinv.step_connClosed hlive hh hmem
  | rebalance _ hpolicy _ _ _ h =>
      exact hinv.step_rebalance hpolicy h
  | healthUpdate healthResults =>
      exact hinv.step_healthUpdate healthResults

/-- The invariant is inductive for the router's operations. -/
theorem routerInv_inductive :
    Transition.Inductive RouterStep (· = RouterSys.init) (fun s => RouterInv s (fun _ => 0)) where
  init_holds := by
    rintro s rfl
    exact routerInv_init
  step_holds _ _ hinv hstep := routerInv_step hinv hstep

/-- `RouterInv` holds in every reachable state. -/
theorem routerInv_reachable
    {s : RouterSys}
    (hs : RouterReachable s) :
    RouterInv s (fun _ => 0) :=
  routerInv_inductive.holds hs

/-- A backend's list, counted under any predicate, is the live connections it holds. -/
theorem RouterInv.connList_countP
    {s : RouterSys}
    {δ : BackendPtr → Int}
    (hinv : RouterInv s δ)
    (p : BackendPtr)
    (P : ConnID → Bool) :
    (s.router.wrappers p).connList.countP P = s.live.countP (fun c => P c && s.holder c == p) := by
  have hperm : (s.router.wrappers p).connList.Perm (s.live.filter (fun c => s.holder c == p)) := by
    rw [List.perm_ext_iff_of_nodup (hinv.connList_nodup p) (hinv.live_nodup.filter _)]
    intro c
    rw [hinv.mem_connList, List.mem_filter, beq_iff_eq]
  rw [hperm.countP_eq, List.countP_filter]

/-- The facts the router relies on, in the terms of the source: the law documented on
`backendWrapper.connScore`, non-negative scores, one backend for every live
connection, and deletions by `removeBackendIfEmpty` of unreferenced backends only. -/
structure ConnBookkeeping
    (s : RouterSys) : Prop where
  score_law :
    ∀ p, Mapped s.router p →
      (s.router.wrappers p).connScore =
        ((s.router.wrappers p).connList.length : Int) +
          (s.live.countP (fun c => (s.router.conns c).redirectingBackend == some p) : Int) -
          ((s.router.wrappers p).connList.countP
            (fun c => (s.router.conns c).redirectingBackend.isSome) : Int) +
          (s.pending.count p : Int)
  score_nonneg : ∀ p, Mapped s.router p → 0 ≤ (s.router.wrappers p).connScore
  unique_backend :
    ∀ c ∈ s.live, ∃! p, Mapped s.router p ∧ c ∈ (s.router.wrappers p).connList
  remove_unreferenced :
    ∀ p, Mapped s.router p → (removeBackendIfEmpty s.router p).2 = true →
      (s.router.wrappers p).connList = [] ∧
        (∀ c ∈ s.live, (s.router.conns c).redirectingBackend ≠ some p) ∧
        p ∉ s.pending

/-- The bookkeeping invariant implies the documented law and its companions. -/
theorem RouterInv.connBookkeeping
    {s : RouterSys}
    (hinv : RouterInv s (fun _ => 0)) :
    ConnBookkeeping s where
  score_law p hp := by
    have hscore := hinv.score p hp
    have hsplit := countP_effective_split (s := s) s.live p
    have hnone := hinv.connList_countP p
      (fun c => (s.router.conns c).redirectingBackend == none)
    -- the list splits into the connections that redirect and those that do not
    have hlen := List.length_eq_countP_add_countP
      (fun c => (s.router.conns c).redirectingBackend.isSome) (l := (s.router.wrappers p).connList)
    have hnot : (s.router.wrappers p).connList.countP
        (fun c => decide ¬(s.router.conns c).redirectingBackend.isSome = true) =
          (s.router.wrappers p).connList.countP
            (fun c => (s.router.conns c).redirectingBackend == none) := by
      apply List.countP_congr
      intro c _
      cases (s.router.conns c).redirectingBackend <;> simp
    unfold RouterSys.tokenCount RouterSys.liveTokens at hscore
    omega
  score_nonneg p hp := by
    rw [hinv.score p hp]
    omega
  unique_backend c hc := by
    refine ⟨s.holder c, ⟨hinv.holder_mapped c hc, (hinv.mem_connList _ c).mpr ⟨hc, rfl⟩⟩, ?_⟩
    rintro p ⟨-, hmem⟩
    exact (hinv.holder_eq hmem).symm
  remove_unreferenced p hp hrem := by
    rw [removeBackendIfEmpty_snd] at hrem
    simp only [Bool.and_eq_true, Bool.not_eq_true', beq_iff_eq, List.length_eq_zero_iff,
      decide_eq_true_eq] at hrem
    obtain ⟨⟨-, hlist⟩, hscore⟩ := hrem
    obtain ⟨heff, hpend, -⟩ := hinv.unreferenced_of_removable hp (by simp) hlist hscore
    refine ⟨hlist, fun c hc hr => heff c hc ?_, hpend⟩
    simp [RouterSys.effective, hr]

/-- A successful `BackendSelector.Next` is a routing step of the system. -/
theorem routerStep_of_next
    {s : RouterSys}
    {policy : BalancePolicy}
    (hpolicy : policy.PicksGiven)
    (bs : BackendSelector)
    {bs' : BackendSelector}
    {p : BackendPtr}
    {r' : ScoreBasedRouter}
    (h : bs.next policy s.router = (bs', .ok (p, r'))) :
    RouterStep s { s with router := r', pending := p :: s.pending } := by
  obtain ⟨excluded, hex⟩ := BackendSelector.next_ok h
  exact RouterStep.routeOnce s policy hpolicy excluded hex

/-- `BackendSelector.Finish` of the selected backend is a creation step. -/
theorem routerStep_of_finish
    {s : RouterSys}
    {bs : BackendSelector}
    {p : BackendPtr}
    (hcur : bs.cur = some p)
    (hp : p ∈ s.pending)
    {conn : ConnID}
    (hfresh : conn ∉ s.live)
    (succeed : Bool)
    {r' : ScoreBasedRouter}
    (h : bs.finish s.router conn succeed = some r') :
    RouterStep s
      { router := r'
        pending := s.pending.erase p
        live := if succeed then conn :: s.live else s.live
        holder := if succeed then Function.update s.holder conn p else s.holder } := by
  have hr : onCreateConn s.router p conn succeed = r' := by
    simpa [BackendSelector.finish, hcur] using h
  subst hr
  exact RouterStep.createConn s hp hfresh succeed

/-- A connection's use of its `BackendSelector`: `Next`, then `Finish` of the backend
it selected.  The selection `Next` leaves pending is the one `Finish` takes. -/
theorem RouterReachable.select_finish
    {s : RouterSys}
    (hs : RouterReachable s)
    {policy : BalancePolicy}
    (hpolicy : policy.PicksGiven)
    (bs : BackendSelector)
    {bs' : BackendSelector}
    {p : BackendPtr}
    {r' r'' : ScoreBasedRouter}
    (hnext : bs.next policy s.router = (bs', .ok (p, r')))
    (hcur : bs'.cur = some p)
    (conn : ConnID)
    (hfresh : conn ∉ s.live)
    (succeed : Bool)
    (hfinish : bs'.finish r' conn succeed = some r'') :
    RouterReachable
      { router := r''
        pending := s.pending
        live := if succeed then conn :: s.live else s.live
        holder := if succeed then Function.update s.holder conn p else s.holder } := by
  have hnext' := hs.tail (routerStep_of_next hpolicy bs hnext)
  have hfinish' := hnext'.tail
    (routerStep_of_finish (s := { s with router := r', pending := p :: s.pending }) hcur
      List.mem_cons_self hfresh succeed hfinish)
  rw [List.erase_cons_head] at hfinish'
  exact hfinish'

/-- A healthy local backend at `ip`. -/
def localHealth
    (ip : String) : BackendHealth :=
  { backendInfo := { labels := [], ip := ip, statusPort := 10080 },
    healthy := true, pingErr := none, serverVersion := "8.0.11-TiDB-v7.5.0", «local» := true }

/-- A health check that reports two healthy backends. -/
def twoBackendsResult : HealthResult where
  backends := AList.insert "10.0.0.2:4000" (localHealth "10.0.0.2")
    (AList.insert "10.0.0.1:4000" (localHealth "10.0.0.1") ∅)
  err := none

/-- A policy that routes to the first candidate and balances the first backend of the
map towards the second, at a `balanceCount` of 100 connections a second. -/
def pairPolicy : BalancePolicy where
  backendToRoute _ l := l.head?
  backendsToBalance _ l :=
    match l with
    | f :: t :: _ => some (f, t, 100, "conn")
    | _ => none

theorem pairPolicy_picksGiven :
    pairPolicy.PicksGiven := by
  refine ⟨fun _ _ _ h => List.mem_of_mem_head? h, fun _ l f t bc reason h => ?_⟩
  match l, h with
  | f :: t :: _, rfl => exact ⟨List.mem_cons_self, List.mem_cons_of_mem _ List.mem_cons_self⟩

/-- In every state reachable under the protocol, the router's connection bookkeeping
is right. -/
theorem connBookkeeping_reachable
    {s : RouterSys}
    (hs : RouterReachable s) :
    ConnBookkeeping s :=
  (routerInv_reachable hs).connBookkeeping

/-- A run of two healthy backends: connection 1 is routed to `10.0.0.1:4000`, fails to
connect and is routed again, to `10.0.0.2:4000`; connection 2 goes to `10.0.0.1:4000`.
`rebalance` then starts to migrate connection 2 to `10.0.0.2:4000`, and a third
selection is left pending at `10.0.0.1:4000`.  The scores count the live connections,
the one in flight at its target, and the pending selection. -/
theorem connBookkeeping_redirecting :
    ∃ s, RouterReachable s ∧ s.live = [2, 1] ∧ s.holder 1 = 0 ∧ s.holder 2 = 1 ∧
      (s.router.conns 2).redirectingBackend = some 0 ∧ s.pending = [1] ∧
      (s.router.wrappers 0).connScore = 2 ∧ (s.router.wrappers 1).connScore = 1 ∧
      ConnBookkeeping s := by
  have hpol := pairPolicy_picksGiven
  -- the health check adds `10.0.0.2:4000` as backend 0 and `10.0.0.1:4000` as backend 1
  have h₁ : RouterReachable { RouterSys.init with
      router := updateBackendHealth RouterSys.init.router twoBackendsResult } :=
    Transition.Reachable.tail (Transition.Reachable.of_init rfl) (RouterStep.healthUpdate _ _)
  have h₂ := h₁.select_finish hpol ⟨[], none⟩ rfl rfl 1 (by decide) false rfl
  -- the selector has tried backend 1, so `Next` offers backend 0 only
  have h₃ := h₂.select_finish hpol ⟨[1], some 1⟩ rfl rfl 1 (by decide) true rfl
  have h₄ := h₃.select_finish hpol ⟨[], none⟩ rfl rfl 2 (by decide) true rfl
  -- a `balanceCount` of 100 gives a `migrationInterval` of 10 ms and one migration
  have h₅ := h₄.tail (RouterStep.rebalance _ pairPolicy hpol (fun _ _ => true) (fun _ => false) 0
    (rebalance_of_balance 1 0 100 "conn" 1 (by decide) (by decide) (by decide +kernel)))
  have h₆ := h₅.tail (routerStep_of_next hpol ⟨[], none⟩ rfl)
  exact ⟨_, h₆, rfl, rfl, rfl, by decide, rfl, by decide, by decide, connBookkeeping_reachable h₆⟩

end Router
end TiProxy
