import TiProxy.Balance.RouterInvariant

/-!
# The router's view of its backends after a health result

`updateBackendHealth` (`pkg/balance/router/router_score.go`) applies a health-check
result in two loops.  The first adds every backend of the router that the result
lacks, as unhealthy with the wrapper's `BackendInfo`.  The second visits every entry:
it creates a wrapper for a new healthy backend, and for a known one it stores the new
health only when `backendWrapper.Equals` reports a change, then tries to delete the
backend.  `Equals` compares `Healthy`, `ServerVersion` and `Local`, and nothing else.

Over every reachable state of the router (`RouterReachable`), this module says what
the view of each backend is after a result without an error.  The second loop is
treated as a fold whose step touches only its entry's address (`KeepsAddr`), which
rests on the invariant that each pointer of the map belongs to its own address and
lies below `nextPtr` (`RouterInv`).

**Results.**
* `updateBackendHealth_view`: every backend in the map agrees with the result on the
  three fields `Equals` compares, a backend the result lacks is unhealthy, and every
  backend the result reports healthy is in the map.
* `updateBackendHealth_stale_backendInfo`: a result that changes the labels, the IP or
  the status port of a backend and none of the three compared fields is not applied;
  the wrapper keeps its `BackendInfo` from an earlier result.
-/

namespace TiProxy
namespace Router

open Observer ScoreBasedRouter

section FirstLoop

variable (r : ScoreBasedRouter)

/-- The health the first loop of `updateBackendHealth` gives a backend of the router
that the result lacks. -/
def removedHealth
    (w : BackendWrapper) : BackendHealth :=
  { backendInfo := w.health.backendInfo, healthy := false,
    pingErr := some "removed from backend list", serverVersion := "", «local» := false }

/-- One iteration of the first loop of `updateBackendHealth`. -/
def addRemovedBackend
    (acc : AList (fun _ : String => BackendHealth))
    (e : Σ _ : String, BackendPtr) : AList (fun _ : String => BackendHealth) :=
  match acc.lookup e.1 with
  | some _ => acc
  | none => acc.insert e.1 (removedHealth (r.wrappers e.2))

theorem addRemovedBackends_eq_foldl
    (backends : AList (fun _ : String => BackendHealth)) :
    addRemovedBackends r backends = r.backends.entries.foldl (addRemovedBackend r) backends := by
  rfl

theorem lookup_addRemovedBackend
    (acc : AList (fun _ : String => BackendHealth))
    (e : Σ _ : String, BackendPtr)
    (a : String) :
    (addRemovedBackend r acc e).lookup a =
      (acc.lookup a).or (if e.1 = a then some (removedHealth (r.wrappers e.2)) else none) := by
  unfold addRemovedBackend
  by_cases ha : e.1 = a
  · subst ha
    cases hlookup : acc.lookup e.1 <;> simp [hlookup, AList.lookup_insert]
  · split <;> simp [ha, AList.lookup_insert_ne (Ne.symm ha)]

theorem lookup_foldl_addRemovedBackend
    (a : String)
    (l : List (Σ _ : String, BackendPtr))
    (acc : AList (fun _ : String => BackendHealth)) :
    (l.foldl (addRemovedBackend r) acc).lookup a =
      (acc.lookup a).or ((l.dlookup a).map fun p => removedHealth (r.wrappers p)) := by
  induction l generalizing acc with
  | nil => simp
  | cons e l ih =>
      obtain ⟨k, p⟩ := e
      rw [List.foldl_cons, ih, lookup_addRemovedBackend]
      by_cases hk : k = a
      · subst hk
        rw [List.dlookup_cons_eq]
        cases acc.lookup k <;> simp
      · rw [List.dlookup_cons_ne _ _ (Ne.symm hk)]
        simp [hk]

/-- The first loop keeps every backend of the result and adds the router's others. -/
theorem lookup_addRemovedBackends
    (backends : AList (fun _ : String => BackendHealth))
    (a : String) :
    (addRemovedBackends r backends).lookup a =
      (backends.lookup a).or ((r.backends.lookup a).map fun p => removedHealth (r.wrappers p)) := by
  rw [addRemovedBackends_eq_foldl, lookup_foldl_addRemovedBackend]
  rfl

end FirstLoop

section Deletion

variable {r : ScoreBasedRouter} {p : BackendPtr}

/-- `removeBackendIfEmpty` deletes at most the wrapper's own address. -/
theorem lookup_removeBackendIfEmpty_of_ne
    {b : String}
    (h : (r.wrappers p).addr ≠ b) :
    (removeBackendIfEmpty r p).1.backends.lookup b = r.backends.lookup b := by
  rw [removeBackendIfEmpty_fst]
  split_ifs
  · exact AList.lookup_erase_ne (Ne.symm h)
  · rfl

/-- `removeBackendIfEmpty` adds no address. -/
theorem lookup_of_lookup_removeBackendIfEmpty
    {b : String}
    {q : BackendPtr}
    (h : (removeBackendIfEmpty r p).1.backends.lookup b = some q) :
    r.backends.lookup b = some q := by
  by_cases hb : (r.wrappers p).addr = b
  · rw [removeBackendIfEmpty_fst] at h
    split_ifs at h
    · subst hb
      simp [AList.lookup_erase] at h
    · exact h
  · rwa [lookup_removeBackendIfEmpty_of_ne hb] at h

/-- A healthy backend is never deleted. -/
theorem removeBackendIfEmpty_of_healthy
    (h : (r.wrappers p).health.healthy = true) :
    (removeBackendIfEmpty r p).1 = r := by
  rw [removeBackendIfEmpty_fst]
  simp [h]

end Deletion

/-- `r'` holds the address `b` as `r` does: the same pointer, to the same wrapper. -/
structure KeepsAddr
    (r r' : ScoreBasedRouter)
    (b : String) : Prop where
  lookup_eq : r'.backends.lookup b = r.backends.lookup b
  wrappers_eq : ∀ q, r.backends.lookup b = some q → r'.wrappers q = r.wrappers q

/-- The router's view of `a` agrees with `health` on the fields `Equals` compares, and
holds `a` when `health` is healthy. -/
def ViewAgrees
    (r : ScoreBasedRouter)
    (a : String)
    (health : BackendHealth) : Prop :=
  (∀ p, r.backends.lookup a = some p → (r.wrappers p).health.equals health = true) ∧
    (health.healthy = true → ∃ p, r.backends.lookup a = some p)

section Keeps

variable {r r' r'' : ScoreBasedRouter} {b : String}

theorem KeepsAddr.refl :
    KeepsAddr r r b :=
  ⟨rfl, fun _ _ => rfl⟩

theorem KeepsAddr.trans
    (h₁ : KeepsAddr r r' b)
    (h₂ : KeepsAddr r' r'' b) :
    KeepsAddr r r'' b where
  lookup_eq := h₂.lookup_eq.trans h₁.lookup_eq
  wrappers_eq q hq := (h₂.wrappers_eq q (h₁.lookup_eq.trans hq)).trans (h₁.wrappers_eq q hq)

theorem ViewAgrees.of_keepsAddr
    {health : BackendHealth}
    (hv : ViewAgrees r b health)
    (hk : KeepsAddr r r' b) :
    ViewAgrees r' b health := by
  refine ⟨fun q hq => ?_, fun hh => ?_⟩
  · have hq' := hk.lookup_eq ▸ hq
    rw [hk.wrappers_eq q hq']
    exact hv.1 q hq'
  · rw [hk.lookup_eq]
    exact hv.2 hh

end Keeps

section SecondLoop

variable {s : RouterSys} {acc : ScoreBasedRouter × String}

/-- An entry whose health `Equals` the wrapper's changes nothing. -/
theorem updateOneBackend_of_equals
    (e : Σ _ : String, BackendHealth)
    {p : BackendPtr}
    (hp : acc.1.backends.lookup e.1 = some p)
    (heq : (acc.1.wrappers p).health.equals e.2 = true) :
    (updateOneBackend acc e).1 = acc.1 := by
  obtain ⟨r, sv⟩ := acc
  simp only at hp heq
  simp [updateOneBackend, hp, heq]

/-- One iteration of the second loop touches only its entry's address: the pointer
of every other address and the wrapper it points to stay as they were. -/
theorem updateOneBackend_keepsAddr_of_ne
    (hinv : RouterInv { s with router := acc.1 } (fun _ => 0))
    (e : Σ _ : String, BackendHealth)
    {b : String}
    (hne : e.1 ≠ b) :
    KeepsAddr acc.1 (updateOneBackend acc e).1 b := by
  obtain ⟨r, sv⟩ := acc
  unfold updateOneBackend
  dsimp only
  split
  · split
    · -- a new backend: a fresh pointer under the entry's address
      refine ⟨AList.lookup_insert_ne (Ne.symm hne), fun q hq => ?_⟩
      have hlt : q < r.nextPtr := hinv.lt_of_lookup b q hq
      exact Function.update_of_ne (Nat.ne_of_lt hlt) _ _
    · exact KeepsAddr.refl
  · rename_i p hp
    split
    · -- a changed health: the entry's own wrapper, then the deletion of its address
      have hp_addr : (r.wrappers p).addr = e.1 := hinv.addr_of_lookup e.1 p hp
      have hne' : ((r.setWrapper p { r.wrappers p with health := e.2 }).wrappers p).addr ≠ b := by
        rw [setWrapper_wrappers_self]
        exact hp_addr ▸ hne
      refine ⟨lookup_removeBackendIfEmpty_of_ne hne', fun q hq => ?_⟩
      have hq_addr : (r.wrappers q).addr = b := hinv.addr_of_lookup b q hq
      have hqp : q ≠ p := by
        rintro rfl
        exact hne (hp_addr.symm.trans hq_addr)
      simp [hqp]
    · exact KeepsAddr.refl

/-- One iteration keeps an address whose entry, if it is the one visited, `Equals`
the health the address already has. -/
theorem updateOneBackend_keepsAddr
    (hinv : RouterInv { s with router := acc.1 } (fun _ => 0))
    (e : Σ _ : String, BackendHealth)
    {b : String}
    (h : e.1 = b → ∃ p, acc.1.backends.lookup b = some p ∧
      (acc.1.wrappers p).health.equals e.2 = true) :
    KeepsAddr acc.1 (updateOneBackend acc e).1 b := by
  by_cases hb : e.1 = b
  · obtain ⟨p, hp, heq⟩ := h hb
    subst hb
    rw [updateOneBackend_of_equals e hp heq]
    exact KeepsAddr.refl
  · exact updateOneBackend_keepsAddr_of_ne hinv e hb

/-- After one iteration, the entry's own address agrees with the entry. -/
theorem updateOneBackend_viewAgrees
    (hinv : RouterInv { s with router := acc.1 } (fun _ => 0))
    (e : Σ _ : String, BackendHealth) :
    ViewAgrees (updateOneBackend acc e).1 e.1 e.2 := by
  obtain ⟨r, sv⟩ := acc
  unfold updateOneBackend
  dsimp only
  split
  · rename_i hnone
    split
    · -- a new healthy backend gets a wrapper with the entry's health
      refine ⟨fun q hq => ?_, fun _ => ⟨r.nextPtr, AList.lookup_insert _⟩⟩
      rw [AList.lookup_insert, Option.some_inj] at hq
      subst hq
      simp [newBackendWrapper]
    · rename_i hunhealthy
      refine ⟨fun q hq => ?_, fun hh => absurd hh hunhealthy⟩
      rw [hnone] at hq
      cases hq
  · rename_i p hp
    split
    · -- a changed health is stored; the backend is deleted only if it is unhealthy
      refine ⟨fun q hq => ?_, fun hh => ⟨p, ?_⟩⟩
      · have hq' : r.backends.lookup e.1 = some q :=
          lookup_of_lookup_removeBackendIfEmpty (r := r.setWrapper p _) hq
        rw [hp, Option.some_inj] at hq'
        subst hq'
        simp
      · rw [removeBackendIfEmpty_of_healthy (by simpa using hh)]
        exact hp
    · rename_i hequal
      refine ⟨fun q hq => ?_, fun _ => ⟨p, hp⟩⟩
      rw [hp, Option.some_inj] at hq
      subst hq
      simpa using hequal

/-- The second loop keeps an address that each of its entries either does not name
or names with a health that `Equals` the address's own. -/
theorem foldl_updateOneBackend_keepsAddr
    {b : String}
    (l : List (Σ _ : String, BackendHealth)) :
    ∀ acc : ScoreBasedRouter × String,
      RouterInv { s with router := acc.1 } (fun _ => 0) →
      (∀ e ∈ l, e.1 = b → ∃ p, acc.1.backends.lookup b = some p ∧
        (acc.1.wrappers p).health.equals e.2 = true) →
        KeepsAddr acc.1 (l.foldl updateOneBackend acc).1 b := by
  induction l with
  | nil =>
      intro acc _ _
      exact KeepsAddr.refl
  | cons e l ih =>
      intro acc hinv h
      have hk := updateOneBackend_keepsAddr hinv e (h e List.mem_cons_self)
      -- the rest of the loop sees the same pointer and wrapper at `b`
      have h' : ∀ e' ∈ l, e'.1 = b → ∃ p, (updateOneBackend acc e).1.backends.lookup b = some p ∧
          ((updateOneBackend acc e).1.wrappers p).health.equals e'.2 = true := by
        intro e' he' hb
        obtain ⟨p, hp, heq⟩ := h e' (List.mem_cons_of_mem _ he') hb
        exact ⟨p, hk.lookup_eq.trans hp, by rw [hk.wrappers_eq p hp]; exact heq⟩
      exact hk.trans (ih _ (RouterInv.after_updateOneBackend acc e hinv) h')

/-- After the second loop over entries with distinct addresses, the address of every
entry agrees with the entry. -/
theorem foldl_updateOneBackend_viewAgrees
    (l : List (Σ _ : String, BackendHealth))
    (hnd : l.NodupKeys) :
    ∀ acc : ScoreBasedRouter × String,
      RouterInv { s with router := acc.1 } (fun _ => 0) →
        ∀ e ∈ l, ViewAgrees (l.foldl updateOneBackend acc).1 e.1 e.2 := by
  induction l with
  | nil =>
      intro _ _ e he
      cases he
  | cons e l ih =>
      intro acc hinv e' he'
      rw [List.nodupKeys_cons] at hnd
      have hinv' := RouterInv.after_updateOneBackend acc e hinv
      rcases List.mem_cons.mp he' with rfl | he'
      · -- the entry itself, which no later entry names
        have hfresh : ∀ e'' ∈ l, e''.1 ≠ e'.1 := fun e'' he'' heq =>
          hnd.1 (heq ▸ List.mem_keys_of_mem he'')
        exact (updateOneBackend_viewAgrees hinv e').of_keepsAddr
          (foldl_updateOneBackend_keepsAddr l _ hinv'
            (fun e'' he'' heq => absurd heq (hfresh e'' he'')))
      · exact ih hnd.2 _ hinv' e' he'

end SecondLoop

/-- Without an error, the map and the wrappers after `updateBackendHealth` are those
after the second loop over the result with the removed backends added. -/
theorem updateBackendHealth_of_ok
    (r : ScoreBasedRouter)
    {healthResults : HealthResult}
    (herr : healthResults.err = none) :
    let r₀ := { r with observeError := healthResults.err }
    let r' := ((addRemovedBackends r₀ healthResults.backends).entries.foldl updateOneBackend
      (r₀, "")).1
    (updateBackendHealth r healthResults).backends = r'.backends ∧
      (updateBackendHealth r healthResults).wrappers = r'.wrappers := by
  unfold updateBackendHealth
  rw [herr]
  dsimp only
  split_ifs <;> exact ⟨rfl, rfl⟩

/-- An entry of an `AList` is its lookup. -/
theorem entry_eq_of_lookup
    {bs : AList (fun _ : String => BackendHealth)}
    {a : String}
    {health : BackendHealth}
    (h : bs.lookup a = some health)
    {e : Σ _ : String, BackendHealth}
    (he : e ∈ bs.entries)
    (ha : e.1 = a) :
    e.2 = health := by
  obtain ⟨k, v⟩ := e
  simp only at ha
  subst ha
  rw [← AList.mem_lookup_iff, h, Option.mem_def, Option.some_inj] at he
  exact he.symm

/-- After a result without an error, every backend in the map agrees with the result
on `Healthy`, `ServerVersion` and `Local`, a backend the result lacks is unhealthy,
and every backend the result reports healthy is in the map. -/
theorem updateBackendHealth_view
    {s : RouterSys}
    (hs : RouterReachable s)
    (healthResults : HealthResult)
    (herr : healthResults.err = none) :
    (∀ a p, (updateBackendHealth s.router healthResults).backends.lookup a = some p →
        match healthResults.backends.lookup a with
        | some health =>
            ((updateBackendHealth s.router healthResults).wrappers p).health.equals health = true
        | none => ((updateBackendHealth s.router healthResults).wrappers p).health.healthy = false) ∧
      ∀ a health, healthResults.backends.lookup a = some health → health.healthy = true →
        ∃ p, (updateBackendHealth s.router healthResults).backends.lookup a = some p := by
  obtain ⟨hb, hw⟩ := updateBackendHealth_of_ok s.router herr
  rw [hb, hw]
  set r₀ := { s.router with observeError := healthResults.err }
  set bs := addRemovedBackends r₀ healthResults.backends
  have h₀ : RouterInv { s with router := (r₀, "").1 } (fun _ => 0) :=
    (routerInv_reachable hs).of_router_eq rfl rfl rfl rfl
  have hview := foldl_updateOneBackend_viewAgrees bs.entries bs.nodupKeys _ h₀
  -- every address of the final map is an address of `bs`, and agrees with its entry
  have hagree : ∀ a p, (bs.entries.foldl updateOneBackend (r₀, "")).1.backends.lookup a = some p →
      ∃ health, bs.lookup a = some health ∧
        ((bs.entries.foldl updateOneBackend (r₀, "")).1.wrappers p).health.equals health = true := by
    intro a p hp
    obtain ⟨health, hbs⟩ : ∃ health, bs.lookup a = some health := by
      by_cases hkey : a ∈ bs.entries.keys
      · exact Option.isSome_iff_exists.mp (AList.lookup_isSome.mpr hkey)
      · have hk := foldl_updateOneBackend_keepsAddr (b := a) bs.entries _ h₀
          (fun e he hea => (hkey (by rw [← hea]; exact List.mem_keys_of_mem he)).elim)
        rw [hk.lookup_eq] at hp
        simp only [bs, lookup_addRemovedBackends, hp, Option.map_some]
        cases healthResults.backends.lookup a <;> simp
    exact ⟨health, hbs, (hview ⟨a, health⟩ (AList.mem_lookup_iff.mp hbs)).1 p hp⟩
  refine ⟨fun a p hp => ?_, fun a health hres hh => ?_⟩
  · obtain ⟨health, hbs, heq⟩ := hagree a p hp
    rw [lookup_addRemovedBackends] at hbs
    cases hres : healthResults.backends.lookup a with
    | some h =>
        rw [hres, Option.some_or, Option.some_inj] at hbs
        simpa [hbs] using heq
    | none =>
        -- the first loop gave the address the health of a removed backend
        rw [hres, Option.none_or] at hbs
        obtain ⟨q, -, rfl⟩ := Option.map_eq_some_iff.mp hbs
        simpa [removedHealth] using BackendHealth.healthy_eq_of_equals heq
  · have hbs : bs.lookup a = some health := by
      simp [bs, lookup_addRemovedBackends, hres]
    exact (hview ⟨a, health⟩ (AList.mem_lookup_iff.mp hbs)).2 hh

/-- A healthy local backend in zone `east`. -/
def eastHealth : BackendHealth :=
  { backendInfo := { labels := [("zone", "east")], ip := "10.0.0.1", statusPort := 10080 },
    healthy := true, pingErr := none, serverVersion := "8.0.11-TiDB-v7.5.0", «local» := true }

/-- The same backend after its label has moved to zone `west`. -/
def westHealth : BackendHealth :=
  { eastHealth with backendInfo := { eastHealth.backendInfo with labels := [("zone", "west")] } }

/-- A result that reports one backend. -/
def singleResult
    (addr : String)
    (health : BackendHealth) : HealthResult where
  backends := AList.insert addr health ∅
  err := none

/-- A result that gives a backend of the map a new `BackendInfo`, with the health,
version and locality it already has, is not applied: the wrapper keeps its health,
with the labels, IP and status port of an earlier result. -/
theorem updateBackendHealth_stale_backendInfo
    {s : RouterSys}
    (hs : RouterReachable s)
    (healthResults : HealthResult)
    (herr : healthResults.err = none)
    {a : String}
    {p : BackendPtr}
    {health : BackendHealth}
    (hp : s.router.backends.lookup a = some p)
    (hres : healthResults.backends.lookup a = some health)
    (heq : (s.router.wrappers p).health.equals health = true)
    (hinfo : (s.router.wrappers p).health.backendInfo ≠ health.backendInfo) :
    (updateBackendHealth s.router healthResults).backends.lookup a = some p ∧
      ((updateBackendHealth s.router healthResults).wrappers p).health =
        (s.router.wrappers p).health ∧
      ((updateBackendHealth s.router healthResults).wrappers p).health.backendInfo ≠
        health.backendInfo := by
  obtain ⟨hb, hw⟩ := updateBackendHealth_of_ok s.router herr
  rw [hb, hw]
  set r₀ := { s.router with observeError := healthResults.err }
  set bs := addRemovedBackends r₀ healthResults.backends
  have h₀ : RouterInv { s with router := (r₀, "").1 } (fun _ => 0) :=
    (routerInv_reachable hs).of_router_eq rfl rfl rfl rfl
  have hbs : bs.lookup a = some health := by
    simp [bs, lookup_addRemovedBackends, hres]
  -- the only entry naming `a` is the result's, which `Equals` the wrapper's health
  have hk := foldl_updateOneBackend_keepsAddr (b := a) bs.entries _ h₀
    (fun e he hea => ⟨p, hp, by rw [entry_eq_of_lookup hbs he hea]; exact heq⟩)
  have hwrapper := hk.wrappers_eq p hp
  refine ⟨hk.lookup_eq.trans hp, ?_, ?_⟩
  · rw [hwrapper]
  · rw [hwrapper]
    exact hinfo

/-- The router after a first result that reports the backend in zone `east`. -/
def eastRouter : RouterSys :=
  { RouterSys.init with
    router := updateBackendHealth RouterSys.init.router (singleResult "10.0.0.1:4000" eastHealth) }

theorem eastRouter_reachable :
    RouterReachable eastRouter :=
  Transition.Reachable.tail (Transition.Reachable.of_init rfl) (RouterStep.healthUpdate _ _)

/-- The backend in zone `east` after an upgrade of its TiDB version. -/
def upgradedHealth : BackendHealth :=
  { eastHealth with serverVersion := "8.0.11-TiDB-v8.1.0" }

/-- A second result that reports the backend of the map with a new version: the wrapper
the map already holds takes the new health. -/
theorem updateBackendHealth_view_upgrade :
    RouterReachable eastRouter ∧ (singleResult "10.0.0.1:4000" upgradedHealth).err = none ∧
      eastRouter.router.backends.lookup "10.0.0.1:4000" = some 0 ∧
      ((updateBackendHealth eastRouter.router (singleResult "10.0.0.1:4000" upgradedHealth)).wrappers
        0).health.equals upgradedHealth = true := by
  have hs := eastRouter_reachable
  have hp : eastRouter.router.backends.lookup "10.0.0.1:4000" = some 0 := by
    decide
  have hp' : (updateBackendHealth eastRouter.router
      (singleResult "10.0.0.1:4000" upgradedHealth)).backends.lookup "10.0.0.1:4000" = some 0 := by
    decide
  have hres : (singleResult "10.0.0.1:4000" upgradedHealth).backends.lookup "10.0.0.1:4000" =
      some upgradedHealth := by
    decide
  have hview := (updateBackendHealth_view hs _ rfl).1 "10.0.0.1:4000" 0 hp'
  rw [hres] at hview
  exact ⟨hs, rfl, hp, hview⟩

theorem updateBackendHealth_stale_backendInfo_zone :
    RouterReachable eastRouter ∧
      ((updateBackendHealth eastRouter.router (singleResult "10.0.0.1:4000" westHealth)).wrappers
        0).health.backendInfo ≠ westHealth.backendInfo := by
  have hs := eastRouter_reachable
  have hp : eastRouter.router.backends.lookup "10.0.0.1:4000" = some 0 := by
    decide
  have hres : (singleResult "10.0.0.1:4000" westHealth).backends.lookup "10.0.0.1:4000" =
      some westHealth := by
    decide
  have heq : (eastRouter.router.wrappers 0).health.equals westHealth = true := by
    decide
  have hinfo : (eastRouter.router.wrappers 0).health.backendInfo ≠ westHealth.backendInfo := by
    decide
  exact ⟨hs, (updateBackendHealth_stale_backendInfo hs _ rfl hp hres heq hinfo).2.2⟩

end Router
end TiProxy
