import TiProxy.Lib.Transition

/-!
# The owner election and the callbacks of its member

An `election` campaigns for the owner key in etcd and tells its `Member` (the VIP
manager, for one) when it becomes the owner (`OnElected`) and when it stops being it
(`OnRetired`).  Three goroutines touch `isOwner` and call the member:

* `campaignLoop`: a `select` on the session and the context, a `Campaign`, the owner
  read back by `getOwnerInfo`, then `watchOwner` until the key or the session goes;
* `waitRetire`, which the loop starts during `Campaign` when it is the owner, and which
  retires it as soon as `GetOwnerID` names another member;
* `Close`, which cancels the loop, waits for it and retires an owner.

Each goroutine's code between two blocking points is one step of `electionStep`, and
every outcome of etcd is a parameter of the step that reads it.

The layer above is what the member is owed (`Ownership`): it is told it is elected only
while it is not the owner and retired only while it is, from "not the owner and no
callback".  From that alone the callbacks alternate, starting with `OnElected`, and
`isOwner` is the parity of their number (`Ownership.alternates_inductive`).

**Results.**
* `electionStep_refines`: every step of the election is a step of `Ownership` or leaves
  it alone.
* `election_callbacks_alternate`: in every reachable state the callbacks alternate from
  `OnElected`, `isOwner` holds exactly when the last one was `OnElected`, and after
  `Close` returned the last one, if any, is `OnRetired`.
-/

namespace TiProxy
namespace Elect

/-! ### What the member is told -/

/-- The two calls of `Member`. -/
inductive Callback where
  | OnElected
  | OnRetired
deriving DecidableEq, Repr

/-- The first `n` entries of `OnElected, OnRetired, OnElected, …`. -/
def alternating : Nat → List Callback
  | 0 => []
  | n + 1 => alternating n ++ [if n % 2 = 0 then .OnElected else .OnRetired]

@[simp]
theorem length_alternating
    (n : Nat) :
    (alternating n).length = n := by
  induction n with
  | zero => rfl
  | succ n ih => simp [alternating, ih]

theorem getElem_alternating
    (n i : Nat)
    (hi : i < (alternating n).length) :
    (alternating n)[i] = if i % 2 = 0 then .OnElected else .OnRetired := by
  induction n with
  | zero => simp at hi
  | succ n ih =>
      simp only [alternating, List.getElem_append]
      split
      · exact ih _
      · -- past the old prefix: the entry appended last
        rename_i hge
        have hin : i = n := by simp at hi hge; omega
        subst hin
        simp

@[simp]
theorem getLast?_alternating_succ
    (n : Nat) :
    (alternating (n + 1)).getLast? = some (if n % 2 = 0 then .OnElected else .OnRetired) := by
  simp [alternating]

/-- What a member knows of the election: whether it is the owner, and its callbacks. -/
structure Ownership where
  isOwner : Bool
  callbacks : List Callback
deriving DecidableEq, Repr

/-- The member is told it is elected only while it is not the owner, and retired only
while it is. -/
inductive OwnershipStep : Ownership → Ownership → Prop
  | elect
      {callbacks : List Callback} :
      OwnershipStep ⟨false, callbacks⟩ ⟨true, callbacks ++ [.OnElected]⟩
  | retire
      {callbacks : List Callback} :
      OwnershipStep ⟨true, callbacks⟩ ⟨false, callbacks ++ [.OnRetired]⟩

namespace Ownership

/-- No callback yet, not the owner. -/
def Initial (o : Ownership) : Prop :=
  o = ⟨false, []⟩

/-- The callbacks are the alternation of their length, and the member is the owner
exactly when their number is odd. -/
def Alternates (o : Ownership) : Prop :=
  o.callbacks = alternating o.callbacks.length ∧
    (o.isOwner = true ↔ o.callbacks.length % 2 = 1)

theorem alternates_inductive :
    Transition.Inductive OwnershipStep Initial Alternates where
  init_holds := by
    rintro o rfl
    simp [Alternates, alternating]
  step_holds := by
    rintro o o' ⟨hcb, howner⟩ hstep
    cases hstep with
    | @elect callbacks =>
        -- not the owner: an even number of callbacks, so `OnElected` comes next
        have heven : callbacks.length % 2 = 0 := by simp at howner; omega
        refine ⟨?_, by simp; omega⟩
        simp only [List.length_append, List.length_singleton, alternating]
        rw [← hcb, heven, if_pos rfl]
    | @retire callbacks =>
        have hodd : callbacks.length % 2 = 1 := by simpa using howner
        refine ⟨?_, by simp; omega⟩
        simp only [List.length_append, List.length_singleton, alternating]
        rw [← hcb, hodd]
        rfl

/-- Owner exactly when the last callback was `OnElected`. -/
theorem Alternates.isOwner_iff
    {o : Ownership}
    (h : o.Alternates) :
    o.isOwner = true ↔ o.callbacks.getLast? = some .OnElected := by
  obtain ⟨hcb, howner⟩ := h
  rw [howner, hcb]
  cases hn : o.callbacks.length with
  | zero => simp [alternating]
  | succ n =>
      rw [getLast?_alternating_succ]
      split <;> simp <;> omega

/-- The `i`-th callback is `OnElected` for even `i` and `OnRetired` for odd `i`. -/
theorem Alternates.getElem
    {o : Ownership}
    (h : o.Alternates)
    (i : Nat)
    (hi : i < o.callbacks.length) :
    o.callbacks[i] = if i % 2 = 0 then .OnElected else .OnRetired := by
  rw [List.getElem_of_eq h.1 hi]
  exact getElem_alternating _ _ _

/-- A member that is not the owner was told nothing yet, or last that it retired. -/
theorem Alternates.retired_of_not_owner
    {o : Ownership}
    (h : o.Alternates)
    (hnot : o.isOwner = false) :
    o.callbacks = [] ∨ o.callbacks.getLast? = some .OnRetired := by
  obtain ⟨hcb, howner⟩ := h
  rw [hcb]
  cases hn : o.callbacks.length with
  | zero => exact .inl rfl
  | succ n =>
      -- an even number of callbacks, the last of them at an odd index
      have hodd : n % 2 = 1 := by simp [hnot] at howner; omega
      right
      simp [hodd]

end Ownership

/-! ### The election -/

/-- The errors of etcd the loop tells apart. -/
inductive EtcdError where
  | ErrLeaseNotFound
  | other
deriving DecidableEq, Repr

/-- Where the goroutine of `campaignLoop` is. -/
inductive LoopPc where
  /-- At the `select` at the head of the `for` loop. -/
  | loopTop
  /-- Blocked in `elec.Campaign`, with the `waitRetire` goroutine still running or not. -/
  | campaigning (waitRetire : Bool)
  /-- In `watchOwner`. -/
  | watching
  /-- `campaignLoop` has returned, or never ran (`Start` without PD, or its first
  session failed). -/
  | exited
deriving DecidableEq, Repr

/-- Where the calls of `Close` are. -/
inductive ClosePc where
  | notCalled
  /-- `Close` has cancelled the loop and is blocked in `m.wg.Wait()`. -/
  | waiting
  | returned
deriving DecidableEq, Repr

/-- The state the three goroutines share. -/
structure ElectionSys where
  id : String
  isOwner : Bool
  /-- The `err` that `campaignLoop` carries from one iteration to the next. -/
  err : Option EtcdError
  /-- The context of the loop is done: `Close` called `m.cancel`. -/
  cancelled : Bool
  loop : LoopPc
  close : ClosePc
  /-- The calls the member received, in order. -/
  callbacks : List Callback
deriving DecidableEq, Repr

namespace ElectionSys

/-- What the member knows. -/
def ownership (m : ElectionSys) : Ownership :=
  ⟨m.isOwner, m.callbacks⟩

/-- `onElected` (without the metric). -/
def onElected (m : ElectionSys) : ElectionSys :=
  { m with callbacks := m.callbacks ++ [.OnElected], isOwner := true }

/-- `onRetired` (without the metric). -/
def onRetired (m : ElectionSys) : ElectionSys :=
  { m with callbacks := m.callbacks ++ [.OnRetired], isOwner := false }

/-- The state before `Start`; `started` is whether `campaignLoop` got its first session. -/
def init (id : String) (started : Bool) : ElectionSys where
  id := id
  isOwner := false
  err := none
  cancelled := false
  loop := if started then .loopTop else .exited
  close := .notCalled
  callbacks := []

def Initial (m : ElectionSys) : Prop :=
  ∃ id started, m = init id started

/-- The rest of the loop head after its `select`: on `ErrLeaseNotFound` the session is
closed and the loop continues with the error `session.Close()` returned; otherwise
`Campaign` starts, with `waitRetire` running exactly when the member is the owner. -/
def afterSelect (m : ElectionSys) (err sessionClose : Option EtcdError) : ElectionSys :=
  if err = some .ErrLeaseNotFound then
    { m with err := sessionClose }
  else
    { m with err := err, loop := .campaigning m.isOwner }

end ElectionSys

/-- The case the `select` at the head of the loop takes. -/
inductive SelectCase where
  /-- `<-session.Done()`, with what the new `concurrency.NewSession` returned. -/
  | sessionDone (newSession : Option EtcdError)
  | ctxDone
  /-- `default`: neither channel is ready. -/
  | default
deriving DecidableEq, Repr

namespace ElectionSys

/-- `campaignLoop` from the `select` at its head to `Campaign`, or to a `continue` or a
`return`. -/
def campaignStart (m : ElectionSys) (sel : SelectCase) (sessionClose : Option EtcdError) :
    Option ElectionSys :=
  match sel with
  | .sessionDone (some _) =>
      -- the new session failed: revokeLease and return
      some { m with loop := .exited }
  | .sessionDone none =>
      some (m.afterSelect none sessionClose)
  | .ctxDone =>
      if m.cancelled then some { m with loop := .exited } else none
  | .default =>
      -- `default` is taken only if `ctx.Done()` is not ready
      if m.cancelled then none else some (m.afterSelect m.err sessionClose)

/-- `campaignLoop` from the return of `Campaign` to `watchOwner` or a `continue`.  By then
`cancel(); wg.Wait()` has joined `waitRetire`.  `kv, err := m.getOwnerInfo(ctx)` declares
a fresh `err` in the loop body, so the `err` the loop carries is `Campaign`'s. -/
def campaignEnd (m : ElectionSys) (campaign : Option EtcdError)
    (ownerInfo : Except EtcdError String) : ElectionSys :=
  let m := { m with err := campaign }
  match campaign, ownerInfo with
  | some _, _ => { m with loop := .loopTop }
  | none, .error _ => { m with loop := .loopTop }
  | none, .ok owner =>
      if owner ≠ m.id then
        -- owner id mismatches
        { (if m.isOwner then m.onRetired else m) with loop := .loopTop }
      else
        { (if !m.isOwner then m.onElected else m) with loop := .watching }

/-- One tick of `waitRetire`: `GetOwnerID`, and a retirement when it names another member,
after which `waitRetire` returns. -/
def waitRetire (m : ElectionSys) (ownerID : Except EtcdError String) : ElectionSys :=
  match ownerID with
  | .error _ => m
  | .ok id => if id ≠ m.id then { m.onRetired with loop := .campaigning false } else m

/-- `Close` up to `m.wg.Wait()`: the loop's context is cancelled. -/
def closeCancel (m : ElectionSys) : ElectionSys :=
  { m with cancelled := true, close := .waiting }

/-- `Close` after `m.wg.Wait()`: an owner retires. -/
def closeRetire (m : ElectionSys) : ElectionSys :=
  { (if m.isOwner then m.onRetired else m) with close := .returned }

end ElectionSys

/-- The steps of the three goroutines, with what etcd answers each. -/
inductive ElectionEvent where
  | campaignStart (sel : SelectCase) (sessionClose : Option EtcdError)
  | waitRetire (ownerID : Except EtcdError String)
  | campaignEnd (campaign : Option EtcdError) (ownerInfo : Except EtcdError String)
  /-- `watchOwner` returns: the watch closed or was canceled, the owner key was deleted,
  the session or the context is done. -/
  | watchEnd
  | closeCancel
  | closeRetire
deriving Repr

open ElectionSys in
/-- One step of one goroutine, where it is enabled. -/
def electionStep (m : ElectionSys) : ElectionEvent → Option ElectionSys
  | .campaignStart sel sessionClose =>
      if m.loop = .loopTop then m.campaignStart sel sessionClose else none
  | .waitRetire ownerID =>
      if m.loop = .campaigning true then some (m.waitRetire ownerID) else none
  | .campaignEnd campaign ownerInfo =>
      match m.loop with
      | .campaigning _ => some (m.campaignEnd campaign ownerInfo)
      | _ => none
  | .watchEnd =>
      if m.loop = .watching then some { m with loop := .loopTop } else none
  | .closeCancel =>
      -- `Close` is called again only after the last call returned
      if m.close = .waiting then none else some m.closeCancel
  | .closeRetire =>
      if m.close = .waiting ∧ m.loop = .exited then some m.closeRetire else none

/-! ### The invariant of the goroutines -/

/-- What keeps the member's calls guarded: `waitRetire` runs only for an owner, and once
`Close` returned the loop is gone and the member is not the owner. -/
structure ElectionInv (m : ElectionSys) : Prop where
  ownerRetire : m.loop = .campaigning true → m.isOwner = true
  closedRetired : m.close = .returned → m.loop = .exited ∧ m.isOwner = false

namespace ElectionSys

variable {m m' : ElectionSys}

@[simp]
theorem ownership_onElected :
    m.onElected.ownership = ⟨true, m.callbacks ++ [.OnElected]⟩ :=
  rfl

@[simp]
theorem ownership_onRetired :
    m.onRetired.ownership = ⟨false, m.callbacks ++ [.OnRetired]⟩ :=
  rfl

theorem ownershipStep_onElected
    (h : m.isOwner = false) :
    OwnershipStep m.ownership m.onElected.ownership := by
  rw [ownership_onElected, ownership, h]
  exact .elect

theorem ownershipStep_onRetired
    (h : m.isOwner = true) :
    OwnershipStep m.ownership m.onRetired.ownership := by
  rw [ownership_onRetired, ownership, h]
  exact .retire

/-- The loop head calls nobody and leaves `Close` alone; it stays where it is, returns,
or starts `Campaign` with `waitRetire` running exactly for an owner. -/
theorem afterSelect_spec
    (err sessionClose : Option EtcdError) :
    (m.afterSelect err sessionClose).ownership = m.ownership ∧
      (m.afterSelect err sessionClose).close = m.close ∧
      ((m.afterSelect err sessionClose).loop = m.loop ∨
        (m.afterSelect err sessionClose).loop = .campaigning m.isOwner) := by
  unfold afterSelect
  split
  · exact ⟨rfl, rfl, .inl rfl⟩
  · exact ⟨rfl, rfl, .inr rfl⟩

theorem campaignStart_spec
    {sel : SelectCase}
    {sessionClose : Option EtcdError}
    (h : m.campaignStart sel sessionClose = some m') :
    m'.ownership = m.ownership ∧ m'.close = m.close ∧
      (m'.loop = .exited ∨ m'.loop = m.loop ∨ m'.loop = .campaigning m.isOwner) := by
  cases sel with
  | sessionDone newSession =>
      cases newSession with
      | some e =>
          cases h
          exact ⟨rfl, rfl, .inl rfl⟩
      | none =>
          cases h
          obtain ⟨hown, hclose, hloop⟩ := @afterSelect_spec m none sessionClose
          exact ⟨hown, hclose, .inr hloop⟩
  | ctxDone =>
      simp only [campaignStart] at h
      split at h
      · cases h
        exact ⟨rfl, rfl, .inl rfl⟩
      · cases h
  | default =>
      simp only [campaignStart] at h
      split at h
      · cases h
      · cases h
        obtain ⟨hown, hclose, hloop⟩ := @afterSelect_spec m m.err sessionClose
        exact ⟨hown, hclose, .inr hloop⟩

/-- A tick of `waitRetire` does nothing, or retires the member and ends `waitRetire`. -/
theorem waitRetire_eq
    (ownerID : Except EtcdError String) :
    m.waitRetire ownerID = m ∨ m.waitRetire ownerID = { m.onRetired with loop := .campaigning false } := by
  unfold waitRetire
  split
  · exact .inl rfl
  · split
    · exact .inr rfl
    · exact .inl rfl

/-- Past `Campaign` the loop is at its head or in `watchOwner`, and `Close` is untouched. -/
theorem campaignEnd_spec
    (campaign : Option EtcdError)
    (ownerInfo : Except EtcdError String) :
    (m.campaignEnd campaign ownerInfo).close = m.close ∧
      ((m.campaignEnd campaign ownerInfo).loop = .loopTop ∨
        (m.campaignEnd campaign ownerInfo).loop = .watching) := by
  unfold campaignEnd
  dsimp only
  split
  · exact ⟨rfl, .inl rfl⟩
  · exact ⟨rfl, .inl rfl⟩
  · split
    · split <;> exact ⟨rfl, .inl rfl⟩
    · split <;> exact ⟨rfl, .inr rfl⟩

/-- `campaignEnd` calls `onRetired` only for an owner and `onElected` only for a member
that is not. -/
theorem campaignEnd_refines
    (campaign : Option EtcdError)
    (ownerInfo : Except EtcdError String) :
    Relation.ReflGen OwnershipStep m.ownership (m.campaignEnd campaign ownerInfo).ownership := by
  unfold campaignEnd
  dsimp only
  split
  · exact .refl
  · exact .refl
  · split
    · split
      · exact .single (ownershipStep_onRetired ‹_›)
      · exact .refl
    · split
      · rename_i hnot
        exact .single (ownershipStep_onElected (by simpa using hnot))
      · exact .refl

theorem closeRetire_refines :
    Relation.ReflGen OwnershipStep m.ownership m.closeRetire.ownership := by
  unfold closeRetire
  split
  · exact .single (ownershipStep_onRetired ‹_›)
  · exact .refl

theorem closeRetire_isOwner :
    m.closeRetire.isOwner = false := by
  unfold closeRetire
  split
  · rfl
  · rename_i hnot
    simpa using hnot

theorem closeRetire_loop :
    m.closeRetire.loop = m.loop := by
  unfold closeRetire
  split <;> rfl

/-- What a step of `electionStep` can be: one of the three goroutines, where it is. -/
theorem electionStep_some
    {e : ElectionEvent}
    (h : electionStep m e = some m') :
    (m.loop = .loopTop ∧ ∃ sel sessionClose, m.campaignStart sel sessionClose = some m') ∨
      (m.loop = .campaigning true ∧ ∃ ownerID, m' = m.waitRetire ownerID) ∨
      (∃ w, m.loop = .campaigning w ∧
        ∃ campaign ownerInfo, m' = m.campaignEnd campaign ownerInfo) ∨
      (m.loop = .watching ∧ m' = { m with loop := .loopTop }) ∨
      (m.close ≠ .waiting ∧ m' = m.closeCancel) ∨
      (m.close = .waiting ∧ m.loop = .exited ∧ m' = m.closeRetire) := by
  cases e with
  | campaignStart sel sessionClose =>
      simp only [electionStep] at h
      split at h
      · exact .inl ⟨‹_›, sel, sessionClose, h⟩
      · cases h
  | waitRetire ownerID =>
      simp only [electionStep] at h
      split at h
      · cases h
        exact .inr (.inl ⟨‹_›, ownerID, rfl⟩)
      · cases h
  | campaignEnd campaign ownerInfo =>
      simp only [electionStep] at h
      split at h
      · cases h
        exact .inr (.inr (.inl ⟨_, ‹_›, campaign, ownerInfo, rfl⟩))
      · cases h
  | watchEnd =>
      simp only [electionStep] at h
      split at h
      · cases h
        exact .inr (.inr (.inr (.inl ⟨‹_›, rfl⟩)))
      · cases h
  | closeCancel =>
      simp only [electionStep] at h
      split at h
      · cases h
      · cases h
        exact .inr (.inr (.inr (.inr (.inl ⟨‹_›, rfl⟩))))
  | closeRetire =>
      simp only [electionStep] at h
      split at h
      · cases h
        rename_i hguard
        exact .inr (.inr (.inr (.inr (.inr ⟨hguard.1, hguard.2, rfl⟩))))
      · cases h

end ElectionSys

open ElectionSys

/-- While the loop runs, `Close` has not returned. -/
theorem ElectionInv.close_ne_returned
    {m : ElectionSys}
    (hinv : ElectionInv m)
    (hloop : m.loop ≠ .exited) :
    m.close ≠ .returned :=
  fun hclose => hloop (hinv.closedRetired hclose).1

theorem electionInv_inductive :
    Transition.Inductive (Transition.OfFn electionStep) ElectionSys.Initial ElectionInv where
  init_holds := by
    rintro m ⟨id, started, rfl⟩
    constructor
    · cases started <;> simp [init]
    · simp [init]
  step_holds := by
    rintro m m' hinv ⟨e, h⟩
    rcases electionStep_some h with
      ⟨hloop, sel, sessionClose, hstart⟩ | ⟨hloop, ownerID, rfl⟩ |
        ⟨w, hloop, campaign, ownerInfo, rfl⟩ | ⟨hloop, rfl⟩ | ⟨hclose, rfl⟩ |
        ⟨hclose, hloop, rfl⟩
    · -- the loop head
      obtain ⟨hown, hc, hl⟩ := campaignStart_spec hstart
      have hret := hinv.close_ne_returned (by simp [hloop])
      constructor
      · intro hc'
        have : m'.isOwner = m.isOwner := congrArg Ownership.isOwner hown
        rw [this]
        -- only a `Campaign` started by an owner has `waitRetire` running
        rcases hl with hl | hl | hl <;> rw [hl] at hc'
        · cases hc'
        · rw [hloop] at hc'
          cases hc'
        · simpa using hc'
      · intro hc'
        exact absurd (hc ▸ hc') hret
    · -- `waitRetire`: the member it retires was the owner
      have hret := hinv.close_ne_returned (by simp [hloop])
      rcases @waitRetire_eq m ownerID with heq | heq <;> rw [heq]
      · exact hinv
      · exact ⟨nofun, fun hc' => absurd hc' hret⟩
    · -- past `Campaign`
      have hret := hinv.close_ne_returned (by simp [hloop])
      obtain ⟨hc, hl⟩ := @campaignEnd_spec m campaign ownerInfo
      constructor
      · intro hc'
        rcases hl with hl | hl <;> simp [hl] at hc'
      · intro hc'
        exact absurd (hc ▸ hc') hret
    · -- `watchOwner` returned
      have hret := hinv.close_ne_returned (by simp [hloop])
      exact ⟨nofun, fun hc' => absurd hc' hret⟩
    · -- `Close` cancels
      exact ⟨hinv.ownerRetire, nofun⟩
    · -- `Close` after the loop returned
      have hl : m.closeRetire.loop = .exited := by rw [closeRetire_loop, hloop]
      refine ⟨fun hc' => ?_, fun _ => ⟨hl, closeRetire_isOwner⟩⟩
      rw [hl] at hc'
      cases hc'

/-- Every step of the election is a step of what the member is owed, or no change of it. -/
theorem electionStep_refines
    {m m' : ElectionSys}
    {e : ElectionEvent}
    (hinv : ElectionInv m)
    (h : electionStep m e = some m') :
    Relation.ReflGen OwnershipStep m.ownership m'.ownership := by
  rcases electionStep_some h with
    ⟨-, sel, sessionClose, hstart⟩ | ⟨hloop, ownerID, rfl⟩ |
      ⟨-, -, campaign, ownerInfo, rfl⟩ | ⟨-, rfl⟩ | ⟨-, rfl⟩ | ⟨-, -, rfl⟩
  · -- the loop head calls nobody: the two sides agree
    rw [(campaignStart_spec hstart).1]
  · rcases @waitRetire_eq m ownerID with heq | heq
    · rw [heq]
    · rw [heq]
      exact .single (ownershipStep_onRetired (hinv.ownerRetire hloop))
  · exact campaignEnd_refines campaign ownerInfo
  · exact .refl
  · exact .refl
  · exact closeRetire_refines

/-- What the member knows of a reachable election is reachable in `Ownership`. -/
theorem ownership_reachable
    {m : ElectionSys}
    (hm : Transition.Reachable (Transition.OfFn electionStep) ElectionSys.Initial m) :
    Transition.Reachable OwnershipStep Ownership.Initial m.ownership := by
  refine Transition.Reachable.map ownership electionInv_inductive ?_ ?_ hm
  · rintro m ⟨id, started, rfl⟩
    rfl
  · rintro m m' hinv ⟨e, h⟩
    exact electionStep_refines hinv h

theorem election_callbacks_alternate
    (m : ElectionSys)
    (hm : Transition.Reachable (Transition.OfFn electionStep) ElectionSys.Initial m) :
    (∀ i (hi : i < m.callbacks.length),
      m.callbacks[i] = if i % 2 = 0 then .OnElected else .OnRetired) ∧
    (m.isOwner = true ↔ m.callbacks.getLast? = some .OnElected) ∧
    (m.close = .returned → m.callbacks = [] ∨ m.callbacks.getLast? = some .OnRetired) := by
  have halt : m.ownership.Alternates :=
    Ownership.alternates_inductive.holds (ownership_reachable hm)
  refine ⟨halt.getElem, halt.isOwner_iff, ?_⟩
  intro hclose
  exact halt.retired_of_not_owner (electionInv_inductive.holds hm |>.closedRetired hclose).2

/-- Elected, retired by `waitRetire` while campaigning again, elected once more, then
closed while watching. -/
def reelectedRun : List ElectionEvent :=
  [.campaignStart .default none, .campaignEnd none (.ok "a"), .watchEnd,
    .campaignStart .default none, .waitRetire (.ok "b"), .campaignEnd none (.ok "a"),
    .closeCancel, .watchEnd, .campaignStart .ctxDone none, .closeRetire]

def reelectedSys : ElectionSys :=
  (Transition.runActions electionStep (init "a" true) reelectedRun).getD (init "a" true)

theorem reelectedSys_reachable :
    Transition.Reachable (Transition.OfFn electionStep) ElectionSys.Initial reelectedSys :=
  Transition.Reachable.of_runActions reelectedRun
    (Transition.Reachable.of_init ⟨"a", true, rfl⟩) (by decide)

example :
    reelectedSys.callbacks = [.OnElected, .OnRetired, .OnElected, .OnRetired] ∧
      reelectedSys.close = .returned := by
  decide

theorem election_callbacks_alternate_reelected :
    Transition.Reachable (Transition.OfFn electionStep) ElectionSys.Initial reelectedSys ∧
      (∀ i (hi : i < reelectedSys.callbacks.length),
        reelectedSys.callbacks[i] = if i % 2 = 0 then .OnElected else .OnRetired) ∧
      (reelectedSys.isOwner = true ↔ reelectedSys.callbacks.getLast? = some .OnElected) ∧
      (reelectedSys.close = .returned →
        reelectedSys.callbacks = [] ∨ reelectedSys.callbacks.getLast? = some .OnRetired) :=
  ⟨reelectedSys_reachable, election_callbacks_alternate reelectedSys reelectedSys_reachable⟩

end Elect
end TiProxy
