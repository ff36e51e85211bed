import TiProxy.Replay.Dispatch
import TiProxy.Lib.Count

/-!
# Replay: the pending-command count

`ReplayStats.PendingCmds` is what the replay reads to slow down, to abort and to
report progress, and `replay.stop` warns when it is not 0 at the end.  Every
connection adds to it the change of its list's length since its last report
(`updatePendingCmds`), and `close` reports 0.

`PendingInv` is what holds in every reachable state: the shared count is the sum of
what the connections last reported; each connection takes the commands handed to it
oldest first, each once; a connection whose `close` has not run has reported its
list's length or one more (the command it took last); one that has run `close`
has reported 0 or its list's length.

The last case is the flaw: `close` reports 0 and leaves the connection in `conns`
until the reader receives its close event, so a command the reader hands it in
between is reported by `ExecuteCmd` and never taken back.

**Results.**
* `pendingInv_reachable`: `PendingInv` holds in every reachable state.
* `pendingCmds_leak`: a replay of `COM_QUIT` and one more command of the same
  connection that stops with `PendingCmds = 1` and no command pending.
-/

namespace TiProxy
namespace Replay

open ReplaySys

/-- Whether `close` has reset the connection's report. -/
def RunPhase.afterClose : RunPhase → Bool
  | .closing | .closed => true
  | _ => false

/-- What a connection has reported: its list's length, or one more, before `close`;
0 or its list's length after. -/
def ConnState.Reported
    (c : ConnState) : Prop :=
  if c.phase.afterClose then
    c.lastPendingCmds = 0 ∨ c.lastPendingCmds = c.cmdList.length
  else
    c.cmdList.length ≤ c.lastPendingCmds ∧ c.lastPendingCmds ≤ c.cmdList.length + 1

/-- A phase change on the same side of `close` keeps what is reported. -/
theorem ConnState.reported_setPhase
    {c : ConnState}
    {phase : RunPhase}
    (hside : phase.afterClose = c.phase.afterClose)
    (h : c.Reported) :
    ({ c with phase := phase } : ConnState).Reported := by
  unfold ConnState.Reported at h ⊢
  rw [hside]
  exact h

/-- A connection's own invariant: every command handed to it is taken or still in
its list, oldest first, and its last report is `Reported`. -/
structure ConnState.WellFormed
    (c : ConnState) : Prop where
  handed_eq : c.handed = c.taken ++ c.cmdList.reverse
  reported : c.Reported

/-- The sum of what the started connections last reported. -/
def ReplaySys.pendingSum
    (s : ReplaySys) : Int :=
  (s.created.map (fun id => ((s.connState id).lastPendingCmds : Int))).sum

/-- The invariant of the whole replay. -/
structure PendingInv
    (s : ReplaySys) : Prop where
  created_nodup : s.created.Nodup
  mem_created : ∀ id, id ∈ s.created ↔ s.conns id ≠ .absent
  fresh_of_absent : ∀ id, s.conns id = .absent → s.connState id = ConnState.fresh
  pending_sum : s.PendingCmds = s.pendingSum
  wellFormed : ∀ id, (s.connState id).WellFormed

/-! ### Frame lemmas -/

section Frame

variable (s : ReplaySys)

@[simp] theorem setConn_connState
    (id : Nat)
    (c : ConnState) :
    (s.setConn id c).connState = Function.update s.connState id c := by
  rfl

@[simp] theorem setConn_conns
    (id : Nat)
    (c : ConnState) :
    (s.setConn id c).conns = s.conns := by
  rfl

@[simp] theorem setConn_created
    (id : Nat)
    (c : ConnState) :
    (s.setConn id c).created = s.created := by
  rfl

@[simp] theorem setConn_PendingCmds
    (id : Nat)
    (c : ConnState) :
    (s.setConn id c).PendingCmds = s.PendingCmds := by
  rfl

@[simp] theorem setConn_cmdChClosed
    (id : Nat)
    (c : ConnState) :
    (s.setConn id c).cmdChClosed = s.cmdChClosed := by
  rfl

theorem updatePendingCmds_eq
    (id n : Nat) :
    s.updatePendingCmds id n =
      { s.setConn id { s.connState id with lastPendingCmds := n } with
        PendingCmds := s.PendingCmds + ((n : Int) - (s.connState id).lastPendingCmds) } := by
  rfl

/-- Replacing one started connection moves the sum by the change of its report. -/
theorem pendingSum_setConn
    {id : Nat}
    (hnodup : s.created.Nodup)
    (hid : id ∈ s.created)
    (c : ConnState) :
    (s.setConn id c).pendingSum =
      s.pendingSum + ((c.lastPendingCmds : Int) - (s.connState id).lastPendingCmds) := by
  have hsum := List.sum_map_update_point (f := fun x => ((s.connState x).lastPendingCmds : Int))
    (g := fun x => (((s.setConn id c).connState x).lastPendingCmds : Int)) hnodup hid
    (fun x _ hx => by simp [hx])
  unfold pendingSum
  rw [setConn_created, hsum]
  simp

end Frame

/-! ### One step -/

section Step

variable {s : ReplaySys}

/-- The fresh connection is well formed. -/
theorem wellFormed_fresh :
    ConnState.fresh.WellFormed :=
  ⟨rfl, by simp [ConnState.Reported, ConnState.fresh]⟩

/-- An action on a connection that is past connecting concerns a started one. -/
theorem PendingInv.mem_created_of_phase
    (h : PendingInv s)
    {id : Nat}
    (hphase : s.phaseOf id ≠ .connecting) :
    id ∈ s.created := by
  rw [h.mem_created]
  intro habsent
  apply hphase
  simp [phaseOf, h.fresh_of_absent id habsent, ConnState.fresh]

/-- Replacing a started connection by a well-formed one, with the shared count moved
by the change of its report, keeps the invariant. -/
theorem PendingInv.setConn
    (h : PendingInv s)
    {id : Nat}
    (hid : id ∈ s.created)
    {c : ConnState}
    (hc : c.WellFormed)
    (pending : Int)
    (hpending : pending =
      s.PendingCmds + ((c.lastPendingCmds : Int) - (s.connState id).lastPendingCmds)) :
    PendingInv { s.setConn id c with PendingCmds := pending } where
  created_nodup := h.created_nodup
  mem_created := h.mem_created
  fresh_of_absent := by
    intro x hx
    have hne : x ≠ id := by
      rintro rfl
      exact (h.mem_created x).mp hid hx
    simp [hne, h.fresh_of_absent x hx]
  pending_sum := by
    show pending = (s.setConn id c).pendingSum
    rw [pendingSum_setConn s h.created_nodup hid, hpending, h.pending_sum]
  wellFormed := by
    intro x
    by_cases hx : x = id
    · simp [hx, hc]
    · simp [hx, h.wellFormed x]

/-- The invariant reads only the connections, the map, the started list and the
shared count. -/
theorem PendingInv.of_eq
    (h : PendingInv s)
    {s' : ReplaySys}
    (hconns : s'.conns = s.conns)
    (hstate : s'.connState = s.connState)
    (hcreated : s'.created = s.created)
    (hpending : s'.PendingCmds = s.PendingCmds) :
    PendingInv s' where
  created_nodup := hcreated ▸ h.created_nodup
  mem_created := by
    intro id
    rw [hcreated, hconns]
    exact h.mem_created id
  fresh_of_absent := by
    intro id hid
    rw [hstate]
    exact h.fresh_of_absent id (hconns ▸ hid)
  pending_sum := by
    rw [hpending, h.pending_sum]
    simp [pendingSum, hstate, hcreated]
  wellFormed := by
    intro id
    rw [hstate]
    exact h.wellFormed id

/-- An operation that replaces one started connection by a well-formed one and moves
the shared count by the change of its report keeps the invariant. -/
theorem PendingInv.of_update
    (h : PendingInv s)
    {id : Nat}
    (hid : id ∈ s.created)
    {c : ConnState}
    (hc : c.WellFormed)
    (s' : ReplaySys)
    (hconns : s'.conns = s.conns)
    (hcreated : s'.created = s.created)
    (hstate : s'.connState = Function.update s.connState id c)
    (hpending : s'.PendingCmds =
      s.PendingCmds + ((c.lastPendingCmds : Int) - (s.connState id).lastPendingCmds)) :
    PendingInv s' :=
  (h.setConn hid hc s'.PendingCmds hpending).of_eq hconns hstate hcreated rfl

/-- A phase change that keeps a connection before `close`, or after it, keeps the
invariant. -/
theorem PendingInv.setPhase
    (h : PendingInv s)
    {id : Nat}
    (hid : id ∈ s.created)
    {phase : RunPhase}
    (hside : phase.afterClose = (s.connState id).phase.afterClose) :
    PendingInv (s.setConn id { s.connState id with phase := phase }) := by
  have hwf := h.wellFormed id
  exact h.setConn hid (c := { s.connState id with phase := phase })
    ⟨hwf.handed_eq, ConnState.reported_setPhase hside hwf.reported⟩ s.PendingCmds (by simp)

/-- `ExecuteCmd` keeps the invariant: the new report is the list's length. -/
theorem PendingInv.ExecuteCmd
    (h : PendingInv s)
    {id : Nat}
    (hid : id ∈ s.created)
    (command : Command) :
    PendingInv (s.ExecuteCmd id command) := by
  have hwf := h.wellFormed id
  have hc : ({ s.connState id with
      cmdList := command :: (s.connState id).cmdList
      handed := (s.connState id).handed ++ [command]
      lastPendingCmds := (s.connState id).cmdList.length + 1 } : ConnState).WellFormed := by
    refine ⟨by simp [hwf.handed_eq], ?_⟩
    unfold ConnState.Reported
    split <;> simp
  refine h.of_update hid hc (s.ExecuteCmd id command) rfl rfl ?_ ?_
  · simp [ReplaySys.ExecuteCmd, updatePendingCmds_eq]
  · simp [ReplaySys.ExecuteCmd, updatePendingCmds_eq]

/-- `Run` taking its oldest command, or finding the list empty, keeps the invariant. -/
theorem PendingInv.take
    (h : PendingInv s)
    {id : Nat}
    (hid : id ∈ s.created)
    (hrun : s.phaseOf id = .running) :
    PendingInv (s.take id) := by
  have hwf := h.wellFormed id
  cases hlast : (s.connState id).cmdList.getLast? with
  | some command =>
      -- the list is its front part and the command taken
      have hsplit := List.dropLast_append_getLast? command hlast
      have hlen : (s.connState id).cmdList.length =
          (s.connState id).cmdList.dropLast.length + 1 := by
        conv_lhs => rw [← hsplit]
        simp
      have hc : ({ s.connState id with
          cmdList := (s.connState id).cmdList.dropLast
          taken := (s.connState id).taken ++ [command]
          phase := .executing command
          lastPendingCmds := (s.connState id).cmdList.length } : ConnState).WellFormed := by
        refine ⟨?_, ?_⟩
        · rw [hwf.handed_eq]
          conv_lhs => rw [← hsplit]
          simp
        · simp only [ConnState.Reported, RunPhase.afterClose, Bool.false_eq_true, if_false]
          omega
      refine h.of_update hid hc (s.take id) ?_ ?_ ?_ ?_
      · simp [ReplaySys.take, hlast, updatePendingCmds_eq]
      · simp [ReplaySys.take, hlast, updatePendingCmds_eq]
      · simp [ReplaySys.take, hlast, updatePendingCmds_eq]
      · simp [ReplaySys.take, hlast, updatePendingCmds_eq]
  | none =>
      have hnil : (s.connState id).cmdList = [] := List.getLast?_eq_none_iff.mp hlast
      simp only [phaseOf] at hrun
      -- `Run` returns once `cmdCh` is closed, and waits for the next command otherwise
      have hc : ({ s.connState id with
          lastPendingCmds := 0
          phase := if s.cmdChClosed then .returned else .running } : ConnState).WellFormed := by
        refine ⟨hwf.handed_eq, ?_⟩
        split <;> simp [ConnState.Reported, hnil]
      refine h.of_update hid hc (s.take id) ?_ ?_ ?_ ?_
      · by_cases hclosed : s.cmdChClosed <;>
          simp [ReplaySys.take, hlast, updatePendingCmds_eq, hclosed]
      · by_cases hclosed : s.cmdChClosed <;>
          simp [ReplaySys.take, hlast, updatePendingCmds_eq, hclosed]
      · by_cases hclosed : s.cmdChClosed <;>
          simp [ReplaySys.take, hnil, updatePendingCmds_eq, Function.update_idem,
            hclosed, ← hrun]
      · by_cases hclosed : s.cmdChClosed <;>
          simp [ReplaySys.take, hnil, updatePendingCmds_eq, hclosed]

/-- The first section of `close` keeps the invariant: the report becomes 0. -/
theorem PendingInv.closeReset
    (h : PendingInv s)
    {id : Nat}
    (hid : id ∈ s.created) :
    PendingInv (s.closeReset id) := by
  have hwf := h.wellFormed id
  have hc : ({ s.connState id with lastPendingCmds := 0, phase := .closing } : ConnState).WellFormed :=
    ⟨hwf.handed_eq, by simp [ConnState.Reported, RunPhase.afterClose]⟩
  refine h.of_update hid hc (s.closeReset id) ?_ ?_ ?_ ?_
  · simp [ReplaySys.closeReset, updatePendingCmds_eq]
  · simp [ReplaySys.closeReset, updatePendingCmds_eq]
  · simp [ReplaySys.closeReset, updatePendingCmds_eq, Function.update_idem]
  · simp [ReplaySys.closeReset, updatePendingCmds_eq]

/-- Starting the connection of a new connection ID keeps the invariant. -/
theorem PendingInv.create
    (h : PendingInv s)
    {id : Nat}
    (habsent : s.conns id = .absent) :
    PendingInv { s with
      conns := Function.update s.conns id .live
      connState := Function.update s.connState id ConnState.fresh
      created := s.created ++ [id]
      connCount := s.connCount + 1 } := by
  have hnew : id ∉ s.created := fun hmem => (h.mem_created id).mp hmem habsent
  -- the new connection is the fresh one it already was
  have hstate : Function.update s.connState id ConnState.fresh = s.connState := by
    rw [← h.fresh_of_absent id habsent, Function.update_eq_self]
  refine ⟨?_, ?_, ?_, ?_, ?_⟩
  · exact List.nodup_append.mpr ⟨h.created_nodup, List.nodup_singleton id,
      fun a ha b hb hab => hnew (by simp at hb; subst hb; subst hab; exact ha)⟩
  · intro x
    by_cases hx : x = id
    · subst hx
      simp
    · simp [hx, h.mem_created x]
  · intro x hx
    by_cases hxid : x = id
    · subst hxid
      simp at hx
    · simp only [hstate]
      exact h.fresh_of_absent x (by simpa [hxid] using hx)
  · simp only [pendingSum, hstate, List.map_append, List.sum_append, h.pending_sum]
    simp [h.fresh_of_absent id habsent, ConnState.fresh]
  · intro x
    simp only [hstate]
    exact h.wellFormed x

/-- `closeConn` keeps the invariant: a `nil` entry is still a started connection. -/
theorem PendingInv.closeConn
    (h : PendingInv s)
    (id : Nat) :
    PendingInv (s.closeConn id) := by
  unfold ReplaySys.closeConn
  split
  · rename_i hlive
    refine ⟨h.created_nodup, ?_, ?_, h.pending_sum, h.wellFormed⟩
    · intro x
      by_cases hx : x = id
      · subst hx
        simp [(h.mem_created x).mpr (by simp [hlive])]
      · simp [hx, h.mem_created x]
    · intro x hx
      by_cases hxid : x = id
      · subst hxid
        simp at hx
      · exact h.fresh_of_absent x (by simpa [hxid] using hx)
  · exact h

/-- `replay.executeCmd` keeps the invariant. -/
theorem PendingInv.executeCmd
    (h : PendingInv s)
    (command : Command) :
    PendingInv (s.executeCmd command) := by
  unfold ReplaySys.executeCmd
  by_cases habsent : s.conns command.ConnID = .absent
  · have hc := h.create habsent
    simp only [habsent, if_true, Function.update_self]
    exact hc.ExecuteCmd (show command.ConnID ∈ _ by simp) command
  · simp only [habsent, if_false]
    split
    · exact h.ExecuteCmd ((h.mem_created _).mpr habsent) command
    · exact h

/-- Executing a taken command keeps the invariant: the connection goes on or returns,
before `close` either way. -/
theorem PendingInv.execute
    (h : PendingInv s)
    (readonly : Bool)
    {id : Nat}
    {command : Command}
    (hphase : s.phaseOf id = .executing command)
    (disconnect : Bool) :
    PendingInv (s.execute readonly id command disconnect) := by
  have hid := h.mem_created_of_phase (show s.phaseOf id ≠ .connecting by simp [hphase])
  have hside : ∀ phase : RunPhase, phase = .running ∨ phase = .returned →
      phase.afterClose = (s.connState id).phase.afterClose := by
    simp only [phaseOf] at hphase
    rintro phase (rfl | rfl) <;> simp [hphase, RunPhase.afterClose]
  unfold ReplaySys.execute
  split
  · exact (h.setPhase hid (hside .running (Or.inl rfl))).of_eq rfl rfl rfl rfl
  · split
    · exact h.setPhase hid (hside .returned (Or.inr rfl))
    · have hquit : (if command.isQuit then RunPhase.returned else .running) = .running ∨
          (if command.isQuit then RunPhase.returned else .running) = .returned := by
        split <;> simp
      exact (h.setPhase hid (hside _ hquit)).of_eq rfl rfl rfl rfl

end Step

/-! ### Every reachable state -/

theorem pendingInv_init
    (stream : List Command) :
    PendingInv (ReplaySys.init stream) where
  created_nodup := List.nodup_nil
  mem_created := by simp [ReplaySys.init]
  fresh_of_absent := fun _ _ => rfl
  pending_sum := rfl
  wellFormed := fun _ => wellFormed_fresh

/-- Every action keeps the invariant. -/
theorem pendingInv_step
    (readonly : Bool)
    (abortThreshold : Int)
    {s s' : ReplaySys}
    (h : PendingInv s)
    {a : Action}
    (hstep : replayStep readonly abortThreshold s a = some s') :
    PendingInv s' := by
  cases a with
  | closeEvent =>
      simp only [replayStep] at hstep
      split at hstep
      · cases hstep
      · cases hstep
      · cases hstep
        refine PendingInv.closeConn ?_ _
        exact h.of_eq rfl rfl rfl rfl
  | decode =>
      simp only [replayStep] at hstep
      split at hstep
      · cases hstep
        exact h.of_eq rfl rfl rfl rfl
      · split at hstep
        · cases hstep
          exact h.of_eq rfl rfl rfl rfl
        · cases hstep
          refine PendingInv.executeCmd ?_ _
          exact h.of_eq rfl rfl rfl rfl
      · cases hstep
  | stop =>
      simp only [replayStep] at hstep
      split at hstep
      · cases hstep
        exact h.of_eq rfl rfl rfl rfl
      · cases hstep
  | connect id ok =>
      simp only [replayStep] at hstep
      split at hstep
      · rename_i hguard
        cases hstep
        apply h.setPhase hguard.1
        simp only [phaseOf] at hguard
        rw [hguard.2]
        split <;> rfl
      · cases hstep
  | take id =>
      simp only [replayStep] at hstep
      split at hstep
      · rename_i hguard
        cases hstep
        exact h.take hguard.1 hguard.2
      · cases hstep
  | execute id disconnect =>
      simp only [replayStep] at hstep
      split at hstep
      · rename_i command hphase
        cases hstep
        exact h.execute readonly hphase disconnect
      · cases hstep
  | closeReset id =>
      simp only [replayStep] at hstep
      split at hstep
      · rename_i hphase
        cases hstep
        exact h.closeReset (h.mem_created_of_phase (show s.phaseOf id ≠ .connecting by simp [hphase]))
      · cases hstep
  | closeSend id =>
      simp only [replayStep] at hstep
      split at hstep
      · rename_i hphase
        cases hstep
        have hid := h.mem_created_of_phase (show s.phaseOf id ≠ .connecting by simp [hphase])
        have h' : PendingInv { s with closeCh := s.closeCh ++ [id] } := h.of_eq rfl rfl rfl rfl
        exact h'.setPhase hid (by simp only [phaseOf] at hphase; simp [hphase, RunPhase.afterClose])
      · cases hstep

/-- `PendingInv` holds in every reachable state. -/
theorem pendingInv_reachable
    {readonly : Bool}
    {abortThreshold : Int}
    {stream : List Command}
    {s : ReplaySys}
    (hs : ReplayReachable readonly abortThreshold stream s) :
    PendingInv s := by
  have hinv : Transition.Inductive (Transition.OfFn (replayStep readonly abortThreshold))
      (fun s => s = ReplaySys.init stream) PendingInv :=
    ⟨fun s hs => hs ▸ pendingInv_init stream,
      fun _ _ h ⟨_, hstep⟩ => pendingInv_step readonly abortThreshold h hstep⟩
  exact hinv.holds hs


/-- A replay that has dispatched three commands to two connections: the first
connection has taken and executed one and holds the other, the second is still
connecting with its command queued.  `PendingCmds` is 3, the sum of the last counts the
two reported: the first reported 2 when it was handed its second command, and `Run`
reports the length of the list before it takes a command out, 2 again. -/
theorem pendingInv_reachable_dispatched :
    ∃ s, ReplayReachable false 1000 [⟨1, false, true⟩, ⟨2, false, true⟩, ⟨1, false, true⟩] s ∧
      s.PendingCmds = 3 ∧ PendingInv s := by
  obtain ⟨s, hrun⟩ : ∃ s, Transition.runActions (replayStep false 1000)
      (ReplaySys.init [⟨1, false, true⟩, ⟨2, false, true⟩, ⟨1, false, true⟩])
      [.decode, .connect 1 true, .decode, .decode, .take 1, .execute 1 false] = some s :=
    ⟨_, rfl⟩
  have hpending : (Transition.runActions (replayStep false 1000)
      (ReplaySys.init [⟨1, false, true⟩, ⟨2, false, true⟩, ⟨1, false, true⟩])
      [.decode, .connect 1 true, .decode, .decode, .take 1, .execute 1 false]).map
      ReplaySys.PendingCmds = some 3 := by
    decide
  rw [hrun, Option.map_some, Option.some.injEq] at hpending
  have hs : ReplayReachable false 1000 [⟨1, false, true⟩, ⟨2, false, true⟩, ⟨1, false, true⟩] s :=
    Transition.Reachable.of_runActions _ (Transition.Reachable.of_init rfl) hrun
  exact ⟨s, hs, hpending, pendingInv_reachable hs⟩

/-! ### A command handed to a connection after its close -/

/-- Whether `Run` has not returned, so the connection still takes commands. -/
def RunPhase.alive : RunPhase → Bool
  | .connecting | .running | .executing _ => true
  | _ => false

/-- The command taken and not yet executed. -/
def RunPhase.inFlight : RunPhase → Nat
  | .executing _ => 1
  | _ => 0

/-- The commands handed to connections that are neither executed, filtered nor
discarded: queued at, or in flight in, a connection whose `Run` has not returned. -/
def ReplaySys.undelivered
    (s : ReplaySys) : Nat :=
  (s.created.map (fun id =>
    if (s.connState id).phase.alive then
      (s.connState id).cmdList.length + (s.connState id).phase.inFlight
    else 0)).sum

/-- A replay of `COM_QUIT` and a second command of the same connection.  The
connection executes `COM_QUIT`, returns and reports 0 in `close`; the reader decodes
the second command before the close event arrives and hands it to the connection,
which reports 1 and never takes it.  The replay stops with `PendingCmds = 1` and no
command undelivered. -/
theorem pendingCmds_leak :
    ∃ s, ReplayReachable false 1000 [⟨1, true, true⟩, ⟨1, false, true⟩] s ∧
      s.reader = .stopped ∧ s.PendingCmds = 1 ∧ s.undelivered = 0 := by
  obtain ⟨s, hrun⟩ : ∃ s, Transition.runActions (replayStep false 1000)
      (ReplaySys.init [⟨1, true, true⟩, ⟨1, false, true⟩])
      [.decode, .connect 1 true, .take 1, .execute 1 false, .closeReset 1, .decode, .closeSend 1,
        .closeEvent, .decode, .stop] = some s :=
    ⟨_, rfl⟩
  have hend : (Transition.runActions (replayStep false 1000)
      (ReplaySys.init [⟨1, true, true⟩, ⟨1, false, true⟩])
      [.decode, .connect 1 true, .take 1, .execute 1 false, .closeReset 1, .decode, .closeSend 1,
        .closeEvent, .decode, .stop]).map (fun s => (s.reader, s.PendingCmds, s.undelivered)) =
      some (.stopped, 1, 0) := by
    decide
  rw [hrun, Option.map_some, Option.some.injEq, Prod.mk.injEq, Prod.mk.injEq] at hend
  exact ⟨s, Transition.Reachable.of_runActions _ (Transition.Reachable.of_init rfl) hrun, hend⟩

end Replay
end TiProxy
