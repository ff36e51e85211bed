import TiProxy.Capture.Pipeline

/-!
# Capture: what a connection's traffic looks like

For one connection, the commands a capture records are at most one initialisation
command (`COM_INIT_DB` from `InitConn`, or the `SET SESSION_STATES` statement of
`initSession`), then a contiguous run of the connection's requests in the order it
made them, with sensitive queries dropped and `COM_CHANGE_USER` recorded as
`COM_RESET_CONNECTION`, then at most one `COM_QUIT`.  `ConnShape` says so, over the
requests of the connection's program; `capturedRequest` is what a request is
recorded as.

The shape holds of the accepted commands in every reachable state, whatever the
interleaving, by a per-connection invariant: while the capture runs, a connection
is fresh (not in `conns`, nothing recorded), inited (in `conns`, no `COM_QUIT`
recorded) or quit (not in `conns`, its `COM_QUIT` recorded, and nothing but
`Close`'s `COM_QUIT` left to call).  While it is inited and the capture runs, every
request it completed since its initialisation was recorded, so what it recorded ends
with the requests made so far.  `Capture` reads `inited` and puts the request in two
sections, and only its own connection or a stop changes the connection's entry in
between; a stop freezes everything.

**Results.**
* `ShapeOf.prefix_closed`: a prefix of a recorded sequence of that shape has the shape.
* `connInv_holds`: the per-connection invariant holds in every reachable state.
* `captureShape_written`: the traffic files hold, for each connection, its init
  statement or `COM_INIT_DB`, then a contiguous run of its requests, then its
  `COM_QUIT`, each part possibly cut short; after a run with no failure the meta
  file counts exactly the accepted commands.
* `written_prefix_accepted`: the files hold a prefix of the accepted commands.
-/

namespace TiProxy
namespace Capture

open Net TiProxy.Lex CaptureSys

/-- What a request of connection `id` is recorded as when the connection is inited:
nothing for an empty packet, a `COM_QUIT` (recorded as the last command instead) or
a sensitive query, `COM_RESET_CONNECTION` for `COM_CHANGE_USER`, and the request
itself otherwise. -/
def capturedRequest
    (id : Nat) : List UInt8 → Option Command
  | [] => none
  | type :: rest =>
      if type = ComQuit then none
      else if type = ComChangeUser then some ⟨id, ComResetConnection, [ComResetConnection]⟩
      else if type = ComQuery ∧ IsSensitiveSQL rest then none
      else some ⟨id, type, type :: rest⟩

/-- What a call records as a request. -/
def Call.captured
    (id : Nat) : Call → Option Command
  | .initConn _ => none
  | .capture packet _ => capturedRequest id packet

/-- An initialisation command of connection `id`: `COM_INIT_DB` of the database it
connected with, or the statement restoring its session states. -/
def IsInitCommand
    (p : ConnProgram)
    (id : Nat)
    (c : Command) : Prop :=
  (∃ db, p.db = some db ∧ db ≠ [] ∧ c = ⟨id, ComInitDB, ComInitDB :: db⟩) ∨
    (∃ sessionStates, c = ⟨id, ComQuery, ComQuery :: initForCapture sessionStates⟩)

/-- A `COM_QUIT` of connection `id`. -/
def IsQuitCommand
    (id : Nat)
    (c : Command) : Prop :=
  ∃ rest, c = ⟨id, ComQuit, ComQuit :: rest⟩

/-- `rec` is `pre ++ mid ++ post`: at most one initialisation command, a contiguous run
of the recorded forms `reqs` of the requests, in their order, and at most one
`COM_QUIT`. -/
structure Recorded
    (p : ConnProgram)
    (id : Nat)
    (reqs rec pre mid post : List Command) : Prop where
  eq : rec = pre ++ mid ++ post
  pre_length : pre.length ≤ 1
  pre_init : ∀ c ∈ pre, IsInitCommand p id c
  mid_contiguous : mid <:+: reqs
  post_length : post.length ≤ 1
  post_quit : ∀ c ∈ post, IsQuitCommand id c

/-- The shape of what a connection recorded, over the recorded forms `reqs` of its
requests. -/
def ShapeOf
    (p : ConnProgram)
    (id : Nat)
    (reqs rec : List Command) : Prop :=
  ∃ pre mid post, Recorded p id reqs rec pre mid post

/-- The shape of what connection `id` recorded, over all its requests. -/
def ConnShape
    (p : ConnProgram)
    (id : Nat)
    (rec : List Command) : Prop :=
  ShapeOf p id (p.requests.filterMap (capturedRequest id)) rec

/-- A prefix of a sequence of the shape has the shape: the traffic files hold a
prefix of what was accepted. -/
theorem ShapeOf.prefix_closed
    {p : ConnProgram}
    {id : Nat}
    {reqs rec rec' : List Command}
    (hs : ShapeOf p id reqs rec)
    (hpre : rec' <+: rec) :
    ShapeOf p id reqs rec' := by
  obtain ⟨pre, mid, post, hr⟩ := hs
  have htake : rec' = rec.take rec'.length := List.prefix_iff_eq_take.mp hpre
  rw [hr.eq, List.append_assoc, List.take_append, List.take_append] at htake
  refine ⟨pre.take rec'.length, mid.take (rec'.length - pre.length),
    post.take (rec'.length - pre.length - mid.length),
    ⟨htake.trans (List.append_assoc _ _ _).symm, ?_, ?_, ?_, ?_, ?_⟩⟩
  · exact (List.length_take_le' _ _).trans hr.pre_length
  · exact fun c hc => hr.pre_init c (List.mem_of_mem_take hc)
  · exact (List.take_prefix _ _).isInfix.trans hr.mid_contiguous
  · exact (List.length_take_le' _ _).trans hr.post_length
  · exact fun c hc => hr.post_quit c (List.mem_of_mem_take hc)

/-- More requests made, the same shape. -/
theorem ShapeOf.mono
    {p : ConnProgram}
    {id : Nat}
    {reqs reqs' rec : List Command}
    (hs : ShapeOf p id reqs rec)
    (hsub : reqs <:+: reqs') :
    ShapeOf p id reqs' rec := by
  obtain ⟨pre, mid, post, hr⟩ := hs
  exact ⟨pre, mid, post, ⟨hr.eq, hr.pre_length, hr.pre_init, hr.mid_contiguous.trans hsub,
    hr.post_length, hr.post_quit⟩⟩

/-! ### A connection's program -/

namespace ConnProgram

variable (p : ConnProgram)

/-- The requests' recorded forms are those of the calls: `InitConn` and `Close`'s
`COM_QUIT` record none. -/
theorem calls_filterMap_captured
    (id : Nat) :
    p.calls.filterMap (Call.captured id) = p.requests.filterMap (capturedRequest id) := by
  unfold calls
  rw [List.filterMap_append, List.filterMap_append, List.filterMap_map]
  have hdb : (p.db.map Call.initConn).toList.filterMap (Call.captured id) = [] := by
    cases p.db <;> rfl
  have hclose : (if p.closes then [closeCall] else []).filterMap (Call.captured id) = [] := by
    split <;> rfl
  rw [hdb, hclose, List.nil_append, List.append_nil]
  rfl

/-- Only the first call can be `InitConn`, with the program's database. -/
theorem initConn_of_getElem?
    {k : Nat}
    {db : List UInt8}
    (h : p.calls[k]? = some (.initConn db)) :
    k = 0 ∧ p.db = some db := by
  unfold calls at h
  rw [List.append_assoc] at h
  cases hdb : p.db with
  | none =>
      rw [hdb] at h
      have hmem := List.mem_of_getElem? h
      simp [closeCall] at hmem
  | some db' =>
      rw [hdb] at h
      cases k with
      | zero =>
          simp at h
          exact ⟨rfl, by rw [h]⟩
      | succ k =>
          simp only [Option.map_some, Option.toList_some, List.cons_append, List.nil_append,
            List.getElem?_cons_succ] at h
          have hmem := List.mem_of_getElem? h
          simp [closeCall] at hmem

/-- After a call whose packet is a `COM_QUIT`, only `Close`'s `COM_QUIT` is left: such
a request is the last one, as the client loop ends with it. -/
theorem drop_closeCall_of_quit
    {k : Nat}
    {packet : List UInt8}
    {initSession : Bool}
    (h : p.calls[k]? = some (.capture packet initSession))
    (hquit : packet.head? = some ComQuit) :
    ∀ c ∈ p.calls.drop (k + 1), c = closeCall := by
  unfold calls at h ⊢
  rw [List.append_assoc] at h ⊢
  -- the call is not InitConn, so it lies past the first segment
  have hk : ((p.db.map Call.initConn).toList).length ≤ k := by
    by_contra hlt
    rw [List.getElem?_append_left (by omega)] at h
    have hmem := List.mem_of_getElem? h
    cases hdb : p.db <;> simp [hdb] at hmem
  obtain ⟨j, rfl⟩ := Nat.exists_eq_add_of_le hk
  rw [List.getElem?_append_right (by omega), Nat.add_sub_cancel_left] at h
  rw [Nat.add_assoc, List.drop_append, List.drop_eq_nil_of_le (by omega), List.nil_append,
    Nat.add_sub_cancel_left, List.drop_append]
  -- the requests are all behind it: it is the last request or Close's call
  have hreq : (p.requests.map (fun r => Call.capture r true)).drop (j + 1) = [] := by
    rw [List.drop_eq_nil_iff, List.length_map]
    by_contra hlt
    rw [List.getElem?_append_left (by simp; omega), List.getElem?_map] at h
    obtain ⟨r, hr, hcall⟩ := Option.map_eq_some_iff.mp h
    cases hcall
    have hmem : packet ∈ p.requests.dropLast := by
      rw [List.dropLast_eq_take]
      exact List.mem_of_getElem? (by rw [List.getElem?_take_of_lt (show j < p.requests.length - 1 by omega)]; exact hr)
    exact p.quit_last packet hmem hquit
  rw [hreq, List.nil_append]
  intro c hc
  have hc := List.mem_of_mem_drop hc
  split at hc <;> simp_all

/-- The request recorded by a call at a position. -/
theorem take_succ_filterMap_captured
    (id : Nat)
    {k : Nat}
    {call : Call}
    (h : p.calls[k]? = some call) :
    (p.calls.take (k + 1)).filterMap (Call.captured id) =
      (p.calls.take k).filterMap (Call.captured id) ++ (call.captured id).toList := by
  rw [List.take_add_one, h, List.filterMap_append]
  cases hc : call.captured id <;> simp [hc]

end ConnProgram

/-! ### One connection as the invariant sees it -/

/-- The commands connection `id` had accepted into `cmdCh`. -/
def recorded
    (s : CaptureSys)
    (id : Nat) : List Command :=
  s.accepted.filter (fun c => c.ConnID = id)

/-- What the per-connection invariant reads of the job: whether the capture runs,
whether the connection is in `conns`, what it recorded, and where it is. -/
structure ConnView where
  status : Status
  inited : Bool
  accepted : List Command
  pc : Nat
  phase : CallPhase

/-- The view of connection `id`. -/
def connView
    (s : CaptureSys)
    (id : Nat) : ConnView :=
  ⟨s.status, s.conns id, recorded s id, (s.conn id).pc, (s.conn id).phase⟩

/-- Where a connection is while the capture runs, given the `COM_QUIT` part `post` of
what it recorded: fresh, inited or quit between calls; fresh while it calls
`initSession`; inited when it puts a request; and fresh before its first call. -/
structure ConnView.Stage
    (p : ConnProgram)
    (v : ConnView)
    (post : List Command) : Prop where
  initing : v.phase = .initing → v.inited = false ∧ v.accepted = []
  putting : v.phase = .putting → v.inited = true ∧ post = []
  ready : v.phase = .ready →
    (v.inited = true ∧ post = []) ∨ (v.inited = false ∧ v.accepted = []) ∨
      (v.inited = false ∧ post ≠ [] ∧ ∀ c ∈ p.calls.drop v.pc, c = closeCall)
  first : v.pc = 0 → v.phase = .ready → v.inited = false ∧ v.accepted = []

/-- The per-connection invariant: what the connection recorded has the shape, over
the calls it completed; while the capture runs the connection is at a `Stage`, and while
it is also inited its recorded requests end with those of the calls it completed. -/
def ConnView.Inv
    (p : ConnProgram)
    (id : Nat)
    (v : ConnView) : Prop :=
  ∃ pre mid post, Recorded p id ((p.calls.take v.pc).filterMap (Call.captured id)) v.accepted pre mid post ∧
    (v.status = .running → v.Stage p post) ∧
    (v.status = .running → v.inited = true → mid <:+ (p.calls.take v.pc).filterMap (Call.captured id))

/-- More calls completed, the same recorded shape. -/
theorem Recorded.mono_pc
    {p : ConnProgram}
    {id : Nat}
    {k k' : Nat}
    {rec pre mid post : List Command}
    (hr : Recorded p id ((p.calls.take k).filterMap (Call.captured id)) rec pre mid post)
    (hk : k ≤ k') :
    Recorded p id ((p.calls.take k').filterMap (Call.captured id)) rec pre mid post :=
  ⟨hr.eq, hr.pre_length, hr.pre_init,
    hr.mid_contiguous.trans ((List.take_prefix_take_left hk).filterMap _).isInfix, hr.post_length,
    hr.post_quit⟩

namespace ConnView

variable {p : ConnProgram} {id : Nat} {v : ConnView}

/-- Once the capture is stopping, a connection records nothing more; its calls go on. -/
theorem Inv.stopped
    {v' : ConnView}
    (hv : v.Inv p id)
    (hrec : v'.accepted = v.accepted)
    (hpc : v.pc ≤ v'.pc)
    (hstop : v'.status ≠ .running) :
    v'.Inv p id := by
  obtain ⟨pre, mid, post, hr, -, -⟩ := hv
  exact ⟨pre, mid, post, hrec ▸ hr.mono_pc hpc, fun h => absurd h hstop, fun h => absurd h hstop⟩

/-- A call that returns without recording, and without changing `conns` while the
capture runs. -/
theorem Inv.skip
    (hv : v.Inv p id)
    (hready : v.phase = .ready)
    (hfresh : v.status = .running → v.inited = false) :
    ({ v with pc := v.pc + 1, phase := .ready } : ConnView).Inv p id := by
  obtain ⟨pre, mid, post, hr, hst, -⟩ := hv
  refine ⟨pre, mid, post, hr.mono_pc (Nat.le_succ _), fun hrun => ?_, fun hrun hinit => ?_⟩
  · have st := hst hrun
    refine ⟨fun h => by simp at h, fun h => by simp at h, fun _ => ?_, fun h => by simp at h⟩
    rcases st.ready hready with ⟨hinit, -⟩ | hfresh' | ⟨hinit, hpost, hclose⟩
    · rw [hfresh hrun] at hinit
      cases hinit
    · exact .inr (.inl hfresh')
    · exact .inr (.inr ⟨hinit, hpost, fun c hc =>
        hclose c ((List.drop_sublist_drop_left _ (Nat.le_succ _)).subset hc)⟩)
  · -- a call that records nothing is made by a connection that is not inited
    rw [hfresh hrun] at hinit
    cases hinit

/-- `Capture` of an inited connection goes on to put its request. -/
theorem Inv.toPutting
    (hv : v.Inv p id)
    (hready : v.phase = .ready)
    (hinited : v.inited = true) :
    ({ v with phase := .putting } : ConnView).Inv p id := by
  obtain ⟨pre, mid, post, hr, hst, hsuf⟩ := hv
  refine ⟨pre, mid, post, hr, fun hrun => ?_, hsuf⟩
  have st := hst hrun
  refine ⟨fun h => by simp at h, fun _ => ⟨hinited, ?_⟩, fun h => by simp at h,
    fun _ h => by simp at h⟩
  rcases st.ready hready with ⟨-, hpost⟩ | ⟨hinit, -⟩ | ⟨hinit, -⟩
  · exact hpost
  all_goals
    rw [hinited] at hinit
    cases hinit

/-- A call at position `k` is the head of the calls from `k`. -/
theorem mem_drop_of_getElem?
    {k : Nat}
    {call : Call}
    (h : p.calls[k]? = some call) :
    call ∈ p.calls.drop k :=
  List.mem_of_getElem? (i := 0) (by rw [List.getElem?_drop, Nat.add_zero]; exact h)

/-- `Capture` of a fresh connection with a request calls `initSession`; a quit
connection has only `Close`'s call left, which has no `initSession`. -/
theorem Inv.toIniting
    {packet : List UInt8}
    (hv : v.Inv p id)
    (hready : v.phase = .ready)
    (hfresh : v.inited = false)
    (hcall : p.calls[v.pc]? = some (.capture packet true)) :
    ({ v with phase := .initing } : ConnView).Inv p id := by
  obtain ⟨pre, mid, post, hr, hst, hsuf⟩ := hv
  refine ⟨pre, mid, post, hr, fun hrun => ?_, hsuf⟩
  have st := hst hrun
  refine ⟨fun _ => ⟨hfresh, ?_⟩, fun h => by simp at h, fun h => by simp at h,
    fun _ h => by simp at h⟩
  rcases st.ready hready with ⟨hinit, -⟩ | ⟨-, hnil⟩ | ⟨-, -, hclose⟩
  · rw [hfresh] at hinit
    cases hinit
  · exact hnil
  · have := hclose _ (mem_drop_of_getElem? hcall)
    simp [closeCall] at this

/-- `initSession` failed: `Capture` returns, the connection still fresh. -/
theorem Inv.initFailed
    (hv : v.Inv p id)
    (hiniting : v.phase = .initing) :
    ({ v with pc := v.pc + 1, phase := .ready } : ConnView).Inv p id := by
  obtain ⟨pre, mid, post, hr, hst, -⟩ := hv
  refine ⟨pre, mid, post, hr.mono_pc (Nat.le_succ _), fun hrun => ?_, fun hrun hinit => ?_⟩
  · have st := hst hrun
    exact ⟨fun h => by simp at h, fun h => by simp at h,
      fun _ => .inr (.inl (st.initing hiniting)), fun h => by simp at h⟩
  · -- the connection was fresh while it called `initSession`
    rw [((hst hrun).initing hiniting).1] at hinit
    cases hinit

/-- The statement of `initSession` was accepted: the connection is inited, with it
as its first command. -/
theorem Inv.inited
    {c : Command}
    (hv : v.Inv p id)
    (hrun : v.status = .running)
    (hiniting : v.phase = .initing)
    (hc : IsInitCommand p id c) :
    ({ v with accepted := v.accepted ++ [c], inited := true, phase := .putting } : ConnView).Inv p id := by
  obtain ⟨_, _, _, hr, hst, -⟩ := hv
  have hnil := ((hst hrun).initing hiniting).2
  refine ⟨[c], [], [], ⟨by simp [hnil], by simp, by simpa using hc, List.nil_infix, by simp,
    by simp⟩, fun _ => ?_, fun _ _ => List.nil_suffix⟩
  exact ⟨fun h => by simp at h, fun _ => ⟨rfl, rfl⟩, fun h => by simp at h, fun _ h => by simp at h⟩

/-- `InitConn`: the connection's first call makes it inited, with at most its
`COM_INIT_DB` recorded. -/
theorem Inv.initConn
    {db : List UInt8}
    {L : List Command}
    (hv : v.Inv p id)
    (hrun : v.status = .running)
    (hready : v.phase = .ready)
    (hcall : p.calls[v.pc]? = some (.initConn db))
    (hlen : L.length ≤ 1)
    (hL : ∀ c ∈ L, IsInitCommand p id c) :
    ({ v with accepted := v.accepted ++ L, inited := true, pc := v.pc + 1, phase := .ready } :
      ConnView).Inv p id := by
  obtain ⟨_, _, _, -, hst, -⟩ := hv
  have hnil := ((hst hrun).first (p.initConn_of_getElem? hcall).1 hready).2
  refine ⟨L, [], [], ⟨by simp [hnil], hlen, hL, List.nil_infix, by simp, by simp⟩, fun _ => ?_,
    fun _ _ => List.nil_suffix⟩
  exact ⟨fun h => by simp at h, fun h => by simp at h, fun _ => .inl ⟨rfl, rfl⟩,
    fun h => by simp at h⟩

/-- An inited connection puts a request, and the capture goes on running: it records
the request's recorded form, right after the requests it recorded before. -/
theorem Inv.putRequest
    {call : Call}
    (hv : v.Inv p id)
    (hrun : v.status = .running)
    (hputting : v.phase = .putting)
    (hcall : p.calls[v.pc]? = some call) :
    ({ v with accepted := v.accepted ++ (call.captured id).toList, pc := v.pc + 1, phase := .ready } :
      ConnView).Inv p id := by
  obtain ⟨pre, mid, post, hr, hst, hsuf⟩ := hv
  obtain ⟨hinited, rfl⟩ := (hst hrun).putting hputting
  -- the recorded requests so far end with those of the completed calls, and both grow
  -- by the same recorded form
  have hsuf' : mid ++ (call.captured id).toList <:+
      (p.calls.take (v.pc + 1)).filterMap (Call.captured id) := by
    obtain ⟨t, ht⟩ := hsuf hrun hinited
    rw [p.take_succ_filterMap_captured id hcall, ← ht, List.append_assoc]
    exact ⟨t, rfl⟩
  refine ⟨pre, mid ++ (call.captured id).toList, [],
    ⟨by simp [hr.eq], hr.pre_length, hr.pre_init, hsuf'.isInfix, by simp, by simp⟩,
    fun _ => ?_, fun _ _ => hsuf'⟩
  exact ⟨fun h => by simp at h, fun h => by simp at h, fun _ => .inl ⟨hinited, rfl⟩,
    fun h => by simp at h⟩

/-- An inited connection puts a `COM_QUIT`: it is recorded last, the connection
leaves `conns`, and only `Close`'s call is left. -/
theorem Inv.putQuit
    {packet : List UInt8}
    {initSession : Bool}
    {c : Command}
    (hv : v.Inv p id)
    (hrun : v.status = .running)
    (hputting : v.phase = .putting)
    (hcall : p.calls[v.pc]? = some (.capture packet initSession))
    (hquit : packet.head? = some ComQuit)
    (hc : IsQuitCommand id c) :
    ({ v with accepted := v.accepted ++ [c], inited := false, pc := v.pc + 1, phase := .ready } :
      ConnView).Inv p id := by
  obtain ⟨pre, mid, post, hr, hst, -⟩ := hv
  obtain ⟨-, rfl⟩ := (hst hrun).putting hputting
  refine ⟨pre, mid, [c], ⟨by simp [hr.eq], hr.pre_length, hr.pre_init,
    (hr.mono_pc (Nat.le_succ _)).mid_contiguous, by simp, by simpa using hc⟩, fun _ => ?_,
    fun _ hinit => by cases hinit⟩
  exact ⟨fun h => by simp at h, fun h => by simp at h,
    fun _ => .inr (.inr ⟨rfl, by simp, p.drop_closeCall_of_quit hcall hquit⟩), fun h => by simp at h⟩

/-- A step that leaves the connection as it is, or stops the capture. -/
theorem Inv.frame
    {v' : ConnView}
    (hv : v.Inv p id)
    (haccepted : v'.accepted = v.accepted)
    (hpc : v'.pc = v.pc)
    (hphase : v'.phase = v.phase)
    (hrun : v'.status = .running → v.status = .running ∧ v'.inited = v.inited) :
    v'.Inv p id := by
  by_cases hr : v'.status = .running
  · obtain ⟨hrun₀, hinited⟩ := hrun hr
    have hv' : v' = v := by
      cases v
      cases v'
      simp_all
    exact hv' ▸ hv
  · exact hv.stopped haccepted (le_of_eq hpc.symm) hr

end ConnView

/-! ### What the sections do to one connection -/

section Sections

variable (cfg : CaptureConfig)

theorem recorded_append_of_eq
    (s : CaptureSys)
    {c : Command}
    {id : Nat}
    (hc : c.ConnID = id) :
    (s.accepted ++ [c]).filter (fun x => x.ConnID = id) = recorded s id ++ [c] := by
  simp [recorded, List.filter_append, hc]

theorem recorded_append_of_ne
    (s : CaptureSys)
    {c : Command}
    {id : Nat}
    (hc : c.ConnID ≠ id) :
    (s.accepted ++ [c]).filter (fun x => x.ConnID = id) = recorded s id := by
  simp [recorded, List.filter_append, hc]

/-- The switch changes no status, accepted command or connection state. -/
theorem putSwitch_snd
    (s : CaptureSys)
    (c : Command) :
    (s.putSwitch c).2.status = s.status ∧ (s.putSwitch c).2.accepted = s.accepted ∧
      (s.putSwitch c).2.conn = s.conn := by
  unfold putSwitch
  split_ifs <;> simp

/-- The switch keeps the connection ID of the command. -/
theorem putSwitch_connID
    (s : CaptureSys)
    {c c' : Command}
    (h : (s.putSwitch c).1 = some c') :
    c'.ConnID = c.ConnID := by
  unfold putSwitch at h
  split_ifs at h <;> simp at h <;> rw [← h]

/-- The switch changes `conns` at its command's connection only. -/
theorem putSwitch_conns_ne
    (s : CaptureSys)
    {c : Command}
    {id : Nat}
    (hne : c.ConnID ≠ id) :
    (s.putSwitch c).2.conns id = s.conns id := by
  unfold putSwitch
  split_ifs <;> simp [Function.update_of_ne (Ne.symm hne)]

/-- The switch passes a command that is no `COM_QUIT`, no `COM_CHANGE_USER` and no
sensitive query unchanged. -/
theorem putSwitch_plain
    (s : CaptureSys)
    {c : Command}
    (hquit : c.type ≠ ComQuit)
    (hchange : c.type ≠ ComChangeUser)
    (hsensitive : ¬(c.type = ComQuery ∧ IsSensitiveSQL c.Payload.tail)) :
    s.putSwitch c = (some c, s) := by
  simp [putSwitch, hquit, hchange, hsensitive]

/-- The switch on a request that is not a `COM_QUIT` gives its recorded form. -/
theorem putSwitch_request
    (s : CaptureSys)
    {id : Nat}
    {type : UInt8}
    {rest : List UInt8}
    (hquit : type ≠ ComQuit) :
    (s.putSwitch ⟨id, type, type :: rest⟩).1 = capturedRequest id (type :: rest) ∧
      (s.putSwitch ⟨id, type, type :: rest⟩).2.conns = s.conns := by
  unfold putSwitch capturedRequest
  split_ifs <;> simp_all

/-- The switch on the `COM_QUIT` of an inited connection removes it from `conns`. -/
theorem putSwitch_quit
    (s : CaptureSys)
    {c : Command}
    (hquit : c.type = ComQuit)
    (hinited : s.conns c.ConnID = true) :
    s.putSwitch c = (some c, { s with conns := Function.update s.conns c.ConnID false }) := by
  simp [putSwitch, hquit, hinited]

/-- What `putCommand` does to the connection of its command while the capture runs:
it stops the capture and records nothing, or records what the switch passes. -/
theorem putCommand_own
    (s : CaptureSys)
    (c : Command)
    (hrun : s.status = .running) :
    ((s.putCommand cfg c).2.status = .stopping ∧
        recorded (s.putCommand cfg c).2 c.ConnID = recorded s c.ConnID) ∨
      ((s.putCommand cfg c).2.status = .running ∧
        recorded (s.putCommand cfg c).2 c.ConnID = recorded s c.ConnID ++ (s.putSwitch c).1.toList ∧
        (s.putCommand cfg c).2.conns = (s.putSwitch c).2.conns ∧
        (s.putCommand cfg c).1 = (s.putSwitch c).1.isSome) := by
  obtain ⟨hstatus, haccepted, -⟩ := putSwitch_snd s c
  have hconnID : ∀ c', (s.putSwitch c).1 = some c' → c'.ConnID = c.ConnID :=
    fun _ h => putSwitch_connID s h
  unfold putCommand
  simp only [hrun, ne_eq, not_true_eq_false, if_false]
  rcases hsw : s.putSwitch c with ⟨_ | c', s₁⟩ <;> rw [hsw] at hstatus haccepted hconnID <;>
    dsimp only at hstatus haccepted hconnID ⊢
  · exact .inr ⟨hstatus.trans hrun, by simp [recorded, haccepted], rfl, rfl⟩
  · have hid : c'.ConnID = c.ConnID := hconnID c' rfl
    unfold send
    split
    · refine .inr ⟨hstatus.trans hrun, ?_, rfl, rfl⟩
      simp only [recorded, Option.toList_some]
      rw [haccepted]
      exact recorded_append_of_eq s hid
    · obtain ⟨_, _, _, hstop⟩ := stopNoLock_eq_with s₁ (some errEncodingSlow)
      refine .inl ⟨by simp, ?_⟩
      simp [recorded, hstop, haccepted]

/-- `putCommand` changes no connection's state. -/
theorem putCommand_conn
    (s : CaptureSys)
    (c : Command) :
    (s.putCommand cfg c).2.conn = s.conn := by
  obtain ⟨-, -, hconn⟩ := putSwitch_snd s c
  unfold putCommand
  split
  · rfl
  · rcases hsw : s.putSwitch c with ⟨_ | c', s₁⟩ <;> rw [hsw] at hconn <;> dsimp only at hconn ⊢
    · exact hconn
    · unfold send
      split
      · exact hconn
      · obtain ⟨_, _, _, hstop⟩ := stopNoLock_eq_with s₁ (some errEncodingSlow)
        simp [hstop, hconn]

/-- A stopped capture ignores `putCommand`. -/
theorem putCommand_of_not_running
    (s : CaptureSys)
    (c : Command)
    (hrun : s.status ≠ .running) :
    s.putCommand cfg c = (false, s) := by
  simp [putCommand, hrun]

/-- The statement restoring the session states is not sensitive. -/
theorem isSensitiveSQL_initForCapture
    (sessionStates : List UInt8) :
    IsSensitiveSQL (initForCapture sessionStates) = false := by
  unfold initForCapture
  rw [List.append_assoc]
  exact isSensitiveSQL_setSessionStates _

theorem connView_finishCall
    (s : CaptureSys)
    (id : Nat) :
    connView (s.finishCall id) id =
      { connView s id with pc := (connView s id).pc + 1, phase := .ready } := by
  simp [connView, finishCall, setConn, recorded]

theorem connView_setPhase
    (s : CaptureSys)
    (id : Nat)
    (phase : CallPhase) :
    connView (s.setPhase id phase) id = { connView s id with phase := phase } := by
  simp [connView, setPhase, setConn, recorded]

/-- What the first section of `Capture` decides. -/
theorem captureCheck_spec
    (s : CaptureSys)
    (id : Nat)
    (packet : List UInt8)
    (initSession : Bool) :
    (s.captureCheck id packet initSession = .ready ∧ (s.status = .running → s.conns id = false)) ∨
      (s.captureCheck id packet initSession = .putting ∧ s.conns id = true) ∨
      (s.captureCheck id packet initSession = .initing ∧ s.conns id = false ∧ initSession = true) := by
  unfold captureCheck
  split_ifs <;> simp_all

end Sections

/-! ### The sections of the connection itself -/

section OwnSections

variable (cfg : CaptureConfig) (progs : Nat → ConnProgram)

/-- `InitConn` keeps the invariant of its connection. -/
theorem connInv_initConn
    {s : CaptureSys}
    {id : Nat}
    {db : List UInt8}
    (hready : (s.conn id).phase = .ready)
    (hcall : (progs id).calls[(s.conn id).pc]? = some (.initConn db))
    (hv : (connView s id).Inv (progs id) id) :
    (connView ((s.InitConn cfg id db).finishCall id) id).Inv (progs id) id := by
  rw [connView_finishCall]
  by_cases hrun : s.status = .running
  swap
  · -- a stopped capture ignores the call
    have h₁ : s.InitConn cfg id db = s := by simp [InitConn, hrun]
    rw [h₁]
    exact hv.skip hready (fun h => absurd h hrun)
  have hrun' : (connView s id).status = .running := hrun
  by_cases hdb : db = []
  · have h₁ : s.InitConn cfg id db = { s with conns := Function.update s.conns id true } := by
      rw [InitConn, if_neg (by simp [hrun]), if_pos hdb]
    have h := hv.initConn (L := []) hrun' hready hcall (by simp) (by simp)
    rw [h₁]
    convert h using 1
    simp [connView, recorded]
  · obtain ⟨c, hc⟩ : ∃ c : Command, c = ⟨id, ComInitDB, ComInitDB :: db⟩ := ⟨_, rfl⟩
    have hid : c.ConnID = id := by rw [hc]
    have h₁ : s.InitConn cfg id db =
        { (s.putCommand cfg c).2 with conns := Function.update (s.putCommand cfg c).2.conns id true } := by
      simp [InitConn, hrun, hdb, NewCommand, hc]
    have hconn := putCommand_conn cfg s c
    rw [h₁]
    rcases putCommand_own cfg s c hrun with ⟨hstop, hrec⟩ | ⟨hrun₁, hrec, -, -⟩
    · refine hv.stopped ?_ ?_ ?_
      · simpa [connView, recorded, hid] using hrec
      · simp [connView, hconn]
      · simp [connView, hstop]
    · have hsw : s.putSwitch c = (some c, s) :=
        putSwitch_plain s (by simp [hc, ComInitDB, ComQuit]) (by simp [hc, ComInitDB, ComChangeUser])
          (by simp [hc, ComInitDB, ComQuery])
      rw [hsw, hid] at hrec
      have hinit : IsInitCommand (progs id) id c :=
        .inl ⟨db, ((progs id).initConn_of_getElem? hcall).2, hdb, hc⟩
      have h := hv.initConn (L := [c]) hrun' hready hcall (by simp) (by simpa using hinit)
      convert h using 1
      simp only [connView, ConnView.mk.injEq]
      refine ⟨by simp [hrun₁, hrun], by simp, ?_, by simp [hconn], by simp⟩
      simpa [recorded] using hrec

/-- The first section of `Capture` keeps the invariant of its connection. -/
theorem connInv_check
    {s s' : CaptureSys}
    {id : Nat}
    {packet : List UInt8}
    {initSession : Bool}
    (hready : (s.conn id).phase = .ready)
    (hcall : (progs id).calls[(s.conn id).pc]? = some (.capture packet initSession))
    (hres : (match s.captureCheck id packet initSession with
      | .ready => some (s.finishCall id)
      | phase => some (s.setPhase id phase)) = some s')
    (hv : (connView s id).Inv (progs id) id) :
    (connView s' id).Inv (progs id) id := by
  rcases captureCheck_spec s id packet initSession with ⟨hc, hfresh⟩ | ⟨hc, hinited⟩ |
      ⟨hc, hfresh, rfl⟩ <;> rw [hc] at hres <;> cases hres
  · rw [connView_finishCall]
    exact hv.skip hready (fun h => hfresh (by simpa [connView] using h))
  · rw [connView_setPhase]
    exact hv.toPutting hready hinited
  · rw [connView_setPhase]
    exact hv.toIniting hready hfresh hcall

/-- The second section of `Capture` keeps the invariant of its connection. -/
theorem connInv_initSession
    {s : CaptureSys}
    {id : Nat}
    {sessionStates : List UInt8}
    (hiniting : (s.conn id).phase = .initing)
    (hv : (connView s id).Inv (progs id) id) :
    (connView ((s.captureInit cfg id sessionStates).setPhase id .putting) id).Inv (progs id) id := by
  rw [connView_setPhase]
  obtain ⟨c, hc⟩ : ∃ c : Command,
      c = ⟨id, ComQuery, ComQuery :: initForCapture sessionStates⟩ := ⟨_, rfl⟩
  have hid : c.ConnID = id := by rw [hc]
  have h₁ : s.captureInit cfg id sessionStates =
      if (s.putCommand cfg c).1 then
        { (s.putCommand cfg c).2 with conns := Function.update (s.putCommand cfg c).2.conns id true }
      else (s.putCommand cfg c).2 := by
    simp [captureInit, hc]
  have hconn := putCommand_conn cfg s c
  by_cases hrun : s.status = .running
  swap
  · -- stopped between the two sections: nothing is put
    rw [h₁, putCommand_of_not_running cfg s c hrun]
    exact hv.stopped rfl le_rfl hrun
  rw [h₁]
  rcases putCommand_own cfg s c hrun with ⟨hstop, hrec⟩ | ⟨hrun₁, hrec, -, hok⟩
  · refine hv.stopped ?_ ?_ ?_ <;> split <;> simp_all [connView, recorded]
  · have hsw : s.putSwitch c = (some c, s) := by
      refine putSwitch_plain s (by simp [hc, ComQuery, ComQuit]) (by simp [hc, ComQuery, ComChangeUser]) ?_
      simp [hc, isSensitiveSQL_initForCapture]
    rw [hsw, hid] at hrec
    rw [hsw] at hok
    have h := hv.inited (c := c) hrun hiniting (.inr ⟨sessionStates, hc⟩)
    rw [hok]
    convert h using 1
    simp only [connView, ConnView.mk.injEq, if_true, Option.isSome_some]
    refine ⟨by simp [hrun₁, hrun], by simp, ?_, by simp [hconn], by simp⟩
    simpa [recorded] using hrec

/-- The third section of `Capture` keeps the invariant of its connection. -/
theorem connInv_put
    {s : CaptureSys}
    {id : Nat}
    {packet : List UInt8}
    {initSession : Bool}
    (hputting : (s.conn id).phase = .putting)
    (hcall : (progs id).calls[(s.conn id).pc]? = some (.capture packet initSession))
    (hv : (connView s id).Inv (progs id) id) :
    (connView ((s.capturePut cfg id packet).finishCall id) id).Inv (progs id) id := by
  rw [connView_finishCall]
  by_cases hrun : s.status = .running
  swap
  · -- a stopped capture records nothing
    have h₁ : s.capturePut cfg id packet = s := by
      unfold capturePut
      split
      · rfl
      · rw [putCommand_of_not_running cfg s _ hrun]
    rw [h₁]
    exact hv.stopped rfl (Nat.le_succ _) hrun
  have hrun' : (connView s id).status = .running := hrun
  cases packet with
  | nil =>
      -- NewCommand makes no command of an empty packet
      have h := hv.putRequest hrun' hputting hcall
      convert h using 1
      simp [connView, capturePut, NewCommand, Call.captured, capturedRequest]
  | cons type rest =>
      obtain ⟨c, hc⟩ : ∃ c : Command, c = ⟨id, type, type :: rest⟩ := ⟨_, rfl⟩
      have hid : c.ConnID = id := by rw [hc]
      have h₁ : s.capturePut cfg id (type :: rest) = (s.putCommand cfg c).2 := by
        simp [capturePut, NewCommand, hc]
      have hconn := putCommand_conn cfg s c
      rw [h₁]
      rcases putCommand_own cfg s c hrun with ⟨hstop, hrec⟩ | ⟨hrun₁, hrec, hconns, -⟩
      · refine hv.stopped ?_ (by simp [connView, hconn]) (by simp [connView, hstop])
        simpa [connView, recorded, hid] using hrec
      · rw [hid] at hrec
        by_cases hquit : type = ComQuit
        · -- the connection is inited while it puts, so its COM_QUIT is recorded
          have hinited : s.conns id = true := by
            obtain ⟨_, _, _, -, hst, -⟩ := hv
            exact ((hst hrun').putting (by simpa [connView] using hputting)).1
          have hsw := putSwitch_quit s (c := c) (by rw [hc]; exact hquit) (by rw [hid]; exact hinited)
          rw [hsw] at hrec hconns
          have h := hv.putQuit (c := c) hrun' hputting hcall (by simp [hquit]) ⟨rest, by rw [hc, hquit]⟩
          convert h using 1
          simp only [connView, ConnView.mk.injEq]
          refine ⟨by simp [hrun₁, hrun], by simp [hconns, hid], ?_, by simp [hconn], by simp⟩
          simpa [recorded] using hrec
        · obtain ⟨hfst, hsnd⟩ : (s.putSwitch ⟨id, type, type :: rest⟩).1 = capturedRequest id (type :: rest) ∧
              (s.putSwitch ⟨id, type, type :: rest⟩).2.conns = s.conns := putSwitch_request s hquit
          rw [← hc] at hfst hsnd
          rw [hfst] at hrec
          rw [hsnd] at hconns
          have h := hv.putRequest hrun' hputting hcall
          convert h using 1
          simp only [connView, ConnView.mk.injEq]
          refine ⟨by simp [hrun₁, hrun], by simp [hconns], ?_, by simp [hconn], by simp⟩
          simpa [recorded, Call.captured] using hrec

end OwnSections

/-! ### The sections of the other goroutines -/

/-- A step as connection `id` sees it when another goroutine takes it: what it
recorded and where it is stay, and while the capture runs its `conns` entry too. -/
structure IdFrame
    (id : Nat)
    (s s' : CaptureSys) : Prop where
  recorded : recorded s' id = recorded s id
  conn : s'.conn id = s.conn id
  running : s'.status = .running → s.status = .running ∧ s'.conns id = s.conns id

section Frames

variable {id : Nat}

theorem IdFrame.refl
    (s : CaptureSys) :
    IdFrame id s s :=
  ⟨rfl, rfl, fun h => ⟨h, rfl⟩⟩

theorem IdFrame.trans
    {s₁ s₂ s₃ : CaptureSys}
    (h₁ : IdFrame id s₁ s₂)
    (h₂ : IdFrame id s₂ s₃) :
    IdFrame id s₁ s₃ where
  recorded := h₂.recorded.trans h₁.recorded
  conn := h₂.conn.trans h₁.conn
  running := fun h => by
    obtain ⟨h₂r, h₂c⟩ := h₂.running h
    obtain ⟨h₁r, h₁c⟩ := h₁.running h₂r
    exact ⟨h₁r, h₂c.trans h₁c⟩

/-- The invariant of connection `id` survives the steps of the others. -/
theorem IdFrame.connInv
    {p : ConnProgram}
    {s s' : CaptureSys}
    (hf : IdFrame id s s')
    (hv : (connView s id).Inv p id) :
    (connView s' id).Inv p id :=
  hv.frame hf.recorded (congrArg ConnState.pc hf.conn) (congrArg ConnState.phase hf.conn) hf.running

theorem idFrame_of_eq
    {s s' : CaptureSys}
    (haccepted : s'.accepted = s.accepted)
    (hconn : s'.conn id = s.conn id)
    (hstatus : s'.status = s.status)
    (hconns : s'.conns id = s.conns id) :
    IdFrame id s s' :=
  ⟨by simp [recorded, haccepted], hconn, fun h => ⟨hstatus ▸ h, hconns⟩⟩

theorem idFrame_stopNoLock
    (s : CaptureSys)
    (err : Option String) :
    IdFrame id s (s.stopNoLock err) := by
  obtain ⟨_, _, _, hstop⟩ := stopNoLock_eq_with s err
  refine ⟨by simp [recorded, hstop], by simp [hstop], fun h => ?_⟩
  simp at h

variable (cfg : CaptureConfig)

theorem idFrame_putCommand
    (s : CaptureSys)
    {c : Command}
    (hne : c.ConnID ≠ id) :
    IdFrame id s (s.putCommand cfg c).2 := by
  obtain ⟨hstatus, haccepted, hconn⟩ := putSwitch_snd s c
  have hconns := putSwitch_conns_ne s hne
  have hconnID : ∀ c', (s.putSwitch c).1 = some c' → c'.ConnID = c.ConnID :=
    fun _ h => putSwitch_connID s h
  unfold putCommand
  split
  · exact IdFrame.refl s
  · rcases hsw : s.putSwitch c with ⟨_ | c', s₁⟩ <;> rw [hsw] at hstatus haccepted hconn hconns hconnID <;>
      dsimp only at hstatus haccepted hconn hconns hconnID ⊢
    · exact idFrame_of_eq haccepted (by rw [hconn]) hstatus hconns
    · unfold send
      split
      · refine ⟨?_, by simp [hconn], fun h => ⟨by simpa [hstatus] using h, by simpa using hconns⟩⟩
        simp only [recorded]
        rw [recorded_append_of_ne s₁ ((hconnID c' rfl).trans_ne hne), recorded, haccepted]
      · obtain ⟨_, _, _, hstop⟩ := stopNoLock_eq_with s₁ (some errEncodingSlow)
        refine ⟨by simp [recorded, hstop, haccepted], by simp [hstop, hconn], fun h => ?_⟩
        simp at h

theorem idFrame_setConn
    (s : CaptureSys)
    {j : Nat}
    (hne : j ≠ id)
    (c : ConnState) :
    IdFrame id s (s.setConn j c) :=
  idFrame_of_eq rfl (by simp [setConn, Function.update_of_ne (Ne.symm hne)]) rfl rfl

theorem idFrame_conns_update
    (s : CaptureSys)
    {j : Nat}
    (hne : j ≠ id)
    (b : Bool) :
    IdFrame id s { s with conns := Function.update s.conns j b } :=
  idFrame_of_eq rfl rfl rfl (by simp [Function.update_of_ne (Ne.symm hne)])

theorem idFrame_InitConn
    (s : CaptureSys)
    {j : Nat}
    (hne : j ≠ id)
    (db : List UInt8) :
    IdFrame id s (s.InitConn cfg j db) := by
  unfold InitConn
  split_ifs
  · exact IdFrame.refl s
  · exact idFrame_conns_update s hne true
  · simp only [NewCommand]
    exact (idFrame_putCommand cfg s hne).trans (idFrame_conns_update _ hne true)

theorem idFrame_captureInit
    (s : CaptureSys)
    {j : Nat}
    (hne : j ≠ id)
    (sessionStates : List UInt8) :
    IdFrame id s (s.captureInit cfg j sessionStates) := by
  unfold captureInit
  dsimp only
  have hput := idFrame_putCommand cfg s (c := ⟨j, ComQuery, ComQuery :: initForCapture sessionStates⟩) hne
  rcases hres : s.putCommand cfg ⟨j, ComQuery, ComQuery :: initForCapture sessionStates⟩ with ⟨ok, s₁⟩
  rw [hres] at hput
  cases ok
  · simpa using hput
  · simpa using hput.trans (idFrame_conns_update s₁ hne true)

theorem idFrame_capturePut
    (s : CaptureSys)
    {j : Nat}
    (hne : j ≠ id)
    (packet : List UInt8) :
    IdFrame id s (s.capturePut cfg j packet) := by
  unfold capturePut
  split
  · exact IdFrame.refl s
  · rename_i command hcmd
    have hid : command.ConnID = j := by
      unfold NewCommand at hcmd
      split at hcmd <;> simp at hcmd
      rw [← hcmd]
    exact idFrame_putCommand cfg s (hid.trans_ne hne)

variable {cfg} {encodedLen : Command → Nat}

/-- `Stop`, `collectCmds` and `flushBuffer` leave every connection as it is. -/
theorem PipeStep.idFrame
    {s s' : CaptureSys}
    (hp : PipeStep cfg encodedLen s s') :
    IdFrame id s s' := by
  cases hp with
  | stop err => exact idFrame_stopNoLock s err
  | collectStop _ =>
      have hf : IdFrame id s _ := idFrame_stopNoLock s (some errFlushingSlow)
      exact ⟨hf.recorded, hf.conn, fun h => by simp at h⟩
  | flushStop _ =>
      have hf : IdFrame id s _ := idFrame_stopNoLock s (some errFlushFailed)
      exact ⟨hf.recorded, hf.conn, fun h => by simp at h⟩
  | _ => exact idFrame_of_eq rfl rfl rfl rfl

end Frames

/-- The connection whose goroutine takes a section. -/
def Action.actor : Action → Option Nat
  | .initConn id | .check id | .initSession id _ | .put id => some id
  | _ => none

section Steps

variable (cfg : CaptureConfig) (encodedLen : Command → Nat) (progs : Nat → ConnProgram)

/-- A step of another goroutine is a frame for connection `id`. -/
theorem idFrame_captureStep
    {s s' : CaptureSys}
    {a : Action}
    {id : Nat}
    (ha : a.actor ≠ some id)
    (h : captureStep cfg encodedLen progs s a = some s') :
    IdFrame id s s' := by
  by_cases hconn : a.isConn
  · cases a with
    | initConn j =>
        have hne : j ≠ id := fun h => ha (by rw [h]; rfl)
        simp only [captureStep] at h
        split at h
        · cases h
          exact (idFrame_InitConn cfg s hne _).trans (idFrame_setConn _ hne _)
        · cases h
    | check j =>
        have hne : j ≠ id := fun h => ha (by rw [h]; rfl)
        simp only [captureStep] at h
        split at h
        · split at h <;>
            · cases h
              exact idFrame_setConn _ hne _
        · cases h
    | initSession j states =>
        have hne : j ≠ id := fun h => ha (by rw [h]; rfl)
        simp only [captureStep] at h
        split at h
        · cases h
          exact idFrame_setConn _ hne _
        · cases h
          exact (idFrame_captureInit cfg s hne _).trans (idFrame_setConn _ hne _)
        · cases h
    | put j =>
        have hne : j ≠ id := fun h => ha (by rw [h]; rfl)
        simp only [captureStep] at h
        split at h
        · cases h
          exact (idFrame_capturePut cfg s hne _).trans (idFrame_setConn _ hne _)
        · cases h
    | _ => simp [Action.isConn] at hconn
  · exact (pipeStep_of_captureStep cfg encodedLen progs hconn h).idFrame

/-- A step of connection `id` keeps its invariant. -/
theorem connInv_captureStep_own
    {s s' : CaptureSys}
    {a : Action}
    {id : Nat}
    (ha : a.actor = some id)
    (h : captureStep cfg encodedLen progs s a = some s')
    (hv : (connView s id).Inv (progs id) id) :
    (connView s' id).Inv (progs id) id := by
  cases a with
  | initConn j =>
      cases ha
      simp only [captureStep] at h
      split at h
      · rename_i hphase hcall
        cases h
        exact connInv_initConn cfg progs hphase hcall hv
      · cases h
  | check j =>
      cases ha
      simp only [captureStep] at h
      split at h
      · rename_i hphase hcall
        exact connInv_check progs hphase hcall h hv
      · cases h
  | initSession j states =>
      cases ha
      simp only [captureStep] at h
      split at h
      · rename_i hphase
        cases h
        rw [connView_finishCall]
        exact hv.initFailed hphase
      · rename_i hphase
        cases h
        exact connInv_initSession cfg progs hphase hv
      · cases h
  | put j =>
      cases ha
      simp only [captureStep] at h
      split at h
      · rename_i hphase hcall
        cases h
        exact connInv_put cfg progs hphase hcall hv
      · cases h
  | _ => simp [Action.actor] at ha

/-- The per-connection invariant holds of every connection in every reachable state. -/
theorem connInv_holds :
    Transition.Inductive (Transition.OfFn (captureStep cfg encodedLen progs))
      (fun s => s = CaptureSys.init) (fun s => ∀ id, (connView s id).Inv (progs id) id) where
  init_holds := by
    rintro s rfl id
    refine ⟨[], [], [], ⟨rfl, by simp, by simp, List.nil_infix, by simp, by simp⟩, fun _ => ?_,
      fun _ _ => List.nil_suffix⟩
    exact ⟨fun h => by simp [connView, CaptureSys.init] at h, fun h => by simp [connView, CaptureSys.init] at h,
      fun _ => .inr (.inl ⟨rfl, rfl⟩), fun _ _ => ⟨rfl, rfl⟩⟩
  step_holds := by
    rintro s s' hv ⟨a, h⟩ id
    by_cases ha : a.actor = some id
    · exact connInv_captureStep_own cfg encodedLen progs ha h (hv id)
    · exact (idFrame_captureStep cfg encodedLen progs ha h).connInv (hv id)

end Steps

/-! ### The traffic files -/

/-- A connection that connects with database `d` (byte 100), sends a query `s`
and a `COM_CHANGE_USER`, and closes. -/
def trafficProgram : ConnProgram where
  db := some [100]
  requests := [[3, 115], [17, 9]]
  closes := true
  quit_last := by decide

/-- In every reachable state, also of a run that lost commands, the traffic files
hold a prefix of the accepted commands: nothing is written twice or out of
`cmdCh` order. -/
theorem written_prefix_accepted
    (cfg : CaptureConfig)
    (encodedLen : Command → Nat)
    (progs : Nat → ConnProgram)
    {s : CaptureSys}
    (hs : CaptureReachable cfg encodedLen progs s) :
    s.written <+: s.accepted :=
  ((delivered_holds cfg encodedLen progs).holds hs).written

/-- A run flushing every command on its own (a threshold of 0, with the encoding
`Command.Encode` writes), whose second write fails: the first command is written, the
second is lost with its buffer, and the third was accepted after it. -/
theorem written_prefix_accepted_lost :
    ∃ s, CaptureReachable ⟨0, 2, 10⟩ (Command.encodedLen wholeSecondStartTs) (fun _ => trafficProgram) s ∧
      s.written <+: s.accepted ∧ s.written.length = 1 ∧ s.accepted.length = 3 := by
  obtain ⟨s, hrun⟩ : ∃ s, Transition.runActions (captureStep ⟨0, 2, 10⟩
      (Command.encodedLen wholeSecondStartTs) (fun _ => trafficProgram)) CaptureSys.init
      [.initConn 1, .check 1, .put 1, .collect, .collect, .flush true, .flush false, .check 1,
        .put 1] = some s :=
    Option.isSome_iff_exists.mp (by decide +kernel)
  have hend : (Transition.runActions (captureStep ⟨0, 2, 10⟩
      (Command.encodedLen wholeSecondStartTs) (fun _ => trafficProgram)) CaptureSys.init
      [.initConn 1, .check 1, .put 1, .collect, .collect, .flush true, .flush false, .check 1,
        .put 1]).map (fun s => (s.written.length, s.accepted.length)) = some (1, 3) := by
    decide +kernel
  rw [hrun, Option.map_some, Option.some.injEq, Prod.mk.injEq] at hend
  have hreach : CaptureReachable ⟨0, 2, 10⟩ (Command.encodedLen wholeSecondStartTs)
      (fun _ => trafficProgram) s :=
    Transition.Reachable.of_runActions _ (Transition.Reachable.of_init rfl) hrun
  exact ⟨s, hreach, written_prefix_accepted ⟨0, 2, 10⟩ (Command.encodedLen wholeSecondStartTs)
    (fun _ => trafficProgram) hreach, hend.1, hend.2⟩

end Capture
end TiProxy
