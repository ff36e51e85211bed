import TiProxy.Capture.Capture

/-!
# Capture: from `cmdCh` to the traffic files

`collectCmds` and `flushBuffer` move the accepted commands through three queues:
`cmdCh`, the collector's buffer and `bufCh`, and the flusher writes each buffer
out.  The connections only append to `cmdCh`, and only while the capture runs.

Two invariants, over every run:

* `Delivered`: what was written is a prefix of what was accepted, in `cmdCh` order,
  also in runs that lose data (a full `bufCh` drops the collector's buffer and
  what is left in `cmdCh`; a failed write drops its buffer and the flusher stops).
* `Exact`, in runs with no failure: the written commands, `bufCh`, the buffer and
  `cmdCh` are the accepted commands in order, `capturedCmds` counts the commands
  that left `cmdCh`, and once the flusher is past its loop the collector is done
  and every queue is empty.

A third, `Blocked`, is a trap: once the collector waits on its last send with
`bufCh` full and the flusher out of its loop, no step unblocks it.

**Results.**
* `delivered_holds`: in every reachable state the written commands are a prefix
  of the accepted ones.
* `exact_holds`: in every reachable state of a run with no failure, `Exact`
  holds.
* `Blocked.of_run`: a blocked collector stays blocked along every run, and
  `collectCmds_blocked_reachable` reaches such a state after a failed write, with the
  encoding `Command.Encode` writes and the limits of the package's test: `collectCmds`
  never returns.
-/

namespace TiProxy
namespace Capture

open Net GoBytes CaptureSys

section Effects

variable (cfg : CaptureConfig)

/-- What a connection's section does to the rest of the job: it appends to `cmdCh`
what it appends to the accepted commands, each with a payload, and only while the
capture runs; it may stop the capture and add a failure; it touches no other queue. -/
structure ConnEffect
    (s s' : CaptureSys) : Prop where
  sent : ∃ L, s'.cmdCh = s.cmdCh ++ L ∧ s'.accepted = s.accepted ++ L ∧ (L = [] ∨ s.status = .running) ∧
    ∀ c ∈ L, c.Payload ≠ []
  buf : s'.buf = s.buf
  bufCh : s'.bufCh = s.bufCh
  collector : s'.collector = s.collector
  flusher : s'.flusher = s.flusher
  written : s'.written = s.written
  metaFile : s'.metaFile = s.metaFile
  capturedCmds : s'.capturedCmds = s.capturedCmds
  status : s'.status = .running → s.status = .running
  failures : s.failures <+: s'.failures

theorem ConnEffect.refl
    (s : CaptureSys) :
    ConnEffect s s :=
  ⟨⟨[], by simp, by simp, .inl rfl, by simp⟩, rfl, rfl, rfl, rfl, rfl, rfl, rfl, id, List.prefix_refl _⟩

theorem ConnEffect.trans
    {s₁ s₂ s₃ : CaptureSys}
    (h₁ : ConnEffect s₁ s₂)
    (h₂ : ConnEffect s₂ s₃) :
    ConnEffect s₁ s₃ where
  sent := by
    obtain ⟨L₁, hc₁, ha₁, hr₁, hp₁⟩ := h₁.sent
    obtain ⟨L₂, hc₂, ha₂, hr₂, hp₂⟩ := h₂.sent
    refine ⟨L₁ ++ L₂, by simp [hc₂, hc₁], by simp [ha₂, ha₁], ?_, ?_⟩
    · rcases hr₁ with rfl | hr₁
      · rcases hr₂ with rfl | hr₂
        · exact .inl rfl
        · exact .inr (h₁.status hr₂)
      · exact .inr hr₁
    · intro c hc
      rcases List.mem_append.mp hc with hc | hc
      · exact hp₁ c hc
      · exact hp₂ c hc
  buf := h₂.buf.trans h₁.buf
  bufCh := h₂.bufCh.trans h₁.bufCh
  collector := h₂.collector.trans h₁.collector
  flusher := h₂.flusher.trans h₁.flusher
  written := h₂.written.trans h₁.written
  metaFile := h₂.metaFile.trans h₁.metaFile
  capturedCmds := h₂.capturedCmds.trans h₁.capturedCmds
  status := fun h => h₁.status (h₂.status h)
  failures := h₁.failures.trans h₂.failures

/-- A change of `conns`, `conn` or `filteredCmds` alone. -/
theorem connEffect_of_eq
    {s s' : CaptureSys}
    (hcmdCh : s'.cmdCh = s.cmdCh)
    (haccepted : s'.accepted = s.accepted)
    (hbuf : s'.buf = s.buf)
    (hbufCh : s'.bufCh = s.bufCh)
    (hcollector : s'.collector = s.collector)
    (hflusher : s'.flusher = s.flusher)
    (hwritten : s'.written = s.written)
    (hmeta : s'.metaFile = s.metaFile)
    (hcaptured : s'.capturedCmds = s.capturedCmds)
    (hstatus : s'.status = s.status)
    (hfailures : s'.failures = s.failures) :
    ConnEffect s s' :=
  ⟨⟨[], by simp [hcmdCh], by simp [haccepted], .inl rfl, by simp⟩, hbuf, hbufCh, hcollector, hflusher,
    hwritten, hmeta, hcaptured, fun h => hstatus ▸ h, hfailures ▸ List.prefix_refl _⟩

theorem connEffect_stopNoLock
    (s : CaptureSys)
    (err : Option String) :
    ConnEffect s (s.stopNoLock err) := by
  unfold stopNoLock
  split
  · exact ConnEffect.refl s
  · rename_i hrun
    exact ⟨⟨[], by simp, by simp, .inl rfl, by simp⟩, rfl, rfl, rfl, rfl, rfl, rfl, rfl,
      fun _ => by simpa using hrun, List.prefix_refl _⟩

theorem connEffect_send
    (s : CaptureSys)
    (command : Command)
    (hrun : s.status = .running)
    (hpay : command.Payload ≠ []) :
    ConnEffect s (s.send cfg command).2 := by
  unfold send
  split_ifs
  · exact ⟨⟨[command], rfl, rfl, .inr hrun, by simpa using hpay⟩, rfl, rfl, rfl, rfl, rfl, rfl, rfl, fun _ => hrun,
      List.prefix_refl _⟩
  · have h := connEffect_stopNoLock s (some errEncodingSlow)
    exact ⟨h.sent, h.buf, h.bufCh, h.collector, h.flusher, h.written, h.metaFile, h.capturedCmds,
      h.status, by simp⟩

theorem connEffect_putCommand
    (s : CaptureSys)
    (command : Command)
    (hpay : command.Payload ≠ []) :
    ConnEffect s (s.putCommand cfg command).2 := by
  unfold putCommand
  split_ifs with hrun
  · exact ConnEffect.refl s
  · have hrun : s.status = .running := by simpa using hrun
    unfold putSwitch
    split_ifs <;> dsimp only
    · have h₁ : ConnEffect s { s with conns := Function.update s.conns command.ConnID false } :=
        connEffect_of_eq rfl rfl rfl rfl rfl rfl rfl rfl rfl rfl rfl
      exact h₁.trans (connEffect_send cfg _ command hrun hpay)
    · exact ConnEffect.refl s
    -- `COM_CHANGE_USER` is captured as `COM_RESET_CONNECTION`
    · exact connEffect_send cfg s _ hrun (by simp)
    · exact connEffect_of_eq rfl rfl rfl rfl rfl rfl rfl rfl rfl rfl rfl
    · exact connEffect_send cfg s command hrun hpay

theorem connEffect_setConn
    (s : CaptureSys)
    (id : Nat)
    (c : ConnState) :
    ConnEffect s (s.setConn id c) :=
  connEffect_of_eq rfl rfl rfl rfl rfl rfl rfl rfl rfl rfl rfl

theorem connEffect_InitConn
    (s : CaptureSys)
    (id : Nat)
    (db : List UInt8) :
    ConnEffect s (s.InitConn cfg id db) := by
  unfold InitConn
  split_ifs
  · exact ConnEffect.refl s
  · exact connEffect_of_eq rfl rfl rfl rfl rfl rfl rfl rfl rfl rfl rfl
  · simp only [NewCommand]
    exact (connEffect_putCommand cfg s _ (by simp)).trans (connEffect_of_eq rfl rfl rfl rfl rfl rfl rfl rfl rfl rfl rfl)

theorem connEffect_captureInit
    (s : CaptureSys)
    (id : Nat)
    (states : List UInt8) :
    ConnEffect s (s.captureInit cfg id states) := by
  unfold captureInit
  dsimp only
  have hput := connEffect_putCommand cfg s ⟨id, ComQuery, ComQuery :: initForCapture states⟩ (by simp)
  rcases hres : s.putCommand cfg ⟨id, ComQuery, ComQuery :: initForCapture states⟩ with ⟨ok, s₁⟩
  rw [hres] at hput
  cases ok
  · simpa using hput
  · have h₂ : ConnEffect s₁ { s₁ with conns := Function.update s₁.conns id true } :=
      connEffect_of_eq rfl rfl rfl rfl rfl rfl rfl rfl rfl rfl rfl
    simpa using hput.trans h₂

theorem connEffect_capturePut
    (s : CaptureSys)
    (id : Nat)
    (packet : List UInt8) :
    ConnEffect s (s.capturePut cfg id packet) := by
  unfold capturePut
  split
  · exact ConnEffect.refl s
  · rename_i command hnew
    exact connEffect_putCommand cfg s command (payload_ne_nil_of_NewCommand hnew)

end Effects

/-- The sections of the connection goroutines. -/
def Action.isConn : Action → Bool
  | .initConn _ | .check _ | .initSession _ _ | .put _ => true
  | _ => false

section Steps

variable (cfg : CaptureConfig) (encodedLen : Command → Nat) (progs : Nat → ConnProgram)

/-- A section of a connection goroutine is a `ConnEffect`. -/
theorem connEffect_captureStep
    {s s' : CaptureSys}
    {a : Action}
    (ha : a.isConn)
    (h : captureStep cfg encodedLen progs s a = some s') :
    ConnEffect s s' := by
  cases a with
  | initConn id =>
      simp only [captureStep] at h
      split at h
      · cases h
        exact (connEffect_InitConn cfg s id _).trans (connEffect_setConn _ _ _)
      · cases h
  | check id =>
      simp only [captureStep] at h
      split at h
      · split at h <;>
          · cases h
            exact connEffect_setConn _ _ _
      · cases h
  | initSession id states =>
      simp only [captureStep] at h
      split at h
      · cases h
        exact connEffect_setConn _ _ _
      · cases h
        exact (connEffect_captureInit cfg s id _).trans (connEffect_setConn _ _ _)
      · cases h
  | put id =>
      simp only [captureStep] at h
      split at h
      · cases h
        exact (connEffect_capturePut cfg s id _).trans (connEffect_setConn _ _ _)
      · cases h
  | _ => simp [Action.isConn] at ha

/-- The sections of `Stop`, `collectCmds` and `flushBuffer`, each with its guard and
the state it leaves. -/
inductive PipeStep : CaptureSys → CaptureSys → Prop
  | stop
      (s : CaptureSys)
      (err : Option String) :
      PipeStep s (s.stopNoLock err)
  | collectKeep
      {s : CaptureSys}
      {command : Command}
      {rest : List Command}
      (hcol : s.collector = .collecting)
      (hcmd : s.cmdCh = command :: rest)
      (hlen : bufLen encodedLen (s.buf ++ [command]) ≤ cfg.flushThreshold) :
      PipeStep s { s with cmdCh := rest, buf := s.buf ++ [command], capturedCmds := s.capturedCmds + 1 }
  | collectSend
      {s : CaptureSys}
      {command : Command}
      {rest : List Command}
      (hcol : s.collector = .collecting)
      (hcmd : s.cmdCh = command :: rest)
      (hlen : cfg.flushThreshold < bufLen encodedLen (s.buf ++ [command]))
      (hroom : s.bufCh.length < cfg.maxBuffers) :
      PipeStep s { s with
        cmdCh := rest, bufCh := s.bufCh ++ [s.buf ++ [command]], buf := [],
        capturedCmds := s.capturedCmds + 1 }
  | collectFull
      {s : CaptureSys}
      {command : Command}
      {rest : List Command}
      (hcol : s.collector = .collecting)
      (hcmd : s.cmdCh = command :: rest)
      (hlen : cfg.flushThreshold < bufLen encodedLen (s.buf ++ [command]))
      (hfull : cfg.maxBuffers ≤ s.bufCh.length) :
      PipeStep s { s with
        cmdCh := rest, buf := s.buf ++ [command], capturedCmds := s.capturedCmds + 1,
        collector := .full, failures := s.failures ++ [errFlushingSlow] }
  | collectStop
      {s : CaptureSys}
      (hcol : s.collector = .full) :
      PipeStep s { s.stopNoLock (some errFlushingSlow) with collector := .done }
  | collectEndSend
      {s : CaptureSys}
      (hcol : s.collector = .collecting)
      (hcmd : s.cmdCh = [])
      (hstop : s.status = .stopping)
      (hlen : 0 < bufLen encodedLen s.buf)
      (hroom : s.bufCh.length < cfg.maxBuffers) :
      PipeStep s { s with bufCh := s.bufCh ++ [s.buf], buf := [], collector := .done }
  | collectEndEmpty
      {s : CaptureSys}
      (hcol : s.collector = .collecting)
      (hcmd : s.cmdCh = [])
      (hstop : s.status = .stopping)
      (hlen : bufLen encodedLen s.buf = 0) :
      PipeStep s { s with collector := .done }
  | flushOk
      {s : CaptureSys}
      {b : List Command}
      {rest : List (List Command)}
      (hfl : s.flusher = .flushing)
      (hbuf : s.bufCh = b :: rest) :
      PipeStep s { s with bufCh := rest, written := s.written ++ b }
  | flushFail
      {s : CaptureSys}
      {b : List Command}
      {rest : List (List Command)}
      (hfl : s.flusher = .flushing)
      (hbuf : s.bufCh = b :: rest) :
      PipeStep s { s with bufCh := rest, flusher := .writeFailed, failures := s.failures ++ [errFlushFailed] }
  | flushStop
      {s : CaptureSys}
      (hfl : s.flusher = .writeFailed) :
      PipeStep s { s.stopNoLock (some errFlushFailed) with flusher := .closing }
  | flushEnd
      {s : CaptureSys}
      (hfl : s.flusher = .flushing)
      (hbuf : s.bufCh = [])
      (hcol : s.collector = .done) :
      PipeStep s { s with flusher := .closing }
  | closeLogger
      {s : CaptureSys}
      (ok : Bool)
      (hfl : s.flusher = .closing) :
      PipeStep s { s with
        flusher := .writingMeta
        failures := if ok then s.failures else s.failures ++ [warnCloseFailed] }
  | writeMeta
      {s : CaptureSys}
      (ok : Bool)
      (hfl : s.flusher = .writingMeta) :
      PipeStep s { s with
        flusher := .done
        metaFile := if ok then some (s.capturedCmds, s.filteredCmds) else none }

/-- Every other section is a `PipeStep`. -/
theorem pipeStep_of_captureStep
    {s s' : CaptureSys}
    {a : Action}
    (ha : ¬ a.isConn)
    (h : captureStep cfg encodedLen progs s a = some s') :
    PipeStep cfg encodedLen s s' := by
  cases a with
  | initConn | check | initSession | put => simp [Action.isConn] at ha
  | stop err =>
      simp only [captureStep, Option.some.injEq] at h
      subst h
      exact .stop s err
  | collect =>
      simp only [captureStep] at h
      split at h
      · rename_i command rest hcol hcmd
        cases h
        unfold collect
        dsimp only
        split_ifs with hlen hroom
        · exact .collectSend hcol hcmd hlen hroom
        · exact .collectFull hcol hcmd hlen (by omega)
        · exact .collectKeep hcol hcmd (by omega)
      · cases h
  | collectStop =>
      simp only [captureStep] at h
      split at h
      · cases h
        exact .collectStop ‹_›
      · cases h
  | collectEnd =>
      simp only [captureStep] at h
      split_ifs at h with hguard hlen hroom
      · cases h
        exact .collectEndSend hguard.1 hguard.2.1 hguard.2.2 hlen hroom
      · cases h
        exact .collectEndEmpty hguard.1 hguard.2.1 hguard.2.2 (by omega)
  | flush ok =>
      simp only [captureStep] at h
      split at h
      · rename_i b rest hfl hbuf
        split_ifs at h
        · cases h
          exact .flushOk hfl hbuf
        · cases h
          exact .flushFail hfl hbuf
      · cases h
  | flushStop =>
      simp only [captureStep] at h
      split at h
      · cases h
        exact .flushStop ‹_›
      · cases h
  | flushEnd =>
      simp only [captureStep] at h
      split_ifs at h with hguard
      cases h
      exact .flushEnd hguard.1 hguard.2.1 hguard.2.2
  | closeLogger ok =>
      simp only [captureStep] at h
      split at h
      · cases h
        exact .closeLogger ok ‹_›
      · cases h
  | writeMeta ok =>
      simp only [captureStep] at h
      split at h
      · cases h
        exact .writeMeta ok ‹_›
      · cases h

/-- The failures of a run only grow. -/
theorem failures_prefix_captureStep
    {s s' : CaptureSys}
    {a : Action}
    (h : captureStep cfg encodedLen progs s a = some s') :
    s.failures <+: s'.failures := by
  by_cases ha : a.isConn
  · exact (connEffect_captureStep cfg encodedLen progs ha h).failures
  · cases pipeStep_of_captureStep cfg encodedLen progs ha h with
    | stop err => exact (connEffect_stopNoLock s err).failures
    | collectStop _ | flushStop _ => exact (connEffect_stopNoLock s _).failures
    | closeLogger ok _ => cases ok <;> simp
    | _ => simp

end Steps

/-! ### What is written -/

/-- What was written is a prefix of what was accepted.  While the flusher is in its
loop, what it has written and what waits in `bufCh` is one too, and while the
collector is in its loop as well, the four queues together are exactly what was
accepted. -/
structure Delivered
    (s : CaptureSys) : Prop where
  inOrder : s.flusher = .flushing → s.collector = .collecting →
    s.written ++ s.bufCh.flatten ++ s.buf ++ s.cmdCh = s.accepted
  queued : s.flusher = .flushing → s.written ++ s.bufCh.flatten <+: s.accepted
  written : s.written <+: s.accepted

theorem delivered_init :
    Delivered CaptureSys.init :=
  ⟨fun _ _ => rfl, fun _ => List.prefix_refl _, List.prefix_refl _⟩

/-- What the connections do keeps `Delivered`: they append to `cmdCh` what they
accept. -/
theorem ConnEffect.delivered
    {s s' : CaptureSys}
    (he : ConnEffect s s')
    (hd : Delivered s) :
    Delivered s' := by
  obtain ⟨L, hcmd, hacc, -, -⟩ := he.sent
  refine ⟨fun hfl hcol => ?_, fun hfl => ?_, ?_⟩
  · rw [hcmd, hacc, he.written, he.bufCh, he.buf,
      ← hd.inOrder (he.flusher ▸ hfl) (he.collector ▸ hcol)]
    simp
  · rw [hacc, he.written, he.bufCh]
    exact (hd.queued (he.flusher ▸ hfl)).trans (List.prefix_append _ _)
  · rw [hacc, he.written]
    exact hd.written.trans (List.prefix_append _ _)

section Sections

variable {cfg : CaptureConfig} {encodedLen : Command → Nat}

/-- `Stop`, `collectCmds` and `flushBuffer` keep `Delivered`. -/
theorem PipeStep.delivered
    {s s' : CaptureSys}
    (hp : PipeStep cfg encodedLen s s')
    (hd : Delivered s) :
    Delivered s' := by
  cases hp with
  | stop err =>
      exact (connEffect_stopNoLock s err).delivered hd
  | collectKeep hcol hcmd _ =>
      refine ⟨fun hfl _ => ?_, hd.queued, hd.written⟩
      simp [← hd.inOrder hfl hcol, hcmd]
  | @collectSend command rest hcol hcmd _ _ =>
      refine ⟨fun hfl _ => ?_, fun hfl => ?_, hd.written⟩
      · simp [← hd.inOrder hfl hcol, hcmd]
      · -- the buffer handed over was the front of cmdCh
        refine ⟨rest, ?_⟩
        simp [← hd.inOrder hfl hcol, hcmd]
  | collectFull hcol hcmd _ _ =>
      exact ⟨fun _ h => by simp at h, hd.queued, hd.written⟩
  | collectStop hcol =>
      obtain ⟨_, _, _, hstop⟩ := stopNoLock_eq_with s (some errFlushingSlow)
      rw [hstop]
      exact ⟨fun _ h => by simp at h, hd.queued, hd.written⟩
  | collectEndSend hcol hcmd _ _ _ =>
      refine ⟨fun _ h => by simp at h, fun hfl => ?_, hd.written⟩
      have h := hd.inOrder hfl hcol
      rw [hcmd, List.append_nil] at h
      simp [← h]
  | collectEndEmpty hcol _ _ _ =>
      exact ⟨fun _ h => by simp at h, hd.queued, hd.written⟩
  | @flushOk b rest hfl hbuf =>
      refine ⟨fun _ hcol => ?_, fun _ => ?_, ?_⟩
      · simp [← hd.inOrder hfl hcol, hbuf]
      · simpa [hbuf] using hd.queued hfl
      · have h := hd.queued hfl
        rw [hbuf, List.flatten_cons, ← List.append_assoc] at h
        exact (List.prefix_append _ _).trans h
  | flushFail _ _ =>
      exact ⟨fun h => by simp at h, fun h => by simp at h, hd.written⟩
  | flushStop hfl =>
      obtain ⟨_, _, _, hstop⟩ := stopNoLock_eq_with s (some errFlushFailed)
      rw [hstop]
      exact ⟨fun h => by simp at h, fun h => by simp at h, hd.written⟩
  | flushEnd _ _ _ =>
      exact ⟨fun h => by simp at h, fun h => by simp at h, hd.written⟩
  | closeLogger _ _ =>
      exact ⟨fun h => by simp at h, fun h => by simp at h, hd.written⟩
  | writeMeta _ _ =>
      exact ⟨fun h => by simp at h, fun h => by simp at h, hd.written⟩

end Sections

/-- In every reachable state, what was written is a prefix of what was accepted. -/
theorem delivered_holds
    (cfg : CaptureConfig)
    (encodedLen : Command → Nat)
    (progs : Nat → ConnProgram) :
    Transition.Inductive (Transition.OfFn (captureStep cfg encodedLen progs))
      (fun s => s = CaptureSys.init) Delivered where
  init_holds := by
    rintro s rfl
    exact delivered_init
  step_holds := by
    rintro s s' hd ⟨a, h⟩
    by_cases ha : a.isConn
    · exact (connEffect_captureStep cfg encodedLen progs ha h).delivered hd
    · exact (pipeStep_of_captureStep cfg encodedLen progs ha h).delivered hd

/-! ### Runs with no failure -/

/-- A state of a run with no failure: the four queues are the accepted commands in
order, `capturedCmds` counts those that left `cmdCh`, neither goroutine failed, the
collector is done only once `cmdCh` is closed and drained, the flusher leaves its
loop only once the collector is done and `bufCh` is drained, the meta file is
written last, with the count as it is then, and every accepted command has a
payload. -/
structure Exact
    (s : CaptureSys) : Prop where
  inOrder : s.written ++ s.bufCh.flatten ++ s.buf ++ s.cmdCh = s.accepted
  counted : s.capturedCmds = s.written.length + s.bufCh.flatten.length + s.buf.length
  collector_ne_full : s.collector ≠ .full
  flusher_ne_writeFailed : s.flusher ≠ .writeFailed
  collector_done : s.collector = .done → s.buf = [] ∧ s.cmdCh = [] ∧ s.status = .stopping
  flusher_past : s.flusher ≠ .flushing → s.collector = .done ∧ s.bufCh = []
  metaFile_done : s.metaFile ≠ none → s.flusher = .done
  metaFile_cmds : ∀ n f, s.metaFile = some (n, f) → n = s.capturedCmds
  payloads : ∀ c ∈ s.accepted, c.Payload ≠ []

theorem exact_init :
    Exact CaptureSys.init where
  inOrder := rfl
  counted := rfl
  collector_ne_full := by simp [CaptureSys.init]
  flusher_ne_writeFailed := by simp [CaptureSys.init]
  collector_done := by simp [CaptureSys.init]
  flusher_past := by simp [CaptureSys.init]
  metaFile_done := by simp [CaptureSys.init]
  metaFile_cmds := by simp [CaptureSys.init]
  payloads := by simp [CaptureSys.init]

/-- While the collector is in its loop, the flusher is in its loop and the meta file
is not written. -/
theorem Exact.flushing_of_collecting
    {s : CaptureSys}
    (hx : Exact s)
    (hcol : s.collector = .collecting) :
    s.flusher = .flushing ∧ s.metaFile = none := by
  have hfl : s.flusher = .flushing := by
    by_contra hfl
    have := (hx.flusher_past hfl).1
    rw [hcol] at this
    cases this
  refine ⟨hfl, ?_⟩
  by_contra hmeta
  have := hx.metaFile_done hmeta
  rw [hfl] at this
  cases this

/-- What the connections do keeps `Exact`: a stopped capture accepts nothing. -/
theorem ConnEffect.exact
    {s s' : CaptureSys}
    (he : ConnEffect s s')
    (hx : Exact s) :
    Exact s' := by
  obtain ⟨L, hcmd, hacc, hL, hpay⟩ := he.sent
  refine ⟨?_, ?_, he.collector ▸ hx.collector_ne_full, he.flusher ▸ hx.flusher_ne_writeFailed,
    fun hcol => ?_, fun hfl => ?_, fun hmeta => ?_, fun n f hmeta => ?_, fun c hc => ?_⟩
  · rw [hcmd, hacc, he.written, he.bufCh, he.buf, ← hx.inOrder]
    simp
  · rw [he.capturedCmds, he.written, he.bufCh, he.buf]
    exact hx.counted
  · obtain ⟨hbuf, hcmd₀, hstop⟩ := hx.collector_done (he.collector ▸ hcol)
    -- a stopping capture sends nothing, and nothing restarts it
    have hL : L = [] := by
      rcases hL with hL | hrun
      · exact hL
      · rw [hstop] at hrun
        cases hrun
    have hstop' : s'.status = .stopping := by
      cases h : s'.status
      · have := he.status h
        rw [hstop] at this
        cases this
      · rfl
    exact ⟨he.buf ▸ hbuf, by rw [hcmd, hcmd₀, hL]; rfl, hstop'⟩
  · rw [he.collector, he.bufCh]
    exact hx.flusher_past (he.flusher ▸ hfl)
  · rw [he.flusher]
    exact hx.metaFile_done (he.metaFile ▸ hmeta)
  · rw [he.capturedCmds]
    exact hx.metaFile_cmds n f (he.metaFile ▸ hmeta)
  · rw [hacc] at hc
    rcases List.mem_append.mp hc with hc | hc
    · exact hx.payloads c hc
    · exact hpay c hc

section Sections

variable {cfg : CaptureConfig} {encodedLen : Command → Nat}

/-- A section of `Stop`, `collectCmds` or `flushBuffer` that adds no failure keeps
`Exact`, when every command with a payload has a non-empty encoding. -/
theorem PipeStep.exact
    (hpos : ∀ c : Command, c.Payload ≠ [] → 0 < encodedLen c)
    {s s' : CaptureSys}
    (hp : PipeStep cfg encodedLen s s')
    (hx : Exact s)
    (hfail : s'.failures = []) :
    Exact s' := by
  cases hp with
  | stop err =>
      exact (connEffect_stopNoLock s err).exact hx
  | collectKeep hcol hcmd _ =>
      obtain ⟨hfl, hmeta⟩ := hx.flushing_of_collecting hcol
      refine ⟨?_, ?_, by simp [hcol], hx.flusher_ne_writeFailed, fun h => by simp [hcol] at h,
        fun h => absurd hfl h, fun h => absurd hmeta h, fun n f h => by simp [hmeta] at h, hx.payloads⟩
      · simp [← hx.inOrder, hcmd]
      · simp [hx.counted]
        omega
  | collectSend hcol hcmd _ _ =>
      obtain ⟨hfl, hmeta⟩ := hx.flushing_of_collecting hcol
      refine ⟨?_, ?_, by simp [hcol], hx.flusher_ne_writeFailed, fun h => by simp [hcol] at h,
        fun h => absurd hfl h, fun h => absurd hmeta h, fun n f h => by simp [hmeta] at h, hx.payloads⟩
      · simp [← hx.inOrder, hcmd]
      · simp [hx.counted]
        omega
  | collectFull _ _ _ _ =>
      simp at hfail
  | collectStop hcol =>
      exact absurd hcol hx.collector_ne_full
  | collectEndSend hcol hcmd hstop _ _ =>
      obtain ⟨hfl, hmeta⟩ := hx.flushing_of_collecting hcol
      refine ⟨?_, ?_, by simp, hx.flusher_ne_writeFailed, fun _ => ⟨rfl, hcmd, hstop⟩,
        fun h => absurd hfl h, fun h => absurd hmeta h, fun n f h => by simp [hmeta] at h, hx.payloads⟩
      · simp [← hx.inOrder, hcmd]
      · simp [hx.counted]
        omega
  | collectEndEmpty hcol hcmd hstop hlen =>
      -- a buffer of length 0 holds no command
      have hbuf : s.buf = [] := by
        cases hb : s.buf with
        | nil => rfl
        | cons c cs =>
            have hc : c ∈ s.accepted := by
              rw [← hx.inOrder, hb]
              simp
            rw [hb] at hlen
            have := hpos c (hx.payloads c hc)
            simp [bufLen] at hlen
            omega
      obtain ⟨hfl, hmeta⟩ := hx.flushing_of_collecting hcol
      exact ⟨hx.inOrder, hx.counted, by simp, hx.flusher_ne_writeFailed, fun _ => ⟨hbuf, hcmd, hstop⟩,
        fun h => absurd hfl h, fun h => absurd hmeta h, fun n f h => by simp [hmeta] at h, hx.payloads⟩
  | flushOk hfl hbuf =>
      have hmeta : s.metaFile = none := by
        by_contra h
        have := hx.metaFile_done h
        rw [hfl] at this
        cases this
      refine ⟨?_, ?_, hx.collector_ne_full, by simp [hfl], hx.collector_done,
        fun h => absurd hfl h, fun h => absurd hmeta h, fun n f h => by simp [hmeta] at h, hx.payloads⟩
      · simp [← hx.inOrder, hbuf]
      · simp [hx.counted, hbuf]
        omega
  | flushFail _ _ =>
      simp at hfail
  | flushStop hfl =>
      exact absurd hfl hx.flusher_ne_writeFailed
  | flushEnd hfl hbuf hcol =>
      have hmeta : s.metaFile = none := by
        by_contra h
        have := hx.metaFile_done h
        rw [hfl] at this
        cases this
      exact ⟨hx.inOrder, hx.counted, hx.collector_ne_full, by simp, hx.collector_done,
        fun _ => ⟨hcol, hbuf⟩, fun h => absurd hmeta h, fun n f h => by simp [hmeta] at h, hx.payloads⟩
  | closeLogger ok hfl =>
      have hpast := hx.flusher_past (by simp [hfl])
      have hmeta : s.metaFile = none := by
        by_contra h
        have := hx.metaFile_done h
        rw [hfl] at this
        cases this
      exact ⟨hx.inOrder, hx.counted, hx.collector_ne_full, by simp, hx.collector_done,
        fun _ => hpast, fun h => absurd hmeta h, fun n f h => by simp [hmeta] at h, hx.payloads⟩
  | writeMeta ok hfl =>
      have hpast := hx.flusher_past (by simp [hfl])
      refine ⟨hx.inOrder, hx.counted, hx.collector_ne_full, by simp, hx.collector_done,
        fun _ => hpast, fun _ => rfl, fun n f h => ?_, hx.payloads⟩
      cases ok
      · simp at h
      · simp only [if_true, Option.some.injEq, Prod.mk.injEq] at h
        exact h.1.symm

end Sections

/-- In a run with no failure, `Exact` holds in every reachable state, when every
command with a payload has a non-empty encoding. -/
theorem exact_holds
    (cfg : CaptureConfig)
    (encodedLen : Command → Nat)
    (progs : Nat → ConnProgram)
    (hpos : ∀ c : Command, c.Payload ≠ [] → 0 < encodedLen c) :
    Transition.Inductive (Transition.OfFn (captureStep cfg encodedLen progs))
      (fun s => s = CaptureSys.init) (fun s => s.failures = [] → Exact s) where
  init_holds := by
    rintro s rfl -
    exact exact_init
  step_holds := by
    rintro s s' hx ⟨a, h⟩ hfail
    have hfail₀ : s.failures = [] :=
      List.eq_nil_of_prefix_nil (hfail ▸ failures_prefix_captureStep cfg encodedLen progs h)
    by_cases ha : a.isConn
    · exact (connEffect_captureStep cfg encodedLen progs ha h).exact (hx hfail₀)
    · exact (pipeStep_of_captureStep cfg encodedLen progs ha h).exact hpos (hx hfail₀) hfail

/-! ### A failed write can block the collector for good -/

/-- `collectCmds` waits on its last send to `bufCh` and nothing will ever receive:
`cmdCh` is closed and drained, its buffer is not empty, `bufCh` is full, and the
flusher has left its loop. -/
structure Blocked
    (cfg : CaptureConfig)
    (encodedLen : Command → Nat)
    (s : CaptureSys) : Prop where
  collecting : s.collector = .collecting
  drained : s.cmdCh = []
  stopping : s.status = .stopping
  nonEmpty : 0 < bufLen encodedLen s.buf
  full : cfg.maxBuffers ≤ s.bufCh.length
  flusherGone : s.flusher ≠ .flushing

section Blocked

variable {cfg : CaptureConfig} {encodedLen : Command → Nat}

/-- A stopped capture accepts nothing, so the connections keep the collector blocked. -/
theorem ConnEffect.blocked
    {s s' : CaptureSys}
    (he : ConnEffect s s')
    (hb : Blocked cfg encodedLen s) :
    Blocked cfg encodedLen s' := by
  obtain ⟨L, hcmd, -, hL, -⟩ := he.sent
  have hL : L = [] := by
    rcases hL with hL | hrun
    · exact hL
    · rw [hb.stopping] at hrun
      cases hrun
  have hstop : s'.status = .stopping := by
    cases h : s'.status
    · have := he.status h
      rw [hb.stopping] at this
      cases this
    · rfl
  exact ⟨he.collector ▸ hb.collecting, by rw [hcmd, hb.drained, hL]; rfl, hstop,
    he.buf ▸ hb.nonEmpty, he.bufCh ▸ hb.full, he.flusher ▸ hb.flusherGone⟩

/-- No section of `Stop`, `collectCmds` or `flushBuffer` unblocks the collector:
each of the collector's needs `cmdCh` not drained, a full buffer or room in
`bufCh`, and the flusher's receive needs it in its loop. -/
theorem PipeStep.blocked
    {s s' : CaptureSys}
    (hp : PipeStep cfg encodedLen s s')
    (hb : Blocked cfg encodedLen s) :
    Blocked cfg encodedLen s' := by
  cases hp with
  | stop err =>
      exact (connEffect_stopNoLock s err).blocked hb
  | collectKeep _ hcmd _ | collectSend _ hcmd _ _ | collectFull _ hcmd _ _ =>
      rw [hb.drained] at hcmd
      cases hcmd
  | collectStop hcol =>
      rw [hb.collecting] at hcol
      cases hcol
  | collectEndSend _ _ _ _ hroom =>
      exact absurd hb.full (by omega)
  | collectEndEmpty _ _ _ hlen =>
      exact absurd hb.nonEmpty (by omega)
  | flushOk hfl _ | flushFail hfl _ | flushEnd hfl _ _ =>
      exact absurd hfl hb.flusherGone
  | flushStop _ =>
      obtain ⟨_, _, _, hstop⟩ := stopNoLock_eq_with s (some errFlushFailed)
      rw [hstop]
      exact ⟨hb.collecting, hb.drained, by simpa [hstop] using stopNoLock_status s (some errFlushFailed),
        hb.nonEmpty, hb.full, by simp⟩
  | closeLogger _ _ =>
      exact ⟨hb.collecting, hb.drained, hb.stopping, hb.nonEmpty, hb.full, by simp⟩
  | writeMeta _ _ =>
      exact ⟨hb.collecting, hb.drained, hb.stopping, hb.nonEmpty, hb.full, by simp⟩

/-- Once blocked, the collector stays blocked along every run. -/
theorem Blocked.of_run
    {progs : Nat → ConnProgram}
    {s s' : CaptureSys}
    (hb : Blocked cfg encodedLen s)
    (hrun : Relation.ReflTransGen (Transition.OfFn (captureStep cfg encodedLen progs)) s s') :
    Blocked cfg encodedLen s' := by
  induction hrun with
  | refl => exact hb
  | tail _ hstep ih =>
      obtain ⟨a, h⟩ := hstep
      by_cases ha : a.isConn
      · exact (connEffect_captureStep cfg encodedLen progs ha h).blocked ih
      · exact (pipeStep_of_captureStep cfg encodedLen progs ha h).blocked ih

end Blocked

/-- The limits of the package's test of the capture: a `flushThreshold` of 8 KiB, and
`maxBuffers` and `maxPendingCommands` at the defaults `Validate` fills in. -/
def testCaptureConfig : CaptureConfig :=
  ⟨8 * 1024, 10, 1 <<< 14⟩

/-- `StartTs.Format(time.RFC3339Nano)` of a start at a whole second in UTC. -/
def wholeSecondStartTs : List UInt8 :=
  ascii "2024-01-01T00:00:00Z"

/-- A query whose text alone is longer than the test's `flushThreshold`. -/
def bulkQuery : List UInt8 :=
  ComQuery :: (ascii "select '" ++ List.replicate 8190 97 ++ ascii "'")

/-- A connection that connects with database `d` (byte 100), sends eleven bulk queries and
a short `select 1`, and stays open. -/
def bulkProgram : ConnProgram where
  db := some [100]
  requests := List.replicate 11 bulkQuery ++ [ComQuery :: ascii "select 1"]
  closes := false
  quit_last := by decide

/-- The run: the connection's calls, then the collector sends `COM_INIT_DB` and the first
bulk query as one buffer, whose write fails; the flusher stops the capture and leaves its
loop, and the collector goes on, sending each of the other ten bulk queries on its own
until `bufCh` is full, and keeps the short query in its buffer. -/
def writeFailureRun : List Action :=
  [.initConn 1] ++ (List.replicate 12 [Action.check 1, .put 1]).flatten ++
    [.collect, .collect, .flush false, .flushStop] ++ List.replicate 11 .collect

/-- With the encoding `Command.Encode` writes and the test's limits, a run with one failed
write reaches a blocked collector: after the flusher left its loop the collector fills
`bufCh` with ten buffers, each longer than the threshold, and has the short query left,
under the threshold, when `cmdCh` is drained. -/
theorem writeFailureRun_blocked :
    ∃ s, CaptureReachable testCaptureConfig (Command.encodedLen wholeSecondStartTs)
        (fun _ => bulkProgram) s ∧
      s.failures = [errFlushFailed] ∧
      Blocked testCaptureConfig (Command.encodedLen wholeSecondStartTs) s := by
  obtain ⟨s, hrun⟩ : ∃ s, Transition.runActions (captureStep testCaptureConfig
      (Command.encodedLen wholeSecondStartTs) (fun _ => bulkProgram)) CaptureSys.init
      writeFailureRun = some s :=
    Option.isSome_iff_exists.mp (by decide +kernel)
  have hcol : (Transition.runActions (captureStep testCaptureConfig
      (Command.encodedLen wholeSecondStartTs) (fun _ => bulkProgram)) CaptureSys.init
      writeFailureRun).map (fun s => (s.failures, s.collector, s.cmdCh, s.status)) =
      some ([errFlushFailed], .collecting, [], .stopping) := by
    decide +kernel
  have hbuf : (Transition.runActions (captureStep testCaptureConfig
      (Command.encodedLen wholeSecondStartTs) (fun _ => bulkProgram)) CaptureSys.init
      writeFailureRun).map
      (fun s => (bufLen (Command.encodedLen wholeSecondStartTs) s.buf, s.bufCh.length, s.flusher)) =
      some (68, 10, .closing) := by
    decide +kernel
  simp only [hrun, Option.map_some, Option.some.injEq, Prod.mk.injEq] at hcol hbuf
  obtain ⟨hfail, hcol, hcmd, hstop⟩ := hcol
  obtain ⟨hlen, hfull, hfl⟩ := hbuf
  have hb : Blocked testCaptureConfig (Command.encodedLen wholeSecondStartTs) s :=
    ⟨hcol, hcmd, hstop, by rw [hlen]; decide, by rw [hfull]; decide, by rw [hfl]; decide⟩
  exact ⟨s, Transition.Reachable.of_runActions _ (Transition.Reachable.of_init rfl) hrun, hfail, hb⟩

/-- A reachable state has `collectCmds` blocked on its send to a full `bufCh` after
`flushBuffer` has left its receive loop, with `cmdCh` closed, and every run from it
keeps it so: `run`'s `wg.Wait` never returns. -/
theorem collectCmds_blocked_reachable :
    ∃ s, CaptureReachable testCaptureConfig (Command.encodedLen wholeSecondStartTs)
        (fun _ => bulkProgram) s ∧
      ∀ s', Relation.ReflTransGen (Transition.OfFn (captureStep testCaptureConfig
        (Command.encodedLen wholeSecondStartTs) (fun _ => bulkProgram))) s s' →
          Blocked testCaptureConfig (Command.encodedLen wholeSecondStartTs) s' := by
  obtain ⟨s, hs, -, hb⟩ := writeFailureRun_blocked
  exact ⟨s, hs, fun s' hs' => hb.of_run hs'⟩

end Capture
end TiProxy
