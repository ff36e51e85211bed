import TiProxy.Balance.Factors

/-!
# The factor list of the balance

`setFactors` of `factor_balance.go`: the factors a configuration selects, in
order, with the bit number checked by `updateBitNum` and `SetConfig` passed to each.
A factor of the list is `AnyFactor`, one constructor for each of the seven factor
types, and `realFactor` dispatches the interface on it.

`FactorBasedBalance` keeps a pointer to each factor besides the list; after each
`setFactors` a pointer is set exactly when its factor is in the list, so the
factor `setFactors` reuses is the one of that kind in the old list.  The metrics
reader is held by the health, memory and CPU factors as the function of its current
results.

**Results.**
* `realScores`: every real factor adds one score per backend or none, so the lemmas
  of `TiProxy.Balance.Factor` apply to the real factors.
* `realScores_nonneg`: every factor but the CPU factor adds scores of at least zero,
  the connection count factor on backends with a nonnegative connection score.
* `Init_default`, `Init_connection`: the factors `Init` selects, and their bit number,
  for the default configuration and for the connection policy.
-/

namespace TiProxy
namespace Balance

/-- A factor of `FactorBasedBalance.factors`, by its type. -/
inductive AnyFactor where
  | status (fs : FactorStatus)
  | label (fl : FactorLabel)
  | health (fh : FactorHealth)
  | memory (fm : FactorMemory)
  | cpu (fc : FactorCPU)
  | location (fl : FactorLocation)
  | connCount (fcc : FactorConnCount)

namespace AnyFactor

/-- `Name`. -/
def Name : AnyFactor → String
  | status _ => "status"
  | label _ => "label"
  | health _ => "health"
  | memory _ => "memory"
  | cpu _ => "cpu"
  | location _ => "location"
  | connCount _ => "conn"

/-- `UpdateScore`, at the time `now`. -/
def UpdateScore :
    AnyFactor → Nat → List scoredBackend → AnyFactor × List scoredBackend
  | status fs, _, backends => (fs.UpdateScore backends).map status id
  | label fl, _, backends => (fl.UpdateScore backends).map label id
  | health fh, now, backends => (fh.UpdateScore now backends).map health id
  | memory fm, now, backends => (fm.UpdateScore now backends).map memory id
  | cpu fc, now, backends => (fc.UpdateScore now backends).map cpu id
  | location fl, _, backends => (fl.UpdateScore backends).map location id
  | connCount fcc, _, backends => (fcc.UpdateScore backends).map connCount id

/-- `ScoreBitNum`. -/
def ScoreBitNum : AnyFactor → Nat
  | status fs => fs.bitNum
  | label fl => fl.bitNum
  | health fh => fh.bitNum
  | memory fm => fm.bitNum
  | cpu fc => fc.bitNum
  | location fl => fl.bitNum
  | connCount fcc => fcc.bitNum

/-- `BalanceCount`. -/
def BalanceCount : AnyFactor → scoredBackend → scoredBackend → ℚ
  | status fs => fs.BalanceCount
  | label fl => fl.BalanceCount
  | health fh => fh.BalanceCount
  | memory fm => fm.BalanceCount
  | cpu fc => fc.BalanceCount
  | location fl => fl.BalanceCount
  | connCount fcc => fcc.BalanceCount

/-- The CPU factor, the only one whose score can be negative. -/
def isCPU : AnyFactor → Bool
  | cpu _ => true
  | _ => false

end AnyFactor

/-- The seven factors behind the `Factor` interface. -/
def realFactor : Factor AnyFactor where
  Name := AnyFactor.Name
  UpdateScore := AnyFactor.UpdateScore
  ScoreBitNum := AnyFactor.ScoreBitNum
  BalanceCount := AnyFactor.BalanceCount

namespace AnyFactor

/-- The scores each factor adds to the backends `bcs` at `now`. -/
def scores : AnyFactor → Nat → List BackendCtx → Option (BackendCtx → Int)
  | status _, _, _ => some FactorStatus.scoreOf
  | label fl, _, bcs => fl.scores bcs
  | health fh, now, bcs => fh.scores now bcs
  | memory fm, now, bcs => fm.scores now bcs
  | cpu fc, now, bcs => fc.scores now bcs
  | location _, _, bcs => FactorLocation.scores bcs
  | connCount _, _, _ => some (·.ConnScore)

/-- The state each factor moves to on the backends `bcs` at `now`. -/
def next : AnyFactor → Nat → List BackendCtx → AnyFactor
  | status fs, _, bcs => status (fs.updateSnapshot bcs)
  | label fl, _, _ => label fl
  | health fh, now, bcs => health (fh.next now bcs)
  | memory fm, now, bcs => memory (fm.next now bcs)
  | cpu fc, now, bcs => cpu (fc.next now bcs)
  | location fl, _, _ => location fl
  | connCount fcc, _, _ => connCount fcc

theorem UpdateScore_eq
    (f : AnyFactor)
    (now : Nat)
    (backends : List scoredBackend) :
    f.UpdateScore now backends =
      (f.next now (backends.map (·.BackendCtx)),
        addScores (f.scores now (backends.map (·.BackendCtx))) f.ScoreBitNum backends) := by
  cases f with
  | status fs => simp only [UpdateScore, FactorStatus.UpdateScore_eq]; rfl
  | label fl => simp only [UpdateScore, FactorLabel.UpdateScore_eq]; rfl
  | health fh => simp only [UpdateScore, FactorHealth.UpdateScore_eq]; rfl
  | memory fm => simp only [UpdateScore, FactorMemory.UpdateScore_eq]; rfl
  | cpu fc => simp only [UpdateScore, FactorCPU.UpdateScore_eq]; rfl
  | location fl => simp only [UpdateScore, FactorLocation.UpdateScore_eq]; rfl
  | connCount fcc => simp only [UpdateScore, FactorConnCount.UpdateScore_eq]; rfl

@[simp] theorem ScoreBitNum_next
    (f : AnyFactor)
    (now : Nat)
    (bcs : List BackendCtx) :
    (f.next now bcs).ScoreBitNum = f.ScoreBitNum := by
  cases f <;> simp [next, ScoreBitNum, FactorStatus.updateSnapshot]

end AnyFactor

/-- Every real factor adds one score per backend or none. -/
def realScores : AddsScores realFactor where
  scores := AnyFactor.scores
  next := AnyFactor.next
  updateScore_eq := AnyFactor.UpdateScore_eq
  scoreBitNum_next := AnyFactor.ScoreBitNum_next

/-! ### Scores of at least zero -/

theorem FactorStatus.scoreOf_nonneg
    (b : BackendCtx) :
    0 ≤ FactorStatus.scoreOf b := by
  unfold FactorStatus.scoreOf
  split <;> decide

theorem FactorLabel.scores_nonneg
    {fl : FactorLabel}
    {bcs : List BackendCtx}
    {score : BackendCtx → Int}
    (h : fl.scores bcs = some score)
    (b : BackendCtx) :
    0 ≤ score b := by
  unfold FactorLabel.scores at h
  split at h
  · cases h
  · cases h
    unfold FactorLabel.scoreOf
    split
    · split <;> decide
    · decide

theorem FactorLocation.scores_nonneg
    {bcs : List BackendCtx}
    {score : BackendCtx → Int}
    (h : FactorLocation.scores bcs = some score)
    (b : BackendCtx) :
    0 ≤ score b := by
  unfold FactorLocation.scores at h
  split at h
  · cases h
  · cases h
    unfold FactorLocation.scoreOf
    split <;> decide

theorem FactorHealth.caclErrScore_nonneg
    (fh : FactorHealth)
    (addr : String) :
    0 ≤ fh.caclErrScore addr := by
  -- the score is a value range, a natural number
  unfold FactorHealth.caclErrScore
  cases fh.snapshot.lookup addr <;> simp

theorem FactorHealth.scores_nonneg
    {fh : FactorHealth}
    {now : Nat}
    {bcs : List BackendCtx}
    {score : BackendCtx → Int}
    (h : fh.scores now bcs = some score)
    (b : BackendCtx) :
    0 ≤ score b := by
  unfold FactorHealth.scores at h
  split at h
  · cases h
  · rcases hr : fh.refreshed with ⟨fh', needUpdateSnapshot, latestTime⟩
    rw [hr] at h
    dsimp only at h
    split at h
    · cases h
    · cases h
      exact FactorHealth.caclErrScore_nonneg _ _

theorem FactorMemory.scores_nonneg
    {fm : FactorMemory}
    {now : Nat}
    {bcs : List BackendCtx}
    {score : BackendCtx → Int}
    (h : fm.scores now bcs = some score)
    (b : BackendCtx) :
    0 ≤ score b := by
  unfold FactorMemory.scores at h
  split at h
  · cases h
  · simp only [Option.ite_none_left_eq_some, Option.some.injEq] at h
    obtain ⟨_, rfl⟩ := h
    -- the score is a risk level, a natural number
    exact Int.natCast_nonneg _

/-- Every factor but the CPU factor scores each backend at least zero; the connection
count factor scores it by its connection score. -/
theorem realScores_nonneg
    {f : AnyFactor}
    {now : Nat}
    {bcs : List BackendCtx}
    {score : BackendCtx → Int}
    (hscores : realScores.scores f now bcs = some score)
    (hcpu : f.isCPU = false)
    (b : BackendCtx)
    (hconn : 0 ≤ b.ConnScore) :
    0 ≤ score b := by
  cases f with
  | status fs =>
      cases hscores
      exact FactorStatus.scoreOf_nonneg b
  | label fl => exact FactorLabel.scores_nonneg hscores b
  | health fh => exact FactorHealth.scores_nonneg hscores b
  | memory fm => exact FactorMemory.scores_nonneg hscores b
  | cpu fc => cases hcpu
  | location fl => exact FactorLocation.scores_nonneg hscores b
  | connCount fcc =>
      cases hscores
      exact hconn

/-! ### The configuration and `setFactors` -/

/-- `config.BalancePolicyResource`. -/
def BalancePolicyResource : String := "resource"

/-- `config.BalancePolicyLocation`. -/
def BalancePolicyLocation : String := "location"

/-- `config.BalancePolicyConnection`. -/
def BalancePolicyConnection : String := "connection"

/-- `config.Balance`. -/
structure BalanceConfig where
  LabelName : String
  Policy : String
deriving DecidableEq, Repr

set_option linter.dupNamespace false in
/-- What the factors read of `config.Config`: the balance section and the proxy's
labels (`none` for a nil map). -/
structure Config where
  Balance : BalanceConfig
  Labels : Option (List (String × String))
deriving DecidableEq, Repr

/-- `config.DefaultBalance`. -/
def DefaultBalance : BalanceConfig :=
  { LabelName := "", Policy := BalancePolicyResource }

/-- `FactorLabel.SetConfig`: the label name, and this proxy's value of it when the
name is set and the proxy has labels. -/
def FactorLabel.SetConfig
    (fl : FactorLabel)
    (cfg : Config) : FactorLabel :=
  let fl := { fl with labelName := cfg.Balance.LabelName }
  match cfg.Labels with
  | some labels =>
      if fl.labelName.length > 0 then
        { fl with selfLabelVal := (labels.lookup fl.labelName).getD "" }
      else fl
  | none => fl

/-- `SetConfig`: only the label factor reads the configuration. -/
def AnyFactor.SetConfig
    (cfg : Config) : AnyFactor → AnyFactor
  | .label fl => .label (fl.SetConfig cfg)
  | f => f

/-- The pointers of `FactorBasedBalance` to its factors, read off its factor list. -/
structure FactorPointers where
  factorStatus : Option FactorStatus
  factorLabel : Option FactorLabel
  factorHealth : Option FactorHealth
  factorMemory : Option FactorMemory
  factorCPU : Option FactorCPU
  factorLocation : Option FactorLocation
  factorConnCount : Option FactorConnCount

/-- The empty pointers of `NewFactorBasedBalance`. -/
def FactorPointers.none : FactorPointers :=
  ⟨Option.none, Option.none, Option.none, Option.none, Option.none, Option.none, Option.none⟩

/-- One factor of the list sets its pointer. -/
def FactorPointers.set
    (ptrs : FactorPointers) : AnyFactor → FactorPointers
  | .status fs => { ptrs with factorStatus := some fs }
  | .label fl => { ptrs with factorLabel := some fl }
  | .health fh => { ptrs with factorHealth := some fh }
  | .memory fm => { ptrs with factorMemory := some fm }
  | .cpu fc => { ptrs with factorCPU := some fc }
  | .location fl => { ptrs with factorLocation := some fl }
  | .connCount fcc => { ptrs with factorConnCount := some fcc }

/-- The pointers of a factor list. -/
def FactorPointers.ofFactors
    (factors : List AnyFactor) : FactorPointers :=
  factors.foldl FactorPointers.set FactorPointers.none

/-- `setFactors`: the status factor, the label factor when a label name is set, the
resource factors in the order of the policy, and the connection count factor, each
reused when there was one; then `updateBitNum`, whose error Go panics with, and
`SetConfig` on each factor.  The metrics reader `mr` is the balance's. -/
def setFactors
    (mr : MetricsReader)
    (fbb : FactorBasedBalance AnyFactor)
    (cfg : Config) : Except String (FactorBasedBalance AnyFactor) :=
  let ptrs := FactorPointers.ofFactors fbb.factors
  let factorStatus := ptrs.factorStatus.getD NewFactorStatus
  let factorLabel := ptrs.factorLabel.getD NewFactorLabel
  let factorLocation := ptrs.factorLocation.getD NewFactorLocation
  let factorHealth := ptrs.factorHealth.getD (NewFactorHealth mr)
  let factorMemory := ptrs.factorMemory.getD (NewFactorMemory mr)
  let factorCPU := ptrs.factorCPU.getD (NewFactorCPU mr)
  let factorConnCount := ptrs.factorConnCount.getD NewFactorConnCount
  let factors :=
    [AnyFactor.status factorStatus] ++
    (if cfg.Balance.LabelName ≠ "" then [AnyFactor.label factorLabel] else []) ++
    (if cfg.Balance.Policy = BalancePolicyResource then
      [.health factorHealth, .memory factorMemory, .cpu factorCPU, .location factorLocation]
    else if cfg.Balance.Policy = BalancePolicyLocation then
      [.location factorLocation, .health factorHealth, .memory factorMemory, .cpu factorCPU]
    else []) ++
    [AnyFactor.connCount factorConnCount]
  match updateBitNum realFactor { fbb with factors := factors } with
  | .error err => .error err
  | .ok fbb => .ok { fbb with factors := fbb.factors.map (·.SetConfig cfg) }

/-- `NewFactorBasedBalance`: no factors yet. -/
def NewFactorBasedBalance : FactorBasedBalance AnyFactor :=
  ⟨[], 0⟩

/-- `Init`. -/
def Init
    (mr : MetricsReader)
    (cfg : Config) : Except String (FactorBasedBalance AnyFactor) :=
  setFactors mr NewFactorBasedBalance cfg

/-- The default configuration selects the resource factors, fresh, in 27 bits. -/
theorem Init_default
    (mr : MetricsReader)
    (labels : Option (List (String × String))) :
    Init mr ⟨DefaultBalance, labels⟩ =
      .ok ⟨[.status NewFactorStatus, .health (NewFactorHealth mr), .memory (NewFactorMemory mr),
        .cpu (NewFactorCPU mr), .location NewFactorLocation, .connCount NewFactorConnCount], 27⟩ :=
  rfl

/-- The connection policy without a label selects the status and connection count
factors, in 17 bits. -/
theorem Init_connection
    (mr : MetricsReader)
    (labels : Option (List (String × String))) :
    Init mr ⟨⟨"", BalancePolicyConnection⟩, labels⟩ =
      .ok ⟨[.status NewFactorStatus, .connCount NewFactorConnCount], 17⟩ :=
  rfl

end Balance
end TiProxy
