import Mathlib.Data.List.AList
import TiProxy.Balance.Factor

/-!
# The factors

A model of the seven factors of `pkg/balance/factor` and of `setFactors`: status,
label, health, memory, CPU, location and connection count, each with its state, its
`UpdateScore`, `ScoreBitNum` and `BalanceCount`, and `AnyFactor`, the factor list of
`FactorBasedBalance` with the interface dispatched on the kind.

Times and durations are nanoseconds; a metric timestamp is in milliseconds, as
`model.Time` is.  A metric value is `none` where it is NaN.  A metrics query result is
what the factors read of it; the series of a backend is found by its address.  A Go
map is an `AList`, and reading a missing key gives the zero value.

**Results.**
* `UpdateScore_eq`, one for each factor: `UpdateScore` moves the factor to its `next`
  state and adds its `scores`, one score to every backend or none.
* `next_bitNum`, `renew_bitNum`: no factor changes its bit number.
-/

namespace TiProxy
namespace Balance

/-! ### Metrics -/

/-- A second, in nanoseconds. -/
def second : Nat := 10 ^ 9

/-- A minute, in nanoseconds. -/
def minute : Nat := 60 * second

/-- `time.UnixMilli`: a timestamp in milliseconds as a time. -/
def UnixMilli
    (ms : Nat) : Nat :=
  ms * 10 ^ 6

/-- `model.SamplePair`: a timestamp in milliseconds and a value, `none` for NaN. -/
structure SamplePair where
  Timestamp : Nat
  Value : Option ℚ
deriving DecidableEq, Repr

/-- What the factors read of a `metricsreader.QueryResult`: whether it is empty, when
it was updated, and for each backend address its sample (`none` for a nil sample) or
its samples over time. -/
structure QueryResult where
  Empty : Bool
  UpdateTime : Nat
  GetSample4Backend : String → Option (Option ℚ)
  GetSamplePair4Backend : String → List SamplePair

/-- The zero `QueryResult`. -/
def QueryResult.zero : QueryResult :=
  ⟨true, 0, fun _ => none, fun _ => []⟩

/-- `MetricsReader.GetQueryResult`: the current result of each query, by key. -/
def MetricsReader := String → QueryResult

/-- Go's `int(x)` of a `float64`: truncation toward zero. -/
def goInt
    (x : ℚ) : Int :=
  x.num.tdiv x.den

/-! ### Status -/

/-- `balanceSeconds4Status`. -/
def balanceSeconds4Status : ℚ := 5

/-- `statusBackendSnapshot`. -/
structure statusBackendSnapshot where
  balanceCount : ℚ
deriving DecidableEq, Repr

/-- `FactorStatus`. -/
structure FactorStatus where
  snapshot : AList (fun _ : String => statusBackendSnapshot)
  bitNum : Nat

/-- `NewFactorStatus`. -/
def NewFactorStatus : FactorStatus :=
  ⟨∅, 1⟩

namespace FactorStatus

/-- The balance count of one backend: kept from the last round while it stays
unhealthy, else its connections over `balanceSeconds4Status`, and 0 when healthy. -/
def snapshotOf
    (fs : FactorStatus)
    (b : BackendCtx) : statusBackendSnapshot :=
  if ¬b.Healthy then
    match fs.snapshot.lookup b.Addr with
    | some snapshot =>
        if snapshot.balanceCount > 0.0001 then ⟨snapshot.balanceCount⟩
        else ⟨b.ConnScore / balanceSeconds4Status⟩
    | none => ⟨b.ConnScore / balanceSeconds4Status⟩
  else ⟨0⟩

/-- `updateSnapshot`; it reads only the backend of each scored backend. -/
def updateSnapshot
    (fs : FactorStatus)
    (backends : List BackendCtx) : FactorStatus :=
  { fs with
    snapshot := backends.foldl (fun snapshots b => snapshots.insert b.Addr (fs.snapshotOf b)) ∅ }

/-- The score of `UpdateScore`: 1 for an unhealthy backend. -/
def scoreOf
    (b : BackendCtx) : Int :=
  if b.Healthy then 0 else 1

/-- `UpdateScore`. -/
def UpdateScore
    (fs : FactorStatus)
    (backends : List scoredBackend) : FactorStatus × List scoredBackend :=
  let fs := fs.updateSnapshot (backends.map (·.BackendCtx))
  (fs, backends.map fun b => b.addScore (scoreOf b.BackendCtx) fs.bitNum)

theorem UpdateScore_eq
    (fs : FactorStatus)
    (backends : List scoredBackend) :
    fs.UpdateScore backends =
      (fs.updateSnapshot (backends.map (·.BackendCtx)), addScores (some scoreOf) fs.bitNum backends) := rfl

/-- `BalanceCount`: the balance count of the busiest backend's snapshot. -/
def BalanceCount
    (fs : FactorStatus)
    (fromBackend _toBackend : scoredBackend) : ℚ :=
  ((fs.snapshot.lookup fromBackend.BackendCtx.Addr).map (·.balanceCount)).getD 0

end FactorStatus

/-! ### Label -/

/-- `balanceCount4Label`. -/
def balanceCount4Label : ℚ := 1

/-- `FactorLabel`: the label to match and this proxy's value of it. -/
structure FactorLabel where
  labelName : String
  selfLabelVal : String
  bitNum : Nat
deriving DecidableEq, Repr

/-- `NewFactorLabel`. -/
def NewFactorLabel : FactorLabel :=
  ⟨"", "", 1⟩

namespace FactorLabel

/-- The score of `UpdateScore`: 0 for a backend with this proxy's label value. -/
def scoreOf
    (fl : FactorLabel)
    (b : BackendCtx) : Int :=
  match b.Labels with
  | some labels => if (labels.lookup fl.labelName).getD "" = fl.selfLabelVal then 0 else 1
  | none => 1

/-- `UpdateScore`: nothing without a label or with one backend. -/
def UpdateScore
    (fl : FactorLabel)
    (backends : List scoredBackend) : FactorLabel × List scoredBackend :=
  if fl.labelName.length = 0 ∨ fl.selfLabelVal.length = 0 ∨ backends.length ≤ 1 then
    (fl, backends)
  else
    (fl, backends.map fun b => b.addScore (fl.scoreOf b.BackendCtx) fl.bitNum)

/-- The scores `UpdateScore` adds. -/
def scores
    (fl : FactorLabel)
    (backends : List BackendCtx) : Option (BackendCtx → Int) :=
  if fl.labelName.length = 0 ∨ fl.selfLabelVal.length = 0 ∨ backends.length ≤ 1 then none
  else some fl.scoreOf

theorem UpdateScore_eq
    (fl : FactorLabel)
    (backends : List scoredBackend) :
    fl.UpdateScore backends = (fl, addScores (fl.scores (backends.map (·.BackendCtx))) fl.bitNum backends) := by
  unfold UpdateScore scores
  rw [List.length_map]
  split <;> rfl

/-- `BalanceCount`. -/
def BalanceCount
    (_fl : FactorLabel)
    (_fromBackend _toBackend : scoredBackend) : ℚ :=
  balanceCount4Label

end FactorLabel

/-! ### Location -/

/-- `balanceCount4Location`. -/
def balanceCount4Location : ℚ := 1

/-- `FactorLocation`. -/
structure FactorLocation where
  bitNum : Nat
deriving DecidableEq, Repr

/-- `NewFactorLocation`. -/
def NewFactorLocation : FactorLocation :=
  ⟨1⟩

namespace FactorLocation

/-- The score of `UpdateScore`: 0 for a local backend. -/
def scoreOf
    (b : BackendCtx) : Int :=
  if b.Local then 0 else 1

/-- `UpdateScore`: nothing with one backend. -/
def UpdateScore
    (fl : FactorLocation)
    (backends : List scoredBackend) : FactorLocation × List scoredBackend :=
  if backends.length ≤ 1 then
    (fl, backends)
  else
    (fl, backends.map fun b => b.addScore (scoreOf b.BackendCtx) fl.bitNum)

/-- The scores `UpdateScore` adds. -/
def scores
    (backends : List BackendCtx) : Option (BackendCtx → Int) :=
  if backends.length ≤ 1 then none else some scoreOf

theorem UpdateScore_eq
    (fl : FactorLocation)
    (backends : List scoredBackend) :
    fl.UpdateScore backends = (fl, addScores (scores (backends.map (·.BackendCtx))) fl.bitNum backends) := by
  unfold UpdateScore scores
  rw [List.length_map]
  split <;> rfl

/-- `BalanceCount`. -/
def BalanceCount
    (_fl : FactorLocation)
    (_fromBackend _toBackend : scoredBackend) : ℚ :=
  balanceCount4Location

end FactorLocation

/-! ### Connection count -/

/-- `connBalancedRatio`. -/
def connBalancedRatio : ℚ := 1.2

/-- `balanceCount4Conn`. -/
def balanceCount4Conn : ℚ := 1

/-- `FactorConnCount`. -/
structure FactorConnCount where
  bitNum : Nat
deriving DecidableEq, Repr

/-- `NewFactorConnCount`. -/
def NewFactorConnCount : FactorConnCount :=
  ⟨16⟩

namespace FactorConnCount

/-- `UpdateScore`: the score is the connection score. -/
def UpdateScore
    (fcc : FactorConnCount)
    (backends : List scoredBackend) : FactorConnCount × List scoredBackend :=
  (fcc, backends.map fun b => b.addScore b.BackendCtx.ConnScore fcc.bitNum)

theorem UpdateScore_eq
    (fcc : FactorConnCount)
    (backends : List scoredBackend) :
    fcc.UpdateScore backends = (fcc, addScores (some (·.ConnScore)) fcc.bitNum backends) := rfl

/-- `BalanceCount`: one connection a round while the busiest has more than
`connBalancedRatio` times the idlest's connections plus one. -/
def BalanceCount
    (_fcc : FactorConnCount)
    (fromBackend toBackend : scoredBackend) : ℚ :=
  if (fromBackend.BackendCtx.ConnScore : ℚ) > ((toBackend.BackendCtx.ConnScore + 1 : Int) : ℚ) * connBalancedRatio then
    balanceCount4Conn
  else
    0

end FactorConnCount

/-! ### Health -/

/-- `errMetricExpDuration`. -/
def errMetricExpDuration : Nat := minute

/-- `balanceSeconds4Health`. -/
def balanceSeconds4Health : ℚ := 5

/-- `valueRangeNormal`: at most the recover threshold. -/
def valueRangeNormal : Nat := 0

/-- `valueRangeMid`: between the thresholds. -/
def valueRangeMid : Nat := 1

/-- `valueRangeAbnormal`: at least the fail threshold. -/
def valueRangeAbnormal : Nat := 2

/-- `errIndicator`: the latest result of one error query and its thresholds; the
query itself is the metrics reader's. -/
structure errIndicator where
  queryResult : QueryResult
  key : String
  failThreshold : Int
  recoverThreshold : Int

/-- The keys and thresholds of `errDefinitions`. -/
def errDefinitions : List (String × Int × Int) :=
  [("health_pd", 50, 10), ("health_tikv", 1000, 100)]

/-- `initErrIndicator`. -/
def initErrIndicator : List errIndicator :=
  errDefinitions.map fun (key, failThreshold, recoverThreshold) =>
    ⟨QueryResult.zero, key, failThreshold, recoverThreshold⟩

/-- `healthBackendSnapshot`. -/
structure healthBackendSnapshot where
  updatedTime : Nat
  valueRange : Nat
  balanceCount : ℚ
deriving DecidableEq, Repr

/-- `FactorHealth`. -/
structure FactorHealth where
  snapshot : AList (fun _ : String => healthBackendSnapshot)
  indicators : List errIndicator
  mr : MetricsReader
  bitNum : Nat

/-- `NewFactorHealth`. -/
def NewFactorHealth
    (mr : MetricsReader) : FactorHealth :=
  ⟨∅, initErrIndicator, mr, 2⟩

/-- `calcValueRange`: a missing or NaN sample is normal; the thresholds may be in
either order. -/
def calcValueRange
    (sample : Option (Option ℚ))
    (indicator : errIndicator) : Nat :=
  match sample with
  | none => valueRangeNormal
  | some none => valueRangeNormal
  | some (some v) =>
      let value := goInt v
      if indicator.failThreshold > indicator.recoverThreshold then
        if value ≤ indicator.recoverThreshold then valueRangeNormal
        else if value ≥ indicator.failThreshold then valueRangeAbnormal
        else valueRangeMid
      else
        if value ≥ indicator.recoverThreshold then valueRangeNormal
        else if value ≤ indicator.failThreshold then valueRangeAbnormal
        else valueRangeMid

namespace FactorHealth

/-- The indicator loop of `UpdateScore`: take each non-empty result, note whether any
is new, and the latest update time. -/
def refreshIndicators
    (mr : MetricsReader) :
    List errIndicator → Bool → Nat → List errIndicator × Bool × Nat
  | [], needUpdateSnapshot, latestTime => ([], needUpdateSnapshot, latestTime)
  | indicator :: indicators, needUpdateSnapshot, latestTime =>
      let qr := mr indicator.key
      if qr.Empty then
        let (indicators, needUpdateSnapshot, latestTime) :=
          refreshIndicators mr indicators needUpdateSnapshot latestTime
        (indicator :: indicators, needUpdateSnapshot, latestTime)
      else
        let (indicator, needUpdateSnapshot) :=
          if indicator.queryResult.UpdateTime ≠ qr.UpdateTime then
            ({ indicator with queryResult := qr }, true)
          else (indicator, needUpdateSnapshot)
        let latestTime := if qr.UpdateTime > latestTime then qr.UpdateTime else latestTime
        let (indicators, needUpdateSnapshot, latestTime) :=
          refreshIndicators mr indicators needUpdateSnapshot latestTime
        (indicator :: indicators, needUpdateSnapshot, latestTime)

/-- The indicator loop of `updateSnapshot` for one backend: the latest update time and
the worst value range among the indicators that are not stale. -/
def currentRange
    (now : Nat)
    (addr : String) : List errIndicator → Nat → Nat → Nat × Nat
  | [], updatedTime, valueRange => (updatedTime, valueRange)
  | indicator :: indicators, updatedTime, valueRange =>
      let ts := indicator.queryResult.UpdateTime
      if now - ts > errMetricExpDuration then
        currentRange now addr indicators updatedTime valueRange
      else
        let updatedTime := if ts > updatedTime then ts else updatedTime
        let vr := calcValueRange (indicator.queryResult.GetSample4Backend addr) indicator
        let valueRange := if vr > valueRange then vr else valueRange
        currentRange now addr indicators updatedTime valueRange

/-- `updateSnapshot`: for each backend, the current value range and, for an abnormal
one, its balance count; a backend without fresh metrics keeps a snapshot younger than
`errMetricExpDuration`. -/
def updateSnapshot
    (fh : FactorHealth)
    (now : Nat)
    (backends : List BackendCtx) : FactorHealth :=
  let step := fun (snapshots : AList (fun _ : String => healthBackendSnapshot)) (b : BackendCtx) =>
    let (updatedTime, valueRange) := currentRange now b.Addr fh.indicators 0 valueRangeNormal
    let existing := fh.snapshot.lookup b.Addr
    if updatedTime = 0 then
      match existing with
      | some snapshot =>
          if now - snapshot.updatedTime < errMetricExpDuration then snapshots.insert b.Addr snapshot
          else snapshots
      | none => snapshots
    else
      let balanceCount : ℚ :=
        if valueRange ≥ valueRangeAbnormal then
          match existing with
          | some snapshot =>
              if snapshot.balanceCount > 0.0001 then snapshot.balanceCount
              else b.ConnScore / balanceSeconds4Health
          | none => b.ConnScore / balanceSeconds4Health
        else 0
      snapshots.insert b.Addr ⟨updatedTime, valueRange, balanceCount⟩
  { fh with snapshot := backends.foldl step ∅ }

/-- `caclErrScore`: the value range of the snapshot, normal without one. -/
def caclErrScore
    (fh : FactorHealth)
    (addr : String) : Int :=
  ((fh.snapshot.lookup addr).map (·.valueRange)).getD 0

/-- The first part of `UpdateScore`: the indicators with the current results, whether
any is new, and the latest update time. -/
def refreshed
    (fh : FactorHealth) : FactorHealth × Bool × Nat :=
  let (indicators, needUpdateSnapshot, latestTime) := refreshIndicators fh.mr fh.indicators false 0
  ({ fh with indicators := indicators }, needUpdateSnapshot, latestTime)

@[simp] theorem updateSnapshot_bitNum
    (fh : FactorHealth)
    (now : Nat)
    (backends : List BackendCtx) :
    (fh.updateSnapshot now backends).bitNum = fh.bitNum := rfl

@[simp] theorem refreshed_bitNum
    (fh : FactorHealth) :
    fh.refreshed.1.bitNum = fh.bitNum := rfl

/-- `UpdateScore`: nothing with one backend or when every error metric is stale. -/
def UpdateScore
    (fh : FactorHealth)
    (now : Nat)
    (backends : List scoredBackend) : FactorHealth × List scoredBackend :=
  if backends.length ≤ 1 then
    (fh, backends)
  else
    let (fh, needUpdateSnapshot, latestTime) := fh.refreshed
    if now - latestTime > errMetricExpDuration then
      (fh, backends)
    else
      let fh := if needUpdateSnapshot then fh.updateSnapshot now (backends.map (·.BackendCtx)) else fh
      (fh, backends.map fun b => b.addScore (fh.caclErrScore b.BackendCtx.Addr) fh.bitNum)

/-- The state `UpdateScore` leaves. -/
def next
    (fh : FactorHealth)
    (now : Nat)
    (backends : List BackendCtx) : FactorHealth :=
  if backends.length ≤ 1 then fh
  else
    let (fh, needUpdateSnapshot, latestTime) := fh.refreshed
    if now - latestTime > errMetricExpDuration then fh
    else if needUpdateSnapshot then fh.updateSnapshot now backends else fh

/-- The scores `UpdateScore` adds. -/
def scores
    (fh : FactorHealth)
    (now : Nat)
    (backends : List BackendCtx) : Option (BackendCtx → Int) :=
  if backends.length ≤ 1 then none
  else
    let (fh, needUpdateSnapshot, latestTime) := fh.refreshed
    if now - latestTime > errMetricExpDuration then none
    else
      let fh := if needUpdateSnapshot then fh.updateSnapshot now backends else fh
      some fun b => fh.caclErrScore b.Addr

theorem UpdateScore_eq
    (fh : FactorHealth)
    (now : Nat)
    (backends : List scoredBackend) :
    fh.UpdateScore now backends =
      (fh.next now (backends.map (·.BackendCtx)),
        addScores (fh.scores now (backends.map (·.BackendCtx))) fh.bitNum backends) := by
  unfold UpdateScore next scores
  rw [List.length_map]
  split
  · rfl
  · rcases hr : fh.refreshed with ⟨fh', needUpdateSnapshot, latestTime⟩
    have hbit : fh'.bitNum = fh.bitNum := by
      rw [← refreshed_bitNum fh, hr]
    dsimp only
    by_cases hstale : now - latestTime > errMetricExpDuration
    · simp only [hstale, if_true, addScores]
    · simp only [hstale, if_false]
      cases needUpdateSnapshot <;> simp [addScores, hbit]

@[simp] theorem next_bitNum
    (fh : FactorHealth)
    (now : Nat)
    (backends : List BackendCtx) :
    (fh.next now backends).bitNum = fh.bitNum := by
  unfold next
  split
  · rfl
  · rcases hr : fh.refreshed with ⟨fh', needUpdateSnapshot, latestTime⟩
    have hbit : fh'.bitNum = fh.bitNum := by
      rw [← refreshed_bitNum fh, hr]
    dsimp only
    split_ifs <;> simp [hbit]

/-- `BalanceCount`: only from an abnormal backend to a normal one. -/
def BalanceCount
    (fh : FactorHealth)
    (fromBackend toBackend : scoredBackend) : ℚ :=
  let fromScore := fh.caclErrScore fromBackend.BackendCtx.Addr
  let toScore := fh.caclErrScore toBackend.BackendCtx.Addr
  if fromScore - toScore ≤ 1 then 0
  else ((fh.snapshot.lookup fromBackend.BackendCtx.Addr).map (·.balanceCount)).getD 0

end FactorHealth

/-! ### Memory -/

/-- `oomMemoryUsage`: the usage at which a backend is taken as out of memory. -/
def oomMemoryUsage : ℚ := 0.9

/-- `memMetricExpDuration`. -/
def memMetricExpDuration : Nat := minute

/-- `balanceSeconds4HighMemory`. -/
def balanceSeconds4HighMemory : ℚ := 60

/-- `balanceSeconds4OOMRisk`. -/
def balanceSeconds4OOMRisk : ℚ := 5

/-- `math.MaxInt64`, the time to OOM of a backend whose memory does not grow. -/
def maxInt64 : Int := 2 ^ 63 - 1

/-- `oomRiskLevels`: the usage and the time to OOM of each level, most severe first. -/
def oomRiskLevels : List (ℚ × Int) :=
  [(0.75, minute), (0.6, 5 * minute)]

/-- `getRiskLevel`: 2 for a high risk, 1 for a low one, 0 for none, and whether the
level comes from the time to OOM. -/
def getRiskLevel
    (usage : ℚ)
    (timeToOOM : Int) : Nat × Bool :=
  let rec go : Nat → List (ℚ × Int) → Nat × Bool
    | _, [] => (0, false)
    | j, (memUsage, levelTime) :: levels =>
        if timeToOOM < levelTime then (oomRiskLevels.length - j, true)
        else if usage > memUsage then (oomRiskLevels.length - j, false)
        else go (j + 1) levels
  go 0 oomRiskLevels

/-- The bit number `NewFactorMemory` computes: the bits of the number of levels. -/
def bitsOf : Nat → Nat → Nat
  | 0, _ => 0
  | fuel + 1, levels => if levels = 0 then 0 else bitsOf fuel (levels >>> 1) + 1

/-- `memBackendSnapshot`. -/
structure memBackendSnapshot where
  updatedTime : Nat
  memUsage : ℚ
  timeToOOM : Int
  balanceCount : ℚ
deriving DecidableEq, Repr

/-- `FactorMemory`. -/
structure FactorMemory where
  snapshot : AList (fun _ : String => memBackendSnapshot)
  lastMetricTime : Nat
  mr : MetricsReader
  bitNum : Nat

/-- `NewFactorMemory`. -/
def NewFactorMemory
    (mr : MetricsReader) : FactorMemory :=
  ⟨∅, 0, mr, bitsOf oomRiskLevels.length oomRiskLevels.length⟩

/-- `calcMemUsage`: the latest usage, cut at `oomMemoryUsage`, and the time to OOM
extrapolated from the last sample at least ten seconds older, walking back from the
latest sample. -/
def calcMemUsage
    (usageHistory : List SamplePair) : ℚ × Int :=
  -- the loop state: the latest usage and its time, and the time to OOM
  let rec go : List SamplePair → ℚ → Nat → Int → ℚ × Int
    | [], latestUsage, _, timeToOOM => (latestUsage, timeToOOM)
    | pair :: older, latestUsage, latestTime, timeToOOM =>
        match pair.Value with
        | none => go older latestUsage latestTime timeToOOM
        | some value =>
            let value := if value > oomMemoryUsage then oomMemoryUsage else value
            if latestUsage < 0 then
              go older value pair.Timestamp timeToOOM
            else
              let timeDiff : Int := ((latestTime : Int) - pair.Timestamp) * 10 ^ 6
              if timeDiff < 10 * second then
                go older latestUsage latestTime timeToOOM
              else
                let usageDiff := latestUsage - value
                let timeToOOM :=
                  if usageDiff > 1e-4 then timeDiff * goInt ((oomMemoryUsage - latestUsage) / usageDiff)
                  else timeToOOM
                (latestUsage, timeToOOM)
  if usageHistory.length = 0 then (-1, maxInt64)
  else go usageHistory.reverse (-1) 0 maxInt64

namespace FactorMemory

/-- `calcMemScore`: the risk level of the snapshot, 0 without one. -/
def calcMemScore
    (fm : FactorMemory)
    (addr : String) : Nat × Bool :=
  match fm.snapshot.lookup addr with
  | none => (0, false)
  | some snapshot =>
      if snapshot.memUsage < 0 then (0, false)
      else getRiskLevel snapshot.memUsage snapshot.timeToOOM

/-- `calcBalanceCount`: for a high risk, the connections over the seconds the level
allows, never less than the last round's count. -/
def calcBalanceCount
    (fm : FactorMemory)
    (backend : BackendCtx)
    (usage : ℚ)
    (timeToOOM : Int) : ℚ :=
  let (score, isOOM) := getRiskLevel usage timeToOOM
  if score < 2 then 0
  else
    let seconds := if isOOM then balanceSeconds4OOMRisk else balanceSeconds4HighMemory
    let balanceCount := (backend.ConnScore : ℚ) / seconds
    let last := ((fm.snapshot.lookup backend.Addr).map (·.balanceCount)).getD 0
    if last > balanceCount then last else balanceCount

/-- `updateSnapshot`: a backend with newer samples gets a new snapshot, one without
keeps a snapshot younger than `memMetricExpDuration`. -/
def updateSnapshot
    (fm : FactorMemory)
    (qr : QueryResult)
    (now : Nat)
    (backends : List BackendCtx) : FactorMemory :=
  let step := fun (snapshots : AList (fun _ : String => memBackendSnapshot)) (b : BackendCtx) =>
    let pairs := qr.GetSamplePair4Backend b.Addr
    let existing := fm.snapshot.lookup b.Addr
    let fresh : Option memBackendSnapshot :=
      match pairs.getLast? with
      | none => none
      | some last =>
          let updateTime := UnixMilli last.Timestamp
          let newer := match existing with
            | none => true
            | some snapshot => decide (snapshot.updatedTime < updateTime)
          if newer then
            let (latestUsage, timeToOOM) := calcMemUsage pairs
            if latestUsage ≥ 0 then
              some ⟨updateTime, latestUsage, timeToOOM, fm.calcBalanceCount b latestUsage timeToOOM⟩
            else none
          else none
    match fresh, existing with
    | some snapshot, _ => snapshots.insert b.Addr snapshot
    | none, some snapshot =>
        if now - snapshot.updatedTime < memMetricExpDuration then snapshots.insert b.Addr snapshot
        else snapshots
    | none, none => snapshots
  { fm with snapshot := backends.foldl step ∅ }

/-- The block of `UpdateScore` that takes new metrics: the time and the snapshot. -/
def renew
    (fm : FactorMemory)
    (qr : QueryResult)
    (now : Nat)
    (backends : List BackendCtx) : FactorMemory :=
  if qr.UpdateTime ≠ fm.lastMetricTime then
    { fm with lastMetricTime := qr.UpdateTime }.updateSnapshot qr now backends
  else fm

@[simp] theorem renew_bitNum
    (fm : FactorMemory)
    (qr : QueryResult)
    (now : Nat)
    (backends : List BackendCtx) :
    (fm.renew qr now backends).bitNum = fm.bitNum := by
  unfold renew
  split <;> rfl

/-- `UpdateScore`: nothing with one backend, without metrics, or with stale ones. -/
def UpdateScore
    (fm : FactorMemory)
    (now : Nat)
    (backends : List scoredBackend) : FactorMemory × List scoredBackend :=
  if backends.length ≤ 1 then
    (fm, backends)
  else
    let qr := fm.mr "memory"
    if qr.Empty then
      (fm, backends)
    else
      let fm := fm.renew qr now (backends.map (·.BackendCtx))
      if now - fm.lastMetricTime > memMetricExpDuration then
        (fm, backends)
      else
        (fm, backends.map fun b => b.addScore (fm.calcMemScore b.BackendCtx.Addr).1 fm.bitNum)

/-- The state `UpdateScore` leaves. -/
def next
    (fm : FactorMemory)
    (now : Nat)
    (backends : List BackendCtx) : FactorMemory :=
  if backends.length ≤ 1 ∨ (fm.mr "memory").Empty then fm
  else fm.renew (fm.mr "memory") now backends

/-- The scores `UpdateScore` adds. -/
def scores
    (fm : FactorMemory)
    (now : Nat)
    (backends : List BackendCtx) : Option (BackendCtx → Int) :=
  if backends.length ≤ 1 ∨ (fm.mr "memory").Empty then none
  else
    let fm := fm.renew (fm.mr "memory") now backends
    if now - fm.lastMetricTime > memMetricExpDuration then none
    else some fun b => (fm.calcMemScore b.Addr).1

theorem UpdateScore_eq
    (fm : FactorMemory)
    (now : Nat)
    (backends : List scoredBackend) :
    fm.UpdateScore now backends =
      (fm.next now (backends.map (·.BackendCtx)),
        addScores (fm.scores now (backends.map (·.BackendCtx))) fm.bitNum backends) := by
  unfold UpdateScore next scores
  rw [List.length_map]
  by_cases hone : backends.length ≤ 1
  · simp [hone, addScores]
  · by_cases hempty : (fm.mr "memory").Empty = true
    · simp [hone, hempty, addScores]
    · simp only [hone, hempty, false_or, if_false]
      split_ifs <;> simp [addScores]

@[simp] theorem next_bitNum
    (fm : FactorMemory)
    (now : Nat)
    (backends : List BackendCtx) :
    (fm.next now backends).bitNum = fm.bitNum := by
  unfold next
  split <;> simp

/-- `BalanceCount`: only between risk levels at least two apart. -/
def BalanceCount
    (fm : FactorMemory)
    (fromBackend toBackend : scoredBackend) : ℚ :=
  let fromScore : Int := (fm.calcMemScore fromBackend.BackendCtx.Addr).1
  let toScore : Int := (fm.calcMemScore toBackend.BackendCtx.Addr).1
  if fromScore - toScore ≤ 1 then 0
  else ((fm.snapshot.lookup fromBackend.BackendCtx.Addr).map (·.balanceCount)).getD 0

end FactorMemory

/-! ### CPU -/

/-- `cpuEwmaAlpha`. -/
def cpuEwmaAlpha : ℚ := 0.5

/-- `cpuMetricExpDuration`. -/
def cpuMetricExpDuration : Nat := 2 * minute

/-- `cpuScoreStep`: a score step is five percent of CPU. -/
def cpuScoreStep : Int := 5

/-- `minCpuPerConn`. -/
def minCpuPerConn : ℚ := 0.001

/-- `cpuBalancedRatio`. -/
def cpuBalancedRatio : ℚ := 1.2

/-- `balanceRatio4Cpu`. -/
def balanceRatio4Cpu : ℚ := 600

/-- `cpuBackendSnapshot`. -/
structure cpuBackendSnapshot where
  updatedTime : Nat
  avgUsage : ℚ
  latestUsage : ℚ
  connCount : Int
deriving DecidableEq, Repr

/-- `FactorCPU`. -/
structure FactorCPU where
  snapshot : AList (fun _ : String => cpuBackendSnapshot)
  lastMetricTime : Nat
  usagePerConn : ℚ
  mr : MetricsReader
  bitNum : Nat

/-- `NewFactorCPU`. -/
def NewFactorCPU
    (mr : MetricsReader) : FactorCPU :=
  ⟨∅, 0, 0, mr, 5⟩

/-- `calcAvgUsage`: the EWMA of the samples that are not NaN, capped at 1, and the
latest of them; both -1 without any. -/
def calcAvgUsage
    (usageHistory : List SamplePair) : ℚ × ℚ :=
  let step := fun (acc : ℚ × ℚ) (usage : SamplePair) =>
    match usage.Value with
    | none => acc
    | some value =>
        let (avgUsage, _) := acc
        (if avgUsage < 0 then value else avgUsage * (1 - cpuEwmaAlpha) + value * cpuEwmaAlpha, value)
  if usageHistory.length = 0 then (-1, -1)
  else
    let (avgUsage, latestUsage) := usageHistory.foldl step (-1, -1)
    (if avgUsage > 1 then 1 else avgUsage, latestUsage)

namespace FactorCPU

/-- `updateSnapshot`: a backend with newer samples and a usage gets a new snapshot
with its current connection count; one without keeps a snapshot younger than
`cpuMetricExpDuration`. -/
def updateSnapshot
    (fc : FactorCPU)
    (qr : QueryResult)
    (now : Nat)
    (backends : List BackendCtx) : FactorCPU :=
  let step := fun (snapshots : AList (fun _ : String => cpuBackendSnapshot)) (b : BackendCtx) =>
    let pairs := qr.GetSamplePair4Backend b.Addr
    let existing := fc.snapshot.lookup b.Addr
    let fresh : Option cpuBackendSnapshot :=
      match pairs.getLast? with
      | none => none
      | some last =>
          let updateTime := UnixMilli last.Timestamp
          let newer := match existing with
            | none => true
            | some snapshot => decide (snapshot.updatedTime < updateTime)
          if newer then
            let (avgUsage, latestUsage) := calcAvgUsage pairs
            if avgUsage ≥ 0 then some ⟨updateTime, avgUsage, latestUsage, b.ConnCount⟩
            else none
          else none
    match fresh, existing with
    | some snapshot, _ => snapshots.insert b.Addr snapshot
    | none, some snapshot =>
        if now - snapshot.updatedTime < cpuMetricExpDuration then snapshots.insert b.Addr snapshot
        else snapshots
    | none, none => snapshots
  { fc with snapshot := backends.foldl step ∅ }

/-- The sums of `updateCpuPerConn`: the usage and the connections of the snapshots
with both positive. -/
def usageTotals
    (snapshots : List cpuBackendSnapshot) : ℚ × Int :=
  snapshots.foldl (fun (totals : ℚ × Int) (backend : cpuBackendSnapshot) =>
    if backend.latestUsage > 0 ∧ backend.connCount > 0 then
      (totals.1 + backend.latestUsage, totals.2 + backend.connCount)
    else totals) (0, 0)

/-- `updateCpuPerConn`: the usage of one connection, estimated over all backends, kept
when it is suspiciously low on an idle cluster, and `minCpuPerConn` until known. -/
def updateCpuPerConn
    (fc : FactorCPU) : FactorCPU :=
  let (totalUsage, totalConns) := usageTotals (fc.snapshot.entries.map (·.2))
  let fc :=
    if totalConns > 0 then
      let usagePerConn := totalUsage / totalConns
      if usagePerConn < minCpuPerConn then
        if totalUsage / fc.snapshot.entries.length > 0.1 then { fc with usagePerConn := usagePerConn }
        else fc
      else { fc with usagePerConn := usagePerConn }
    else fc
  if fc.usagePerConn ≤ 0 then { fc with usagePerConn := minCpuPerConn } else fc

/-- `getUsage`: the snapshot's usages, the latest one moved by the connections gained
or lost since the snapshot and capped at 1; `(1, 1)` without a snapshot.  The check
`latestUsage < 0` reads the function's own result, still 0 there. -/
def getUsage
    (fc : FactorCPU)
    (backend : BackendCtx) : ℚ × ℚ :=
  let latestUsage : ℚ := 0
  match fc.snapshot.lookup backend.Addr with
  | none => (1, 1)
  | some snapshot =>
      if snapshot.avgUsage < 0 ∨ latestUsage < 0 then (1, 1)
      else
        let latestUsage := snapshot.latestUsage +
          ((backend.ConnScore - snapshot.connCount : Int) : ℚ) * fc.usagePerConn
        (snapshot.avgUsage, if latestUsage > 1 then 1 else latestUsage)

/-- The score of `UpdateScore`: the latest usage in percent, in steps of
`cpuScoreStep`, both divisions truncating toward zero. -/
def scoreOf
    (fc : FactorCPU)
    (backend : BackendCtx) : Int :=
  (goInt ((fc.getUsage backend).2 * 100)).tdiv cpuScoreStep

/-- The block of `UpdateScore` that takes new metrics: the time, the snapshot and the
usage per connection. -/
def renew
    (fc : FactorCPU)
    (qr : QueryResult)
    (now : Nat)
    (backends : List BackendCtx) : FactorCPU :=
  if qr.UpdateTime ≠ fc.lastMetricTime then
    ({ fc with lastMetricTime := qr.UpdateTime }.updateSnapshot qr now backends).updateCpuPerConn
  else fc

@[simp] theorem updateCpuPerConn_bitNum
    (fc : FactorCPU) :
    fc.updateCpuPerConn.bitNum = fc.bitNum := by
  unfold updateCpuPerConn
  dsimp only
  split_ifs <;> rfl

@[simp] theorem renew_bitNum
    (fc : FactorCPU)
    (qr : QueryResult)
    (now : Nat)
    (backends : List BackendCtx) :
    (fc.renew qr now backends).bitNum = fc.bitNum := by
  unfold renew
  split
  · rw [updateCpuPerConn_bitNum]
    rfl
  · rfl

/-- `UpdateScore`: nothing with one backend, without metrics, or with stale ones; new
metrics renew the snapshot and the usage per connection first. -/
def UpdateScore
    (fc : FactorCPU)
    (now : Nat)
    (backends : List scoredBackend) : FactorCPU × List scoredBackend :=
  if backends.length ≤ 1 then
    (fc, backends)
  else
    let qr := fc.mr "cpu"
    if qr.Empty then
      (fc, backends)
    else
      let fc := fc.renew qr now (backends.map (·.BackendCtx))
      if now - fc.lastMetricTime > cpuMetricExpDuration then
        (fc, backends)
      else
        (fc, backends.map fun b => b.addScore (fc.scoreOf b.BackendCtx) fc.bitNum)

/-- The state `UpdateScore` leaves. -/
def next
    (fc : FactorCPU)
    (now : Nat)
    (backends : List BackendCtx) : FactorCPU :=
  if backends.length ≤ 1 ∨ (fc.mr "cpu").Empty then fc
  else fc.renew (fc.mr "cpu") now backends

/-- The scores `UpdateScore` adds. -/
def scores
    (fc : FactorCPU)
    (now : Nat)
    (backends : List BackendCtx) : Option (BackendCtx → Int) :=
  if backends.length ≤ 1 ∨ (fc.mr "cpu").Empty then none
  else
    let fc := fc.renew (fc.mr "cpu") now backends
    if now - fc.lastMetricTime > cpuMetricExpDuration then none
    else some fc.scoreOf

theorem UpdateScore_eq
    (fc : FactorCPU)
    (now : Nat)
    (backends : List scoredBackend) :
    fc.UpdateScore now backends =
      (fc.next now (backends.map (·.BackendCtx)),
        addScores (fc.scores now (backends.map (·.BackendCtx))) fc.bitNum backends) := by
  unfold UpdateScore next scores
  rw [List.length_map]
  by_cases hone : backends.length ≤ 1
  · simp [hone, addScores]
  · by_cases hempty : (fc.mr "cpu").Empty = true
    · simp [hone, hempty, addScores]
    · simp only [hone, hempty, false_or, if_false]
      split_ifs <;> simp [addScores]

@[simp] theorem next_bitNum
    (fc : FactorCPU)
    (now : Nat)
    (backends : List BackendCtx) :
    (fc.next now backends).bitNum = fc.bitNum := by
  unfold next
  split <;> simp

/-- `BalanceCount`: when the idlest has clearly more headroom than the busiest, both
on average and now, a connection every `1 / usagePerConn / balanceRatio4Cpu`. -/
def BalanceCount
    (fc : FactorCPU)
    (fromBackend toBackend : scoredBackend) : ℚ :=
  let (fromAvgUsage, fromLatestUsage) := fc.getUsage fromBackend.BackendCtx
  let (toAvgUsage, toLatestUsage) := fc.getUsage toBackend.BackendCtx
  if 1.3 - toAvgUsage > (1.3 - fromAvgUsage) * cpuBalancedRatio ∧
      1.3 - toLatestUsage > (1.3 - fromLatestUsage) * cpuBalancedRatio then
    1 / fc.usagePerConn / balanceRatio4Cpu
  else 0

end FactorCPU

end Balance
end TiProxy
