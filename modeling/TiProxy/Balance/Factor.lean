import Mathlib.Algebra.Order.Field.Rat
import TiProxy.Lib.Packing

/-!
# Factor-based balance

A model of `pkg/balance/factor`: `backend.go`, the `Factor` interface and
`factor_balance.go`.  Each backend gets one `uint64` score, composed by the factors
in order: before a factor scores, every score is shifted left by the factor's bit
number, and the factor adds its own score, cut from above to its bits.
`BackendToRoute` picks the backend of least score; `BackendsToBalance` picks the
healthy backend of least score and the backend with connections of greatest score,
then walks the factors on the bits of the two scores to find the one to balance.

A backend is what the factors read of `policy.BackendCtx`.  A factor is any type
with the four methods of the interface the balance calls; its `UpdateScore` reads
the clock, which Go reads with `time.Now`.  Go's `int` is `Int` and its `uint64`
is a `Nat` below `2 ^ 64`, with the wrap-around written out; `float64` is `ℚ`.

**Results.**
* `addScore_prepareScore`: a shift and an addition are one step of the packing in a
  64-bit register.
* `toUint64_clampScore`: a score of at least zero adds its clamped value.
* `updateScoreLoop_eq`, `updateScore_eq`: for factors that add one score per backend,
  each backend's score is the packing (`Packing.packMod`) of what the factors add,
  in factor order.
* `idlestLoop_mem`, `idlestLoop_le`: the loop of `BackendToRoute` keeps one of the
  backends, of least score.
-/

namespace TiProxy
namespace Balance

/-- `maxBitNum`. -/
def maxBitNum : Nat := 64

/-- What the factors read of a backend: `policy.BackendCtx`, with the labels of its
`GetBackendInfo` (`none` for a nil map). -/
structure BackendCtx where
  Addr : String
  ConnCount : Int
  ConnScore : Int
  Healthy : Bool
  Local : Bool
  Labels : Option (List (String × String))
deriving DecidableEq, Repr

/-- `scoredBackend`: a backend and the score bits the factors have set. -/
structure scoredBackend where
  BackendCtx : BackendCtx
  scoreBits : Nat
deriving DecidableEq, Repr

/-- `newScoredBackend`. -/
def newScoredBackend
    (backend : BackendCtx) : scoredBackend :=
  { BackendCtx := backend, scoreBits := 0 }

/-- Go's `int` value of `1 << bitNum`: `2 ^ bitNum` wrapped to 64 bits, so negative at
63 and zero from 64 on. -/
def intShiftOne
    (bitNum : Nat) : Int :=
  Int.bmod (2 ^ bitNum) (2 ^ 64)

/-- Go's `uint64(x)` of an `int`. -/
def toUint64
    (x : Int) : Nat :=
  (x % 2 ^ 64).toNat

/-- The cut of `addScore`: a score of `1 << bitNum` or more becomes `1<<bitNum - 1`.
Nothing bounds it from below. -/
def clampScore
    (score : Int)
    (bitNum : Nat) : Int :=
  if intShiftOne bitNum ≤ score then Int.bmod (intShiftOne bitNum - 1) (2 ^ 64) else score

namespace scoredBackend

/-- `prepareScore`: shift the score left by `bitNum` bits, as a `uint64`. -/
def prepareScore
    (b : scoredBackend)
    (bitNum : Nat) : scoredBackend :=
  { b with scoreBits := b.scoreBits * 2 ^ bitNum % 2 ^ 64 }

/-- `addScore`: add the cut score, converted to `uint64`. -/
def addScore
    (b : scoredBackend)
    (score : Int)
    (bitNum : Nat) : scoredBackend :=
  { b with scoreBits := (b.scoreBits + toUint64 (clampScore score bitNum)) % 2 ^ 64 }

/-- `score`. -/
def score
    (b : scoredBackend) : Nat :=
  b.scoreBits

@[simp] theorem prepareScore_BackendCtx
    (b : scoredBackend)
    (bitNum : Nat) :
    (b.prepareScore bitNum).BackendCtx = b.BackendCtx := rfl

@[simp] theorem addScore_BackendCtx
    (b : scoredBackend)
    (score : Int)
    (bitNum : Nat) :
    (b.addScore score bitNum).BackendCtx = b.BackendCtx := rfl

/-- A shift and an addition are one step of the packing in a 64-bit register. -/
theorem addScore_prepareScore
    (b : scoredBackend)
    (score : Int)
    (bitNum : Nat) :
    ((b.prepareScore bitNum).addScore score bitNum).scoreBits =
      Packing.packStepMod 64 b.scoreBits (bitNum, toUint64 (clampScore score bitNum)) := rfl

end scoredBackend

/-! ### The interface -/

/-- The `Factor` interface, as methods over the type `F` of a factor's state.
`UpdateScore` returns the factor's new state and the scored backends. -/
structure Factor (F : Type) where
  Name : F → String
  UpdateScore : F → Nat → List scoredBackend → F × List scoredBackend
  ScoreBitNum : F → Nat
  BalanceCount : F → scoredBackend → scoredBackend → ℚ

/-- `FactorBasedBalance`: the factors in order and their total bit number. -/
structure FactorBasedBalance (F : Type) where
  factors : List F
  totalBitNum : Nat

/-- What `BackendsToBalance` returns, without the log fields: the busiest and the
idlest backend (`none` for nil), the count to balance and the factor's name. -/
structure BalanceResult where
  fromBackend : Option BackendCtx
  toBackend : Option BackendCtx
  balanceCount : ℚ
  reason : String
deriving DecidableEq, Repr

/-- The zero values a bare `return` of `BackendsToBalance` gives back, with the
balance count it holds. -/
def BalanceResult.none
    (balanceCount : ℚ) : BalanceResult :=
  ⟨Option.none, Option.none, balanceCount, ""⟩

variable {F : Type} (I : Factor F)

/-- `updateBitNum`: the total bit number, refused above `maxBitNum`. -/
def updateBitNum
    (fbb : FactorBasedBalance F) : Except String (FactorBasedBalance F) :=
  let totalBitNum := (fbb.factors.map I.ScoreBitNum).sum
  if totalBitNum > maxBitNum then
    .error s!"the total bit number of factors is {totalBitNum}"
  else
    .ok { fbb with totalBitNum := totalBitNum }

/-- The factor loop of `updateScore`: each factor shifts every score past its bits,
then scores. -/
def updateScoreLoop
    (now : Nat) : List F → List scoredBackend → List F × List scoredBackend
  | [], backends => ([], backends)
  | factor :: factors, backends =>
      let backends := backends.map (·.prepareScore (I.ScoreBitNum factor))
      let (factor, backends) := I.UpdateScore factor now backends
      let (factors, backends) := updateScoreLoop now factors backends
      (factor :: factors, backends)

/-- `updateScore`. -/
def updateScore
    (fbb : FactorBasedBalance F)
    (now : Nat)
    (backends : List BackendCtx) : FactorBasedBalance F × List scoredBackend :=
  let (factors, scoredBackends) := updateScoreLoop I now fbb.factors (backends.map newScoredBackend)
  ({ fbb with factors := factors }, scoredBackends)

/-- The loop of `BackendToRoute`: keep the first backend of least score. -/
def idlestLoop : scoredBackend → List scoredBackend → scoredBackend
  | idlestBackend, [] => idlestBackend
  | idlestBackend, b :: backends =>
      idlestLoop (if b.score < idlestBackend.score then b else idlestBackend) backends

/-- `BackendToRoute`. -/
def BackendToRoute
    (fbb : FactorBasedBalance F)
    (now : Nat)
    (backends : List BackendCtx) : FactorBasedBalance F × Option BackendCtx :=
  match backends with
  | [] => (fbb, none)
  | [backend] => (fbb, some backend)
  | _ =>
      let (fbb, scoredBackends) := updateScore I fbb now backends
      match scoredBackends with
      | [] => (fbb, none)
      | b :: rest => (fbb, some (idlestLoop b rest).BackendCtx)

/-- The running state of the scan in `BackendsToBalance`: the indices of the idlest
and busiest backends so far and their scores. -/
structure Extremes where
  idlestBackend : Option Nat
  minScore : Nat
  busiestBackend : Option Nat
  maxScore : Nat
deriving DecidableEq, Repr

/-- One backend of the scan: the idlest skips unhealthy backends, the busiest skips
backends without connections. -/
def scanStep
    (st : Extremes)
    (entry : scoredBackend × Nat) : Extremes :=
  let (backend, i) := entry
  let score := backend.score
  let st :=
    if score < st.minScore ∧ backend.BackendCtx.Healthy then
      { st with minScore := score, idlestBackend := some i }
    else st
  if score > st.maxScore ∧ 0 < backend.BackendCtx.ConnScore then
    { st with maxScore := score, busiestBackend := some i }
  else st

/-- The scan starts from `minScore = 1<<maxBitNum - 1` and `maxScore = 0`. -/
def scanInit : Extremes :=
  ⟨none, 2 ^ maxBitNum - 1, none, 0⟩

/-- The bits of one factor in a packed score:
`score << (maxBitNum - leftBitNum) >> (maxBitNum - bitNum)` on a `uint64`. -/
def factorBits
    (score leftBitNum bitNum : Nat) : Nat :=
  score * 2 ^ (maxBitNum - leftBitNum) % 2 ^ 64 / 2 ^ (maxBitNum - bitNum)

/-- How the factor loop of `BackendsToBalance` ends: by the bare `return` when a
factor has the busiest backend below the idlest, or at the factor it stopped at
(`none` when there is no factor), with the last balance count. -/
inductive LoopExit (F : Type) where
  | ret (balanceCount : ℚ)
  | done (factor : Option F) (balanceCount : ℚ)

/-- The factor loop of `BackendsToBalance`. -/
def balanceLoop
    (busiest idlest : scoredBackend)
    (maxScore minScore : Nat) :
    Nat → Option F → ℚ → List F → LoopExit F
  | _, factor, balanceCount, [] => .done factor balanceCount
  | leftBitNum, _, balanceCount, factor :: factors =>
      let bitNum := I.ScoreBitNum factor
      let score1 := factorBits maxScore leftBitNum bitNum
      let score2 := factorBits minScore leftBitNum bitNum
      if score1 > score2 then
        let balanceCount := I.BalanceCount factor busiest idlest
        if balanceCount > 0.0001 then
          .done (some factor) balanceCount
        else
          balanceLoop busiest idlest maxScore minScore (leftBitNum - bitNum) (some factor)
            balanceCount factors
      else if score1 < score2 then
        .ret balanceCount
      else
        balanceLoop busiest idlest maxScore minScore (leftBitNum - bitNum) (some factor)
          balanceCount factors

/-- `BackendsToBalance`; `none` where Go panics, calling `Name` on the nil factor
of an empty factor list. -/
def BackendsToBalance
    (fbb : FactorBasedBalance F)
    (now : Nat)
    (backends : List BackendCtx) : FactorBasedBalance F × Option BalanceResult :=
  if backends.length ≤ 1 then
    (fbb, some (.none 0))
  else
    let (fbb, scoredBackends) := updateScore I fbb now backends
    let st := scoredBackends.zipIdx.foldl scanStep scanInit
    match st.idlestBackend, st.busiestBackend with
    | some i, some j =>
        match scoredBackends[i]?, scoredBackends[j]? with
        | some idlest, some busiest =>
            if i = j then
              (fbb, some (.none 0))
            else
              match balanceLoop I busiest idlest st.maxScore st.minScore fbb.totalBitNum none 0
                  fbb.factors with
              | .ret balanceCount => (fbb, some (.none balanceCount))
              | .done none _ => (fbb, none)
              | .done (some factor) balanceCount =>
                  (fbb, some ⟨some busiest.BackendCtx, some idlest.BackendCtx, balanceCount,
                    I.Name factor⟩)
        | _, _ => (fbb, some (.none 0))
    | _, _ => (fbb, some (.none 0))

/-! ### Scores and their cut -/

/-- Below 63 bits, Go's `1 << bitNum` is `2 ^ bitNum`. -/
theorem intShiftOne_of_lt
    {bitNum : Nat}
    (h : bitNum < 63) :
    intShiftOne bitNum = 2 ^ bitNum := by
  have hlt : 2 ^ bitNum < 2 ^ 63 := Nat.pow_lt_pow_right (by decide) h
  have h1 : (2 : Int) ^ bitNum < 2 ^ 63 := by exact_mod_cast hlt
  have h0 : (0 : Int) ≤ 2 ^ bitNum := by exact_mod_cast Nat.zero_le (2 ^ bitNum)
  unfold intShiftOne
  apply Int.bmod_eq_of_le <;> omega

/-- Below 63 bits the cut is `min score (2 ^ bitNum - 1)`. -/
theorem clampScore_of_lt
    (score : Int)
    {bitNum : Nat}
    (h : bitNum < 63) :
    clampScore score bitNum = min score (2 ^ bitNum - 1) := by
  have hlt : 2 ^ bitNum < 2 ^ 63 := Nat.pow_lt_pow_right (by decide) h
  have h1 : (2 : Int) ^ bitNum < 2 ^ 63 := by exact_mod_cast hlt
  have h0 : (1 : Int) ≤ 2 ^ bitNum := by exact_mod_cast Nat.one_le_two_pow
  have hcut : Int.bmod (2 ^ bitNum - 1) (2 ^ 64) = 2 ^ bitNum - 1 := by
    apply Int.bmod_eq_of_le <;> omega
  unfold clampScore
  rw [intShiftOne_of_lt h, hcut]
  split <;> omega

/-- A score clamped into `[0, 2 ^ bitNum - 1]`. -/
def clampedScore
    (score : Int)
    (bitNum : Nat) : Nat :=
  (min (max score 0) (2 ^ bitNum - 1)).toNat

theorem clampedScore_lt
    (score : Int)
    (bitNum : Nat) :
    clampedScore score bitNum < 2 ^ bitNum := by
  have h0 : (1 : Int) ≤ 2 ^ bitNum := by exact_mod_cast Nat.one_le_two_pow
  have hcast : ((2 ^ bitNum : Nat) : Int) = 2 ^ bitNum := by push_cast; rfl
  unfold clampedScore
  omega

/-- For a nonnegative score and fewer than 63 bits, `addScore` adds the clamped score. -/
theorem toUint64_clampScore
    {score : Int}
    {bitNum : Nat}
    (hscore : 0 ≤ score)
    (h : bitNum < 63) :
    toUint64 (clampScore score bitNum) = clampedScore score bitNum := by
  have h0 : (1 : Int) ≤ 2 ^ bitNum := by exact_mod_cast Nat.one_le_two_pow
  have hlt : 2 ^ bitNum < 2 ^ 63 := Nat.pow_lt_pow_right (by decide) h
  have h1 : (2 : Int) ^ bitNum < 2 ^ 63 := by exact_mod_cast hlt
  rw [clampScore_of_lt score h, toUint64, clampedScore, max_eq_left hscore,
    Int.emod_eq_of_lt (by omega) (by omega)]

/-! ### Factors that add one score per backend -/

/-- The backends after a factor has scored them: each gets its score added, or none
does when the factor returns early (`none`). -/
def addScores
    (scores : Option (BackendCtx → Int))
    (bitNum : Nat)
    (backends : List scoredBackend) : List scoredBackend :=
  match scores with
  | none => backends
  | some score => backends.map fun b => b.addScore (score b.BackendCtx) bitNum

/-- The number a factor's scores add to a backend's bits: the cut score as a `uint64`,
and 0 when the factor added none. -/
def fieldValue
    (scores : Option (BackendCtx → Int))
    (bitNum : Nat)
    (b : BackendCtx) : Nat :=
  match scores with
  | none => 0
  | some score => toUint64 (clampScore (score b) bitNum)

/-- A factor whose `UpdateScore` adds one score to each backend or none: called in
state `f` at `now` on backends `bcs`, it moves to `next f now bcs` and adds
`scores f now bcs`, and its bit number does not change. -/
structure AddsScores where
  scores : F → Nat → List BackendCtx → Option (BackendCtx → Int)
  next : F → Nat → List BackendCtx → F
  updateScore_eq : ∀ f now (bs : List scoredBackend),
    I.UpdateScore f now bs =
      (next f now (bs.map (·.BackendCtx)),
        addScores (scores f now (bs.map (·.BackendCtx))) (I.ScoreBitNum f) bs)
  scoreBitNum_next : ∀ f now bcs, I.ScoreBitNum (next f now bcs) = I.ScoreBitNum f

variable {I}

/-- The fields a backend's score packs: each factor's bit number and what it adds. -/
def fields
    (S : AddsScores I)
    (now : Nat)
    (bcs : List BackendCtx)
    (factors : List F)
    (b : BackendCtx) : List (Nat × Nat) :=
  factors.map fun f => (I.ScoreBitNum f, fieldValue (S.scores f now bcs) (I.ScoreBitNum f) b)

/-- A shift and a factor's scores on a whole list: each backend takes one packing step. -/
theorem addScores_prepareScore
    (scores : Option (BackendCtx → Int))
    (bitNum : Nat)
    (bs : List scoredBackend) :
    addScores scores bitNum (bs.map (·.prepareScore bitNum)) =
      bs.map fun b => ⟨b.BackendCtx,
        Packing.packStepMod 64 b.scoreBits (bitNum, fieldValue scores bitNum b.BackendCtx)⟩ := by
  cases scores with
  | none =>
      simp only [addScores, fieldValue, List.map_inj_left]
      intro b _
      simp [scoredBackend.prepareScore, Packing.packStepMod]
  | some score =>
      simp only [addScores, fieldValue, List.map_map]
      rfl

/-- The factor loop on backends `bcs`: every factor moves to its next state, and every
score packs the fields of the factors onto the score it had. -/
theorem updateScoreLoop_eq
    (S : AddsScores I)
    (now : Nat)
    (bcs : List BackendCtx) :
    ∀ (factors : List F) (bs : List scoredBackend), bs.map (·.BackendCtx) = bcs →
      updateScoreLoop I now factors bs =
        (factors.map fun f => S.next f now bcs,
          bs.map fun b => ⟨b.BackendCtx, (fields S now bcs factors b.BackendCtx).foldl
            (Packing.packStepMod 64) b.scoreBits⟩) := by
  intro factors
  induction factors with
  | nil =>
      intro bs _
      simp [updateScoreLoop, fields]
  | cons f factors ih =>
      intro bs hbs
      -- the shift keeps the backends, so the factor sees `bcs`
      have hprep : (bs.map (·.prepareScore (I.ScoreBitNum f))).map (·.BackendCtx) = bcs := by
        rw [List.map_map, ← hbs]
        rfl
      have hstep := addScores_prepareScore (S.scores f now bcs) (I.ScoreBitNum f) bs
      have hadd : (bs.map fun b => (⟨b.BackendCtx, Packing.packStepMod 64 b.scoreBits
          (I.ScoreBitNum f, fieldValue (S.scores f now bcs) (I.ScoreBitNum f) b.BackendCtx)⟩ :
            scoredBackend)).map (·.BackendCtx) = bcs := by
        rw [List.map_map, ← hbs]
        rfl
      rw [updateScoreLoop, S.updateScore_eq, hprep]
      dsimp only
      rw [hstep, ih _ hadd]
      simp only [List.map_cons, List.map_map, Prod.mk.injEq, true_and]
      apply List.map_congr_left
      intro b _
      simp only [Function.comp_apply, fields, List.map_cons, List.foldl_cons]

/-- `updateScore`: each backend's score is the fields of all factors packed in a
64-bit register. -/
theorem updateScore_eq
    (S : AddsScores I)
    (fbb : FactorBasedBalance F)
    (now : Nat)
    (backends : List BackendCtx) :
    updateScore I fbb now backends =
      ({ fbb with factors := fbb.factors.map fun f => S.next f now backends },
        backends.map fun b => ⟨b, Packing.packMod 64 (fields S now backends fbb.factors b)⟩) := by
  have hbs : (backends.map newScoredBackend).map (·.BackendCtx) = backends := by
    rw [List.map_map]
    exact List.map_id' backends
  simp only [updateScore, updateScoreLoop_eq S now backends fbb.factors _ hbs, List.map_map]
  rfl

/-! ### The loop of `BackendToRoute` -/

/-- The backend the loop keeps is the first one or one of the rest. -/
theorem idlestLoop_mem :
    ∀ (idlest : scoredBackend) (backends : List scoredBackend),
      idlestLoop idlest backends ∈ idlest :: backends := by
  intro idlest backends
  induction backends generalizing idlest with
  | nil => simp [idlestLoop]
  | cons b backends ih =>
      rw [idlestLoop]
      split
      · exact List.mem_cons_of_mem _ (ih b)
      · have h := ih idlest
        rcases List.mem_cons.mp h with h | h
        · rw [h]
          exact List.mem_cons_self
        · exact List.mem_cons_of_mem _ (List.mem_cons_of_mem _ h)

/-- The backend the loop keeps has the least score. -/
theorem idlestLoop_le :
    ∀ (idlest : scoredBackend) (backends : List scoredBackend),
      ∀ b ∈ idlest :: backends, (idlestLoop idlest backends).score ≤ b.score := by
  intro idlest backends
  induction backends generalizing idlest with
  | nil =>
      intro b hb
      rw [List.mem_singleton.mp hb]
      exact le_refl _
  | cons c backends ih =>
      intro b hb
      rw [idlestLoop]
      -- the kept one is at most both `idlest` and `c`, so at most everything seen
      have hkeep : ∀ b ∈ [idlest, c],
          (if c.score < idlest.score then c else idlest).score ≤ b.score := by
        intro b hb
        simp only [List.mem_cons, List.not_mem_nil, or_false] at hb
        split <;> rcases hb with rfl | rfl <;> omega
      rcases List.mem_cons.mp hb with rfl | hb
      · exact le_trans (ih _ _ List.mem_cons_self) (hkeep _ List.mem_cons_self)
      · rcases List.mem_cons.mp hb with rfl | hb
        · exact le_trans (ih _ _ List.mem_cons_self) (hkeep _ (by simp))
        · exact ih _ _ (List.mem_cons_of_mem _ hb)

end Balance
end TiProxy
