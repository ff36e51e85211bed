import Mathlib.Data.List.Forall2
import TiProxy.Balance.SetFactors

/-!
# Factor priority in routing and balancing

The score of a backend packs one field per factor, the first factor most
significant, so that comparing two scores compares the factors' scores
lexicographically in factor order, and `BackendsToBalance` reads each factor's
field back with two shifts.  Both hold when every score fits its field: from above,
`addScore` cuts it; from below nothing does, and a negative score wraps around and
borrows from the fields of the factors before it.

**Results.**
* `packMod_fields_lt_iff_lex`, `factorFields_fields`: with scores of at least zero
  and fitting bit numbers, comparing scores is the lexicographic order on the clamped
  scores, and the shifts read back the clamped scores.
* `BackendToRoute_lexMin`: then `BackendToRoute` returns a backend whose clamped
  scores are lexicographically least.
* `BackendsToBalance_fields`: for any factors, the pair `BackendsToBalance` returns is
  two different backends, the idlest healthy and the busiest with connections, and
  on every factor up to the one it names the busiest has at least the idlest's field.
* `BackendsToBalance_clamped`: with scores of at least zero the same holds of the
  clamped scores, so no migration goes against a factor of higher priority.
* `BackendToRoute_cpu_negative`, `BackendsToBalance_cpu_negative`: after a backend
  loses connections, the CPU factor scores it below zero and both results fail.
-/

namespace TiProxy
namespace Balance

/-- The fields the factor loop of `BackendsToBalance` reads from a score, one
`factorBits` per bit number, the first with `leftBitNum` bits from it to the end. -/
def factorFields
    (score leftBitNum : Nat)
    (bitNums : List Nat) : List Nat :=
  Packing.unpack maxBitNum score leftBitNum bitNums

theorem factorFields_cons
    (score leftBitNum bitNum : Nat)
    (bitNums : List Nat) :
    factorFields score leftBitNum (bitNum :: bitNums) =
      factorBits score leftBitNum bitNum :: factorFields score (leftBitNum - bitNum) bitNums := rfl

section Clamped

variable {F : Type} {I : Factor F}

/-- The score a factor's scores give a backend, clamped into its bits, and 0 when the
factor adds none. -/
def clampedValue
    (scores : Option (BackendCtx → Int))
    (bitNum : Nat)
    (b : BackendCtx) : Nat :=
  match scores with
  | none => 0
  | some score => clampedScore (score b) bitNum

/-- The clamped scores of a backend, in factor order. -/
def clampedScores
    (S : AddsScores I)
    (now : Nat)
    (bcs : List BackendCtx)
    (factors : List F)
    (b : BackendCtx) : List Nat :=
  factors.map fun f => clampedValue (S.scores f now bcs) (I.ScoreBitNum f) b

/-- The bit numbers of a factor list fit: each is below 63, where Go's `1 << bitNum` is
still positive, and all together fit in `maxBitNum`. -/
structure BitsFit
    (I : Factor F)
    (factors : List F) : Prop where
  lt : ∀ f ∈ factors, I.ScoreBitNum f < 63
  sum_le : (factors.map I.ScoreBitNum).sum ≤ maxBitNum

/-- The factors score the backend `b` at least zero. -/
def ScoresNonneg
    (S : AddsScores I)
    (now : Nat)
    (bcs : List BackendCtx)
    (factors : List F)
    (b : BackendCtx) : Prop :=
  ∀ f ∈ factors, ∀ score, S.scores f now bcs = some score → 0 ≤ score b

variable {S : AddsScores I} {now : Nat} {bcs : List BackendCtx} {factors : List F}

theorem fieldValue_eq_clampedValue
    {scores : Option (BackendCtx → Int)}
    {bitNum : Nat}
    {b : BackendCtx}
    (hnonneg : ∀ score, scores = some score → 0 ≤ score b)
    (h : bitNum < 63) :
    fieldValue scores bitNum b = clampedValue scores bitNum b := by
  cases scores with
  | none => rfl
  | some score => exact toUint64_clampScore (hnonneg score rfl) h

theorem clampedValue_lt
    (scores : Option (BackendCtx → Int))
    (bitNum : Nat)
    (b : BackendCtx) :
    clampedValue scores bitNum b < 2 ^ bitNum := by
  cases scores with
  | none => exact Nat.two_pow_pos _
  | some score => exact clampedScore_lt _ _

theorem fields_fst
    (b : BackendCtx) :
    (fields S now bcs factors b).map Prod.fst = factors.map I.ScoreBitNum := by
  simp [fields]

theorem width_fields
    (b : BackendCtx) :
    Packing.width (fields S now bcs factors b) = (factors.map I.ScoreBitNum).sum := by
  rw [Packing.width, fields_fst]

theorem fields_snd
    {b : BackendCtx}
    (hbits : BitsFit I factors)
    (hnonneg : ScoresNonneg S now bcs factors b) :
    (fields S now bcs factors b).map Prod.snd = clampedScores S now bcs factors b := by
  simp only [fields, clampedScores, List.map_map]
  apply List.map_congr_left
  intro f hf
  exact fieldValue_eq_clampedValue (hnonneg f hf) (hbits.lt f hf)

theorem fields_fits
    {b : BackendCtx}
    (hbits : BitsFit I factors)
    (hnonneg : ScoresNonneg S now bcs factors b) :
    Packing.Fits (fields S now bcs factors b) := by
  intro x hx
  simp only [fields, List.mem_map] at hx
  obtain ⟨f, hf, rfl⟩ := hx
  rw [fieldValue_eq_clampedValue (hnonneg f hf) (hbits.lt f hf)]
  exact clampedValue_lt _ _ _

/-- Without a negative score and with fitting bits nothing wraps: the score is the
clamped scores packed. -/
theorem packMod_fields
    {b : BackendCtx}
    (hbits : BitsFit I factors)
    (hnonneg : ScoresNonneg S now bcs factors b) :
    Packing.packMod 64 (fields S now bcs factors b) = Packing.pack (fields S now bcs factors b) := by
  apply Packing.packMod_eq_pack (fields_fits hbits hnonneg)
  rw [width_fields]
  exact hbits.sum_le

/-- Comparing two scores is comparing the clamped scores lexicographically. -/
theorem packMod_fields_lt_iff_lex
    {b c : BackendCtx}
    (hbits : BitsFit I factors)
    (hb : ScoresNonneg S now bcs factors b)
    (hc : ScoresNonneg S now bcs factors c) :
    Packing.packMod 64 (fields S now bcs factors b) < Packing.packMod 64 (fields S now bcs factors c) ↔
      List.Lex (· < ·) (clampedScores S now bcs factors b) (clampedScores S now bcs factors c) := by
  have hwidths : (fields S now bcs factors b).map Prod.fst = (fields S now bcs factors c).map Prod.fst := by
    rw [fields_fst, fields_fst]
  rw [packMod_fields hbits hb, packMod_fields hbits hc,
    Packing.pack_lt_pack_iff_lex _ _ hwidths (fields_fits hbits hb) (fields_fits hbits hc),
    fields_snd hbits hb, fields_snd hbits hc]

/-- The shifts of `BackendsToBalance` read back the clamped scores. -/
theorem factorFields_fields
    {b : BackendCtx}
    (hbits : BitsFit I factors)
    (hnonneg : ScoresNonneg S now bcs factors b) :
    factorFields (Packing.packMod 64 (fields S now bcs factors b)) (factors.map I.ScoreBitNum).sum
        (factors.map I.ScoreBitNum) = clampedScores S now bcs factors b := by
  have hn : Packing.width (fields S now bcs factors b) ≤ maxBitNum := by
    rw [width_fields]
    exact hbits.sum_le
  have h := Packing.unpack_pack (fields_fits hbits hnonneg) hn
  rw [width_fields, fields_fst, fields_snd hbits hnonneg] at h
  rw [packMod_fields hbits hnonneg]
  exact h

end Clamped

/-- Without the CPU factor, the real factors score every backend with a nonnegative
connection score at least zero. -/
theorem realScores_scoresNonneg
    {now : Nat}
    {bcs : List BackendCtx}
    {factors : List AnyFactor}
    (hcpu : ∀ f ∈ factors, f.isCPU = false)
    {b : BackendCtx}
    (hconn : 0 ≤ b.ConnScore) :
    ScoresNonneg realScores now bcs factors b := by
  intro f hf score hscore
  exact realScores_nonneg hscore (hcpu f hf) b hconn

/-! ### Two backends

Two healthy local backends, the one the examples below move connections between. -/

/-- The first backend, with `conns` connections. -/
def backendA
    (conns : Int) : BackendCtx :=
  ⟨"10.0.0.1:4000", conns, conns, true, true, none⟩

/-- The second backend, with `conns` connections. -/
def backendB
    (conns : Int) : BackendCtx :=
  ⟨"10.0.0.2:4000", conns, conns, true, true, none⟩

/-- The balance `Init` makes with the connection policy and no label
(`Init_connection`). -/
def connCountBalance : FactorBasedBalance AnyFactor :=
  ⟨[.status NewFactorStatus, .connCount NewFactorConnCount], 17⟩

/-! ### Routing -/

section Route

variable {F : Type} {I : Factor F}

/-- The loop of `BackendToRoute` on backends scored by `g` keeps one of them, of least
score. -/
theorem idlestLoop_scored
    (g : BackendCtx → Nat)
    (b : BackendCtx)
    (rest : List BackendCtx) :
    (idlestLoop ⟨b, g b⟩ (rest.map fun c => ⟨c, g c⟩)).BackendCtx ∈ b :: rest ∧
      ∀ c ∈ b :: rest, g (idlestLoop ⟨b, g b⟩ (rest.map fun c => ⟨c, g c⟩)).BackendCtx ≤ g c := by
  have hmem : idlestLoop ⟨b, g b⟩ (rest.map fun c => ⟨c, g c⟩) ∈
      (b :: rest).map fun c => (⟨c, g c⟩ : scoredBackend) :=
    idlestLoop_mem _ _
  obtain ⟨r, hr, hkept⟩ := List.mem_map.mp hmem
  rw [← hkept]
  refine ⟨hr, ?_⟩
  intro c hc
  have hc' : (⟨c, g c⟩ : scoredBackend) ∈ (b :: rest).map fun c => (⟨c, g c⟩ : scoredBackend) :=
    List.mem_map_of_mem hc
  have hle := idlestLoop_le ⟨b, g b⟩ (rest.map fun c => ⟨c, g c⟩) ⟨c, g c⟩ hc'
  rw [← hkept] at hle
  exact hle

theorem BackendToRoute_isLexMin
    (S : AddsScores I)
    (fbb : FactorBasedBalance F)
    (now : Nat)
    (backends : List BackendCtx)
    (hne : backends ≠ [])
    (hbits : BitsFit I fbb.factors)
    (hnonneg : ∀ b ∈ backends, ScoresNonneg S now backends fbb.factors b) :
    ∃ r, (BackendToRoute I fbb now backends).2 = some r ∧ r ∈ backends ∧
      ∀ c ∈ backends, ¬ List.Lex (· < ·) (clampedScores S now backends fbb.factors c)
        (clampedScores S now backends fbb.factors r) := by
  match backends, hne, hnonneg with
  | [b], _, _ =>
      refine ⟨b, rfl, List.mem_singleton_self b, ?_⟩
      intro c hc
      rw [List.mem_singleton.mp hc]
      exact Std.Irrefl.irrefl _
  | b₁ :: b₂ :: rest, _, hnonneg =>
      -- the scored backends are the backends with their fields packed
      have hroute := updateScore_eq S fbb now (b₁ :: b₂ :: rest)
      obtain ⟨hmem, hle⟩ := idlestLoop_scored
        (fun b => Packing.packMod 64 (fields S now (b₁ :: b₂ :: rest) fbb.factors b)) b₁ (b₂ :: rest)
      refine ⟨_, by simp only [BackendToRoute, hroute, List.map_cons], hmem, ?_⟩
      intro c hc
      rw [← packMod_fields_lt_iff_lex hbits (hnonneg c hc) (hnonneg _ hmem), not_lt]
      exact hle c hc

/-- With scores of at least zero and fitting bits, `BackendToRoute` returns one of the
backends, and none has clamped scores lexicographically below it. -/
theorem BackendToRoute_lexMin
    (S : AddsScores I)
    (fbb : FactorBasedBalance F)
    (now : Nat)
    (backends : List BackendCtx)
    (hne : backends ≠ [])
    (hbits : BitsFit I fbb.factors)
    (hnonneg : ∀ b ∈ backends, ScoresNonneg S now backends fbb.factors b) :
    ∃ r, (BackendToRoute I fbb now backends).2 = some r ∧ r ∈ backends ∧
      ∀ c ∈ backends, ¬ List.Lex (· < ·) (clampedScores S now backends fbb.factors c)
        (clampedScores S now backends fbb.factors r) :=
  BackendToRoute_isLexMin S fbb now backends hne hbits hnonneg

theorem BackendToRoute_lexMin_connCount :
    [backendA 10, backendB 0] ≠ [] ∧
      BitsFit realFactor connCountBalance.factors ∧
      (∀ b ∈ [backendA 10, backendB 0], ScoresNonneg realScores 0 [backendA 10, backendB 0]
        connCountBalance.factors b) ∧
      ∃ r, (BackendToRoute realFactor connCountBalance
          0 [backendA 10, backendB 0]).2 = some r ∧ r ∈ [backendA 10, backendB 0] ∧
        ∀ c ∈ [backendA 10, backendB 0], ¬ List.Lex (· < ·)
          (clampedScores realScores 0 [backendA 10, backendB 0]
            connCountBalance.factors c)
          (clampedScores realScores 0 [backendA 10, backendB 0]
            connCountBalance.factors r) := by
  have hbits : BitsFit realFactor connCountBalance.factors :=
    ⟨by decide, by decide⟩
  have hnonneg : ∀ b ∈ [backendA 10, backendB 0], ScoresNonneg realScores 0
      [backendA 10, backendB 0] connCountBalance.factors b := by
    intro b hb
    apply realScores_scoresNonneg (by decide)
    simp only [List.mem_cons, List.not_mem_nil, or_false] at hb
    rcases hb with rfl | rfl <;> decide
  exact ⟨List.cons_ne_nil _ _, hbits, hnonneg,
    BackendToRoute_lexMin realScores _ 0 _ (List.cons_ne_nil _ _) hbits hnonneg⟩

end Route

/-! ### Balancing -/

section Balancing

variable {F : Type} {I : Factor F}

/-- What the scan of `BackendsToBalance` holds of the scored backends: its idlest is a
healthy backend of the least score seen, its busiest a backend with connections of the
greatest. -/
structure ScanInv
    (scored : List scoredBackend)
    (st : Extremes) : Prop where
  idlest : ∀ i, st.idlestBackend = some i →
    ∃ b, scored[i]? = some b ∧ b.score = st.minScore ∧ b.BackendCtx.Healthy = true
  busiest : ∀ j, st.busiestBackend = some j →
    ∃ b, scored[j]? = some b ∧ b.score = st.maxScore ∧ 0 < b.BackendCtx.ConnScore

theorem scanInit_inv
    (scored : List scoredBackend) :
    ScanInv scored scanInit := by
  constructor
  · intro i h
    cases h
  · intro j h
    cases h

/-- One backend of the scan keeps the invariant. -/
theorem scanStep_inv
    {scored : List scoredBackend}
    {st : Extremes}
    {b : scoredBackend}
    {i : Nat}
    (hinv : ScanInv scored st)
    (hb : scored[i]? = some b) :
    ScanInv scored (scanStep st (b, i)) := by
  -- the idlest and the busiest are updated by two separate tests
  by_cases hidle : b.score < st.minScore ∧ b.BackendCtx.Healthy = true
  · by_cases hbusy : b.score > st.maxScore ∧ 0 < b.BackendCtx.ConnScore
    · constructor
      · intro k hk
        simp only [scanStep, hidle, hbusy, and_self, if_true, Option.some.injEq] at hk
        subst hk
        exact ⟨b, hb, by simp [scanStep, hidle, hbusy], hidle.2⟩
      · intro k hk
        simp only [scanStep, hidle, hbusy, and_self, if_true, Option.some.injEq] at hk
        subst hk
        exact ⟨b, hb, by simp [scanStep, hidle, hbusy], hbusy.2⟩
    · constructor
      · intro k hk
        simp only [scanStep, hidle, hbusy, and_self, if_true, if_false, Option.some.injEq] at hk
        subst hk
        exact ⟨b, hb, by simp [scanStep, hidle, hbusy], hidle.2⟩
      · intro k hk
        simp only [scanStep, hidle, hbusy, and_self, if_true, if_false] at hk
        simpa [scanStep, hidle, hbusy] using hinv.busiest k hk
  · by_cases hbusy : b.score > st.maxScore ∧ 0 < b.BackendCtx.ConnScore
    · constructor
      · intro k hk
        simp only [scanStep, hidle, hbusy, and_self, if_true, if_false] at hk
        simpa [scanStep, hidle, hbusy] using hinv.idlest k hk
      · intro k hk
        simp only [scanStep, hidle, hbusy, and_self, if_true, if_false, Option.some.injEq] at hk
        subst hk
        exact ⟨b, hb, by simp [scanStep, hidle, hbusy], hbusy.2⟩
    · have hst : scanStep st (b, i) = st := by
        simp [scanStep, hidle, hbusy]
      rw [hst]
      exact hinv

/-- The scan over entries of the scored backends keeps the invariant. -/
theorem foldl_scanStep_inv
    {scored : List scoredBackend} :
    ∀ (entries : List (scoredBackend × Nat)) (st : Extremes), ScanInv scored st →
      (∀ e ∈ entries, scored[e.2]? = some e.1) → ScanInv scored (entries.foldl scanStep st) := by
  intro entries
  induction entries with
  | nil =>
      intro st hinv _
      exact hinv
  | cons e entries ih =>
      intro st hinv hentries
      rw [List.foldl_cons]
      apply ih _ _ (fun e' he' => hentries e' (List.mem_cons_of_mem _ he'))
      exact scanStep_inv hinv (hentries e List.mem_cons_self)

/-- The scan of `BackendsToBalance` over all the scored backends. -/
theorem scan_inv
    (scored : List scoredBackend) :
    ScanInv scored (scored.zipIdx.foldl scanStep scanInit) := by
  apply foldl_scanStep_inv _ _ (scanInit_inv scored)
  intro e he
  exact List.mk_mem_zipIdx_iff_getElem?.mp he

/-- The factor loop of `BackendsToBalance` stops at a factor only after every factor up
to it has the busiest backend's field at least the idlest's: it returns at the first
field in the other order. -/
theorem balanceLoop_done
    (busiest idlest : scoredBackend)
    (maxScore minScore : Nat) :
    ∀ (factors : List F) (leftBitNum : Nat) (factor : Option F) (balanceCount : ℚ)
      (f : F) (c : ℚ),
      balanceLoop I busiest idlest maxScore minScore leftBitNum factor balanceCount factors =
          .done (some f) c →
        (factors = [] ∧ factor = some f) ∨
        ∃ pre post, factors = pre ++ f :: post ∧
          List.Forall₂ (fun x y => y ≤ x)
            (factorFields maxScore leftBitNum ((pre ++ [f]).map I.ScoreBitNum))
            (factorFields minScore leftBitNum ((pre ++ [f]).map I.ScoreBitNum)) := by
  intro factors
  induction factors with
  | nil =>
      intro leftBitNum factor balanceCount f c h
      simp only [balanceLoop, LoopExit.done.injEq] at h
      exact .inl ⟨rfl, h.1⟩
  | cons g factors ih =>
      intro leftBitNum factor balanceCount f c h
      -- the loop goes on past `g` only with `g`'s fields in order
      have hnext :
          factorBits minScore leftBitNum (I.ScoreBitNum g) ≤
            factorBits maxScore leftBitNum (I.ScoreBitNum g) → ∀ c',
          balanceLoop I busiest idlest maxScore minScore (leftBitNum - I.ScoreBitNum g) (some g) c'
              factors = .done (some f) c →
          ∃ pre post, g :: factors = pre ++ f :: post ∧
            List.Forall₂ (fun x y => y ≤ x)
              (factorFields maxScore leftBitNum ((pre ++ [f]).map I.ScoreBitNum))
              (factorFields minScore leftBitNum ((pre ++ [f]).map I.ScoreBitNum)) := by
        intro hle c' hrest
        rcases ih _ _ _ _ _ hrest with ⟨rfl, hgf⟩ | ⟨pre, post, rfl, hfields⟩
        · cases hgf
          exact ⟨[], [], rfl, .cons hle .nil⟩
        · refine ⟨g :: pre, post, rfl, ?_⟩
          rw [List.cons_append, List.map_cons, factorFields_cons, factorFields_cons]
          exact .cons hle hfields
      dsimp only [balanceLoop] at h
      by_cases h1 : factorBits maxScore leftBitNum (I.ScoreBitNum g) >
          factorBits minScore leftBitNum (I.ScoreBitNum g)
      · rw [if_pos h1] at h
        by_cases h2 : I.BalanceCount g busiest idlest > 0.0001
        · -- the factor balances: the loop stops at `g`
          rw [if_pos h2, LoopExit.done.injEq, Option.some.injEq] at h
          obtain ⟨rfl, -⟩ := h
          exact .inr ⟨[], factors, rfl, .cons (le_of_lt h1) .nil⟩
        · rw [if_neg h2] at h
          exact .inr (hnext (le_of_lt h1) _ h)
      · rw [if_neg h1] at h
        by_cases h3 : factorBits maxScore leftBitNum (I.ScoreBitNum g) <
            factorBits minScore leftBitNum (I.ScoreBitNum g)
        · rw [if_pos h3] at h
          cases h
        · rw [if_neg h3] at h
          exact .inr (hnext (not_lt.mp h3) _ h)

theorem updateScore_totalBitNum
    (I : Factor F)
    (fbb : FactorBasedBalance F)
    (now : Nat)
    (backends : List BackendCtx) :
    (updateScore I fbb now backends).1.totalBitNum = fbb.totalBitNum := rfl

theorem BackendsToBalance_factorFields
    (fbb : FactorBasedBalance F)
    (now : Nat)
    (backends : List BackendCtx)
    {fromBackend toBackend : BackendCtx}
    {balanceCount : ℚ}
    {reason : String}
    (h : (BackendsToBalance I fbb now backends).2 =
      some ⟨some fromBackend, some toBackend, balanceCount, reason⟩) :
    ∃ (i j : Nat) (busiest idlest : scoredBackend),
      i ≠ j ∧ (updateScore I fbb now backends).2[i]? = some busiest ∧
      (updateScore I fbb now backends).2[j]? = some idlest ∧
      busiest.BackendCtx = fromBackend ∧ idlest.BackendCtx = toBackend ∧
      toBackend.Healthy = true ∧ 0 < fromBackend.ConnScore ∧
      ∃ pre f post, (updateScore I fbb now backends).1.factors = pre ++ f :: post ∧
        I.Name f = reason ∧
        List.Forall₂ (fun x y => y ≤ x)
          (factorFields busiest.score fbb.totalBitNum ((pre ++ [f]).map I.ScoreBitNum))
          (factorFields idlest.score fbb.totalBitNum ((pre ++ [f]).map I.ScoreBitNum)) := by
  have hinv := scan_inv (updateScore I fbb now backends).2
  have htotal := updateScore_totalBitNum I fbb now backends
  unfold BackendsToBalance at h
  split at h
  · simp [BalanceResult.none] at h
  · generalize updateScore I fbb now backends = u at h hinv htotal ⊢
    obtain ⟨fbb', scored⟩ := u
    dsimp only at h hinv htotal ⊢
    rw [← htotal]
    split at h
    next i j hi hj =>
      split at h
      next idlest busiest hidle hbusy =>
        split at h
        · simp [BalanceResult.none] at h
        · next hij =>
          split at h
          · simp [BalanceResult.none] at h
          · cases h
          · next f c hloop =>
            simp only [Option.some.injEq, BalanceResult.mk.injEq] at h
            obtain ⟨rfl, rfl, -, rfl⟩ := h
            obtain ⟨b, hb, hbscore, hhealthy⟩ := hinv.idlest i hi
            obtain ⟨b', hb', hb'score, hconn⟩ := hinv.busiest j hj
            rw [hidle, Option.some.injEq] at hb
            rw [hbusy, Option.some.injEq] at hb'
            subst hb hb'
            rcases balanceLoop_done _ _ _ _ _ _ _ _ _ _ hloop with ⟨-, hnone⟩ | ⟨pre, post, hsplit, hfields⟩
            · cases hnone
            · refine ⟨j, i, busiest, idlest, Ne.symm hij, hbusy, hidle, rfl, rfl, hhealthy, hconn,
                pre, f, post, hsplit, rfl, ?_⟩
              rw [hbscore, hb'score]
              exact hfields
      · simp [BalanceResult.none] at h
    · simp [BalanceResult.none] at h

/-- For any factors: when `BackendsToBalance` returns a pair, the two are scored
backends at different positions, the idlest healthy and the busiest with connections,
and the factor it names comes after factors on which, as on itself, the busiest
backend's field is at least the idlest's. -/
theorem BackendsToBalance_fields
    (fbb : FactorBasedBalance F)
    (now : Nat)
    (backends : List BackendCtx)
    {fromBackend toBackend : BackendCtx}
    {balanceCount : ℚ}
    {reason : String}
    (h : (BackendsToBalance I fbb now backends).2 =
      some ⟨some fromBackend, some toBackend, balanceCount, reason⟩) :
    ∃ (i j : Nat) (busiest idlest : scoredBackend),
      i ≠ j ∧ (updateScore I fbb now backends).2[i]? = some busiest ∧
      (updateScore I fbb now backends).2[j]? = some idlest ∧
      busiest.BackendCtx = fromBackend ∧ idlest.BackendCtx = toBackend ∧
      toBackend.Healthy = true ∧ 0 < fromBackend.ConnScore ∧
      ∃ pre f post, (updateScore I fbb now backends).1.factors = pre ++ f :: post ∧
        I.Name f = reason ∧
        List.Forall₂ (fun x y => y ≤ x)
          (factorFields busiest.score fbb.totalBitNum ((pre ++ [f]).map I.ScoreBitNum))
          (factorFields idlest.score fbb.totalBitNum ((pre ++ [f]).map I.ScoreBitNum)) :=
  BackendsToBalance_factorFields fbb now backends h

theorem BackendsToBalance_fields_connCount :
    (BackendsToBalance realFactor connCountBalance 0 [backendA 10, backendB 0]).2 =
        some ⟨some (backendA 10), some (backendB 0), 1, "conn"⟩ ∧
      ∃ (i j : Nat) (busiest idlest : scoredBackend),
        i ≠ j ∧ (updateScore realFactor connCountBalance 0 [backendA 10, backendB 0]).2[i]? = some busiest ∧
        (updateScore realFactor connCountBalance 0 [backendA 10, backendB 0]).2[j]? = some idlest ∧
        busiest.BackendCtx = backendA 10 ∧ idlest.BackendCtx = backendB 0 ∧
        (backendB 0).Healthy = true ∧ 0 < (backendA 10).ConnScore ∧
        ∃ pre f post, (updateScore realFactor connCountBalance 0 [backendA 10, backendB 0]).1.factors =
            pre ++ f :: post ∧ realFactor.Name f = "conn" ∧
          List.Forall₂ (fun x y => y ≤ x)
            (factorFields busiest.score connCountBalance.totalBitNum ((pre ++ [f]).map realFactor.ScoreBitNum))
            (factorFields idlest.score connCountBalance.totalBitNum ((pre ++ [f]).map realFactor.ScoreBitNum)) := by
  have h : (BackendsToBalance realFactor connCountBalance 0 [backendA 10, backendB 0]).2 =
      some ⟨some (backendA 10), some (backendB 0), 1, "conn"⟩ := by
    decide +kernel
  exact ⟨h, BackendsToBalance_fields _ _ _ h⟩

/-- The first factors' fields of a score are the clamped scores of those factors,
with the others after them. -/
theorem factorFields_prefix
    {S : AddsScores I}
    {now : Nat}
    {bcs : List BackendCtx}
    {factors pre post : List F}
    {f : F}
    {b : BackendCtx}
    (hbits : BitsFit I factors)
    (hnonneg : ScoresNonneg S now bcs factors b)
    (hfactors : factors = pre ++ f :: post) :
    factorFields (Packing.packMod 64 (fields S now bcs factors b)) (factors.map I.ScoreBitNum).sum
        ((pre ++ [f]).map I.ScoreBitNum) = clampedScores S now bcs (pre ++ [f]) b := by
  have hall := factorFields_fields hbits hnonneg
  have hsplit : factors = (pre ++ [f]) ++ post := by rw [hfactors, List.append_cons]
  -- split the bit numbers and the clamped scores at the end of `f`
  have hbitNums : factors.map I.ScoreBitNum =
      (pre ++ [f]).map I.ScoreBitNum ++ post.map I.ScoreBitNum := by
    rw [hsplit, List.map_append]
  have hclamped : clampedScores S now bcs factors b =
      clampedScores S now bcs (pre ++ [f]) b ++ clampedScores S now bcs post b := by
    rw [hsplit]
    simp only [clampedScores, List.map_append]
  conv at hall => lhs; arg 3; rw [hbitNums]
  rw [factorFields, Packing.unpack_append, hclamped] at hall
  have hlen : (Packing.unpack maxBitNum (Packing.packMod 64 (fields S now bcs factors b))
      (factors.map I.ScoreBitNum).sum ((pre ++ [f]).map I.ScoreBitNum)).length =
        (clampedScores S now bcs (pre ++ [f]) b).length := by
    simp [clampedScores]
  exact (List.append_inj hall hlen).1

theorem BackendsToBalance_clampedFields
    (S : AddsScores I)
    (fbb : FactorBasedBalance F)
    (now : Nat)
    (backends : List BackendCtx)
    (hbits : BitsFit I fbb.factors)
    (htotal : fbb.totalBitNum = (fbb.factors.map I.ScoreBitNum).sum)
    (hnonneg : ∀ b ∈ backends, ScoresNonneg S now backends fbb.factors b)
    {fromBackend toBackend : BackendCtx}
    {balanceCount : ℚ}
    {reason : String}
    (h : (BackendsToBalance I fbb now backends).2 =
      some ⟨some fromBackend, some toBackend, balanceCount, reason⟩) :
    ∃ i j : Nat, i ≠ j ∧ backends[i]? = some fromBackend ∧ backends[j]? = some toBackend ∧
      toBackend.Healthy = true ∧ 0 < fromBackend.ConnScore ∧
      ∃ pre f post, fbb.factors = pre ++ f :: post ∧ I.Name (S.next f now backends) = reason ∧
        List.Forall₂ (fun x y => y ≤ x) (clampedScores S now backends (pre ++ [f]) fromBackend)
          (clampedScores S now backends (pre ++ [f]) toBackend) := by
  obtain ⟨i, j, busiest, idlest, hij, hbusy, hidle, rfl, rfl, hhealthy, hconn,
    pre', f', post', hsplit, hname, hfields⟩ := BackendsToBalance_factorFields fbb now backends h
  rw [updateScore_eq S, List.getElem?_map] at hbusy hidle
  rw [updateScore_eq S] at hsplit
  dsimp only at hsplit
  -- the two are backends with their fields packed
  obtain ⟨b, hb, rfl⟩ := Option.map_eq_some_iff.mp hbusy
  obtain ⟨c, hc, rfl⟩ := Option.map_eq_some_iff.mp hidle
  -- the factors after scoring are the next states of the factors before
  obtain ⟨pre, rest, hpre, rfl, hrest⟩ := List.map_eq_append_iff.mp hsplit
  obtain ⟨f, post, hcons, rfl, rfl⟩ := List.map_eq_cons_iff.mp hrest
  have hbitNums : ((pre.map fun f => S.next f now backends) ++ [S.next f now backends]).map
      I.ScoreBitNum = (pre ++ [f]).map I.ScoreBitNum := by
    simp [S.scoreBitNum_next]
  have hfactors : fbb.factors = pre ++ f :: post := by rw [hpre, hcons]
  refine ⟨i, j, hij, hb, hc, hhealthy, hconn, pre, f, post, hfactors, hname, ?_⟩
  rw [hbitNums, htotal] at hfields
  rw [← factorFields_prefix hbits (hnonneg b (List.mem_of_getElem? hb)) hfactors,
    ← factorFields_prefix hbits (hnonneg c (List.mem_of_getElem? hc)) hfactors]
  exact hfields

/-- With scores of at least zero and fitting bits, the pair `BackendsToBalance` returns
is two backends at different positions, the idlest healthy and the busiest with
connections, and on every factor up to the one it names the busiest backend's clamped
score is at least the idlest's: no migration goes against a factor of higher
priority. -/
theorem BackendsToBalance_clamped
    (S : AddsScores I)
    (fbb : FactorBasedBalance F)
    (now : Nat)
    (backends : List BackendCtx)
    (hbits : BitsFit I fbb.factors)
    (htotal : fbb.totalBitNum = (fbb.factors.map I.ScoreBitNum).sum)
    (hnonneg : ∀ b ∈ backends, ScoresNonneg S now backends fbb.factors b)
    {fromBackend toBackend : BackendCtx}
    {balanceCount : ℚ}
    {reason : String}
    (h : (BackendsToBalance I fbb now backends).2 =
      some ⟨some fromBackend, some toBackend, balanceCount, reason⟩) :
    ∃ i j : Nat, i ≠ j ∧ backends[i]? = some fromBackend ∧ backends[j]? = some toBackend ∧
      toBackend.Healthy = true ∧ 0 < fromBackend.ConnScore ∧
      ∃ pre f post, fbb.factors = pre ++ f :: post ∧ I.Name (S.next f now backends) = reason ∧
        List.Forall₂ (fun x y => y ≤ x) (clampedScores S now backends (pre ++ [f]) fromBackend)
          (clampedScores S now backends (pre ++ [f]) toBackend) :=
  BackendsToBalance_clampedFields S fbb now backends hbits htotal hnonneg h

theorem BackendsToBalance_clamped_connCount :
    BitsFit realFactor connCountBalance.factors ∧
      connCountBalance.totalBitNum = (connCountBalance.factors.map realFactor.ScoreBitNum).sum ∧
      (∀ b ∈ [backendA 10, backendB 0], ScoresNonneg realScores 0 [backendA 10, backendB 0]
        connCountBalance.factors b) ∧
      (BackendsToBalance realFactor connCountBalance 0 [backendA 10, backendB 0]).2 =
        some ⟨some (backendA 10), some (backendB 0), 1, "conn"⟩ ∧
      ∃ i j : Nat, i ≠ j ∧ [backendA 10, backendB 0][i]? = some (backendA 10) ∧
        [backendA 10, backendB 0][j]? = some (backendB 0) ∧
        (backendB 0).Healthy = true ∧ 0 < (backendA 10).ConnScore ∧
        ∃ pre f post, connCountBalance.factors = pre ++ f :: post ∧
          realFactor.Name (realScores.next f 0 [backendA 10, backendB 0]) = "conn" ∧
          List.Forall₂ (fun x y => y ≤ x)
            (clampedScores realScores 0 [backendA 10, backendB 0] (pre ++ [f]) (backendA 10))
            (clampedScores realScores 0 [backendA 10, backendB 0] (pre ++ [f]) (backendB 0)) := by
  have hbits : BitsFit realFactor connCountBalance.factors := ⟨by decide, by decide⟩
  have htotal : connCountBalance.totalBitNum =
      (connCountBalance.factors.map realFactor.ScoreBitNum).sum := by decide
  have hnonneg : ∀ b ∈ [backendA 10, backendB 0], ScoresNonneg realScores 0
      [backendA 10, backendB 0] connCountBalance.factors b := by
    intro b hb
    apply realScores_scoresNonneg (by decide)
    simp only [List.mem_cons, List.not_mem_nil, or_false] at hb
    rcases hb with rfl | rfl <;> decide
  have h : (BackendsToBalance realFactor connCountBalance 0 [backendA 10, backendB 0]).2 =
      some ⟨some (backendA 10), some (backendB 0), 1, "conn"⟩ := by
    decide +kernel
  exact ⟨hbits, htotal, hnonneg, h,
    BackendsToBalance_clamped realScores _ 0 _ hbits htotal hnonneg h⟩

end Balancing

/-! ### The CPU factor below zero

Two healthy local backends, at 12.5 % and 50 % CPU with 64 connections each when the
CPU metrics were read.  The balance routes once with the metrics fresh; then the
backends lose connections before the metrics are read again, and the CPU factor
estimates each usage from the 64 connections of its snapshot: below zero for the
first backend, whose score then borrows from the fields before the CPU factor's. -/

/-- The CPU usage of the two backends, sampled at the millisecond `10 ^ 6`. -/
def lostConnsCPU : QueryResult where
  Empty := false
  UpdateTime := UnixMilli (10 ^ 6)
  GetSample4Backend := fun _ => none
  GetSamplePair4Backend := fun addr =>
    if addr = "10.0.0.1:4000" then [⟨10 ^ 6, some 0.125⟩]
    else if addr = "10.0.0.2:4000" then [⟨10 ^ 6, some 0.5⟩]
    else []

/-- Only the CPU query has a result. -/
def lostConnsMetrics : MetricsReader :=
  fun key => if key = "cpu" then lostConnsCPU else QueryResult.zero

/-- The default configuration, without labels. -/
def lostConnsConfig : Config :=
  ⟨DefaultBalance, none⟩

/-- A second after the metrics were updated. -/
def firstRouteTime : Nat :=
  UnixMilli (10 ^ 6) + second

/-- The balance after routing once with both backends at 64 connections. -/
def afterFirstRoute
    (fbb : FactorBasedBalance AnyFactor) : FactorBasedBalance AnyFactor :=
  (BackendToRoute realFactor fbb firstRouteTime [backendA 64, backendB 64]).1

/-- Thirty seconds later, with the metrics not read again. -/
def laterTime : Nat :=
  firstRouteTime + 30 * second

theorem BackendToRoute_cpu_negative :
    ∃ fbb, Init lostConnsMetrics lostConnsConfig = .ok fbb ∧
      ((afterFirstRoute fbb).factors.map fun f =>
          (realScores.scores f laterTime [backendA 0, backendB 64]).map fun score => score (backendA 0)) =
        [some 0, none, none, some (-3), some 0, some 0] ∧
      (BackendToRoute realFactor (afterFirstRoute fbb) laterTime [backendA 0, backendB 64]).2 =
        some (backendB 64) ∧
      List.Lex (· < ·)
        (clampedScores realScores laterTime [backendA 0, backendB 64] (afterFirstRoute fbb).factors
          (backendA 0))
        (clampedScores realScores laterTime [backendA 0, backendB 64] (afterFirstRoute fbb).factors
          (backendB 64)) :=
  ⟨_, Init_default _ _, by decide +kernel⟩

theorem BackendsToBalance_cpu_negative :
    ∃ fbb, Init lostConnsMetrics lostConnsConfig = .ok fbb ∧
      (BackendsToBalance realFactor (afterFirstRoute fbb) laterTime [backendA 10, backendB 0]).2 =
        some ⟨some (backendA 10), some (backendB 0), 1, "conn"⟩ ∧
      ((updateScore realFactor (afterFirstRoute fbb) laterTime [backendA 10, backendB 0]).2.map
          fun b => factorFields b.score 27 [1, 2, 2, 5, 1, 16]) =
        [[1, 3, 3, 30, 0, 10], [0, 0, 0, 3, 0, 0]] ∧
      clampedScores realScores laterTime [backendA 10, backendB 0] (afterFirstRoute fbb).factors
          (backendA 10) = [0, 0, 0, 0, 0, 10] ∧
      clampedScores realScores laterTime [backendA 10, backendB 0] (afterFirstRoute fbb).factors
          (backendB 0) = [0, 0, 0, 3, 0, 0] :=
  ⟨_, Init_default _ _, by decide +kernel⟩

end Balance
end TiProxy
