import TiProxy.Balance.Priority
import TiProxy.Lib.Transition

/-!
# The balance over whole runs

The states a `FactorBasedBalance` reaches from `Init`: it routes and balances at any
time on any backends, `SetConfig` runs `setFactors` again with any configuration,
and the metrics reader's results change.  In every such state the factors are of
the kinds the last configuration selects, each with the bit number it was created
with, so their bits always fit and `setFactors` never panics.

**Results.**
* `good_inductive`, `Reachable.good`: the invariant `Good` is inductive
  (`Transition.Inductive`), so it holds in every reachable state.
* `setFactors_ok_of_reachable`: `SetConfig` never reaches the panic of `setFactors`.
* `connection_priority`: with the connection policy, from every reachable state,
  routing is lexicographically least on the clamped scores and balancing never
  migrates against a factor of higher priority.
-/

namespace TiProxy
namespace Balance

/-! ### Kinds of factor -/

/-- The seven kinds of factor. -/
inductive Kind where
  | status
  | label
  | health
  | memory
  | cpu
  | location
  | connCount
deriving DecidableEq, Repr

/-- The bit number each kind of factor is created with. -/
def Kind.bitNum : Kind → Nat
  | .status => 1
  | .label => 1
  | .health => 2
  | .memory => 2
  | .cpu => 5
  | .location => 1
  | .connCount => 16

namespace AnyFactor

/-- The kind of a factor. -/
def kind : AnyFactor → Kind
  | status _ => .status
  | label _ => .label
  | health _ => .health
  | memory _ => .memory
  | cpu _ => .cpu
  | location _ => .location
  | connCount _ => .connCount

/-- The factor has the bit number of its kind. -/
def HasKindBits
    (f : AnyFactor) : Prop :=
  f.ScoreBitNum = f.kind.bitNum

/-- The metrics reader's results change: the health, memory and CPU factors read the
new ones. -/
def withMetrics
    (mr : MetricsReader) : AnyFactor → AnyFactor
  | health fh => health { fh with mr := mr }
  | memory fm => memory { fm with mr := mr }
  | cpu fc => cpu { fc with mr := mr }
  | f => f

@[simp] theorem kind_next
    (f : AnyFactor)
    (now : Nat)
    (bcs : List BackendCtx) :
    (f.next now bcs).kind = f.kind := by
  cases f <;> rfl

@[simp] theorem kind_SetConfig
    (cfg : Config)
    (f : AnyFactor) :
    (f.SetConfig cfg).kind = f.kind := by
  cases f <;> rfl

@[simp] theorem ScoreBitNum_SetConfig
    (cfg : Config)
    (f : AnyFactor) :
    (f.SetConfig cfg).ScoreBitNum = f.ScoreBitNum := by
  cases f
  case label fl =>
    -- only the label factor reads the configuration, and not its bits
    show (fl.SetConfig cfg).bitNum = fl.bitNum
    unfold FactorLabel.SetConfig
    split
    · dsimp only
      split <;> rfl
    · rfl
  all_goals rfl

@[simp] theorem kind_withMetrics
    (mr : MetricsReader)
    (f : AnyFactor) :
    (f.withMetrics mr).kind = f.kind := by
  cases f <;> rfl

@[simp] theorem ScoreBitNum_withMetrics
    (mr : MetricsReader)
    (f : AnyFactor) :
    (f.withMetrics mr).ScoreBitNum = f.ScoreBitNum := by
  cases f <;> rfl

theorem isCPU_eq_false
    {f : AnyFactor}
    (h : f.kind ≠ .cpu) :
    f.isCPU = false := by
  cases f
  case cpu => exact absurd rfl h
  all_goals rfl

end AnyFactor

/-- The kinds `setFactors` selects for a configuration, in order. -/
def kindsOf
    (cfg : Config) : List Kind :=
  [.status] ++ (if cfg.Balance.LabelName ≠ "" then [.label] else []) ++
    (if cfg.Balance.Policy = BalancePolicyResource then [.health, .memory, .cpu, .location]
    else if cfg.Balance.Policy = BalancePolicyLocation then [.location, .health, .memory, .cpu]
    else []) ++
    [.connCount]

/-- At most 28 bits whatever the configuration. -/
theorem kindsOf_bitNum_le
    (cfg : Config) :
    ((kindsOf cfg).map Kind.bitNum).sum ≤ 28 := by
  unfold kindsOf
  split_ifs <;> decide

/-- The connection policy selects no CPU factor. -/
theorem cpu_not_mem_kindsOf
    {cfg : Config}
    (hpolicy : cfg.Balance.Policy = BalancePolicyConnection) :
    Kind.cpu ∉ kindsOf cfg := by
  have hres : cfg.Balance.Policy ≠ BalancePolicyResource := by rw [hpolicy]; decide
  have hloc : cfg.Balance.Policy ≠ BalancePolicyLocation := by rw [hpolicy]; decide
  unfold kindsOf
  rw [if_neg hres, if_neg hloc]
  split_ifs <;> decide

/-- On factors with the bits of their kinds, the total is the kinds' bits. -/
theorem sum_bitNum_of_kindBits
    {factors : List AnyFactor}
    (hbits : ∀ f ∈ factors, f.HasKindBits) :
    (factors.map realFactor.ScoreBitNum).sum = ((factors.map AnyFactor.kind).map Kind.bitNum).sum := by
  rw [List.map_map]
  congr 1
  exact List.map_congr_left hbits

/-! ### The invariant -/

/-- What every reachable state satisfies for its last configuration `cfg`: the factors
are of the kinds `cfg` selects, each with the bits of its kind, and the total bit
number is their sum. -/
structure Good
    (cfg : Config)
    (fbb : FactorBasedBalance AnyFactor) : Prop where
  kinds : fbb.factors.map AnyFactor.kind = kindsOf cfg
  bitNum : ∀ f ∈ fbb.factors, f.HasKindBits
  total : fbb.totalBitNum = (fbb.factors.map realFactor.ScoreBitNum).sum

theorem Good.bitsFit
    {cfg : Config}
    {fbb : FactorBasedBalance AnyFactor}
    (hgood : Good cfg fbb) :
    BitsFit realFactor fbb.factors := by
  constructor
  · intro f hf
    -- no kind has more than 16 bits
    rw [show realFactor.ScoreBitNum f = f.kind.bitNum from hgood.bitNum f hf]
    cases f.kind <;> decide
  · rw [sum_bitNum_of_kindBits hgood.bitNum, hgood.kinds]
    exact le_trans (kindsOf_bitNum_le cfg) (by decide)

/-- Factors mapped by a step that keeps kinds and bit numbers keep the invariant. -/
theorem Good.map
    {cfg : Config}
    {fbb : FactorBasedBalance AnyFactor}
    (hgood : Good cfg fbb)
    (g : AnyFactor → AnyFactor)
    (hkind : ∀ f, (g f).kind = f.kind)
    (hbits : ∀ f, (g f).ScoreBitNum = f.ScoreBitNum) :
    Good cfg { fbb with factors := fbb.factors.map g } := by
  constructor
  · rw [List.map_map, ← hgood.kinds]
    exact List.map_congr_left fun f _ => hkind f
  · intro f' hf'
    obtain ⟨f, hf, rfl⟩ := List.mem_map.mp hf'
    unfold AnyFactor.HasKindBits
    rw [hkind, hbits]
    exact hgood.bitNum f hf
  · rw [hgood.total, List.map_map]
    congr 1
    exact List.map_congr_left fun f _ => (hbits f).symm

theorem Good.updateScore
    {cfg : Config}
    {fbb : FactorBasedBalance AnyFactor}
    (hgood : Good cfg fbb)
    (now : Nat)
    (backends : List BackendCtx) :
    Good cfg (Balance.updateScore realFactor fbb now backends).1 := by
  rw [updateScore_eq realScores]
  exact hgood.map _ (fun f => AnyFactor.kind_next f now backends)
    (fun f => AnyFactor.ScoreBitNum_next f now backends)

/-- `BackendToRoute` leaves the balance as it was or as `updateScore` leaves it. -/
theorem BackendToRoute_fst
    {F : Type}
    (I : Factor F)
    (fbb : FactorBasedBalance F)
    (now : Nat)
    (backends : List BackendCtx) :
    (BackendToRoute I fbb now backends).1 = fbb ∨
      (BackendToRoute I fbb now backends).1 = (Balance.updateScore I fbb now backends).1 := by
  unfold BackendToRoute
  split
  · exact .inl rfl
  · exact .inl rfl
  · right
    rcases Balance.updateScore I fbb now backends with ⟨fbb', scored⟩
    cases scored <;> rfl

/-- `BackendsToBalance` leaves the balance as it was or as `updateScore` leaves it. -/
theorem BackendsToBalance_fst
    {F : Type}
    (I : Factor F)
    (fbb : FactorBasedBalance F)
    (now : Nat)
    (backends : List BackendCtx) :
    (BackendsToBalance I fbb now backends).1 = fbb ∨
      (BackendsToBalance I fbb now backends).1 = (Balance.updateScore I fbb now backends).1 := by
  unfold BackendsToBalance
  split
  · exact .inl rfl
  · right
    rcases Balance.updateScore I fbb now backends with ⟨fbb', scored⟩
    dsimp only
    split
    · split
      · split
        · rfl
        · split <;> rfl
      · rfl
    · rfl

/-! ### `setFactors` -/

/-- The factors the pointers hold. -/
def FactorPointers.toList
    (ptrs : FactorPointers) : List AnyFactor :=
  (ptrs.factorStatus.map .status).toList ++ (ptrs.factorLabel.map .label).toList ++
    (ptrs.factorHealth.map .health).toList ++ (ptrs.factorMemory.map .memory).toList ++
    (ptrs.factorCPU.map .cpu).toList ++ (ptrs.factorLocation.map .location).toList ++
    (ptrs.factorConnCount.map .connCount).toList

theorem FactorPointers.mem_toList_set
    {ptrs : FactorPointers}
    {f g : AnyFactor}
    (hg : g ∈ (ptrs.set f).toList) :
    g = f ∨ g ∈ ptrs.toList := by
  cases f <;>
    simp only [FactorPointers.set, FactorPointers.toList, List.mem_append, Option.map_some,
      Option.toList_some, List.mem_singleton] at hg ⊢ <;>
    tauto

/-- The pointers read off a list hold factors of the list. -/
theorem FactorPointers.mem_of_mem_ofFactors
    (factors : List AnyFactor) :
    ∀ g ∈ (FactorPointers.ofFactors factors).toList, g ∈ factors := by
  -- the fold from any pointers keeps their factors or takes factors of the list
  have hfold : ∀ (l : List AnyFactor) (ptrs : FactorPointers),
      ∀ g ∈ (l.foldl FactorPointers.set ptrs).toList, g ∈ ptrs.toList ∨ g ∈ l := by
    intro l
    induction l with
    | nil =>
        intro ptrs g hg
        exact .inl hg
    | cons f l ih =>
        intro ptrs g hg
        rcases ih _ g hg with hg | hg
        · rcases FactorPointers.mem_toList_set hg with rfl | hg
          · exact .inr List.mem_cons_self
          · exact .inl hg
        · exact .inr (List.mem_cons_of_mem _ hg)
  intro g hg
  rcases hfold factors _ g hg with hg | hg
  · simp [FactorPointers.none, FactorPointers.toList] at hg
  · exact hg

/-- A reused factor has the bits of its kind when every factor of the old list has,
and a fresh one has them. -/
theorem getD_hasKindBits
    {X : Type}
    {o : Option X}
    {d : X}
    {wrap : X → AnyFactor}
    (hd : (wrap d).HasKindBits)
    (ho : ∀ x, o = some x → (wrap x).HasKindBits) :
    (wrap (o.getD d)).HasKindBits := by
  cases o with
  | none => exact hd
  | some x => exact ho x rfl

/-- From factors with the bits of their kinds, `setFactors` succeeds and establishes
the invariant for the new configuration. -/
theorem setFactors_good
    (mr : MetricsReader)
    {fbb : FactorBasedBalance AnyFactor}
    (hbits : ∀ f ∈ fbb.factors, f.HasKindBits)
    (cfg : Config) :
    ∃ fbb', setFactors mr fbb cfg = .ok fbb' ∧ Good cfg fbb' := by
  unfold setFactors
  dsimp only
  set ptrs := FactorPointers.ofFactors fbb.factors
  -- every pointer holds a factor of the old list
  have hptr : ∀ g ∈ ptrs.toList, g.HasKindBits := fun g hg =>
    hbits g (FactorPointers.mem_of_mem_ofFactors _ g hg)
  have hS : (AnyFactor.status (ptrs.factorStatus.getD NewFactorStatus)).HasKindBits :=
    getD_hasKindBits rfl fun x hx => hptr _ (by simp [FactorPointers.toList, hx])
  have hL : (AnyFactor.label (ptrs.factorLabel.getD NewFactorLabel)).HasKindBits :=
    getD_hasKindBits rfl fun x hx => hptr _ (by simp [FactorPointers.toList, hx])
  have hH : (AnyFactor.health (ptrs.factorHealth.getD (NewFactorHealth mr))).HasKindBits :=
    getD_hasKindBits rfl fun x hx => hptr _ (by simp [FactorPointers.toList, hx])
  have hM : (AnyFactor.memory (ptrs.factorMemory.getD (NewFactorMemory mr))).HasKindBits :=
    getD_hasKindBits rfl fun x hx => hptr _ (by simp [FactorPointers.toList, hx])
  have hC : (AnyFactor.cpu (ptrs.factorCPU.getD (NewFactorCPU mr))).HasKindBits :=
    getD_hasKindBits rfl fun x hx => hptr _ (by simp [FactorPointers.toList, hx])
  have hLoc : (AnyFactor.location (ptrs.factorLocation.getD NewFactorLocation)).HasKindBits :=
    getD_hasKindBits rfl fun x hx => hptr _ (by simp [FactorPointers.toList, hx])
  have hConn : (AnyFactor.connCount (ptrs.factorConnCount.getD NewFactorConnCount)).HasKindBits :=
    getD_hasKindBits rfl fun x hx => hptr _ (by simp [FactorPointers.toList, hx])
  set factors : List AnyFactor :=
    [AnyFactor.status (ptrs.factorStatus.getD NewFactorStatus)] ++
    (if cfg.Balance.LabelName ≠ "" then [AnyFactor.label (ptrs.factorLabel.getD NewFactorLabel)]
      else []) ++
    (if cfg.Balance.Policy = BalancePolicyResource then
      [.health (ptrs.factorHealth.getD (NewFactorHealth mr)),
        .memory (ptrs.factorMemory.getD (NewFactorMemory mr)),
        .cpu (ptrs.factorCPU.getD (NewFactorCPU mr)),
        .location (ptrs.factorLocation.getD NewFactorLocation)]
    else if cfg.Balance.Policy = BalancePolicyLocation then
      [.location (ptrs.factorLocation.getD NewFactorLocation),
        .health (ptrs.factorHealth.getD (NewFactorHealth mr)),
        .memory (ptrs.factorMemory.getD (NewFactorMemory mr)),
        .cpu (ptrs.factorCPU.getD (NewFactorCPU mr))]
    else []) ++
    [AnyFactor.connCount (ptrs.factorConnCount.getD NewFactorConnCount)] with hfactors
  have hkinds : factors.map AnyFactor.kind = kindsOf cfg := by
    rw [hfactors]
    unfold kindsOf
    split_ifs <;> rfl
  have hall : ∀ f ∈ factors, f.HasKindBits := by
    intro f hf
    rw [hfactors] at hf
    simp only [List.mem_append, List.mem_singleton] at hf
    rcases hf with ((rfl | hf) | hf) | rfl
    · exact hS
    · split_ifs at hf
      · rw [List.mem_singleton.mp hf]
        exact hL
      · cases hf
    · split_ifs at hf <;>
        simp only [List.mem_cons, List.not_mem_nil, or_false] at hf <;>
        rcases hf with rfl | rfl | rfl | rfl <;>
        assumption
    · exact hConn
  have hsum : (factors.map realFactor.ScoreBitNum).sum ≤ maxBitNum := by
    rw [sum_bitNum_of_kindBits hall, hkinds]
    exact le_trans (kindsOf_bitNum_le cfg) (by decide)
  have hgood : Good cfg ⟨factors, (factors.map realFactor.ScoreBitNum).sum⟩ := ⟨hkinds, hall, rfl⟩
  refine ⟨_, ?_, hgood.map _ (AnyFactor.kind_SetConfig cfg) (AnyFactor.ScoreBitNum_SetConfig cfg)⟩
  -- `updateBitNum` accepts the total, so `setFactors` passes the configuration on
  have hupdate : updateBitNum realFactor { fbb with factors := factors } =
      .ok ⟨factors, (factors.map realFactor.ScoreBitNum).sum⟩ := by
    unfold updateBitNum
    rw [if_neg (not_lt.mpr hsum)]
  rw [hupdate]

/-! ### Runs -/

/-- One step of the balance, with the configuration it was last set with: routing or
balancing at any time on any backends, `SetConfig` with any configuration, or the
metrics reader's results changing. -/
inductive BalanceStep :
    Config × FactorBasedBalance AnyFactor → Config × FactorBasedBalance AnyFactor → Prop
  | route {cfg : Config} {fbb : FactorBasedBalance AnyFactor} (now : Nat) (backends : List BackendCtx) :
      BalanceStep (cfg, fbb) (cfg, (BackendToRoute realFactor fbb now backends).1)
  | balance {cfg : Config} {fbb : FactorBasedBalance AnyFactor} (now : Nat) (backends : List BackendCtx) :
      BalanceStep (cfg, fbb) (cfg, (BackendsToBalance realFactor fbb now backends).1)
  | setConfig {mr : MetricsReader} {cfg cfg' : Config} {fbb fbb' : FactorBasedBalance AnyFactor} :
      setFactors mr fbb cfg' = .ok fbb' → BalanceStep (cfg, fbb) (cfg', fbb')
  | metrics {cfg : Config} {fbb : FactorBasedBalance AnyFactor} (mr : MetricsReader) :
      BalanceStep (cfg, fbb) (cfg, { fbb with factors := fbb.factors.map (·.withMetrics mr) })

/-- The initial states: what `Init` returns for a configuration. -/
def BalanceInit
    (s : Config × FactorBasedBalance AnyFactor) : Prop :=
  ∃ mr, Init mr s.1 = .ok s.2

/-- The states of the balance from `Init`, with the configuration last set. -/
def Reachable
    (cfg : Config)
    (fbb : FactorBasedBalance AnyFactor) : Prop :=
  Transition.Reachable BalanceStep BalanceInit (cfg, fbb)

/-- `Good` is an inductive invariant of the balance. -/
theorem good_inductive :
    Transition.Inductive BalanceStep BalanceInit fun s => Good s.1 s.2 := by
  constructor
  · rintro ⟨cfg, fbb⟩ ⟨mr, hinit⟩
    -- the fresh balance has no factors to reuse
    obtain ⟨fbb', hok, hgood⟩ := @setFactors_good mr NewFactorBasedBalance
      (fun f hf => by cases hf) cfg
    dsimp only at hinit ⊢
    rw [Init, hok] at hinit
    cases hinit
    exact hgood
  · rintro ⟨cfg, fbb⟩ s' hgood hstep
    cases hstep with
    | route now backends =>
        rcases BackendToRoute_fst realFactor fbb now backends with h | h <;> dsimp only <;> rw [h]
        · exact hgood
        · exact hgood.updateScore now backends
    | balance now backends =>
        rcases BackendsToBalance_fst realFactor fbb now backends with h | h <;> dsimp only <;> rw [h]
        · exact hgood
        · exact hgood.updateScore now backends
    | @setConfig mr _ cfg' _ fbb' hset =>
        obtain ⟨fbb'', hok, hgood'⟩ := setFactors_good mr hgood.bitNum cfg'
        rw [hok] at hset
        cases hset
        exact hgood'
    | metrics mr =>
        exact hgood.map _ (AnyFactor.kind_withMetrics mr) (AnyFactor.ScoreBitNum_withMetrics mr)

/-- Every reachable state satisfies the invariant. -/
theorem Reachable.good
    {cfg : Config}
    {fbb : FactorBasedBalance AnyFactor}
    (hreach : Reachable cfg fbb) :
    Good cfg fbb :=
  good_inductive.holds hreach

/-- From every reachable state, `SetConfig` with any configuration passes
`updateBitNum`: the panic of `setFactors` is never reached, and the new factors'
bits fit. -/
theorem setFactors_ok_of_reachable
    {cfg : Config}
    {fbb : FactorBasedBalance AnyFactor}
    (hreach : Reachable cfg fbb)
    (mr : MetricsReader)
    (cfg' : Config) :
    ∃ fbb', setFactors mr fbb cfg' = .ok fbb' ∧ BitsFit realFactor fbb'.factors ∧
      fbb'.totalBitNum = (fbb'.factors.map realFactor.ScoreBitNum).sum := by
  obtain ⟨fbb', hok, hgood⟩ := setFactors_good mr hreach.good.bitNum cfg'
  exact ⟨fbb', hok, hgood.bitsFit, hgood.total⟩

theorem setFactors_ok_of_reachable_default :
    Reachable ⟨⟨"", BalancePolicyConnection⟩, none⟩ connCountBalance ∧
      ∃ fbb', setFactors lostConnsMetrics connCountBalance ⟨DefaultBalance, none⟩ = .ok fbb' ∧
        BitsFit realFactor fbb'.factors ∧
        fbb'.totalBitNum = (fbb'.factors.map realFactor.ScoreBitNum).sum := by
  have hreach : Reachable ⟨⟨"", BalancePolicyConnection⟩, none⟩ connCountBalance :=
    Transition.Reachable.of_init ⟨lostConnsMetrics, Init_connection lostConnsMetrics none⟩
  exact ⟨hreach, setFactors_ok_of_reachable hreach lostConnsMetrics ⟨DefaultBalance, none⟩⟩

/-- With the connection policy no factor of a reachable state is the CPU factor. -/
theorem Good.noCPU
    {cfg : Config}
    {fbb : FactorBasedBalance AnyFactor}
    (hgood : Good cfg fbb)
    (hpolicy : cfg.Balance.Policy = BalancePolicyConnection) :
    ∀ f ∈ fbb.factors, f.isCPU = false := by
  intro f hf
  apply AnyFactor.isCPU_eq_false
  intro hcpu
  apply cpu_not_mem_kindsOf hpolicy
  rw [← hgood.kinds, ← hcpu]
  exact List.mem_map_of_mem hf

/-- With the connection policy, from every reachable state and on backends with
connection scores of at least zero: routing returns a backend whose clamped scores
are lexicographically least, and a pair that balancing returns has, on every factor
up to the one it names, the busiest backend's clamped score at least the idlest's. -/
theorem connection_priority
    {cfg : Config}
    {fbb : FactorBasedBalance AnyFactor}
    (hreach : Reachable cfg fbb)
    (hpolicy : cfg.Balance.Policy = BalancePolicyConnection)
    (now : Nat)
    (backends : List BackendCtx)
    (hconn : ∀ b ∈ backends, 0 ≤ b.ConnScore) :
    (backends ≠ [] → ∃ r, (BackendToRoute realFactor fbb now backends).2 = some r ∧ r ∈ backends ∧
      ∀ c ∈ backends, ¬ List.Lex (· < ·) (clampedScores realScores now backends fbb.factors c)
        (clampedScores realScores now backends fbb.factors r)) ∧
    (∀ fromBackend toBackend balanceCount reason,
      (BackendsToBalance realFactor fbb now backends).2 =
          some ⟨some fromBackend, some toBackend, balanceCount, reason⟩ →
        ∃ i j : Nat, i ≠ j ∧ backends[i]? = some fromBackend ∧ backends[j]? = some toBackend ∧
          toBackend.Healthy = true ∧ 0 < fromBackend.ConnScore ∧
          ∃ pre f post, fbb.factors = pre ++ f :: post ∧
            realFactor.Name (realScores.next f now backends) = reason ∧
            List.Forall₂ (fun x y => y ≤ x) (clampedScores realScores now backends (pre ++ [f]) fromBackend)
              (clampedScores realScores now backends (pre ++ [f]) toBackend)) := by
  have hgood := hreach.good
  -- without the CPU factor every score is at least zero
  have hnonneg : ∀ b ∈ backends, ScoresNonneg realScores now backends fbb.factors b :=
    fun b hb => realScores_scoresNonneg (hgood.noCPU hpolicy) (hconn b hb)
  constructor
  · intro hne
    exact BackendToRoute_isLexMin realScores fbb now backends hne hgood.bitsFit hnonneg
  · intro fromBackend toBackend balanceCount reason h
    exact BackendsToBalance_clampedFields realScores fbb now backends hgood.bitsFit hgood.total hnonneg h

theorem connection_priority_init :
    Reachable ⟨⟨"", BalancePolicyConnection⟩, none⟩ connCountBalance ∧
      (⟨⟨"", BalancePolicyConnection⟩, none⟩ : Config).Balance.Policy = BalancePolicyConnection ∧
      (∀ b ∈ [backendA 10, backendB 0], 0 ≤ b.ConnScore) ∧
      ([backendA 10, backendB 0] ≠ [] → ∃ r,
        (BackendToRoute realFactor connCountBalance 0 [backendA 10, backendB 0]).2 = some r ∧
        r ∈ [backendA 10, backendB 0] ∧
        ∀ c ∈ [backendA 10, backendB 0], ¬ List.Lex (· < ·)
          (clampedScores realScores 0 [backendA 10, backendB 0] connCountBalance.factors c)
          (clampedScores realScores 0 [backendA 10, backendB 0] connCountBalance.factors r)) ∧
      (∀ fromBackend toBackend balanceCount reason,
        (BackendsToBalance realFactor connCountBalance 0 [backendA 10, backendB 0]).2 =
            some ⟨some fromBackend, some toBackend, balanceCount, reason⟩ →
          ∃ i j : Nat, i ≠ j ∧ [backendA 10, backendB 0][i]? = some fromBackend ∧
            [backendA 10, backendB 0][j]? = some toBackend ∧
            toBackend.Healthy = true ∧ 0 < fromBackend.ConnScore ∧
            ∃ pre f post, connCountBalance.factors = pre ++ f :: post ∧
              realFactor.Name (realScores.next f 0 [backendA 10, backendB 0]) = reason ∧
              List.Forall₂ (fun x y => y ≤ x)
                (clampedScores realScores 0 [backendA 10, backendB 0] (pre ++ [f]) fromBackend)
                (clampedScores realScores 0 [backendA 10, backendB 0] (pre ++ [f]) toBackend)) := by
  have hreach : Reachable ⟨⟨"", BalancePolicyConnection⟩, none⟩ connCountBalance :=
    Transition.Reachable.of_init ⟨lostConnsMetrics, Init_connection lostConnsMetrics none⟩
  have hconn : ∀ b ∈ [backendA 10, backendB 0], 0 ≤ b.ConnScore := by decide
  exact ⟨hreach, rfl, hconn, connection_priority hreach rfl 0 _ hconn⟩

end Balance
end TiProxy
