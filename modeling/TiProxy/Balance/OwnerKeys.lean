import Mathlib.Data.List.AList
import TiProxy.Lib.GoBytes

/-!
# The owner keys of the metrics readers

Every TiProxy campaigns to read the backends' metrics (`BackendReader.initElection`,
`pkg/balance/metricsreader/backend_reader.go`).  The election key is
`readerOwnerKeyPrefix/owner` for the global owner and `readerOwnerKeyPrefix/<zone>/owner`
for the owner of a zone; the etcd election appends `/` and the lease of the campaigner.
`queryAllOwners` reads every key under `readerOwnerKeyPrefix` back, tells the zone each
key is for from the text after the prefix, and keeps, for each zone, the key with the
smallest create revision: the owner.

Go ranges over `ownerMap` in an unspecified order; the model ranges over the entries
of the association list, so the order of the returned zones and owners is one of the
orders Go may produce.

**Results.**
* `ownerZone_electionKey`: the zone read back from an election key; a zone whose name
  begins with `owner` is read back as the global owner.
* `ownerMapOf_chosen`: for each zone, `ownerMap` holds the key with the smallest create
  revision.
-/

namespace TiProxy
namespace MetricsReader

open GoBytes

/-- `readerOwnerKeyPrefix`. -/
def readerOwnerKeyPrefix : List UInt8 := ascii "/tiproxy/metric_reader"

/-- `readerOwnerKeySuffix`. -/
def readerOwnerKeySuffix : List UInt8 := ascii "owner"

/-- The election key of `initElection` for the zone `lastZone`, empty for none. -/
def electionKey (lastZone : List UInt8) : List UInt8 :=
  if 0 < lastZone.length then
    readerOwnerKeyPrefix ++ [47] ++ lastZone ++ [47] ++ readerOwnerKeySuffix
  else
    readerOwnerKeyPrefix ++ [47] ++ readerOwnerKeySuffix

/-- A `mvccpb.KeyValue`: the fields `queryAllOwners` reads. -/
structure KeyValue where
  Key : List UInt8
  Value : List UInt8
  CreateRevision : Int
deriving DecidableEq, Repr

/-- `ownerInfo`. -/
structure OwnerInfo where
  addr : List UInt8
  revision : Int
deriving DecidableEq, Repr

/-- The zone `queryAllOwners` reads from a key under the prefix: `some []` for the
global owner, `none` for a key it skips. -/
def ownerZone (key : List UInt8) : Option (List UInt8) :=
  match key.drop readerOwnerKeyPrefix.length with
  | 47 :: key =>
      if readerOwnerKeySuffix.isPrefixOf key then
        -- global owner key, such as "/tiproxy/metric_reader/owner/leaseID"
        some []
      else
        let endIdx := indexByte key 47
        if 0 < endIdx ∧ readerOwnerKeySuffix.isPrefixOf (key.drop (endIdx.toNat + 1)) then
          -- zonal owner key, such as "/tiproxy/metric_reader/east/owner/leaseID"
          some (key.take endIdx.toNat)
        else none
  | _ => none

/-- `ownerMap`. -/
abbrev OwnerMap := AList fun _ : List UInt8 => OwnerInfo

/-- One key of the loop over `kvs`: a key with a smaller revision replaces its zone's. -/
def ownerMapStep (ownerMap : OwnerMap) (kv : KeyValue) : OwnerMap :=
  match ownerZone kv.Key with
  | none => ownerMap
  | some zone =>
      match ownerMap.lookup zone with
      | some info =>
          if info.revision > kv.CreateRevision then
            ownerMap.insert zone ⟨kv.Value, kv.CreateRevision⟩
          else ownerMap
      | none => ownerMap.insert zone ⟨kv.Value, kv.CreateRevision⟩

/-- The `ownerMap` of `queryAllOwners` over the keys etcd returned. -/
def ownerMapOf (kvs : List KeyValue) : OwnerMap :=
  kvs.foldl ownerMapStep ∅

/-- `queryAllOwners` after the keys are read: the zones with an owner and the owners'
addresses, each once. -/
def queryAllOwners (kvs : List KeyValue) : List (List UInt8) × List (List UInt8) :=
  (ownerMapOf kvs).entries.foldl
    (fun (zones, owners) entry =>
      (if 0 < entry.1.length ∧ entry.1 ∉ zones then zones ++ [entry.1] else zones,
        if entry.2.addr ∉ owners then owners ++ [entry.2.addr] else owners))
    ([], [])

/-! ### Reading an election key back -/

/-- A list without `c` is a prefix of `s ++ c :: rest` exactly when it is one of `s`. -/
theorem isPrefixOf_append_cons
    {c : UInt8}
    {l : List UInt8}
    (hc : c ∉ l)
    (s rest : List UInt8) :
    l.isPrefixOf (s ++ c :: rest) = l.isPrefixOf s := by
  induction l generalizing s with
  | nil => simp [List.isPrefixOf]
  | cons x l ih =>
    have hx : x ≠ c := fun h => hc (h ▸ List.mem_cons_self)
    cases s with
    | nil => simp [List.isPrefixOf, hx]
    | cons y s =>
      simp only [List.cons_append, List.isPrefixOf]
      rw [ih (fun h => hc (List.mem_cons_of_mem x h)) s]

theorem slash_not_mem_suffix :
    (47 : UInt8) ∉ readerOwnerKeySuffix := by
  decide

theorem drop_electionKey_global
    (lease : List UInt8) :
    (electionKey [] ++ 47 :: lease).drop readerOwnerKeyPrefix.length =
      47 :: (readerOwnerKeySuffix ++ 47 :: lease) := by
  simp [electionKey]

theorem drop_electionKey_zone
    {zone : List UInt8}
    (hzone : 0 < zone.length)
    (lease : List UInt8) :
    (electionKey zone ++ 47 :: lease).drop readerOwnerKeyPrefix.length =
      47 :: (zone ++ 47 :: (readerOwnerKeySuffix ++ 47 :: lease)) := by
  simp [electionKey, hzone]

/-- The zone `queryAllOwners` reads from the key a campaigner of `initElection` holds:
the zone itself, except that a zone whose name begins with `owner` is taken for the
global owner. -/
theorem ownerZone_electionKey
    (zone lease : List UInt8)
    (hslash : 47 ∉ zone) :
    ownerZone (electionKey zone ++ 47 :: lease) =
      some (if readerOwnerKeySuffix.isPrefixOf zone then [] else zone) := by
  rcases Nat.eq_zero_or_pos zone.length with hempty | hzone
  · -- the global key
    obtain rfl := List.eq_nil_of_length_eq_zero hempty
    rw [ownerZone, drop_electionKey_global]
    simp
  · -- a zonal key: the test for the global owner looks at the zone's own name first
    rw [ownerZone, drop_electionKey_zone hzone]
    simp only [isPrefixOf_append_cons slash_not_mem_suffix]
    split
    · simp
    · rename_i hsuffixLead
      -- the zone ends at the first slash, and `owner` follows it
      have hidx : indexByte (zone ++ 47 :: (readerOwnerKeySuffix ++ 47 :: lease)) 47 =
          zone.length := indexByte_append _ hslash
      have hdrop : zone.drop (zone.length + 1) = [] := List.drop_eq_nil_of_le (by omega)
      simp [hidx, hzone, hdrop, List.drop_append]

/-- A zonal owner whose zone name begins with `owner` is reported as the global owner,
and its zone as no zone at all. -/
theorem queryAllOwners_ownerPrefixedZone
    (zone lease addr : List UInt8)
    (revision : Int)
    (hslash : 47 ∉ zone)
    (hsuffixLead : readerOwnerKeySuffix.isPrefixOf zone = true) :
    (ownerMapOf [⟨electionKey zone ++ 47 :: lease, addr, revision⟩]).lookup [] =
        some ⟨addr, revision⟩ ∧
      queryAllOwners [⟨electionKey zone ++ 47 :: lease, addr, revision⟩] = ([], [addr]) := by
  have hzone : ownerZone (electionKey zone ++ 47 :: lease) = some [] := by
    simp [ownerZone_electionKey zone lease hslash, hsuffixLead]
  have hmap : ownerMapOf [⟨electionKey zone ++ 47 :: lease, addr, revision⟩] =
      (∅ : OwnerMap).insert [] ⟨addr, revision⟩ := by
    simp only [ownerMapOf, List.foldl_cons, List.foldl_nil, ownerMapStep, hzone,
      AList.lookup_empty]
  constructor
  · rw [hmap, AList.lookup_insert]
  · rw [queryAllOwners, hmap]
    simp

theorem queryAllOwners_ownerPrefixedZone_ownerEast :
    (47 : UInt8) ∉ ascii "owner-east" ∧ readerOwnerKeySuffix.isPrefixOf (ascii "owner-east") = true ∧
      (ownerMapOf [⟨electionKey (ascii "owner-east") ++ 47 :: ascii "694d8a", ascii "10.0.0.1:3080", 7⟩]).lookup [] =
          some ⟨ascii "10.0.0.1:3080", 7⟩ ∧
        queryAllOwners [⟨electionKey (ascii "owner-east") ++ 47 :: ascii "694d8a", ascii "10.0.0.1:3080", 7⟩] =
          ([], [ascii "10.0.0.1:3080"]) :=
  ⟨by decide, by decide,
    queryAllOwners_ownerPrefixedZone (ascii "owner-east") (ascii "694d8a") (ascii "10.0.0.1:3080") 7
      (by decide) (by decide)⟩

/-! ### The owner of each zone -/

/-- The keys of `kvs` that `queryAllOwners` reads as the zone's. -/
def zoneKVs (kvs : List KeyValue) (zone : List UInt8) : List KeyValue :=
  kvs.filter fun kv => ownerZone kv.Key == some zone

/-- What `ownerMap` holds after the keys `done`: no entry for a zone none of them is
for, and otherwise the value and revision of one of the zone's keys with the smallest
create revision. -/
def ChosenOwners (done : List KeyValue) (ownerMap : OwnerMap) : Prop :=
  ∀ zone, (ownerMap.lookup zone = none ↔ zoneKVs done zone = []) ∧
    ∀ info, ownerMap.lookup zone = some info →
      ∃ kv ∈ zoneKVs done zone, info = ⟨kv.Value, kv.CreateRevision⟩ ∧
        ∀ kv' ∈ zoneKVs done zone, kv.CreateRevision ≤ kv'.CreateRevision

theorem zoneKVs_append_of_ne
    (done : List KeyValue)
    {kv : KeyValue}
    {zone : List UInt8}
    (h : ownerZone kv.Key ≠ some zone) :
    zoneKVs (done ++ [kv]) zone = zoneKVs done zone := by
  simp [zoneKVs, List.filter_append, h]

theorem zoneKVs_append_of_eq
    (done : List KeyValue)
    {kv : KeyValue}
    {zone : List UInt8}
    (h : ownerZone kv.Key = some zone) :
    zoneKVs (done ++ [kv]) zone = zoneKVs done zone ++ [kv] := by
  simp [zoneKVs, List.filter_append, h]

/-- The zones the new key is not for keep their entries and their keys. -/
theorem ChosenOwners.of_ne
    {done : List KeyValue}
    {ownerMap ownerMap' : OwnerMap}
    (hchosen : ChosenOwners done ownerMap)
    {kv : KeyValue}
    {zone : List UInt8}
    (hzone : ownerZone kv.Key ≠ some zone)
    (hlookup : ownerMap'.lookup zone = ownerMap.lookup zone) :
    (ownerMap'.lookup zone = none ↔ zoneKVs (done ++ [kv]) zone = []) ∧
      ∀ info, ownerMap'.lookup zone = some info →
        ∃ kv₀ ∈ zoneKVs (done ++ [kv]) zone, info = ⟨kv₀.Value, kv₀.CreateRevision⟩ ∧
          ∀ kv' ∈ zoneKVs (done ++ [kv]) zone, kv₀.CreateRevision ≤ kv'.CreateRevision := by
  rw [hlookup, zoneKVs_append_of_ne done hzone]
  exact hchosen zone

/-- A key for a zone with no entry yet becomes its owner. -/
theorem chosen_of_first
    {done : List KeyValue}
    {kv : KeyValue}
    {zone : List UInt8}
    (hzone : ownerZone kv.Key = some zone)
    (hnone : zoneKVs done zone = []) :
    ∃ kv₀ ∈ zoneKVs (done ++ [kv]) zone,
      (⟨kv.Value, kv.CreateRevision⟩ : OwnerInfo) = ⟨kv₀.Value, kv₀.CreateRevision⟩ ∧
        ∀ kv' ∈ zoneKVs (done ++ [kv]) zone, kv₀.CreateRevision ≤ kv'.CreateRevision := by
  rw [zoneKVs_append_of_eq done hzone, hnone]
  exact ⟨kv, by simp, rfl, by simp⟩

/-- One key keeps the invariant: it replaces its zone's entry exactly when its revision
is smaller. -/
theorem ChosenOwners.step
    {done : List KeyValue}
    {ownerMap : OwnerMap}
    (hchosen : ChosenOwners done ownerMap)
    (kv : KeyValue) :
    ChosenOwners (done ++ [kv]) (ownerMapStep ownerMap kv) := by
  intro zone
  unfold ownerMapStep
  split
  · -- a key `queryAllOwners` skips
    rename_i hnone
    exact hchosen.of_ne (by simp [hnone]) rfl
  · rename_i zone' hzone'
    by_cases hsame : zone' = zone
    · subst hsame
      have hnew := zoneKVs_append_of_eq done hzone'
      split
      · rename_i info hinfo
        obtain ⟨kv₀, hmem₀, rfl, hmin₀⟩ := (hchosen zone').2 info hinfo
        split
        · -- a smaller revision: the new key is the zone's owner
          rename_i hlt
          refine ⟨by simp [hnew], fun info' hinfo' => ?_⟩
          rw [AList.lookup_insert, Option.some.injEq] at hinfo'
          subst hinfo'
          refine ⟨kv, by simp [hnew], rfl, fun kv' hkv' => ?_⟩
          rw [hnew, List.mem_append, List.mem_singleton] at hkv'
          rcases hkv' with hold | rfl
          · have hold_le := hmin₀ kv' hold
            simp only [gt_iff_lt] at hlt
            omega
          · exact Int.le_refl _
        · -- the entry stays: its revision is at most the new key's
          rename_i hle
          refine ⟨by simp [hinfo, hnew], fun info' hinfo' => ?_⟩
          rw [hinfo, Option.some.injEq] at hinfo'
          subst hinfo'
          refine ⟨kv₀, by simp [hnew, hmem₀], rfl, fun kv' hkv' => ?_⟩
          rw [hnew, List.mem_append, List.mem_singleton] at hkv'
          rcases hkv' with hold | rfl
          · exact hmin₀ kv' hold
          · simp only [gt_iff_lt] at hle
            omega
      · -- the zone's first key
        rename_i hnone
        have hempty := ((hchosen zone').1).mp hnone
        refine ⟨by simp [hnew], fun info' hinfo' => ?_⟩
        rw [AList.lookup_insert, Option.some.injEq] at hinfo'
        subst hinfo'
        exact chosen_of_first hzone' hempty
    · -- another zone's key leaves this zone as it was
      have hne : ownerZone kv.Key ≠ some zone := by simp [hzone', hsame]
      split
      · split
        · exact hchosen.of_ne hne (AList.lookup_insert_ne (Ne.symm hsame))
        · exact hchosen.of_ne hne rfl
      · exact hchosen.of_ne hne (AList.lookup_insert_ne (Ne.symm hsame))

theorem ChosenOwners.foldl
    {done : List KeyValue}
    {ownerMap : OwnerMap}
    (hchosen : ChosenOwners done ownerMap)
    (kvs : List KeyValue) :
    ChosenOwners (done ++ kvs) (kvs.foldl ownerMapStep ownerMap) := by
  induction kvs generalizing done ownerMap with
  | nil => simpa using hchosen
  | cons kv kvs ih =>
    simpa using ih (hchosen.step kv)

/-- For each zone, `queryAllOwners` keeps the key with the smallest create revision. -/
theorem ownerMapOf_chosen
    (kvs : List KeyValue) :
    ChosenOwners kvs (ownerMapOf kvs) := by
  have hinit : ChosenOwners [] (∅ : OwnerMap) := fun zone => by simp [zoneKVs]
  simpa [ownerMapOf] using hinit.foldl kvs

end MetricsReader
end TiProxy
