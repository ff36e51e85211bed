import Mathlib.Data.List.AList

/-!
# Backend health as the observer reports it

The data model of `pkg/balance/observer`: the health of one backend and the
health-check result delivered to the routers.  A Go `map[string]*BackendHealth`
is an `AList` keyed by the backend address, so that keys are distinct by
construction.

`BackendHealth.equals` compares only `healthy`, `serverVersion` and `local`,
exactly as `BackendHealth.Equals` does; the labels, IP and status port are not
compared.
-/

namespace TiProxy
namespace Observer

/-- `observer.BackendInfo`: the status info of a backend. -/
structure BackendInfo where
  labels : List (String × String)
  ip : String
  statusPort : Nat
deriving DecidableEq, Repr, Inhabited

/-- `observer.BackendHealth`. -/
structure BackendHealth where
  backendInfo : BackendInfo
  healthy : Bool
  pingErr : Option String
  serverVersion : String
  «local» : Bool
deriving DecidableEq, Repr, Inhabited

/-- `BackendHealth.Equals`: health, version and locality agree. -/
def BackendHealth.equals
    (bh health : BackendHealth) : Bool :=
  bh.healthy == health.healthy && bh.serverVersion == health.serverVersion &&
    bh.local == health.local

@[simp] theorem BackendHealth.equals_self
    (bh : BackendHealth) :
    bh.equals bh = true := by
  simp [BackendHealth.equals]

/-- Backends that `Equals` calls equal agree on their health. -/
theorem BackendHealth.healthy_eq_of_equals
    {bh health : BackendHealth}
    (h : bh.equals health = true) :
    bh.healthy = health.healthy := by
  simp only [BackendHealth.equals, Bool.and_eq_true, beq_iff_eq] at h
  exact h.1.1

/-- `observer.HealthResult`: the backends map, empty when `err` is set. -/
structure HealthResult where
  backends : AList (fun _ : String => BackendHealth)
  err : Option String

end Observer
end TiProxy
