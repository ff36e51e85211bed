import Mathlib

/-!
# Counting list elements under a change at one point

Bookkeeping invariants count the elements of a list that satisfy a predicate, and
an operation usually changes the predicate at one element only: one connection
starts or stops redirecting, one packet is consumed.  This module states, once,
how `List.countP` moves under such a change, for a duplicate-free list.

**Results.**
* `countP_update_point`: changing `p` to `q` at one point `c` moves the count by
  the two indicator values at `c`.
* `countP_eq_of_forall_ne`: a change at a point outside the list changes nothing.
* `sum_map_update_point`: the same for an integer sum over the list, which moves by
  the change at the point.
-/

namespace List

variable {α : Type*}

/-- A change of the predicate at a point outside `l` does not move the count. -/
theorem countP_eq_of_forall_ne
    {l : List α} {c : α} {p q : α → Bool}
    (hc : c ∉ l)
    (h : ∀ x ∈ l, x ≠ c → p x = q x) :
    l.countP p = l.countP q := by
  apply List.countP_congr
  intro x hx
  have hne : x ≠ c := fun hxc => hc (hxc ▸ hx)
  rw [h x hx hne]

/-- Changing `p` to `q` at the single point `c` moves the count of a
duplicate-free list by the indicators of `p c` and `q c`. -/
theorem countP_update_point [DecidableEq α]
    {l : List α} (hl : l.Nodup) {c : α} {p q : α → Bool}
    (h : ∀ x ∈ l, x ≠ c → p x = q x) :
    l.countP q + (if c ∈ l ∧ p c then 1 else 0) =
      l.countP p + (if c ∈ l ∧ q c then 1 else 0) := by
  by_cases hc : c ∈ l
  · have hperm := List.perm_cons_erase hc
    have hout : c ∉ l.erase c := hl.not_mem_erase
    have hrest : (l.erase c).countP p = (l.erase c).countP q :=
      countP_eq_of_forall_ne hout (fun x hx => h x (List.mem_of_mem_erase hx))
    rw [hperm.countP_eq p, hperm.countP_eq q, List.countP_cons, List.countP_cons, hrest]
    by_cases hp : p c <;> by_cases hq : q c <;> simp [hc, hp, hq]
  · rw [countP_eq_of_forall_ne hc h]
    simp [hc]

/-- Changing `f` to `g` at the single point `c` of a duplicate-free list moves the
sum by the change at `c`. -/
theorem sum_map_update_point [DecidableEq α]
    {l : List α} (hl : l.Nodup) {c : α} (hc : c ∈ l) {f g : α → Int}
    (h : ∀ x ∈ l, x ≠ c → f x = g x) :
    (l.map g).sum = (l.map f).sum + (g c - f c) := by
  induction l with
  | nil =>
      cases hc
  | cons x xs ih =>
      rw [List.nodup_cons] at hl
      by_cases hxc : x = c
      · subst hxc
        -- the point is the head; the rest of the list does not see the change
        have hrest : xs.map g = xs.map f := by
          apply List.map_congr_left
          intro y hy
          exact (h y (List.mem_cons_of_mem _ hy) (fun hyx => hl.1 (hyx ▸ hy))).symm
        simp only [List.map_cons, List.sum_cons, hrest]
        omega
      · have hc' : c ∈ xs := by
          rcases List.mem_cons.mp hc with hcx | hcx
          · exact absurd hcx.symm hxc
          · exact hcx
        have hx := h x List.mem_cons_self hxc
        have hsum := ih hl.2 hc' (fun y hy hyc => h y (List.mem_cons_of_mem _ hy) hyc)
        simp only [List.map_cons, List.sum_cons, hx, hsum]
        omega

end List
