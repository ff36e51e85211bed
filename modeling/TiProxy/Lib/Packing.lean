import Mathlib.Data.List.Lex
import Mathlib.Tactic.Ring

/-!
# Fields packed into one number

A list of fields, each a width in bits and a value, packed most significant first:
the accumulator is shifted left by each width and the value added.  With every value
below `2 ^ width`, comparing two packed numbers compares their values
lexicographically, and each field is read back by shifting the others out.  Folded in
a register of `n` bits, as a fixed-width integer is, the result is the packed number
modulo `2 ^ n`.

Definitions are total; that the values fit their widths is a hypothesis of the
theorems.

**Results.**
* `pack_cons`, `pack_append`: the first field is the most significant.
* `pack_lt`: fitting fields pack below `2 ^ width`.
* `pack_lt_pack_iff_lex`: on fitting fields of the same widths, `<` on the packed
  numbers is `List.Lex (· < ·)` on the values.
* `field_pack`, `unpack_pack`: `x * 2 ^ (n - left) % 2 ^ n / 2 ^ (n - w)` reads back
  the field of width `w` that has `left` bits from it to the end.
* `packMod_eq`: the fold in a register of `n` bits is `pack % 2 ^ n`.
-/

namespace Packing

/-- The total width of the fields. -/
def width
    (fs : List (Nat × Nat)) : Nat :=
  (fs.map Prod.fst).sum

/-- One step of the packing: shift the accumulator past the field and add its value. -/
def packStep
    (acc : Nat)
    (f : Nat × Nat) : Nat :=
  acc * 2 ^ f.1 + f.2

/-- The fields packed most significant first. -/
def pack
    (fs : List (Nat × Nat)) : Nat :=
  fs.foldl packStep 0

/-- The same step in a register of `n` bits: both the shift and the addition wrap. -/
def packStepMod
    (n : Nat)
    (acc : Nat)
    (f : Nat × Nat) : Nat :=
  (acc * 2 ^ f.1 % 2 ^ n + f.2) % 2 ^ n

/-- The packing in a register of `n` bits. -/
def packMod
    (n : Nat)
    (fs : List (Nat × Nat)) : Nat :=
  fs.foldl (packStepMod n) 0

/-- Every value is below two to its width. -/
def Fits
    (fs : List (Nat × Nat)) : Prop :=
  ∀ f ∈ fs, f.2 < 2 ^ f.1

@[simp] theorem width_nil : width [] = 0 := rfl

@[simp] theorem width_cons
    (f : Nat × Nat)
    (fs : List (Nat × Nat)) :
    width (f :: fs) = f.1 + width fs := by
  simp [width]

@[simp] theorem width_append
    (fs gs : List (Nat × Nat)) :
    width (fs ++ gs) = width fs + width gs := by
  simp [width]

theorem Fits.cons_iff
    {f : Nat × Nat}
    {fs : List (Nat × Nat)} :
    Fits (f :: fs) ↔ f.2 < 2 ^ f.1 ∧ Fits fs := by
  simp [Fits]

theorem Fits.append_iff
    {fs gs : List (Nat × Nat)} :
    Fits (fs ++ gs) ↔ Fits fs ∧ Fits gs := by
  simp only [Fits, List.mem_append]
  constructor
  · intro h
    exact ⟨fun f hf => h f (.inl hf), fun f hf => h f (.inr hf)⟩
  · rintro ⟨hfs, hgs⟩ f (hf | hf)
    · exact hfs f hf
    · exact hgs f hf

/-! ### The packed number -/

/-- Folding from any accumulator shifts it past all the fields. -/
theorem foldl_packStep
    (fs : List (Nat × Nat)) :
    ∀ acc, fs.foldl packStep acc = acc * 2 ^ width fs + pack fs := by
  induction fs with
  | nil =>
      intro acc
      simp [pack]
  | cons f fs ih =>
      intro acc
      have hfs : pack (f :: fs) = f.2 * 2 ^ width fs + pack fs := by
        rw [pack, List.foldl_cons, ih, packStep, Nat.zero_mul, Nat.zero_add]
      rw [List.foldl_cons, ih, hfs, packStep, width_cons, Nat.pow_add]
      ring

@[simp] theorem pack_nil : pack [] = 0 := rfl

theorem pack_cons
    (w v : Nat)
    (fs : List (Nat × Nat)) :
    pack ((w, v) :: fs) = v * 2 ^ width fs + pack fs := by
  rw [pack, List.foldl_cons, foldl_packStep, packStep, Nat.zero_mul, Nat.zero_add]

theorem pack_append
    (fs gs : List (Nat × Nat)) :
    pack (fs ++ gs) = pack fs * 2 ^ width gs + pack gs := by
  rw [pack, List.foldl_append, foldl_packStep]
  rfl

/-- A value below `2 ^ w` followed by a number below `B` stays below `2 ^ w * B`. -/
theorem mul_add_lt_of_lt
    {v w p B : Nat}
    (hv : v < 2 ^ w)
    (hp : p < B) :
    v * B + p < 2 ^ w * B := by
  calc v * B + p
      < v * B + B := Nat.add_lt_add_left hp _
    _ = (v + 1) * B := by ring
    _ ≤ 2 ^ w * B := Nat.mul_le_mul_right B hv

theorem pack_lt
    {fs : List (Nat × Nat)}
    (h : Fits fs) :
    pack fs < 2 ^ width fs := by
  induction fs with
  | nil => simp
  | cons f fs ih =>
      obtain ⟨w, v⟩ := f
      obtain ⟨hv, hfs⟩ := Fits.cons_iff.mp h
      rw [pack_cons, width_cons, Nat.pow_add]
      exact mul_add_lt_of_lt hv (ih hfs)

/-! ### Order -/

/-- Two numbers written with the same base `B` compare by their high digits first. -/
theorem mul_add_lt_mul_add_iff
    {v u p q B : Nat}
    (hp : p < B)
    (hq : q < B) :
    v * B + p < u * B + q ↔ v < u ∨ v = u ∧ p < q := by
  constructor
  · intro hlt
    rcases Nat.lt_trichotomy v u with hvu | rfl | huv
    · exact .inl hvu
    · exact .inr ⟨rfl, by omega⟩
    · -- a larger high digit outweighs any low digit
      have hle : (u + 1) * B ≤ v * B := Nat.mul_le_mul_right B huv
      have : u * B + q < (u + 1) * B := by
        rw [Nat.succ_mul]
        omega
      omega
  · rintro (hvu | ⟨rfl, hpq⟩)
    · have hle : (v + 1) * B ≤ u * B := Nat.mul_le_mul_right B hvu
      have : v * B + p < (v + 1) * B := by
        rw [Nat.succ_mul]
        omega
      omega
    · omega

/-- Comparing packed numbers is comparing the values lexicographically, for fitting
fields of the same widths. -/
theorem pack_lt_pack_iff_lex
    (fs : List (Nat × Nat)) :
    ∀ gs : List (Nat × Nat), fs.map Prod.fst = gs.map Prod.fst → Fits fs → Fits gs →
      (pack fs < pack gs ↔ List.Lex (· < ·) (fs.map Prod.snd) (gs.map Prod.snd)) := by
  induction fs with
  | nil =>
      intro gs hwidths _ _
      have hgs : gs = [] := List.map_eq_nil_iff.mp hwidths.symm
      subst hgs
      simp only [pack_nil, List.map_nil, lt_irrefl, false_iff]
      exact List.not_lex_nil
  | cons f fs ih =>
      intro gs hwidths hf hg
      cases gs with
      | nil => simp at hwidths
      | cons g gs =>
          obtain ⟨w, v⟩ := f
          obtain ⟨w', u⟩ := g
          simp only [List.map_cons, List.cons.injEq] at hwidths
          obtain ⟨rfl, hwidths⟩ := hwidths
          obtain ⟨-, hfs⟩ := Fits.cons_iff.mp hf
          obtain ⟨-, hgs⟩ := Fits.cons_iff.mp hg
          -- the later fields have the same total width, so both tails are digits below it
          have hwidth : width gs = width fs := by
            simp only [width, hwidths]
          have hp := pack_lt hfs
          have hq := pack_lt hgs
          rw [hwidth] at hq
          rw [pack_cons, pack_cons, hwidth, mul_add_lt_mul_add_iff hp hq, List.map_cons,
            List.map_cons, List.cons_lex_cons_iff, ih gs hwidths hfs hgs]

/-! ### Reading a field back -/

/-- Shifting left past the fields before one and then right past those after it reads
that field back, in a register at least as wide as all the fields. -/
theorem field_pack
    {n w v : Nat}
    (pre post : List (Nat × Nat))
    (hfits : Fits (pre ++ (w, v) :: post))
    (hn : width (pre ++ (w, v) :: post) ≤ n) :
    pack (pre ++ (w, v) :: post) * 2 ^ (n - width ((w, v) :: post)) % 2 ^ n / 2 ^ (n - w) = v := by
  obtain ⟨-, hrest⟩ := Fits.append_iff.mp hfits
  obtain ⟨hv, hpost⟩ := Fits.cons_iff.mp hrest
  have hpost_lt := pack_lt hpost
  simp only [width_append, width_cons] at hn
  set P := width post
  set R := pack post
  -- the packed number times the shift: the fields before move past `2 ^ n`
  have hsplit : pack (pre ++ (w, v) :: post) * 2 ^ (n - (w + P)) =
      pack pre * 2 ^ n + (v * 2 ^ (n - w) + R * 2 ^ (n - (w + P))) := by
    rw [pack_append, pack_cons, width_cons]
    have h1 : 2 ^ (w + P) * 2 ^ (n - (w + P)) = 2 ^ n := by
      rw [← Nat.pow_add]
      congr 1
      omega
    have h2 : 2 ^ P * 2 ^ (n - (w + P)) = 2 ^ (n - w) := by
      rw [← Nat.pow_add]
      congr 1
      omega
    calc (pack pre * 2 ^ (w + P) + (v * 2 ^ P + R)) * 2 ^ (n - (w + P))
        = pack pre * (2 ^ (w + P) * 2 ^ (n - (w + P))) +
            (v * (2 ^ P * 2 ^ (n - (w + P))) + R * 2 ^ (n - (w + P))) := by ring
      _ = pack pre * 2 ^ n + (v * 2 ^ (n - w) + R * 2 ^ (n - (w + P))) := by rw [h1, h2]
  -- what the later fields leave is below one unit of this field
  have hlow : R * 2 ^ (n - (w + P)) < 2 ^ (n - w) := by
    calc R * 2 ^ (n - (w + P))
        < 2 ^ P * 2 ^ (n - (w + P)) := Nat.mul_lt_mul_of_pos_right hpost_lt (Nat.two_pow_pos _)
      _ = 2 ^ (n - w) := by
          rw [← Nat.pow_add]
          congr 1
          omega
  have hfield : v * 2 ^ (n - w) + R * 2 ^ (n - (w + P)) < 2 ^ n := by
    have := mul_add_lt_of_lt hv hlow
    rwa [← Nat.pow_add, show w + (n - w) = n by omega] at this
  rw [width_cons, hsplit, Nat.mul_comm (pack pre), Nat.mul_add_mod, Nat.mod_eq_of_lt hfield,
    Nat.mul_comm v, Nat.mul_add_div (Nat.two_pow_pos _), Nat.div_eq_of_lt hlow, Nat.add_zero]

/-- The fields of widths `ws` read back from `x` in a register of `n` bits, the first
of them with `left` bits from its start to the end. -/
def unpack
    (n x : Nat) : Nat → List Nat → List Nat
  | _, [] => []
  | left, w :: ws => x * 2 ^ (n - left) % 2 ^ n / 2 ^ (n - w) :: unpack n x (left - w) ws

@[simp] theorem length_unpack
    (n x left : Nat)
    (ws : List Nat) :
    (unpack n x left ws).length = ws.length := by
  induction ws generalizing left with
  | nil => rfl
  | cons w ws ih => simp [unpack, ih]

/-- Reading the fields of `ws ++ vs` reads those of `ws`, then those of `vs` with the
bits of `ws` gone. -/
theorem unpack_append
    (n x : Nat) :
    ∀ (left : Nat) (ws vs : List Nat),
      unpack n x left (ws ++ vs) = unpack n x left ws ++ unpack n x (left - ws.sum) vs := by
  intro left ws
  induction ws generalizing left with
  | nil =>
      intro vs
      simp [unpack]
  | cons w ws ih =>
      intro vs
      rw [List.cons_append, unpack, unpack, ih, List.sum_cons, Nat.sub_sub, List.cons_append]

/-- Reading back the fields after any `pre` gives their values. -/
theorem unpack_pack_append
    (n : Nat) :
    ∀ (fs pre : List (Nat × Nat)), Fits (pre ++ fs) → width (pre ++ fs) ≤ n →
      unpack n (pack (pre ++ fs)) (width fs) (fs.map Prod.fst) = fs.map Prod.snd := by
  intro fs
  induction fs with
  | nil =>
      intro pre _ _
      rfl
  | cons f fs ih =>
      intro pre hfits hn
      obtain ⟨w, v⟩ := f
      -- the field itself is `field_pack`; the rest is read after `pre ++ [(w, v)]`
      have hpre : pre ++ (w, v) :: fs = (pre ++ [(w, v)]) ++ fs := by simp
      have hleft : width ((w, v) :: fs) - w = width fs := by simp
      rw [List.map_cons, List.map_cons, unpack, field_pack pre fs hfits hn, hleft, hpre,
        ih _ (hpre ▸ hfits) (hpre ▸ hn)]

/-- Fitting fields in a wide enough register are read back as they were packed. -/
theorem unpack_pack
    {n : Nat}
    {fs : List (Nat × Nat)}
    (hfits : Fits fs)
    (hn : width fs ≤ n) :
    unpack n (pack fs) (width fs) (fs.map Prod.fst) = fs.map Prod.snd :=
  unpack_pack_append n fs [] hfits hn

/-! ### In a fixed-width register -/

theorem packStepMod_mod
    (n acc : Nat)
    (f : Nat × Nat) :
    packStepMod n (acc % 2 ^ n) f = packStep acc f % 2 ^ n := by
  simp only [packStepMod, packStep, Nat.add_mod, Nat.mod_mod, Nat.mul_mod (acc % 2 ^ n),
    Nat.mul_mod acc]

theorem foldl_packStepMod
    (n : Nat)
    (fs : List (Nat × Nat)) :
    ∀ acc, fs.foldl (packStepMod n) (acc % 2 ^ n) = fs.foldl packStep acc % 2 ^ n := by
  induction fs with
  | nil =>
      intro acc
      rfl
  | cons f fs ih =>
      intro acc
      rw [List.foldl_cons, List.foldl_cons, packStepMod_mod, ih]

/-- The fold in a register of `n` bits is the packed number modulo `2 ^ n`. -/
theorem packMod_eq
    (n : Nat)
    (fs : List (Nat × Nat)) :
    packMod n fs = pack fs % 2 ^ n := by
  have h := foldl_packStepMod n fs 0
  rwa [Nat.zero_mod] at h

/-- Without overflow the register holds the packed number. -/
theorem packMod_eq_pack
    {n : Nat}
    {fs : List (Nat × Nat)}
    (hfits : Fits fs)
    (hn : width fs ≤ n) :
    packMod n fs = pack fs := by
  rw [packMod_eq, Nat.mod_eq_of_lt]
  calc pack fs < 2 ^ width fs := pack_lt hfits
    _ ≤ 2 ^ n := Nat.pow_le_pow_right (by decide) hn

end Packing
