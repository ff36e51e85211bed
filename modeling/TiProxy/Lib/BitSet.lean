import Mathlib.Data.Fintype.Basic
import Mathlib.Order.SymmDiff

/-!
# Words as sets of bits

A word of flags stands for the set of the flags it has: bit `i` is in the set when
`getLsbD i` is set.  The bitwise operations on words are the operations on those sets:
`&&&` is the intersection, `|||` the union, `^^^` the symmetric difference and `~~~`
the complement, and two words with the same set are equal.  Statements about flag
words can then be made, and proved, about sets.

**Results.**
* `bitSet_injective`: a word is determined by its set of bits.
* `bitSet_and`, `bitSet_or`, `bitSet_xor`, `bitSet_not`, `bitSet_zero`: what each
  operation does to the sets.
-/

namespace BitSet

variable {w : Nat}

/-- The bits a word has. -/
def bitSet (x : BitVec w) : Finset (Fin w) :=
  Finset.univ.filter fun i => x.getLsbD i

@[simp] theorem mem_bitSet
    {x : BitVec w}
    {i : Fin w} :
    i ∈ bitSet x ↔ x.getLsbD i = true := by
  simp [bitSet]

theorem bitSet_injective :
    Function.Injective (bitSet : BitVec w → Finset (Fin w)) := by
  intro x y h
  apply BitVec.eq_of_getLsbD_eq
  intro i hi
  have hmem := congrArg (fun s => (⟨i, hi⟩ : Fin w) ∈ s) h
  simp only [mem_bitSet, eq_iff_iff] at hmem
  exact Bool.eq_iff_iff.mpr hmem

@[simp] theorem bitSet_and
    (x y : BitVec w) :
    bitSet (x &&& y) = bitSet x ∩ bitSet y := by
  ext i
  simp

@[simp] theorem bitSet_or
    (x y : BitVec w) :
    bitSet (x ||| y) = bitSet x ∪ bitSet y := by
  ext i
  simp

@[simp] theorem bitSet_xor
    (x y : BitVec w) :
    bitSet (x ^^^ y) = symmDiff (bitSet x) (bitSet y) := by
  ext i
  simp only [mem_bitSet, Finset.mem_symmDiff, BitVec.getLsbD_xor]
  cases x.getLsbD i <;> cases y.getLsbD i <;> decide

@[simp] theorem bitSet_not
    (x : BitVec w) :
    bitSet (~~~x) = (bitSet x)ᶜ := by
  ext i
  simp [i.isLt]

@[simp] theorem bitSet_zero :
    bitSet (0#w) = ∅ := by
  ext i
  simp

theorem eq_zero_iff_bitSet
    (x : BitVec w) :
    x = 0#w ↔ bitSet x = ∅ := by
  rw [← bitSet_zero, bitSet_injective.eq_iff]

end BitSet
