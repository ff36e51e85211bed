import Mathlib.Data.Fintype.BigOperators
import Mathlib.Combinatorics.Colex

/-!
# Lossless codes expand some input

A compressor that can be inverted is an injective function on words.  If every
word it writes starts with the same nonempty magic, as the zlib and zstd formats
do, then it cannot keep every input of a given length within that length: the
words of length `n` outnumber the words of length at most `n` that carry the
magic.

**Results.**
* `exists_length_lt_of_injective`: for every length `n`, some input of length `n`
  has a longer code.
-/

namespace Codes

variable {α : Type*} [Fintype α] [DecidableEq α]

/-- The words shorter than `n`. -/
def shorterWords
    (n : Nat) : Finset (List α) :=
  Finset.univ.image (fun p : (Σ j : Fin n, List.Vector α j) => p.2.toList)

/-- A word shorter than `n` is one of `shorterWords n`. -/
theorem mem_shorterWords
    {n : Nat}
    {w : List α}
    (hw : w.length < n) :
    w ∈ shorterWords n := by
  simp only [shorterWords, Finset.mem_image, Finset.mem_univ, true_and]
  exact ⟨⟨⟨w.length, hw⟩, ⟨w, rfl⟩⟩, rfl⟩

/-- There are fewer words shorter than `n` than words of length `n`, over an
alphabet of at least two letters. -/
theorem card_shorterWords_lt
    (hcard : 2 ≤ Fintype.card α)
    (n : Nat) :
    (shorterWords n : Finset (List α)).card < Fintype.card α ^ n := by
  calc (shorterWords n : Finset (List α)).card
      ≤ Fintype.card (Σ j : Fin n, List.Vector α j) := Finset.card_image_le
    _ = ∑ j ∈ Finset.range n, Fintype.card α ^ j := by
        rw [Fintype.card_sigma]
        simp only [card_vector]
        exact Fin.sum_univ_eq_sum_range (fun j => Fintype.card α ^ j) n
    _ < Fintype.card α ^ n := Nat.geomSum_lt hcard (fun k hk => Finset.mem_range.mp hk)

/-- An injective code whose words all start with a nonempty `magic` makes some input
of every length `n` longer: no such compressor keeps all inputs of length `n`
within `n` bytes. -/
theorem exists_length_lt_of_injective
    (hcard : 2 ≤ Fintype.card α)
    {f : List α → List α}
    (hf : Function.Injective f)
    {magic : List α}
    (hmagic : magic ≠ [])
    (hstart : ∀ x, magic <+: f x)
    (n : Nat) :
    ∃ x : List α, x.length = n ∧ n < (f x).length := by
  by_contra hno
  simp only [not_exists, not_and, not_lt] at hno
  -- the code without its magic, on the inputs of length `n`
  let g : List.Vector α n → List α := fun v => (f v.toList).drop magic.length
  have hsplit : ∀ x, f x = magic ++ (f x).drop magic.length := fun x => by
    obtain ⟨t, ht⟩ := hstart x
    rw [← ht, List.drop_left]
  have hg : Function.Injective g := by
    intro v w hvw
    apply List.Vector.toList_injective
    apply hf
    rw [hsplit v.toList, hsplit w.toList]
    exact congrArg (magic ++ ·) hvw
  have hshort : ∀ v : List.Vector α n, g v ∈ shorterWords n := by
    intro v
    have hle := hno v.toList v.toList_length
    have hpos : 0 < magic.length := List.length_pos_iff.mpr hmagic
    have hge : magic.length ≤ (f v.toList).length := (hstart v.toList).length_le
    apply mem_shorterWords
    simp only [g, List.length_drop]
    omega
  have hlt : (shorterWords n : Finset (List α)).card < (Finset.univ : Finset (List.Vector α n)).card := by
    rw [Finset.card_univ, card_vector]
    exact card_shorterWords_lt hcard n
  obtain ⟨v, -, w, -, hne, heq⟩ :=
    Finset.exists_ne_map_eq_of_card_lt_of_maps_to hlt (fun v _ => hshort v)
  exact hne (hg heq)

end Codes
